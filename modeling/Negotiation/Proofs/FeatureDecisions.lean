/-
# Negotiation.Proofs.FeatureDecisions -- newer servers can do more

A feature decides about a server by comparing its version with two versions of its own,
and the two may stand in either order. All answers about a feature are drawn from these
two comparisons. Since versions are totally ordered, whatever their tags, the comparisons
can change only once on the way from older to newer versions: a feature that is there
stays there, and a hint is first refused, then left out, and in the end sent.
-/

import Negotiation.Proofs.Rank
import Negotiation.Proofs.Registrations

namespace Negotiation

/-! ## The two comparisons -/

namespace Version

variable {u v w : Version}

theorem le_trans (huv : u ≤ v) (hvw : v ≤ w) : u ≤ w :=
  Std.TransOrd.isLE_trans huv hvw

theorem lt_of_le_of_lt (huv : u ≤ v) (hvw : v < w) : u < w :=
  Std.TransCmp.lt_of_isLE_of_lt huv hvw

end Version

namespace Feature

variable {f : Feature} {v w : Version}

theorem isSupported_iff : (f.isSupported v).value = true ↔ f.firstSupported ≤ v :=
  Std.OrientedCmp.isGE_iff_isLE

theorem mustReject_iff : (f.mustReject v).value = true ↔ ∃ t, f.threshold = some t ∧ v < t := by
  unfold mustReject
  cases f.threshold with
  | none => simp
  | some t =>
    simp only [Reported.value_pure, Ordering.isLT_iff_eq_lt, Option.some.injEq, exists_eq_left']
    exact Iff.rfl

theorem isSupported_mono (h : v ≤ w) (hv : (f.isSupported v).value = true) :
    (f.isSupported w).value = true :=
  isSupported_iff.mpr (Version.le_trans (isSupported_iff.mp hv) h)

theorem mustReject_anti (h : v ≤ w) (hw : (f.mustReject w).value = true) :
    (f.mustReject v).value = true := by
  obtain ⟨t, ht, hlt⟩ := mustReject_iff.mp hw
  exact mustReject_iff.mpr ⟨t, ht, Version.lt_of_le_of_lt h hlt⟩

/-! ## Asking for a feature -/

theorem ensureSupported_cases (f : Feature) (v : Version) :
    ((f.isSupported v).value = true ∧ f.ensureSupported v = .quiet (.ok ()))
      ∨ ((f.isSupported v).value = false ∧ f.ensureSupported v = f.reject v f.firstSupported) := by
  cases h : (f.isSupported v).value with
  | true => exact Or.inl ⟨rfl, by rw [ensureSupported_eq, if_pos h]⟩
  | false => exact Or.inr ⟨rfl, by rw [ensureSupported_eq, h]; rfl⟩

/-- A hint is sent if the feature is there. Else it is refused below the threshold, as the
server would have to be of that version, and left out from there on. -/
theorem checkHint_cases (f : Feature) (v : Version) :
    ((f.isSupported v).value = true ∧ f.checkHint v = .quiet (.ok .include))
      ∨ ((f.isSupported v).value = false ∧ (f.mustReject v).value = true
          ∧ ∃ t, f.threshold = some t ∧ f.checkHint v = f.reject v t)
      ∨ ((f.isSupported v).value = false ∧ (f.mustReject v).value = false
          ∧ f.checkHint v = .quiet (.ok .omit)) := by
  cases h : (f.isSupported v).value with
  | true => exact Or.inl ⟨rfl, by rw [checkHint_eq, if_pos h]⟩
  | false =>
    right
    cases ht : f.threshold with
    | none => exact Or.inr ⟨rfl, by simp [mustReject, ht], by simp [checkHint_eq, h, ht]⟩
    | some t =>
      cases hlt : (compare v t).isLT with
      | true =>
        exact Or.inl ⟨rfl, by simp [mustReject, ht, hlt], t, rfl,
          by simp [checkHint_eq, h, ht, hlt]⟩
      | false =>
        exact Or.inr ⟨rfl, by simp [mustReject, ht, hlt], by simp [checkHint_eq, h, ht, hlt]⟩

/-! ## Hints and versions -/

/-- How far a hint gets: it is refused, left out, or sent. -/
def reach : Outcome HintDisposition → Nat
  | .error _ => 0
  | .ok .omit => 1
  | .ok .include => 2

theorem reach_checkHint (f : Feature) (v : Version) :
    reach (f.checkHint v).value =
      if (f.isSupported v).value then 2 else if (f.mustReject v).value then 0 else 1 := by
  rcases f.checkHint_cases v with ⟨h, heq⟩ | ⟨h, hreject, t, -, heq⟩ | ⟨h, hreject, heq⟩
  · rw [heq, h]
    rfl
  · rw [heq, h, hreject]
    rfl
  · rw [heq, h, hreject]
    rfl

/-- On the way to newer servers a hint never gets less far. -/
theorem reach_checkHint_mono (f : Feature) (h : v ≤ w) :
    reach (f.checkHint v).value ≤ reach (f.checkHint w).value := by
  have hsupported : (f.isSupported v).value = true → (f.isSupported w).value = true :=
    isSupported_mono h
  have hreject : (f.mustReject w).value = true → (f.mustReject v).value = true :=
    mustReject_anti h
  rw [reach_checkHint, reach_checkHint]
  split
  · rename_i hv
    exact Nat.le_of_eq (if_pos (hsupported hv)).symm
  · split
    · exact Nat.zero_le _
    · -- a hint that the older server ignores is not refused by the newer one
      rename_i hv
      rw [if_neg fun hw => hv (hreject hw)]
      split <;> decide

end Feature

/-! ## Registries -/

theorem Registry.supported_sublist (r : Registry) {v w : Version} (h : v ≤ w) :
    (r.supported v).value.Sublist (r.supported w).value := by
  rw [supported_eq, supported_eq]
  exact List.monotone_filter_right r.toList fun _ hv => Feature.isSupported_mono h hv

/-! ## Decisions -/

/-- All answers about a feature agree, and they only improve with the version. This holds
of every feature, with or without a threshold and wherever the threshold stands, and of
all versions, whatever their tags.

* A server has the feature exactly if requiring it succeeds, and exactly if a hint is sent.
  A hint is refused, with an error about the server, exactly if the server does not have
  the feature and is older than the threshold; else it is left out.
* A newer server has each feature that an older one has, and is older than the threshold
  only if the older one is. A hint goes from refused to left out to sent, never back.
* Of every registry a newer server has at least the features that an older one has. -/
theorem decisions_monotone :
    (∀ (f : Feature) (v : Version),
      ((f.ensureSupported v).value = .ok () ↔ (f.isSupported v).value = true)
      ∧ ((f.checkHint v).value = .ok .include ↔ (f.isSupported v).value = true)
      ∧ ((∃ e, (f.checkHint v).value = .error e) ↔
          (f.isSupported v).value = false ∧ (f.mustReject v).value = true)
      ∧ (∀ e, (f.checkHint v).value = .error e → e.isIncompatibleServer = true)
      ∧ ((f.checkHint v).value = .ok .omit ↔
          (f.isSupported v).value = false ∧ (f.mustReject v).value = false))
    ∧ (∀ (f : Feature) (v w : Version), v ≤ w →
      ((f.isSupported v).value = true → (f.isSupported w).value = true)
      ∧ ((f.mustReject w).value = true → (f.mustReject v).value = true)
      ∧ Feature.reach (f.checkHint v).value ≤ Feature.reach (f.checkHint w).value)
    ∧ (∀ (r : Registry) (v w : Version), v ≤ w →
      (∀ name, (r.isSupported name v).value = .ok true → (r.isSupported name w).value = .ok true)
      ∧ (r.supported v).value.Sublist (r.supported w).value) := by
  refine ⟨?_, ?_, ?_⟩
  · intro f v
    refine ⟨?_, ?_⟩
    · rcases f.ensureSupported_cases v with ⟨h, heq⟩ | ⟨h, heq⟩ <;>
        simp [heq, h, Reported.quiet, Feature.reject]
    · rcases f.checkHint_cases v with ⟨h, heq⟩ | ⟨h, hreject, t, -, heq⟩ | ⟨h, hreject, heq⟩
      · simp [heq, h, Reported.quiet]
      · simp [heq, h, hreject, Feature.reject, Error.ofFault, Error.isIncompatibleServer,
          Error.fault]
      · simp [heq, h, hreject, Reported.quiet]
  · intro f v w h
    exact ⟨Feature.isSupported_mono h, Feature.mustReject_anti h, f.reach_checkHint_mono h⟩
  · intro r v w h
    refine ⟨?_, r.supported_sublist h⟩
    intro name hv
    obtain ⟨f, hf, hsupported⟩ := Registry.isSupported_eq_ok_iff.mp hv
    exact Registry.isSupported_eq_ok_iff.mpr ⟨f, hf, Feature.isSupported_mono h hsupported⟩

-- refused before the threshold, then left out, then sent
example :
    [Version.tagged 4 2 0 "rc1", .final 4 2 0, .tagged 4 3 4 "rc0", .tagged 4 3 4 "10-gabcdef1"].map
      (fun v => Feature.reach
        ((Feature.mk "hint" (.final 4 3 4) (some (.final 4 2 0))).checkHint v).value)
      = [0, 1, 1, 2] := by
  decide

end Negotiation
