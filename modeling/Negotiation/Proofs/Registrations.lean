/-
# Negotiation.Proofs.Registrations -- what a registry holds after registrations

Registering adds a feature and changes nothing else, or it refuses a name that is taken.
A run of registrations is told by the members of the registry before and after it: it
succeeds exactly if all names differ, and the registry then holds the old features and
the new ones. Since a registry is told by its members, the order of the registrations
does not matter. A run that fails stops at the first feature whose name is taken by then.
-/

import Negotiation.Feature.Registry
import Negotiation.Proofs.ByteOrder
import Negotiation.Proofs.NameTables

namespace Negotiation.Registry

variable {r built : Registry} {f : Feature} {features before : List Feature} {e : Error}

/-! ## One registration -/

theorem register_eq_ok_iff : r.register f = .ok built ↔ built.toList.Perm (f :: r.toList) := by
  rw [← NameTable.insert?_eq_some_iff, register]
  cases NameTable.insert? r f <;> simp

theorem register_eq_error_iff :
    r.register f = .error e ↔
      f.name ∈ r.toList.map Feature.name
        ∧ e = Fault.invalidArgument (.featureTaken f.name) := by
  rw [← NameTable.insert?_eq_none_iff, register]
  cases NameTable.insert? r f <;> simp [eq_comm]

/-! ## Runs of registrations -/

/-- Features can be registered in turn: their names differ, and none is taken before. -/
def Admits (r : Registry) (features : List Feature) : Prop :=
  (features.map Feature.name).Nodup ∧ ∀ f ∈ features, r.get? f.name = none

theorem admits_iff_nodup :
    r.Admits features ↔ ((r.toList ++ features).map Feature.name).Nodup := by
  have hnone : ∀ f : Feature, r.get? f.name = none ↔ f.name ∉ r.toList.map Feature.name := fun f =>
    NameTable.find?_eq_none_iff
  rw [Admits, List.map_append, List.nodup_append']
  constructor
  · rintro ⟨hnodup, hfree⟩
    refine ⟨r.nodup_names, hnodup, ?_⟩
    intro name hname hnew
    obtain ⟨f, hf, rfl⟩ := List.mem_map.mp hnew
    exact (hnone f).mp (hfree f hf) hname
  · rintro ⟨-, hnodup, hdisjoint⟩
    refine ⟨hnodup, fun f hf => (hnone f).mpr fun hname => ?_⟩
    exact hdisjoint hname (List.mem_map_of_mem hf)

theorem admits_append_singleton_iff :
    r.Admits (before ++ [f]) ↔
      r.Admits before ∧ ¬(r.get? f.name ≠ none ∨ f.name ∈ before.map Feature.name) := by
  simp only [Admits, List.map_append, List.map_cons, List.map_nil, List.nodup_append',
    List.disjoint_singleton, List.nodup_singleton, true_and, List.forall_mem_append,
    List.forall_mem_singleton, not_or, not_not]
  tauto

/-- What one registration leaves can go on with the features that come next. -/
theorem admits_cons_iff (h : r.register f = .ok built) :
    r.Admits (f :: features) ↔ built.Admits features := by
  have hperm := NameTable.perm_append_of_filed (register_eq_ok_iff.mp h) features
  rw [admits_iff_nodup, admits_iff_nodup, (hperm.map Feature.name).nodup_iff]

theorem registerAll_cons (r : Registry) (f : Feature) (features : List Feature) :
    r.registerAll (f :: features) = (r.register f >>= fun r => r.registerAll features) :=
  List.foldlM_cons

theorem registerAll_append (r : Registry) (before after : List Feature) :
    r.registerAll (before ++ after) = (r.registerAll before >>= fun r => r.registerAll after) :=
  List.foldlM_append

/-- A run of registrations gives the registry with the old features and the new ones. -/
theorem registerAll_eq_ok_iff :
    r.registerAll features = .ok built ↔ built.toList.Perm (r.toList ++ features) := by
  induction features generalizing r with
  | nil =>
    rw [List.append_nil]
    constructor
    · rintro ⟨⟩
      exact List.Perm.refl _
    · intro h
      rw [NameTable.eq_of_perm h]
      rfl
  | cons f features ih =>
    rw [registerAll_cons]
    cases hf : r.register f with
    | ok next =>
      have hnext := NameTable.perm_append_of_filed (register_eq_ok_iff.mp hf) features
      show next.registerAll features = .ok built ↔ _
      rw [ih]
      exact ⟨fun h => h.trans hnext, fun h => h.trans hnext.symm⟩
    | error e =>
      -- the name is taken, so no registry holds both features
      obtain ⟨htaken, -⟩ := register_eq_error_iff.mp hf
      constructor
      · rintro ⟨⟩
      · intro h
        have hnodup := (h.map Feature.name).nodup_iff.mp built.nodup_names
        exact absurd htaken (NameTable.notMem_names_of_nodup hnodup)

theorem exists_registerAll_iff : (∃ built, r.registerAll features = .ok built) ↔
    r.Admits features := by
  rw [admits_iff_nodup, ← NameTable.exists_perm_iff]
  exact exists_congr fun built => registerAll_eq_ok_iff

/-- A run that fails stops at the first feature that cannot be added to those before it. -/
theorem registerAll_eq_error_iff :
    r.registerAll features = .error e ↔
      ∃ before f after, features = before ++ f :: after ∧ r.Admits before
        ∧ ¬r.Admits (before ++ [f]) ∧ e = Fault.invalidArgument (.featureTaken f.name) := by
  constructor
  · intro h
    induction features generalizing r with
    | nil => cases h
    | cons f features ih =>
      rw [registerAll_cons] at h
      cases hf : r.register f with
      | error e' =>
        rw [hf] at h
        obtain rfl : e' = e := Except.error.inj h
        refine ⟨[], f, features, rfl, ⟨List.nodup_nil, by simp⟩, ?_,
          (register_eq_error_iff.mp hf).2⟩
        intro hadmits
        obtain ⟨built, hbuilt⟩ := exists_registerAll_iff.mpr hadmits
        rw [List.nil_append, registerAll_cons, hf] at hbuilt
        cases hbuilt
      | ok next =>
        rw [hf] at h
        obtain ⟨before, g, after, rfl, hbefore, hg, he⟩ := ih h
        exact ⟨f :: before, g, after, rfl, (admits_cons_iff hf).mpr hbefore,
          fun hadmits => hg ((admits_cons_iff hf).mp hadmits), he⟩
  · rintro ⟨before, f, after, rfl, hbefore, hf, rfl⟩
    obtain ⟨next, hnext⟩ := exists_registerAll_iff.mpr hbefore
    have hrest : ∀ rest, r.registerAll (before ++ rest) = next.registerAll rest := by
      intro rest
      rw [registerAll_append, hnext]
      rfl
    cases hreg : next.register f with
    | ok built =>
      -- then the feature could have been added
      refine absurd (exists_registerAll_iff.mp ⟨built, ?_⟩) hf
      rw [hrest, registerAll_cons, hreg]
      rfl
    | error e =>
      rw [hrest, registerAll_cons, hreg, (register_eq_error_iff.mp hreg).2]
      rfl

/-! ## Looking up -/

theorem get?_eq_some_iff {name : String} :
    r.get? name = some f ↔ f ∈ r.toList ∧ f.name = name :=
  NameTable.find?_eq_some_iff

theorem require_eq_ok_iff {name : String} : r.require name = .ok f ↔ r.get? name = some f := by
  unfold require
  cases r.get? name <;> simp

theorem require_eq_error_iff {name : String} :
    r.require name = .error e ↔
      r.get? name = none ∧ e = Fault.invalidArgument (.unknownFeature name) := by
  unfold require
  cases r.get? name <;> simp [eq_comm]

theorem isSupported_eq_ok_iff {name : String} {v : Version} {b : Bool} :
    (r.isSupported name v).value = .ok b ↔
      ∃ f, r.get? name = some f ∧ (f.isSupported v).value = b := by
  simp only [← require_eq_ok_iff, isSupported]
  cases r.require name with
  | error e =>
    constructor
    · rintro ⟨⟩
    · rintro ⟨_, ⟨⟩, _⟩
  | ok g =>
    constructor
    · rintro ⟨⟩
      exact ⟨g, rfl, rfl⟩
    · rintro ⟨_, ⟨⟩, rfl⟩
      rfl

theorem isSupported_eq_error_iff {name : String} {v : Version} :
    (r.isSupported name v).value = .error e ↔
      r.get? name = none ∧ e = Fault.invalidArgument (.unknownFeature name) := by
  rw [← require_eq_error_iff, isSupported]
  cases r.require name with
  | error e => constructor <;> rintro ⟨⟩ <;> rfl
  | ok g => constructor <;> rintro ⟨⟩

/-! ## The two starts -/

theorem nodup_names_wellKnown : (wellKnown.map Feature.name).Nodup := by
  decide

/-- None of the well-known features is lost to another one of its name. -/
theorem perm_standard : standard.toList.Perm wellKnown :=
  NameTable.perm_ofList nodup_names_wellKnown

/-! ## Append only -/

/-- A registry is an append-only map from names to features, whatever it holds at the
start. The empty start holds nothing, and the standard one the well-known features.

* Features can be registered in turn exactly if their names differ and none is taken
  at the start. Else the run fails with the first feature whose name is taken by then.
* Else the registry holds what it held at the start and the new features, in the order
  of the bytes of their names. Any order of the registrations leads to it.
* All ways to look a name up agree: a name that no feature has is an invalid argument
  where a feature is required. -/
theorem append_only :
    (∅ : Registry).toList = [] ∧ standard.toList.Perm wellKnown
    ∧ ∀ (start : Registry) (features : List Feature),
      ((∃ built, start.registerAll features = .ok built) ↔
        (features.map Feature.name).Nodup ∧ ∀ f ∈ features, start.get? f.name = none)
      ∧ (∀ e, start.registerAll features = .error e ↔
          ∃ before f after, features = before ++ f :: after
            ∧ (before.map Feature.name).Nodup ∧ (∀ g ∈ before, start.get? g.name = none)
            ∧ (start.get? f.name ≠ none ∨ f.name ∈ before.map Feature.name)
            ∧ e = Fault.invalidArgument (.featureTaken f.name))
      ∧ ∀ built, start.registerAll features = .ok built →
          built.toList.Perm (start.toList ++ features)
          ∧ (built.toList.Pairwise fun f g => Text.bytes f.name < Text.bytes g.name)
          ∧ built.size = start.size + features.length
          ∧ (built.isEmpty = true ↔ built.size = 0)
          ∧ (∀ others, others.Perm features → start.registerAll others = .ok built)
          ∧ ∀ name,
            (∀ f, built.get? name = some f ↔ (f ∈ start.toList ∨ f ∈ features) ∧ f.name = name)
            ∧ (∀ f, built.require name = .ok f ↔ built.get? name = some f)
            ∧ (∀ e, built.require name = .error e ↔
                built.get? name = none ∧ e = Fault.invalidArgument (.unknownFeature name))
            ∧ ∀ v,
              (∀ b, (built.isSupported name v).value = .ok b ↔
                ∃ f, built.get? name = some f ∧ (f.isSupported v).value = b)
              ∧ (∀ e, (built.isSupported name v).value = .error e ↔
                  built.get? name = none
                    ∧ e = Fault.invalidArgument (.unknownFeature name)) := by
  refine ⟨rfl, perm_standard, ?_⟩
  intro start features
  refine ⟨exists_registerAll_iff, ?_, ?_⟩
  · intro e
    rw [registerAll_eq_error_iff]
    refine exists_congr fun before => exists_congr fun f => exists_congr fun after => ?_
    rw [admits_append_singleton_iff, Admits]
    tauto
  · intro built hbuilt
    have hperm := registerAll_eq_ok_iff.mp hbuilt
    refine ⟨hperm, ?_, ?_, ?_, ?_, ?_⟩
    · exact built.sorted.imp Text.lt_iff_bytes_lt.mp
    · simpa [NameTable.size] using hperm.length_eq
    · simp [NameTable.isEmpty, NameTable.size]
    · intro others hothers
      exact registerAll_eq_ok_iff.mpr (hperm.trans (hothers.symm.append_left start.toList))
    · intro name
      refine ⟨?_, fun f => require_eq_ok_iff, fun e => require_eq_error_iff, ?_⟩
      · intro f
        rw [get?_eq_some_iff, hperm.mem_iff, List.mem_append]
      · intro v
        exact ⟨fun b => isSupported_eq_ok_iff, fun e => isSupported_eq_error_iff⟩

end Negotiation.Registry
