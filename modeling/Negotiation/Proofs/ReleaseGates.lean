/-
# Negotiation.Proofs.ReleaseGates -- features that come with a release

Most features come with a release, and name it without a tag. The servers that have such
a feature are those of a later release, the release itself, and builds with commits after
it. No other tag of the release will do: a candidate is not yet the release, however many
commits it has, and a plain tag says nothing that would help. On every other release tags
make no difference.

The rank of an untagged release is the lowest of its group, so what stands at or above it
in the release is the group. Whether a tag belongs to the group shows in its text: it is a
commit suffix, after a `-` or not, whose count fits. Such a text does not start with a
letter, so none of its cuts has a candidate.
-/

import Negotiation.Proofs.FeatureDecisions
import Negotiation.Proofs.ParserAgreement

namespace Negotiation

open Numeral (IsDigits)

/-! ## Releases by their numbers -/

namespace Release

/-- The first number in which the two differ is lower. -/
def Precedes (r s : Release) : Prop :=
  r.major < s.major
    ∨ r.major = s.major ∧ (r.minor < s.minor ∨ r.minor = s.minor ∧ r.patch < s.patch)

theorem compare_eq_lt_iff {r s : Release} : compare r s = .lt ↔ r.Precedes s := by
  show (compare r.major s.major).then
    ((compare r.minor s.minor).then (compare r.patch s.patch)) = .lt ↔ _
  simp only [Ordering.then_eq_lt, Std.compare_eq_lt, Std.compare_eq_iff_eq, Precedes]

end Release

/-! ## The group of the release -/

namespace Rank

theorem isLE_compare_none {α : Type} [Ord α] (x : Option α) : (compare none x).isLE = true := by
  cases x <;> rfl

/-- The rank of an untagged release is the lowest of its group. -/
theorem isLE_released_iff {r : Rank} :
    (compare ({ tier := .released } : Rank) r).isLE = true ↔ r.tier = .released := by
  cases htier : r.tier with
  | candidate =>
    rw [compare_of_tier_ne (by simp [htier]), htier]
    decide
  | plain =>
    rw [compare_of_tier_ne (by simp [htier]), htier]
    decide
  | released => simp [compare_def, htier, Ordering.isLE_then_iff_and, isLE_compare_none]

end Rank

namespace Version

variable {v w : Version}

/-- The release itself, or a build with commits after it. -/
def IsReleased (v : Version) : Prop :=
  v.preRelease = none
    ∨ ∃ text tag, v.preRelease = some (.build text tag) ∧ tag.candidate = none

/-- A version of a later release, or the release itself, or a build after it. -/
def Reaches (v : Version) (r : Release) : Prop :=
  r.Precedes v.release ∨ v.release = r ∧ v.IsReleased

theorem tier_rank_eq_released_iff : v.rank.tier = .released ↔ v.IsReleased := by
  rcases h : v.preRelease with _ | ⟨text⟩ | ⟨text, tag⟩
  · simp [rank_of_none h, IsReleased, h]
  · simp [rank_of_plain h, IsReleased, h]
  · cases hn : tag.candidate with
    | some n => simp [rank_of_candidate h hn, IsReleased, h, hn]
    | none =>
      obtain ⟨c, -, hrank⟩ := rank_of_later h hn
      simp [hrank, IsReleased, h, hn]

/-- What comes not before an untagged version. -/
theorem le_iff_reaches (hw : w.tag = none) : w ≤ v ↔ v.Reaches w.release := by
  have hnone : w.preRelease = none := by simp [preRelease, hw]
  show (compare w v).isLE = true ↔ _
  rw [compare_eq_compare_rank, Ordering.isLE_then_iff_or, Release.compare_eq_lt_iff,
    Release.compare_eq_iff, rank_of_none hnone, Rank.isLE_released_iff, tier_rank_eq_released_iff,
    Reaches, eq_comm (a := w.release)]

theorem lt_iff_not_reaches (hw : w.tag = none) : v < w ↔ ¬v.Reaches w.release := by
  rw [← le_iff_reaches hw]
  exact ⟨Std.OrientedCmp.not_isLE_of_lt, Std.OrientedCmp.lt_of_not_isLE⟩

/-- Within its own release only the group of a version counts. -/
theorem reaches_iff_isReleased {r : Release} (h : v.release = r) :
    v.Reaches r ↔ v.IsReleased := by
  subst h
  have hirrefl : ¬v.release.Precedes v.release := by
    rw [← Release.compare_eq_lt_iff, Std.ReflOrd.compare_self]
    decide
  simp [Reaches, hirrefl]

/-- In any other release only the numbers count. -/
theorem reaches_iff_precedes {r : Release} (h : v.release ≠ r) :
    v.Reaches r ↔ r.Precedes v.release := by
  simp [Reaches, h]

/-! ## Tags of builds after a release -/

/-- A commit suffix, after a `-` or not, with a count that fits. -/
def IsLaterTag (text : String) : Prop :=
  ∃ separator count hash,
    text.toList = TagCut.separatorText separator ++ (count ++ '-' :: 'g' :: hash)
      ∧ IsDigits count ∧ Numeral.value count < UInt32.size ∧ Commits.IsHash hash

theorem isLaterTag_of_build {text : String} {tag : BuildTag}
    (h : PreRelease.ofText text = .build text tag) (hn : tag.candidate = none) :
    IsLaterTag text := by
  obtain ⟨⟨candidate, separator, commits⟩, hfirst, hmeans⟩ := PreRelease.ofText_eq_build_iff.mp h
  obtain ⟨hpart, hfits⟩ := TagCut.exists_means_iff.mp ⟨tag, hmeans⟩
  obtain ⟨htext, -, hcommits⟩ := hfirst.spells
  have hvalue := hmeans.candidate
  dsimp only at htext hcommits hvalue
  obtain rfl : candidate = none := by
    rw [hn] at hvalue
    exact Option.map_eq_none_iff.mp hvalue.symm
  -- without a candidate the part of the cut is its suffix
  obtain ⟨⟨count, hash⟩, rfl⟩ := Option.isSome_iff_exists.mp (hpart.resolve_left (by simp))
  exact ⟨separator, count, hash, htext, (hcommits _ rfl).1, hfits count (by simp [TagCut.numbers]),
    (hcommits _ rfl).2⟩

theorem exists_build_of_isLaterTag {text : String} (h : IsLaterTag text) :
    ∃ tag, PreRelease.ofText text = .build text tag ∧ tag.candidate = none := by
  obtain ⟨separator, count, hash, htext, hcount, hfits, hhash⟩ := h
  have hspells : TagCut.Spells ⟨none, separator, some (count, hash)⟩ text.toList := by
    refine ⟨htext, by simp [TagCut.IsMarker], ?_⟩
    rintro _ ⟨⟩
    exact ⟨hcount, hhash⟩
  have hfirst : TagCut.IsFirst ⟨none, separator, some (count, hash)⟩ text.toList := by
    refine hspells.isFirst fun c' h' => ?_
    rw [BuildVersion.Tail.candidate_eq_none_of_spells hspells rfl h']
  obtain ⟨tag, hmeans⟩ := TagCut.exists_means_iff.mpr
    ⟨Or.inr rfl, show TagCut.Fits ⟨none, separator, some (count, hash)⟩ by
      simpa [TagCut.Fits, TagCut.numbers] using hfits⟩
  exact ⟨tag, PreRelease.ofText_eq_build_iff.mpr ⟨_, hfirst, hmeans⟩,
    Option.map_eq_none_iff.mp hmeans.candidate⟩

/-- The group of the release by the texts of tags. -/
theorem isReleased_iff : v.IsReleased ↔ ∀ text ∈ v.tag, IsLaterTag text := by
  cases htag : v.tag with
  | none => simp [IsReleased, preRelease, htag]
  | some text =>
    have hread : v.preRelease = some (PreRelease.ofText text) := by simp [preRelease, htag]
    constructor
    · rintro (hnone | ⟨written, tag, hbuild, hn⟩) _ ⟨⟩
      · rw [hread] at hnone
        cases hnone
      · have hofText := Option.some.inj (hread.symm.trans hbuild)
        obtain rfl : text = written := by
          rw [← PreRelease.text_ofText text, hofText]
          rfl
        exact isLaterTag_of_build hofText hn
    · intro h
      obtain ⟨tag, hbuild, hn⟩ := exists_build_of_isLaterTag (h text rfl)
      exact Or.inr ⟨text, tag, hread.trans (congrArg some hbuild), hn⟩

end Version

/-! ## Features of a release -/

namespace Feature

variable {f : Feature} {v w t : Version}

theorem isSupported_iff_reaches (hf : f.firstSupported.tag = none) :
    (f.isSupported v).value = true ↔ v.Reaches f.firstSupported.release :=
  isSupported_iff.trans (Version.le_iff_reaches hf)

theorem mustReject_iff_not_reaches (hf : f.threshold = some t) (ht : t.tag = none) :
    (f.mustReject v).value = true ↔ ¬v.Reaches t.release := by
  rw [← Version.lt_iff_not_reaches ht, mustReject_iff]
  simp [hf]

/-- The well-known features come with releases, and so do their thresholds. -/
theorem tag_eq_none_of_wellKnown :
    ∀ f ∈ Registry.wellKnown, f.firstSupported.tag = none ∧ ∀ t ∈ f.threshold, t.tag = none := by
  decide

/-- Which servers have a feature that comes with a release, whatever tags they report:

* those of a later release, by the first number that differs, those of the release itself
  without a tag, and those with a build tag that has no candidate. The texts of such tags
  are commit suffixes, after a `-` or not, with a count that fits;
* hence of the release itself no candidate has it, with or without commits, and no plain
  tag, while builds after it do; and on any other release tags make no difference.

If the threshold of a feature is a release, asking for it is refused exactly on servers
that do not reach this release in the same sense. All well-known features and their
thresholds are such. -/
theorem gates_of_releases (f : Feature) :
    (f.firstSupported.tag = none →
      (∀ v : Version, (f.isSupported v).value = true ↔ v.Reaches f.firstSupported.release)
      ∧ (∀ v : Version, v.release = f.firstSupported.release →
          (v.preRelease = none → (f.isSupported v).value = true)
          ∧ (∀ text, v.preRelease = some (.plain text) → (f.isSupported v).value = false)
          ∧ ∀ text tag, v.preRelease = some (.build text tag) →
              ((f.isSupported v).value = true ↔ tag.candidate = none))
      ∧ ∀ v w : Version, v.release = w.release → v.release ≠ f.firstSupported.release →
          f.isSupported v = f.isSupported w)
    ∧ (∀ t, f.threshold = some t → t.tag = none →
        ∀ v : Version, (f.mustReject v).value = true ↔ ¬v.Reaches t.release)
    ∧ (∀ v : Version, v.IsReleased ↔ ∀ text ∈ v.tag, Version.IsLaterTag text)
    ∧ (f ∈ Registry.wellKnown →
        f.firstSupported.tag = none ∧ ∀ t ∈ f.threshold, t.tag = none) := by
  refine ⟨?_, ?_, fun v => Version.isReleased_iff, tag_eq_none_of_wellKnown f⟩
  · intro hf
    refine ⟨fun v => isSupported_iff_reaches hf, ?_, ?_⟩
    · intro v hv
      have hgroup : (f.isSupported v).value = true ↔ v.IsReleased :=
        (isSupported_iff_reaches hf).trans (Version.reaches_iff_isReleased hv)
      refine ⟨?_, ?_, ?_⟩
      · intro hnone
        exact hgroup.mpr (Or.inl hnone)
      · intro text hplain
        rw [← Bool.not_eq_true, hgroup]
        simp [Version.IsReleased, hplain]
      · intro text tag hbuild
        rw [hgroup]
        simp [Version.IsReleased, hbuild]
    · intro v w hvw hv
      have hvalue : (f.isSupported v).value = (f.isSupported w).value := by
        rw [Bool.eq_iff_iff, isSupported_iff_reaches hf, isSupported_iff_reaches hf,
          Version.reaches_iff_precedes hv, Version.reaches_iff_precedes (hvw ▸ hv), hvw]
      exact congrArg Reported.quiet hvalue
  · intro t hthreshold ht v
    exact mustReject_iff_not_reaches hthreshold ht

-- a candidate with commits is not yet the release, a build after it is
example :
    [Version.tagged 4 4 0 "rc1-99-gabcd", .tagged 4 4 0 "-0-gabcd", .tagged 4 4 0 "beta"].map
      (fun v => ((Feature.mk "gate" (.final 4 4 0) none).isSupported v).value)
      = [false, true, false] := by
  decide

end Feature

end Negotiation
