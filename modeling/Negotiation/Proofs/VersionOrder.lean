/-
# Negotiation.Proofs.VersionOrder -- versions and builds are totally ordered

The order of versions is the order of releases followed by the order of ranks, so it
inherits the laws of an order on all versions, whatever their tags are. The same holds of
builds, whatever parts they are put together from.

The parts of builds are not simply compared one after the other: no release type is above
every type, while no commits and no hash are below all others, and a candidate number
counts only with a type. The second half says what each part does to the order.
-/

import Negotiation.Proofs.ByteOrder
import Negotiation.Proofs.Rank

namespace Negotiation.Version

/-- Versions are totally ordered, whatever their tags: none, any plain tag (also an
empty one, a lone `-`, or one whose numbers are too large), or any build tag. Every
version is equal to itself, comparing the other way round gives the opposite answer,
`≤` is total and transitive, and equal versions compare alike with every third. -/
theorem totally_ordered (a b c : Version) :
    compare a a = .eq
      ∧ compare b a = (compare a b).swap
      ∧ (a ≤ b ∨ b ≤ a)
      ∧ (a ≤ b → b ≤ c → a ≤ c)
      ∧ (compare a b = .eq → compare a c = compare b c) := by
  refine ⟨Std.ReflOrd.compare_self, Std.OrientedOrd.eq_swap, ?_, ?_, ?_⟩
  · -- if `a` is not below `b`, it is strictly above
    by_cases hab : (compare a b).isLE
    · exact Or.inl hab
    · have hba : compare b a = .lt := Std.OrientedCmp.lt_of_not_isLE hab
      refine Or.inr ?_
      show (compare b a).isLE = true
      rw [hba]
      rfl
  · intro hab hbc
    exact Std.TransOrd.isLE_trans hab hbc
  · intro hab
    exact Std.TransCmp.congr_left hab

end Negotiation.Version

namespace Negotiation.BuildVersion

variable {a b : BuildVersion}

theorem le_total (a b : BuildVersion) : a ≤ b ∨ b ≤ a := by
  show (compare a b).isLE = true ∨ (compare b a).isLE = true
  rw [Std.OrientedOrd.eq_swap (a := b)]
  cases compare a b <;> decide

/-! ## The parts of builds of one release -/

theorem compare_of_release_eq (hr : a.release = b.release) :
    compare a b = (compareType a b).then
      ((compare a.commits b.commits).then (compare a.commitHash b.commitHash)) := by
  rw [compare_def, Release.compare_eq_iff.mpr hr]
  rfl

/-- A release type puts a build below all builds without one. -/
theorem lt_of_releaseType (hr : a.release = b.release) (ha : a.releaseType.isSome)
    (hb : b.releaseType = none) : a < b := by
  obtain ⟨type, ha⟩ := Option.isSome_iff_exists.mp ha
  have htype : compareType a b = .lt := by simp [compareType, ha, hb]
  show compare a b = .lt
  rw [compare_of_release_eq hr, htype]
  rfl

/-- Between builds of one type and candidate number the commit suffix decides. -/
theorem compare_of_same_type (hr : a.release = b.release) (htype : a.releaseType = b.releaseType)
    (hcandidate : a.releaseType = none ∨ a.candidate = b.candidate) :
    compare a b = (compare a.commits b.commits).then (compare a.commitHash b.commitHash) := by
  have hsame : compareType a b = .eq := by
    cases ha : a.releaseType with
    | none => simp [compareType, ← htype, ha]
    | some type =>
      have hcandidate : a.candidate = b.candidate := hcandidate.resolve_left (by simp [ha])
      simp [compareType, ← htype, ha, hcandidate]
  rw [compare_of_release_eq hr, hsame]
  rfl

theorem lt_of_commits (hr : a.release = b.release) (htype : a.releaseType = b.releaseType)
    (hcandidate : a.releaseType = none ∨ a.candidate = b.candidate)
    (hcommits : compare a.commits b.commits = .lt) : a < b := by
  show compare a b = .lt
  rw [compare_of_same_type hr htype hcandidate, hcommits]
  rfl

theorem compare_of_same_commits (hr : a.release = b.release)
    (htype : a.releaseType = b.releaseType)
    (hcandidate : a.releaseType = none ∨ a.candidate = b.candidate)
    (hcommits : a.commits = b.commits) : compare a b = compare a.commitHash b.commitHash := by
  rw [compare_of_same_type hr htype hcandidate, hcommits, Std.ReflOrd.compare_self]
  rfl

theorem compare_some_of_bytes_lt {s t : String} (h : Text.bytes s < Text.bytes t) :
    compare (some s) (some t) = .lt := by
  show compareOfLessAndEq s t = .lt
  exact if_pos (Text.lt_iff_bytes_lt.mpr h)

/-- Builds are totally ordered, whatever they are put together from: also a candidate
number without a type, one half of a commit suffix without the other, and any texts for
the type and the hash. Every build is equal to itself, comparing the other way round gives
the opposite answer, `≤` is total and transitive, and equal builds compare alike with
every third.

Within one release a build with a release type is below every build without one, whatever
their commits and hashes are. Between builds of one type and candidate number no commits
are below any commits, and fewer below more; and only if these are the same the hash
decides, no hash below any hash, and hashes in the order of their bytes. -/
theorem ordered_by_parts :
    (∀ a b c : BuildVersion,
      compare a a = .eq
      ∧ compare b a = (compare a b).swap
      ∧ (a ≤ b ∨ b ≤ a)
      ∧ (a ≤ b → b ≤ c → a ≤ c)
      ∧ (compare a b = .eq → compare a c = compare b c))
    ∧ (∀ a b : BuildVersion, a.release = b.release →
        (a.releaseType.isSome → b.releaseType = none → a < b)
        ∧ (a.releaseType = b.releaseType → a.releaseType = none ∨ a.candidate = b.candidate →
            (a.commits = none → b.commits.isSome → a < b)
            ∧ (∀ m n, a.commits = some m → b.commits = some n → m < n → a < b)
            ∧ (a.commits = b.commits →
                compare a b = compare a.commitHash b.commitHash
                ∧ (a.commitHash = none → b.commitHash.isSome → a < b)
                ∧ ∀ s t, a.commitHash = some s → b.commitHash = some t →
                    Text.bytes s < Text.bytes t → a < b))) := by
  refine ⟨?_, ?_⟩
  · intro a b c
    exact ⟨Std.ReflOrd.compare_self, Std.OrientedOrd.eq_swap, le_total a b,
      Std.TransOrd.isLE_trans, Std.TransCmp.congr_left⟩
  · intro a b hr
    refine ⟨lt_of_releaseType hr, ?_⟩
    intro htype hcandidate
    refine ⟨?_, ?_, ?_⟩
    · intro ha hb
      obtain ⟨n, hb⟩ := Option.isSome_iff_exists.mp hb
      exact lt_of_commits hr htype hcandidate (by rw [ha, hb]; rfl)
    · intro m n ha hb hlt
      apply lt_of_commits hr htype hcandidate
      rw [ha, hb, Rank.compare_some]
      exact Std.compare_eq_lt.mpr hlt
    · intro hcommits
      have hhash := compare_of_same_commits hr htype hcandidate hcommits
      refine ⟨hhash, ?_, ?_⟩
      · intro ha hb
        obtain ⟨t, hb⟩ := Option.isSome_iff_exists.mp hb
        exact hhash.trans (by rw [ha, hb]; rfl)
      · intro s t ha hb hlt
        exact hhash.trans (by rw [ha, hb, compare_some_of_bytes_lt hlt])

-- the final release is above a candidate with commits, and below a build after it
example :
    compare ({ release := ⟨4, 2, 0⟩ } : BuildVersion)
        { release := ⟨4, 2, 0⟩, releaseType := some "rc", commits := some 10 } = .gt
      ∧ compare ({ release := ⟨4, 2, 0⟩ } : BuildVersion)
          { release := ⟨4, 2, 0⟩, commits := some 0 } = .lt := by
  decide

end Negotiation.BuildVersion
