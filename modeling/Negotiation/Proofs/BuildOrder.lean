/-
# Negotiation.Proofs.BuildOrder -- the order of versions and the order of their builds

Turning a version into its build forgets a plain tag and nothing else. So versions
without plain tags are ordered as their builds, and in general the order is kept but may
become coarser: a plain tag ends up where the release is.

Within one release there are four groups of versions. From the lowest to the highest:
candidates, with or without commits; plain tags; the release itself; and builds with
commits after the release.
-/

import Negotiation.Proofs.Rank

namespace Negotiation.Version

open BuildVersion (ofVersion)

variable {a b : Version} {text : String} {tag : BuildTag}

/-! ## Builds keep the order -/

/-- With a build tag on the left versions are compared as builds. -/
theorem compare_of_build (ha : a.preRelease = some (.build text tag)) (b : Version) :
    compare a b = compare (ofVersion a) (ofVersion b) := by
  rw [compare_eq_compare_rank, BuildVersion.compare_eq_compare_rank, release_ofVersion,
    release_ofVersion, compare_rank_ofVersion ha]

theorem ofVersion_of_no_build (h : ∀ text tag, a.preRelease ≠ some (.build text tag)) :
    ofVersion a = { release := a.release } := by
  rcases ha : a.preRelease with _ | ⟨plain⟩ | ⟨text, tag⟩
  · exact BuildVersion.ofVersion_of_none ha
  · exact BuildVersion.ofVersion_of_plain ha
  · exact absurd ha (h text tag)

/-- What comes not after in the order of versions comes not after as a build. -/
theorem ofVersion_le (h : a ≤ b) : ofVersion a ≤ ofVersion b := by
  have hle : (compare a b).isLE = true := h
  show (compare (ofVersion a) (ofVersion b)).isLE = true
  by_cases ha : ∃ text tag, a.preRelease = some (.build text tag)
  · obtain ⟨text, tag, ha⟩ := ha
    rwa [compare_of_build ha] at hle
  · by_cases hb : ∃ text tag, b.preRelease = some (.build text tag)
    · obtain ⟨text, tag, hb⟩ := hb
      rwa [Std.OrientedOrd.eq_swap, compare_of_build hb, ← Std.OrientedOrd.eq_swap] at hle
    · -- neither side has a build tag, so both builds are plain releases
      rw [ofVersion_of_no_build fun text tag h => ha ⟨text, tag, h⟩,
        ofVersion_of_no_build fun text tag h => hb ⟨text, tag, h⟩]
      have hbuilds : compare ({ release := a.release } : BuildVersion) { release := b.release }
          = compare a.release b.release := by
        rw [BuildVersion.compare_eq_compare_rank]
        exact Ordering.then_eq
      rw [hbuilds]
      rw [compare_eq_compare_rank] at hle
      cases hr : compare a.release b.release with
      | lt => rfl
      | eq => rfl
      | gt =>
        rw [hr] at hle
        cases hle

/-! ## The groups of one release -/

theorem lt_of_compare_rank (hr : a.release = b.release) (h : compare a.rank b.rank = .lt) :
    a < b := by
  show compare a b = .lt
  rw [compare_eq_compare_rank, Release.compare_eq_iff.mpr hr, h]
  rfl

theorem candidate_lt_plain (hr : a.release = b.release)
    (ha : a.preRelease = some (.build text tag)) (hn : tag.candidate.isSome) {plain : String}
    (hb : b.preRelease = some (.plain plain)) : a < b := by
  obtain ⟨n, hn⟩ := Option.isSome_iff_exists.mp hn
  refine lt_of_compare_rank hr ?_
  rw [rank_of_candidate ha hn, rank_of_plain hb]
  rfl

theorem plain_lt_release (hr : a.release = b.release) {plain : String}
    (ha : a.preRelease = some (.plain plain)) (hb : b.preRelease = none) : a < b := by
  refine lt_of_compare_rank hr ?_
  rw [rank_of_plain ha, rank_of_none hb]
  rfl

theorem release_lt_later (hr : a.release = b.release) (ha : a.preRelease = none)
    (hb : b.preRelease = some (.build text tag)) (hn : tag.candidate = none) : a < b := by
  obtain ⟨c, -, hrank⟩ := rank_of_later hb hn
  refine lt_of_compare_rank hr ?_
  rw [rank_of_none ha, hrank]
  rfl

/-- Versions without plain tags are ordered as their builds; for all versions builds keep
the order; and within one release candidates are below plain tags, plain tags below the
release, and the release below builds after it. -/
theorem ordered_as_builds :
    (∀ a b : Version, (∀ plain, a.preRelease ≠ some (.plain plain)) →
        (∀ plain, b.preRelease ≠ some (.plain plain)) →
        compare a b = compare (ofVersion a) (ofVersion b))
    ∧ (∀ a b : Version, a ≤ b → ofVersion a ≤ ofVersion b)
    ∧ (∀ a b : Version, a.release = b.release →
        (∀ text tag plain, a.preRelease = some (.build text tag) → tag.candidate.isSome →
          b.preRelease = some (.plain plain) → a < b)
        ∧ (∀ plain, a.preRelease = some (.plain plain) → b.preRelease = none → a < b)
        ∧ (∀ text tag, a.preRelease = none → b.preRelease = some (.build text tag) →
            tag.candidate = none → a < b)) := by
  refine ⟨fun a b => compare_eq_compare_ofVersion, fun a b => ofVersion_le, ?_⟩
  intro a b hr
  refine ⟨?_, ?_, ?_⟩
  · intro text tag plain ha hn hb
    exact candidate_lt_plain hr ha hn hb
  · intro plain ha hb
    exact plain_lt_release hr ha hb
  · intro text tag ha hb hn
    exact release_lt_later hr ha hb hn

-- a candidate is below any plain tag, though `a` comes first as a text
example : compare (tagged 4 2 0 "rc9-3-gabcd") (tagged 4 2 0 "a") = .lt := by decide

end Negotiation.Version
