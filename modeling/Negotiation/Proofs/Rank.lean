/-
# Negotiation.Proofs.Rank -- where a version stands within its release

The order of versions picks its rule by the pair it compares: with a build tag on
either side both versions turn into builds, and otherwise the tags are compared as
texts. A rank says the same without looking at the other side. It is read off one
version alone, ranks are compared field by field, and the order of versions is the
order of releases followed by the order of ranks. Builds have ranks too, and a
version without a plain tag has the rank of its build.

What makes this work is that a build tag always has a part. A build tag without a
candidate has commits, so it stands above the final release and never beside it;
plain tags then have a place of their own, between the candidates and the release.
-/

import Negotiation.Version.Order

namespace Negotiation

/-! ## Releases are ordered by their numbers -/

instance : Std.TransOrd Release :=
  inferInstanceAs (Std.TransCmp (compareLex (compareOn Release.major)
    (compareLex (compareOn Release.minor) (compareOn Release.patch))))

theorem Release.compare_eq_iff {r s : Release} : compare r s = .eq ↔ r = s := by
  cases r
  cases s
  show compareLex _ _ _ _ = .eq ↔ _
  simp only [compareLex_eq_eq, compareOn, Std.LawfulEqOrd.compare_eq_iff_eq, Release.mk.injEq]

/-! ## Ranks -/

/-- The three groups of versions within a release, from the lowest to the highest. -/
inductive Tier where
  /-- A release type: not yet the release. -/
  | candidate
  /-- A tag that says nothing about the build. -/
  | plain
  /-- The release, or a build after it. -/
  | released
  deriving DecidableEq, Repr

/-- The groups are ordered as they are listed. -/
def Tier.level : Tier → Nat
  | candidate => 0
  | plain => 1
  | released => 2

instance : Ord Tier where
  compare := compareOn Tier.level

instance : Std.TransOrd Tier :=
  inferInstanceAs (Std.TransCmp (compareOn Tier.level))

theorem Tier.compare_eq_iff {t u : Tier} : compare t u = .eq ↔ t = u := by
  cases t <;> cases u <;> decide

/-- Where a version or a build stands within its release. The fields are compared in
this order; a missing number or text comes before any present one. -/
structure Rank where
  /-- The group. -/
  tier : Tier
  /-- The release type, or the text of a plain tag. -/
  text : Option String := none
  /-- The candidate number. -/
  candidate : Option UInt32 := none
  /-- How many commits follow. -/
  commits : Option UInt32 := none
  /-- The hash of the last commit. -/
  hash : Option String := none
  deriving DecidableEq, Repr

namespace Rank

instance : Ord Rank where
  compare := compareLex (compareOn tier) (compareLex (compareOn text)
    (compareLex (compareOn candidate) (compareLex (compareOn commits) (compareOn hash))))

instance : Std.TransOrd Rank :=
  inferInstanceAs (Std.TransCmp (compareLex (compareOn tier) (compareLex (compareOn text)
    (compareLex (compareOn candidate) (compareLex (compareOn commits) (compareOn hash))))))

theorem compare_some {α : Type} [Ord α] (x y : α) :
    compare (some x) (some y) = compare x y :=
  rfl

theorem compare_def (r s : Rank) :
    compare r s = (compare r.tier s.tier).then ((compare r.text s.text).then
      ((compare r.candidate s.candidate).then
        ((compare r.commits s.commits).then (compare r.hash s.hash)))) :=
  rfl

/-- The order of ranks tells all ranks apart. -/
theorem compare_eq_iff {r s : Rank} : compare r s = .eq ↔ r = s := by
  cases r
  cases s
  simp only [compare_def, Ordering.then_eq_eq, Tier.compare_eq_iff,
    Std.LawfulEqOrd.compare_eq_iff_eq, mk.injEq]

/-- Between different groups nothing but the group counts. -/
theorem compare_of_tier_ne {r s : Rank} (h : r.tier ≠ s.tier) :
    compare r s = compare r.tier s.tier := by
  have hne : compare r.tier s.tier ≠ .eq := fun he => h (Tier.compare_eq_iff.mp he)
  rw [compare_def]
  cases hc : compare r.tier s.tier with
  | eq => exact absurd hc hne
  | lt => rfl
  | gt => rfl

/-- What is ordered by release and then by rank is lawfully ordered. -/
theorem transOrd_of_compare_eq {α : Type} [Ord α] (release : α → Release) (rank : α → Rank)
    (h : ∀ a b : α, compare a b =
      (compare (release a) (release b)).then (compare (rank a) (rank b))) :
    Std.TransOrd α := by
  have hcmp : (compare : α → α → Ordering) =
      compareLex (compareOn release) (compareOn rank) := by
    funext a b
    exact h a b
  show Std.TransCmp (compare : α → α → Ordering)
  rw [hcmp]
  infer_instance

end Rank

/-! ## Ranks of builds -/

namespace BuildVersion

/-- The rank of a build: a candidate number counts only with a release type. -/
def rank (b : BuildVersion) : Rank :=
  match b.releaseType with
  | none => { tier := .released, commits := b.commits, hash := b.commitHash }
  | some type =>
    { tier := .candidate, text := some type, candidate := b.candidate, commits := b.commits,
      hash := b.commitHash }

theorem compare_def (a b : BuildVersion) :
    compare a b = (compare a.release b.release).then ((compareType a b).then
      ((compare a.commits b.commits).then (compare a.commitHash b.commitHash))) :=
  rfl

/-- Builds are ordered by release and then by rank. -/
theorem compare_eq_compare_rank (a b : BuildVersion) :
    compare a b = (compare a.release b.release).then (compare a.rank b.rank) := by
  rw [compare_def, Rank.compare_def]
  cases ha : a.releaseType with
  | none =>
    cases hb : b.releaseType with
    | none => simp [compareType, rank, ha, hb]
    | some t =>
      have hc : compare Tier.released Tier.candidate = .gt := rfl
      simp [compareType, rank, ha, hb, hc]
  | some s =>
    cases hb : b.releaseType with
    | none =>
      have hc : compare Tier.candidate Tier.released = .lt := rfl
      simp [compareType, rank, ha, hb, hc]
    | some t =>
      simp [compareType, rank, ha, hb, Rank.compare_some, Ordering.then_assoc]

instance : Std.TransOrd BuildVersion :=
  Rank.transOrd_of_compare_eq release rank compare_eq_compare_rank

end BuildVersion

/-! ## Builds of versions -/

namespace BuildVersion

variable {v : Version}

theorem ofVersion_of_none (h : v.preRelease = none) : ofVersion v = { release := v.release } := by
  simp [ofVersion, Version.buildTag?, h]

theorem ofVersion_of_plain {text : String} (h : v.preRelease = some (.plain text)) :
    ofVersion v = { release := v.release } := by
  simp [ofVersion, Version.buildTag?, PreRelease.buildTag?, h]

theorem ofVersion_of_build {text : String} {tag : BuildTag}
    (h : v.preRelease = some (.build text tag)) :
    ofVersion v =
      { release := v.release
        releaseType := tag.candidate.map fun _ => "rc"
        candidate := tag.candidate
        commits := tag.commits.map Commits.count
        commitHash := tag.commits.map Commits.hash } := by
  simp [ofVersion, Version.buildTag?, PreRelease.buildTag?, h]

end BuildVersion

/-! ## Ranks of versions -/

namespace Version

/-- The rank of a version: that of its build, except that a plain tag has a place of
its own. -/
def rank (v : Version) : Rank :=
  match v.preRelease with
  | some (.plain text) => { tier := .plain, text := some text }
  | _ => (BuildVersion.ofVersion v).rank

variable {v a b : Version}

theorem rank_of_none (h : v.preRelease = none) : v.rank = { tier := .released } := by
  simp [rank, h, BuildVersion.ofVersion_of_none h, BuildVersion.rank]

theorem rank_of_plain {text : String} (h : v.preRelease = some (.plain text)) :
    v.rank = { tier := .plain, text := some text } := by
  simp [rank, h]

theorem rank_ofVersion_of_plain {text : String} (h : v.preRelease = some (.plain text)) :
    (BuildVersion.ofVersion v).rank = { tier := .released } := by
  simp [BuildVersion.ofVersion_of_plain h, BuildVersion.rank]

theorem rank_eq_rank_ofVersion (h : ∀ text, v.preRelease ≠ some (.plain text)) :
    v.rank = (BuildVersion.ofVersion v).rank := by
  unfold rank
  split
  · rename_i text htext
    exact absurd htext (h text)
  · rfl

theorem rank_of_candidate {text : String} {tag : BuildTag} {n : UInt32}
    (h : v.preRelease = some (.build text tag)) (hn : tag.candidate = some n) :
    v.rank =
      { tier := .candidate
        text := some "rc"
        candidate := some n
        commits := tag.commits.map Commits.count
        hash := tag.commits.map Commits.hash } := by
  simp [rank, h, BuildVersion.ofVersion_of_build h, BuildVersion.rank, hn]

theorem rank_of_later {text : String} {tag : BuildTag}
    (h : v.preRelease = some (.build text tag)) (hn : tag.candidate = none) :
    ∃ c, tag.commits = some c
      ∧ v.rank = { tier := .released, commits := some c.count, hash := some c.hash } := by
  obtain ⟨c, hc⟩ := Option.isSome_iff_exists.mp (tag.marked.resolve_left (by simp [hn]))
  refine ⟨c, hc, ?_⟩
  simp [rank, h, BuildVersion.ofVersion_of_build h, BuildVersion.rank, hn, hc]

/-- A build tag never stands where the release stands: with a candidate it is in the
lowest group, and without one it has commits. -/
theorem rank_of_build {text : String} {tag : BuildTag}
    (h : v.preRelease = some (.build text tag)) :
    v.rank.tier = .candidate ∨
      ∃ n hash, v.rank = { tier := .released, commits := some n, hash := some hash } := by
  cases hn : tag.candidate with
  | some n =>
    left
    rw [rank_of_candidate h hn]
  | none =>
    obtain ⟨c, -, hrank⟩ := rank_of_later h hn
    exact Or.inr ⟨c.count, c.hash, hrank⟩

/-- So a build tag compares with a plain tag as it does with the release. -/
theorem compare_rank_of_build {text tagText : String} {tag : BuildTag}
    (h : v.preRelease = some (.build text tag)) :
    compare v.rank { tier := .released } =
      compare v.rank { tier := .plain, text := some tagText } := by
  rcases rank_of_build h with ht | ⟨n, hash, hr⟩
  · -- a candidate is in a lower group than both
    rw [Rank.compare_of_tier_ne (by simp [ht]), Rank.compare_of_tier_ne (by simp [ht]), ht]
    rfl
  · -- commits decide against the release, the group against a plain tag
    rw [hr]
    rfl

/-! ## The order of versions is the order of ranks -/

theorem release_ofVersion (v : Version) : (BuildVersion.ofVersion v).release = v.release := by
  unfold BuildVersion.ofVersion
  split <;> rfl

theorem compare_ofVersion (hr : a.release = b.release) :
    compare (BuildVersion.ofVersion a) (BuildVersion.ofVersion b) =
      compare (BuildVersion.ofVersion a).rank (BuildVersion.ofVersion b).rank := by
  rw [BuildVersion.compare_eq_compare_rank, release_ofVersion, release_ofVersion, hr,
    Release.compare_eq_iff.mpr rfl]
  rfl

/-- Turning both versions into builds forgets plain tags, which makes no difference
to a version with a build tag. -/
theorem compare_rank_ofVersion {text : String} {tag : BuildTag}
    (h : a.preRelease = some (.build text tag)) (b : Version) :
    compare (BuildVersion.ofVersion a).rank (BuildVersion.ofVersion b).rank =
      compare a.rank b.rank := by
  rw [← rank_eq_rank_ofVersion (v := a) (by simp [h])]
  by_cases hb : ∃ t, b.preRelease = some (.plain t)
  · obtain ⟨t, ht⟩ := hb
    rw [rank_ofVersion_of_plain ht, rank_of_plain ht, compare_rank_of_build h]
  · rw [rank_eq_rank_ofVersion fun t ht => hb ⟨t, ht⟩]

/-- Within one release the tags are ordered by rank. -/
theorem compareTag_eq_compare_rank (hr : a.release = b.release) :
    compareTag a b = compare a.rank b.rank := by
  rcases ha : a.preRelease with _ | ⟨s⟩ | ⟨s, tag⟩
  · rcases hb : b.preRelease with _ | ⟨t⟩ | ⟨t, tag⟩
    · simp only [compareTag, ha, hb, rank_of_none ha, rank_of_none hb]
      rfl
    · simp only [compareTag, ha, hb, rank_of_none ha, rank_of_plain hb]
      rfl
    · simp only [compareTag, ha, hb, compare_ofVersion hr]
      rw [Std.OrientedOrd.eq_swap, compare_rank_ofVersion hb, ← Std.OrientedOrd.eq_swap]
  · rcases hb : b.preRelease with _ | ⟨t⟩ | ⟨t, tag⟩
    · simp only [compareTag, ha, hb, rank_of_plain ha, rank_of_none hb]
      rfl
    · simp only [compareTag, ha, hb, rank_of_plain ha, rank_of_plain hb, Rank.compare_def]
      rw [Rank.compare_some, Tier.compare_eq_iff.mpr rfl]
      simp
    · simp only [compareTag, ha, hb, compare_ofVersion hr]
      rw [Std.OrientedOrd.eq_swap, compare_rank_ofVersion hb, ← Std.OrientedOrd.eq_swap]
  · simp only [compareTag, ha, compare_ofVersion hr, compare_rank_ofVersion ha]

/-- Versions are ordered by release and then by rank. -/
theorem compare_eq_compare_rank (a b : Version) :
    compare a b = (compare a.release b.release).then (compare a.rank b.rank) := by
  show (compare a.release b.release).then (compareTag a b) = _
  cases hr : compare a.release b.release with
  | lt => rfl
  | gt => rfl
  | eq => rw [compareTag_eq_compare_rank (Release.compare_eq_iff.mp hr)]

/-- Versions without plain tags are ordered as their builds. -/
theorem compare_eq_compare_ofVersion (ha : ∀ text, a.preRelease ≠ some (.plain text))
    (hb : ∀ text, b.preRelease ≠ some (.plain text)) :
    compare a b = compare (BuildVersion.ofVersion a) (BuildVersion.ofVersion b) := by
  rw [compare_eq_compare_rank, BuildVersion.compare_eq_compare_rank, rank_eq_rank_ofVersion ha,
    rank_eq_rank_ofVersion hb, release_ofVersion, release_ofVersion]

instance : Std.TransOrd Version :=
  Rank.transOrd_of_compare_eq release rank compare_eq_compare_rank

end Version

end Negotiation
