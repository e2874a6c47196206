/-
# Negotiation.Proofs.Keys -- versions, builds and features as keys of a table

Equality is drawn from the order: two versions are equal if neither comes first. Ranks
tell apart all that the order tells apart, and the rank of a version shows what kind of
tag it has and what the tag says. So equal versions have the same kind of tag, plain tags
with one text, and build tags with one meaning, however this is spelled. These are the
marks that a version hands to a hash function, hence equal versions hash alike and can be
the keys of a table. The same holds of builds and of features, which are compared by
their versions. No decision of a feature tells equal versions apart.
-/

import Std.Data.HashMap
import Negotiation.Feature
import Negotiation.Proofs.Rank

namespace Negotiation

/-- Equality that is drawn from a lawful order is an equivalence. -/
theorem equivBEq_of_compare {α : Type} [Ord α] [BEq α] [Std.TransOrd α]
    (h : ∀ a b : α, (a == b) = true ↔ compare a b = .eq) : EquivBEq α where
  rfl {a} := (h a a).mpr Std.ReflOrd.compare_self
  symm {a b} hab := (h b a).mpr (Std.OrientedCmp.eq_symm ((h a b).mp hab))
  trans {a b c} hab hbc :=
    (h a c).mpr (Std.TransCmp.eq_trans ((h a b).mp hab) ((h b c).mp hbc))

/-! ## Builds -/

namespace BuildVersion

variable {a b : BuildVersion}

instance : EquivBEq BuildVersion :=
  equivBEq_of_compare fun _ _ => Ordering.isEq_iff_eq_eq

theorem beq_iff_rank : (a == b) = true ↔ a.release = b.release ∧ a.rank = b.rank := by
  show (compare a b).isEq = true ↔ _
  rw [Ordering.isEq_iff_eq_eq, compare_eq_compare_rank, Ordering.then_eq_eq,
    Release.compare_eq_iff, Rank.compare_eq_iff]

/-- Builds are equal if they have the same parts, where candidate numbers without a
release type do not count. -/
theorem beq_iff :
    (a == b) = true ↔ a.release = b.release ∧ a.releaseType = b.releaseType
      ∧ (a.candidate = b.candidate ∨ a.releaseType = none ∧ b.releaseType = none)
      ∧ a.commits = b.commits ∧ a.commitHash = b.commitHash := by
  rw [beq_iff_rank]
  cases ha : a.releaseType <;> cases hb : b.releaseType <;> simp [rank, ha, hb]

theorem fingerprint_eq (h : (a == b) = true) : a.fingerprint = b.fingerprint := by
  obtain ⟨hrelease, htype, hcandidate, hcommits, hhash⟩ := beq_iff.mp h
  cases hsome : b.releaseType with
  | none => simp [fingerprint, hrelease, htype, hsome, hcommits, hhash]
  | some type =>
    have hcandidate : a.candidate = b.candidate :=
      hcandidate.resolve_right fun hnone => by simp [hsome] at hnone
    simp [fingerprint, hrelease, htype, hsome, hcandidate, hcommits, hhash]

instance : LawfulHashable BuildVersion where
  hash_eq _ _ h := congrArg (fun marks : Fingerprint => hash marks) (fingerprint_eq h)

end BuildVersion

/-! ## Versions -/

/-- A build tag is told by its parts. -/
theorem BuildTag.eq_of_parts {s t : BuildTag} (hcandidate : s.candidate = t.candidate)
    (hcount : s.commits.map Commits.count = t.commits.map Commits.count)
    (hhash : s.commits.map Commits.hash = t.commits.map Commits.hash) : s = t := by
  obtain ⟨candidate, commits, marked⟩ := s
  obtain ⟨candidate', commits', marked'⟩ := t
  obtain rfl : candidate = candidate' := hcandidate
  have hcommits : commits = commits' := by
    rcases commits with _ | ⟨count, hash⟩ <;> rcases commits' with _ | ⟨count', hash'⟩
    · rfl
    · cases hcount
    · cases hcount
    · obtain rfl := Option.some.inj hcount
      obtain rfl := Option.some.inj hhash
      rfl
  subst hcommits
  rfl

namespace Version

variable {a b v : Version}

theorem beq_iff_compare : (a == b) = true ↔ compare a b = .eq :=
  Ordering.isEq_iff_eq_eq

theorem beq_iff_rank : (a == b) = true ↔ a.release = b.release ∧ a.rank = b.rank := by
  rw [beq_iff_compare, compare_eq_compare_rank, Ordering.then_eq_eq, Release.compare_eq_iff,
    Rank.compare_eq_iff]

/-- The rank of a build tag shows all of its parts. -/
theorem rank_parts_of_build {text : String} {tag : BuildTag}
    (h : v.preRelease = some (.build text tag)) :
    v.rank.candidate = tag.candidate ∧ v.rank.commits = tag.commits.map Commits.count
      ∧ v.rank.hash = tag.commits.map Commits.hash := by
  cases hn : tag.candidate with
  | some n => simp [rank_of_candidate h hn]
  | none =>
    obtain ⟨c, hc, hrank⟩ := rank_of_later h hn
    simp [hrank, hc]

theorem rank_ne_of_build {text : String} {tag : BuildTag}
    (ha : a.preRelease = some (.build text tag))
    (hb : ∀ text tag, b.preRelease ≠ some (.build text tag)) : a.rank ≠ b.rank := by
  intro h
  obtain ⟨hcandidate, hcommits, -⟩ := rank_parts_of_build ha
  -- the other rank has neither a candidate nor commits, but a build tag has one of them
  have hparts : b.rank.candidate = none ∧ b.rank.commits = none := by
    rcases hpre : b.preRelease with _ | ⟨plain⟩ | ⟨text, tag⟩
    · simp [rank_of_none hpre]
    · simp [rank_of_plain hpre]
    · exact absurd hpre (hb text tag)
  have hmarked := tag.marked
  rw [← hcandidate, ← Option.isSome_map (f := Commits.count), ← hcommits, h, hparts.1,
    hparts.2] at hmarked
  simp at hmarked

/-- Versions have one rank if their tags are of one kind and say the same. -/
theorem rank_eq_iff :
    a.rank = b.rank ↔
      (a.preRelease = none ∧ b.preRelease = none)
      ∨ (∃ text, a.preRelease = some (.plain text) ∧ b.preRelease = some (.plain text))
      ∨ ∃ s t tag, a.preRelease = some (.build s tag) ∧ b.preRelease = some (.build t tag) := by
  constructor
  · intro h
    rcases ha : a.preRelease with _ | ⟨s⟩ | ⟨s, tag⟩ <;>
      rcases hb : b.preRelease with _ | ⟨t⟩ | ⟨t, tag'⟩
    · exact Or.inl ⟨rfl, rfl⟩
    · simp [rank_of_none ha, rank_of_plain hb] at h
    · exact absurd h.symm (rank_ne_of_build hb (by simp [ha]))
    · simp [rank_of_plain ha, rank_of_none hb] at h
    · obtain rfl : s = t := by simpa [rank_of_plain ha, rank_of_plain hb] using h
      exact Or.inr (Or.inl ⟨s, rfl, rfl⟩)
    · exact absurd h.symm (rank_ne_of_build hb (by simp [ha]))
    · exact absurd h (rank_ne_of_build ha (by simp [hb]))
    · exact absurd h (rank_ne_of_build ha (by simp [hb]))
    · obtain ⟨hcandidate, hcount, hhash⟩ := rank_parts_of_build ha
      obtain ⟨hcandidate', hcount', hhash'⟩ := rank_parts_of_build hb
      obtain rfl : tag = tag' := BuildTag.eq_of_parts (by rw [← hcandidate, h, hcandidate'])
        (by rw [← hcount, h, hcount']) (by rw [← hhash, h, hhash'])
      exact Or.inr (Or.inr ⟨s, t, tag, rfl, rfl⟩)
  · rintro (⟨ha, hb⟩ | ⟨text, ha, hb⟩ | ⟨s, t, tag, ha, hb⟩)
    · rw [rank_of_none ha, rank_of_none hb]
    · rw [rank_of_plain ha, rank_of_plain hb]
    · cases hn : tag.candidate with
      | some n => rw [rank_of_candidate ha hn, rank_of_candidate hb hn]
      | none =>
        obtain ⟨c, hc, hrank⟩ := rank_of_later ha hn
        obtain ⟨c', hc', hrank'⟩ := rank_of_later hb hn
        obtain rfl : c = c' := Option.some.inj (hc.symm.trans hc')
        rw [hrank, hrank']

theorem beq_iff :
    (a == b) = true ↔ a.release = b.release
      ∧ ((a.preRelease = none ∧ b.preRelease = none)
        ∨ (∃ text, a.preRelease = some (.plain text) ∧ b.preRelease = some (.plain text))
        ∨ ∃ s t tag, a.preRelease = some (.build s tag)
            ∧ b.preRelease = some (.build t tag)) := by
  rw [beq_iff_rank, rank_eq_iff]

theorem fingerprint_eq (h : (a == b) = true) : a.fingerprint = b.fingerprint := by
  obtain ⟨hrelease, ⟨ha, hb⟩ | ⟨text, ha, hb⟩ | ⟨s, t, tag, ha, hb⟩⟩ := beq_iff.mp h <;>
    simp [fingerprint, hrelease, ha, hb]

instance : EquivBEq Version :=
  equivBEq_of_compare fun _ _ => beq_iff_compare

instance : LawfulHashable Version where
  hash_eq _ _ h := congrArg (fun marks : Fingerprint => hash marks) (fingerprint_eq h)

end Version

/-! ## Features -/

namespace Feature

variable {f g : Feature}

theorem beq_iff :
    (f == g) = true ↔ f.name = g.name ∧ (f.firstSupported == g.firstSupported) = true
      ∧ ((f.threshold = none ∧ g.threshold = none)
        ∨ ∃ s t, f.threshold = some s ∧ g.threshold = some t ∧ (s == t) = true) := by
  show (f.name == g.name && f.firstSupported == g.firstSupported
    && f.threshold == g.threshold) = true ↔ _
  simp only [Bool.and_eq_true, beq_iff_eq, and_assoc]
  cases f.threshold <;> cases g.threshold <;> simp

instance : EquivBEq Feature where
  rfl {f} := by
    refine beq_iff.mpr ⟨rfl, BEq.rfl, ?_⟩
    cases f.threshold <;> simp
  symm {f g} h := by
    obtain ⟨hname, hfirst, ⟨hf, hg⟩ | ⟨s, t, hf, hg, hst⟩⟩ := beq_iff.mp h
    · exact beq_iff.mpr ⟨hname.symm, BEq.symm hfirst, Or.inl ⟨hg, hf⟩⟩
    · exact beq_iff.mpr ⟨hname.symm, BEq.symm hfirst, Or.inr ⟨t, s, hg, hf, BEq.symm hst⟩⟩
  trans {f g k} h h' := by
    obtain ⟨hname, hfirst, hthreshold⟩ := beq_iff.mp h
    obtain ⟨hname', hfirst', hthreshold'⟩ := beq_iff.mp h'
    refine beq_iff.mpr ⟨hname.trans hname', BEq.trans hfirst hfirst', ?_⟩
    rcases hthreshold with ⟨hf, hg⟩ | ⟨s, t, hf, hg, hst⟩
    · exact Or.inl ⟨hf, by simpa [hg] using hthreshold'⟩
    · obtain ⟨u, hk, htu⟩ : ∃ u, k.threshold = some u ∧ (t == u) = true := by
        simpa [hg] using hthreshold'
      exact Or.inr ⟨s, u, hf, hk, BEq.trans hst htu⟩

theorem fingerprint_eq (h : (f == g) = true) : f.fingerprint = g.fingerprint := by
  obtain ⟨hname, hfirst, ⟨hf, hg⟩ | ⟨s, t, hf, hg, hst⟩⟩ := beq_iff.mp h
  · simp [fingerprint, hname, Version.fingerprint_eq hfirst, hf, hg]
  · simp [fingerprint, hname, Version.fingerprint_eq hfirst, hf, hg, Fingerprint.ofOption,
      Version.fingerprint_eq hst]

instance : LawfulHashable Feature where
  hash_eq _ _ h := congrArg (fun marks : Fingerprint => hash marks) (fingerprint_eq h)

/-! ### Decisions about equal versions -/

variable {a b : Version}

theorem isSupported_congr (f : Feature) (h : (a == b) = true) :
    f.isSupported a = f.isSupported b := by
  rw [isSupported, isSupported, Std.TransCmp.congr_left (Version.beq_iff_compare.mp h)]

theorem mustReject_congr (f : Feature) (h : (a == b) = true) :
    f.mustReject a = f.mustReject b := by
  unfold mustReject
  cases f.threshold with
  | none => rfl
  | some t => simp only [Std.TransCmp.congr_left (Version.beq_iff_compare.mp h)]

theorem checkHint_congr (f : Feature) (h : (a == b) = true) :
    (f.checkHint a).value.toOption = (f.checkHint b).value.toOption := by
  rw [checkHint_eq, checkHint_eq, isSupported_congr f h]
  split
  · rfl
  · split
    · rename_i t _
      rw [Std.TransCmp.congr_left (Version.beq_iff_compare.mp h)]
      split <;> rfl
    · rfl

end Feature

/-! ## Equal keys -/

/-- Versions are equal exactly if they have the same numbers and are both untagged, or
have plain tags of one text, or build tags of one meaning. Builds are equal exactly if
their parts are, where a candidate number without a release type does not count; and
features, if they have one name and equal versions. Equal keys hand the same marks to a
hash function, so every table has one entry for both. No feature decides differently
about equal versions. -/
theorem equal_keys_agree :
    (∀ a b : Version, (a == b) = true ↔ a.release = b.release
      ∧ ((a.preRelease = none ∧ b.preRelease = none)
        ∨ (∃ text, a.preRelease = some (.plain text) ∧ b.preRelease = some (.plain text))
        ∨ ∃ s t tag, a.preRelease = some (.build s tag) ∧ b.preRelease = some (.build t tag)))
    ∧ (∀ a b : Version, (a == b) = true → a.fingerprint = b.fingerprint
        ∧ ∀ {β : Type} (table : Std.HashMap Version β), table[a]? = table[b]?)
    ∧ (∀ a b : BuildVersion, (a == b) = true ↔
        a.release = b.release ∧ a.releaseType = b.releaseType
          ∧ (a.candidate = b.candidate ∨ a.releaseType = none ∧ b.releaseType = none)
          ∧ a.commits = b.commits ∧ a.commitHash = b.commitHash)
    ∧ (∀ a b : BuildVersion, (a == b) = true → a.fingerprint = b.fingerprint
        ∧ ∀ {β : Type} (table : Std.HashMap BuildVersion β), table[a]? = table[b]?)
    ∧ (∀ f g : Feature, (f == g) = true ↔
        f.name = g.name ∧ (f.firstSupported == g.firstSupported) = true
          ∧ ((f.threshold = none ∧ g.threshold = none)
            ∨ ∃ s t, f.threshold = some s ∧ g.threshold = some t ∧ (s == t) = true))
    ∧ (∀ f g : Feature, (f == g) = true → f.fingerprint = g.fingerprint
        ∧ ∀ {β : Type} (table : Std.HashMap Feature β), table[f]? = table[g]?)
    ∧ (∀ (a b : Version) (f : Feature), (a == b) = true →
        f.isSupported a = f.isSupported b ∧ f.mustReject a = f.mustReject b
          ∧ (f.checkHint a).value.toOption = (f.checkHint b).value.toOption) := by
  refine ⟨fun a b => Version.beq_iff, ?_, fun a b => BuildVersion.beq_iff, ?_,
    fun f g => Feature.beq_iff, ?_, ?_⟩
  · intro a b h
    exact ⟨Version.fingerprint_eq h, fun table => Std.HashMap.getElem?_congr h⟩
  · intro a b h
    exact ⟨BuildVersion.fingerprint_eq h, fun table => Std.HashMap.getElem?_congr h⟩
  · intro f g h
    exact ⟨Feature.fingerprint_eq h, fun table => Std.HashMap.getElem?_congr h⟩
  · intro a b f h
    exact ⟨f.isSupported_congr h, f.mustReject_congr h, f.checkHint_congr h⟩

-- two spellings of candidate 10
example : (Version.tagged 4 2 0 "rc010" == .tagged 4 2 0 "rc10-") = true := by decide

end Negotiation
