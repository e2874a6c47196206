/-
# Negotiation.Proofs.BuildText -- which texts are build versions

A build version is written

    <major>.<minor>[.<patch>[-<type>[<candidate>]][-<commits>-g<hash>]]

with letters for the type, digits for the numbers and an abbreviated hash. A spelling
says what stands in each place. The reader takes a whole text of this form and gives the
parts of its spelling; no other text is a build version. Writing a build makes a spelling
of it, so reading gives back all that is written.
-/

import Negotiation.Proofs.TagCuts

namespace Negotiation.BuildVersion

open Numeral (IsDigits Stops)
open TagCut (IsMarker IsCommits SuffixMeans suffixText)

/-! ## Spellings -/

/-- Letters only, and at least one of them. -/
def IsLetters (text : List Char) : Prop :=
  text ≠ [] ∧ ∀ c ∈ text, c.isAlpha = true

/-- A release type, with its candidate number if it has one. -/
structure Kind where
  letters : List Char
  candidate : Option (List Char)

structure Kind.IsWritten (kind : Kind) : Prop where
  letters : IsLetters kind.letters
  candidate : IsMarker kind.candidate

/-- A release type as it is written. -/
def kindText : Option Kind → List Char
  | none => []
  | some kind => '-' :: (kind.letters ++ kind.candidate.getD [])

/-- A commit suffix as it is written. -/
def commitsText : Option (List Char × List Char) → List Char
  | none => []
  | some suffix => '-' :: suffixText (some suffix)

/-- What follows the major and the minor number. -/
structure Tail where
  patch : List Char
  kind : Option Kind
  commits : Option (List Char × List Char)

/-- How a build version is written. -/
structure Spelling where
  major : List Char
  minor : List Char
  tail : Option Tail

def tailText : Option Tail → List Char
  | none => []
  | some tail => '.' :: (tail.patch ++ (kindText tail.kind ++ commitsText tail.commits))

structure Tail.IsWritten (tail : Tail) : Prop where
  patch : IsDigits tail.patch
  kind : ∀ kind ∈ tail.kind, kind.IsWritten
  commits : IsCommits tail.commits

/-- A release type is read as it is written, and its candidate number by its value. -/
structure KindMeans (kind : Option Kind) (type : Option String) (candidate : Option UInt32) :
    Prop where
  type : type = kind.map fun kind => String.ofList kind.letters
  candidate : candidate.map UInt32.toNat = (kind.bind Kind.candidate).map Numeral.value

theorem KindMeans.of_none {type : Option String} {candidate : Option UInt32}
    (h : KindMeans none type candidate) : type = none ∧ candidate = none :=
  ⟨h.type, Option.map_eq_none_iff.mp h.candidate⟩

namespace Spelling

/-- The text is written in this way. -/
structure Spells (s : Spelling) (text : List Char) : Prop where
  text : text = s.major ++ '.' :: (s.minor ++ tailText s.tail)
  major : IsDigits s.major
  minor : IsDigits s.minor
  tail : ∀ tail ∈ s.tail, tail.IsWritten

def kind (s : Spelling) : Option Kind :=
  s.tail.bind Tail.kind

def commits (s : Spelling) : Option (List Char × List Char) :=
  s.tail.bind Tail.commits

/-- The build that a spelling stands for: no patch number is 0, and other parts that are
not written are not there. -/
structure Means (s : Spelling) (b : BuildVersion) : Prop where
  major : b.release.major.toNat = Numeral.value s.major
  minor : b.release.minor.toNat = Numeral.value s.minor
  patch : b.release.patch.toNat = (s.tail.map fun tail => Numeral.value tail.patch).getD 0
  kind : KindMeans s.kind b.releaseType b.candidate
  commits : SuffixMeans s.commits b.commits b.commitHash

end Spelling

/-! ## Where the parts end -/

/-- The digits stand below all letters. -/
theorem isAlpha_eq_false_of_isDigit {c : Char} (h : c.isDigit = true) : c.isAlpha = false := by
  have hdigit : c.val.toNat ≤ 57 := (Char.isDigit_iff_toNat.mp h).2
  have hupper : ¬('A'.val ≤ c.val) := fun hle => by
    have hval : 65 ≤ c.val.toNat := UInt32.le_iff_toNat_le.mp hle
    omega
  have hlower : ¬('a'.val ≤ c.val) := fun hle => by
    have hval : 97 ≤ c.val.toNat := UInt32.le_iff_toNat_le.mp hle
    omega
  show (decide ('A'.val ≤ c.val ∧ c.val ≤ 'Z'.val)
    || (decide ('a'.val ≤ c.val) && decide (c.val ≤ 'z'.val))) = false
  simp only [hupper, hlower, false_and, decide_false, Bool.false_and, Bool.or_false]

variable {rest text : List Char} {commits : Option (List Char × List Char)}

/-- No digit follows where a commit suffix may follow. -/
theorem stops_commitsText (commits : Option (List Char × List Char)) :
    Stops (commitsText commits) := by
  cases commits with
  | none => simp [Stops, commitsText]
  | some suffix => exact Numeral.stops_dash

theorem stops_kindText (kind : Option Kind) (commits : Option (List Char × List Char)) :
    Stops (kindText kind ++ commitsText commits) := by
  cases kind with
  | none => exact stops_commitsText commits
  | some kind => exact Numeral.stops_dash

theorem stops_tailText (tail : Option Tail) : Stops (tailText tail) := by
  cases tail with
  | none => simp [Stops, tailText]
  | some tail => exact Version.stops_dot

theorem isAlpha_head?_digits {digits : List Char} (h : IsDigits digits) :
    ∀ c ∈ (digits ++ rest).head?, c.isAlpha = false := by
  obtain ⟨d, digits, rfl⟩ := List.exists_cons_of_ne_nil h.1
  rintro c ⟨⟩
  exact isAlpha_eq_false_of_isDigit (h.2 d (by simp))

theorem isAlpha_head?_commitsText (commits : Option (List Char × List Char)) :
    ∀ c ∈ (commitsText commits).head?, c.isAlpha = false := by
  cases commits with
  | none => simp [commitsText]
  | some suffix =>
    rintro c ⟨⟩
    rfl

/-- A commit suffix starts with a digit. -/
theorem isAlpha_head?_suffixText (h : IsCommits commits) :
    ∀ c ∈ (suffixText commits).head?, c.isAlpha = false := by
  rcases commits with _ | ⟨count, hash⟩
  · simp [suffixText]
  · show ∀ c ∈ (count ++ '-' :: 'g' :: hash).head?, c.isAlpha = false
    exact isAlpha_head?_digits (h _ rfl).1

/-- A release type ends where its letters end. -/
theorem isAlpha_head?_candidate {candidate : Option (List Char)} (h : IsMarker candidate)
    (commits : Option (List Char × List Char)) :
    ∀ c ∈ (candidate.getD [] ++ commitsText commits).head?, c.isAlpha = false := by
  cases candidate with
  | none => exact isAlpha_head?_commitsText commits
  | some digits => exact isAlpha_head?_digits (h digits rfl)

/-! ## Reading the parts -/

theorem read?_eq_some_iff {c : Commits} :
    Commits.read? text = some c ↔
      ∃ count hash, text = count ++ '-' :: 'g' :: hash ∧ IsDigits count ∧ Commits.IsHash hash
        ∧ c.count.toNat = Numeral.value count ∧ c.hash = String.ofList hash := by
  constructor
  · intro h
    obtain ⟨⟨count, hash⟩, hsplit, h⟩ := Option.bind_eq_some_iff.mp h
    obtain ⟨n, hvalue, h⟩ := Option.bind_eq_some_iff.mp h
    obtain rfl := Option.some.inj h
    obtain ⟨htext, hcount, hhash⟩ := Commits.split?_eq_some_iff.mp hsplit
    exact ⟨count, hash, htext, hcount, hhash, (Numeral.word?_eq_some_iff.mp hvalue).symm, rfl⟩
  · obtain ⟨n, written⟩ := c
    rintro ⟨count, hash, htext, hcount, hhash, hvalue, rfl⟩
    simp [Commits.read?, Commits.split?_eq_some_iff.mpr ⟨htext, hcount, hhash⟩,
      Numeral.word?_eq_some_iff.mpr hvalue.symm]

theorem commits?_eq_some_iff {found : Option Commits} :
    commits? rest = some found ↔
      ∃ commits, rest = commitsText commits ∧ IsCommits commits
        ∧ SuffixMeans commits (found.map Commits.count) (found.map Commits.hash) := by
  constructor
  · intro h
    unfold commits? at h
    split at h
    · obtain rfl := Option.some.inj h
      exact ⟨none, rfl, by simp [IsCommits], ⟨rfl, rfl⟩⟩
    · obtain ⟨c, hread, rfl⟩ := Option.map_eq_some_iff.mp h
      obtain ⟨count, hash, rfl, hcount, hhash, hvalue, htext⟩ := read?_eq_some_iff.mp hread
      refine ⟨some (count, hash), rfl, ?_, ⟨congrArg some hvalue, congrArg some htext⟩⟩
      rintro _ ⟨⟩
      exact ⟨hcount, hhash⟩
    · cases h
  · rintro ⟨commits, rfl, hcommits, ⟨hcount, hhash⟩⟩
    rcases commits with _ | ⟨count, hash⟩
    · obtain rfl : found = none := Option.map_eq_none_iff.mp hhash
      rfl
    · obtain ⟨c, rfl, htext⟩ := Option.map_eq_some_iff.mp hhash
      have hread : Commits.read? (suffixText (some (count, hash))) = some c :=
        read?_eq_some_iff.mpr ⟨count, hash, rfl, (hcommits _ rfl).1, (hcommits _ rfl).2,
          Option.some.inj hcount, htext⟩
      exact congrArg (Option.map some) hread

theorem kind_of_releaseType? {type : Option String} {candidate : Option UInt32}
    (h : releaseType? text = some (type, candidate, rest)) :
    ∃ kind, text = kindText kind ++ rest ∧ (∀ k ∈ kind, k.IsWritten)
      ∧ KindMeans kind type candidate := by
  unfold releaseType? at h
  split at h
  · rename_i after
    dsimp only at h
    have hcut : after.takeWhile Char.isAlpha ++ after.dropWhile Char.isAlpha = after :=
      List.takeWhile_append_dropWhile
    by_cases hletters : after.takeWhile Char.isAlpha = []
    · rw [if_pos hletters] at h
      cases h
      exact ⟨none, rfl, by simp, ⟨rfl, rfl⟩⟩
    · have hwritten : IsLetters (after.takeWhile Char.isAlpha) :=
        ⟨hletters, fun c hc => List.mem_takeWhile_imp hc⟩
      rw [if_neg hletters] at h
      split at h
      · cases h
        refine ⟨some ⟨after.takeWhile Char.isAlpha, none⟩, by simp [kindText, hcut], ?_,
          ⟨rfl, rfl⟩⟩
        rintro _ ⟨⟩
        exact ⟨hwritten, by simp [IsMarker]⟩
      · obtain ⟨⟨n, tail⟩, hread, ⟨⟩⟩ := Option.map_eq_some_iff.mp h
        obtain ⟨digits, htail, hdigits, -, hvalue⟩ := Numeral.number?_eq_some_iff.mp hread
        refine ⟨some ⟨after.takeWhile Char.isAlpha, some digits⟩, ?_, ?_,
          ⟨rfl, congrArg some hvalue⟩⟩
        · rw [htail] at hcut
          simp [kindText, hcut]
        · rintro _ ⟨⟩
          refine ⟨hwritten, ?_⟩
          rintro _ ⟨⟩
          exact hdigits
  · cases h
    exact ⟨none, rfl, by simp, ⟨rfl, rfl⟩⟩

/-- What a release type is read as does not depend on the commit suffix after it. -/
theorem releaseType?_kindText {kind : Option Kind} (hkind : ∀ k ∈ kind, k.IsWritten)
    (hcommits : IsCommits commits) {type : Option String} {candidate : Option UInt32}
    (hmeans : KindMeans kind type candidate) :
    releaseType? (kindText kind ++ commitsText commits)
      = some (type, candidate, commitsText commits) := by
  rcases kind with _ | ⟨letters, digits⟩
  · -- the suffix starts with a digit, so no letter follows the dash
    obtain ⟨rfl, rfl⟩ := hmeans.of_none
    cases commits with
    | none => rfl
    | some suffix =>
      have hletters : (suffixText (some suffix)).takeWhile Char.isAlpha = [] :=
        Numeral.takeWhile_append_of_stop (List.forall_mem_nil _) (isAlpha_head?_suffixText hcommits)
      simp [releaseType?, kindText, commitsText, hletters]
  · obtain ⟨rfl, hvalue⟩ := hmeans
    obtain ⟨⟨hne, hletters⟩, hdigits⟩ := hkind _ rfl
    dsimp only at hne hletters hdigits hvalue
    have hstop := isAlpha_head?_candidate hdigits commits
    have htake : (letters ++ (digits.getD [] ++ commitsText commits)).takeWhile Char.isAlpha
        = letters := Numeral.takeWhile_append_of_stop hletters hstop
    have hdrop : (letters ++ (digits.getD [] ++ commitsText commits)).dropWhile Char.isAlpha
        = digits.getD [] ++ commitsText commits := Numeral.dropWhile_append_of_stop hletters hstop
    simp only [releaseType?, kindText, List.cons_append, List.append_assoc, htake, hdrop,
      if_neg hne]
    cases digits with
    | none =>
      obtain rfl : candidate = none := Option.map_eq_none_iff.mp hvalue
      have hrun := Numeral.run_eq_nil_iff.mpr (stops_commitsText commits)
      simp [hrun]
    | some digits =>
      obtain ⟨n, rfl, hn⟩ := Option.map_eq_some_iff.mp hvalue
      have hread : Numeral.number? (digits ++ commitsText commits)
          = some (n, commitsText commits) :=
        Numeral.number?_eq_some_iff.mpr
          ⟨digits, rfl, hdigits digits rfl, stops_commitsText commits, hn⟩
      have hrun : Numeral.run (digits ++ commitsText commits) ≠ [] := fun hnil =>
        Version.not_stops_append (hdigits digits rfl) (Numeral.run_eq_nil_iff.mp hnil)
      simp [hread, hrun]

/-! ## Reading a build version -/

theorem ofRest?_eq_some_iff {major minor : UInt32} {b : BuildVersion} :
    ofRest? major minor rest = some b ↔
      ∃ tail, rest = tailText tail ∧ (∀ t ∈ tail, t.IsWritten)
        ∧ b.release.major = major ∧ b.release.minor = minor
        ∧ b.release.patch.toNat = (tail.map fun t => Numeral.value t.patch).getD 0
        ∧ KindMeans (tail.bind Tail.kind) b.releaseType b.candidate
        ∧ SuffixMeans (tail.bind Tail.commits) b.commits b.commitHash := by
  constructor
  · intro h
    unfold ofRest? at h
    split at h
    · obtain rfl := Option.some.inj h
      exact ⟨none, rfl, by simp, rfl, rfl, rfl, ⟨rfl, rfl⟩, ⟨rfl, rfl⟩⟩
    · obtain ⟨⟨patch, afterPatch⟩, hpatch, h⟩ := Option.bind_eq_some_iff.mp h
      obtain ⟨⟨type, candidate, afterKind⟩, hkind, h⟩ := Option.bind_eq_some_iff.mp h
      obtain ⟨found, hfound, h⟩ := Option.bind_eq_some_iff.mp h
      obtain rfl := Option.some.inj h
      obtain ⟨digits, rfl, hdigits, -, hvalue⟩ := Numeral.number?_eq_some_iff.mp hpatch
      obtain ⟨kind, rfl, hkinds, hmeans⟩ := kind_of_releaseType? hkind
      obtain ⟨commits, rfl, hcommits, hsuffix⟩ := commits?_eq_some_iff.mp hfound
      refine ⟨some ⟨digits, kind, commits⟩, rfl, ?_, rfl, rfl, hvalue, hmeans, hsuffix⟩
      rintro _ ⟨⟩
      exact ⟨hdigits, hkinds, hcommits⟩
    · cases h
  · obtain ⟨⟨major', minor', patch⟩, type, candidate, count, hash⟩ := b
    rintro ⟨tail, rfl, hwritten, rfl, rfl, hvalue, hkind, hcommits⟩
    dsimp only at hvalue hkind hcommits
    cases tail with
    | none =>
      obtain rfl : patch = 0 := UInt32.toNat_inj.mp hvalue
      obtain ⟨rfl, rfl⟩ := hkind.of_none
      obtain ⟨rfl, rfl⟩ := hcommits.of_none
      rfl
    | some tail =>
      obtain ⟨hpatch, hkinds, hsuffixes⟩ := hwritten tail rfl
      have hreadPatch := Numeral.number?_eq_some_iff.mpr
        ⟨tail.patch, rfl, hpatch, stops_kindText tail.kind tail.commits, hvalue⟩
      have hreadKind := releaseType?_kindText hkinds hsuffixes hkind
      obtain ⟨found, rfl, rfl⟩ := hcommits.exists_commits
      have hreadCommits := commits?_eq_some_iff.mpr ⟨tail.commits, rfl, hsuffixes, hcommits⟩
      simp [ofRest?, tailText, hreadPatch, hreadKind, hreadCommits]

/-- A text is a build version exactly if it is written as one, and it is then the build
that is written. -/
theorem parse?_eq_some_iff {text : String} {b : BuildVersion} :
    parse? text = some b ↔ ∃ s : Spelling, s.Spells text.toList ∧ s.Means b := by
  constructor
  · intro h
    obtain ⟨⟨major, afterMajor⟩, hmajor, h⟩ := Option.bind_eq_some_iff.mp h
    dsimp only at h
    split at h
    · obtain ⟨⟨minor, rest⟩, hminor, h⟩ := Option.bind_eq_some_iff.mp h
      obtain ⟨tail, rfl, hwritten, rfl, rfl, hpatch, hkind, hcommits⟩ := ofRest?_eq_some_iff.mp h
      obtain ⟨digits, htext, hdigits, -, hvalue⟩ := Numeral.number?_eq_some_iff.mp hmajor
      obtain ⟨digits', rfl, hdigits', -, hvalue'⟩ := Numeral.number?_eq_some_iff.mp hminor
      exact ⟨⟨digits, digits', tail⟩, ⟨htext, hdigits, hdigits', hwritten⟩,
        ⟨hvalue, hvalue', hpatch, hkind, hcommits⟩⟩
    · cases h
  · rintro ⟨s, ⟨htext, hmajor, hminor, htail⟩, hmeans⟩
    have hreadMajor := Numeral.number?_eq_some_iff.mpr
      ⟨s.major, htext, hmajor, Version.stops_dot, hmeans.major⟩
    have hreadMinor := Numeral.number?_eq_some_iff.mpr
      ⟨s.minor, rfl, hminor, stops_tailText s.tail, hmeans.minor⟩
    have hreadRest := ofRest?_eq_some_iff.mpr
      ⟨s.tail, rfl, htail, rfl, rfl, hmeans.patch, hmeans.kind, hmeans.commits⟩
    simp [parse?, hreadMajor, hreadMinor, hreadRest]

/-! ## Writing and reading -/

/-- The type of a build can be written, and its hash if it is written. -/
structure IsWritable (b : BuildVersion) : Prop where
  type : ∀ type ∈ b.releaseType, IsLetters type.toList
  hash : ∀ hash ∈ b.commitHash, b.commits.isSome → Commits.IsHash hash.toList

/-- A build without the parts that are not written: a candidate number without a type,
and either half of the commit suffix without the other. -/
def written (b : BuildVersion) : BuildVersion :=
  { b with
    candidate := b.releaseType.bind fun _ => b.candidate
    commits := b.commitHash.bind fun _ => b.commits
    commitHash := b.commits.bind fun _ => b.commitHash }

/-- How a build is written. -/
def spelling (b : BuildVersion) : Spelling where
  major := (Numeral.render b.release.major).toList
  minor := (Numeral.render b.release.minor).toList
  tail := some {
    patch := (Numeral.render b.release.patch).toList
    kind := b.releaseType.map fun type =>
      ⟨type.toList, b.candidate.map fun n => (Numeral.render n).toList⟩
    commits := b.commits.bind fun n => b.commitHash.map fun hash =>
      ((Numeral.render n).toList, hash.toList) }

theorem toList_render (b : BuildVersion) :
    b.render.toList =
      b.spelling.major ++ '.' :: (b.spelling.minor ++ tailText b.spelling.tail) := by
  obtain ⟨⟨major, minor, patch⟩, type, candidate, count, hash⟩ := b
  have hkind : (renderType ⟨⟨major, minor, patch⟩, type, candidate, count, hash⟩).toList =
      kindText (type.map fun type =>
        ⟨type.toList, candidate.map fun n => (Numeral.render n).toList⟩) := by
    cases type <;> cases candidate <;> simp [renderType, kindText]
  have hcommits : (renderCommits ⟨⟨major, minor, patch⟩, type, candidate, count, hash⟩).toList =
      commitsText (count.bind fun n => hash.map fun hash =>
        ((Numeral.render n).toList, hash.toList)) := by
    cases count <;> cases hash <;>
      simp [renderCommits, Commits.render, commitsText, suffixText]
  simp [render, Release.render, hkind, hcommits, spelling, tailText]

theorem IsWritable.spells {b : BuildVersion} (h : b.IsWritable) :
    b.spelling.Spells b.render.toList := by
  refine ⟨toList_render b, Numeral.isDigits_render _, Numeral.isDigits_render _, ?_⟩
  rintro _ ⟨⟩
  refine ⟨Numeral.isDigits_render _, ?_, ?_⟩
  · intro kind hkind
    obtain ⟨type, htype, rfl⟩ := Option.map_eq_some_iff.mp hkind
    refine ⟨h.type type htype, ?_⟩
    intro digits hdigits
    obtain ⟨n, -, rfl⟩ := Option.map_eq_some_iff.mp hdigits
    exact Numeral.isDigits_render n
  · intro suffix hsuffix
    obtain ⟨n, hn, hsuffix⟩ := Option.bind_eq_some_iff.mp hsuffix
    obtain ⟨hash, hhash, rfl⟩ := Option.map_eq_some_iff.mp hsuffix
    exact ⟨Numeral.isDigits_render n, h.hash hash hhash (by simp [hn])⟩

theorem means_written (b : BuildVersion) : b.spelling.Means b.written := by
  obtain ⟨⟨major, minor, patch⟩, type, candidate, count, hash⟩ := b
  refine ⟨(Numeral.value_render _).symm, (Numeral.value_render _).symm,
    (Numeral.value_render _).symm, ⟨?_, ?_⟩, ⟨?_, ?_⟩⟩
  · cases type <;> simp [written, spelling, Spelling.kind]
  · cases type <;> cases candidate <;>
      simp [written, spelling, Spelling.kind, Numeral.value_render]
  · cases count <;> cases hash <;>
      simp [written, spelling, Spelling.commits, Numeral.value_render]
  · cases count <;> cases hash <;> simp [written, spelling, Spelling.commits]

/-- Reading what is written of a build gives back all that is written. -/
theorem parse?_render {b : BuildVersion} (h : b.IsWritable) : parse? b.render = some b.written :=
  parse?_eq_some_iff.mpr ⟨b.spelling, h.spells, means_written b⟩

end Negotiation.BuildVersion
