/-
# Negotiation.Proofs.ParserAgreement -- builds and versions are read alike

A build version is also the text of a version: its numbers are the numbers of the
version, and what follows the patch number is the tag. The reader of builds takes the
parts of the text in turn, while the tag is first found anywhere in a text and then cut
as the build grammar allows. Both see the same parts. If the build has no release type,
or is a numbered `rc`, its spelling is the first cut of the tag; any other type leaves
the tag without a cut, so it is plain.

So a version without a plain tag can be written as its build. Both readers take this
text, and the version that it spells is equal to the one that was written, however its
own tag was spelled.
-/

import Negotiation.Proofs.BuildText
import Negotiation.Proofs.Rank

namespace Negotiation

open Numeral (IsDigits Stops)

/-! ## The tag of a build -/

namespace BuildVersion

open TagCut (IsMarker IsCommits SuffixMeans markerText markerLength separatorText suffixText)

theorem isLetters_rc : IsLetters ['r', 'c'] :=
  ⟨by simp, List.all_eq_true.mp rfl⟩

/-- A release candidate with a number, the only release type that tags know. -/
def Kind.IsCandidate (kind : Kind) : Prop :=
  kind.letters = ['r', 'c'] ∧ kind.candidate.isSome

namespace Tail

/-- What follows the patch number, as the tag of a version. -/
def tag (t : Tail) : Option (List Char) :=
  match t.kind with
  | none => t.commits.map fun suffix => suffixText (some suffix)
  | some kind => some (kind.letters ++ (kind.candidate.getD [] ++ commitsText t.commits))

/-- The parts that follow the patch number, as a cut of this tag. -/
def cut (t : Tail) : TagCut where
  candidate := t.kind.bind Kind.candidate
  separator := t.kind.isSome && t.commits.isSome
  commits := t.commits

variable {t : Tail} {line : List Char}

theorem tagText_tag (t : Tail) :
    Version.tagText t.tag = kindText t.kind ++ commitsText t.commits := by
  obtain ⟨patch, kind, commits⟩ := t
  cases kind <;> cases commits <;> simp [tag, Version.tagText, kindText, commitsText]

theorem newline_notMem {l : List Char} {p : Char → Bool} (h : ∀ c ∈ l, p c = true)
    (hp : p '\n' = false) : '\n' ∉ l := by
  intro hmem
  rw [h _ hmem] at hp
  cases hp

theorem newline_notMem_suffixText {commits : Option (List Char × List Char)}
    (h : IsCommits commits) : '\n' ∉ suffixText commits := by
  rcases commits with _ | ⟨count, hash⟩
  · simp [suffixText]
  · obtain ⟨hcount, -, -, hhash⟩ := h _ rfl
    have hnotCount : '\n' ∉ count := newline_notMem hcount.2 (by decide)
    have hnotHash : '\n' ∉ hash := by
      intro hmem
      have hline := hhash _ hmem
      revert hline
      decide
    simp [suffixText, hnotCount, hnotHash]

theorem newline_notMem_commitsText {commits : Option (List Char × List Char)}
    (h : IsCommits commits) : '\n' ∉ commitsText commits := by
  cases commits with
  | none => simp [commitsText]
  | some suffix => simp [commitsText, newline_notMem_suffixText h]

theorem newline_notMem_tag (h : t.IsWritten) : ∀ line ∈ t.tag, '\n' ∉ line := by
  obtain ⟨patch, kind, commits⟩ := t
  intro line hline
  cases kind with
  | none =>
    obtain ⟨suffix, rfl, rfl⟩ := Option.map_eq_some_iff.mp hline
    exact newline_notMem_suffixText h.commits
  | some kind =>
    obtain rfl := Option.some.inj hline
    obtain ⟨⟨-, hletters⟩, hcandidate⟩ := h.kind kind rfl
    have hnotLetters : '\n' ∉ kind.letters := newline_notMem hletters (by decide)
    have hnotCandidate : '\n' ∉ kind.candidate.getD [] := by
      cases hdigits : kind.candidate with
      | none => simp
      | some digits => exact newline_notMem (hcandidate digits hdigits).2 (by decide)
    simp [hnotLetters, hnotCandidate, newline_notMem_commitsText h.commits]

/-! ### How the tag is cut -/

theorem commitsText_eq (commits : Option (List Char × List Char)) :
    commitsText commits = separatorText commits.isSome ++ suffixText commits := by
  cases commits <;> rfl

theorem spells_cut (h : t.IsWritten) (hkind : ∀ kind ∈ t.kind, kind.IsCandidate)
    (hline : t.tag = some line) : t.cut.Spells line := by
  obtain ⟨patch, kind, commits⟩ := t
  cases kind with
  | none =>
    obtain ⟨suffix, rfl, rfl⟩ := Option.map_eq_some_iff.mp hline
    exact ⟨rfl, by simp [IsMarker, cut], h.commits⟩
  | some kind =>
    obtain rfl := Option.some.inj hline
    obtain ⟨hletters, hsome⟩ := hkind kind rfl
    obtain ⟨digits, hdigits⟩ := Option.isSome_iff_exists.mp hsome
    refine ⟨?_, (h.kind kind rfl).candidate, h.commits⟩
    simp [cut, hletters, hdigits, markerText, commitsText_eq]

/-- A tag without a candidate does not start with a letter. -/
theorem isAlpha_head?_of_spells {c : TagCut} (h : c.Spells line) (hc : c.candidate = none) :
    ∀ d ∈ line.head?, d.isAlpha = false := by
  obtain ⟨candidate, separator, commits⟩ := c
  obtain rfl : candidate = none := hc
  obtain rfl := h.text
  cases separator with
  | true =>
    rintro d ⟨⟩
    rfl
  | false => exact isAlpha_head?_suffixText h.commits

/-- So if one cut of a tag has no candidate, none has. -/
theorem candidate_eq_none_of_spells {c c' : TagCut} (h : c.Spells line) (hc : c.candidate = none)
    (h' : c'.Spells line) : c'.candidate = none := by
  cases hc' : c'.candidate with
  | none => rfl
  | some digits' =>
    have htext' := h'.text
    rw [hc'] at htext'
    have hletter := isAlpha_head?_of_spells h hc 'r' (by rw [htext']; rfl)
    exact absurd hletter (by decide)

theorem isFirst_cut (h : t.IsWritten) (hkind : ∀ kind ∈ t.kind, kind.IsCandidate)
    (hline : t.tag = some line) : t.cut.IsFirst line := by
  have hspells := spells_cut h hkind hline
  refine hspells.isFirst fun c' h' => ?_
  cases hc' : c'.candidate with
  | none => exact Nat.zero_le _
  | some digits' =>
    cases hc : t.cut.candidate with
    | none =>
      rw [candidate_eq_none_of_spells hspells hc h'] at hc'
      cases hc'
    | some digits =>
      -- the digits are taken as far as they go
      obtain ⟨kind, hsome, hdigits⟩ := Option.bind_eq_some_iff.mp hc
      have htext : line = kind.letters ++ (digits ++ commitsText t.commits) := by
        simpa [tag, Option.mem_def.mp hsome, hdigits, eq_comm] using hline
      have htext' := h'.text
      rw [hc'] at htext'
      rw [(hkind kind hsome).1, htext'] at htext
      have hcut := (List.cons.inj (List.cons.inj htext).2).2
      exact Numeral.length_le_of_stops hcut.symm (stops_commitsText t.commits)
        (h'.candidate digits' hc').2

/-- The letters of another release type cannot be cut off. -/
theorem not_spells (h : t.IsWritten) {kind : Kind} (hkind : t.kind = some kind)
    (hother : ¬kind.IsCandidate) (hline : t.tag = some line) (c : TagCut) : ¬c.Spells line := by
  intro hc
  obtain ⟨⟨hne, hletters⟩, hcandidate⟩ := h.kind kind hkind
  obtain rfl : kind.letters ++ (kind.candidate.getD [] ++ commitsText t.commits) = line := by
    simpa [tag, hkind] using hline
  cases hmarker : c.candidate with
  | none =>
    obtain ⟨l, letters, heq⟩ := List.exists_cons_of_ne_nil hne
    have hl := isAlpha_head?_of_spells hc hmarker l (by rw [heq]; rfl)
    rw [hletters l (by simp [heq])] at hl
    cases hl
  | some digits =>
    -- the letters are `rc` and end where the digits start
    have hdigits := hc.candidate digits hmarker
    have hcut : kind.letters ++ (kind.candidate.getD [] ++ commitsText t.commits)
        = ['r', 'c'] ++ (digits ++ (separatorText c.separator ++ suffixText c.commits)) := by
      rw [hc.text, hmarker]
      rfl
    obtain ⟨hrc, hrest⟩ := Numeral.append_inj_of_stop hcut hletters
      (isAlpha_head?_candidate hcandidate t.commits) isLetters_rc.2 (isAlpha_head?_digits hdigits)
    refine hother ⟨hrc, ?_⟩
    cases hnumber : kind.candidate with
    | some number => rfl
    | none =>
      have hstops := stops_commitsText t.commits
      rw [hnumber, Option.getD_none, List.nil_append] at hrest
      rw [hrest] at hstops
      exact absurd hstops (Version.not_stops_append hdigits)

theorem hasPart_cut (hkind : ∀ kind ∈ t.kind, kind.IsCandidate) (hline : t.tag = some line) :
    t.cut.HasPart := by
  cases hsome : t.kind with
  | none =>
    right
    rw [tag, hsome] at hline
    obtain ⟨suffix, hsuffix, -⟩ := Option.map_eq_some_iff.mp hline
    simp [cut, hsuffix]
  | some kind =>
    left
    simpa [cut, hsome] using (hkind kind hsome).2

/-- A tag with a candidate or without a release type is read as the parts that it is
written with. -/
theorem exists_ofText (h : t.IsWritten) (hkind : ∀ kind ∈ t.kind, kind.IsCandidate)
    (hline : t.tag = some line) {type hash : Option String} {candidate count : Option UInt32}
    (hmeans : KindMeans t.kind type candidate) (hcommits : SuffixMeans t.commits count hash) :
    ∃ tag, PreRelease.ofText (String.ofList line) = .build (String.ofList line) tag
      ∧ tag.candidate.map (fun _ => "rc") = type ∧ tag.candidate = candidate
      ∧ tag.commits.map Commits.count = count ∧ tag.commits.map Commits.hash = hash := by
  obtain ⟨tag, htag, rfl, rfl, rfl⟩ :=
    TagCut.exists_means (hasPart_cut hkind hline) hmeans.candidate hcommits
  have hfirst : t.cut.IsFirst (String.ofList line).toList := by
    rw [String.toList_ofList]
    exact isFirst_cut h hkind hline
  refine ⟨tag, PreRelease.ofText_eq_build_iff.mpr ⟨t.cut, hfirst, htag⟩, ?_, rfl, rfl, rfl⟩
  rw [hmeans.type]
  cases hsome : t.kind with
  | none =>
    rw [hsome] at hmeans
    simp [hmeans.of_none.2]
  | some kind =>
    obtain ⟨hletters, hnumber⟩ := hkind kind hsome
    have hcandidate := congrArg Option.isSome hmeans.candidate
    simp only [hsome, Option.isSome_map, Option.bind_some, hnumber] at hcandidate
    obtain ⟨n, hn⟩ := Option.isSome_iff_exists.mp hcandidate
    simp [hn, hletters]

theorem ofText_of_other (h : t.IsWritten) {kind : Kind} (hkind : t.kind = some kind)
    (hother : ¬kind.IsCandidate) (hline : t.tag = some line) :
    PreRelease.ofText (String.ofList line) = .plain (String.ofList line) := by
  refine PreRelease.ofText_eq_plain_iff.mpr fun c hfirst _ => ?_
  rw [String.toList_ofList] at hfirst
  exact not_spells h hkind hother hline c hfirst.spells

theorem tag_eq_none_iff : t.tag = none ↔ t.kind = none ∧ t.commits = none := by
  cases hkind : t.kind <;> simp [tag, hkind]

end Tail

/-! ## The version in the text of a build -/

namespace Spelling

variable {s : Spelling} {b : BuildVersion} {text : String}

/-- The tag in the text of a build. -/
def tag (s : Spelling) : Option (List Char) :=
  s.tail.bind Tail.tag

/-- The text of a build is the text of the version with its numbers and its tag. -/
theorem parse?_of_spells (hs : s.Spells text.toList) (hm : s.Means b) :
    Version.parse? text = some ⟨b.release, s.tag.map String.ofList⟩ := by
  obtain ⟨major, minor, tail⟩ := s
  have htext : text.toList = major ++ '.' :: (minor ++
      Version.Tail.text (tail.map fun t => (t.patch, t.tag))) := by
    rw [hs.text]
    cases tail with
    | none => rfl
    | some t => simp [tailText, Version.Tail.text, Tail.tagText_tag]
  have hwritten : Version.Tail.IsWritten (tail.map fun t => (t.patch, t.tag)) := by
    cases tail with
    | none => trivial
    | some t => exact ⟨(hs.tail t rfl).patch, Tail.newline_notMem_tag (hs.tail t rfl)⟩
  rw [Version.parse?_eq_version? htext hs.major hs.minor hwritten,
    Version.Match.version?_eq_some_iff]
  refine ⟨hm.major, hm.minor, ?_, ?_⟩
  · rw [hm.patch]
    cases tail <;> rfl
  · cases tail <;> rfl

theorem parts_of_tag_eq_none (h : s.tag = none) : s.kind = none ∧ s.commits = none := by
  obtain ⟨major, minor, tail⟩ := s
  cases tail with
  | none => exact ⟨rfl, rfl⟩
  | some t => exact Tail.tag_eq_none_iff.mp h

/-- Versions know the release type of a build, so the version in its text has all of its
parts. -/
theorem ofVersion_of_spells (hs : s.Spells text.toList) (hm : s.Means b)
    (hkind : ∀ kind ∈ s.kind, kind.IsCandidate) {v : Version}
    (hv : v = ⟨b.release, s.tag.map String.ofList⟩) :
    (∀ plain, v.preRelease ≠ some (.plain plain)) ∧ ofVersion v = b := by
  subst hv
  obtain ⟨release, type, candidate, count, hash⟩ := b
  obtain ⟨-, -, -, hmeans, hcommits⟩ := hm
  dsimp only at hmeans hcommits
  cases htag : s.tag with
  | none =>
    obtain ⟨hnone, hnoCommits⟩ := parts_of_tag_eq_none htag
    rw [hnone] at hmeans
    rw [hnoCommits] at hcommits
    obtain ⟨rfl, rfl⟩ := hmeans.of_none
    obtain ⟨rfl, rfl⟩ := hcommits.of_none
    exact ⟨by simp [Version.preRelease], ofVersion_of_none rfl⟩
  | some line =>
    obtain ⟨t, htail, hline⟩ := Option.bind_eq_some_iff.mp htag
    simp only [kind, commits, htail, Option.bind_some] at hkind hmeans hcommits
    obtain ⟨tag, hread, rfl, rfl, rfl, rfl⟩ :=
      Tail.exists_ofText (hs.tail t htail) hkind hline hmeans hcommits
    have hbuild : Version.preRelease ⟨release, some (String.ofList line)⟩
        = some (.build (String.ofList line) tag) := congrArg some hread
    exact ⟨by simp [hbuild], ofVersion_of_build hbuild⟩

theorem preRelease_of_other {kind : Kind} (hs : s.Spells text.toList) (hkind : s.kind = some kind)
    (hother : ¬kind.IsCandidate) (release : Release) :
    ∃ plain, Version.preRelease ⟨release, s.tag.map String.ofList⟩ = some (.plain plain) := by
  obtain ⟨t, htail, hkind⟩ := Option.bind_eq_some_iff.mp hkind
  have hline :
      t.tag = some (kind.letters ++ (kind.candidate.getD [] ++ commitsText t.commits)) := by
    simp [Tail.tag, hkind]
  have htag : s.tag = some _ := (congrArg (Option.bind · Tail.tag) htail).trans hline
  rw [htag]
  exact ⟨_, congrArg some (Tail.ofText_of_other (hs.tail t htail) hkind hother hline)⟩

theorem forall_isCandidate_iff (hm : s.Means b) :
    (∀ kind ∈ s.kind, kind.IsCandidate) ↔
      b.releaseType = none ∨ b.releaseType = some "rc" ∧ b.candidate.isSome := by
  have hsome := congrArg Option.isSome hm.kind.candidate
  rw [hm.kind.type]
  cases hkind : s.kind with
  | none => simp
  | some kind =>
    have hletters : String.ofList kind.letters = "rc" ↔ kind.letters = ['r', 'c'] := by
      rw [← String.toList_inj, String.toList_ofList]
      rfl
    simp only [hkind, Option.isSome_map, Option.bind_some] at hsome
    simp [hletters, hsome, Kind.IsCandidate]

end Spelling

/-! ## Builds of versions are written as versions -/

variable (v : Version)

/-- The build of a version has no release type, or is a numbered candidate. -/
theorem kind_ofVersion :
    (ofVersion v).releaseType = none
      ∨ (ofVersion v).releaseType = some "rc" ∧ (ofVersion v).candidate.isSome := by
  unfold ofVersion
  split
  · exact Or.inl rfl
  · rename_i tag _
    cases tag.candidate <;> simp

theorem isWritable_ofVersion : (ofVersion v).IsWritable := by
  constructor
  · intro type htype
    rcases kind_ofVersion v with hnone | ⟨hrc, -⟩
    · rw [hnone] at htype
      cases htype
    · rw [hrc] at htype
      cases htype
      exact isLetters_rc
  · intro hash hhash _
    rcases hpre : v.preRelease with _ | ⟨text⟩ | ⟨text, tag⟩
    · rw [ofVersion_of_none hpre] at hhash
      cases hhash
    · rw [ofVersion_of_plain hpre] at hhash
      cases hhash
    · rw [ofVersion_of_build hpre] at hhash
      exact Version.isHash_of_preRelease hpre hash hhash

/-- All that a version says about its build is written. -/
theorem written_ofVersion : (ofVersion v).written = ofVersion v := by
  unfold ofVersion
  split
  · rfl
  · rename_i tag _
    cases tag.candidate <;> cases tag.commits <;> simp [written]

theorem parse?_render_ofVersion : parse? (ofVersion v).render = some (ofVersion v) := by
  rw [parse?_render (isWritable_ofVersion v), written_ofVersion]

end BuildVersion

/-! ## The two readers -/

open BuildVersion (ofVersion)

/-- Each text of a build is the text of a version with the same numbers. If the build has
no release type, or is a numbered `rc`, it is the build of this version; any other type
makes the tag of the version plain. Conversely both readers take the text of the build of
a version without a plain tag: one gives back the build, and the other gives a version
equal to the one that was written, however the tag of this one is spelled. -/
theorem readers_agree :
    (∀ (text : String) (b : BuildVersion), BuildVersion.parse? text = some b →
        ∃ v, Version.parse? text = some v ∧ v.release = b.release
          ∧ (b.releaseType = none ∨ b.releaseType = some "rc" ∧ b.candidate.isSome →
              ofVersion v = b)
          ∧ (¬(b.releaseType = none ∨ b.releaseType = some "rc" ∧ b.candidate.isSome) →
              ∃ plain, v.preRelease = some (.plain plain)))
    ∧ (∀ v : Version, (∀ plain, v.preRelease ≠ some (.plain plain)) →
        BuildVersion.parse (ofVersion v).render = .ok (ofVersion v)
          ∧ ∃ w, Version.parse (ofVersion v).render = .ok w ∧ (w == v) = true) := by
  constructor
  · intro text b hread
    obtain ⟨s, hs, hm⟩ := BuildVersion.parse?_eq_some_iff.mp hread
    refine ⟨_, BuildVersion.Spelling.parse?_of_spells hs hm, rfl, ?_, ?_⟩
    · intro hkind
      exact (BuildVersion.Spelling.ofVersion_of_spells hs hm
        ((BuildVersion.Spelling.forall_isCandidate_iff hm).mpr hkind) rfl).2
    · intro hother
      rw [← BuildVersion.Spelling.forall_isCandidate_iff hm] at hother
      simp only [Classical.not_forall] at hother
      obtain ⟨kind, hkind, hnot⟩ := hother
      exact BuildVersion.Spelling.preRelease_of_other hs hkind hnot b.release
  · intro v hv
    have hread := BuildVersion.parse?_render_ofVersion v
    obtain ⟨s, hs, hm⟩ := BuildVersion.parse?_eq_some_iff.mp hread
    have hkind := (BuildVersion.Spelling.forall_isCandidate_iff hm).mpr
      (BuildVersion.kind_ofVersion v)
    obtain ⟨hw, hbuild⟩ := BuildVersion.Spelling.ofVersion_of_spells hs hm hkind rfl
    refine ⟨?_, _, Version.parse_eq_ok_iff.mpr (BuildVersion.Spelling.parse?_of_spells hs hm), ?_⟩
    · rw [BuildVersion.parse, hread]
    · -- neither tag is plain, so the versions compare as their builds, which are the same
      show (compare _ v).isEq = true
      rw [Version.compare_eq_compare_ofVersion hw hv, hbuild, Std.ReflOrd.compare_self]
      rfl

-- the tag is candidate 11 with no commits, and so it is written
example : (ofVersion (.tagged 4 2 0 "rc110-gabcd")).render = "4.2.0-rc11-0-gabcd" := by decide

end Negotiation
