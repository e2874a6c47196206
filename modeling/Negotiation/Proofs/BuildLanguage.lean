/-
# Negotiation.Proofs.BuildLanguage -- the language of build versions

The texts of builds make a language

    <major>.<minor>[.<patch>[-<type>[<candidate>]][-<commits>-g<hash>]]

with one way at most to cut each text into its parts: a run of digits or letters ends
where something else starts, and after a `-` the first character tells a type from a
commit count. So the parts of a text are its own, and its numbers are all that can be
wrong with them. The reader takes the texts whose numbers fit, and no others.

What is written of a build is in the language if its type is letters and its hash, where
it is written, is one. It is read back as it is written; only parts that are not written
are lost. A build that was read has no such parts.
-/

import Negotiation.Proofs.ParserAgreement

namespace Negotiation.BuildVersion

open TagCut (IsMarker IsCommits)

/-! ## One spelling for each text -/

theorem commitsText_inj {commits commits' : Option (List Char × List Char)}
    (h : IsCommits commits) (h' : IsCommits commits')
    (heq : commitsText commits = commitsText commits') : commits = commits' := by
  cases commits with
  | none =>
    cases commits' with
    | none => rfl
    | some suffix' => cases heq
  | some suffix =>
    cases commits' with
    | none => cases heq
    | some suffix' => exact h.suffixText_inj h' (List.cons.inj heq).2

/-- A commit suffix is no release type: it starts with a digit. -/
theorem commitsText_ne_kindText {commits : Option (List Char × List Char)} {kind : Kind}
    (h : IsCommits commits) (hkind : kind.IsWritten) (rest : List Char) :
    commitsText commits ≠ kindText (some kind) ++ rest := by
  intro heq
  cases commits with
  | none => cases heq
  | some suffix =>
    have hcut : TagCut.suffixText (some suffix)
        = kind.letters ++ kind.candidate.getD [] ++ rest := (List.cons.inj heq).2
    obtain ⟨l, letters, hletters⟩ := List.exists_cons_of_ne_nil hkind.letters.1
    have hletter : l.isAlpha = true := hkind.letters.2 l (by simp [hletters])
    rw [isAlpha_head?_suffixText h l (by rw [hcut, hletters]; rfl)] at hletter
    cases hletter

theorem candidate_inj {candidate candidate' : Option (List Char)}
    {commits commits' : Option (List Char × List Char)}
    (h : IsMarker candidate) (h' : IsMarker candidate')
    (heq : candidate.getD [] ++ commitsText commits = candidate'.getD [] ++ commitsText commits') :
    candidate = candidate' ∧ commitsText commits = commitsText commits' := by
  have hstops := stops_commitsText commits
  have hstops' := stops_commitsText commits'
  cases candidate with
  | none =>
    cases candidate' with
    | none => exact ⟨rfl, heq⟩
    | some digits' =>
      have hcut : commitsText commits = digits' ++ commitsText commits' := heq
      rw [hcut] at hstops
      exact absurd hstops (Version.not_stops_append (h' digits' rfl))
  | some digits =>
    cases candidate' with
    | none =>
      have hcut : digits ++ commitsText commits = commitsText commits' := heq
      rw [← hcut] at hstops'
      exact absurd hstops' (Version.not_stops_append (h digits rfl))
    | some digits' =>
      obtain ⟨rfl, hrest⟩ := (h digits rfl).append_inj heq hstops (h' digits' rfl) hstops'
      exact ⟨rfl, hrest⟩

theorem kindText_inj {kind kind' : Option Kind} {commits commits' : Option (List Char × List Char)}
    (hkind : ∀ k ∈ kind, k.IsWritten) (hkind' : ∀ k ∈ kind', k.IsWritten)
    (hcommits : IsCommits commits) (hcommits' : IsCommits commits')
    (heq : kindText kind ++ commitsText commits = kindText kind' ++ commitsText commits') :
    kind = kind' ∧ commits = commits' := by
  cases kind with
  | none =>
    cases kind' with
    | none => exact ⟨rfl, commitsText_inj hcommits hcommits' heq⟩
    | some k' => exact absurd heq (commitsText_ne_kindText hcommits (hkind' k' rfl) _)
  | some k =>
    cases kind' with
    | none => exact absurd heq.symm (commitsText_ne_kindText hcommits' (hkind k rfl) _)
    | some k' =>
      obtain ⟨letters, candidate⟩ := k
      obtain ⟨letters', candidate'⟩ := k'
      obtain ⟨hletters, hcandidate⟩ := hkind _ rfl
      obtain ⟨hletters', hcandidate'⟩ := hkind' _ rfl
      have hcut : letters ++ (candidate.getD [] ++ commitsText commits)
          = letters' ++ (candidate'.getD [] ++ commitsText commits') := by
        simpa [kindText] using heq
      -- the letters end where digits, a suffix or the end of the text follow
      obtain ⟨rfl, hrest⟩ := Numeral.append_inj_of_stop hcut hletters.2
        (isAlpha_head?_candidate hcandidate commits) hletters'.2
        (isAlpha_head?_candidate hcandidate' commits')
      obtain ⟨rfl, hsuffix⟩ := candidate_inj hcandidate hcandidate' hrest
      exact ⟨rfl, commitsText_inj hcommits hcommits' hsuffix⟩

theorem tailText_inj {tail tail' : Option Tail} (h : ∀ t ∈ tail, t.IsWritten)
    (h' : ∀ t ∈ tail', t.IsWritten) (heq : tailText tail = tailText tail') : tail = tail' := by
  cases tail with
  | none =>
    cases tail' with
    | none => rfl
    | some t' => cases heq
  | some t =>
    cases tail' with
    | none => cases heq
    | some t' =>
      obtain ⟨patch, kind, commits⟩ := t
      obtain ⟨patch', kind', commits'⟩ := t'
      obtain ⟨hpatch, hkind, hcommits⟩ := h _ rfl
      obtain ⟨hpatch', hkind', hcommits'⟩ := h' _ rfl
      have hcut : patch ++ (kindText kind ++ commitsText commits)
          = patch' ++ (kindText kind' ++ commitsText commits') := (List.cons.inj heq).2
      obtain ⟨rfl, hrest⟩ := hpatch.append_inj hcut (stops_kindText kind commits) hpatch'
        (stops_kindText kind' commits')
      obtain ⟨rfl, rfl⟩ := kindText_inj hkind hkind' hcommits hcommits' hrest
      rfl

namespace Spelling

variable {s s' : Spelling} {b b' : BuildVersion} {text : List Char}

/-- A text is written in one way at most. -/
theorem Spells.unique (h : s.Spells text) (h' : s'.Spells text) : s = s' := by
  obtain ⟨major, minor, tail⟩ := s
  obtain ⟨major', minor', tail'⟩ := s'
  obtain ⟨rfl, hrest⟩ := h.major.append_inj (h.text.symm.trans h'.text) Version.stops_dot h'.major
    Version.stops_dot
  obtain ⟨rfl, htail⟩ := h.minor.append_inj (List.cons.inj hrest).2 (stops_tailText tail) h'.minor
    (stops_tailText tail')
  obtain rfl : tail = tail' := tailText_inj h.tail h'.tail htail
  rfl

/-! ## What a spelling means -/

/-- The runs of digits of a spelling. -/
def numbers (s : Spelling) : List (List Char) :=
  s.major :: s.minor :: ((s.tail.map Tail.patch).toList
    ++ (s.kind.bind Kind.candidate).toList ++ (s.commits.map Prod.fst).toList)

/-- Every number is a word. -/
def Fits (s : Spelling) : Prop :=
  ∀ digits ∈ s.numbers, Numeral.value digits < UInt32.size

theorem fits_iff :
    s.Fits ↔ Numeral.value s.major < UInt32.size ∧ Numeral.value s.minor < UInt32.size
      ∧ (∀ run ∈ s.tail.map Tail.patch, Numeral.value run < UInt32.size)
      ∧ (∀ run ∈ s.kind.bind Kind.candidate, Numeral.value run < UInt32.size)
      ∧ ∀ run ∈ s.commits.map Prod.fst, Numeral.value run < UInt32.size := by
  simp only [Fits, numbers, List.forall_mem_cons, List.mem_append, Option.mem_toList,
    Option.mem_def, or_imp, forall_and, and_assoc]

/-- A spelling stands for one build at most. -/
theorem Means.unique (h : s.Means b) (h' : s.Means b') : b = b' := by
  obtain ⟨⟨major, minor, patch⟩, type, candidate, count, hash⟩ := b
  obtain ⟨⟨major', minor', patch'⟩, type', candidate', count', hash'⟩ := b'
  have hwords : Function.Injective (Option.map UInt32.toNat) :=
    Option.map_injective fun _ _ => UInt32.toNat_inj.mp
  obtain rfl : major = major' := UInt32.toNat_inj.mp (h.major.trans h'.major.symm)
  obtain rfl : minor = minor' := UInt32.toNat_inj.mp (h.minor.trans h'.minor.symm)
  obtain rfl : patch = patch' := UInt32.toNat_inj.mp (h.patch.trans h'.patch.symm)
  obtain rfl : type = type' := h.kind.type.trans h'.kind.type.symm
  obtain rfl : candidate = candidate' := hwords (h.kind.candidate.trans h'.kind.candidate.symm)
  obtain rfl : count = count' := hwords (h.commits.count.trans h'.commits.count.symm)
  obtain rfl : hash = hash' := h.commits.hash.trans h'.commits.hash.symm
  rfl

/-- A spelling stands for a build exactly if its numbers fit. -/
theorem exists_means_iff : (∃ b, s.Means b) ↔ s.Fits := by
  rw [fits_iff]
  constructor
  · rintro ⟨b, hmajor, hminor, hpatch, hkind, hcommits⟩
    refine ⟨hmajor ▸ b.release.major.toNat_lt_size, hminor ▸ b.release.minor.toNat_lt_size, ?_,
      TagCut.exists_words_iff.mp ⟨_, hkind.candidate⟩,
      TagCut.exists_words_iff.mp ⟨_, hcommits.count⟩⟩
    intro run hrun
    obtain ⟨tail, htail, rfl⟩ := Option.map_eq_some_iff.mp hrun
    have hvalue : b.release.patch.toNat = Numeral.value tail.patch := by
      simpa [htail] using hpatch
    exact hvalue ▸ b.release.patch.toNat_lt_size
  · rintro ⟨hmajor, hminor, hpatch, hcandidate, hcount⟩
    obtain ⟨patch, hpatch⟩ := TagCut.exists_words_iff.mpr hpatch
    obtain ⟨candidate, hcandidate⟩ := TagCut.exists_words_iff.mpr hcandidate
    obtain ⟨count, hcount⟩ := TagCut.exists_words_iff.mpr hcount
    refine ⟨{
      release := ⟨UInt32.ofNatLT _ hmajor, UInt32.ofNatLT _ hminor, patch.getD 0⟩
      releaseType := s.kind.map fun kind => String.ofList kind.letters
      candidate := candidate
      commits := count
      commitHash := (s.commits.map Prod.snd).map String.ofList }, ?_, ?_, ?_, ⟨rfl, hcandidate⟩,
      ⟨hcount, rfl⟩⟩
    · simp
    · simp
    · have hvalue : patch.map UInt32.toNat = s.tail.map fun tail => Numeral.value tail.patch :=
        hpatch.trans (Option.map_map ..)
      rw [← hvalue]
      cases patch <;> rfl

theorem Spells.isWritten_kind (h : s.Spells text) : ∀ kind ∈ s.kind, kind.IsWritten := by
  intro kind hkind
  obtain ⟨tail, htail, hkind⟩ := Option.bind_eq_some_iff.mp hkind
  exact (h.tail tail htail).kind kind hkind

theorem Spells.isCommits_commits (h : s.Spells text) : IsCommits s.commits := by
  intro suffix hsuffix
  obtain ⟨tail, htail, hsuffix⟩ := Option.bind_eq_some_iff.mp hsuffix
  exact (h.tail tail htail).commits suffix hsuffix

end Spelling

/-! ## What is read -/

variable {b : BuildVersion} {text : String}

theorem parse?_eq_none_iff :
    parse? text = none ↔ ∀ s : Spelling, s.Spells text.toList → ¬s.Fits := by
  constructor
  · intro h s hs hfits
    obtain ⟨b, hmeans⟩ := Spelling.exists_means_iff.mpr hfits
    rw [parse?_eq_some_iff.mpr ⟨s, hs, hmeans⟩] at h
    cases h
  · intro h
    refine Option.eq_none_iff_forall_ne_some.mpr fun b hb => ?_
    obtain ⟨s, hs, hmeans⟩ := parse?_eq_some_iff.mp hb
    exact h s hs (Spelling.exists_means_iff.mp ⟨b, hmeans⟩)

theorem parse_eq_ok_iff : parse text = .ok b ↔ parse? text = some b := by
  unfold parse
  cases parse? text <;> simp

theorem parse_eq_error_iff {e : Error} :
    parse text = .error e ↔ parse? text = none ∧ e = Fault.invalidVersion text := by
  unfold parse
  cases parse? text <;> simp [eq_comm]

/-- The reader takes the language of builds and no more.

* A text is a build exactly if it is written as one from its first to its last character,
  and it is then the build that it is written as: numbers are read by their values, a
  patch number that is left out is 0, and other parts that are left out are not there.
* A text is written in one way at most, and if all numbers fit, its spelling stands for
  one build, which is read.
* What is not written as a build, or has a number that does not fit, is none. The readers
  that report errors report the whole text. -/
theorem reads_build_language (text : String) :
    (∀ b, parse? text = some b ↔ ∃ s : Spelling, s.Spells text.toList ∧ s.Means b)
    ∧ (∀ s : Spelling, s.Spells text.toList →
        (∀ s' : Spelling, s'.Spells text.toList → s' = s)
        ∧ (s.Fits → ∃ b, parse? text = some b ∧ ∀ b', s.Means b' ↔ b' = b))
    ∧ (parse? text = none ↔ ∀ s : Spelling, s.Spells text.toList → ¬s.Fits)
    ∧ (∀ b, parse text = .ok b ↔ parse? text = some b)
    ∧ (∀ e, parse text = .error e ↔ parse? text = none ∧ e = Fault.invalidVersion text)
    ∧ FromText.fromText text = parse text := by
  refine ⟨fun b => parse?_eq_some_iff, ?_, parse?_eq_none_iff, fun b => parse_eq_ok_iff,
    fun e => parse_eq_error_iff, rfl⟩
  intro s hs
  refine ⟨fun s' hs' => hs'.unique hs, ?_⟩
  intro hfits
  obtain ⟨b, hmeans⟩ := Spelling.exists_means_iff.mpr hfits
  refine ⟨b, parse?_eq_some_iff.mpr ⟨s, hs, hmeans⟩, ?_⟩
  intro b'
  constructor
  · intro hmeans'
    exact hmeans'.unique hmeans
  · rintro rfl
    exact hmeans

-- a type ends where its candidate number starts, and a suffix cannot follow a minor number
example :
    parse? "4.2.07-rc1-010-gabcd"
        = some ⟨⟨4, 2, 7⟩, some "rc", some 1, some 10, some "abcd"⟩
      ∧ parse? "4.2-10-gabcd" = none := by
  decide

/-! ## What is written is read again -/

theorem isWritable_of_parse? (h : parse? text = some b) : b.IsWritable := by
  obtain ⟨s, hs, hm⟩ := parse?_eq_some_iff.mp h
  constructor
  · intro type htype
    rw [hm.kind.type] at htype
    obtain ⟨kind, hkind, rfl⟩ := Option.map_eq_some_iff.mp htype
    rw [String.toList_ofList]
    exact (hs.isWritten_kind kind hkind).letters
  · intro hash hhash _
    rw [hm.commits.hash, Option.map_map] at hhash
    obtain ⟨suffix, hsuffix, rfl⟩ := Option.map_eq_some_iff.mp hhash
    rw [Function.comp_apply, String.toList_ofList]
    exact (hs.isCommits_commits suffix hsuffix).2

/-- Nothing of a build is lost exactly if its candidate number has a type and both halves
of its commit suffix come together. -/
theorem written_eq_self_iff :
    b.written = b ↔
      (b.releaseType = none → b.candidate = none) ∧ b.commits.isSome = b.commitHash.isSome := by
  obtain ⟨release, type, candidate, count, hash⟩ := b
  cases type <;> cases count <;> cases hash <;> simp [written, eq_comm]

theorem written_of_parse? (h : parse? text = some b) : b.written = b := by
  obtain ⟨s, -, hm⟩ := parse?_eq_some_iff.mp h
  refine written_eq_self_iff.mpr ⟨?_, ?_⟩
  · intro hnone
    have hkind : s.kind = none := by
      rw [hm.kind.type] at hnone
      exact Option.map_eq_none_iff.mp hnone
    have hmeans := hm.kind
    rw [hkind] at hmeans
    exact hmeans.of_none.2
  · obtain ⟨commits, hcount, hhash⟩ := hm.commits.exists_commits
    rw [← hcount, ← hhash, Option.isSome_map, Option.isSome_map]

/-- The parts that are lost do not matter for writing. -/
theorem isWritable_of_written (h : b.written.IsWritable) : b.IsWritable := by
  obtain ⟨htype, hhash⟩ := h
  refine ⟨htype, ?_⟩
  intro hash hsome hcount
  obtain ⟨n, hn⟩ := Option.isSome_iff_exists.mp hcount
  apply hhash hash
  · simpa [written, hn] using hsome
  · simp [written, Option.mem_def.mp hsome, hn]

/-- A build is read back from its text, as far as it is written, exactly if it can be
written. -/
theorem parse?_render_iff : parse? b.render = some b.written ↔ b.IsWritable := by
  constructor
  · intro h
    exact isWritable_of_written (isWritable_of_parse? h)
  · exact parse?_render

/-- Texts of builds, for every choice of their parts:

* a build is read back from its text exactly if its release type, if it has one, is one
  or more letters, and its hash, if it also has a commit count, is 4 to 40 hexadecimal
  digits in lower case. All of it comes back, part by part, but a candidate number
  without a type and one half of the commit suffix without the other. So nothing is lost
  exactly if there are no such parts;
* the build of a version is read back as it is;
* every build that is read from a text is such a build, so that writing it and reading it
  again changes nothing. -/
theorem build_text_round_trip :
    (∀ b : BuildVersion,
      (parse b.render = .ok b.written ↔ b.IsWritable)
      ∧ (b.written = b ↔
          (b.releaseType = none → b.candidate = none)
            ∧ b.commits.isSome = b.commitHash.isSome))
    ∧ (∀ v : Version, parse (ofVersion v).render = .ok (ofVersion v))
    ∧ (∀ text b, parse text = .ok b →
        b.IsWritable ∧ b.written = b ∧ parse b.render = .ok b) := by
  refine ⟨fun b => ⟨parse_eq_ok_iff.trans parse?_render_iff, written_eq_self_iff⟩, ?_, ?_⟩
  · intro v
    exact parse_eq_ok_iff.mpr (parse?_render_ofVersion v)
  · intro text b h
    have hread := parse_eq_ok_iff.mp h
    have hwritable := isWritable_of_parse? hread
    have hwritten := written_of_parse? hread
    refine ⟨hwritable, hwritten, ?_⟩
    have hback := parse?_render hwritable
    rw [hwritten] at hback
    exact parse_eq_ok_iff.mpr hback

-- a candidate number without a type, and a commit count without a hash, are not written
example : parse? (render { release := ⟨4, 2, 0⟩, candidate := some 1, commits := some 10 })
    = some { release := ⟨4, 2, 0⟩ } := by
  decide

end Negotiation.BuildVersion
