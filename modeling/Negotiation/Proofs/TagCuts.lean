/-
# Negotiation.Proofs.TagCuts -- which parts a pre-release tag has

A tag is matched as a whole against the build grammar

    [rc<digits>][-][<digits>-g<hash>]

A cut says which parts of the grammar a tag is made of. The grammar is ambiguous:
`rc123-gabcd` is candidate 12 with 3 commits, or candidate 1 with 23. The cuts are
ranked by their parts from left to right, the candidate with the most digits first,
and the first cut alone decides what the tag means. If it has no part, or if one of its
numbers is too large, the tag is plain text, even if another cut would do.

Only the candidate is a choice: the digits taken for it leave a rest that can be read in
one way at most. So the first cut is the one with the longest candidate, and it is the
one that the reader of tags stops at.
-/

import Negotiation.Proofs.VersionText

namespace Negotiation

open Numeral (IsDigits Stops)

/-! ## Commit suffixes -/

namespace Commits

/-- An abbreviated hash: 4 to 40 hexadecimal digits in lower case. -/
def IsHash (hash : List Char) : Prop :=
  4 ≤ hash.length ∧ hash.length ≤ 40 ∧ ∀ c ∈ hash, c.isDigit = true ∨ 'a' ≤ c ∧ c ≤ 'f'

theorem isHash_eq_true_iff {hash : List Char} : isHash hash = true ↔ IsHash hash := by
  simp [isHash, isHashDigit, IsHash, and_assoc]

theorem split?_eq_some_iff {text count hash : List Char} :
    split? text = some (count, hash) ↔
      text = count ++ '-' :: 'g' :: hash ∧ IsDigits count ∧ IsHash hash := by
  constructor
  · intro h
    obtain ⟨⟨digits, rest⟩, hread, h⟩ := Option.bind_eq_some_iff.mp h
    dsimp only at h
    split at h
    · split at h
      · rename_i hhash
        obtain ⟨rfl, rfl⟩ := Prod.mk.inj (Option.some.inj h)
        obtain ⟨rfl, hdigits, -⟩ := Numeral.digits?_eq_some_iff.mp hread
        exact ⟨rfl, hdigits, isHash_eq_true_iff.mp hhash⟩
      · cases h
    · cases h
  · rintro ⟨rfl, hcount, hhash⟩
    have hread : Numeral.digits? (count ++ '-' :: 'g' :: hash) = some (count, '-' :: 'g' :: hash) :=
      Numeral.digits?_eq_some_iff.mpr ⟨rfl, hcount, Numeral.stops_dash⟩
    simp [split?, hread, isHash_eq_true_iff.mpr hhash]

end Commits

/-! ## Cuts -/

/-- A way to cut a tag into the parts of the build grammar. -/
structure TagCut where
  /-- The digits after `rc`. -/
  candidate : Option (List Char)
  /-- Whether a `-` follows. -/
  separator : Bool
  /-- The count and the hash of the commit suffix. -/
  commits : Option (List Char × List Char)

namespace TagCut

/-- A candidate as it is written. -/
def markerText : Option (List Char) → List Char
  | none => []
  | some digits => 'r' :: 'c' :: digits

def separatorText (separator : Bool) : List Char :=
  if separator then ['-'] else []

/-- A commit suffix as it is written. -/
def suffixText : Option (List Char × List Char) → List Char
  | none => []
  | some (count, hash) => count ++ '-' :: 'g' :: hash

def IsMarker (candidate : Option (List Char)) : Prop :=
  ∀ digits ∈ candidate, IsDigits digits

def IsCommits (commits : Option (List Char × List Char)) : Prop :=
  ∀ suffix ∈ commits, IsDigits suffix.1 ∧ Commits.IsHash suffix.2

/-- The tag is cut in this way. -/
structure Spells (c : TagCut) (tag : List Char) : Prop where
  text : tag = markerText c.candidate ++ (separatorText c.separator ++ suffixText c.commits)
  candidate : IsMarker c.candidate
  commits : IsCommits c.commits

/-- How many digits a candidate has: none has fewer than any. -/
def markerLength (candidate : Option (List Char)) : Nat :=
  (candidate.map List.length).getD 0

/-- How much of each part there is, from left to right. -/
def lengths (c : TagCut) : List Nat :=
  [markerLength c.candidate, (separatorText c.separator).length, c.commits.toList.length]

/-- A cut is preferred to one that has less of the first part in which they differ. -/
def Preferred (c c' : TagCut) : Prop :=
  Version.AtMost c'.lengths c.lengths

/-- The cut of a tag that is preferred to all others. -/
structure IsFirst (c : TagCut) (tag : List Char) : Prop where
  spells : c.Spells tag
  preferred : ∀ c' : TagCut, c'.Spells tag → c.Preferred c'

variable {tag rest rest' : List Char} {candidate candidate' : Option (List Char)} {c c' : TagCut}

theorem preferred_refl (c : TagCut) : c.Preferred c :=
  Or.inr ⟨rfl, Or.inr ⟨rfl, Or.inr ⟨rfl, trivial⟩⟩⟩

theorem Preferred.markerLength_le (h : c.Preferred c') :
    markerLength c'.candidate ≤ markerLength c.candidate := by
  rcases h with hlt | ⟨heq, -⟩
  · exact Nat.le_of_lt hlt
  · exact Nat.le_of_eq heq

/-! ## The candidate decides the cut -/

theorem IsMarker.markerLength_pos {digits : List Char} (h : IsMarker (some digits)) :
    0 < markerLength (some digits) :=
  List.length_pos_iff.mpr (h digits rfl).1

theorem IsMarker.eq_of_markerLength_eq (h : IsMarker candidate) (h' : IsMarker candidate')
    (htext : markerText candidate ++ rest = markerText candidate' ++ rest')
    (hlength : markerLength candidate = markerLength candidate') :
    candidate = candidate' ∧ rest = rest' := by
  cases candidate with
  | none =>
    cases candidate' with
    | none => exact ⟨rfl, htext⟩
    | some digits' =>
      have hpos := h'.markerLength_pos
      rw [← hlength] at hpos
      exact absurd hpos (Nat.lt_irrefl 0)
  | some digits =>
    cases candidate' with
    | none =>
      have hpos := h.markerLength_pos
      rw [hlength] at hpos
      exact absurd hpos (Nat.lt_irrefl 0)
    | some digits' =>
      have hcut : digits ++ rest = digits' ++ rest' :=
        (List.cons.inj (List.cons.inj htext).2).2
      obtain ⟨rfl, rfl⟩ := List.append_inj hcut hlength
      exact ⟨rfl, rfl⟩

/-- A commit suffix does not start with a separator. -/
theorem IsCommits.suffixText_ne_dash {commits : Option (List Char × List Char)}
    (h : IsCommits commits) : suffixText commits ≠ '-' :: rest := by
  rcases commits with _ | ⟨count, hash⟩
  · simp [suffixText]
  · have hcount : IsDigits count := (h _ rfl).1
    obtain ⟨d, count, rfl⟩ := List.exists_cons_of_ne_nil hcount.1
    intro heq
    have hdash : d = '-' := (List.cons.inj heq).1
    have hdigit : d.isDigit = true := hcount.2 d (by simp)
    rw [hdash] at hdigit
    exact absurd hdigit (by decide)

theorem IsCommits.suffixText_inj {commits commits' : Option (List Char × List Char)}
    (h : IsCommits commits) (h' : IsCommits commits')
    (heq : suffixText commits = suffixText commits') : commits = commits' := by
  rcases commits with _ | ⟨count, hash⟩ <;> rcases commits' with _ | ⟨count', hash'⟩
  · rfl
  · simp [suffixText] at heq
  · simp [suffixText] at heq
  · obtain ⟨rfl, hrest⟩ := IsDigits.append_inj heq (h _ rfl).1 Numeral.stops_dash
      (h' _ rfl).1 Numeral.stops_dash
    obtain rfl : hash = hash' := (List.cons.inj (List.cons.inj hrest).2).2
    rfl

/-- What follows a candidate can be read in one way at most. -/
theorem IsCommits.separator_inj {separator separator' : Bool}
    {commits commits' : Option (List Char × List Char)}
    (h : IsCommits commits) (h' : IsCommits commits')
    (heq : separatorText separator ++ suffixText commits
      = separatorText separator' ++ suffixText commits') :
    separator = separator' ∧ commits = commits' := by
  cases separator <;> cases separator'
  · exact ⟨rfl, h.suffixText_inj h' heq⟩
  · exact absurd heq h.suffixText_ne_dash
  · exact absurd heq.symm h'.suffixText_ne_dash
  · exact ⟨rfl, h.suffixText_inj h' (List.cons.inj heq).2⟩

theorem Spells.eq_of_markerLength_eq (h : c.Spells tag) (h' : c'.Spells tag)
    (hlength : markerLength c.candidate = markerLength c'.candidate) : c = c' := by
  obtain ⟨candidate, separator, commits⟩ := c
  obtain ⟨candidate', separator', commits'⟩ := c'
  obtain ⟨rfl, hrest⟩ :=
    h.candidate.eq_of_markerLength_eq h'.candidate (h.text.symm.trans h'.text) hlength
  obtain ⟨rfl, rfl⟩ := h.commits.separator_inj h'.commits hrest
  rfl

/-- So the cut with the longest candidate is the first one. -/
theorem Spells.isFirst (h : c.Spells tag)
    (hlongest : ∀ c' : TagCut, c'.Spells tag →
      markerLength c'.candidate ≤ markerLength c.candidate) : c.IsFirst tag := by
  refine ⟨h, fun c' h' => ?_⟩
  rcases Nat.lt_or_eq_of_le (hlongest c' h') with hlt | heq
  · exact Or.inl hlt
  · obtain rfl := h'.eq_of_markerLength_eq h heq
    exact preferred_refl c'

theorem IsFirst.unique (h : c.IsFirst tag) (h' : c'.IsFirst tag) : c = c' :=
  h.spells.eq_of_markerLength_eq h'.spells
    (Nat.le_antisymm (h'.preferred c h.spells).markerLength_le
      (h.preferred c' h'.spells).markerLength_le)

/-! ## The choices of the reader -/

open TagReading (markerChoices cut suffixes separatorSplits afterMarker first?)

/-- The digits that a choice takes. -/
def choiceLength (choice : Option Nat) : Nat :=
  choice.getD 0

/-- The reader tries longer candidates first. -/
theorem pairwise_markerChoices (tag : List Char) :
    (markerChoices tag).Pairwise fun n m => choiceLength m < choiceLength n := by
  unfold markerChoices
  split
  · rename_i after
    refine List.pairwise_append.mpr ⟨?_, List.pairwise_singleton _ _, ?_⟩
    · -- the numbers of digits descend by one
      rw [List.pairwise_map, List.pairwise_reverse]
      exact List.pairwise_lt_range'
    · intro n hn m hm
      obtain ⟨k, hk, rfl⟩ := List.mem_map.mp hn
      obtain rfl := List.mem_singleton.mp hm
      have hpos : 1 ≤ k := (List.mem_range'_1.mp (List.mem_reverse.mp hk)).1
      exact hpos
  · exact List.pairwise_singleton _ _

theorem mem_markerChoices_none (tag : List Char) : none ∈ markerChoices tag := by
  unfold markerChoices
  split <;> simp

theorem mem_markerChoices_some {n : Nat} :
    some n ∈ markerChoices tag ↔
      ∃ after, tag = 'r' :: 'c' :: after ∧ 1 ≤ n ∧ n ≤ (Numeral.run after).length := by
  unfold markerChoices
  split
  · rename_i after
    have hbounds : (1 ≤ n ∧ n < 1 + (Numeral.run after).length) ↔
        1 ≤ n ∧ n ≤ (Numeral.run after).length := by
      omega
    simp [hbounds]
  · rename_i hmarker
    simp only [List.mem_singleton, reduceCtorEq, false_iff]
    rintro ⟨after, rfl, -⟩
    exact hmarker after rfl

theorem length_run_le (text : List Char) : (Numeral.run text).length ≤ text.length :=
  (List.takeWhile_sublist Char.isDigit).length_le

/-- The reader's choices cut off a candidate that the tag starts with. -/
theorem cut_spec {choice : Option Nat} (h : choice ∈ markerChoices tag) :
    tag = markerText (cut tag choice).1 ++ (cut tag choice).2 ∧ IsMarker (cut tag choice).1
      ∧ markerLength (cut tag choice).1 = choiceLength choice := by
  cases choice with
  | none => exact ⟨rfl, by simp [IsMarker, cut], rfl⟩
  | some n =>
    obtain ⟨after, rfl, hpos, hle⟩ := mem_markerChoices_some.mp h
    have hrun : (Numeral.run after ++ Numeral.afterRun after).take n = (Numeral.run after).take n :=
      List.take_append_of_le_length hle
    rw [Numeral.run_append_afterRun] at hrun
    have hlength : (after.take n).length = n :=
      List.length_take_of_le (Nat.le_trans hle (length_run_le after))
    refine ⟨?_, ?_, hlength⟩
    · simp [cut, markerText]
    · rintro digits ⟨⟩
      refine ⟨List.ne_nil_of_length_pos ?_, ?_⟩
      · show 0 < (after.take n).length
        omega
      · intro d hd
        have hd' : d ∈ (Numeral.run after).take n := hrun ▸ hd
        exact Numeral.isDigit_of_mem_run (List.mem_of_mem_take hd')

/-- Every candidate that the tag starts with is one of the reader's choices. -/
theorem exists_choice (h : tag = markerText candidate ++ rest) (hmarker : IsMarker candidate) :
    ∃ choice ∈ markerChoices tag, cut tag choice = (candidate, rest) := by
  cases candidate with
  | none => exact ⟨none, mem_markerChoices_none tag, by simp [cut, h, markerText]⟩
  | some digits =>
    obtain ⟨hne, hdigits⟩ := hmarker digits rfl
    refine ⟨some digits.length, mem_markerChoices_some.mpr ⟨digits ++ rest, h, ?_, ?_⟩, ?_⟩
    · exact List.length_pos_iff.mpr hne
    · rw [Numeral.run, List.takeWhile_append_of_pos hdigits, List.length_append]
      exact Nat.le_add_right _ _
    · simp [cut, h, markerText]

theorem mem_suffixes {commits : Option (List Char × List Char)} :
    commits ∈ suffixes rest ↔ rest = suffixText commits ∧ IsCommits commits := by
  unfold suffixes
  cases hsplit : Commits.split? rest with
  | some suffix =>
    obtain ⟨count, hash⟩ := suffix
    obtain ⟨rfl, hcount, hhash⟩ := Commits.split?_eq_some_iff.mp hsplit
    have hwritten : IsCommits (some (count, hash)) := by
      rintro _ ⟨⟩
      exact ⟨hcount, hhash⟩
    simp only [List.mem_singleton]
    constructor
    · rintro rfl
      exact ⟨rfl, hwritten⟩
    · rintro ⟨htext, hcommits⟩
      exact hcommits.suffixText_inj hwritten htext.symm
  | none =>
    rcases commits with _ | ⟨count, hash⟩
    · by_cases hrest : rest = [] <;> simp [hrest, suffixText, IsCommits]
    · have hnone : ¬(rest = suffixText (some (count, hash)) ∧ IsCommits (some (count, hash))) := by
        rintro ⟨htext, hcommits⟩
        have hsome := Commits.split?_eq_some_iff.mpr ⟨htext, hcommits _ rfl⟩
        rw [hsplit] at hsome
        cases hsome
      by_cases hrest : rest = []
      · subst hrest
        simpa using hnone
      · simpa [hrest] using hnone

theorem mem_separatorSplits {after : List Char} :
    after ∈ separatorSplits rest ↔ ∃ separator, rest = separatorText separator ++ after := by
  unfold separatorSplits
  split
  · rename_i tail
    simp [separatorText, eq_comm, or_comm]
  · rename_i hdash
    simp only [List.mem_singleton, Bool.exists_bool, separatorText, Bool.false_eq_true, if_false,
      List.nil_append, if_true, List.cons_append]
    constructor
    · rintro rfl
      exact Or.inl rfl
    · rintro (rfl | hrest)
      · rfl
      · exact absurd hrest (hdash after)

theorem mem_afterMarker {r : TagReading} :
    r ∈ afterMarker (candidate, rest) ↔ r.candidate = candidate ∧ IsCommits r.commits
      ∧ ∃ separator, rest = separatorText separator ++ suffixText r.commits := by
  simp only [afterMarker, List.mem_flatMap, List.mem_map, mem_separatorSplits, mem_suffixes]
  constructor
  · rintro ⟨_, ⟨separator, rfl⟩, commits, ⟨rfl, hcommits⟩, rfl⟩
    exact ⟨rfl, hcommits, separator, rfl⟩
  · rintro ⟨rfl, hcommits, separator, rfl⟩
    exact ⟨_, ⟨separator, rfl⟩, r.commits, ⟨rfl, hcommits⟩, rfl⟩

/-! ## The reader stops at the first cut -/

/-- The parts that a cut captures. -/
def reading (c : TagCut) : TagReading :=
  ⟨c.candidate, c.commits⟩

/-- Each cut is met at one of the reader's choices. -/
theorem Spells.exists_choice (h : c.Spells tag) :
    ∃ choice ∈ markerChoices tag, (afterMarker (cut tag choice)).head? ≠ none
      ∧ choiceLength choice = markerLength c.candidate := by
  obtain ⟨choice, hmem, hcut⟩ := TagCut.exists_choice h.text h.candidate
  refine ⟨choice, hmem, ?_, ?_⟩
  · have hreading : c.reading ∈ afterMarker (cut tag choice) := by
      rw [hcut]
      exact mem_afterMarker.mpr ⟨rfl, h.commits, c.separator, rfl⟩
    intro hnone
    rw [List.head?_eq_none_iff.mp hnone] at hreading
    cases hreading
  · rw [← (cut_spec hmem).2.2, hcut]

theorem first?_eq_none_iff : first? tag = none ↔ ∀ c : TagCut, ¬c.Spells tag := by
  rw [first?, List.findSome?_eq_none_iff]
  constructor
  · intro h c hc
    obtain ⟨choice, hmem, hhead, -⟩ := hc.exists_choice
    exact hhead (h choice hmem)
  · intro h choice hmem
    obtain ⟨htext, hmarker, -⟩ := cut_spec hmem
    refine List.head?_eq_none_iff.mpr (List.eq_nil_iff_forall_not_mem.mpr fun r hr => ?_)
    obtain ⟨-, hcommits, separator, hrest⟩ := mem_afterMarker.mp hr
    exact h ⟨(cut tag choice).1, separator, r.commits⟩ ⟨hrest ▸ htext, hmarker, hcommits⟩

theorem exists_isFirst_of_first? {r : TagReading} (h : first? tag = some r) :
    ∃ c : TagCut, c.IsFirst tag ∧ c.reading = r := by
  obtain ⟨before, choice, after, hchoices, hhead, hbefore⟩ :=
    List.findSome?_eq_some_iff.mp h
  have hmem : choice ∈ markerChoices tag := by
    rw [hchoices]
    simp
  obtain ⟨htext, hmarker, hlength⟩ := cut_spec hmem
  obtain ⟨hcandidate, hcommits, separator, hrest⟩ :=
    mem_afterMarker.mp (List.mem_of_mem_head? hhead)
  have hreading : (TagCut.mk (cut tag choice).1 separator r.commits).reading = r :=
    congrArg (TagReading.mk · r.commits) hcandidate.symm
  refine ⟨_, Spells.isFirst ⟨hrest ▸ htext, hmarker, hcommits⟩ fun c' h' => ?_, hreading⟩
  -- all choices before this one fail, so another cut is met here or later
  obtain ⟨choice', hmem', hhead', hlength'⟩ := h'.exists_choice
  have hsorted := pairwise_markerChoices tag
  rw [hchoices] at hmem' hsorted
  rcases List.mem_append.mp hmem' with hearlier | hlater
  · exact absurd (hbefore choice' hearlier) hhead'
  · rw [← hlength', hlength]
    rcases List.mem_cons.mp hlater with rfl | hlater
    · exact Nat.le_refl _
    · have hbelow := (List.pairwise_cons.mp (List.pairwise_append.mp hsorted).2.1).1 choice' hlater
      exact Nat.le_of_lt hbelow

theorem first?_eq_some_iff {r : TagReading} :
    first? tag = some r ↔ ∃ c : TagCut, c.IsFirst tag ∧ c.reading = r := by
  constructor
  · exact exists_isFirst_of_first?
  · rintro ⟨c, hfirst, rfl⟩
    cases hread : first? tag with
    | none => exact absurd hfirst.spells (first?_eq_none_iff.mp hread c)
    | some r =>
      obtain ⟨c', hfirst', rfl⟩ := exists_isFirst_of_first? hread
      rw [hfirst.unique hfirst']

/-! ## What a cut means -/

/-- The runs of digits of a cut. -/
def numbers (c : TagCut) : List (List Char) :=
  c.candidate.toList ++ (c.commits.map Prod.fst).toList

/-- The separator alone is no part. -/
def HasPart (c : TagCut) : Prop :=
  c.candidate.isSome ∨ c.commits.isSome

def Fits (c : TagCut) : Prop :=
  ∀ digits ∈ c.numbers, Numeral.value digits < UInt32.size

/-- A commit suffix is read as a count and a hash: the count by its value, and the hash as
it is written. -/
structure SuffixMeans (suffix : Option (List Char × List Char)) (count : Option UInt32)
    (hash : Option String) : Prop where
  count : count.map UInt32.toNat = (suffix.map Prod.fst).map Numeral.value
  hash : hash = (suffix.map Prod.snd).map String.ofList

/-- The build tag that a cut stands for. -/
structure Means (c : TagCut) (tag : BuildTag) : Prop where
  candidate : tag.candidate.map UInt32.toNat = c.candidate.map Numeral.value
  commits : SuffixMeans c.commits (tag.commits.map Commits.count) (tag.commits.map Commits.hash)

theorem mapM_word?_eq_some_iff {digits : Option (List Char)} {n : Option UInt32} :
    digits.mapM Numeral.word? = some n ↔ n.map UInt32.toNat = digits.map Numeral.value := by
  rcases digits with _ | digits <;> rcases n with _ | n
  · simp
  · simp
  · simp
  · have hread : Numeral.word? digits = some n ↔ n.toNat = Numeral.value digits := by
      rw [Numeral.word?_eq_some_iff, eq_comm]
    simp [hread]

theorem suffixMeans_iff {suffix : Option (List Char × List Char)} {count : Option UInt32}
    {hash : Option String} :
    SuffixMeans suffix count hash ↔
      count.map UInt32.toNat = (suffix.map Prod.fst).map Numeral.value
        ∧ hash = (suffix.map Prod.snd).map String.ofList :=
  ⟨fun h => ⟨h.count, h.hash⟩, fun h => ⟨h.1, h.2⟩⟩

theorem SuffixMeans.of_none {count : Option UInt32} {hash : Option String}
    (h : SuffixMeans none count hash) : count = none ∧ hash = none :=
  ⟨Option.map_eq_none_iff.mp h.count, h.hash⟩

/-- The count and the hash of a suffix make one value. -/
theorem SuffixMeans.exists_commits {suffix : Option (List Char × List Char)}
    {count : Option UInt32} {hash : Option String} (h : SuffixMeans suffix count hash) :
    ∃ commits : Option Commits, commits.map Commits.count = count
      ∧ commits.map Commits.hash = hash := by
  cases suffix with
  | none =>
    obtain ⟨rfl, rfl⟩ := h.of_none
    exact ⟨none, rfl, rfl⟩
  | some suffix =>
    obtain ⟨hcount, rfl⟩ := h
    obtain ⟨n, rfl, -⟩ := Option.map_eq_some_iff.mp hcount
    exact ⟨some ⟨n, String.ofList suffix.2⟩, rfl, rfl⟩

theorem mapM_commits_eq_some_iff {commits : Option (List Char × List Char)}
    {found : Option Commits} :
    (commits.mapM fun (count, hash) =>
        (Numeral.word? count).map fun n => Commits.mk n (String.ofList hash)) = some found ↔
      SuffixMeans commits (found.map Commits.count) (found.map Commits.hash) := by
  rw [suffixMeans_iff]
  rcases commits with _ | ⟨count, hash⟩ <;> rcases found with _ | ⟨n, text⟩
  · simp
  · simp
  · simp
  · simp only [Option.mapM_some, Option.map_eq_map, Option.map_eq_some_iff, Option.map_some,
      Option.some.injEq, Numeral.word?_eq_some_iff]
    constructor
    · rintro ⟨_, ⟨m, hvalue, rfl⟩, ⟨⟩⟩
      exact ⟨hvalue.symm, rfl⟩
    · rintro ⟨hvalue, rfl⟩
      exact ⟨_, ⟨n, hvalue.symm, rfl⟩, rfl⟩

/-- Reading the parts of a cut gives the build tag that the cut stands for. -/
theorem ofReading?_eq_some_iff {c : TagCut} {tag : BuildTag} :
    BuildTag.ofReading? c.reading = some tag ↔ c.Means tag := by
  constructor
  · intro h
    obtain ⟨candidate, hcandidate, h⟩ := Option.bind_eq_some_iff.mp h
    obtain ⟨commits, hcommits, h⟩ := Option.bind_eq_some_iff.mp h
    split at h
    · obtain rfl := Option.some.inj h
      exact ⟨mapM_word?_eq_some_iff.mp hcandidate, mapM_commits_eq_some_iff.mp hcommits⟩
    · cases h
  · obtain ⟨candidate, commits, marked⟩ := tag
    rintro ⟨hcandidate, hcommits⟩
    have hread := mapM_word?_eq_some_iff.mpr hcandidate
    have hreadCommits := mapM_commits_eq_some_iff.mpr hcommits
    simp only [BuildTag.ofReading?, reading, hread, hreadCommits, Option.bind_eq_bind,
      Option.bind_some, dif_pos marked]
    rfl

theorem exists_words_iff {digits : Option (List Char)} :
    (∃ n : Option UInt32, n.map UInt32.toNat = digits.map Numeral.value) ↔
      ∀ run ∈ digits, Numeral.value run < UInt32.size := by
  cases digits with
  | none =>
    simp only [Option.map_none, Option.map_eq_none_iff, exists_eq, Option.mem_def, reduceCtorEq,
      false_implies, implies_true]
  | some digits =>
    constructor
    · rintro ⟨n, hn⟩ run ⟨⟩
      obtain ⟨n, -, hvalue⟩ := Option.map_eq_some_iff.mp hn
      exact hvalue ▸ n.toNat_lt_size
    · intro h
      exact ⟨some (UInt32.ofNatLT _ (h digits rfl)), by simp⟩

theorem fits_iff :
    c.Fits ↔ (∀ run ∈ c.candidate, Numeral.value run < UInt32.size)
      ∧ ∀ run ∈ c.commits.map Prod.fst, Numeral.value run < UInt32.size := by
  simp only [Fits, numbers, List.mem_append, Option.mem_toList, Option.mem_def, or_imp, forall_and]

theorem hasPart_iff {candidate count : Option UInt32} {hash : Option String}
    (hcandidate : candidate.map UInt32.toNat = c.candidate.map Numeral.value)
    (hcommits : SuffixMeans c.commits count hash) :
    c.HasPart ↔ candidate.isSome ∨ count.isSome := by
  have hcandidates := congrArg Option.isSome hcandidate
  have hcounts := congrArg Option.isSome hcommits.count
  simp only [Option.isSome_map] at hcandidates hcounts
  rw [HasPart, hcandidates, hcounts]

/-- A cut with a part stands for the build tag that its parts are read as. -/
theorem exists_means {candidate count : Option UInt32} {hash : Option String} (hpart : c.HasPart)
    (hcandidate : candidate.map UInt32.toNat = c.candidate.map Numeral.value)
    (hcommits : SuffixMeans c.commits count hash) :
    ∃ tag, c.Means tag ∧ tag.candidate = candidate ∧ tag.commits.map Commits.count = count
      ∧ tag.commits.map Commits.hash = hash := by
  obtain ⟨commits, rfl, rfl⟩ := hcommits.exists_commits
  have hmarked : candidate.isSome ∨ commits.isSome := by
    simpa using (hasPart_iff hcandidate hcommits).mp hpart
  exact ⟨⟨candidate, commits, hmarked⟩, ⟨hcandidate, hcommits⟩, rfl, rfl, rfl⟩

/-- A cut stands for a build tag exactly if it has a part and its numbers fit. -/
theorem exists_means_iff : (∃ tag, c.Means tag) ↔ c.HasPart ∧ c.Fits := by
  rw [fits_iff, ← exists_words_iff, ← exists_words_iff]
  constructor
  · rintro ⟨tag, hcandidate, hcommits⟩
    refine ⟨(hasPart_iff hcandidate hcommits).mpr ?_, ⟨_, hcandidate⟩, ⟨_, hcommits.count⟩⟩
    rw [Option.isSome_map]
    exact tag.marked
  · rintro ⟨hpart, ⟨candidate, hcandidate⟩, ⟨count, hcount⟩⟩
    obtain ⟨tag, hmeans, -⟩ := exists_means hpart hcandidate ⟨hcount, rfl⟩
    exact ⟨tag, hmeans⟩

end TagCut

/-! ## Tags of versions -/

namespace PreRelease

variable {text : String}

theorem ofText_eq_build_iff {tag : BuildTag} :
    ofText text = .build text tag ↔ ∃ c : TagCut, c.IsFirst text.toList ∧ c.Means tag := by
  have hread : BuildTag.ofText? text.toList = some tag ↔
      ∃ c : TagCut, c.IsFirst text.toList ∧ c.Means tag := by
    simp only [BuildTag.ofText?, Option.bind_eq_bind, Option.bind_eq_some_iff,
      TagCut.first?_eq_some_iff]
    constructor
    · rintro ⟨_, ⟨c, hfirst, rfl⟩, hmeans⟩
      exact ⟨c, hfirst, TagCut.ofReading?_eq_some_iff.mp hmeans⟩
    · rintro ⟨c, hfirst, hmeans⟩
      exact ⟨_, ⟨c, hfirst, rfl⟩, TagCut.ofReading?_eq_some_iff.mpr hmeans⟩
  rw [← hread, ofText]
  cases BuildTag.ofText? text.toList <;> simp

theorem ofText_eq_plain_iff :
    ofText text = .plain text ↔
      ∀ c : TagCut, c.IsFirst text.toList → ¬(c.HasPart ∧ c.Fits) := by
  constructor
  · intro hplain c hfirst hparts
    obtain ⟨tag, hmeans⟩ := TagCut.exists_means_iff.mpr hparts
    rw [ofText_eq_build_iff.mpr ⟨c, hfirst, hmeans⟩] at hplain
    cases hplain
  · intro h
    cases hread : BuildTag.ofText? text.toList with
    | none => simp [ofText, hread]
    | some tag =>
      have hbuild : ofText text = .build text tag := by simp [ofText, hread]
      obtain ⟨c, hfirst, hmeans⟩ := ofText_eq_build_iff.mp hbuild
      exact absurd (TagCut.exists_means_iff.mp ⟨tag, hmeans⟩) (h c hfirst)

/-- A hash in a build tag is a hash. -/
theorem isHash_of_ofText {tag : BuildTag} (h : ofText text = .build text tag) :
    ∀ commits ∈ tag.commits, Commits.IsHash commits.hash.toList := by
  obtain ⟨c, hfirst, hmeans⟩ := ofText_eq_build_iff.mp h
  intro commits hcommits
  have hhash := hmeans.commits.hash
  rw [Option.mem_def.mp hcommits, Option.map_some, eq_comm, Option.map_map,
    Option.map_eq_some_iff] at hhash
  obtain ⟨suffix, hsuffix, htext⟩ := hhash
  rw [← htext, Function.comp_apply, String.toList_ofList]
  exact (hfirst.spells.commits suffix hsuffix).2

end PreRelease

namespace Version

theorem ofText_text_of_preRelease {v : Version} {p : PreRelease} (h : v.preRelease = some p) :
    PreRelease.ofText p.text = p := by
  obtain ⟨text, -, rfl⟩ := Option.map_eq_some_iff.mp h
  rw [PreRelease.text_ofText]

theorem isHash_of_preRelease {v : Version} {text : String} {tag : BuildTag}
    (h : v.preRelease = some (.build text tag)) :
    ∀ hash ∈ tag.commits.map Commits.hash, Commits.IsHash hash.toList := by
  intro hash hhash
  obtain ⟨commits, hcommits, rfl⟩ := Option.map_eq_some_iff.mp hhash
  exact PreRelease.isHash_of_ofText (ofText_text_of_preRelease h) commits hcommits

/-- A text is in the build grammar exactly if it can be cut, and is then read as its
first cut. A version with this text as its tag has a build tag exactly if the first cut
has a part and its numbers fit, and then with the numbers and the hash of this cut;
otherwise the tag is plain. Either way the text stays as it is. So whatever the tag of a
version says, a build tag has a candidate or commits, a count comes with a hash, and the
hash is one. -/
theorem tag_is_first_cut (major minor patch : UInt32) (text : String) :
    (TagReading.first? text.toList = none ↔ ∀ c : TagCut, ¬c.Spells text.toList)
    ∧ (∀ r, TagReading.first? text.toList = some r ↔
        ∃ c : TagCut, c.IsFirst text.toList ∧ c.reading = r)
    ∧ (∀ tag, (tagged major minor patch text).preRelease = some (.build text tag) ↔
        ∃ c : TagCut, c.IsFirst text.toList ∧ c.Means tag)
    ∧ ((∃ tag, (tagged major minor patch text).preRelease = some (.build text tag)) ↔
        ∃ c : TagCut, c.IsFirst text.toList ∧ c.HasPart ∧ c.Fits)
    ∧ ((tagged major minor patch text).preRelease = some (.plain text) ↔
        ∀ c : TagCut, c.IsFirst text.toList → ¬(c.HasPart ∧ c.Fits))
    ∧ (tagged major minor patch text).preRelease.map PreRelease.text = some text
    ∧ (∀ (v : Version) (written : String) (tag : BuildTag),
        v.preRelease = some (.build written tag) →
          (tag.candidate.isSome ∨ (tag.commits.map Commits.count).isSome)
          ∧ (tag.commits.map Commits.count).isSome = (tag.commits.map Commits.hash).isSome
          ∧ ∀ hash ∈ tag.commits.map Commits.hash, Commits.IsHash hash.toList) := by
  have hbuild : ∀ tag, (tagged major minor patch text).preRelease = some (.build text tag) ↔
      ∃ c : TagCut, c.IsFirst text.toList ∧ c.Means tag := fun tag =>
    Option.some_inj.trans PreRelease.ofText_eq_build_iff
  refine ⟨TagCut.first?_eq_none_iff, fun r => TagCut.first?_eq_some_iff, hbuild, ?_,
    Option.some_inj.trans PreRelease.ofText_eq_plain_iff,
    congrArg some (PreRelease.text_ofText text), ?_⟩
  · simp only [hbuild, ← TagCut.exists_means_iff, ← exists_and_left]
    exact exists_comm
  · intro v written tag htag
    refine ⟨?_, by simp, isHash_of_preRelease htag⟩
    rw [Option.isSome_map]
    exact tag.marked

-- the first cut has candidate 4294967296, which is too large, though 429496729 would fit
example :
    (tagged 4 2 0 "rc42949672961-gabcd").preRelease = some (.plain "rc42949672961-gabcd") := by
  decide

end Version

end Negotiation
