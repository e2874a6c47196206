/-
# Negotiation.Proofs.VersionText -- which version a text holds

A text is matched against

    <digits>.<digits>[.<digits>[-<the rest of the line>]]

anywhere in it. A match says how the text is cut. There can be many: they may start at
different places, cut a run of digits short, or leave optional parts out. The greedy
match is the first one, with as much as possible in each part, the parts taken from
left to right. The reader of versions finds it, and nothing else decides what it gives:
if a number of the greedy match is too large, the text holds no version.
-/

import Mathlib.Data.List.TakeWhile
import Negotiation.Proofs.DigitRuns
import Negotiation.Version.Checked

namespace Negotiation.Version

open Numeral (IsDigits Stops)

/-! ## Matches -/

/-- The text starts with `<digits>.<digits>`. -/
def StartsVersion (text : List Char) : Prop :=
  ∃ major minor rest, text = major ++ '.' :: (minor ++ rest) ∧ IsDigits major ∧ IsDigits minor

/-- A tag as it is written. -/
def tagText : Option (List Char) → List Char
  | none => []
  | some tag => '-' :: tag

/-- The optional parts of a match: a patch number, and with it a tag. -/
abbrev Tail := Option (List Char × Option (List Char))

/-- The optional parts as they are written. -/
def Tail.text : Tail → List Char
  | none => []
  | some (patch, tag) => '.' :: (patch ++ tagText tag)

/-- The patch number is a number, and the tag stays in its line. -/
def Tail.IsWritten : Tail → Prop
  | none => True
  | some (patch, tag) => IsDigits patch ∧ ∀ line ∈ tag, '\n' ∉ line

/-- How much a tag takes: none takes less than an empty one. -/
def tagLength : Option (List Char) → Nat
  | none => 0
  | some tag => tag.length + 1

/-- How much each optional part takes. -/
def Tail.lengths : Tail → List Nat
  | none => [0, 0]
  | some (patch, tag) => [patch.length, tagLength tag]

/-- A way to cut a text: what stands before the version, its numbers, its optional
parts, and what stands after it. -/
structure Match where
  before : List Char
  major : List Char
  minor : List Char
  tail : Tail
  after : List Char

namespace Match

/-- What follows the numbers of a match. -/
def rest (m : Match) : List Char :=
  m.tail.text ++ m.after

/-- The text is cut in this way. -/
structure Spells (m : Match) (text : List Char) : Prop where
  text : text = m.before ++ (m.major ++ '.' :: (m.minor ++ m.rest))
  major : IsDigits m.major
  minor : IsDigits m.minor
  tail : m.tail.IsWritten

/-- How much each part takes, from left to right. -/
def lengths (m : Match) : List Nat :=
  m.major.length :: m.minor.length :: m.tail.lengths

end Match

/-- Not more in the first place where the two differ. -/
def AtMost : List Nat → List Nat → Prop
  | a :: as, b :: bs => a < b ∨ a = b ∧ AtMost as bs
  | _, _ => True

/-- A match is preferred to one that starts later, and to one at the same place that
takes less. -/
def Match.Preferred (m m' : Match) : Prop :=
  m.before.length < m'.before.length
    ∨ m.before.length = m'.before.length ∧ AtMost m'.lengths m.lengths

/-! ## Greedy matches -/

/-- A tag is taken if a `-` follows, with all of its line. -/
inductive GreedyTag : Option (List Char) → List Char → Prop
  | absent {after} : after.head? ≠ some '-' → GreedyTag none after
  | line {tag after} : '\n' ∉ tag → (∀ c ∈ after.head?, c = '\n') → GreedyTag (some tag) after

/-- A patch number is taken if a dot and a digit follow, with all of its digits. -/
inductive GreedyTail : Tail → List Char → Prop
  | absent {after} : (∀ rest, after = '.' :: rest → Stops rest) → GreedyTail none after
  | patch {patch tag after} : IsDigits patch → Stops (tagText tag ++ after) →
      GreedyTag tag after → GreedyTail (some (patch, tag)) after

theorem GreedyTail.isWritten {tail : Tail} {after : List Char} (h : GreedyTail tail after) :
    tail.IsWritten := by
  cases h with
  | absent => trivial
  | patch hpatch _ htag =>
    refine ⟨hpatch, ?_⟩
    cases htag with
    | absent => simp
    | line hline => simpa using hline

/-- A match that is first and takes each part as far as it goes. -/
structure Match.IsGreedy (m : Match) (text : List Char) : Prop where
  spells : m.Spells text
  /-- No version starts earlier. -/
  first : ∀ before here, text = before ++ here → StartsVersion here →
    m.before.length ≤ before.length
  /-- The major number is not the end of a longer run of digits. -/
  major : ∀ c ∈ m.before.getLast?, c.isDigit = false
  /-- The minor number is all of its run of digits. -/
  minor : Stops m.rest
  tail : GreedyTail m.tail m.after

variable {text rest : List Char}

theorem stops_dot : Stops ('.' :: rest) :=
  Numeral.stops_cons.mpr rfl

theorem not_stops_append {digits : List Char} (h : IsDigits digits) : ¬Stops (digits ++ rest) := by
  intro hstops
  obtain ⟨c, digits, rfl⟩ := List.exists_cons_of_ne_nil h.1
  have hc : c.isDigit = true := h.2 c (by simp)
  rw [Numeral.stops_cons.mp hstops] at hc
  cases hc

/-- Of two starts of a text the longer one takes more; starts of the same length leave
the same rest. -/
theorem start_length_cases {start rest start' rest' : List Char}
    (h : start ++ rest = start' ++ rest') (hle : start'.length ≤ start.length) :
    start'.length < start.length
      ∨ start'.length = start.length ∧ start' = start ∧ rest' = rest := by
  rcases Nat.lt_or_eq_of_le hle with hlt | heq
  · exact Or.inl hlt
  · obtain ⟨hstart, hrest⟩ := List.append_inj h heq.symm
    exact Or.inr ⟨heq, hstart.symm, hrest.symm⟩

theorem GreedyTag.tagLength_le {tag tag' : Option (List Char)} {after after' : List Char}
    (h : GreedyTag tag after) (hline : ∀ line ∈ tag', '\n' ∉ line)
    (heq : tagText tag ++ after = tagText tag' ++ after') : tagLength tag' ≤ tagLength tag := by
  cases tag' with
  | none => exact Nat.zero_le _
  | some tag' =>
    cases h with
    | absent hdash =>
      have hafter : after = '-' :: (tag' ++ after') := heq
      exact absurd (by rw [hafter]; rfl) hdash
    | @line tag after htag hafter =>
      have hcut : tag ++ after = tag' ++ after' := (List.cons.inj heq).2
      have hle : tag'.length ≤ tag.length := by
        refine Numeral.length_le_of_stops (p := fun c => c ≠ '\n') hcut ?_ ?_
        · intro c hc
          simp [hafter c hc]
        · intro c hc
          have hne : c ≠ '\n' := fun h => hline tag' rfl (h ▸ hc)
          simpa using hne
      exact Nat.succ_le_succ hle

/-- Greedy optional parts take the most, of all ways to read the same text. -/
theorem GreedyTail.atMost {tail tail' : Tail} {after after' : List Char}
    (h : GreedyTail tail after) (hwritten : tail'.IsWritten)
    (heq : tail.text ++ after = tail'.text ++ after') : AtMost tail'.lengths tail.lengths := by
  cases h with
  | absent hstops =>
    rcases tail' with _ | ⟨patch', tag'⟩
    · simp [AtMost, Tail.lengths]
    · -- a patch number cannot be read where no digit follows the dot
      have hafter : after = '.' :: (patch' ++ (tagText tag' ++ after')) := by
        simpa [Tail.text] using heq
      exact absurd (hstops _ hafter) (not_stops_append hwritten.1)
  | @patch patch tag after hpatch hstops htag =>
    rcases tail' with _ | ⟨patch', tag'⟩
    · have hpos : 0 < patch.length := List.length_pos_iff.mpr hpatch.1
      exact Or.inl hpos
    · have hcut : patch ++ (tagText tag ++ after) = patch' ++ (tagText tag' ++ after') := by
        simpa [Tail.text] using heq
      have hle := Numeral.length_le_of_stops hcut hstops hwritten.1.2
      rcases start_length_cases hcut hle with hlt | ⟨hlength, -, hrest⟩
      · exact Or.inl hlt
      · have htags := htag.tagLength_le hwritten.2 hrest.symm
        refine Or.inr ⟨hlength, ?_⟩
        rcases Nat.lt_or_eq_of_le htags with hlt | heq
        · exact Or.inl hlt
        · exact Or.inr ⟨heq, trivial⟩

/-- A greedy match is preferred to every other. -/
theorem Match.IsGreedy.preferred {m m' : Match} (h : m.IsGreedy text) (h' : m'.Spells text) :
    m.Preferred m' := by
  have hstart : StartsVersion (m'.major ++ '.' :: (m'.minor ++ m'.rest)) :=
    ⟨_, _, _, rfl, h'.major, h'.minor⟩
  have htext := h.spells.text.symm.trans h'.text
  rcases Nat.lt_or_eq_of_le (h.first _ _ h'.text hstart) with hlt | hbefore
  · exact Or.inl hlt
  · refine Or.inr ⟨hbefore, ?_⟩
    -- at the same place both major numbers are the whole run in front of the dot
    obtain ⟨-, hhere⟩ := List.append_inj htext hbefore
    obtain ⟨hmajor, hdot⟩ :=
      IsDigits.append_inj hhere h.spells.major stops_dot h'.major stops_dot
    refine Or.inr ⟨congrArg List.length hmajor.symm, ?_⟩
    have hcut : m.minor ++ m.rest = m'.minor ++ m'.rest := (List.cons.inj hdot).2
    have hle := Numeral.length_le_of_stops hcut h.minor h'.minor.2
    rcases start_length_cases hcut hle with hlt | ⟨hlength, -, hrest⟩
    · exact Or.inl hlt
    · exact Or.inr ⟨hlength, h.tail.atMost h'.tail hrest.symm⟩

/-! ## Finding the start -/

theorem startHere?_eq_some_iff {s : Start} :
    startHere? text = some s ↔
      text = s.major ++ '.' :: (s.minor ++ s.rest) ∧ IsDigits s.major ∧ IsDigits s.minor
        ∧ Stops s.rest := by
  constructor
  · intro h
    obtain ⟨⟨major, afterMajor⟩, hreadMajor, h⟩ := Option.bind_eq_some_iff.mp h
    dsimp only at h
    split at h
    · obtain ⟨⟨minor, rest⟩, hreadMinor, h⟩ := Option.bind_eq_some_iff.mp h
      obtain rfl := Option.some.inj h
      obtain ⟨rfl, hmajor, -⟩ := Numeral.digits?_eq_some_iff.mp hreadMajor
      obtain ⟨rfl, hminor, hrest⟩ := Numeral.digits?_eq_some_iff.mp hreadMinor
      exact ⟨rfl, hmajor, hminor, hrest⟩
    · cases h
  · rintro ⟨rfl, hmajor, hminor, hrest⟩
    simp [startHere?, Numeral.digits?_eq_some_iff.mpr ⟨rfl, hmajor, stops_dot⟩,
      Numeral.digits?_eq_some_iff.mpr ⟨rfl, hminor, hrest⟩]

theorem startHere?_eq_none_iff : startHere? text = none ↔ ¬StartsVersion text := by
  constructor
  · rintro h ⟨major, minor, rest, rfl, hmajor, hminor⟩
    cases hrun : Numeral.digits? (minor ++ rest) with
    | none => exact not_stops_append hminor (Numeral.digits?_eq_none_iff.mp hrun)
    | some found =>
      simp [startHere?, Numeral.digits?_eq_some_iff.mpr ⟨rfl, hmajor, stops_dot⟩, hrun] at h
  · intro h
    cases hs : startHere? text with
    | none => rfl
    | some s =>
      obtain ⟨htext, hmajor, hminor, -⟩ := startHere?_eq_some_iff.mp hs
      exact absurd ⟨_, _, _, htext, hmajor, hminor⟩ h

/-- The start that is found is the first one. -/
theorem exists_of_start? {s : Start} (h : start? text = some s) :
    ∃ before here, text = before ++ here ∧ startHere? here = some s
      ∧ ∀ before' here', text = before' ++ here' → StartsVersion here' →
        before.length ≤ before'.length := by
  induction text with
  | nil => cases h
  | cons c text ih =>
    unfold start? at h
    split at h
    · rename_i s' hs
      obtain rfl := Option.some.inj h
      exact ⟨[], c :: text, rfl, hs, fun _ _ _ _ => Nat.zero_le _⟩
    · rename_i hnone
      obtain ⟨before, here, rfl, hs, hfirst⟩ := ih h
      -- the place moves on by one, and so does every other place but the first
      refine ⟨c :: before, here, rfl, hs, ?_⟩
      intro before' here' heq hstart
      cases before' with
      | nil =>
        -- no version starts at the first character
        obtain rfl : c :: (before ++ here) = here' := heq
        exact absurd hstart (startHere?_eq_none_iff.mp hnone)
      | cons d before' =>
        obtain ⟨-, heq⟩ := List.cons.inj heq
        exact Nat.succ_le_succ (hfirst before' here' heq hstart)

theorem start?_eq_none_iff :
    start? text = none ↔ ∀ before here, text = before ++ here → ¬StartsVersion here := by
  constructor
  · intro h
    induction text with
    | nil =>
      rintro before here heq ⟨major, minor, rest, rfl, -, -⟩
      simp at heq
    | cons c text ih =>
      unfold start? at h
      split at h
      · cases h
      · rename_i hnone
        intro before here heq
        cases before with
        | nil =>
          obtain rfl : c :: text = here := heq
          exact startHere?_eq_none_iff.mp hnone
        | cons d before => exact ih h before here (List.cons.inj heq).2
  · intro h
    cases hs : start? text with
    | none => rfl
    | some s =>
      obtain ⟨before, here, heq, hhere, -⟩ := exists_of_start? hs
      obtain ⟨htext, hmajor, hminor, -⟩ := startHere?_eq_some_iff.mp hhere
      exact absurd ⟨_, _, _, htext, hmajor, hminor⟩ (h before here heq)

/-- A first start is not inside a run of digits: one digit earlier there would be
another start. -/
theorem isDigit_getLast_eq_false {before here : List Char} (hstart : StartsVersion here)
    (hfirst : ∀ before' here', before ++ here = before' ++ here' → StartsVersion here' →
      before.length ≤ before'.length) :
    ∀ c ∈ before.getLast?, c.isDigit = false := by
  intro c hc
  obtain ⟨before', rfl⟩ := List.getLast?_eq_some_iff.mp hc
  cases hdigit : c.isDigit with
  | false => rfl
  | true =>
    obtain ⟨major, minor, rest, rfl, hmajor, hminor⟩ := hstart
    -- with the digit in front, the major number starts one place earlier
    have hearlier : StartsVersion (c :: (major ++ '.' :: (minor ++ rest))) := by
      refine ⟨c :: major, minor, rest, rfl, ⟨by simp, ?_⟩, hminor⟩
      intro d hd
      rcases List.mem_cons.mp hd with rfl | hd
      · exact hdigit
      · exact hmajor.2 d hd
    have hle := hfirst before' _ (by simp) hearlier
    rw [List.length_append, List.length_singleton] at hle
    omega

/-! ## Reading the optional parts -/

theorem exists_greedyTag (rest : List Char) :
    ∃ tag after, rest = tagText tag ++ after ∧ GreedyTag tag after
      ∧ tagAfter rest = tag.map String.ofList := by
  unfold tagAfter
  split
  · rename_i line
    refine ⟨some (line.takeWhile (· ≠ '\n')), line.dropWhile (· ≠ '\n'), ?_, ?_, rfl⟩
    · simp [tagText, List.takeWhile_append_dropWhile]
    · refine .line ?_ ?_
      · intro hmem
        simpa using List.mem_takeWhile_imp hmem
      · intro c hc
        simpa using Numeral.eq_false_of_mem_head?_dropWhile _ line c hc
  · rename_i hdash
    refine ⟨none, rest, rfl, .absent ?_, rfl⟩
    intro hhead
    obtain ⟨line, rfl⟩ := List.head?_eq_some_iff.mp hhead
    exact hdash line rfl

/-- The patch number and the tag of optional parts, if the number fits. -/
def Tail.value? : Tail → Option (UInt32 × Option String)
  | none => some (0, none)
  | some (patch, tag) => (Numeral.word? patch).map fun n => (n, tag.map String.ofList)

theorem Tail.value?_eq_some_iff {tail : Tail} {n : UInt32} {tag : Option String} :
    tail.value? = some (n, tag) ↔
      n.toNat = (tail.map fun parts => Numeral.value parts.1).getD 0
        ∧ tag = (tail.bind Prod.snd).map String.ofList := by
  rcases tail with _ | ⟨patch, tag'⟩
  · have hzero : n = 0 ↔ n.toNat = 0 := UInt32.toNat_inj.symm
    simp [Tail.value?, ← hzero, eq_comm]
  · show (Numeral.word? patch).map _ = _ ↔ _
    simp only [Option.map_eq_some_iff, Numeral.word?_eq_some_iff, Prod.mk.injEq]
    constructor
    · rintro ⟨n, hvalue, rfl, rfl⟩
      exact ⟨hvalue.symm, rfl⟩
    · rintro ⟨hvalue, rfl⟩
      exact ⟨n, hvalue.symm, rfl, rfl⟩

theorem Tail.value?_eq_none_iff {tail : Tail} :
    tail.value? = none ↔
      ∃ digits, tail.map Prod.fst = some digits ∧ UInt32.size ≤ Numeral.value digits := by
  rcases tail with _ | ⟨patch, tag⟩
  · simp [Tail.value?]
  · simp [Tail.value?, Numeral.word?_eq_none_iff]

theorem exists_greedyTail (rest : List Char) :
    ∃ (tail : Tail) (after : List Char), rest = tail.text ++ after ∧ GreedyTail tail after
      ∧ patchAndTag? rest = tail.value? := by
  unfold patchAndTag?
  split
  · rename_i afterDot
    cases hread : Numeral.digits? afterDot with
    | none =>
      refine ⟨none, '.' :: afterDot, rfl, .absent ?_, rfl⟩
      intro rest heq
      obtain rfl : afterDot = rest := (List.cons.inj heq).2
      exact Numeral.digits?_eq_none_iff.mp hread
    | some found =>
      obtain ⟨patch, rest⟩ := found
      obtain ⟨rfl, hpatch, hrest⟩ := Numeral.digits?_eq_some_iff.mp hread
      obtain ⟨tag, after, rfl, htag, hvalue⟩ := exists_greedyTag rest
      refine ⟨some (patch, tag), after, by simp [Tail.text], .patch hpatch hrest htag, ?_⟩
      simp [Tail.value?, hvalue]
  · rename_i hdot
    refine ⟨none, rest, rfl, .absent ?_, rfl⟩
    intro afterDot heq
    exact absurd heq (hdot afterDot)

/-! ## What a match means -/

namespace Match

/-- The runs of digits of a match. -/
def numbers (m : Match) : List (List Char) :=
  [m.major, m.minor] ++ (m.tail.map Prod.fst).toList

/-- The version that a match stands for: its numbers by their values, no patch number
being 0, and its tag as it is written. -/
structure Means (m : Match) (v : Version) : Prop where
  major : v.release.major.toNat = Numeral.value m.major
  minor : v.release.minor.toNat = Numeral.value m.minor
  patch : v.release.patch.toNat = (m.tail.map fun parts => Numeral.value parts.1).getD 0
  tag : v.tag = (m.tail.bind Prod.snd).map String.ofList

/-- One of the numbers of a match is larger than any number of a version. -/
def Overflows (m : Match) : Prop :=
  ∃ digits ∈ m.numbers, UInt32.size ≤ Numeral.value digits

/-- The version that a match stands for, if its numbers fit. -/
def version? (m : Match) : Option Version := do
  let major ← Numeral.word? m.major
  let minor ← Numeral.word? m.minor
  let (patch, tag) ← m.tail.value?
  return ⟨⟨major, minor, patch⟩, tag⟩

theorem version?_eq_some_iff {m : Match} {v : Version} : m.version? = some v ↔ m.Means v := by
  constructor
  · intro h
    obtain ⟨major, hmajor, h⟩ := Option.bind_eq_some_iff.mp h
    obtain ⟨minor, hminor, h⟩ := Option.bind_eq_some_iff.mp h
    obtain ⟨⟨patch, tag⟩, htail, h⟩ := Option.bind_eq_some_iff.mp h
    obtain rfl := Option.some.inj h
    obtain ⟨hpatch, htag⟩ := Tail.value?_eq_some_iff.mp htail
    exact ⟨(Numeral.word?_eq_some_iff.mp hmajor).symm, (Numeral.word?_eq_some_iff.mp hminor).symm,
      hpatch, htag⟩
  · rintro ⟨hmajor, hminor, hpatch, htag⟩
    have htail := Tail.value?_eq_some_iff.mpr ⟨hpatch, htag⟩
    simp [version?, Numeral.word?_eq_some_iff.mpr hmajor.symm,
      Numeral.word?_eq_some_iff.mpr hminor.symm, htail]

theorem version?_eq_none_iff {m : Match} : m.version? = none ↔ m.Overflows := by
  -- nothing but a number can be refused
  have hnone : m.version? = none ↔ Numeral.word? m.major = none ∨ Numeral.word? m.minor = none
      ∨ m.tail.value? = none := by
    cases hmajor : Numeral.word? m.major <;> cases hminor : Numeral.word? m.minor <;>
      cases htail : m.tail.value? <;> simp [version?, hmajor, hminor, htail]
  rw [hnone, Numeral.word?_eq_none_iff, Numeral.word?_eq_none_iff, Tail.value?_eq_none_iff]
  simp only [Overflows, numbers, List.mem_append, List.mem_cons, List.not_mem_nil, or_false,
    Option.mem_toList, or_and_right, exists_or, exists_eq_left, or_assoc]

end Match

/-- The start that is found begins a greedy match, and is read as it. -/
theorem exists_isGreedy {s : Start} (h : start? text = some s) :
    ∃ m : Match, m.IsGreedy text ∧ ofStart? s = m.version? := by
  obtain ⟨before, here, rfl, hhere, hfirst⟩ := exists_of_start? h
  obtain ⟨rfl, hmajor, hminor, hrest⟩ := startHere?_eq_some_iff.mp hhere
  obtain ⟨tail, after, hcut, htail, hvalue⟩ := exists_greedyTail s.rest
  refine ⟨⟨before, s.major, s.minor, tail, after⟩,
    ⟨⟨?_, hmajor, hminor, htail.isWritten⟩, hfirst, ?_, ?_, htail⟩, ?_⟩
  · simp [Match.rest, hcut]
  · exact isDigit_getLast_eq_false ⟨_, _, _, rfl, hmajor, hminor⟩ hfirst
  · rw [Match.rest, ← hcut]
    exact hrest
  · rw [ofStart?, Match.version?, hvalue]

/-! ## Versions that fill their text -/

theorem start?_of_startHere? {s : Start} (h : startHere? text = some s) :
    start? text = some s := by
  cases text with
  | nil => cases h
  | cons c text => rw [start?, h]

theorem tagAfter_tagText {tag : Option (List Char)} (h : ∀ line ∈ tag, '\n' ∉ line) :
    tagAfter (tagText tag) = tag.map String.ofList := by
  cases tag with
  | none => rfl
  | some line =>
    have hline : line.takeWhile (· ≠ '\n') = line := by
      refine List.takeWhile_eq_self_iff.mpr fun c hc => ?_
      have hne : c ≠ '\n' := fun heq => h line rfl (heq ▸ hc)
      simpa using hne
    show some (String.ofList (line.takeWhile (· ≠ '\n'))) = some (String.ofList line)
    rw [hline]

theorem stops_tagText (tag : Option (List Char)) : Stops (tagText tag) := by
  cases tag with
  | none => simp [Stops, tagText]
  | some line => exact Numeral.stops_dash

theorem patchAndTag?_text {tail : Tail} (h : tail.IsWritten) :
    patchAndTag? tail.text = tail.value? := by
  rcases tail with _ | ⟨patch, tag⟩
  · rfl
  · have hread : Numeral.digits? (patch ++ tagText tag) = some (patch, tagText tag) :=
      Numeral.digits?_eq_some_iff.mpr ⟨rfl, h.1, stops_tagText tag⟩
    simp [Tail.text, patchAndTag?, hread, Tail.value?, tagAfter_tagText h.2]

/-- A text that is a version from its first to its last character is read as it. -/
theorem parse?_eq_version? {text : String} {major minor : List Char} {tail : Tail}
    (htext : text.toList = major ++ '.' :: (minor ++ tail.text)) (hmajor : IsDigits major)
    (hminor : IsDigits minor) (htail : tail.IsWritten) :
    parse? text = Match.version? ⟨[], major, minor, tail, []⟩ := by
  have hstops : Stops tail.text := by
    rcases tail with _ | ⟨patch, tag⟩
    · simp [Stops, Tail.text]
    · exact stops_dot
  have hstart : startHere? text.toList = some ⟨major, minor, tail.text⟩ :=
    startHere?_eq_some_iff.mpr ⟨htext, hmajor, hminor, hstops⟩
  rw [parse?, start?_of_startHere? hstart]
  show ofStart? _ = _
  rw [ofStart?, Match.version?, patchAndTag?_text htail]

/-! ## What the readers give -/

theorem parse_eq_ok_iff {text : String} {v : Version} :
    parse text = .ok v ↔ parse? text = some v := by
  unfold parse
  cases parse? text <;> simp

theorem parse_eq_error_iff {text : String} {e : Error} :
    parse text = .error e ↔ parse? text = none ∧ e = Fault.invalidVersion text := by
  unfold parse
  cases parse? text <;> simp [eq_comm]

/-- A text holds the version that its greedy match means, which is the match preferred
to all others. It holds none if no version starts anywhere in it, or if a number of the
greedy match is too large. The readers that report errors find the same version, and
otherwise report the whole text. -/
theorem reads_greedy_match (text : String) :
    ((∀ before here, text.toList = before ++ here → ¬StartsVersion here) → parse? text = none)
    ∧ ((∃ before here, text.toList = before ++ here ∧ StartsVersion here) →
        ∃ m : Match, m.IsGreedy text.toList
          ∧ (∀ m' : Match, m'.Spells text.toList → m.Preferred m')
          ∧ (∀ v, parse? text = some v ↔ m.Means v)
          ∧ (parse? text = none ↔ m.Overflows))
    ∧ (∀ v, parse text = .ok v ↔ parse? text = some v)
    ∧ (∀ e, parse text = .error e ↔ parse? text = none ∧ e = Fault.invalidVersion text)
    ∧ FromText.fromText text = parse text := by
  refine ⟨?_, ?_, fun v => parse_eq_ok_iff, fun e => parse_eq_error_iff, rfl⟩
  · intro hnowhere
    rw [parse?, start?_eq_none_iff.mpr hnowhere]
    rfl
  · rintro ⟨before, here, htext, hstart⟩
    cases hs : start? text.toList with
    | none => exact absurd hstart (start?_eq_none_iff.mp hs before here htext)
    | some s =>
      obtain ⟨m, hgreedy, hread⟩ := exists_isGreedy hs
      -- all that is said about the result is said about the greedy match
      have hparse : parse? text = m.version? := by
        rw [parse?, hs]
        exact hread
      refine ⟨m, hgreedy, fun m' hm' => hgreedy.preferred hm', ?_, ?_⟩
      · intro v
        rw [hparse]
        exact Match.version?_eq_some_iff
      · rw [hparse]
        exact Match.version?_eq_none_iff

example : parse? "mongod 4.2.07-rc1\n4.4.0" = some ⟨⟨4, 2, 7⟩, some "rc1"⟩ := by decide

end Negotiation.Version
