/-
# Negotiation.Proofs.DigitRuns -- runs of digits in a text

What the readers of numbers do, said about the text alone: a run is digits only and at
least one, and it is maximal if what follows does not start with a digit. A text has
one maximal run in front, or none.
-/

import Negotiation.Text.Numeral

namespace Negotiation.Numeral

/-- Digits only, and at least one of them. -/
def IsDigits (text : List Char) : Prop :=
  text ≠ [] ∧ ∀ c ∈ text, c.isDigit = true

/-- The text does not start with a digit. -/
def Stops (text : List Char) : Prop :=
  ∀ c ∈ text.head?, c.isDigit = false

variable {digits rest text : List Char}

theorem stops_cons {c : Char} : Stops (c :: rest) ↔ c.isDigit = false := by
  simp [Stops]

theorem stops_dash : Stops ('-' :: rest) :=
  stops_cons.mpr rfl

/-! ## The run in front of a text -/

section Classes

variable {p : Char → Bool} {start start' rest' : List Char}

theorem takeWhile_append_of_stop (hstart : ∀ c ∈ start, p c = true)
    (hrest : ∀ c ∈ rest.head?, p c = false) : (start ++ rest).takeWhile p = start := by
  rw [List.takeWhile_append_of_pos hstart]
  cases rest with
  | nil => simp
  | cons c rest => simp [hrest c rfl]

theorem dropWhile_append_of_stop (hstart : ∀ c ∈ start, p c = true)
    (hrest : ∀ c ∈ rest.head?, p c = false) : (start ++ rest).dropWhile p = rest := by
  rw [List.dropWhile_append_of_pos hstart]
  cases rest with
  | nil => rfl
  | cons c rest => simp [hrest c rfl]

/-- Two maximal runs in front of one text are the same. -/
theorem append_inj_of_stop (h : start ++ rest = start' ++ rest')
    (hstart : ∀ c ∈ start, p c = true) (hrest : ∀ c ∈ rest.head?, p c = false)
    (hstart' : ∀ c ∈ start', p c = true) (hrest' : ∀ c ∈ rest'.head?, p c = false) :
    start = start' ∧ rest = rest' := by
  have htake := congrArg (List.takeWhile p) h
  rw [takeWhile_append_of_stop hstart hrest, takeWhile_append_of_stop hstart' hrest'] at htake
  have hdrop := congrArg (List.dropWhile p) h
  rw [dropWhile_append_of_stop hstart hrest, dropWhile_append_of_stop hstart' hrest'] at hdrop
  exact ⟨htake, hdrop⟩

end Classes

theorem run_append (hdigits : ∀ c ∈ digits, c.isDigit = true) (hrest : Stops rest) :
    run (digits ++ rest) = digits :=
  takeWhile_append_of_stop hdigits hrest

theorem afterRun_append (hdigits : ∀ c ∈ digits, c.isDigit = true) (hrest : Stops rest) :
    afterRun (digits ++ rest) = rest :=
  dropWhile_append_of_stop hdigits hrest

/-- A class of characters stops where its longest start of a text ends. -/
theorem eq_false_of_mem_head?_dropWhile (p : Char → Bool) (text : List Char) :
    ∀ c ∈ (text.dropWhile p).head?, p c = false := by
  intro c hc
  have hhead := List.head?_dropWhile_not p text
  rw [Option.mem_def.mp hc] at hhead
  exact hhead

theorem stops_afterRun (text : List Char) : Stops (afterRun text) :=
  eq_false_of_mem_head?_dropWhile Char.isDigit text

theorem run_eq_nil_iff : run text = [] ↔ Stops text := by
  cases text with
  | nil => simp [run, Stops]
  | cons c text =>
    rw [stops_cons]
    cases hc : c.isDigit <;> simp [run, hc]

/-! ## Reading a run -/

/-- A run is read off a text exactly if the text starts with it and it is maximal. -/
theorem digits?_eq_some_iff :
    digits? text = some (digits, rest) ↔ text = digits ++ rest ∧ IsDigits digits ∧ Stops rest := by
  constructor
  · intro h
    unfold digits? at h
    split at h
    · cases h
    · rename_i hne
      obtain ⟨rfl, rfl⟩ := Prod.mk.inj (Option.some.inj h)
      exact ⟨(run_append_afterRun text).symm, ⟨hne, fun c hc => isDigit_of_mem_run hc⟩,
        stops_afterRun text⟩
  · rintro ⟨rfl, hdigits, hrest⟩
    rw [digits?, run_append hdigits.2 hrest, afterRun_append hdigits.2 hrest, if_neg hdigits.1]

theorem digits?_eq_none_iff : digits? text = none ↔ Stops text := by
  rw [← run_eq_nil_iff, digits?]
  split <;> simp_all

theorem IsDigits.append_inj {digits' rest' : List Char} (h : digits ++ rest = digits' ++ rest')
    (hdigits : IsDigits digits) (hrest : Stops rest) (hdigits' : IsDigits digits')
    (hrest' : Stops rest') : digits = digits' ∧ rest = rest' :=
  append_inj_of_stop h hdigits.2 hrest hdigits'.2 hrest'

/-- If a class of characters stops after a start of a text, then no start of the text
within the class is longer. -/
theorem length_le_of_stops {p : Char → Bool} {start rest start' rest' : List Char}
    (h : start ++ rest = start' ++ rest') (hrest : ∀ c ∈ rest.head?, p c = false)
    (hstart' : ∀ c ∈ start', p c = true) : start'.length ≤ start.length := by
  rcases List.append_eq_append_iff.mp h with ⟨more, rfl, rfl⟩ | ⟨more, rfl, rfl⟩
  · cases more with
    | nil => simp
    | cons c more =>
      have hin : p c = true := hstart' c (by simp)
      have hout : p c = false := hrest c (by simp)
      rw [hin] at hout
      cases hout
  · simp

/-! ## The value of a run -/

/-- A number is read off a text exactly if the text starts with a maximal run of digits
that has its value. -/
theorem number?_eq_some_iff {n : UInt32} :
    number? text = some (n, rest) ↔
      ∃ digits, text = digits ++ rest ∧ IsDigits digits ∧ Stops rest ∧ n.toNat = value digits := by
  constructor
  · intro h
    obtain ⟨⟨digits, rest'⟩, hread, h⟩ := Option.bind_eq_some_iff.mp h
    obtain ⟨n', hvalue, h⟩ := Option.bind_eq_some_iff.mp h
    obtain ⟨rfl, rfl⟩ := Prod.mk.inj (Option.some.inj h)
    obtain ⟨htext, hdigits, hrest⟩ := digits?_eq_some_iff.mp hread
    exact ⟨digits, htext, hdigits, hrest, (word?_eq_some_iff.mp hvalue).symm⟩
  · rintro ⟨digits, htext, hdigits, hrest, hvalue⟩
    simp [number?, digits?_eq_some_iff.mpr ⟨htext, hdigits, hrest⟩,
      word?_eq_some_iff.mpr hvalue.symm]

theorem isDigits_toDigits (n : Nat) : IsDigits (Nat.toDigits 10 n) :=
  ⟨Nat.toDigits_ne_nil, fun _ hc => Nat.isDigit_of_mem_toDigits (by decide) (by decide) hc⟩

theorem isDigits_render (n : UInt32) : IsDigits (render n).toList := by
  rw [toList_render]
  exact isDigits_toDigits n.toNat

theorem value_render (n : UInt32) : value (render n).toList = n.toNat :=
  word?_eq_some_iff.mp (word?_toList_render n)

theorem word?_eq_none_iff : word? digits = none ↔ UInt32.size ≤ value digits := by
  unfold word?
  split
  · rename_i h
    simp only [reduceCtorEq, false_iff]
    omega
  · rename_i h
    simp only [true_iff]
    omega

end Negotiation.Numeral
