/-
# Negotiation.Text.Numeral -- decimal numbers inside a text

Version texts are read from the front: the longest run of ASCII digits is one
number, and whatever follows is read next. A number is a 32 bit word; a run whose
value does not fit is refused and never cut. Leading zeros do not matter, so
`007` and `7` are the same number, but the digits themselves stay available to
readers that need to split a run.
-/

namespace Negotiation.Numeral

/-! ## Digit runs -/

/-- The longest run of ASCII digits in front of a text. -/
def run (text : List Char) : List Char :=
  text.takeWhile Char.isDigit

/-- What follows the longest run of ASCII digits. -/
def afterRun (text : List Char) : List Char :=
  text.dropWhile Char.isDigit

/-- A text that starts with a digit, cut after its first run of digits. -/
def digits? (text : List Char) : Option (List Char × List Char) :=
  if run text = [] then none else some (run text, afterRun text)

theorem run_append_afterRun (text : List Char) : run text ++ afterRun text = text :=
  List.takeWhile_append_dropWhile

theorem isDigit_of_mem_run {text : List Char} {c : Char} (h : c ∈ run text) :
    c.isDigit = true := by
  induction text with
  | nil => simp [run] at h
  | cons d rest ih =>
    by_cases hd : d.isDigit
    · simp only [run, List.takeWhile_cons, hd, if_true, List.mem_cons] at h
      rcases h with rfl | h
      · exact hd
      · exact ih h
    · simp [run, hd] at h

/-! ## Values -/

/-- The value of a list of decimal digits, most significant first. -/
def value (digits : List Char) : Nat :=
  Nat.ofDigitChars 10 digits 0

/-- The value of a list of decimal digits as a 32 bit word, if it fits. -/
def word? (digits : List Char) : Option UInt32 :=
  if h : value digits < UInt32.size then some (UInt32.ofNatLT (value digits) h) else none

/-- The number in front of a text and what follows it; `none` if there is no
digit, or if the number is too large. -/
def number? (text : List Char) : Option (UInt32 × List Char) := do
  let (digits, rest) ← digits? text
  let n ← word? digits
  return (n, rest)

theorem word?_eq_some_iff {digits : List Char} {n : UInt32} :
    word? digits = some n ↔ value digits = n.toNat := by
  unfold word?
  constructor
  · intro h
    split at h
    · obtain rfl := Option.some.inj h
      simp
    · simp at h
  · intro h
    have hlt : value digits < UInt32.size := h ▸ n.toNat_lt_size
    rw [dif_pos hlt]
    congr 1
    apply UInt32.toNat_inj.mp
    simpa using h

/-! ## Writing numbers -/

/-- The shortest decimal text of a word. -/
def render (n : UInt32) : String :=
  n.toNat.repr

theorem toList_render (n : UInt32) : (render n).toList = Nat.toDigits 10 n.toNat := by
  simp [render, Nat.repr_eq_ofList_toDigits]

/-- Reading the written digits gives the number back. -/
theorem word?_toList_render (n : UInt32) : word? (render n).toList = some n := by
  rw [word?_eq_some_iff, toList_render]
  exact Nat.ofDigitChars_ten_toDigits

end Negotiation.Numeral
