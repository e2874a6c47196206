/-
# Negotiation.Proofs.NumberValues -- which numbers are read as integers

A double denotes a rational number, told by its sign, its exponent and its fraction as
the standard of floating-point numbers has it. An integer is read off a double if the part
after the point is at most `2 ^ -52`, so a double that is an integer is read as itself.
Doubles are sparse: past 2 none of them is this close to an integer without being one.
The doubles that are read as integers they do not equal are hence few, and are listed by
`Double.Slips`: those next to 0, one next to 1 and to -1, and the one past the last
integer. Of these only the one next to 1 lets a reply pass as an answer by mistake.
-/

import Mathlib.Data.Rat.Cast.Order
import Mathlib.Tactic.FieldSimp
import Mathlib.Tactic.Linarith
import Mathlib.Tactic.NormNum
import Mathlib.Tactic.Positivity
import Mathlib.Tactic.Ring
import Negotiation.Proofs.Refusals

namespace Negotiation

/-! ## The number that a value denotes -/

namespace Double

/-- The sign of a double. -/
def sign (d : Double) : ℤ :=
  if d.isNegative then -1 else 1

/-- The number that a double denotes; infinities and NaN denote none. -/
def value? (d : Double) : Option ℚ :=
  if d.exponentBits = 2047 then none
  else if d.exponentBits = 0 then
    some (d.sign * (d.fractionBits / 2 ^ 52 * 2 ^ (-1022 : ℤ)))
  else
    some (d.sign * ((1 + d.fractionBits / 2 ^ 52) * 2 ^ ((d.exponentBits : ℤ) - 1023)))

/-- Doubles of this value are read as this integer, although they do not equal it. -/
inductive Slips (value : ℚ) : ℤ → Prop
  /-- A tiny number is read as 0. -/
  | tiny : 0 < |value| → |value| ≤ 1 / 2 ^ 52 → Slips value 0
  /-- The double next to 1 is read as 1. -/
  | nextToOne : value = 1 + 1 / 2 ^ 52 → Slips value 1
  /-- The double next to -1 is read as -1. -/
  | nextToMinusOne : value = -(1 + 1 / 2 ^ 52) → Slips value (-1)
  /-- The double past the last integer is read as the last integer. -/
  | pastEnd : value = 2 ^ 63 → Slips value (2 ^ 63 - 1)

/-! ## Magnitudes -/

/-- The number that a finite double denotes, up to its sign. -/
def magnitude (d : Double) : ℚ :=
  d.significand * 2 ^ d.exponent

variable {d : Double} {n : ℕ}

theorem value?_eq (d : Double) :
    d.value? = if d.isFinite then some (d.sign * d.magnitude) else none := by
  by_cases hfinite : d.exponentBits = 2047
  · simp [value?, isFinite, hfinite]
  · have hisFinite : d.isFinite = true := by simpa [isFinite] using hfinite
    rw [value?, if_neg hfinite, hisFinite, if_pos rfl, magnitude, significand, exponent]
    by_cases hzero : d.exponentBits = 0
    · -- there is no leading bit, and the exponent is the least one
      have hpow : (2 : ℚ) ^ (-1022 : ℤ) = 2 ^ 52 * 2 ^ (-1074 : ℤ) := by
        rw [← zpow_natCast, ← zpow_add₀ two_ne_zero]
        norm_num
      have hexponent : ((max 1 0 : ℕ) : ℤ) - 1075 = -1074 := by norm_num
      rw [if_pos hzero, if_pos hzero, hzero, hexponent, hpow]
      field_simp
    · have hmax : max 1 d.exponentBits = d.exponentBits := max_eq_right (by omega)
      have hpow : (2 : ℚ) ^ ((d.exponentBits : ℤ) - 1023) =
          2 ^ 52 * 2 ^ ((d.exponentBits : ℤ) - 1075) := by
        rw [← zpow_natCast, ← zpow_add₀ two_ne_zero]
        congr 1
        push_cast
        ring
      rw [if_neg hzero, if_neg hzero, hmax, hpow, Nat.shiftLeft_eq]
      push_cast
      congr 1
      field_simp
      ring

theorem significand_lt (d : Double) : d.significand < 2 ^ 53 := by
  have hfraction : d.fractionBits < 2 ^ 52 := Nat.mod_lt _ (by decide)
  unfold significand
  split <;> omega

theorem magnitude_nonneg (d : Double) : 0 ≤ d.magnitude :=
  mul_nonneg (Nat.cast_nonneg _) (zpow_nonneg zero_le_two _)

theorem magnitude_of_ofNat {e : ℕ} (h : d.exponent = .ofNat e) :
    d.magnitude = (d.significand <<< e : ℕ) := by
  rw [magnitude, h, Nat.shiftLeft_eq]
  push_cast
  rfl

theorem magnitude_of_negSucc {e : ℕ} (h : d.exponent = .negSucc e) :
    d.magnitude = d.significand / (2 ^ (e + 1) : ℕ) := by
  rw [magnitude, h, zpow_negSucc, div_eq_mul_inv]
  push_cast
  rfl

/-! ## Numbers next to integers -/

/-- In whole numbers: a quotient is at most `2 ^ -52` past an integer. -/
theorem near_iff {m unit : ℕ} (hunit : 0 < unit) :
    ((n : ℚ) ≤ m / unit ∧ (m : ℚ) / unit ≤ n + 1 / 2 ^ 52) ↔
      n * unit ≤ m ∧ m * 2 ^ 52 ≤ n * unit * 2 ^ 52 + unit := by
  have hpos : (0 : ℚ) < unit := by exact_mod_cast hunit
  have hscale : ((n : ℚ) + 1 / 2 ^ 52) * unit * 2 ^ 52 = n * unit * 2 ^ 52 + unit := by
    field_simp
  have htwo : (0 : ℚ) < 2 ^ 52 := by positivity
  rw [le_div_iff₀ hpos, div_le_iff₀ hpos]
  nth_rewrite 2 [← mul_le_mul_iff_left₀ htwo]
  rw [hscale]
  norm_cast

/-- The part before the point is the one integer that is this close. -/
theorem near_iff_div_eq {m unit : ℕ} (hunit : 0 < unit) :
    n * unit ≤ m ∧ m * 2 ^ 52 ≤ n * unit * 2 ^ 52 + unit ↔
      m / unit = n ∧ m % unit * 2 ^ 52 ≤ unit := by
  have hsplit : m / unit * unit + m % unit = m := Nat.div_add_mod' m unit
  constructor
  · rintro ⟨hlow, hhigh⟩
    have hquotient : m / unit = n := by
      apply Nat.div_eq_of_lt_le hlow
      rw [Nat.add_mul, Nat.one_mul]
      omega
    refine ⟨hquotient, ?_⟩
    rw [hquotient] at hsplit
    have hrest : m % unit = m - n * unit := by omega
    rw [hrest, Nat.sub_mul]
    exact Nat.sub_le_iff_le_add'.mpr hhigh
  · rintro ⟨rfl, hrest⟩
    refine ⟨Nat.div_mul_le_self m unit, ?_⟩
    calc m * 2 ^ 52 = (m / unit * unit + m % unit) * 2 ^ 52 := by rw [hsplit]
      _ = m / unit * unit * 2 ^ 52 + m % unit * 2 ^ 52 := Nat.add_mul _ _ _
      _ ≤ m / unit * unit * 2 ^ 52 + unit := Nat.add_le_add_left hrest _

theorem wholePart?_eq_some_iff :
    d.wholePart? = some n ↔ (n : ℚ) ≤ d.magnitude ∧ d.magnitude ≤ n + 1 / 2 ^ 52 := by
  unfold wholePart?
  cases h : d.exponent with
  | ofNat e =>
    -- the double is an integer, and no other integer is close to it
    rw [magnitude_of_ofNat h]
    dsimp only
    constructor
    · intro heq
      obtain rfl := Option.some.inj heq
      exact ⟨le_refl _, by linarith [show (0 : ℚ) ≤ 1 / 2 ^ 52 by positivity]⟩
    · rintro ⟨hlow, hhigh⟩
      have hle : n ≤ d.significand <<< e := by exact_mod_cast hlow
      have hlt : ((d.significand <<< e : ℕ) : ℚ) < (n + 1 : ℕ) := by
        push_cast
        linarith [show (1 : ℚ) / 2 ^ 52 < 1 by norm_num]
      have hge : d.significand <<< e ≤ n := Nat.lt_succ_iff.mp (by exact_mod_cast hlt)
      rw [Nat.le_antisymm hge hle]
  | negSucc e =>
    have hunit : 0 < 2 ^ (e + 1) := Nat.two_pow_pos _
    rw [magnitude_of_negSucc h, near_iff hunit, near_iff_div_eq hunit]
    simp only [Nat.shiftLeft_eq, Nat.one_mul]
    split
    · rename_i hrest
      rw [Option.some.injEq, and_iff_left hrest]
    · rename_i hrest
      exact ⟨fun heq => (nomatch heq), fun heq => absurd heq.2 hrest⟩

/-- Doubles are sparse: one that is so close past an integer equals it, or is tiny, or is
the one next to 1. -/
theorem magnitude_cases (hlow : (n : ℚ) ≤ d.magnitude) (hhigh : d.magnitude ≤ n + 1 / 2 ^ 52) :
    d.magnitude = n ∨ n = 0 ∨ n = 1 ∧ d.magnitude = 1 + 1 / 2 ^ 52 := by
  cases h : d.exponent with
  | ofNat e =>
    left
    have hwhole : d.wholePart? = some n := wholePart?_eq_some_iff.mpr ⟨hlow, hhigh⟩
    unfold wholePart? at hwhole
    simp only [h, Option.some.injEq] at hwhole
    rw [magnitude_of_ofNat h, hwhole]
  | negSucc e =>
    have hsignificand := d.significand_lt
    have hunit : 0 < 2 ^ (e + 1) := Nat.two_pow_pos _
    rw [magnitude_of_negSucc h] at hlow hhigh ⊢
    obtain ⟨hle, hclose⟩ := (near_iff hunit).mp ⟨hlow, hhigh⟩
    rcases Nat.eq_zero_or_pos n with hzero | hpos
    · exact .inr (.inl hzero)
    rcases Nat.eq_or_lt_of_le hle with heq | hlt
    · left
      rw [← heq]
      push_cast
      field_simp
    · -- a remainder leaves room for the point at one place only, behind 52 binary digits
      right
      right
      have hunitLe : 2 ^ 52 ≤ 2 ^ (e + 1) := by omega
      have hunitLt : 2 ^ (e + 1) < 2 ^ 53 := by
        have hmul : 2 ^ (e + 1) ≤ n * 2 ^ (e + 1) := Nat.le_mul_of_pos_left _ hpos
        omega
      have hplace : e + 1 = 52 := by
        have hge : 52 ≤ e + 1 := (Nat.pow_le_pow_iff_right (by decide)).mp hunitLe
        have hlt : e + 1 < 53 := (Nat.pow_lt_pow_iff_right (by decide)).mp hunitLt
        omega
      rw [hplace] at hclose hlt ⊢
      have hone : n = 1 := by omega
      have hsucc : d.significand = 2 ^ 52 + 1 := by omega
      refine ⟨hone, ?_⟩
      rw [hsucc]
      norm_num

/-! ## Integers -/

/-- A double is just past an integer, away from 0, and that integer is read off it; only the
number past the last integer is read as the last one. -/
def ReadsAs (d : Double) (i : ℤ) : Prop :=
  ∃ n : ℕ, ((n : ℚ) ≤ d.magnitude ∧ d.magnitude ≤ n + 1 / 2 ^ 52) ∧ n ≤ 2 ^ 63
    ∧ i = if d.isNegative then -(n : ℤ) else (min n (2 ^ 63 - 1) : ℕ)

theorem toInt64?_eq_some_iff_readsAs {i : Int64} :
    d.toInt64? = some i ↔ d.isFinite = true ∧ d.ReadsAs i.toInt := by
  simp only [ReadsAs, ← wholePart?_eq_some_iff]
  unfold toInt64?
  cases d.isFinite with
  | false => simp
  | true =>
    cases d.wholePart? with
    | none => simp
    | some n =>
      simp only [if_true, true_and, Option.some.injEq, exists_eq_left', Nat.shiftLeft_eq,
        Nat.one_mul]
      by_cases hlarge : 2 ^ 63 < n
      · rw [if_pos hlarge]
        exact ⟨fun h => (nomatch h), fun h => absurd hlarge (Nat.not_lt.mpr h.1)⟩
      · have hle : n ≤ 2 ^ 63 := Nat.not_lt.mp hlarge
        rw [if_neg hlarge, and_iff_right hle]
        cases d.isNegative with
        | true =>
          have hint : (Int64.ofInt (-(n : ℤ))).toInt = -(n : ℤ) :=
            Int64.toInt_ofInt_of_le (by omega) (by omega)
          rw [if_pos rfl, if_pos rfl, Option.some.injEq, ← Int64.toInt_inj, hint, eq_comm]
        | false =>
          have hint : (Int64.ofNat (min n (2 ^ 63 - 1))).toInt = (min n (2 ^ 63 - 1) : ℕ) :=
            Int64.toInt_ofNat_of_lt (by omega)
          rw [if_neg Bool.false_ne_true, if_neg Bool.false_ne_true, Option.some.injEq,
            ← Int64.toInt_inj, hint, eq_comm]

theorem sign_of_isNegative (h : d.isNegative = true) : d.sign = -1 := by
  rw [sign, if_pos h]

theorem sign_of_not_isNegative (h : d.isNegative = false) : d.sign = 1 := by
  rw [sign, h]
  rfl

theorem abs_sign_mul_magnitude (d : Double) : |(d.sign : ℚ) * d.magnitude| = d.magnitude := by
  cases h : d.isNegative with
  | true => simp [sign_of_isNegative h, abs_of_nonneg d.magnitude_nonneg]
  | false => simp [sign_of_not_isNegative h, abs_of_nonneg d.magnitude_nonneg]

variable {i : ℤ}

/-- A double from which an integer is read equals it, or is one of the few that do not. -/
theorem ReadsAs.eq_or_slips (h : d.ReadsAs i) :
    (d.sign : ℚ) * d.magnitude = i ∨ Slips (d.sign * d.magnitude) i := by
  obtain ⟨n, ⟨hlow, hhigh⟩, hn, hi⟩ := h
  rcases magnitude_cases hlow hhigh with heq | rfl | ⟨rfl, hnext⟩
  · cases h : d.isNegative with
    | true =>
      left
      rw [sign_of_isNegative h, heq, hi, h, if_pos rfl]
      push_cast
      ring
    | false =>
      rw [h, if_neg Bool.false_ne_true] at hi
      rw [sign_of_not_isNegative h, heq]
      rcases Nat.eq_or_lt_of_le hn with hend | hlt
      · right
        have hlast : i = 2 ^ 63 - 1 := by omega
        rw [hlast]
        exact .pastEnd (by rw [hend]; norm_num)
      · left
        have hsame : i = n := by omega
        rw [hsame]
        norm_num
  · have hzero : i = 0 := by
      rw [hi]
      split <;> simp
    rw [hzero]
    rcases eq_or_lt_of_le d.magnitude_nonneg with hnone | hpos
    · left
      rw [← hnone]
      norm_num
    · right
      apply Slips.tiny
      · rwa [abs_sign_mul_magnitude]
      · rw [abs_sign_mul_magnitude]
        simpa using hhigh
  · right
    cases h : d.isNegative with
    | true =>
      rw [h, if_pos rfl] at hi
      rw [sign_of_isNegative h, hnext, hi]
      exact .nextToMinusOne (by norm_num)
    | false =>
      rw [h, if_neg Bool.false_ne_true] at hi
      rw [sign_of_not_isNegative h, hnext, hi]
      exact .nextToOne (by norm_num)

/-- A positive number just past an integer is read as it. -/
theorem readsAs_of_pos {v : ℚ} (hv : (d.sign : ℚ) * d.magnitude = v) (hpos : 0 < v)
    (hlow : (n : ℚ) ≤ v) (hhigh : v ≤ n + 1 / 2 ^ 52) (hn : n ≤ 2 ^ 63)
    (hi : i = (min n (2 ^ 63 - 1) : ℕ)) : d.ReadsAs i := by
  cases hsign : d.isNegative with
  | true =>
    rw [sign_of_isNegative hsign] at hv
    push_cast at hv
    linarith [d.magnitude_nonneg]
  | false =>
    have hmagnitude : d.magnitude = v := by
      rw [← hv, sign_of_not_isNegative hsign]
      norm_num
    refine ⟨n, ?_, hn, ?_⟩
    · rw [hmagnitude]
      exact ⟨hlow, hhigh⟩
    · rw [hsign, if_neg Bool.false_ne_true, hi]

/-- A negative number is read as its magnitude is. -/
theorem readsAs_of_neg {v : ℚ} (hv : (d.sign : ℚ) * d.magnitude = -v) (hpos : 0 < v)
    (hlow : (n : ℚ) ≤ v) (hhigh : v ≤ n + 1 / 2 ^ 52) (hn : n ≤ 2 ^ 63) (hi : i = -(n : ℤ)) :
    d.ReadsAs i := by
  cases hsign : d.isNegative with
  | true =>
    have hmagnitude : d.magnitude = v := by
      rw [sign_of_isNegative hsign] at hv
      push_cast at hv
      linarith
    refine ⟨n, ?_, hn, ?_⟩
    · rw [hmagnitude]
      exact ⟨hlow, hhigh⟩
    · rw [hsign, if_pos rfl, hi]
  | false =>
    rw [sign_of_not_isNegative hsign] at hv
    push_cast at hv
    linarith [d.magnitude_nonneg]

/-- Next to 0 the sign makes no difference. -/
theorem readsAs_zero (h : |(d.sign : ℚ) * d.magnitude| ≤ 1 / 2 ^ 52) : d.ReadsAs 0 := by
  rw [abs_sign_mul_magnitude] at h
  refine ⟨0, ⟨?_, ?_⟩, Nat.zero_le _, ?_⟩
  · exact_mod_cast d.magnitude_nonneg
  · simpa using h
  · split <;> simp

/-- A double that equals an integer is read as it. -/
theorem readsAs_of_eq (hlow : -2 ^ 63 ≤ i) (hhigh : i < 2 ^ 63)
    (h : (d.sign : ℚ) * d.magnitude = i) : d.ReadsAs i := by
  have hpast : ∀ v : ℚ, v ≤ v + 1 / 2 ^ 52 := fun v => by
    linarith [show (0 : ℚ) ≤ 1 / 2 ^ 52 by positivity]
  rcases lt_trichotomy i 0 with hneg | rfl | hpos
  · have hnat : (i : ℚ) = -(i.natAbs : ℚ) := by
      rw [Nat.cast_natAbs, abs_of_neg hneg]
      push_cast
      ring
    have hnatPos : (0 : ℚ) < i.natAbs := by
      exact_mod_cast Int.natAbs_pos.mpr hneg.ne
    exact readsAs_of_neg (h.trans hnat) hnatPos (le_refl _) (hpast _) (by omega) (by omega)
  · apply readsAs_zero
    rw [h]
    norm_num
  · have hnat : (i : ℚ) = (i.natAbs : ℚ) := by
      rw [Nat.cast_natAbs, abs_of_pos hpos]
    have hnatPos : (0 : ℚ) < i.natAbs := by
      exact_mod_cast Int.natAbs_pos.mpr hpos.ne'
    exact readsAs_of_pos (h.trans hnat) hnatPos (le_refl _) (hpast _) (by omega) (by omega)

/-- The few doubles that equal no integer are read as one all the same. -/
theorem readsAs_of_slips (h : Slips (d.sign * d.magnitude) i) : d.ReadsAs i := by
  generalize hv : (d.sign : ℚ) * d.magnitude = v at h
  cases h with
  | tiny _ hle =>
    rw [← hv] at hle
    exact readsAs_zero hle
  | nextToOne hvalue =>
    rw [hvalue] at hv
    exact readsAs_of_pos (n := 1) hv (by norm_num) (by norm_num) (by norm_num) (by norm_num) rfl
  | nextToMinusOne hvalue =>
    rw [hvalue] at hv
    exact readsAs_of_neg (n := 1) hv (by norm_num) (by norm_num) (by norm_num) (by norm_num) rfl
  | pastEnd hvalue =>
    rw [hvalue] at hv
    exact readsAs_of_pos (n := 2 ^ 63) hv (by norm_num) (by norm_num) (by norm_num) (le_refl _)
      (by norm_num)

/-- An integer is read off a double exactly if the double equals it or slips. -/
theorem toInt64?_eq_some_iff {i : Int64} :
    d.toInt64? = some i ↔ ∃ v, d.value? = some v ∧ (v = i.toInt ∨ Slips v i.toInt) := by
  rw [toInt64?_eq_some_iff_readsAs, value?_eq]
  cases d.isFinite with
  | false => simp
  | true =>
    simp only [if_true, true_and, Option.some.injEq, exists_eq_left']
    constructor
    · exact ReadsAs.eq_or_slips
    · rintro (heq | hslips)
      · exact readsAs_of_eq i.le_toInt i.toInt_lt heq
      · exact readsAs_of_slips hslips

-- the double past the last integer
example : toInt64? ⟨0x43e0000000000000⟩ = some Int64.maxValue := by decide

end Double

namespace Bson

/-- The number that an integer of either width or a double denotes. Values of other types
have none here: a decimal denotes a number too, but no integer is read off it. -/
def value? : Bson → Option ℚ
  | .int32 n => some n.toInt
  | .int64 n => some n.toInt
  | .double d => d.value?
  | _ => none

/-- An integer is read off a value exactly if the value is a number and equals it, or is a
double that slips. -/
theorem toInt64?_eq_some_iff {x : Bson} {i : Int64} :
    x.toInt64? = some i ↔
      ∃ v, x.value? = some v ∧ (v = i.toInt ∨ (∃ d, x = .double d) ∧ Double.Slips v i.toInt) := by
  cases x with
  | int32 n =>
    simp only [toInt64?, value?, Option.some.injEq, exists_eq_left', ← Int64.toInt_inj,
      Int32.toInt_toInt64, reduceCtorEq, exists_false, false_and, or_false, Int.cast_inj]
  | int64 n =>
    simp only [toInt64?, value?, Option.some.injEq, exists_eq_left', ← Int64.toInt_inj,
      reduceCtorEq, exists_false, false_and, or_false, Int.cast_inj]
  | double d =>
    rw [toInt64?, Double.toInt64?_eq_some_iff]
    simp [value?]
  | _ => simp [toInt64?, value?]

/-- Nothing is read off values of other types. -/
theorem type_of_toInt64?_ne_none {x : Bson} (h : x.toInt64? ≠ none) :
    (∃ n, x = .int32 n) ∨ (∃ n, x = .int64 n) ∨ ∃ d, x = .double d := by
  cases x with
  | int32 n => exact Or.inl ⟨n, rfl⟩
  | int64 n => exact Or.inr (Or.inl ⟨n, rfl⟩)
  | double d => exact Or.inr (Or.inr ⟨d, rfl⟩)
  | _ => exact absurd rfl h

/-- The values that are read as 1. -/
theorem toInt64?_eq_one_iff {x : Bson} :
    x.toInt64? = some 1 ↔ x = .int32 1 ∨ x = .int64 1
      ∨ ∃ d, x = .double d ∧ (d.value? = some 1 ∨ d.value? = some (1 + 1 / 2 ^ 52)) := by
  cases x with
  | int32 n =>
    have hone : n.toInt64 = 1 ↔ n = 1 := by
      rw [← Int64.toInt_inj, Int32.toInt_toInt64, ← Int32.toInt_inj]
      rfl
    simp [toInt64?, hone]
  | int64 n => simp [toInt64?]
  | double d =>
    have hslips : ∀ v : ℚ, Double.Slips v (1 : Int64).toInt ↔ v = 1 + 1 / 2 ^ 52 := by
      intro v
      show Double.Slips v 1 ↔ _
      constructor
      · rintro ⟨⟩
        assumption
      · exact .nextToOne
    have hone : (((1 : Int64).toInt : ℤ) : ℚ) = 1 := by
      show ((1 : ℤ) : ℚ) = 1
      norm_num
    rw [toInt64?, Double.toInt64?_eq_some_iff]
    simp only [hslips, hone, reduceCtorEq, false_or, double.injEq, exists_eq_left']
    constructor
    · rintro ⟨v, hvalue, rfl | rfl⟩
      · exact .inl hvalue
      · exact .inr hvalue
    · rintro (hvalue | hvalue)
      · exact ⟨_, hvalue, .inl rfl⟩
      · exact ⟨_, hvalue, .inr rfl⟩
  | _ => simp [toInt64?]

end Bson

/-! ## Answers -/

namespace Reply

variable {reply : Document}

/-- A reply is an answer by a 1 of any type, or by the double next to 1. -/
theorem isOk_iff :
    isOk reply = true ↔ reply.get? "ok" = some (.int32 1) ∨ reply.get? "ok" = some (.int64 1)
      ∨ ∃ d, reply.get? "ok" = some (.double d)
        ∧ (d.value? = some 1 ∨ d.value? = some (1 + 1 / 2 ^ 52)) := by
  rw [isOk, beq_iff_eq]
  cases hvalue : reply.get? "ok" with
  | none => simp
  | some x =>
    rw [Option.bind_eq_bind, Option.bind_some, Bson.toInt64?_eq_one_iff]
    simp only [Option.some.injEq]

end Reply

/-- Which integers are read off values, and which replies are answers:

* an integer is read off a number that equals it, and else only off a double that slips;
* the numbers are integers of either width and doubles, and nothing is read off a value of
  any other type, be it a text, a truth value, a date or a decimal;
* a reply is an answer exactly if its `ok` field is the 1 of either integer type, or a double
  that equals 1 or is the one next to it;
* exactly the answers pass a check, as they are. -/
theorem read_if_equal_or_slips (x : Bson) (i : Int64) (reply : Document) :
    (x.toInt64? = some i ↔ ∃ v, x.value? = some v
        ∧ (v = i.toInt ∨ (∃ d, x = .double d) ∧ Double.Slips v i.toInt))
      ∧ (x.toInt64? ≠ none →
          (∃ n, x = .int32 n) ∨ (∃ n, x = .int64 n) ∨ ∃ d, x = .double d)
      ∧ (Reply.isOk reply = true ↔
          reply.get? "ok" = some (.int32 1) ∨ reply.get? "ok" = some (.int64 1)
            ∨ ∃ d, reply.get? "ok" = some (.double d)
              ∧ (d.value? = some 1 ∨ d.value? = some (1 + 1 / 2 ^ 52)))
      ∧ (∀ answer, Reply.check reply = .ok answer ↔
          Reply.isOk reply = true ∧ answer = reply) :=
  ⟨Bson.toInt64?_eq_some_iff, Bson.type_of_toInt64?_ne_none, Reply.isOk_iff,
    fun _ => Reply.check_eq_ok_iff⟩

/-- The double next to 1 is read as 1, and a reply that has it for its `ok` field is passed
on as an answer. -/
theorem next_to_one_is_read_as_one :
    let x := Bson.double ⟨0x3ff0000000000001⟩
    let reply := Document.ofList [("ok", x)]
    x.value? = some (1 + 1 / 2 ^ 52) ∧ (1 + 1 / 2 ^ 52 : ℚ) ≠ 1 ∧ x.toInt64? = some 1
      ∧ Reply.isOk reply = true ∧ Reply.check reply = .ok reply := by
  intro x reply
  have hok : Reply.isOk reply = true := by decide
  have hexponent : Double.exponentBits ⟨0x3ff0000000000001⟩ = 1023 := by decide
  have hfraction : Double.fractionBits ⟨0x3ff0000000000001⟩ = 1 := by decide
  have hsign : Double.sign ⟨0x3ff0000000000001⟩ = 1 := by decide
  refine ⟨?_, by norm_num, by decide, hok, Reply.check_eq_ok_iff.mpr ⟨hok, rfl⟩⟩
  simp only [x, Bson.value?, Double.value?, hexponent, hfraction, hsign]
  norm_num

end Negotiation
