/-
# Negotiation.Proofs.ByteOrder -- texts are ordered as their bytes

Texts are compared character by character. Names that are kept in order are kept in the
order of their UTF-8 bytes, and this is the same order: UTF-8 gives a higher character
bytes that differ first in a higher byte, and never bytes that merely go on after those
of a lower character. Which text comes first is therefore decided at the same place.
-/

namespace Negotiation.Text

/-- The bytes of a text in UTF-8. -/
def bytes (text : String) : List UInt8 :=
  text.toUTF8.data.toList

theorem bytes_eq (text : String) : bytes text = text.toList.flatMap String.utf8EncodeChar := by
  rw [bytes, String.toUTF8_eq_toByteArray, ← String.utf8Encode_toList, List.utf8Encode,
    List.toList_data_toByteArray]

/-! ## The first byte that differs -/

/-- The first byte in which two sequences differ is lower in the first of them. Neither
sequence is a start of the other. -/
inductive Below : List UInt8 → List UInt8 → Prop
  | here {x y : UInt8} {xs ys : List UInt8} : x < y → Below (x :: xs) (y :: ys)
  | later {x : UInt8} {xs ys : List UInt8} : Below xs ys → Below (x :: xs) (x :: ys)

/-- Between bytes that are given as numbers only equal ones leave the decision to the rest. -/
theorem Below.ofNat {m n : Nat} {xs ys : List UInt8} (hle : m ≤ n) (hn : n < 256)
    (h : m = n → Below xs ys) : Below (UInt8.ofNat m :: xs) (UInt8.ofNat n :: ys) := by
  rcases Nat.lt_or_eq_of_le hle with hlt | rfl
  · refine .here (UInt8.lt_iff_toNat_lt.mpr ?_)
    rw [UInt8.toNat_ofNat_of_lt' (Nat.lt_trans hlt hn), UInt8.toNat_ofNat_of_lt' hn]
    exact hlt
  · exact .later (h rfl)

/-- What follows does not matter once a byte differs. -/
theorem Below.append_lt {xs ys : List UInt8} (h : Below xs ys) (rest rest' : List UInt8) :
    xs ++ rest < ys ++ rest' := by
  induction h with
  | here hlt => exact List.Lex.rel hlt
  | later _ ih => exact List.Lex.cons ih

/-! ## Characters -/

/-- A character takes one to four bytes. With fewer bytes than another one it has a lower
first byte; with as many, its number is cut at the same places, and the first part that
differs is lower. -/
theorem below_utf8EncodeChar {c d : Char} (h : c < d) :
    Below (String.utf8EncodeChar c) (String.utf8EncodeChar d) := by
  have hlt : c.val.toNat < d.val.toNat := UInt32.lt_iff_toNat_lt.mp h
  have hmax : d.val.toNat < 0x110000 := by
    have hvalid : Nat.isValidChar d.val.toNat := d.valid
    unfold Nat.isValidChar at hvalid
    omega
  unfold String.utf8EncodeChar
  generalize c.val.toNat = m at *
  generalize d.val.toNat = n at *
  dsimp only
  split
  · -- one byte, against one to four
    repeat' split
    all_goals exact .ofNat (by omega) (by omega) fun h1 => absurd h1 (by omega)
  · rw [if_neg (by omega : ¬n ≤ 0x7f)]
    split
    · -- two bytes
      split
      · exact .ofNat (by omega) (by omega) fun h1 =>
          .ofNat (by omega) (by omega) fun h2 => absurd h2 (by omega)
      · split <;> exact .ofNat (by omega) (by omega) fun h1 => absurd h1 (by omega)
    · rw [if_neg (by omega : ¬n ≤ 0x7ff)]
      split
      · -- three bytes
        split
        · exact .ofNat (by omega) (by omega) fun h1 =>
            .ofNat (by omega) (by omega) fun h2 =>
              .ofNat (by omega) (by omega) fun h3 => absurd h3 (by omega)
        · exact .ofNat (by omega) (by omega) fun h1 => absurd h1 (by omega)
      · -- four bytes on both sides
        rw [if_neg (by omega : ¬n ≤ 0xffff)]
        exact .ofNat (by omega) (by omega) fun h1 =>
          .ofNat (by omega) (by omega) fun h2 =>
            .ofNat (by omega) (by omega) fun h3 =>
              .ofNat (by omega) (by omega) fun h4 => absurd h4 (by omega)

/-! ## Texts -/

theorem flatMap_utf8EncodeChar_lt {cs ds : List Char} (h : cs < ds) :
    cs.flatMap String.utf8EncodeChar < ds.flatMap String.utf8EncodeChar := by
  induction h with
  | @nil d ds =>
    obtain ⟨b, bs, hb⟩ := List.exists_cons_of_ne_nil (String.utf8EncodeChar_ne_nil (c := d))
    rw [List.flatMap_nil, List.flatMap_cons, hb]
    exact List.Lex.nil
  | rel hlt =>
    rw [List.flatMap_cons, List.flatMap_cons]
    exact (below_utf8EncodeChar hlt).append_lt _ _
  | cons _ ih =>
    rw [List.flatMap_cons, List.flatMap_cons]
    exact List.append_left_lt ih

theorem bytes_lt_of_lt {s t : String} (h : s < t) : bytes s < bytes t := by
  rw [bytes_eq, bytes_eq]
  exact flatMap_utf8EncodeChar_lt h

/-- The order of texts is the order of their bytes. -/
theorem lt_iff_bytes_lt {s t : String} : s < t ↔ bytes s < bytes t := by
  refine ⟨bytes_lt_of_lt, fun h => ?_⟩
  -- both orders are total, so one that is part of the other is all of it
  rcases Std.lt_trichotomy s t with hlt | rfl | hgt
  · exact hlt
  · exact absurd h (List.lt_irrefl _)
  · exact absurd h (List.lt_asymm (bytes_lt_of_lt hgt))

end Negotiation.Text
