/-
# Negotiation.Proofs.TypedFields -- which values typed fields accept

What a document value stands for is said by relations that do not mention a reader: a
string stands for its text, an integer of either width for the 32 bit number that it
equals, an array for the list of what its items stand for, and null for a missing value.
Readers accept exactly the values that stand for something, and give what these stand
for; so do fields, required or not. What is read from a document hence depends on the
fields that are read, and on nothing else about it.
-/

import Mathlib.Data.List.Forall2
import Negotiation.Document.Reader

namespace Negotiation

variable {α : Type}

/-! ## What a value stands for -/

namespace Bson

/-- A string stands for its text. -/
inductive IsText : Bson → String → Prop
  | string (s : String) : IsText (.string s) s

/-- An integer stands for the 32 bit number that it equals. -/
inductive IsInt32 : Bson → Int32 → Prop
  | narrow (n : Int32) : IsInt32 (.int32 n) n
  | wide {wide : Int64} {n : Int32} : wide.toInt = n.toInt → IsInt32 (.int64 wide) n

/-- An array stands for a list, item by item. -/
inductive IsList (Is : Bson → α → Prop) : Bson → List α → Prop
  | array {items : List Bson} {list : List α} :
    List.Forall₂ Is items list → IsList Is (.array items) list

/-- Null stands for a missing value. -/
inductive IsOptional (Is : Bson → α → Prop) : Bson → Option α → Prop
  | null : IsOptional Is .null none
  | some {value : Bson} {a : α} : Is value a → IsOptional Is value (some a)

theorem not_isText_null (s : String) : ¬IsText .null s :=
  nofun

theorem not_isList_null {Is : Bson → α → Prop} (list : List α) : ¬IsList Is .null list :=
  nofun

theorem isList_isText_iff {value : Bson} {texts : List String} :
    IsList IsText value texts ↔ value = .array (texts.map .string) := by
  constructor
  · rintro ⟨h⟩
    congr 1
    induction h with
    | nil => rfl
    | cons hfirst _ ih =>
      cases hfirst
      rw [List.map_cons, ih]
  · rintro rfl
    exact .array (List.forall₂_map_left_iff.mpr (List.forall₂_same.mpr fun s _ => .string s))

end Bson

/-! ## Readers of one value -/

theorem bind_eq_ok_iff {ε β : Type} {x : Except ε α} {f : α → Except ε β} {b : β} :
    x >>= f = .ok b ↔ ∃ a, x = .ok a ∧ f a = .ok b := by
  cases x with
  | error e => exact ⟨fun h => (nomatch h), fun ⟨_, h, _⟩ => (nomatch h)⟩
  | ok a => exact ⟨fun h => ⟨a, rfl, h⟩, fun ⟨_, ha, h⟩ => Except.ok.inj ha ▸ h⟩

namespace Reader

variable {read : Reader α} {Is : Bson → α → Prop}

/-- A reader that gives what values stand for, and fails on values that stand for nothing. -/
def Reads (read : Reader α) (Is : Bson → α → Prop) : Prop :=
  ∀ value a, read value = .ok a ↔ Is value a

theorem reads_text : Reads text Bson.IsText := by
  intro value s
  constructor
  · intro h
    cases value with
    | string s' =>
      obtain rfl : s' = s := Except.ok.inj h
      exact .string s'
    | _ => cases h
  · rintro ⟨⟩
    rfl

theorem reads_int32 : Reads int32 Bson.IsInt32 := by
  intro value n
  constructor
  · intro h
    cases value with
    | int32 n' =>
      obtain rfl : n' = n := Except.ok.inj h
      exact .narrow n'
    | int64 wide =>
      -- the number is kept if it comes back from its lower half
      simp only [int32] at h
      split at h
      · rename_i hfits
        obtain rfl : wide.toInt32 = n := Except.ok.inj h
        refine .wide ?_
        rw [← Int32.toInt_toInt64, hfits]
      · cases h
    | _ => cases h
  · rintro ⟨⟩
    · rfl
    · rename_i wide hwide
      obtain rfl : wide = n.toInt64 :=
        Int64.toInt_inj.mp (hwide.trans (Int32.toInt_toInt64 n).symm)
      simp only [int32, Int32.toInt32_toInt64, if_true]

theorem Reads.mapM_eq_ok_iff (h : Reads read Is) {items : List Bson} {list : List α} :
    items.mapM read = .ok list ↔ List.Forall₂ Is items list := by
  induction items generalizing list with
  | nil =>
    rw [List.forall₂_nil_left_iff, List.mapM_nil]
    exact ⟨fun hlist => (Except.ok.inj hlist).symm, fun hlist => congrArg Except.ok hlist.symm⟩
  | cons item rest ih =>
    rw [List.mapM_cons, bind_eq_ok_iff, List.forall₂_cons_left_iff]
    refine exists_congr fun a => ?_
    rw [h item a, bind_eq_ok_iff]
    constructor
    · rintro ⟨hitem, others, hrest, hlist⟩
      exact ⟨others, hitem, ih.mp hrest, (Except.ok.inj hlist).symm⟩
    · rintro ⟨others, hitem, hrest, rfl⟩
      exact ⟨hitem, others, ih.mpr hrest, rfl⟩

theorem Reads.list (h : Reads read Is) : Reads (list read) (Bson.IsList Is) := by
  intro value list
  constructor
  · intro hread
    cases value with
    | array items => exact .array (h.mapM_eq_ok_iff.mp hread)
    | _ => cases hread
  · rintro ⟨hitems⟩
    exact h.mapM_eq_ok_iff.mpr hitems

/-- An optional value is read before it is asked for, so null must not stand for one. -/
theorem Reads.optional (h : Reads read Is) (hnull : ∀ a, ¬Is .null a) :
    Reads (optional read) (Bson.IsOptional Is) := by
  have hsome : ∀ {value : Bson} {a : Option α},
      (read value).map some = .ok a ↔ ∃ b, Is value b ∧ some b = a := by
    intro value a
    cases hread : read value with
    | error e =>
      refine ⟨fun hmap => (nomatch hmap), fun ⟨b, hb, _⟩ => ?_⟩
      rw [(h value b).mpr hb] at hread
      cases hread
    | ok b =>
      refine ⟨fun hmap => ⟨b, (h value b).mp hread, Except.ok.inj hmap⟩, fun ⟨b', hb', ha⟩ => ?_⟩
      rw [(h value b').mpr hb'] at hread
      rw [← ha, Except.ok.inj hread]
      rfl
  intro value a
  constructor
  · intro hread
    cases value with
    | null =>
      obtain rfl : none = a := Except.ok.inj hread
      exact .null
    | _ =>
      obtain ⟨b, hb, rfl⟩ := hsome.mp hread
      exact .some hb
  · rintro (_ | hb)
    · rfl
    · cases value with
      | null => exact absurd hb (hnull _)
      | _ => exact hsome.mpr ⟨_, hb, rfl⟩

end Reader

/-! ## Fields -/

namespace Document

variable {d : Document} {key : String} {read : Reader α} {Is : Bson → α → Prop} {a default : α}

/-- A field is there, and its value stands for something. -/
def Holds (d : Document) (key : String) (Is : Bson → α → Prop) (a : α) : Prop :=
  ∃ value, d.get? key = some value ∧ Is value a

/-- A field is absent and stands for its default, or it is there and stands for something. -/
def HoldsOr (d : Document) (key : String) (Is : Bson → α → Prop) (default a : α) : Prop :=
  d.get? key = none ∧ a = default ∨ d.Holds key Is a

/-- A field is there, but its value stands for nothing. -/
def IllTyped (d : Document) (key : String) (Is : Bson → α → Prop) : Prop :=
  ∃ value, d.get? key = some value ∧ ∀ a, ¬Is value a

/-- There is no third way for a field that may be absent. -/
theorem exists_holdsOr_iff (default : α) :
    (∃ a, d.HoldsOr key Is default a) ↔ ¬d.IllTyped key Is := by
  unfold HoldsOr Holds IllTyped
  cases hvalue : d.get? key with
  | none => simp
  | some value => simp

theorem required_eq_ok_iff (h : read.Reads Is) :
    d.required key read = .ok a ↔ d.Holds key Is a := by
  unfold required Holds
  cases hvalue : d.get? key with
  | none => simp
  | some value => simp [h value a]

theorem withDefault_eq_ok_iff (h : read.Reads Is) :
    d.withDefault key read default = .ok a ↔ d.HoldsOr key Is default a := by
  unfold withDefault HoldsOr Holds
  cases hvalue : d.get? key with
  | none => simp [eq_comm]
  | some value => simp [h value a]

theorem optional_eq_ok_iff {a : Option α} (h : read.Reads Is) (hnull : ∀ a, ¬Is .null a) :
    d.optional key read = .ok a ↔ d.HoldsOr key (Bson.IsOptional Is) none a :=
  withDefault_eq_ok_iff (h.optional hnull)

end Document

end Negotiation
