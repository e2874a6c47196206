/-
# Negotiation.Document -- ordered maps from keys to values

A document keeps its fields in the order in which their keys were first written.
No key occurs twice: writing a key again replaces its value where it stands.
-/

import Negotiation.Bson

namespace Negotiation

/-- Fields in order, with distinct keys. -/
structure Document where
  /-- The fields, first to last. -/
  fields : List (String × Bson)
  /-- No key occurs twice. -/
  distinct : (fields.map Prod.fst).Nodup

namespace Document

/-! ## Writing a field into a list of fields -/

/-- Writes a field: in place if the key is there, else at the end. -/
def write (key : String) (value : Bson) : List (String × Bson) → List (String × Bson)
  | [] => [(key, value)]
  | field :: rest =>
    if field.1 = key then (key, value) :: rest else field :: write key value rest

/-- Writing keeps the keys in their order and adds the key only if it is new. -/
theorem keys_write (key : String) (value : Bson) (fields : List (String × Bson)) :
    (write key value fields).map Prod.fst =
      if key ∈ fields.map Prod.fst then fields.map Prod.fst
      else fields.map Prod.fst ++ [key] := by
  induction fields with
  | nil => simp [write]
  | cons field rest ih =>
    by_cases h : field.1 = key
    · simp [write, h]
    · have h' : ¬key = field.1 := fun e => h e.symm
      simp only [write, h, if_false, List.map_cons, ih, List.mem_cons, h', false_or]
      split <;> simp

/-- After writing a key it has the new value, and every other key what it had. -/
theorem lookup_write (key other : String) (value : Bson) (fields : List (String × Bson)) :
    (write key value fields).lookup other =
      if other = key then some value else fields.lookup other := by
  induction fields with
  | nil =>
    by_cases h : other = key
    · simp [write, h]
    · simp [write, List.lookup_cons, h, beq_eq_false_iff_ne.mpr h]
  | cons field rest ih =>
    obtain ⟨first, old⟩ := field
    by_cases hfirst : first = key
    · -- the key stands here
      subst hfirst
      by_cases h : other = first
      · simp [write, h]
      · simp [write, List.lookup_cons, h, beq_eq_false_iff_ne.mpr h]
    · -- the key is written further down
      by_cases h : other = first
      · subst h
        simp [write, hfirst]
      · simp [write, List.lookup_cons, hfirst, beq_eq_false_iff_ne.mpr h, ih]

/-- Where no key occurs twice, a field is found wherever it stands. -/
theorem lookup_eq_some_iff_mem {key : String} {value : Bson} {fields : List (String × Bson)}
    (h : (fields.map Prod.fst).Nodup) :
    fields.lookup key = some value ↔ (key, value) ∈ fields := by
  constructor
  · intro hlookup
    obtain ⟨earlier, later, rfl, -⟩ := List.lookup_eq_some_iff.mp hlookup
    simp
  · intro hmem
    obtain ⟨earlier, later, rfl⟩ := List.append_of_mem hmem
    rw [List.map_append, List.map_cons, List.nodup_append] at h
    refine List.lookup_eq_some_iff.mpr ⟨earlier, later, rfl, fun field hfield => ?_⟩
    rw [bne_iff_ne]
    exact (h.2.2 field.1 (List.mem_map_of_mem hfield) key (by simp)).symm

theorem nodup_keys_write {key : String} {value : Bson} {fields : List (String × Bson)}
    (h : (fields.map Prod.fst).Nodup) : ((write key value fields).map Prod.fst).Nodup := by
  rw [keys_write]
  split
  · exact h
  · rename_i hkey
    refine List.nodup_append.mpr ⟨h, by simp, fun a ha b hb => ?_⟩
    obtain rfl := List.mem_singleton.mp hb
    exact fun e => hkey (e ▸ ha)

/-! ## Documents -/

/-- The document without fields. -/
def empty : Document :=
  ⟨[], List.Pairwise.nil⟩

instance : EmptyCollection Document where
  emptyCollection := empty

instance : Inhabited Document where
  default := empty

/-- The keys in order. -/
def keys (d : Document) : List String :=
  d.fields.map Prod.fst

/-- The value of a key. -/
def get? (d : Document) (key : String) : Option Bson :=
  d.fields.lookup key

/-- Writes a field: in place if the key is there, else at the end. -/
def insert (d : Document) (key : String) (value : Bson) : Document :=
  ⟨write key value d.fields, nodup_keys_write d.distinct⟩

/-- Writes a field if there is a value for it. -/
def insert? (d : Document) (key : String) : Option Bson → Document
  | none => d
  | some value => d.insert key value

/-- Writes fields in turn. -/
def insertAll (d : Document) (fields : List (String × Bson)) : Document :=
  fields.foldl (fun d field => d.insert field.1 field.2) d

/-- The document that results from writing fields in turn. -/
def ofList (fields : List (String × Bson)) : Document :=
  empty.insertAll fields

/-- The document as a value. -/
def toBson (d : Document) : Bson :=
  .document d.fields

/-- The text of a key, if its value is one. -/
def text? (d : Document) (key : String) : Option String :=
  d.get? key >>= Bson.toText?

@[ext]
theorem ext {d e : Document} (h : d.fields = e.fields) : d = e := by
  cases d
  cases e
  cases h
  rfl

theorem get?_eq_some_iff {d : Document} {key : String} {value : Bson} :
    d.get? key = some value ↔ (key, value) ∈ d.fields :=
  lookup_eq_some_iff_mem d.distinct

theorem get?_insert (d : Document) (key other : String) (value : Bson) :
    (d.insert key value).get? other = if other = key then some value else d.get? other :=
  lookup_write key other value d.fields

theorem keys_insert (d : Document) (key : String) (value : Bson) :
    (d.insert key value).keys = if key ∈ d.keys then d.keys else d.keys ++ [key] :=
  keys_write key value d.fields

end Document

end Negotiation
