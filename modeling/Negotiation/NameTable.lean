/-
# Negotiation.NameTable -- values filed under distinct names

A table holds values under their names, in ascending order of the names and at
most one value for a name. The order makes the table of a set of values unique:
tables with the same members are equal, in whatever order they were filed.
-/

namespace Negotiation

/-- Values in strictly ascending order of their names. -/
structure NameTable {α : Type} (name : α → String) where
  /-- The values, ordered by name. -/
  toList : List α
  /-- Names ascend strictly, so no name occurs twice. -/
  sorted : toList.Pairwise fun a b => name a < name b
  deriving DecidableEq, Repr

namespace NameTable

variable {α : Type} {name : α → String}

/-! ## Filing a value in an ordered list -/

/-- Puts a value at its place in an ordered list; `none` if its name is taken. -/
def file? (name : α → String) (value : α) : List α → Option (List α)
  | [] => some [value]
  | first :: rest =>
    if name value < name first then some (value :: first :: rest)
    else if name first < name value then (file? name value rest).map (first :: ·)
    else none

/-- Filing adds the value and nothing else. -/
theorem perm_of_file? {value : α} {values filed : List α}
    (h : file? name value values = some filed) : filed.Perm (value :: values) := by
  induction values generalizing filed with
  | nil =>
    obtain rfl : [value] = filed := by simpa [file?] using h
    exact List.Perm.refl _
  | cons first rest ih =>
    unfold file? at h
    split at h
    · obtain rfl := Option.some.inj h
      exact List.Perm.refl _
    · split at h
      · obtain ⟨tail, htail, rfl⟩ := Option.map_eq_some_iff.mp h
        exact ((ih htail).cons first).trans (List.Perm.swap value first rest)
      · simp at h

/-- Filing keeps the order. -/
theorem sorted_of_file? {value : α} {values filed : List α}
    (h : file? name value values = some filed)
    (hs : values.Pairwise fun a b => name a < name b) :
    filed.Pairwise fun a b => name a < name b := by
  induction values generalizing filed with
  | nil =>
    obtain rfl : [value] = filed := by simpa [file?] using h
    exact List.pairwise_singleton _ _
  | cons first rest ih =>
    have ⟨hfirst, hrest⟩ := List.pairwise_cons.mp hs
    unfold file? at h
    split at h
    · -- the value comes first: it is below the old first value, hence below all
      rename_i hlt
      obtain rfl := Option.some.inj h
      refine List.pairwise_cons.mpr ⟨fun other hother => ?_, hs⟩
      rcases List.mem_cons.mp hother with rfl | hother
      · exact hlt
      · exact String.lt_trans hlt (hfirst other hother)
    · split at h
      · -- the value goes further down, below the first value
        rename_i hgt
        obtain ⟨tail, htail, rfl⟩ := Option.map_eq_some_iff.mp h
        refine List.pairwise_cons.mpr ⟨fun other hother => ?_, ih htail hrest⟩
        rcases List.mem_cons.mp ((perm_of_file? htail).mem_iff.mp hother) with rfl | hother
        · exact hgt
        · exact hfirst other hother
      · simp at h

/-! ## Tables -/

/-- The table without values. -/
def empty : NameTable name :=
  ⟨[], List.Pairwise.nil⟩

instance : EmptyCollection (NameTable name) where
  emptyCollection := empty

instance : Inhabited (NameTable name) where
  default := empty

instance : Membership α (NameTable name) where
  mem table value := value ∈ table.toList

/-- The value filed under a name. -/
def find? (table : NameTable name) (key : String) : Option α :=
  table.toList.find? fun value => name value == key

/-- Files a value; `none` if its name is taken. -/
def insert? (table : NameTable name) (value : α) : Option (NameTable name) :=
  match h : file? name value table.toList with
  | some values => some ⟨values, sorted_of_file? h table.sorted⟩
  | none => none

/-- Files the values of a list in turn; a value whose name is taken is dropped. -/
def ofList (values : List α) : NameTable name :=
  values.foldl (fun table value => (table.insert? value).getD table) empty

/-- The number of values. -/
def size (table : NameTable name) : Nat :=
  table.toList.length

/-- Whether the table has no values. -/
def isEmpty (table : NameTable name) : Bool :=
  table.toList.isEmpty

end NameTable

end Negotiation
