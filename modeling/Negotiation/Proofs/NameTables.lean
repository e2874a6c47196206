/-
# Negotiation.Proofs.NameTables -- a table is told by its members

A table keeps its values in the order of their names, so there is no choice in how a set
of values is filed: tables with the same members are the same table. All that filing does
can thus be said by the members alone. A value can be filed exactly if its name is free,
and values can make up a table exactly if their names differ.
-/

import Mathlib.Data.List.Nodup
import Negotiation.NameTable

namespace Negotiation.NameTable

variable {α : Type} {name : α → String} {table filed : NameTable name} {value : α}
  {values rest : List α}

/-! ## Members -/

theorem nodup_names (table : NameTable name) : (table.toList.map name).Nodup :=
  List.pairwise_map.mpr (table.sorted.imp fun hlt heq => absurd (heq ▸ hlt) (String.lt_irrefl _))

/-- A name has one value. -/
theorem eq_of_name_eq {other : α} (hvalue : value ∈ table.toList) (hother : other ∈ table.toList)
    (h : name value = name other) : value = other :=
  List.inj_on_of_nodup_map table.nodup_names hvalue hother h

/-- Tables with the same members are equal. -/
theorem eq_of_perm (h : filed.toList.Perm table.toList) : filed = table := by
  have hlist : filed.toList = table.toList :=
    h.eq_of_pairwise (fun a b _ _ hab hba => absurd hba (String.lt_asymm hab)) filed.sorted
      table.sorted
  cases filed
  cases table
  cases hlist
  rfl

theorem find?_eq_some_iff {key : String} :
    table.find? key = some value ↔ value ∈ table.toList ∧ name value = key := by
  constructor
  · intro h
    exact ⟨List.mem_of_find?_eq_some h, by simpa using List.find?_some h⟩
  · rintro ⟨hmem, hname⟩
    cases h : table.find? key with
    | none =>
      have hnot := List.find?_eq_none.mp h value hmem
      exact absurd (by simpa using hname) hnot
    | some other =>
      have hother : name other = key := by simpa using List.find?_some h
      rw [eq_of_name_eq (List.mem_of_find?_eq_some h) hmem (hother.trans hname.symm)]

theorem find?_eq_none_iff {key : String} :
    table.find? key = none ↔ key ∉ table.toList.map name := by
  simp [find?]

/-- Of values whose names differ none has a name that comes earlier. -/
theorem notMem_names_of_nodup (h : ((values ++ value :: rest).map name).Nodup) :
    name value ∉ values.map name := by
  rw [List.map_append, List.map_cons, List.nodup_middle, List.nodup_cons] at h
  intro hmem
  exact h.1 (List.mem_append_left _ hmem)

/-! ## Filing -/

/-- Only a name that is taken keeps a value out. -/
theorem mem_names_of_file?_eq_none (h : file? name value values = none) :
    name value ∈ values.map name := by
  induction values with
  | nil => cases h
  | cons first rest ih =>
    unfold file? at h
    split at h
    · cases h
    · rename_i hlow
      split at h
      · exact List.mem_cons_of_mem _ (ih (Option.map_eq_none_iff.mp h))
      · rename_i hhigh
        -- the name is neither below nor above the first one
        have hsame : name value = name first := String.le_antisymm hhigh hlow
        simp [hsame]

/-- Filing a value gives the table that has it as its one new member, if there is one. -/
theorem insert?_eq_some_iff :
    table.insert? value = some filed ↔ filed.toList.Perm (value :: table.toList) := by
  have hperm : ∀ {t}, table.insert? value = some t → t.toList.Perm (value :: table.toList) := by
    intro t h
    unfold insert? at h
    split at h
    · rename_i hfile
      obtain rfl := Option.some.inj h
      exact perm_of_file? hfile
    · cases h
  refine ⟨hperm, fun h => ?_⟩
  cases hinsert : table.insert? value with
  | some t => rw [eq_of_perm ((hperm hinsert).trans h.symm)]
  | none =>
    -- the names of the table with the value differ, so the name of the value was free
    have hfree : name value ∉ table.toList.map name :=
      (List.nodup_cons.mp ((h.map name).nodup_iff.mp filed.nodup_names)).1
    unfold insert? at hinsert
    split at hinsert
    · cases hinsert
    · rename_i hfile
      exact absurd (mem_names_of_file?_eq_none hfile) hfree

theorem insert?_eq_none_iff :
    table.insert? value = none ↔ name value ∈ table.toList.map name := by
  constructor
  · intro h
    unfold insert? at h
    split at h
    · cases h
    · rename_i hfile
      exact mem_names_of_file?_eq_none hfile
  · intro htaken
    cases h : table.insert? value with
    | none => rfl
    | some t =>
      have hnodup := ((insert?_eq_some_iff.mp h).map name).nodup_iff.mp t.nodup_names
      exact absurd htaken (List.nodup_cons.mp hnodup).1

/-! ## Filing many values -/

/-- A value that is filed comes with those of the table, in front of those still to come. -/
theorem perm_append_of_filed (h : filed.toList.Perm (value :: table.toList)) (rest : List α) :
    (filed.toList ++ rest).Perm (table.toList ++ value :: rest) :=
  (h.append_right rest).trans List.perm_middle.symm

/-- Filing values with names of their own in turn loses none of them. -/
theorem perm_foldl_insert? (table : NameTable name)
    (h : ((table.toList ++ values).map name).Nodup) :
    (values.foldl (fun table value => (table.insert? value).getD table) table).toList.Perm
      (table.toList ++ values) := by
  induction values generalizing table with
  | nil => simp
  | cons value rest ih =>
    cases hinsert : table.insert? value with
    | none => exact absurd (insert?_eq_none_iff.mp hinsert) (notMem_names_of_nodup h)
    | some filed =>
      have hfiled := perm_append_of_filed (insert?_eq_some_iff.mp hinsert) rest
      rw [List.foldl_cons, hinsert]
      exact (ih filed ((hfiled.map name).nodup_iff.mpr h)).trans hfiled

theorem perm_ofList (h : (values.map name).Nodup) :
    (ofList values : NameTable name).toList.Perm values :=
  perm_foldl_insert? empty h

/-- The names of a table are all the names that were filed; a value that is dropped leaves
its name behind. -/
theorem mem_names_foldl_insert? {key : String} (table : NameTable name) (values : List α) :
    key ∈ (values.foldl (fun table value => (table.insert? value).getD table) table).toList.map name
      ↔ key ∈ table.toList.map name ∨ key ∈ values.map name := by
  induction values generalizing table with
  | nil => simp
  | cons value rest ih =>
    have hstep : key ∈ ((table.insert? value).getD table).toList.map name ↔
        key ∈ table.toList.map name ∨ key = name value := by
      cases hinsert : table.insert? value with
      | none =>
        refine ⟨Or.inl, fun h => h.elim id ?_⟩
        rintro rfl
        exact insert?_eq_none_iff.mp hinsert
      | some filed =>
        rw [Option.getD_some, ((insert?_eq_some_iff.mp hinsert).map name).mem_iff, List.map_cons,
          List.mem_cons, or_comm]
    rw [List.foldl_cons, ih, hstep, List.map_cons, List.mem_cons, or_assoc]

theorem mem_names_ofList {key : String} (values : List α) :
    key ∈ (ofList values : NameTable name).toList.map name ↔ key ∈ values.map name := by
  rw [ofList, mem_names_foldl_insert?]
  simp [empty]

/-- Values can make up a table exactly if their names differ. -/
theorem exists_perm_iff :
    (∃ table : NameTable name, table.toList.Perm values) ↔ (values.map name).Nodup := by
  constructor
  · rintro ⟨table, h⟩
    exact (h.map name).nodup_iff.mp table.nodup_names
  · intro h
    exact ⟨ofList values, perm_ofList h⟩

end Negotiation.NameTable
