/-
# Negotiation.Proofs.WireFields -- what stands in a command on the wire

On the wire a command is one document: its body, with the fields of the command itself
written into it. These are the database and the declared parts of the server API. Writing
them is writing fields in turn, so the layout of the document follows from what this does
in general: keys that are there stay where they are, new keys follow in the order in
which they were first written, and the value written last counts. A body that has none
of these fields of its own comes back from the wire, and so do the database and the API.
-/

import Negotiation.Command

namespace Negotiation

/-! ## Writing fields in turn -/

namespace Document

variable {d : Document} {key : String} {value : Bson} {fields : List (String × Bson)}

theorem insertAll_cons (d : Document) (field : String × Bson) (fields : List (String × Bson)) :
    d.insertAll (field :: fields) = (d.insert field.1 field.2).insertAll fields :=
  rfl

/-- The value that was written last counts; a key that was not written keeps its value. -/
theorem get?_insertAll (d : Document) (fields : List (String × Bson)) (key : String) :
    (d.insertAll fields).get? key = (fields.reverse.lookup key).or (d.get? key) := by
  induction fields generalizing d with
  | nil => rfl
  | cons field rest ih =>
    obtain ⟨first, value⟩ := field
    rw [insertAll_cons, ih, get?_insert, List.reverse_cons, List.lookup_append, Option.or_assoc]
    by_cases h : key = first
    · simp [h]
    · simp [h, List.lookup_cons, beq_eq_false_iff_ne.mpr h]

theorem get?_insertAll_of_notMem (h : key ∉ fields.map Prod.fst) :
    (d.insertAll fields).get? key = d.get? key := by
  have hnone : fields.reverse.lookup key = none := by
    rw [List.lookup_eq_none_iff]
    intro field hfield
    rw [bne_iff_ne]
    rintro rfl
    exact h (List.mem_map_of_mem (List.mem_reverse.mp hfield))
  rw [get?_insertAll, hnone, Option.none_or]

/-- Among fields with distinct keys, every field is the last one of its key. -/
theorem get?_insertAll_of_mem (hd : (fields.map Prod.fst).Nodup) (h : (key, value) ∈ fields) :
    (d.insertAll fields).get? key = some value := by
  have hreverse : (fields.reverse.map Prod.fst).Nodup := by
    rw [List.map_reverse]
    exact (List.reverse_perm _).nodup_iff.mpr hd
  have hsome : fields.reverse.lookup key = some value :=
    (lookup_eq_some_iff_mem hreverse).mpr (List.mem_reverse.mpr h)
  rw [get?_insertAll, hsome, Option.some_or]

/-- Keys stay where they are, and new ones follow in the order of their first writing. -/
theorem keys_insertAll (d : Document) (fields : List (String × Bson)) :
    (d.insertAll fields).keys =
      d.keys ++ ((fields.map Prod.fst).filter (· ∉ d.keys)).eraseDups := by
  induction fields generalizing d with
  | nil => simp [insertAll, List.eraseDups]
  | cons field rest ih =>
    obtain ⟨first, value⟩ := field
    rw [insertAll_cons, ih, keys_insert, List.map_cons]
    by_cases h : first ∈ d.keys
    · simp [h]
    · -- the key is new: it comes first, and its later writings add nothing
      simp [h, List.eraseDups_cons, List.filter_filter, Bool.beq_eq_decide_eq, Bool.and_comm]

theorem eraseDups_of_nodup {keys : List String} (h : keys.Nodup) : keys.eraseDups = keys := by
  induction keys with
  | nil => rfl
  | cons first rest ih =>
    obtain ⟨hfirst, hrest⟩ := List.nodup_cons.mp h
    have hkept : (rest.filter fun key => !key == first) = rest := by
      rw [List.filter_eq_self]
      intro key hkey
      have hne : key ≠ first := fun e => hfirst (e ▸ hkey)
      simp [hne]
    rw [List.eraseDups_cons, hkept, ih hrest]

theorem write_of_notMem {old : List (String × Bson)} (h : key ∉ old.map Prod.fst) :
    write key value old = old ++ [(key, value)] := by
  induction old with
  | nil => rfl
  | cons field rest ih =>
    simp only [List.map_cons, List.mem_cons, not_or] at h
    have hne : ¬field.1 = key := fun e => h.1 e.symm
    rw [write, if_neg hne, ih h.2, List.cons_append]

/-- New fields with distinct keys are put at the end as they are. -/
theorem fields_insertAll (hd : (fields.map Prod.fst).Nodup)
    (hnew : ∀ key ∈ fields.map Prod.fst, key ∉ d.keys) :
    (d.insertAll fields).fields = d.fields ++ fields := by
  induction fields generalizing d with
  | nil => simp [insertAll]
  | cons field rest ih =>
    obtain ⟨first, value⟩ := field
    obtain ⟨hfirst, hrest⟩ := List.nodup_cons.mp hd
    have hinsert : (d.insert first value).fields = d.fields ++ [(first, value)] :=
      write_of_notMem (hnew first (by simp))
    have hnew' : ∀ key ∈ rest.map Prod.fst, key ∉ (d.insert first value).keys := by
      intro key hkey hmem
      rw [keys, hinsert, List.map_append, List.mem_append] at hmem
      rcases hmem with hold | hsame
      · exact hnew key (List.mem_cons_of_mem _ hkey) hold
      · obtain rfl : key = first := by simpa using hsame
        exact hfirst hkey
    rw [insertAll_cons, ih hrest hnew', hinsert, List.append_assoc]
    rfl

end Document

/-! ## The fields of a command itself -/

/-- The declared parts of an API, in the order in which they are written. -/
def ServerApi.declared (api : ServerApi) : List (String × Bson) :=
  ("apiVersion", .string api.version.render)
    :: ((api.strict.map fun b => ("apiStrict", Bson.bool b)).toList
      ++ (api.deprecationErrors.map fun b => ("apiDeprecationErrors", Bson.bool b)).toList)

theorem ServerApi.writeTo_eq (api : ServerApi) (d : Document) :
    api.writeTo d = d.insertAll api.declared := by
  cases hs : api.strict <;> cases hd : api.deprecationErrors <;>
    simp [writeTo, declared, hs, hd, Document.insertAll, Document.insert?]

namespace Command

/-- The keys that a command uses for itself. -/
def ownKeys : List String :=
  ["$db", "apiVersion", "apiStrict", "apiDeprecationErrors"]

/-- The fields that a command writes itself: its database, then what it declares. -/
def ownFields (c : Command) : List (String × Bson) :=
  ("$db", .string c.database)
    :: match c.serverApi with
      | some api => api.declared
      | none => []

theorem wire_eq (c : Command) : c.wire = c.body.insertAll c.ownFields := by
  cases h : c.serverApi with
  | none => simp [wire, ownFields, h, Document.insertAll]
  | some api =>
    simp only [wire, ownFields, h, Document.insertAll_cons]
    exact api.writeTo_eq _

/-- The fields of a command itself have their keys in a fixed order. -/
theorem sublist_ownFields (c : Command) : (c.ownFields.map Prod.fst).Sublist ownKeys := by
  cases h : c.serverApi with
  | none => simp [ownFields, ownKeys, h]
  | some api =>
    cases hs : api.strict <;> cases hd : api.deprecationErrors <;>
      simp [ownFields, ownKeys, ServerApi.declared, h, hs, hd]

theorem nodup_ownFields (c : Command) : (c.ownFields.map Prod.fst).Nodup :=
  c.sublist_ownFields.nodup (by decide)

/-! ## Reading the wire -/

variable {c : Command}

theorem keys_wire (c : Command) :
    c.wire.keys = c.body.keys ++ (c.ownFields.map Prod.fst).filter (· ∉ c.body.keys) := by
  rw [wire_eq, Document.keys_insertAll, Document.eraseDups_of_nodup]
  exact c.nodup_ownFields.filter _

/-- The first key of a body stays the first one on the wire. -/
theorem head?_keys_wire {key : String} (h : c.body.keys.head? = some key) :
    c.wire.keys.head? = some key := by
  rw [keys_wire, List.head?_append, h, Option.some_or]

theorem get?_wire_of_mem {field : String × Bson} (h : field ∈ c.ownFields) :
    c.wire.get? field.1 = some field.2 := by
  rw [wire_eq]
  exact Document.get?_insertAll_of_mem c.nodup_ownFields h

theorem get?_wire_of_notMem {key : String} (h : key ∉ c.ownFields.map Prod.fst) :
    c.wire.get? key = c.body.get? key := by
  rw [wire_eq]
  exact Document.get?_insertAll_of_notMem h

/-- A body that leaves the keys of the command alone stands in front of the own fields. -/
theorem fields_wire (h : ∀ key ∈ ownKeys, key ∉ c.body.keys) :
    c.wire.fields = c.body.fields ++ c.ownFields := by
  rw [wire_eq]
  exact Document.fields_insertAll c.nodup_ownFields fun key hkey =>
    h key (c.sublist_ownFields.subset hkey)

theorem filter_fields_wire (h : ∀ key ∈ ownKeys, key ∉ c.body.keys) :
    c.wire.fields.filter (·.1 ∉ ownKeys) = c.body.fields := by
  have hbody : c.body.fields.filter (·.1 ∉ ownKeys) = c.body.fields := by
    rw [List.filter_eq_self]
    intro field hfield
    have hnot : field.1 ∉ ownKeys := fun hown => h field.1 hown (List.mem_map_of_mem hfield)
    simpa using hnot
  have hown : c.ownFields.filter (·.1 ∉ ownKeys) = [] := by
    rw [List.filter_eq_nil_iff]
    intro field hfield
    have hmem : field.1 ∈ ownKeys := c.sublist_ownFields.subset (List.mem_map_of_mem hfield)
    simpa using hmem
  rw [fields_wire h, List.filter_append, hbody, hown, List.append_nil]

end Command

/-! ## Reading the API back -/

namespace ServerApi

/-- A field that is none of a declaration is passed over. -/
theorem readField_of_notMem {field : String × Bson} (h : field.1 ∉ Command.ownKeys)
    (draft : Draft) : draft.readField field = .ok draft := by
  unfold Draft.readField
  split
  · rename_i hkey
    simp [hkey, Command.ownKeys] at h
  · rename_i hkey
    simp [hkey, Command.ownKeys] at h
  · rename_i hkey
    simp [hkey, Command.ownKeys] at h
  · rfl

theorem foldlM_readField_of_notMem {fields : List (String × Bson)}
    (h : ∀ field ∈ fields, field.1 ∉ Command.ownKeys) (draft : Draft) :
    fields.foldlM Draft.readField draft = .ok draft := by
  induction fields with
  | nil => rfl
  | cons field rest ih =>
    rw [List.foldlM_cons, readField_of_notMem (h field (by simp))]
    exact ih fun other hother => h other (List.mem_cons_of_mem _ hother)

theorem foldlM_readField_declared (api : ServerApi) :
    api.declared.foldlM Draft.readField {} =
      .ok ⟨some api.version, api.strict, api.deprecationErrors⟩ := by
  obtain ⟨version, strict, deprecationErrors⟩ := api
  cases version
  cases strict <;> cases deprecationErrors <;> rfl

/-- The declaration of a command is read back from the wire, and only a command that
declares an API has one there. -/
theorem ofDocument_wire {c : Command} (h : ∀ key ∈ Command.ownKeys, key ∉ c.body.keys) :
    (ofDocument c.wire).toOption = c.serverApi := by
  have hbody : ∀ field ∈ c.body.fields, field.1 ∉ Command.ownKeys := fun field hfield hown =>
    h field.1 hown (List.mem_map_of_mem hfield)
  have hdraft :
      c.wire.fields.foldlM Draft.readField {} = c.ownFields.foldlM Draft.readField {} := by
    rw [Command.fields_wire h, List.foldlM_append, foldlM_readField_of_notMem hbody]
    rfl
  rw [ofDocument, hdraft, Command.ownFields]
  cases hapi : c.serverApi with
  | none => rfl
  | some api =>
    have hread : (("$db", Bson.string c.database) :: api.declared).foldlM Draft.readField {} =
        .ok ⟨some api.version, api.strict, api.deprecationErrors⟩ :=
      foldlM_readField_declared api
    dsimp only
    rw [hread]
    rfl

end ServerApi

namespace Command

/-- The document of a command on the wire, whatever its body is:

* no key occurs twice, the keys of the body come first and in their order, and the own
  fields that are no keys of the body follow in theirs;
* every own field has its own value, also where the body had its key, and every other
  key has the value of the body;
* a body without own keys is read back from the wire, and so are the database and the
  API, or that there is none. -/
theorem wire_layout (c : Command) :
    c.wire.keys.Nodup
      ∧ c.wire.keys = c.body.keys ++ (c.ownFields.map Prod.fst).filter (· ∉ c.body.keys)
      ∧ (∀ field ∈ c.ownFields, c.wire.get? field.1 = some field.2)
      ∧ (∀ key, key ∉ c.ownFields.map Prod.fst → c.wire.get? key = c.body.get? key)
      ∧ ((∀ key ∈ ownKeys, key ∉ c.body.keys) →
          c.wire.fields.filter (·.1 ∉ ownKeys) = c.body.fields
            ∧ c.wire.text? "$db" = some c.database
            ∧ (ServerApi.ofDocument c.wire).toOption = c.serverApi) := by
  refine ⟨c.wire.distinct, c.keys_wire, fun _ => get?_wire_of_mem, fun _ => get?_wire_of_notMem,
    fun h => ⟨filter_fields_wire h, ?_, ServerApi.ofDocument_wire h⟩⟩
  have hdatabase : c.wire.get? "$db" = some (.string c.database) :=
    get?_wire_of_mem (List.mem_cons_self ..)
  rw [Document.text?, hdatabase]
  rfl

-- own fields of a body are overwritten in place
example :
    let body := .ofList [("$db", .string "x"), ("ping", .int32 1), ("apiStrict", .null)]
    (Command.mk "ping" "admin" body (some { strict := true })).wire.keys =
      ["$db", "ping", "apiStrict", "apiVersion"] := by decide

end Command

end Negotiation
