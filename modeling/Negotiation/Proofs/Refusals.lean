/-
# Negotiation.Proofs.Refusals -- what becomes of a reply

A reply that is no answer is a refusal, and a refusal is reported in one of two ways: as
the failure that it describes, or as a reply of no use. Which one it is depends on four
fields. Each of them may be of the wrong type, and then nothing of the description is
kept but a message, which is looked up on its own. Apart from `ok` and these four fields
a reply may hold anything, in any order.
-/

import Negotiation.Proofs.NameTables
import Negotiation.Proofs.TypedFields
import Negotiation.Reply

namespace Negotiation

/-! ## Fields in any order -/

namespace Document

variable {d other : Document} {key : String} {keys : List String}

/-- Documents that have the same fields among some keys agree on these keys. -/
theorem get?_eq_of_perm
    (h : (other.fields.filter (·.1 ∈ keys)).Perm (d.fields.filter (·.1 ∈ keys)))
    (hkey : key ∈ keys) : other.get? key = d.get? key := by
  have hmem : ∀ {e : Document} {value : Bson},
      e.get? key = some value ↔ (key, value) ∈ e.fields.filter (·.1 ∈ keys) := by
    intro e value
    rw [get?_eq_some_iff, List.mem_filter]
    simp [hkey]
  refine Option.ext fun value => ?_
  rw [hmem, hmem, h.mem_iff]

end Document

/-! ## Failures in a document -/

namespace CommandError

variable {reply : Document} {e : CommandError}

theorem fields_toDocument (e : CommandError) :
    e.toDocument.fields =
      [("code", .int32 e.code), ("codeName", .string e.codeName),
        ("errmsg", .string e.message)] := by
  simp [toDocument, Document.ofList, Document.insertAll, Document.insert,
    Document.empty, Document.write]

theorem ofDocument_eq_ok_iff :
    ofDocument reply = .ok e ↔
      reply.Holds "code" Bson.IsInt32 e.code ∧ reply.HoldsOr "codeName" Bson.IsText "" e.codeName
        ∧ reply.HoldsOr "errmsg" Bson.IsText "" e.message := by
  simp only [ofDocument, bind_eq_ok_iff, Document.required_eq_ok_iff Reader.reads_int32,
    Document.withDefault_eq_ok_iff Reader.reads_text]
  constructor
  · rintro ⟨code, hcode, name, hname, message, hmessage, he⟩
    obtain rfl := Except.ok.inj he
    exact ⟨hcode, hname, hmessage⟩
  · rintro ⟨hcode, hname, hmessage⟩
    exact ⟨_, hcode, _, hname, _, hmessage, rfl⟩

end CommandError

/-! ## Refusals -/

namespace Reply

variable {reply other : Document} {e : CommandError} {labels : List String}

/-- A reply describes a failure: the number is there, and the name, the message and the
labels are if they are not left out. -/
structure Reports (reply : Document) (e : CommandError) (labels : List String) : Prop where
  code : reply.Holds "code" Bson.IsInt32 e.code
  codeName : reply.HoldsOr "codeName" Bson.IsText "" e.codeName
  message : reply.HoldsOr "errmsg" Bson.IsText "" e.message
  labels : ∃ listed : Option (List String),
    reply.HoldsOr "errorLabels" (Bson.IsOptional (Bson.IsList Bson.IsText)) none listed
      ∧ labels = listed.getD []

theorem failure_eq_ok_iff {error : Error} :
    failure reply = .ok error ↔ ∃ e labels, Reports reply e labels
      ∧ error = .root (.command e) (NameTable.ofList labels) := by
  simp only [failure, bind_eq_ok_iff, CommandError.ofDocument_eq_ok_iff,
    Document.optional_eq_ok_iff Reader.reads_text.list Bson.not_isList_null]
  constructor
  · rintro ⟨listed, hlisted, e, ⟨hcode, hname, hmessage⟩, herror⟩
    exact ⟨e, listed.getD [], ⟨hcode, hname, hmessage, listed, hlisted, rfl⟩,
      (Except.ok.inj herror).symm⟩
  · rintro ⟨e, _, ⟨hcode, hname, hmessage, listed, hlisted, rfl⟩, rfl⟩
    exact ⟨listed, hlisted, e, ⟨hcode, hname, hmessage⟩, rfl⟩

/-! ## Checked replies -/

theorem check_eq_ok_iff {answer : Document} :
    check reply = .ok answer ↔ isOk reply = true ∧ answer = reply := by
  rw [check]
  cases isOk reply with
  | true => simp [eq_comm]
  | false =>
    rw [if_neg Bool.false_ne_true]
    cases failure reply <;> simp

theorem check_of_isOk (h : isOk reply = true) : check reply = .ok reply :=
  check_eq_ok_iff.mpr ⟨h, rfl⟩

/-- A refusal that describes a failure is reported as this failure. -/
theorem check_of_reports (hok : isOk reply = false) (h : Reports reply e labels) :
    check reply = .error (.root (.command e) (NameTable.ofList labels)) := by
  rw [check, hok, failure_eq_ok_iff.mpr ⟨e, labels, h, rfl⟩]
  rfl

/-- A refusal that describes no failure is of no use, but for its message. -/
theorem check_of_not_reports (hok : isOk reply = false)
    (h : ¬∃ e labels, Reports reply e labels) :
    check reply = .error (Fault.invalidResponse (.refused (reply.text? "errmsg"))) := by
  rw [check, hok]
  cases hfailure : failure reply with
  | ok error =>
    obtain ⟨e, labels, hreports, -⟩ := failure_eq_ok_iff.mp hfailure
    exact absurd ⟨e, labels, hreports⟩ h
  | error problem => rfl

/-- The fields that decide what becomes of a reply. -/
def readKeys : List String :=
  ["ok", "code", "codeName", "errmsg", "errorLabels"]

/-- Replies that agree on these fields are told apart from answers alike, and fail alike. -/
theorem check_congr (h : ∀ key ∈ readKeys, other.get? key = reply.get? key) :
    isOk other = isOk reply ∧ ∀ error, check other = .error error ↔ check reply = .error error := by
  have hisOk : isOk other = isOk reply := by
    rw [isOk, isOk, h "ok" (by decide)]
  have hfailure : failure other = failure reply := by
    simp only [failure, CommandError.ofDocument, Document.optional, Document.required,
      Document.withDefault, h "code" (by decide), h "codeName" (by decide),
      h "errmsg" (by decide), h "errorLabels" (by decide)]
  have hmessage : other.text? "errmsg" = reply.text? "errmsg" := by
    rw [Document.text?, Document.text?, h "errmsg" (by decide)]
  refine ⟨hisOk, fun error => ?_⟩
  rw [check, check, hisOk, hfailure, hmessage]
  split
  · exact ⟨fun h => (nomatch h), fun h => (nomatch h)⟩
  · exact Iff.rfl

/-! ## Failures written down -/

/-- A reply that holds the fields of a failure and its labels describes this failure. -/
theorem reports_of_toDocument
    (hfields : ∀ field ∈ e.toDocument.fields, reply.get? field.1 = some field.2)
    (hlabels : reply.get? "errorLabels" = some (.array (labels.map .string))) :
    Reports reply e labels := by
  rw [CommandError.fields_toDocument] at hfields
  have hcode : reply.get? "code" = some (.int32 e.code) :=
    hfields ("code", .int32 e.code) (by simp)
  have hname : reply.get? "codeName" = some (.string e.codeName) :=
    hfields ("codeName", .string e.codeName) (by simp)
  have hmessage : reply.get? "errmsg" = some (.string e.message) :=
    hfields ("errmsg", .string e.message) (by simp)
  exact
    { code := ⟨_, hcode, .narrow _⟩
      codeName := .inr ⟨_, hname, .string _⟩
      message := .inr ⟨_, hmessage, .string _⟩
      labels := ⟨some labels, .inr ⟨_, hlabels, .some (Bson.isList_isText_iff.mpr rfl)⟩, rfl⟩ }

/-! ## All replies -/

/-- An error says that a command failed: how it failed, and the labels that came along. -/
structure IsCommandFailure (e : CommandError) (labels : List String) (error : Error) : Prop where
  fault : error.fault = .command e
  cause : error.cause? = none
  labels : ∀ label, label ∈ error.labels.toList ↔ label ∈ labels

/-- An error says that a reply is of no use, in these words. -/
structure IsUseless (message : String) (error : Error) : Prop where
  fault : ∃ problem, error.fault = .invalidResponse problem ∧ problem.message = message
  cause : error.cause? = none
  labels : error.labels.toList = []

theorem isCommandFailure_root (e : CommandError) (labels : List String) :
    IsCommandFailure e labels (.root (.command e) (NameTable.ofList labels)) := by
  refine ⟨rfl, rfl, fun label => ?_⟩
  have hnames : label ∈ (NameTable.ofList labels : Labels).toList.map id ↔ label ∈ labels.map id :=
    NameTable.mem_names_ofList labels
  rwa [List.map_id, List.map_id] at hnames

/-- What becomes of a reply, whatever it holds:

* an answer is passed on as it is, and a refusal never is;
* a refusal is reported as a failed command exactly if it describes a failure, and then as
  this failure with these labels;
* every other refusal is reported as a reply of no use, in the words of its message if the
  message is a text, and else in fixed words;
* fields that are not read make no difference, and neither does the order of the fields;
* a failure that is written into a refusal is reported as it was. -/
theorem answers_and_refusals (reply : Document) :
    (isOk reply = true → check reply = .ok reply)
      ∧ (isOk reply = false → ∀ answer, check reply ≠ .ok answer)
      ∧ (isOk reply = false →
          ((∃ error, check reply = .error error ∧ error.isCommand = true) ↔
            ∃ e labels, Reports reply e labels))
      ∧ (isOk reply = false → ∀ e labels, Reports reply e labels →
          ∃ error, check reply = .error error ∧ IsCommandFailure e labels error)
      ∧ (isOk reply = false → (¬∃ e labels, Reports reply e labels) →
          ∃ error message, check reply = .error error ∧ IsUseless message error
            ∧ (∀ text, reply.get? "errmsg" = some (.string text) → message = text)
            ∧ ((∀ text, reply.get? "errmsg" ≠ some (.string text)) →
                message = "invalid server response"))
      ∧ (∀ other : Document,
          (other.fields.filter (·.1 ∈ readKeys)).Perm (reply.fields.filter (·.1 ∈ readKeys)) →
            isOk other = isOk reply
              ∧ ∀ error, check other = .error error ↔ check reply = .error error)
      ∧ (isOk reply = false → ∀ (e : CommandError) (labels : List String),
          (∀ field ∈ e.toDocument.fields, reply.get? field.1 = some field.2) →
          reply.get? "errorLabels" = some (.array (labels.map .string)) →
            ∃ error, check reply = .error error ∧ IsCommandFailure e labels error) := by
  have hreported : isOk reply = false → ∀ e labels, Reports reply e labels →
      ∃ error, check reply = .error error ∧ IsCommandFailure e labels error :=
    fun hok e labels h => ⟨_, check_of_reports hok h, isCommandFailure_root e labels⟩
  refine ⟨check_of_isOk, ?_, ?_, hreported, ?_, ?_, ?_⟩
  · intro hok answer hanswer
    rw [(check_eq_ok_iff.mp hanswer).1] at hok
    cases hok
  · intro hok
    constructor
    · rintro ⟨error, hcheck, hcommand⟩
      by_contra h
      rw [check_of_not_reports hok h] at hcheck
      obtain rfl := Except.error.inj hcheck
      cases hcommand
    · rintro ⟨e, labels, h⟩
      exact ⟨_, check_of_reports hok h, rfl⟩
  · intro hok h
    refine ⟨_, _, check_of_not_reports hok h, ⟨⟨_, rfl, rfl⟩, rfl, rfl⟩, ?_, ?_⟩
    · intro text htext
      rw [ReplyProblem.message, Document.text?, htext]
      rfl
    · intro hno
      have hnone : reply.text? "errmsg" = none := by
        rw [Document.text?]
        cases hvalue : reply.get? "errmsg" with
        | none => rfl
        | some value =>
          cases value with
          | string text => exact absurd hvalue (hno text)
          | _ => rfl
      rw [ReplyProblem.message, hnone]
      rfl
  · intro other hperm
    exact check_congr fun key hkey => Document.get?_eq_of_perm hperm hkey
  · intro hok e labels hfields hlabels
    exact hreported hok e labels (reports_of_toDocument hfields hlabels)

-- a number of the wrong type costs the refusal its name and its labels, not its message
example :
    check (.ofList [("ok", .int32 0), ("code", .string "18"), ("errmsg", .string "denied"),
      ("codeName", .string "AuthenticationFailed"), ("errorLabels", .array [.string "Retry"])]) =
      .error (Fault.invalidResponse (.refused (some "denied"))) := by rfl

end Reply

end Negotiation
