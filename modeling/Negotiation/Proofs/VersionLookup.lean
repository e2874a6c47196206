/-
# Negotiation.Proofs.VersionLookup -- the version that a server is taken to have

A server is asked for its version by one command, in either form of the lookup, and its
reply is read by three fields that may all be missing. A field that is there and of the
wrong type spoils the reply, whatever the others say. Of the fields that are read the
version text comes first: if it is there it decides alone, even if it is no version.
-/

import Negotiation.Proofs.HandshakeRuns
import Negotiation.Proofs.TypedFields

namespace Negotiation

variable {σ : Type}

/-! ## Decoding -/

namespace Outcome

variable {α : Type} {x : Except DecodeProblem α} {a : α}

theorem ofDecode_eq_ok_iff : ofDecode x = .ok a ↔ x = .ok a := by
  cases x with
  | ok b => rw [ofDecode, Except.ok.injEq, Except.ok.injEq]
  | error problem => exact ⟨fun h => (nomatch h), fun h => (nomatch h)⟩

/-- What cannot be read from a document is reported as a problem of the document. -/
theorem exists_problem_of_ne_ok (h : ∀ a, ofDecode x ≠ .ok a) :
    ∃ problem, ofDecode x = .error (Fault.decoding problem) := by
  cases x with
  | ok a => exact absurd rfl (h a)
  | error problem => exact ⟨problem, rfl⟩

end Outcome

/-! ## What a reply says about a build -/

namespace BuildInfo

variable {reply : Document} {info : BuildInfo}

/-- A text, or null. -/
abbrev IsTextOrNull : Bson → Option String → Prop :=
  Bson.IsOptional Bson.IsText

/-- A list of 32 bit numbers, or null. -/
abbrev AreNumbersOrNull : Bson → Option (List Int32) → Prop :=
  Bson.IsOptional (Bson.IsList Bson.IsInt32)

/-- A field of a reply has a type that it must not have. -/
def IsSpoiled (reply : Document) : Prop :=
  reply.IllTyped "version" IsTextOrNull ∨ reply.IllTyped "versionArray" AreNumbersOrNull
    ∨ reply.IllTyped "gitVersion" IsTextOrNull

/-- A reply describes a build. What it leaves out or has as null is not described. -/
structure Describes (reply : Document) (info : BuildInfo) : Prop where
  version : reply.HoldsOr "version" IsTextOrNull none info.version
  versionArray : reply.HoldsOr "versionArray" AreNumbersOrNull none info.versionArray
  gitVersion : reply.HoldsOr "gitVersion" IsTextOrNull none info.gitVersion

/-- A reply that is not spoiled describes a build. -/
theorem exists_describes_iff : (∃ info, Describes reply info) ↔ ¬IsSpoiled reply := by
  unfold IsSpoiled
  rw [not_or, not_or, ← Document.exists_holdsOr_iff none, ← Document.exists_holdsOr_iff none,
    ← Document.exists_holdsOr_iff none]
  constructor
  · rintro ⟨info, hversion, harray, hgit⟩
    exact ⟨⟨_, hversion⟩, ⟨_, harray⟩, ⟨_, hgit⟩⟩
  · rintro ⟨⟨version, hversion⟩, ⟨versionArray, harray⟩, ⟨gitVersion, hgit⟩⟩
    exact ⟨⟨version, versionArray, gitVersion⟩, hversion, harray, hgit⟩

theorem ofReply_eq_ok_iff : ofReply reply = .ok info ↔ Describes reply info := by
  rw [ofReply, Outcome.ofDecode_eq_ok_iff]
  simp only [bind_eq_ok_iff, Document.optional_eq_ok_iff Reader.reads_text Bson.not_isText_null,
    Document.optional_eq_ok_iff Reader.reads_int32.list Bson.not_isList_null]
  constructor
  · rintro ⟨version, hversion, versionArray, harray, gitVersion, hgit, hinfo⟩
    obtain rfl := Except.ok.inj hinfo
    exact ⟨hversion, harray, hgit⟩
  · rintro ⟨hversion, harray, hgit⟩
    exact ⟨_, hversion, _, harray, _, hgit, rfl⟩

/-- A spoiled reply cannot be read. -/
theorem ofReply_of_isSpoiled (h : IsSpoiled reply) :
    ∃ problem, ofReply reply = .error (Fault.decoding problem) := by
  apply Outcome.exists_problem_of_ne_ok
  intro info hread
  exact exists_describes_iff.mp ⟨info, ofReply_eq_ok_iff.mp hread⟩ h

/-! ## The version in a reply -/

theorem versionOfReply_of_isSpoiled (h : IsSpoiled reply) :
    ∃ problem, versionOfReply reply = .error (Fault.decoding problem) := by
  obtain ⟨problem, hread⟩ := ofReply_of_isSpoiled h
  refine ⟨problem, ?_⟩
  rw [versionOfReply, hread]
  rfl

theorem versionOfReply_of_describes (h : Describes reply info) :
    versionOfReply reply = info.serverVersion := by
  rw [versionOfReply, ofReply_eq_ok_iff.mpr h]
  rfl

/-- A version is taken from a reply: from the text if there is one, else from the numbers. -/
structure Chooses (info : BuildInfo) (result : Outcome Version) : Prop where
  text : ∀ text, info.version = some text → result = Version.parse text
  numbers : info.version = none → ∀ numbers, info.versionArray = some numbers →
    result = Version.ofArray numbers
  nothing : info.version = none → info.versionArray = none →
    result = .error (Fault.invalidResponse .noVersion)

theorem chooses_serverVersion (info : BuildInfo) : info.Chooses info.serverVersion := by
  obtain ⟨version, versionArray, gitVersion⟩ := info
  cases version with
  | some text =>
    exact ⟨fun _ h => congrArg Version.parse (Option.some.inj h), fun h => (nomatch h),
      fun h => (nomatch h)⟩
  | none =>
    cases versionArray with
    | some numbers =>
      exact ⟨fun _ h => (nomatch h), fun _ _ h => congrArg Version.ofArray (Option.some.inj h),
        fun _ h => (nomatch h)⟩
    | none => exact ⟨fun _ h => (nomatch h), fun _ _ h => (nomatch h), fun _ _ => rfl⟩

end BuildInfo

/-! ## Lookups -/

/-- A lookup is one command, and what its outcome says. -/
theorem run_recorded_serverVersion (connection : Connection σ) (s : σ) :
    let sent := connection.send BuildInfo.command s
    serverVersion.run connection.recorded (s, []) =
      .quiet (sent.1 >>= BuildInfo.versionOfReply, sent.2, [(BuildInfo.command, sent.1)]) :=
  rfl

/-- The version of a server, asked for over any connection, which may answer as it likes:

* both forms of the lookup send the same, leave the connection in the same state and give
  the same, on the connection itself and on its recording;
* one command is sent, which is `buildInfo` on `admin`;
* if it fails, its error is the result as it is;
* a reply with a field of a wrong type cannot be read, whatever its other fields are;
* every other reply describes a build, and the result is the version in the text if there
  is one, even if the text is no version; else the one of the numbers if there are any; and
  else an error that says that there is no version. -/
theorem asks_once_and_prefers_text (connection : Connection σ) (s : σ) :
    let lookup := serverVersion.run connection.recorded (s, [])
    let result := lookup.value.1
    let sent := connection.send BuildInfo.command s
    serverVersion.run connection s = serverVersionBlocking connection s
      ∧ lookup = serverVersionBlocking connection.recorded (s, [])
      ∧ (result = (serverVersion.run connection s).value.1
          ∧ lookup.value.2.1 = (serverVersion.run connection s).value.2)
      ∧ lookup.value.2.2 = [(BuildInfo.command, sent.1)]
      ∧ (BuildInfo.command.name = "buildInfo" ∧ BuildInfo.command.database = "admin"
          ∧ BuildInfo.command.wire.fields = [("buildInfo", .int32 1), ("$db", .string "admin")])
      ∧ (∀ e, sent.1 = .error e → result = .error e)
      ∧ (∀ reply, sent.1 = .ok reply →
          (BuildInfo.IsSpoiled reply → ∃ problem, result = .error (Fault.decoding problem))
            ∧ (¬BuildInfo.IsSpoiled reply → ∃ info, BuildInfo.Describes reply info)
            ∧ (∀ info, BuildInfo.Describes reply info → info.Chooses result
                ∧ ∀ text, info.version = some text → Version.parse? text = none →
                    result = .error (Fault.invalidVersion text))) := by
  intro lookup result sent
  have hresult : result = sent.1 >>= BuildInfo.versionOfReply :=
    congrArg (·.value.1) (run_recorded_serverVersion connection s)
  obtain ⟨hvalue, hstate, -⟩ := Exchange.run_recorded connection serverVersion s []
  refine ⟨run_serverVersion connection s, run_serverVersion connection.recorded (s, []),
    ⟨hvalue, hstate⟩, rfl, ⟨rfl, rfl, by rfl⟩, ?_, ?_⟩
  · intro e he
    rw [hresult, he]
    rfl
  · intro reply hreply
    have hversion : result = BuildInfo.versionOfReply reply := by
      rw [hresult, hreply]
      rfl
    rw [hversion]
    refine ⟨BuildInfo.versionOfReply_of_isSpoiled, BuildInfo.exists_describes_iff.mpr,
      fun info hinfo => ?_⟩
    have hchooses := info.chooses_serverVersion
    rw [BuildInfo.versionOfReply_of_describes hinfo]
    refine ⟨hchooses, fun text htext hno => ?_⟩
    rw [hchooses.text text htext, Version.parse, hno]

-- a git version of the wrong type spoils a reply with a good version
example : BuildInfo.versionOfReply
    (.ofList [("version", .string "4.4.1"), ("gitVersion", .int32 7)]) =
      .error (Fault.decoding .wrongType) := by rfl

end Negotiation
