/-
# Negotiation.Event -- what is reported while it happens

Authenticating a connection and refusing a feature are reported as events. Secrets
(the password, the nonce and the key made from them) are never part of an event.
-/

import Negotiation.Error

namespace Negotiation

/-- How far the authentication of a connection has come. -/
inductive Stage where
  | started
  | succeeded
  | failed (failure : Error)
  deriving DecidableEq, Repr

/-- Something worth reporting. -/
inductive Event where
  /-- The authentication of a connection has reached a stage. -/
  | authentication (stage : Stage) (connection : ConnectionId) (mechanism : Mechanism)
      (username source : String)
  /-- A server is too old for what was asked of it. -/
  | featureRejected (feature : String) (actual required : Version)
  deriving DecidableEq, Repr

namespace Event

/-- The part of the library that an event comes from. -/
def target : Event → String
  | authentication .. => "mongodb_core::connection"
  | featureRejected .. => "mongodb_core::feature"

/-- The severity of an event. -/
def level : Event → String
  | _ => "DEBUG"

/-- What happened, in words. -/
def message : Event → String
  | authentication .started .. => "Connection authentication started"
  | authentication .succeeded .. => "Connection authentication succeeded"
  | authentication (.failed _) .. => "Connection authentication failed"
  | featureRejected .. => "Feature rejected"

/-- The details of an event: names and texts. What is unknown is left out. -/
def details (w : Wording) : Event → List (String × String)
  | authentication stage connection mechanism username source =>
    [("driverConnectionId", Numeral.render connection.id)]
      ++ (match connection.serverId with
        | some n => [("serverConnectionId", toString n.toInt)]
        | none => [])
      ++ [("serverHost", connection.address), ("mechanism", mechanism.name),
        ("username", username), ("source", source)]
      ++ (match stage with
        | .failed failure => [("failure", failure.display w)]
        | _ => [])
  | featureRejected feature actual required =>
    [("feature", feature), ("serverVersion", actual.render),
      ("requiredVersion", required.render)]

end Event

/-- A value with the events that were reported while it was found, in order. -/
structure Reported (α : Type) where
  /-- What was found. -/
  value : α
  /-- What was reported. -/
  events : List Event

namespace Reported

variable {α β : Type}

/-- A value that nothing was reported about. -/
def quiet (value : α) : Reported α :=
  ⟨value, []⟩

/-- Goes on with a value; what is reported then follows what was reported before. -/
def bind (x : Reported α) (f : α → Reported β) : Reported β :=
  let y := f x.value
  ⟨y.value, x.events ++ y.events⟩

instance : Monad Reported where
  pure := quiet
  bind := bind

@[simp]
theorem value_pure (value : α) : (pure value : Reported α).value = value :=
  rfl

@[simp]
theorem events_pure (value : α) : (pure value : Reported α).events = [] :=
  rfl

theorem quiet_bind (value : α) (f : α → Reported β) : quiet value >>= f = f value :=
  rfl

theorem bind_quiet (x : Reported α) : x >>= quiet = x :=
  congrArg (Reported.mk x.value) (List.append_nil x.events)

theorem bind_assoc {γ : Type} (x : Reported α) (f : α → Reported β) (g : β → Reported γ) :
    x >>= f >>= g = x >>= fun a => f a >>= g :=
  congrArg (Reported.mk _) (List.append_assoc x.events (f x.value).events _)

instance : LawfulMonad Reported :=
  LawfulMonad.mk' Reported bind_quiet quiet_bind bind_assoc

/-- What is picked out stands before what was kept so far, the last first. -/
theorem filterAuxM_pure (p : α → Bool) (as kept : List α) :
    as.filterAuxM (fun a => (pure (p a) : Reported Bool)) kept =
      pure ((as.filter p).reverse ++ kept) := by
  induction as generalizing kept with
  | nil => rfl
  | cons a rest ih =>
    rw [List.filterAuxM, pure_bind, ih]
    cases h : p a <;> simp [h]

/-- Values are picked out without a report if no question about them comes with one. -/
theorem filterM_pure (p : α → Bool) (as : List α) :
    as.filterM (fun a => (pure (p a) : Reported Bool)) = pure (as.filter p) := by
  rw [List.filterM, filterAuxM_pure, pure_bind, List.append_nil, List.reverse_reverse]

end Reported

end Negotiation
