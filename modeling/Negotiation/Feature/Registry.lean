/-
# Negotiation.Feature.Registry -- features by name

A registry holds features under their names. Features are only added, never
replaced, so what a registry says about a name stays true.
-/

import Negotiation.Feature

namespace Negotiation

/-- Features under their names, in order of the names. -/
abbrev Registry := NameTable Feature.name

namespace Registry

/-- The features that every part of a client knows about. -/
def wellKnown : List Feature :=
  [ ⟨"aggregate_cursor_result", .final 2 6 0, none⟩
  , ⟨"aggregate_out", .final 2 6 0, none⟩
  , ⟨"array_filters", .final 3 5 6, none⟩
  , ⟨"change_stream_stage", .final 3 5 11, none⟩
  , ⟨"collation", .final 3 3 11, none⟩
  , ⟨"commands_that_write_accept_write_concern", .final 3 3 11, none⟩
  , ⟨"retryable_writes", .final 3 6 0, none⟩
  , ⟨"scram_sha_256_authentication", .final 4 0 0, none⟩
  , ⟨"sessions", .final 3 6 0, none⟩
  , ⟨"transactions", .final 4 0 0, none⟩
  , ⟨"sharded_transactions", .final 4 2 0, none⟩
  , ⟨"versioned_api", .final 4 9 0, none⟩
  , ⟨"hint_for_delete_operations", .final 4 3 4, some (.final 3 4 0)⟩
  , ⟨"hint_for_find_and_modify", .final 4 3 4, some (.final 4 2 0)⟩
  , ⟨"hint_for_update_and_replace_operations", .final 4 2 0, some (.final 3 4 0)⟩ ]

/-- The registry of the well-known features. -/
def standard : Registry :=
  NameTable.ofList wellKnown

/-- Adds a feature under a name that is not taken. -/
def register (r : Registry) (f : Feature) : Outcome Registry :=
  match NameTable.insert? r f with
  | some r => .ok r
  | none => .error (Fault.invalidArgument (.featureTaken f.name))

/-- Adds features in turn. -/
def registerAll (r : Registry) (features : List Feature) : Outcome Registry :=
  features.foldlM register r

/-- The feature of a name. -/
def get? (r : Registry) (name : String) : Option Feature :=
  NameTable.find? r name

/-- The feature of a name that must be there. -/
def require (r : Registry) (name : String) : Outcome Feature :=
  match r.get? name with
  | some f => .ok f
  | none => .error (Fault.invalidArgument (.unknownFeature name))

/-- Whether a server of this version has the feature of a name. -/
def isSupported (r : Registry) (name : String) (v : Version) : Reported (Outcome Bool) :=
  match r.require name with
  | .ok f => return .ok (← f.isSupported v)
  | .error e => return .error e

/-- The features that a server of this version has, in order. -/
def supported (r : Registry) (v : Version) : Reported (List Feature) :=
  (NameTable.toList r).filterM fun f => f.isSupported v

theorem supported_eq (r : Registry) (v : Version) :
    r.supported v = .quiet (r.toList.filter fun f => (f.isSupported v).value) :=
  Reported.filterM_pure _ _

end Registry

end Negotiation
