/-
# Negotiation.Proofs.ClientSetup -- which credentials make a client

A credential is checked before a client is made from it, by code that does not know how the
client is made: the check looks at fields that may be missing, and the making needs some of
them to be there and takes a default for another. A credential is complete if it has what the
client needs. The check passes exactly the complete credentials, so making a client from one
that passed cannot fail, and what the check promised of the fields holds of the client.
-/

import Negotiation.Authenticator

namespace Negotiation

/-! ## Complete credentials -/

namespace Credential

/-- A user name that is not empty is given. -/
def HasUsername (c : Credential) : Prop :=
  ∃ username, c.username = some username ∧ username ≠ ""

/-- A password is given. It may be empty. -/
def HasPassword (c : Credential) : Prop :=
  ∃ password, c.password = some password

/-- The credential has what a password mechanism needs. The source may be missing, but if
it is given it is not empty. -/
structure IsComplete (c : Credential) : Prop where
  username : c.HasUsername
  password : c.HasPassword
  source : c.source ≠ some ""

/-- What a credential lacks, in the order in which it is looked for: the user name, then the
password, then the source. -/
inductive FirstLack (m : Mechanism) (c : Credential) : ArgumentProblem → Prop
  | username : ¬c.HasUsername → FirstLack m c (.noUsername m)
  | password : c.HasUsername → ¬c.HasPassword → FirstLack m c (.noPassword m)
  | source : c.HasUsername → c.HasPassword → c.source = some "" → FirstLack m c (.emptySource m)

variable {m : Mechanism} {c : Credential} {problem : ArgumentProblem}

theorem exists_firstLack (m : Mechanism) (h : ¬c.IsComplete) :
    ∃ problem, c.FirstLack m problem := by
  by_cases husername : c.HasUsername
  · by_cases hpassword : c.HasPassword
    · by_cases hsource : c.source = some ""
      · exact ⟨_, .source husername hpassword hsource⟩
      · exact absurd ⟨husername, hpassword, hsource⟩ h
    · exact ⟨_, .password husername hpassword⟩
  · exact ⟨_, .username husername⟩

theorem hasUsername_iff : c.HasUsername ↔ c.username.getD "" ≠ "" := by
  cases h : c.username <;> simp [HasUsername, h]

theorem hasPassword_iff : c.HasPassword ↔ c.password ≠ none :=
  Option.ne_none_iff_exists'.symm

end Credential

namespace Mechanism

variable {m : Mechanism} {c : Credential} {problem : ArgumentProblem}

theorem validate_of_isComplete (m : Mechanism) (h : c.IsComplete) : m.validate c = .ok () := by
  have husername := Credential.hasUsername_iff.mp h.username
  have hpassword := Credential.hasPassword_iff.mp h.password
  rw [validate, if_neg husername, if_neg hpassword, if_neg h.source]
  exact ite_self _

/-- The first thing that is lacking is complained about. -/
theorem validate_of_firstLack (hm : m.usesPassword = true) (h : c.FirstLack m problem) :
    m.validate c = .error (Fault.invalidArgument problem) := by
  rw [validate, hm]
  cases h with
  | username hno =>
    have husername := Decidable.not_not.mp (mt Credential.hasUsername_iff.mpr hno)
    rw [if_neg (by decide), if_pos husername]
  | password husername hno =>
    have hpassword := Decidable.not_not.mp (mt Credential.hasPassword_iff.mpr hno)
    rw [if_neg (by decide), if_neg (Credential.hasUsername_iff.mp husername), if_pos hpassword]
  | source husername hpassword hsource =>
    rw [if_neg (by decide), if_neg (Credential.hasUsername_iff.mp husername),
      if_neg (Credential.hasPassword_iff.mp hpassword), if_pos hsource]

theorem validate_eq_ok_iff (hm : m.usesPassword = true) :
    m.validate c = .ok () ↔ c.IsComplete := by
  constructor
  · intro h
    by_cases hc : c.IsComplete
    · exact hc
    · obtain ⟨problem, hlack⟩ := Credential.exists_firstLack m hc
      cases (validate_of_firstLack hm hlack).symm.trans h
  · exact validate_of_isComplete m

/-! ## Sources -/

theorem defaultSource_ne_empty (m : Mechanism) : m.defaultSource ≠ "" := by
  cases m <;> decide

end Mechanism

theorem Credential.resolvedSource_ne_empty {c : Credential} (h : c.source ≠ some "") :
    c.resolvedSource ≠ "" := by
  unfold resolvedSource
  split
  · rename_i source hsource
    rintro rfl
    exact h hsource
  · split
    · exact Mechanism.defaultSource_ne_empty _
    · decide

/-! ## Clients -/

namespace ChallengeResponse

variable {c : Credential} {client : ChallengeResponse}

/-- The client has the fields of the credential, and its source as it is resolved. -/
structure IsMadeFrom (client : ChallengeResponse) (c : Credential) : Prop where
  username : c.username = some client.username
  password : c.password = some client.password
  source : client.source = c.resolvedSource

/-- A complete credential makes a client, and only one. -/
theorem ofCredential_of_isComplete (h : c.IsComplete) :
    ∃ client, ofCredential c = .ok client ∧ client.IsMadeFrom c ∧ client.serverApi = none := by
  obtain ⟨username, husername, -⟩ := h.username
  obtain ⟨password, hpassword⟩ := h.password
  refine ⟨⟨username, password, c.resolvedSource, none⟩, ?_, ⟨husername, hpassword, rfl⟩, rfl⟩
  rw [ofCredential, Mechanism.validate_of_isComplete _ h, husername, hpassword]
  rfl

theorem ofCredential_of_firstLack {problem : ArgumentProblem}
    (h : c.FirstLack .challengeResponse problem) :
    ofCredential c = .error (Fault.invalidArgument problem) := by
  rw [ofCredential, Mechanism.validate_of_firstLack rfl h]
  rfl

theorem IsMadeFrom.unique {client' : ChallengeResponse} (h : client.IsMadeFrom c)
    (h' : client'.IsMadeFrom c) (hapi : client.serverApi = client'.serverApi) :
    client = client' := by
  have husername := Option.some.inj (h.username.symm.trans h'.username)
  have hpassword := Option.some.inj (h.password.symm.trans h'.password)
  have hsource := h.source.trans h'.source.symm
  cases client
  cases client'
  congr

end ChallengeResponse

namespace Mechanism

variable {m : Mechanism} {c : Credential} {client : ChallengeResponse}

theorem client_of_ne (h : m ≠ .challengeResponse) (c : Credential) :
    m.client c = .error (Fault.authentication (.unsupported m)) := by
  cases m with
  | challengeResponse => exact absurd rfl h
  | _ => rfl

theorem client_eq_ok_iff :
    m.client c = .ok client ↔ m = .challengeResponse ∧ c.IsComplete
      ∧ client.IsMadeFrom c ∧ client.serverApi = none := by
  constructor
  · intro h
    by_cases hm : m = .challengeResponse
    · subst hm
      by_cases hc : c.IsComplete
      · obtain ⟨client', hclient, hmade, hapi⟩ := ChallengeResponse.ofCredential_of_isComplete hc
        obtain rfl : client' = client := Except.ok.inj (hclient.symm.trans h)
        exact ⟨rfl, hc, hmade, hapi⟩
      · obtain ⟨problem, hlack⟩ := Credential.exists_firstLack .challengeResponse hc
        cases (ChallengeResponse.ofCredential_of_firstLack hlack).symm.trans h
    · cases (client_of_ne hm c).symm.trans h
  · rintro ⟨rfl, hc, hmade, hapi⟩
    obtain ⟨client', hclient, hmade', hapi'⟩ := ChallengeResponse.ofCredential_of_isComplete hc
    rw [hmade.unique hmade' (hapi.trans hapi'.symm)]
    exact hclient

theorem exists_client_iff :
    (∃ client, m.client c = .ok client) ↔ m = .challengeResponse ∧ c.IsComplete := by
  constructor
  · rintro ⟨client, h⟩
    obtain ⟨hm, hc, -⟩ := client_eq_ok_iff.mp h
    exact ⟨hm, hc⟩
  · rintro ⟨rfl, hc⟩
    obtain ⟨client, hclient, -⟩ := ChallengeResponse.ofCredential_of_isComplete hc
    exact ⟨client, hclient⟩

/-- What is reported when no client is made: that the mechanism cannot be run, or else what
the credential lacks first. -/
theorem client_eq_error_iff {e : Error} :
    m.client c = .error e ↔
      (m ≠ .challengeResponse ∧ e = Fault.authentication (.unsupported m))
        ∨ m = .challengeResponse ∧ ∃ problem, c.FirstLack m problem
          ∧ e = Fault.invalidArgument problem := by
  constructor
  · intro h
    by_cases hm : m = .challengeResponse
    · subst hm
      have hc : ¬c.IsComplete := by
        intro hc
        obtain ⟨client, hclient⟩ := exists_client_iff.mpr ⟨rfl, hc⟩
        cases hclient.symm.trans h
      obtain ⟨problem, hlack⟩ := Credential.exists_firstLack .challengeResponse hc
      have hreported := ChallengeResponse.ofCredential_of_firstLack hlack
      exact Or.inr ⟨rfl, problem, hlack, Except.error.inj (h.symm.trans hreported)⟩
    · exact Or.inl ⟨hm, Except.error.inj (h.symm.trans (client_of_ne hm c))⟩
  · rintro (⟨hm, rfl⟩ | ⟨rfl, problem, hlack, rfl⟩)
    · exact client_of_ne hm c
    · exact ChallengeResponse.ofCredential_of_firstLack hlack

theorem client_ne_internal {e : Error} (h : m.client c = .error e) (problem : InternalProblem) :
    e.fault ≠ .internal problem := by
  rcases client_eq_error_iff.mp h with ⟨-, rfl⟩ | ⟨-, problem, -, rfl⟩
  · exact nofun
  · exact nofun

end Mechanism

/-! ## All clients -/

namespace ChallengeResponse

variable {c : Credential} {client : ChallengeResponse}

/-- The clients that can be set up for a credential: the one that is made from it, and what
it becomes when server APIs are declared. -/
inductive IsSetUpFor (c : Credential) : ChallengeResponse → Prop
  | made {client : ChallengeResponse} : Mechanism.challengeResponse.client c = .ok client →
      IsSetUpFor c client
  | declaring {client : ChallengeResponse} (api : Option ServerApi) : IsSetUpFor c client →
      IsSetUpFor c (client.withServerApi api)

/-- Whatever is declared on it, a client keeps what it was made from. -/
theorem IsSetUpFor.isMadeFrom (h : IsSetUpFor c client) : c.IsComplete ∧ client.IsMadeFrom c := by
  induction h with
  | made hclient =>
    obtain ⟨-, hc, hmade, -⟩ := Mechanism.client_eq_ok_iff.mp hclient
    exact ⟨hc, hmade⟩
  | declaring api _ ih => exact ⟨ih.1, ih.2.username, ih.2.password, ih.2.source⟩

theorem IsSetUpFor.username_ne_empty (h : IsSetUpFor c client) : client.username ≠ "" := by
  obtain ⟨hc, hmade⟩ := h.isMadeFrom
  obtain ⟨username, husername, hne⟩ := hc.username
  rwa [Option.some.inj (hmade.username.symm.trans husername)]

theorem IsSetUpFor.source_ne_empty (h : IsSetUpFor c client) : client.source ≠ "" := by
  obtain ⟨hc, hmade⟩ := h.isMadeFrom
  rw [hmade.source]
  exact Credential.resolvedSource_ne_empty hc.source

end ChallengeResponse

/-- Which credentials make a client, for all mechanisms and credentials.

* A client is made exactly if the mechanism is the challenge-response one and the credential
  is complete, which is also what the check of the mechanism passes.
* Every other mechanism is refused with an error about authentication, whatever the
  credential. The challenge-response mechanism reports what an incomplete credential lacks
  first, as an invalid argument and just as the check does.
* A credential that passed the check is never found incomplete afterwards.
* Every client that can be set up has the user name of its credential, which is not empty,
  and a source that is not empty. -/
theorem complete_credentials_make_clients :
    (∀ (m : Mechanism) (c : Credential),
      (∃ client, m.client c = .ok client) ↔ m = .challengeResponse ∧ c.IsComplete)
    ∧ (∀ c, Mechanism.challengeResponse.validate c = .ok () ↔ c.IsComplete)
    ∧ (∀ (m : Mechanism) (c : Credential), m ≠ .challengeResponse →
        ∃ e, m.client c = .error e
          ∧ e.isAuthentication = true
          ∧ e.fault.message? =
            some (m.name ++ " failure: mechanism is not supported by this crate"))
    ∧ (∀ c, ¬c.IsComplete → ∃ problem, c.FirstLack .challengeResponse problem
        ∧ Mechanism.challengeResponse.client c = .error (Fault.invalidArgument problem)
        ∧ Mechanism.challengeResponse.validate c = .error (Fault.invalidArgument problem))
    ∧ (∀ (m : Mechanism) (c : Credential) (e : Error), m.client c = .error e →
        ∀ problem, e.fault ≠ .internal problem)
    ∧ (∀ c client, ChallengeResponse.IsSetUpFor c client →
        c.username = some client.username ∧ client.username ≠ "" ∧ client.source ≠ "") := by
  refine ⟨fun m c => Mechanism.exists_client_iff, fun c => Mechanism.validate_eq_ok_iff rfl,
    ?_, ?_, fun m c e => Mechanism.client_ne_internal, ?_⟩
  · intro m c hm
    exact ⟨_, Mechanism.client_of_ne hm c, rfl, rfl⟩
  · intro c hc
    obtain ⟨problem, hlack⟩ := Credential.exists_firstLack .challengeResponse hc
    exact ⟨problem, hlack, ChallengeResponse.ofCredential_of_firstLack hlack,
      Mechanism.validate_of_firstLack rfl hlack⟩
  · intro c client h
    exact ⟨h.isMadeFrom.2.username, h.username_ne_empty, h.source_ne_empty⟩

-- nothing is complete here, and the user name comes first
example : Mechanism.challengeResponse.client { source := some "" } =
    .error (Fault.invalidArgument (.noUsername .challengeResponse)) := by rfl

end Negotiation
