import EvServer.Lib.Pairing
import EvServer.Roaming.Credentials

/-!
# The tokens of the endpoints are in pairs

An endpoint may be saved as a request has read it, so the credentials of the tenants are those of
the endpoints in the database and those that the requests under way may still save.  A step either
forgets some of them or adds a pair of new ones, and so they stay in pairs: whoever is accepted by
the other tenant accepts it as well, at any time.
-/

namespace EvServer

namespace Roaming

namespace Credentials

open Pairing Collection

/-- The credentials of an endpoint. -/
def OCPIEndpoint.credential (endpoint : OCPIEndpoint) : Credential (String × String) LocalToken :=
  ⟨endpoint.key, endpoint.localToken, endpoint.token⟩

/-- The credentials that a request under way may save, if they have been agreed. -/
def Exchange.credentials : Exchange → List (Credential (String × String) LocalToken)
  | .posted _ _ | .received _ _ => []
  | .answered client credential => [(client.registered credential).credential]
  | .deletePosted client => [client.credential]
  | .deleteReceived client server => [client.credential, server.credential]
  | .deleteAnswered client => [client.credential]

/-- The token that the client has generated and that has not been agreed. -/
def Exchange.offered : Exchange → Option LocalToken
  | .posted client _ | .received client _ => some client.localToken
  | _ => none

/-- What has been read and generated is together. -/
def Exchange.Consistent : Exchange → Prop
  | .posted client credential =>
      client.localToken.tid = client.tenant ∧ ∀ k ∈ credential.token, k = client.localToken
  | .received client server =>
      client.localToken.tid = client.tenant ∧ server.token = some client.localToken
  | _ => True

namespace CredentialsState

/-- The credentials of the tenants. -/
def credentials (s : CredentialsState) : Set (Credential (String × String) LocalToken) :=
  {c | (∃ endpoint ∈ s.endpoints.docs, c = endpoint.credential) ∨
    ∃ exchange ∈ s.exchanges, c ∈ exchange.credentials}

/-- The token occurs nowhere. -/
def Unused (s : CredentialsState) (token : LocalToken) : Prop :=
  Pairing.Unused s.credentials token ∧ ∀ exchange ∈ s.exchanges, exchange.offered ≠ some token

/-- **The invariant.** -/
structure PairedState (s : CredentialsState) : Prop where
  paired : Paired s.credentials
  /-- A token names the tenant that accepts it. -/
  tenant : ∀ c ∈ s.credentials, c.key.tid = c.place.1
  consistent : ∀ exchange ∈ s.exchanges, exchange.Consistent
  /-- What is offered has not been agreed. -/
  offered : ∀ exchange ∈ s.exchanges, ∀ token ∈ exchange.offered,
    Pairing.Unused s.credentials token
  /-- What is offered is offered once. -/
  once : s.exchanges.Pairwise fun a b => ∀ token ∈ a.offered, b.offered ≠ some token

variable {s t : CredentialsState} {exchange : Exchange} {endpoint : OCPIEndpoint} {index : ℕ}
variable {key : String × String} {token : LocalToken} {installation : Installation}

/-! ## The credentials of a step -/

theorem credential_mem (mem : endpoint ∈ s.endpoints.docs) : endpoint.credential ∈ s.credentials :=
  .inl ⟨endpoint, mem, rfl⟩

theorem credentials_subset {c : Credential (String × String) LocalToken}
    (mem : exchange ∈ s.exchanges) (hc : c ∈ exchange.credentials) : c ∈ s.credentials :=
  .inr ⟨exchange, mem, hc⟩

/-- An endpoint that is saved replaces another one. -/
theorem credentials_saveOcpiEndpoint :
    (s.saveOcpiEndpoint endpoint).credentials ⊆ insert endpoint.credential s.credentials := by
  rintro c (⟨saved, mem, rfl⟩ | ⟨exchange, mem, hc⟩)
  · rcases mem_save mem with rfl | mem
    · exact .inl rfl
    · exact .inr (credential_mem mem)
  · exact .inr (credentials_subset mem hc)

theorem credentials_goOn {c : Credential (String × String) LocalToken}
    (hc : c ∈ (s.goOn index exchange).credentials) :
    c ∈ exchange.credentials ∨ c ∈ s.credentials := by
  rcases hc with ⟨saved, mem, rfl⟩ | ⟨other, mem, hc⟩
  · exact .inr (credential_mem mem)
  · rcases List.mem_cons.mp mem with rfl | mem
    · exact .inl hc
    · exact .inr (credentials_subset (List.mem_of_mem_eraseIdx mem) hc)

theorem credentials_goOn_subset (known : ∀ c ∈ exchange.credentials, c ∈ s.credentials) :
    (s.goOn index exchange).credentials ⊆ s.credentials := fun c hc =>
  (credentials_goOn hc).elim (known c) id

theorem credentials_eraseIdx_subset (s : CredentialsState) (index : ℕ) :
    ({ s with exchanges := s.exchanges.eraseIdx index } : CredentialsState).credentials ⊆
      s.credentials := by
  rintro c (⟨saved, mem, rfl⟩ | ⟨other, mem, hc⟩)
  · exact credential_mem mem
  · exact credentials_subset (List.mem_of_mem_eraseIdx mem) hc

theorem credentials_begin_subset (known : ∀ c ∈ exchange.credentials, c ∈ s.credentials) :
    ({ s with exchanges := exchange :: s.exchanges } : CredentialsState).credentials ⊆
      s.credentials := by
  rintro c (⟨saved, mem, rfl⟩ | ⟨other, mem, hc⟩)
  · exact credential_mem mem
  · rcases List.mem_cons.mp mem with rfl | mem
    · exact known c hc
    · exact credentials_subset mem hc

theorem credentials_delete_subset (s : CredentialsState) (key : String × String) :
    ({ s with endpoints := s.endpoints.delete key } : CredentialsState).credentials ⊆
      s.credentials := by
  rintro c (⟨saved, mem, rfl⟩ | ⟨other, mem, hc⟩)
  · exact credential_mem (mem_delete.mp mem).1
  · exact credentials_subset mem hc

theorem credentials_save_subset (known : endpoint.credential ∈ s.credentials) :
    (s.saveOcpiEndpoint endpoint).credentials ⊆ s.credentials :=
  credentials_saveOcpiEndpoint.trans (Set.insert_subset known subset_rfl)

/-- The new credentials when the server has answered. -/
theorem credentials_agree_subset {client server : OCPIEndpoint} {credential : OCPICredential}
    {random : ℕ × ℕ} (index : ℕ) (offered : server.token = some client.localToken)
    (answered : credential.token = some (generateLocalToken server.tenant random)) :
    ((s.saveOcpiEndpoint (server.accepted random)).goOn index
      (.answered client credential)).credentials ⊆
        insert ⟨client.key, client.localToken, some (generateLocalToken server.tenant random)⟩
          (insert ⟨server.key, generateLocalToken server.tenant random, some client.localToken⟩
            s.credentials) := by
  intro c hc
  rcases credentials_goOn hc with hc | hc
  · rw [← answered]
    exact .inl (List.mem_singleton.mp hc)
  · rw [← offered]
    exact .inr (credentials_saveOcpiEndpoint hc)

theorem mem_of_taken (taken : s.exchanges[index]? = some exchange) : exchange ∈ s.exchanges :=
  List.mem_of_getElem? taken

theorem perm_eraseIdx (taken : s.exchanges[index]? = some exchange) :
    (exchange :: s.exchanges.eraseIdx index).Perm s.exchanges := by
  obtain ⟨h, rfl⟩ := List.getElem?_eq_some_iff.mp taken
  exact List.getElem_cons_eraseIdx_perm h

/-! ## What keeps the invariant -/

/-- The exchanges that are left offer other tokens than the one that is taken. -/
theorem PairedState.once_cons (inv : s.PairedState) (taken : s.exchanges[index]? = some exchange) :
    (exchange :: s.exchanges.eraseIdx index).Pairwise fun a b =>
      ∀ token ∈ a.offered, b.offered ≠ some token := by
  refine ((perm_eraseIdx taken).pairwise_iff ?_).mpr inv.once
  intro a b distinct token hb ha
  exact distinct token ha hb

/-- An exchange goes on with what it has. -/
theorem PairedState.goOn (inv : s.PairedState) {new : Exchange}
    (taken : s.exchanges[index]? = some exchange) (consistent : new.Consistent)
    (credentials : ∀ c ∈ new.credentials, c ∈ s.credentials)
    (offered : ∀ token ∈ new.offered, token ∈ exchange.offered) :
    (s.goOn index new).PairedState := by
  have sub : (s.goOn index new).credentials ⊆ s.credentials := credentials_goOn_subset credentials
  have mem := mem_of_taken taken
  have once := List.pairwise_cons.mp (inv.once_cons taken)
  refine ⟨inv.paired.mono sub, fun c hc => inv.tenant c (sub hc), ?_, ?_, ?_⟩
  · exact List.forall_mem_cons.mpr
      ⟨consistent, fun other h => inv.consistent other (List.mem_of_mem_eraseIdx h)⟩
  · refine List.forall_mem_cons.mpr ⟨fun token h => ?_, fun other h token htoken => ?_⟩
    · exact (inv.offered exchange mem token (offered token h)).mono sub
    · exact (inv.offered other (List.mem_of_mem_eraseIdx h) token htoken).mono sub
  · refine List.pairwise_cons.mpr ⟨fun other h token htoken => ?_, once.2⟩
    exact once.1 other h token (offered token htoken)

/-- An exchange goes no further. -/
theorem PairedState.eraseIdx (inv : s.PairedState) (index : ℕ) :
    ({ s with exchanges := s.exchanges.eraseIdx index } : CredentialsState).PairedState := by
  have sub := credentials_eraseIdx_subset s index
  exact {
    paired := inv.paired.mono sub
    tenant := fun c hc => inv.tenant c (sub hc)
    consistent := fun other h => inv.consistent other (List.mem_of_mem_eraseIdx h)
    offered := fun other h token htoken =>
      (inv.offered other (List.mem_of_mem_eraseIdx h) token htoken).mono sub
    once := inv.once.sublist (List.eraseIdx_sublist ..) }

/-- An exchange begins. -/
theorem PairedState.begin (inv : s.PairedState) {new : Exchange} (consistent : new.Consistent)
    (credentials : ∀ c ∈ new.credentials, c ∈ s.credentials)
    (offered : ∀ token ∈ new.offered, s.Unused token) :
    ({ s with exchanges := new :: s.exchanges } : CredentialsState).PairedState := by
  have sub := credentials_begin_subset credentials
  refine ⟨inv.paired.mono sub, fun c hc => inv.tenant c (sub hc),
    List.forall_mem_cons.mpr ⟨consistent, inv.consistent⟩,
    List.forall_mem_cons.mpr ⟨fun token h => (offered token h).1.mono sub,
      fun other h token htoken => (inv.offered other h token htoken).mono sub⟩,
    List.pairwise_cons.mpr ⟨fun other h token htoken => (offered token htoken).2 other h,
      inv.once⟩⟩

/-- An endpoint is saved with credentials that it may have. -/
theorem PairedState.saveOcpiEndpoint (inv : s.PairedState)
    (known : endpoint.credential ∈ s.credentials) : (s.saveOcpiEndpoint endpoint).PairedState := by
  have sub := credentials_save_subset known
  exact { inv with
    paired := inv.paired.mono sub
    tenant := fun c hc => inv.tenant c (sub hc)
    offered := fun other h token htoken => (inv.offered other h token htoken).mono sub }

/-- Endpoints are deleted. -/
theorem PairedState.delete (inv : s.PairedState) (key : String × String) :
    ({ s with endpoints := s.endpoints.delete key } : CredentialsState).PairedState := by
  have sub := credentials_delete_subset s key
  exact { inv with
    paired := inv.paired.mono sub
    tenant := fun c hc => inv.tenant c (sub hc)
    offered := fun other h token htoken => (inv.offered other h token htoken).mono sub }

/-- **The server generates its token**, and the credentials are agreed. -/
theorem PairedState.agree (inv : s.PairedState) {client server : OCPIEndpoint}
    {credential : OCPICredential} (taken : s.exchanges[index]? = some (.received client server))
    {random : ℕ × ℕ} (unused : s.Unused (generateLocalToken server.tenant random))
    (answered : credential.token = some (generateLocalToken server.tenant random)) :
    ((s.saveOcpiEndpoint (server.accepted random)).goOn index
      (.answered client credential)).PairedState := by
  have mem := mem_of_taken taken
  obtain ⟨tid, token⟩ := inv.consistent _ mem
  have once := List.pairwise_cons.mp (inv.once_cons taken)
  have offered := inv.offered _ mem client.localToken rfl
  have distinct : client.localToken ≠ generateLocalToken server.tenant random := fun same =>
    unused.2 _ mem (congrArg some same)
  have sub := credentials_agree_subset (s := s) index token answered
  have others (other : Exchange) (h : other ∈ s.exchanges.eraseIdx index) (token : LocalToken)
      (htoken : token ∈ other.offered) :
      Pairing.Unused ((s.saveOcpiEndpoint (server.accepted random)).goOn index
        (.answered client credential)).credentials token := by
    have known := List.mem_of_mem_eraseIdx h
    have ne : client.localToken ≠ token := fun same =>
      once.1 other h client.localToken rfl (htoken.trans (congrArg some same.symm))
    have ne' : generateLocalToken server.tenant random ≠ token := fun same =>
      unused.2 other known (htoken.trans (congrArg some same.symm))
    intro c hc
    rcases sub hc with rfl | rfl | hc
    · exact ⟨ne, fun same => ne' (Option.some.inj same)⟩
    · exact ⟨ne', fun same => ne (Option.some.inj same)⟩
    · exact inv.offered other known token htoken c hc
  refine ⟨(inv.paired.exchange offered unused.1 distinct).mono sub, fun c hc => ?_, ?_, ?_, ?_⟩
  · rcases sub hc with rfl | rfl | hc
    · exact tid
    · rfl
    · exact inv.tenant c hc
  · exact List.forall_mem_cons.mpr
      ⟨trivial, fun other h => inv.consistent other (List.mem_of_mem_eraseIdx h)⟩
  · exact List.forall_mem_cons.mpr ⟨fun token h => (nomatch h), others⟩
  · exact List.pairwise_cons.mpr ⟨fun other _ token h => (nomatch h), once.2⟩

end CredentialsState

end Credentials

end Roaming

end EvServer
