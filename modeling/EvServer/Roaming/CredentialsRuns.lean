import EvServer.Roaming.PairedCredentials

/-!
# Runs of registrations

In every run the tokens of the endpoints stay in pairs, so that two tenants accept each other or
neither accepts the other, even while registrations of both cross or their answers are lost.
-/

namespace EvServer

namespace Roaming

namespace Credentials

open Pairing Collection

variable {installation : Installation} {endpoints : Collection OCPIEndpoint.key}
variable {endpoint client server : OCPIEndpoint} {credential : OCPICredential}
variable {versions : List OCPIVersion} {services : List OCPIEndpointVersion} {random : ℕ × ℕ}
variable {token : LocalToken} {tenant : String}

/-! ## The endpoint of a token -/

theorem getOcpiEndpointByLocalToken_eq_some :
    getOcpiEndpointByLocalToken endpoints tenant token = some endpoint ↔
      ∀ other, other ∈ endpoints.docs ∧ other.tenant = tenant ∧ other.localToken = token ↔
        other = endpoint := by
  have nodup : endpoints.docs.Nodup := .of_map _ endpoints.nodup
  have single : getOcpiEndpointByLocalToken endpoints tenant token = some endpoint ↔
      (endpoints.docs.filter fun endpoint =>
        endpoint.tenant = tenant ∧ endpoint.localToken = token) = [endpoint] := by
    unfold getOcpiEndpointByLocalToken
    split
    · next found h => rw [h, Option.some.injEq, List.singleton_inj]
    · next several =>
      constructor
      · intro none
        cases none
      · intro one
        exact absurd one (several endpoint)
  rw [single, ← List.perm_singleton, List.perm_ext_iff_of_nodup (nodup.filter _)
    (List.nodup_singleton _)]
  simp only [List.mem_filter, List.mem_singleton, decide_eq_true_eq]

theorem authenticate_eq_some {shown : Option LocalToken} :
    authenticate installation endpoints shown = some endpoint ↔ ∃ token, shown = some token ∧
      installation.isTenantComponentActive token.tid ∧
        getOcpiEndpointByLocalToken endpoints token.tid token = some endpoint := by
  unfold authenticate
  simp only [Option.bind_eq_bind, Option.bind_eq_some_iff, Option.guard_eq_some']
  constructor
  · rintro ⟨token, shown, _, active, found⟩
    exact ⟨token, shown, active, found⟩
  · rintro ⟨token, shown, active, found⟩
    exact ⟨token, shown, (), active, found⟩

/-- Who shows the token of an endpoint, is found by it. -/
theorem of_authenticate {shown : Option LocalToken}
    (found : authenticate installation endpoints shown = some endpoint) :
    endpoint ∈ endpoints.docs ∧ shown = some endpoint.localToken := by
  obtain ⟨token, shown, -, found⟩ := authenticate_eq_some.mp found
  obtain ⟨mem, -, rfl⟩ := (getOcpiEndpointByLocalToken_eq_some.mp found endpoint).mpr rfl
  exact ⟨mem, shown⟩

/-! ## What the functions keep -/

theorem getAndCheckVersions_eq_some (h : endpoint.getAndCheckVersions versions = some client) :
    client.credential = endpoint.credential := by
  obtain ⟨version, -, h⟩ := Option.bind_eq_some_iff.mp h
  obtain rfl := Option.some.inj h
  rfl

/-- A client shows the token of its endpoint and offers a new one. -/
theorem register_eq_some
    (h : endpoint.register installation versions services random = some (client, credential)) :
    client.key = endpoint.key ∧ client.token = endpoint.token ∧
      client.localToken = generateLocalToken endpoint.tenant random ∧
        ∀ k ∈ credential.token, k = client.localToken := by
  unfold OCPIEndpoint.register at h
  simp only [Option.bind_eq_bind, Option.bind_eq_some_iff, Option.pure_def, Option.some.injEq,
    Prod.mk.injEq] at h
  obtain ⟨_, -, _, -, checked, h, _, -, rfl, rfl⟩ := h
  obtain ⟨hkey, htoken⟩ : checked.key = endpoint.key ∧ checked.token = endpoint.token :=
    ⟨congrArg Credential.place (getAndCheckVersions_eq_some h),
      congrArg Credential.token (getAndCheckVersions_eq_some h)⟩
  refine ⟨hkey, htoken, ?_, fun k hk => ?_⟩
  · rw [show checked.tenant = endpoint.tenant from congrArg Prod.fst hkey]
  · unfold buildOCPICredentialObject at hk
    split at hk
    · exact (Option.some.inj hk).symm
    · cases hk

theorem unregister_eq_some (h : endpoint.unregister installation versions = some client) :
    client.credential = endpoint.credential := by
  unfold OCPIEndpoint.unregister at h
  simp only [Option.bind_eq_bind, Option.bind_eq_some_iff, Option.pure_def, Option.some.injEq] at h
  obtain ⟨_, -, _, -, checked, h, _, -, rfl⟩ := h
  exact getAndCheckVersions_eq_some h

/-- A server takes the token of a valid credential. -/
theorem postCredentials_eq_some
    (h : endpoint.postCredentials credential versions services = some server) :
    server.key = endpoint.key ∧ server.token = credential.token ∧ credential.token.isSome := by
  unfold OCPIEndpoint.postCredentials at h
  simp only [Option.bind_eq_bind, Option.bind_eq_some_iff, Option.guard_eq_some',
    Option.pure_def, Option.some.injEq] at h
  obtain ⟨_, valid, version, -, rfl⟩ := h
  unfold isValidOCPICredential at valid
  simp only [Bool.and_eq_true] at valid
  exact ⟨rfl, rfl, valid.1.1.2⟩

theorem deleteCredentials_eq_some (h : endpoint.deleteCredentials = some server) :
    server.credential = endpoint.credential := by
  unfold OCPIEndpoint.deleteCredentials at h
  split at h
  · cases h
  · obtain rfl := Option.some.inj h
    rfl

theorem token_buildOCPICredentialObject {role : OCPIRole} {versionUrl : Option String}
    (configured : (installation.getOCPISettings tenant).isSome) :
    (buildOCPICredentialObject installation tenant token role versionUrl).token = some token := by
  obtain ⟨ocpi, found⟩ := Option.isSome_iff_exists.mp configured
  unfold buildOCPICredentialObject
  rw [found]

theorem tenant_eq_of_key_eq (h : client.key = endpoint.key) : client.tenant = endpoint.tenant :=
  congrArg Prod.fst h

namespace CredentialsState

/-! ## One step -/

/-- The endpoint with which the server will answer. -/
def answering (s : CredentialsState) (index : ℕ) : Option OCPIEndpoint :=
  match s.exchanges[index]? with
  | some (.received _ server) => some server
  | _ => none

/-- A token that is generated is new, and a server that answers with one has its settings. -/
def Admits (installation : Installation) (s : CredentialsState) : CredentialsAction → Prop
  | .register key _ _ random => s.Unused (generateLocalToken key.1 random)
  | .answer index random _ => ∀ server ∈ s.answering index,
      s.Unused (generateLocalToken server.tenant random) ∧
        (installation.getOCPISettings server.tenant).isSome
  | _ => True

variable {s t start : CredentialsState} {action : CredentialsAction} {index : ℕ}
variable {actions : List CredentialsAction}

theorem mem_answering (taken : s.exchanges[index]? = some (.received client server)) :
    server ∈ s.answering index := by
  unfold answering
  rw [taken]
  rfl

/-- What the server does with a request. -/
theorem receive_cases (h : s.receive installation index versions services = some t) :
    (∃ client credential found server,
      s.exchanges[index]? = some (.posted client credential) ∧
      authenticate installation s.endpoints client.token = some found ∧
      found.postCredentials credential versions services = some server ∧
      t = s.goOn index (.received client server)) ∨
    ∃ client found server, s.exchanges[index]? = some (.deletePosted client) ∧
      authenticate installation s.endpoints client.token = some found ∧
      found.deleteCredentials = some server ∧
      t = s.goOn index (.deleteReceived client server) := by
  unfold receive at h
  split at h
  · next client credential taken =>
    simp only [Option.bind_eq_bind, Option.bind_eq_some_iff, Option.pure_def,
      Option.some.injEq] at h
    obtain ⟨found, hfound, server, hserver, rfl⟩ := h
    exact .inl ⟨client, credential, found, server, taken, hfound, hserver, rfl⟩
  · next client taken =>
    simp only [Option.bind_eq_bind, Option.bind_eq_some_iff, Option.pure_def,
      Option.some.injEq] at h
    obtain ⟨found, hfound, server, hserver, rfl⟩ := h
    exact .inr ⟨client, found, server, taken, hfound, hserver, rfl⟩
  · cases h

/-- What the server answers, and what it has saved. -/
theorem answer_cases {serviceUrl : String}
    (h : s.answer installation index random serviceUrl = some t) :
    (∃ client server, s.exchanges[index]? = some (.received client server) ∧
      t = (s.saveOcpiEndpoint (server.accepted random)).goOn index
        (.answered client (buildOCPICredentialObject installation server.tenant
          (generateLocalToken server.tenant random) server.role
            (some (serviceUrl ++ "/versions"))))) ∨
    ∃ client server, s.exchanges[index]? = some (.deleteReceived client server) ∧
      t = (s.saveOcpiEndpoint server).goOn index (.deleteAnswered client) := by
  unfold answer at h
  split at h
  · next client server taken =>
    exact .inl ⟨client, server, taken, (Option.some.inj h).symm⟩
  · next client server taken =>
    exact .inr ⟨client, server, taken, (Option.some.inj h).symm⟩
  · cases h

/-- What the client saves at the end is what its request may save. -/
theorem complete_cases (h : s.complete index = some t) :
    ∃ exchange saved, s.exchanges[index]? = some exchange ∧
      saved.credential ∈ exchange.credentials ∧
      t = { s.saveOcpiEndpoint saved with exchanges := s.exchanges.eraseIdx index } := by
  unfold complete at h
  split at h
  · next client credential taken =>
    exact ⟨_, client.registered credential, taken, List.mem_singleton_self _,
      (Option.some.inj h).symm⟩
  · next client taken =>
    exact ⟨_, client.unregistered, taken, List.mem_singleton_self _, (Option.some.inj h).symm⟩
  · cases h

/-- **A step keeps the tokens in pairs.** -/
theorem PairedState.next (inv : s.PairedState) (admits : s.Admits installation action)
    (step : s.next installation action = some t) : t.PairedState := by
  cases action with
  | register key versions services random =>
      simp only [CredentialsState.next, Option.bind_eq_bind, Option.bind_eq_some_iff,
        Option.pure_def, Option.some.injEq] at step
      obtain ⟨endpoint, found, ⟨client, credential⟩, h, rfl⟩ := step
      obtain ⟨hkey, -, offered, posted⟩ := register_eq_some h
      obtain rfl := key_of_find found
      refine inv.begin ⟨?_, posted⟩ (fun c hc => absurd hc List.not_mem_nil) fun token htoken => ?_
      · rw [offered, tenant_eq_of_key_eq hkey]
        rfl
      · obtain rfl := Option.some.inj htoken
        rw [offered]
        exact admits
  | unregister key versions =>
      simp only [CredentialsState.next, Option.bind_eq_bind, Option.bind_eq_some_iff,
        Option.pure_def, Option.some.injEq] at step
      obtain ⟨endpoint, found, client, h, rfl⟩ := step
      refine inv.begin trivial (fun c hc => ?_) fun token h => absurd h (Option.not_mem_none token)
      rw [List.mem_singleton.mp hc, unregister_eq_some h]
      exact credential_mem (mem_of_find found)
  | receive index versions services =>
      rcases receive_cases step with ⟨client, credential, found, server, taken, hfound, h, rfl⟩ |
        ⟨client, found, server, taken, hfound, h, rfl⟩
      · obtain ⟨tid, posted⟩ := inv.consistent _ (mem_of_taken taken)
        obtain ⟨-, htoken, isSome⟩ := postCredentials_eq_some h
        obtain ⟨token, shown⟩ := Option.isSome_iff_exists.mp isSome
        refine inv.goOn taken ⟨tid, ?_⟩ (fun c hc => absurd hc List.not_mem_nil) fun _ h => h
        rw [htoken, shown, posted token shown]
      · refine inv.goOn taken trivial (fun c hc => ?_)
          fun token h => absurd h (Option.not_mem_none token)
        rcases List.mem_pair.mp hc with rfl | rfl
        · exact credentials_subset (mem_of_taken taken) (List.mem_singleton_self _)
        · rw [deleteCredentials_eq_some h]
          exact credential_mem (of_authenticate hfound).1
  | answer index random serviceUrl =>
      rcases answer_cases step with ⟨client, server, taken, rfl⟩ | ⟨client, server, taken, rfl⟩
      · obtain ⟨unused, configured⟩ := admits server (mem_answering taken)
        exact inv.agree taken unused (token_buildOCPICredentialObject configured)
      · have mem := mem_of_taken taken
        have known : server.credential ∈ s.credentials :=
          credentials_subset mem (List.mem_cons_of_mem _ (List.mem_singleton_self _))
        refine (inv.saveOcpiEndpoint known).goOn taken trivial (fun c hc => ?_)
          fun token h => absurd h (Option.not_mem_none token)
        rw [List.mem_singleton.mp hc]
        exact .inr ⟨_, mem, List.mem_cons_self ..⟩
  | complete index =>
      obtain ⟨exchange, saved, taken, known, rfl⟩ := complete_cases step
      exact (inv.saveOcpiEndpoint (credentials_subset (mem_of_taken taken) known)).eraseIdx index
  | lose index =>
      obtain rfl := Option.some.inj step
      exact inv.eraseIdx index
  | delete key =>
      obtain rfl := Option.some.inj step
      exact inv.delete key

/-! ## Runs -/

/-- The endpoints before any registration: the tokens that have been entered are in pairs, and
those that are accepted have been generated. -/
structure Prepared (s : CredentialsState) : Prop where
  exchanges : s.exchanges = []
  tenant : ∀ endpoint ∈ s.endpoints.docs, endpoint.localToken.tid = endpoint.tenant
  eq_of_localToken : ∀ a ∈ s.endpoints.docs, ∀ b ∈ s.endpoints.docs,
    a.localToken = b.localToken → a = b
  localToken_of_token : ∀ a ∈ s.endpoints.docs, ∀ b ∈ s.endpoints.docs,
    a.token = some b.localToken → b.token = some a.localToken

/-- When no request is under way, the credentials are those of the endpoints. -/
theorem credentials_of_quiet (quiet : s.exchanges = [])
    {c : Credential (String × String) LocalToken} (hc : c ∈ s.credentials) :
    ∃ endpoint ∈ s.endpoints.docs, c = endpoint.credential := by
  rcases hc with known | ⟨exchange, mem, -⟩
  · exact known
  · rw [quiet] at mem
    cases mem

theorem Prepared.pairedState (prepared : s.Prepared) : s.PairedState := by
  have known {c} := @credentials_of_quiet s prepared.exchanges c
  refine ⟨⟨?_, ?_⟩, ?_, ?_, ?_, ?_⟩
  · intro a ha b hb same
    obtain ⟨first, memFirst, rfl⟩ := known ha
    obtain ⟨second, memSecond, rfl⟩ := known hb
    rw [prepared.eq_of_localToken first memFirst second memSecond same]
  · intro a ha b hb shown
    obtain ⟨first, memFirst, rfl⟩ := known ha
    obtain ⟨second, memSecond, rfl⟩ := known hb
    exact prepared.localToken_of_token first memFirst second memSecond shown
  · intro c hc
    obtain ⟨endpoint, mem, rfl⟩ := known hc
    exact prepared.tenant endpoint mem
  all_goals simp [prepared.exchanges]

/-- The runs in which every token that is generated is new. -/
abbrev Runs (installation : Installation) :
    CredentialsState → List CredentialsAction → CredentialsState → Prop :=
  Transition.Run (Transition.guarded (Admits installation) (Step installation))

theorem PairedState.run (inv : start.PairedState) (run : Runs installation start actions s) :
    s.PairedState :=
  run.invariant inv fun _ _ _ inv step => inv.next step.1 step.2

/-- An endpoint is found by its token. -/
theorem PairedState.authenticate (inv : s.PairedState) (mem : endpoint ∈ s.endpoints.docs)
    (active : installation.isTenantComponentActive endpoint.tenant) :
    authenticate installation s.endpoints (some endpoint.localToken) = some endpoint := by
  have tid : endpoint.localToken.tid = endpoint.tenant := inv.tenant _ (credential_mem mem)
  refine authenticate_eq_some.mpr ⟨endpoint.localToken, rfl, by rwa [tid], ?_⟩
  refine getOcpiEndpointByLocalToken_eq_some.mpr fun other => ⟨?_, ?_⟩
  · rintro ⟨hother, -, same⟩
    have key := congrArg Credential.place
      (inv.paired.eq_of_key _ (credential_mem hother) _ (credential_mem mem) same)
    exact s.endpoints.eq_of_key_eq hother mem key
  · rintro rfl
    exact ⟨mem, tid.symm, rfl⟩

instance (s : CredentialsState) (token : LocalToken) : Decidable (s.Unused token) :=
  decidable_of_iff
    ((∀ endpoint ∈ s.endpoints.docs,
        endpoint.localToken ≠ token ∧ endpoint.token ≠ some token) ∧
      (∀ exchange ∈ s.exchanges, ∀ c ∈ exchange.credentials, c.key ≠ token ∧ c.token ≠ some token) ∧
      ∀ exchange ∈ s.exchanges, exchange.offered ≠ some token) <| by
    constructor
    · rintro ⟨endpoints, agreed, offered⟩
      refine ⟨?_, offered⟩
      rintro c (⟨endpoint, mem, rfl⟩ | ⟨exchange, mem, hc⟩)
      · exact endpoints endpoint mem
      · exact agreed exchange mem c hc
    · rintro ⟨unused, offered⟩
      exact ⟨fun endpoint mem => unused _ (credential_mem mem),
        fun exchange mem c hc => unused c (credentials_subset mem hc), offered⟩

instance (s : CredentialsState) : ∀ action, Decidable (s.Admits installation action)
  | .register _ _ _ _ => inferInstanceAs (Decidable (s.Unused _))
  | .answer index _ _ =>
      inferInstanceAs (Decidable (∀ server ∈ s.answering index, s.Unused _ ∧ _ = true))
  | .unregister _ _ | .receive _ _ _ | .complete _ | .lose _ | .delete _ => .isTrue trivial

/-- An installation with settings for every tenant. -/
def exampleInstallation : Installation where
  baseUrl := "https://roaming"
  isTenantComponentActive _ := true
  getOCPISettings _ := some ⟨⟨"FR", "CPO"⟩, ⟨"FR", "EMP"⟩, none⟩

/-- The endpoint of an operator for a provider. -/
def exampleClient : OCPIEndpoint :=
  ⟨"operator", "1", .cpo, .new, "https://roaming/ocpi/emsp/versions", ⟨1, "operator", 1⟩,
    some ⟨1, "provider", 1⟩, "", "", false, none, none, none, none⟩

/-- The endpoint of the provider for the operator. -/
def exampleServer : OCPIEndpoint :=
  ⟨"provider", "2", .emsp, .new, "https://roaming/ocpi/cpo/versions", ⟨1, "provider", 1⟩,
    some ⟨1, "operator", 1⟩, "", "", false, none, none, none, none⟩

def exampleStart : CredentialsState := ⟨.save exampleServer (.save exampleClient .empty), []⟩

def exampleVersions : List OCPIVersion := [⟨"2.1.1", "https://roaming/2.1.1"⟩]

def exampleServices : List OCPIEndpointVersion := [⟨"credentials", "https://roaming/credentials"⟩]

/-- A registration, and the beginning of one from the other side. -/
def exampleRegistrations : List CredentialsAction :=
  [.register ("operator", "1") exampleVersions exampleServices (2, 2),
    .receive 0 exampleVersions exampleServices, .answer 0 (3, 3) "https://roaming", .complete 0,
    .register ("provider", "2") exampleVersions exampleServices (4, 4)]

theorem prepared_exampleStart : exampleStart.Prepared :=
  ⟨rfl, by decide, by decide, by decide⟩

end CredentialsState

end Credentials

end Roaming

end EvServer
