import EvServer.Roaming.CredentialsRuns

/-!
# Endpoints that are cut off

An endpoint whose token nobody accepts any more cannot be registered from either side: it stays cut
off until an administrator enters new tokens.
-/

namespace EvServer

namespace Roaming

namespace Credentials

open Pairing Collection

namespace CredentialsState

variable {installation : Installation} {s t start : CredentialsState}
variable {endpoint client server : OCPIEndpoint} {credential : OCPICredential}
variable {versions : List OCPIVersion} {services : List OCPIEndpointVersion} {random : ℕ × ℕ}
variable {token : LocalToken} {action : CredentialsAction} {actions : List CredentialsAction}
variable {index : ℕ}

/-! ## Endpoints that are cut off -/

/-- The request is not about the endpoint of these credentials, or will be refused. -/
def Aside (c : Credential (String × String) LocalToken) : Exchange → Prop
  | .posted client _ =>
      client.token ≠ some c.key ∧ (client.key = c.place → client.token = c.token)
  | .received client server => client.key ≠ c.place ∧ server.key ≠ c.place
  | _ => True

/-- Nobody accepts the token of these credentials. -/
structure CutOff (c : Credential (String × String) LocalToken) (s : CredentialsState) : Prop where
  stored : ∃ endpoint ∈ s.endpoints.docs, endpoint.credential = c
  /-- No others will be saved in their place. -/
  only : ∀ d ∈ s.credentials, d.place = c.place → d = c
  refused : ∀ d ∈ s.credentials, c.token ≠ some d.key
  aside : ∀ exchange ∈ s.exchanges, Aside c exchange

variable {c d : Credential (String × String) LocalToken} {exchange : Exchange}

/-- Nobody shows their key. -/
theorem CutOff.token_ne (cut : CutOff c s) (inv : s.PairedState) (hd : d ∈ s.credentials) :
    d.token ≠ some c.key := by
  obtain ⟨endpoint, mem, rfl⟩ := cut.stored
  intro shown
  exact cut.refused d hd (inv.paired.key_of_token d hd _ (credential_mem mem) shown)

/-- The credentials stay when others are saved that may be. -/
theorem CutOff.stored_save (cut : CutOff c s) {saved : OCPIEndpoint}
    (known : saved.credential ∈ s.credentials) :
    ∃ endpoint ∈ (s.endpoints.save saved).docs, endpoint.credential = c := by
  obtain ⟨endpoint, mem, rfl⟩ := cut.stored
  by_cases same : endpoint.key = saved.key
  · exact ⟨saved, mem_save_iff.mpr (.inl rfl), cut.only _ known same.symm⟩
  · exact ⟨endpoint, mem_save_iff.mpr (.inr ⟨mem, same⟩), rfl⟩

/-- Nothing new is agreed. -/
theorem CutOff.mono (cut : CutOff c s)
    (stored : ∃ endpoint ∈ t.endpoints.docs, endpoint.credential = c)
    (sub : t.credentials ⊆ s.credentials)
    (aside : ∀ exchange ∈ t.exchanges, Aside c exchange) : CutOff c t where
  stored := stored
  only d hd := cut.only d (sub hd)
  refused d hd := cut.refused d (sub hd)
  aside := aside

theorem CutOff.goOn (cut : CutOff c s) {new : Exchange}
    (known : ∀ d ∈ new.credentials, d ∈ s.credentials) (aside : Aside c new) :
    CutOff c (s.goOn index new) :=
  cut.mono cut.stored (credentials_goOn_subset known) (List.forall_mem_cons.mpr
    ⟨aside, fun other mem => cut.aside other (List.mem_of_mem_eraseIdx mem)⟩)

theorem CutOff.saveOcpiEndpoint (cut : CutOff c s) (known : endpoint.credential ∈ s.credentials) :
    CutOff c (s.saveOcpiEndpoint endpoint) :=
  cut.mono (cut.stored_save known) (credentials_save_subset known) cut.aside

theorem CutOff.eraseIdx (cut : CutOff c s) (index : ℕ) :
    CutOff c { s with exchanges := s.exchanges.eraseIdx index } :=
  cut.mono cut.stored (credentials_eraseIdx_subset s index) fun other mem =>
    cut.aside other (List.mem_of_mem_eraseIdx mem)

/-- Two others agree. -/
theorem CutOff.agree (cut : CutOff c s) (inv : s.PairedState)
    (taken : s.exchanges[index]? = some (.received client server))
    (unused : s.Unused (generateLocalToken server.tenant random))
    (answered : credential.token = some (generateLocalToken server.tenant random)) :
    CutOff c ((s.saveOcpiEndpoint (server.accepted random)).goOn index
      (.answered client credential)) := by
  have mem := mem_of_taken taken
  obtain ⟨-, token⟩ := inv.consistent _ mem
  obtain ⟨hclient, hserver⟩ := cut.aside _ mem
  have sub := credentials_agree_subset (s := s) index token answered
  obtain ⟨endpoint, stored, rfl⟩ := cut.stored
  have known := credential_mem stored
  refine ⟨⟨endpoint, mem_save_iff.mpr (.inr ⟨stored, fun same => hserver same.symm⟩), rfl⟩, ?_,
    ?_, ?_⟩
  · intro d hd place
    rcases sub hd with rfl | rfl | hd
    · exact absurd place hclient
    · exact absurd place hserver
    · exact cut.only d hd place
  · intro d hd
    rcases sub hd with rfl | rfl | hd
    · exact (inv.offered _ mem client.localToken rfl _ known).2
    · exact (unused.1 _ known).2
    · exact cut.refused d hd
  · exact List.forall_mem_cons.mpr
      ⟨trivial, fun other h => cut.aside other (List.mem_of_mem_eraseIdx h)⟩

/-- **A step does not connect an endpoint that is cut off**, if it is not deleted. -/
theorem CutOff.next (cut : CutOff c s) (inv : s.PairedState) (admits : s.Admits installation action)
    (kept : action ≠ .delete c.place) (step : s.next installation action = some t) :
    CutOff c t := by
  cases action with
  | register key versions services random =>
      simp only [CredentialsState.next, Option.bind_eq_bind, Option.bind_eq_some_iff,
        Option.pure_def, Option.some.injEq] at step
      obtain ⟨endpoint, found, ⟨client, credential⟩, h, rfl⟩ := step
      obtain ⟨hkey, htoken, -, -⟩ := register_eq_some h
      have known := credential_mem (s := s) (mem_of_find found)
      refine cut.mono cut.stored (credentials_begin_subset fun c hc => absurd hc List.not_mem_nil)
        (List.forall_mem_cons.mpr ⟨⟨?_, fun place => ?_⟩, cut.aside⟩)
      · rw [htoken]
        exact cut.token_ne inv known
      · rw [htoken]
        exact congrArg Credential.token (cut.only _ known (hkey.symm.trans place))
  | unregister key versions =>
      simp only [CredentialsState.next, Option.bind_eq_bind, Option.bind_eq_some_iff,
        Option.pure_def, Option.some.injEq] at step
      obtain ⟨endpoint, found, client, h, rfl⟩ := step
      refine cut.mono cut.stored (credentials_begin_subset fun d hd => ?_)
        (List.forall_mem_cons.mpr ⟨trivial, cut.aside⟩)
      rw [List.mem_singleton.mp hd, unregister_eq_some h]
      exact credential_mem (mem_of_find found)
  | receive index versions services =>
      rcases receive_cases step with ⟨client, credential, found, server, taken, hfound, h, rfl⟩ |
        ⟨client, found, server, taken, hfound, h, rfl⟩
      · obtain ⟨stored, shown⟩ := of_authenticate hfound
        obtain ⟨hkey, -, -⟩ := postCredentials_eq_some h
        obtain ⟨hne, htoken⟩ := cut.aside _ (mem_of_taken taken)
        refine cut.goOn (fun c hc => absurd hc List.not_mem_nil) ⟨fun place => ?_, fun place => ?_⟩
        · exact cut.refused _ (credential_mem stored) ((htoken place).symm.trans shown)
        · have same := cut.only _ (credential_mem stored) (hkey.symm.trans place)
          exact hne (shown.trans (congrArg (some ∘ Credential.key) same))
      · refine cut.goOn (fun d hd => ?_) trivial
        rcases List.mem_pair.mp hd with rfl | rfl
        · exact credentials_subset (mem_of_taken taken) (List.mem_singleton_self _)
        · rw [deleteCredentials_eq_some h]
          exact credential_mem (of_authenticate hfound).1
  | answer index random serviceUrl =>
      rcases answer_cases step with ⟨client, server, taken, rfl⟩ | ⟨client, server, taken, rfl⟩
      · obtain ⟨unused, configured⟩ := admits server (mem_answering taken)
        exact cut.agree inv taken unused (token_buildOCPICredentialObject configured)
      · have mem := mem_of_taken taken
        have known : server.credential ∈ s.credentials :=
          credentials_subset mem (List.mem_cons_of_mem _ (List.mem_singleton_self _))
        refine (cut.saveOcpiEndpoint known).goOn (fun d hd => ?_) trivial
        rw [List.mem_singleton.mp hd]
        exact .inr ⟨_, mem, List.mem_cons_self ..⟩
  | complete index =>
      obtain ⟨exchange, saved, taken, known, rfl⟩ := complete_cases step
      exact (cut.saveOcpiEndpoint (credentials_subset (mem_of_taken taken) known)).eraseIdx index
  | lose index =>
      obtain rfl := Option.some.inj step
      exact cut.eraseIdx index
  | delete key =>
      obtain rfl := Option.some.inj step
      obtain ⟨endpoint, mem, rfl⟩ := cut.stored
      have ne : endpoint.key ≠ key := fun same => kept (same ▸ rfl)
      exact cut.mono ⟨endpoint, mem_delete.mpr ⟨mem, ne⟩, rfl⟩ (credentials_delete_subset s key)
        cut.aside

/-- The runs that do not delete an endpoint. -/
abbrev RunsWithout (installation : Installation) (key : String × String) :
    CredentialsState → List CredentialsAction → CredentialsState → Prop :=
  Transition.Run (Transition.guarded
    (fun s action => s.Admits installation action ∧ action ≠ .delete key) (Step installation))

/-- Both sides register at the same time. -/
def exampleCrossing : List CredentialsAction :=
  [.register ("operator", "1") exampleVersions exampleServices (2, 2),
    .register ("provider", "2") exampleVersions exampleServices (3, 3),
    .receive 1 exampleVersions exampleServices, .receive 1 exampleVersions exampleServices,
    .answer 1 (4, 4) "https://roaming", .answer 1 (5, 5) "https://roaming", .complete 1,
    .complete 0]

/-- One of them tries again. -/
def exampleRetry : List CredentialsAction :=
  [.register ("operator", "1") exampleVersions exampleServices (6, 6), .lose 0]

end CredentialsState

end Credentials

end Roaming

end EvServer
