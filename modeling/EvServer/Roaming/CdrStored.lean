import EvServer.Roaming.OcpiCdr
import EvServer.Roaming.OicpCdr

/-!
# The stored CDR and the accepted one

A CDR that is stored with its transaction is not sent again, so what is stored should be
what the platform has accepted.
-/

namespace EvServer

namespace CdrStore

/-- The component for OICP is not active in the attempt. -/
def OicpInactive (_ : CdrStore) (attempt : CdrAttempt) : Prop :=
  attempt.context.oicpActive = false

/-- The stored CDR over OCPI is the one that the platform has accepted. -/
structure OcpiSettled (s : CdrStore) : Prop where
  carries_iff : ∀ cdr : OCPICdr, cdr.hasConsumption = true →
    (s.transaction.ocpiCdr = some cdr ↔ ⟨cdr, true⟩ ∈ s.ocpiPosts)
  consumption : ∀ post ∈ s.ocpiPosts, post.cdr.hasConsumption = true
  /-- Nothing is posted after a CDR that has been accepted. -/
  last : ∀ post ∈ s.ocpiPosts.dropLast, post.accepted = false

/-- A CDR that has been accepted over OICP is stored, and nothing is posted after it. -/
structure OicpSettled (s : CdrStore) : Prop where
  carries : ∀ cdr : OICPChargeDetailRecord, ⟨cdr, true⟩ ∈ s.oicpPosts →
    s.transaction.oicpCdr = some cdr
  last : ∀ post ∈ s.oicpPosts.dropLast, post.accepted = false

variable {s s' : CdrStore} {attempt : CdrAttempt}

theorem attemptsOcpi_step (inactive : OicpInactive s attempt) (ocpi : s.transaction.IsOcpi)
    (identified : s.transaction.IsOcpiCdrIdentified) (step : Step s attempt s') :
    AttemptsOcpi s s' := by
  subst step
  obtain ⟨sender, context⟩ := attempt
  cases sender with
  | statusNotification =>
      exact OCPPService.attemptsOcpi_completeRoamingTransaction inactive ocpi identified
  | manualPush => exact TransactionService.attemptsOcpi_pushTransactionCdr inactive ocpi identified
  | task => exact OCPIPushCdrsTask.attemptsOcpi_processTransaction inactive ocpi

theorem attemptsOicp_step (oicp : s.transaction.IsOicp)
    (identified : s.transaction.IsOicpCdrIdentified) (step : Step s attempt s') :
    AttemptsOicp s s' := by
  subst step
  obtain ⟨sender, context⟩ := attempt
  cases sender with
  | statusNotification =>
      exact OCPPService.attemptsOicp_completeRoamingTransaction oicp identified
  | manualPush => exact TransactionService.attemptsOicp_pushTransactionCdr oicp identified
  | task =>
      rw [CdrStore.attempt, CdrSender.send, OCPIPushCdrsTask.processTransaction_of_isOicp oicp]
      exact .refl oicp

/-- Nothing has been accepted as long as there is no CDR. -/
theorem OcpiSettled.refused (settled : s.OcpiSettled) (unsent : s.transaction.ocpiCdr = none) :
    ∀ post ∈ s.ocpiPosts, post.accepted = false := by
  intro post mem
  refine eq_false_of_ne_true fun accepted => ?_
  have carried := (settled.carries_iff post.cdr (settled.consumption post mem)).mpr (by
    rw [← accepted]
    exact mem)
  cases unsent.symm.trans carried

/-- An attempt keeps the CDR and the posts in agreement. -/
theorem OcpiSettled.change (settled : s.OcpiSettled) (change : OcpiChange s s') :
    s'.OcpiSettled := by
  cases change with
  | keeps cdr posts =>
      refine ⟨?_, ?_, ?_⟩ <;> rw [posts]
      · rw [cdr]
        exact settled.carries_iff
      · exact settled.consumption
      · exact settled.last
  | ignores cdr unsent id_ne consumption carried posts =>
      refine ⟨?_, ?_, ?_⟩ <;> rw [posts]
      · intro other consumed
        rw [carried, ← settled.carries_iff other consumed, unsent]
        refine ⟨?_, fun none => by cases none⟩
        rintro ⟨⟩
        cases consumption.symm.trans consumed
      · exact settled.consumption
      · exact settled.last
  | accepts cdr unsent id_ne consumption carried posts =>
      refine ⟨?_, ?_, ?_⟩ <;> rw [posts]
      · intro other consumed
        rw [carried, List.mem_append, ← settled.carries_iff other consumed, unsent]
        simp [eq_comm]
      · simpa [or_imp, forall_and, consumption] using settled.consumption
      · rw [List.dropLast_concat]
        exact settled.refused unsent
  | refuses cdr unsent consumption carried posts =>
      refine ⟨?_, ?_, ?_⟩ <;> rw [posts]
      · intro other consumed
        rw [carried, List.mem_append, ← settled.carries_iff other consumed, unsent]
        simp
      · simpa [or_imp, forall_and, consumption] using settled.consumption
      · rw [List.dropLast_concat]
        exact settled.refused unsent

theorem OicpSettled.change (settled : s.OicpSettled)
    (unsent : s.transaction.oicpCdr = none → s.oicpPosts = []) (change : OicpChange s s') :
    s'.OicpSettled := by
  cases change with
  | keeps cdr posts =>
      refine ⟨?_, ?_⟩ <;> rw [posts]
      · rw [cdr]
        exact settled.carries
      · exact settled.last
  | pushes cdr accepted none id_ne carried posts =>
      rw [unsent none] at posts
      refine ⟨?_, ?_⟩ <;> rw [posts]
      · intro other mem
        obtain ⟨rfl, -⟩ := CdrPost.mk.inj (List.mem_singleton.mp mem)
        exact carried
      · intro post mem
        cases mem

/-- The invariant of a session over OCPI. -/
structure OcpiInvariant (s : CdrStore) : Prop where
  isOcpi : s.transaction.IsOcpi
  identified : s.transaction.IsOcpiCdrIdentified
  settled : s.OcpiSettled

/-- The invariant of a session over OICP. -/
structure OicpInvariant (s : CdrStore) : Prop where
  isOicp : s.transaction.IsOicp
  identified : s.transaction.IsOicpCdrIdentified
  unsent : s.transaction.oicpCdr = none → s.oicpPosts = []
  settled : s.OicpSettled

theorem ocpiInvariant_start {transaction : RoamingTransaction} (ocpi : transaction.IsOcpi)
    (unsent : transaction.ocpiCdr = none) : (start transaction).OcpiInvariant := by
  refine ⟨ocpi, ?_, ?_, ?_, ?_⟩
  · intro cdr carried
    cases unsent.symm.trans carried
  · intro cdr _
    constructor
    · intro carried
      cases unsent.symm.trans carried
    · intro mem
      cases mem
  · intro post mem
    cases mem
  · intro post mem
    cases mem

theorem oicpInvariant_start {transaction : RoamingTransaction} (oicp : transaction.IsOicp)
    (unsent : transaction.oicpCdr = none) : (start transaction).OicpInvariant := by
  refine ⟨oicp, ?_, fun _ => rfl, ?_, ?_⟩
  · intro cdr carried
    cases unsent.symm.trans carried
  · intro cdr mem
    cases mem
  · intro post mem
    cases mem

theorem OcpiInvariant.step (inv : s.OcpiInvariant) (inactive : OicpInactive s attempt)
    (step : Step s attempt s') : s'.OcpiInvariant := by
  obtain ⟨ocpi, change⟩ := attemptsOcpi_step inactive inv.isOcpi inv.identified step
  refine ⟨ocpi, ?_, inv.settled.change change⟩
  intro found carried
  cases change with
  | keeps cdr _ => exact inv.identified found (cdr ▸ carried)
  | ignores cdr _ id_ne _ stored _ =>
      obtain rfl := Option.mem_unique stored carried
      exact id_ne
  | accepts cdr _ id_ne _ stored _ =>
      obtain rfl := Option.mem_unique stored carried
      exact id_ne
  | refuses cdr _ _ none _ => cases none.symm.trans carried

theorem OicpInvariant.step (inv : s.OicpInvariant) (step : Step s attempt s') :
    s'.OicpInvariant := by
  obtain ⟨oicp, change⟩ := attemptsOicp_step inv.isOicp inv.identified step
  refine ⟨oicp, ?_, ?_, inv.settled.change inv.unsent change⟩
  · intro found carried
    cases change with
    | keeps cdr _ => exact inv.identified found (cdr ▸ carried)
    | pushes cdr _ _ id_ne stored _ =>
        obtain rfl := Option.mem_unique stored carried
        exact id_ne
  · intro unsent
    cases change with
    | keeps cdr posts => exact posts.trans (inv.unsent (cdr.symm.trans unsent))
    | pushes cdr _ _ _ stored _ => cases unsent.symm.trans stored

/-- The transaction has been stopped, its session is one of the platform, and it carries no
CDR. -/
def IsUnsent (platform : RoamingPlatform) (transaction : RoamingTransaction) : Prop :=
  match platform with
  | .ocpi => transaction.IsOcpi ∧ transaction.ocpiCdr = none
  | .oicp => transaction.IsOicp ∧ transaction.oicpCdr = none

/-- The attempts to send a CDR to the platform: one over OCPI with the other component not
active, as that one throws once the CDR has been posted. -/
def Admits (platform : RoamingPlatform) (s : CdrStore) (attempt : CdrAttempt) : Prop :=
  match platform with
  | .ocpi => OicpInactive s attempt
  | .oicp => True

/-- The stored CDR agrees with what the platform has accepted.  Over OCPI it is posted
again when it has not been accepted. -/
def Settled (platform : RoamingPlatform) (s : CdrStore) : Prop :=
  match platform with
  | .ocpi => s.OcpiSettled ∧ ∀ attempt cdr, OicpInactive s attempt →
      s.transaction.ocpiCdr = none → attempt.Reaches s.transaction cdr →
        (s.attempt attempt).ocpiPosts =
          s.ocpiPosts ++ [⟨cdr, (attempt.context.postOCPI cdr).isOk⟩]
  | .oicp => s.OicpSettled

/-- **The stored CDR and the accepted one.**  After every sequence of attempts with any
answers, a CDR with consumption is stored after OCPI if and only if the platform has accepted
it, and is posted again as long as it has not been.  A CDR that has been accepted is stored
and never posted again, over OICP too. -/
theorem settled_of_run {platform : RoamingPlatform} {transaction : RoamingTransaction}
    {attempts : List CdrAttempt} {s : CdrStore} (unsent : IsUnsent platform transaction)
    (run : Transition.Run (Transition.guarded (Admits platform) Step) (start transaction)
      attempts s) : s.Settled platform := by
  cases platform with
  | ocpi =>
      have inv : s.OcpiInvariant := run.invariant (ocpiInvariant_start unsent.1 unsent.2)
        fun _ _ _ inv step => inv.step step.1 step.2
      exact ⟨inv.settled, fun attempt cdr inactive none reaches =>
        ocpiPosts_attempt inv.isOcpi none inactive reaches⟩
  | oicp =>
      have inv : s.OicpInvariant := run.invariant (oicpInvariant_start unsent.1 unsent.2)
        fun _ _ _ inv step => inv.step step.2
      exact inv.settled

/-- A session of an hour over OCPI, with the energy in Wh. -/
def exampleOcpi (totalConsumptionWh : ℚ) : RoamingTransaction :=
  { id := 1
    timestamp := 0
    stop := some
      { timestamp := 3600000, meterStop := totalConsumptionWh
        totalConsumptionWh := totalConsumptionWh, totalDurationSecs := 3600 }
    ocpiData := some { session := some { id := "session" } } }

/-- A session of an hour over OICP. -/
def exampleOicp : RoamingTransaction :=
  { id := 1
    timestamp := 0
    stop := some { timestamp := 3600000, meterStop := 7000, totalConsumptionWh := 7000 }
    oicpData := some { session := some { id := "session", startDatetime := 0 } } }

/-- An attempt with one of the components active; the platform accepts the CDR, or does not
answer. -/
def exampleAttempt (sender : CdrSender) (ocpiActive accepts : Bool) : CdrAttempt :=
  { sender := sender
    context :=
      { ocpiActive := ocpiActive
        oicpActive := !ocpiActive
        buildChargingPeriods := fun transaction => .ok [⟨transaction.timestamp, [7]⟩]
        postOCPI := fun _ => if accepts then .ok () else .error "timeout"
        postOICP := fun _ => if accepts then some true else none } }

/-- A post over OCPI that fails and is made again by the task, and one over OICP. -/
theorem settled_of_run_posted_again :
    ∃ s s' : CdrStore, s.ocpiPosts.map CdrPost.accepted = [false, true] ∧
      s.transaction.ocpiCdr.isSome ∧ s.Settled .ocpi ∧
      s'.oicpPosts.map CdrPost.accepted = [true] ∧ s'.Settled .oicp := by
  let failed := (start (exampleOcpi 7000)).attempt (exampleAttempt .statusNotification true false)
  have first : Transition.guarded (Admits .ocpi) Step (start (exampleOcpi 7000))
      (exampleAttempt .statusNotification true false) failed := ⟨rfl, rfl⟩
  have second : Transition.guarded (Admits .ocpi) Step failed (exampleAttempt .task true true)
      (failed.attempt (exampleAttempt .task true true)) := ⟨rfl, rfl⟩
  have pushed : Transition.guarded (Admits .oicp) Step (start exampleOicp)
      (exampleAttempt .statusNotification false true) _ := ⟨trivial, rfl⟩
  exact ⟨_, _, by decide +kernel, by decide +kernel,
    settled_of_run ⟨⟨rfl, rfl, rfl⟩, rfl⟩ (.snoc (.single first) second), by decide +kernel,
    settled_of_run ⟨⟨rfl, rfl, rfl⟩, rfl⟩ (.single pushed)⟩

/-- A CDR without consumption is stored, and the platform has accepted none. -/
theorem carries_unposted :
    ∃ s : CdrStore, IsUnsent .ocpi (exampleOcpi 0) ∧
      Transition.Run Step (start (exampleOcpi 0)) [exampleAttempt .statusNotification true true] s ∧
      s.transaction.ocpiCdr.isSome ∧ s.ocpiPosts = [] :=
  ⟨(start (exampleOcpi 0)).attempt (exampleAttempt .statusNotification true true),
    ⟨⟨rfl, rfl, rfl⟩, rfl⟩, .single rfl, by decide +kernel, by decide +kernel⟩

end CdrStore

end EvServer
