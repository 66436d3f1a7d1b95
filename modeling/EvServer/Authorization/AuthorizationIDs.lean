import EvServer.Authorization.RoamingChanges

/-!
# Each authorization ID has one session

A start looks for the ID of an Authorize which no transaction has, so that no two transactions
that are stored have the same one, as long as the platform gives a new ID to each start that asks
for one.  An ID may be older than the validity period, since an Authorize takes over the one of a
remote command; and a transaction that is deleted, because nothing was consumed, frees its ID.
-/

namespace EvServer.Authorization

open AccessControl

/-! ## Requests -/

/-- What is processed one at a time: a remote command, an Authorize, a StartTransaction with the ID
that is available, and what other requests write to a transaction. -/
inductive RoamingEvent
  | remoteStart (now : Timestamp) (startSession : OCPIStartSession) (isAvailable : Bool)
  | authorize (now : Timestamp) (platforms : RoamingPlatforms) (chargeBoxID idTag : String)
      (billing : Option User → Except CheckError Unit)
  | startTransaction (now : Timestamp) (platforms : RoamingPlatforms) (chargeBoxID : String)
      (id : ℕ) (startTransaction : OCPPStartTransaction) (answers : OCPPService.StartAnswers)
  | update (id : ℕ) (currentTotalConsumptionWh : ℚ) (stopped : Bool)

/-- What other requests write to a transaction. -/
def TransactionStorage.update (id : ℕ) (currentTotalConsumptionWh : ℚ) (stopped : Bool)
    (store : TenantStore) : TenantStore :=
  { store with
    organization :=
      { store.organization with
        transactions := store.organization.transactions.updateMany
          (fun transaction =>
            if transaction.id = id then
              { transaction with
                currentTotalConsumptionWh := currentTotalConsumptionWh
                stopped := stopped }
            else transaction)
          fun transaction => by
            split <;> rfl } }

section Events

variable (acl : RoleAcl) (definition : AuthorizationDefinition) (tenant : Tenant)

/-- What an event leaves in the store, at a station that is stored and with a new ID for the
transaction. -/
def RoamingEvent.handle (store : TenantStore) : RoamingEvent → Option TenantStore
  | .remoteStart now startSession isAvailable => some
      (CPOCommandsEndpoint.remoteStartSessionRequest now startSession isAvailable store)
  | .authorize now platforms chargeBoxID idTag billing =>
      (store.organization.chargingStations.find chargeBoxID).map fun chargingStation =>
        (OCPPService.handleAuthorize acl definition tenant platforms now chargingStation idTag
          billing store).2
  | .startTransaction now platforms chargeBoxID id starting answers =>
      if (store.organization.transactions.find id).isSome then none
      else
        (store.organization.chargingStations.find chargeBoxID).map fun chargingStation =>
          (OCPPService.handleStartTransaction acl definition tenant platforms now chargingStation id
            starting answers store).2
  | .update id currentTotalConsumptionWh stopped => some
      (TransactionStorage.update id currentTotalConsumptionWh stopped store)

/-- One event after the other. -/
def RoamingStep (store : TenantStore) (event : RoamingEvent) (store' : TenantStore) : Prop :=
  event.handle acl definition tenant store = some store'

end Events

/-! ## Where IDs come from -/

/-- The platform authorizes a token at a station, with an ID. -/
def RoamingPlatforms.Authorizes (platforms : RoamingPlatforms) (uid chargeBoxID id : String) :
    Prop :=
  ∃ post chargingStation connectorId authorizationInfo, platforms.ocpiClient = some post ∧
    chargingStation.id = chargeBoxID ∧
    post uid chargingStation connectorId = .ok (some authorizationInfo) ∧
    authorizationInfo.allowed = .allowed ∧ authorizationInfo.authorization_id = some id

/-- The remote command that a remote authorization has been kept for. -/
def RoamingEvent.Commands (event : RoamingEvent) (chargeBoxID : String)
    (remoteAuthorization : RemoteAuthorization) : Prop :=
  ∃ isAvailable, event = .remoteStart remoteAuthorization.timestamp
    { token := remoteAuthorization.tagId
      chargingStationID := chargeBoxID
      connectorID := remoteAuthorization.connectorId
      authorization_id := remoteAuthorization.id } isAvailable

/-- An ID is new to a StartTransaction when no event before it has named it: neither a command nor
the platform. -/
def RoamingEvent.Names (id : String) : RoamingEvent → Prop
  | .remoteStart _ startSession _ => startSession.authorization_id = id
  | .authorize _ platforms _ _ _ => ∃ uid chargeBoxID, platforms.Authorizes uid chargeBoxID id
  | .startTransaction _ platforms _ _ _ _ =>
      ∃ uid chargeBoxID, platforms.Authorizes uid chargeBoxID id
  | .update _ _ _ => False

/-- The platform gives a StartTransaction an ID which no earlier event has named. -/
def RoamingEvent.GivesNewID (earlier event : RoamingEvent) : Prop :=
  ∀ now platforms chargeBoxID id startTransaction answers,
    event = .startTransaction now platforms chargeBoxID id startTransaction answers →
    ∀ uid station authorizationID, platforms.Authorizes uid station authorizationID →
      ¬ earlier.Names authorizationID

/-- An Authorize of the badge at the station has got the ID for the token: from the platform, or
from a remote command that was still valid. -/
inductive AuthorizedWith (events : List RoamingEvent) (uid chargeBoxID idTag id : String)
    (timestamp : Timestamp) : Prop
  | requested (platforms : RoamingPlatforms) (billing : Option User → Except CheckError Unit)
      (mem : RoamingEvent.authorize timestamp platforms chargeBoxID idTag billing ∈ events)
      (authorizes : platforms.Authorizes uid chargeBoxID id)
  | remoteStart (platforms : RoamingPlatforms) (billing : Option User → Except CheckError Unit)
      (mem : RoamingEvent.authorize timestamp platforms chargeBoxID idTag billing ∈ events)
      (command : RoamingEvent) (commanded : command ∈ events)
      (remoteAuthorization : RemoteAuthorization)
      (commands : command.Commands chargeBoxID remoteAuthorization)
      (valid : remoteAuthorization.IsValidFor timestamp uid) (named : remoteAuthorization.id = id)

/-- The ID of a transaction was requested for the token and the station when it was started, or an
Authorize of its badge at its station has got it, within the validity period before the start. -/
inductive StartedWith (events : List RoamingEvent) (transaction : Transaction)
    (uid id : String) : Prop
  | requested (now : Timestamp) (platforms : RoamingPlatforms)
      (startTransaction : OCPPStartTransaction) (answers : OCPPService.StartAnswers)
      (mem : RoamingEvent.startTransaction now platforms transaction.chargeBoxID transaction.id
        startTransaction answers ∈ events)
      (badge : startTransaction.idTag = transaction.tagID)
      (authorizes : platforms.Authorizes uid transaction.chargeBoxID id)
  | authorized (timestamp : Timestamp)
      (valid : transaction.timestamp - Constants.roamingAuthorizationTimeout ≤ timestamp)
      (authorized : AuthorizedWith events uid transaction.chargeBoxID transaction.tagID id
        timestamp)

/-! ## What an event changes -/

/-- An Authorize that is saved, with an ID of one of the sources when the badge is known. -/
def RoamingEvent.Saves (event : RoamingEvent) (store : TenantStore) (authorize : OCPPAuthorize) :
    Prop :=
  ∃ platforms billing, event = .authorize authorize.timestamp platforms authorize.chargeBoxID
      authorize.tagID billing ∧
    ∀ id, authorize.authorizationId = some id →
      TagStorage.getTag store.organization authorize.tagID = none ∨
        ∃ tag uid chargingStation,
          TagStorage.getTag store.organization authorize.tagID = some tag ∧
          tag.ocpiToken = some uid ∧
          store.organization.chargingStations.find authorize.chargeBoxID = some chargingStation ∧
          Authorizations.OCPIAuthorization platforms authorize.timestamp store chargingStation none
            .authorize uid id

/-- A transaction that is started, with an ID of one of the sources. -/
def RoamingEvent.Starts (event : RoamingEvent) (store : TenantStore) (transaction : Transaction) :
    Prop :=
  ∃ now platforms startTransaction answers, event = .startTransaction now platforms
      transaction.chargeBoxID transaction.id startTransaction answers ∧
    startTransaction.idTag = transaction.tagID ∧
    startTransaction.timestamp = transaction.timestamp ∧
    store.organization.transactions.find transaction.id = none ∧
    ∀ id, transaction.ocpiAuthorizationID = some id → ∃ tag uid chargingStation starting,
      TagStorage.getTag store.organization transaction.tagID = some tag ∧
      tag.ocpiToken = some uid ∧
      store.organization.chargingStations.find transaction.chargeBoxID = some chargingStation ∧
      starting.chargeBoxID = transaction.chargeBoxID ∧ starting.tagID = transaction.tagID ∧
      starting.timestamp = transaction.timestamp ∧
      Authorizations.OCPIAuthorization platforms now store chargingStation (some starting)
        .startTransaction uid id

/-- The transaction before something else was written to it. -/
structure Transaction.Continues (before transaction : Transaction) : Prop where
  id : before.id = transaction.id
  chargeBoxID : before.chargeBoxID = transaction.chargeBoxID
  tagID : before.tagID = transaction.tagID
  timestamp : before.timestamp = transaction.timestamp
  ocpiAuthorizationID : before.ocpiAuthorizationID = transaction.ocpiAuthorizationID

theorem Transaction.Continues.refl (transaction : Transaction) :
    transaction.Continues transaction :=
  ⟨rfl, rfl, rfl, rfl, rfl⟩

/-- What an event changes at most: what is there afterwards was there before, or is its doing. -/
structure RoamingEvent.Effect (event : RoamingEvent) (store store' : TenantStore) : Prop where
  tags : store'.organization.tags = store.organization.tags
  remoteAuthorizations : ∀ chargeBoxID remoteAuthorization,
    store'.HasRemoteAuthorization chargeBoxID remoteAuthorization →
      store.HasRemoteAuthorization chargeBoxID remoteAuthorization ∨
        event.Commands chargeBoxID remoteAuthorization
  authorizes : ∀ authorize ∈ store'.authorizes,
    authorize ∈ store.authorizes ∨ event.Saves store authorize
  transactions : ∀ transaction ∈ store'.organization.transactions.docs,
    (∃ before ∈ store.organization.transactions.docs, before.Continues transaction) ∨
      event.Starts store transaction

theorem mem_putRemoteAuthorization {added remoteAuthorization : RemoteAuthorization}
    {remoteAuthorizations : List RemoteAuthorization}
    (h : remoteAuthorization ∈ putRemoteAuthorization added remoteAuthorizations) :
    remoteAuthorization = added ∨ remoteAuthorization ∈ remoteAuthorizations := by
  induction remoteAuthorizations with
  | nil => exact .inl (List.mem_singleton.mp h)
  | cons existing rest ih =>
      rw [putRemoteAuthorization] at h
      split at h <;> rcases List.mem_cons.mp h with rfl | mem
      · exact .inl rfl
      · exact .inr (List.mem_cons_of_mem _ mem)
      · exact .inr List.mem_cons_self
      · exact (ih mem).imp_right (List.mem_cons_of_mem _)

namespace RoamingEvent.Effect

variable {acl : RoleAcl} {definition : AuthorizationDefinition} {tenant : Tenant}
  {event : RoamingEvent} {store store' : TenantStore}

/-- Nothing but remote authorizations, and none that is new. -/
theorem of_keeps {chargingStation : ChargingStation}
    (stored : chargingStation ∈ store.organization.chargingStations.docs)
    (kept : Keeps chargingStation store store') : event.Effect store store' where
  tags := kept.tags
  remoteAuthorizations := by
    intro chargeBoxID remoteAuthorization has
    obtain before | ⟨rfl, handed⟩ := kept.remoteAuthorizations chargeBoxID remoteAuthorization has
    · exact .inl before
    · exact .inl ⟨chargingStation, stored, rfl, handed⟩
  authorizes := fun authorize mem => .inl (kept.authorizes ▸ mem)
  transactions := fun transaction mem => .inl ⟨transaction, kept.transactions ▸ mem, .refl _⟩

theorem remoteStart (now : Timestamp) (startSession : OCPIStartSession) (isAvailable : Bool) :
    (RoamingEvent.remoteStart now startSession isAvailable).Effect store
      (CPOCommandsEndpoint.remoteStartSessionRequest now startSession isAvailable store) := by
  have unchanged : ∀ {event : RoamingEvent}, event.Effect store store :=
    ⟨rfl, fun _ _ => .inl, fun _ => .inl, fun transaction mem =>
      .inl ⟨transaction, mem, .refl transaction⟩⟩
  simp only [CPOCommandsEndpoint.remoteStartSessionRequest]
  split
  · rename_i chargingStation _ _ found
    split
    · exact unchanged
    · refine ⟨rfl, fun chargeBoxID remoteAuthorization has => ?_, fun _ => .inl,
        fun transaction mem => .inl ⟨transaction, mem, .refl transaction⟩⟩
      obtain ⟨rfl, put⟩ | before := hasRemoteAuthorization_save has
      · obtain rfl | mem := mem_putRemoteAuthorization put
        · have named := Collection.key_of_find found
          exact .inr ⟨isAvailable, by rw [named]⟩
        · exact .inl ⟨chargingStation, Collection.mem_of_find found, rfl, mem⟩
      · exact .inl before
  · exact unchanged

theorem authorize {now : Timestamp} {platforms : RoamingPlatforms} {chargeBoxID idTag : String}
    {billing : Option User → Except CheckError Unit} {chargingStation : ChargingStation}
    (found : store.organization.chargingStations.find chargeBoxID = some chargingStation) :
    (RoamingEvent.authorize now platforms chargeBoxID idTag billing).Effect store
      (OCPPService.handleAuthorize acl definition tenant platforms now chargingStation idTag billing
        store).2 := by
  have stored := Collection.mem_of_find found
  have named := Collection.key_of_find found
  obtain ⟨checked, kept, same | ⟨authorizationId, userID, same, sources⟩⟩ :=
    handleAuthorize_cases acl definition tenant platforms now chargingStation store idTag billing
  · rw [same]
    exact of_keeps stored kept
  · rw [same]
    have effect : (RoamingEvent.authorize now platforms chargeBoxID idTag billing).Effect store
        checked := of_keeps stored kept
    refine ⟨effect.tags, effect.remoteAuthorizations, fun authorize mem => ?_, effect.transactions⟩
    obtain mem | mem := List.mem_append.mp mem
    · exact effect.authorizes authorize mem
    · obtain rfl := List.mem_singleton.mp mem
      refine .inr ⟨platforms, billing, by rw [named], fun id saved => ?_⟩
      refine (sources id saved).imp_right ?_
      rintro ⟨tag, uid, isTag, token, source⟩
      exact ⟨tag, uid, chargingStation, isTag, token, named.symm ▸ found, source⟩

theorem startTransaction {now : Timestamp} {platforms : RoamingPlatforms} {chargeBoxID : String}
    {id : ℕ} {starting : OCPPStartTransaction} {answers : OCPPService.StartAnswers}
    {chargingStation : ChargingStation}
    (found : store.organization.chargingStations.find chargeBoxID = some chargingStation)
    (new : store.organization.transactions.find id = none) :
    (RoamingEvent.startTransaction now platforms chargeBoxID id starting answers).Effect store
      (OCPPService.handleStartTransaction acl definition tenant platforms now chargingStation id
        starting answers store).2 := by
  have stored := Collection.mem_of_find found
  have named := Collection.key_of_find found
  obtain ⟨checked, kept, cases⟩ := handleStartTransaction_cases acl definition tenant platforms now
    chargingStation store id starting answers rfl
  obtain ⟨transactions, deleted, existing⟩ :=
    processExistingTransaction_eq chargingStation starting.connectorId checked
  have effect : (RoamingEvent.startTransaction now platforms chargeBoxID id starting answers).Effect
      store checked := of_keeps stored kept
  rcases cases with same | same | ⟨userID, oicpSessionID, ocpiAuthorizationID, same, sources⟩
  · rw [same]
    exact effect
  · rw [same, existing]
    exact ⟨effect.tags, effect.remoteAuthorizations, effect.authorizes, fun transaction mem =>
      effect.transactions transaction (deleted mem)⟩
  · rw [same, existing]
    refine ⟨effect.tags, effect.remoteAuthorizations, effect.authorizes, fun transaction mem => ?_⟩
    obtain rfl | mem := Collection.mem_save mem
    · refine .inr ⟨now, platforms, starting, answers, by rw [← named]; rfl, rfl, rfl, new, ?_⟩
      intro authorizationID attached
      obtain ⟨tag, uid, isTag, token, source⟩ := sources authorizationID attached
      refine ⟨tag, uid, chargingStation,
        OCPPService.createTransaction tenant chargingStation id starting, isTag, token, ?_, rfl,
        rfl, rfl, source⟩
      change store.organization.chargingStations.find chargingStation.id = some chargingStation
      rw [named]
      exact found
    · exact effect.transactions transaction (deleted mem)

theorem update (id : ℕ) (currentTotalConsumptionWh : ℚ) (stopped : Bool) :
    (RoamingEvent.update id currentTotalConsumptionWh stopped).Effect store
      (TransactionStorage.update id currentTotalConsumptionWh stopped store) := by
  refine ⟨rfl, fun _ _ => .inl, fun _ => .inl, fun transaction mem => ?_⟩
  obtain ⟨before, stored, rfl⟩ := List.mem_map.mp mem
  refine .inl ⟨before, stored, ?_⟩
  split
  · exact ⟨rfl, rfl, rfl, rfl, rfl⟩
  · exact .refl before

/-- **What a step can do.** -/
theorem of_step (step : RoamingStep acl definition tenant store event store') :
    event.Effect store store' := by
  rw [RoamingStep] at step
  cases event with
  | remoteStart now startSession isAvailable =>
      obtain rfl := Option.some.inj step
      exact remoteStart now startSession isAvailable
  | authorize now platforms chargeBoxID idTag billing =>
      obtain ⟨chargingStation, found, rfl⟩ := Option.map_eq_some_iff.mp step
      exact authorize found
  | startTransaction now platforms chargeBoxID id starting answers =>
      rw [RoamingEvent.handle] at step
      split at step
      · cases step
      · rename_i new
        obtain ⟨chargingStation, found, rfl⟩ := Option.map_eq_some_iff.mp step
        exact startTransaction found (by simpa using new)
  | update id currentTotalConsumptionWh stopped =>
      obtain rfl := Option.some.inj step
      exact update id currentTotalConsumptionWh stopped

end RoamingEvent.Effect

/-! ## The invariant -/

/-- What holds of the store after some events. -/
structure Consistent (events : List RoamingEvent) (store : TenantStore) : Prop where
  /-- A remote authorization is kept for a command. -/
  remoteAuthorizations : ∀ chargeBoxID remoteAuthorization,
    store.HasRemoteAuthorization chargeBoxID remoteAuthorization →
      ∃ command ∈ events, command.Commands chargeBoxID remoteAuthorization
  /-- An Authorize of a known badge has an ID for its token. -/
  authorizes : ∀ authorize ∈ store.authorizes, ∀ id, authorize.authorizationId = some id →
    TagStorage.getTag store.organization authorize.tagID = none ∨
      ∃ tag uid, TagStorage.getTag store.organization authorize.tagID = some tag ∧
        tag.ocpiToken = some uid ∧
        AuthorizedWith events uid authorize.chargeBoxID authorize.tagID id authorize.timestamp
  /-- The ID of a session was given for the token of its badge. -/
  sessions : ∀ transaction ∈ store.organization.transactions.docs, ∀ id,
    transaction.ocpiAuthorizationID = some id →
      ∃ tag uid, TagStorage.getTag store.organization transaction.tagID = some tag ∧
        tag.ocpiToken = some uid ∧ StartedWith events transaction uid id
  /-- No two transactions have one ID. -/
  unique : ∀ transaction ∈ store.organization.transactions.docs,
    ∀ transaction' ∈ store.organization.transactions.docs, ∀ id,
    transaction.ocpiAuthorizationID = some id → transaction'.ocpiAuthorizationID = some id →
      transaction = transaction'

section Sources

variable {events events' : List RoamingEvent} {uid chargeBoxID idTag id : String}
  {timestamp : Timestamp} {transaction transaction' : Transaction}

theorem AuthorizedWith.mono (h : AuthorizedWith events uid chargeBoxID idTag id timestamp)
    (sub : events ⊆ events') : AuthorizedWith events' uid chargeBoxID idTag id timestamp := by
  cases h with
  | requested platforms billing mem authorizes =>
      exact .requested platforms billing (sub mem) authorizes
  | remoteStart platforms billing mem command commanded remoteAuthorization commands valid named =>
      exact .remoteStart platforms billing (sub mem) command (sub commanded) remoteAuthorization
        commands valid named

theorem StartedWith.mono (h : StartedWith events transaction uid id) (sub : events ⊆ events') :
    StartedWith events' transaction uid id := by
  cases h with
  | requested now platforms starting answers mem badge authorizes =>
      exact .requested now platforms starting answers (sub mem) badge authorizes
  | authorized timestamp valid authorized =>
      exact .authorized timestamp valid (authorized.mono sub)

theorem StartedWith.continues (h : StartedWith events transaction uid id)
    (continues : transaction.Continues transaction') : StartedWith events transaction' uid id := by
  cases h with
  | requested now platforms starting answers mem badge authorizes =>
      rw [continues.chargeBoxID, continues.id] at mem
      rw [continues.chargeBoxID] at authorizes
      exact .requested now platforms starting answers mem (badge.trans continues.tagID) authorizes
  | authorized timestamp valid authorized =>
      rw [continues.timestamp] at valid
      rw [continues.chargeBoxID, continues.tagID] at authorized
      exact .authorized timestamp valid authorized

/-- An ID that a session has was named by an event. -/
theorem StartedWith.names (h : StartedWith events transaction uid id) :
    ∃ event ∈ events, event.Names id := by
  cases h with
  | requested now platforms starting answers mem badge authorizes =>
      exact ⟨_, mem, uid, transaction.chargeBoxID, authorizes⟩
  | authorized timestamp valid authorized =>
      cases authorized with
      | requested platforms billing mem authorizes =>
          exact ⟨_, mem, uid, transaction.chargeBoxID, authorizes⟩
      | remoteStart platforms billing mem command commanded remoteAuthorization commands valid
          named =>
          obtain ⟨isAvailable, rfl⟩ := commands
          exact ⟨_, commanded, named⟩

end Sources

/-- The lookup of an ID finds the transaction that has it, as long as there is only one. -/
theorem not_attached_of_unused {organization : Organization} {id : String}
    (unique : ∀ transaction ∈ organization.transactions.docs,
      ∀ transaction' ∈ organization.transactions.docs, ∀ id,
      transaction.ocpiAuthorizationID = some id → transaction'.ocpiAuthorizationID = some id →
        transaction = transaction')
    (unused : TransactionStorage.getOCPITransactionByAuthorizationID organization id = none) :
    ∀ transaction ∈ organization.transactions.docs, transaction.ocpiAuthorizationID ≠ some id := by
  intro transaction stored attached
  have found : (organization.transactions.docs.filter fun transaction =>
      transaction.ocpiAuthorizationID = some id) =
      organization.transactions.docs.filter fun other => other.id = transaction.id := by
    refine List.filter_congr fun other mem => ?_
    rw [decide_eq_decide]
    constructor
    · intro same
      rw [unique other mem transaction stored id same attached]
    · intro same
      rw [Collection.eq_of_key_eq mem stored same]
      exact attached
  rw [TransactionStorage.getOCPITransactionByAuthorizationID, found,
    Collection.filter_key_eq (Collection.find_of_mem stored)] at unused
  cases unused

namespace Consistent

variable {acl : RoleAcl} {definition : AuthorizationDefinition} {tenant : Tenant}
  {events : List RoamingEvent} {event : RoamingEvent} {store store' : TenantStore}

/-- The ID of an Authorize comes from a command that is kept, or from the platform. -/
theorem authorizedWith (h : Consistent events store) {authorize : OCPPAuthorize}
    (saves : event.Saves store authorize) {id : String}
    (named : authorize.authorizationId = some id) :
    TagStorage.getTag store.organization authorize.tagID = none ∨
      ∃ tag uid, TagStorage.getTag store.organization authorize.tagID = some tag ∧
        tag.ocpiToken = some uid ∧
        AuthorizedWith (events ++ [event]) uid authorize.chargeBoxID authorize.tagID id
          authorize.timestamp := by
  obtain ⟨platforms, billing, rfl, sources⟩ := saves
  refine (sources id named).imp_right ?_
  rintro ⟨tag, uid, chargingStation, isTag, token, found, source⟩
  have mem : RoamingEvent.authorize authorize.timestamp platforms authorize.chargeBoxID
      authorize.tagID billing ∈ events ++ [RoamingEvent.authorize authorize.timestamp platforms
        authorize.chargeBoxID authorize.tagID billing] :=
    List.mem_append_right _ (List.mem_singleton_self _)
  refine ⟨tag, uid, isTag, token, ?_⟩
  cases source with
  | remoteStart remoteAuthorization _ stored valid named =>
      obtain ⟨command, commanded, commands⟩ :=
        h.remoteAuthorizations authorize.chargeBoxID remoteAuthorization
          ⟨chargingStation, Collection.mem_of_find found, Collection.key_of_find found, stored⟩
      exact .remoteStart platforms billing mem command (List.mem_append_left _ commanded)
        remoteAuthorization commands valid named
  | authorize _ _ action => cases action
  | requested post connectorId authorizationInfo client answer allowed named =>
      exact .requested platforms billing mem ⟨post, chargingStation, connectorId, authorizationInfo,
        client, Collection.key_of_find found, answer, allowed, named⟩

/-- The ID of a transaction that is started comes from an Authorize and is not used, or it comes
from the platform and is new. -/
theorem startedWith (h : Consistent events store) {transaction : Transaction}
    (starts : event.Starts store transaction) (newID : ∀ earlier ∈ events, earlier.GivesNewID event)
    {id : String} (attached : transaction.ocpiAuthorizationID = some id) :
    (∃ tag uid, TagStorage.getTag store.organization transaction.tagID = some tag ∧
      tag.ocpiToken = some uid ∧ StartedWith (events ++ [event]) transaction uid id) ∧
    ∀ other ∈ store.organization.transactions.docs, other.ocpiAuthorizationID ≠ some id := by
  obtain ⟨now, platforms, startTransaction, answers, rfl, badge, timestamp, -, sources⟩ := starts
  obtain ⟨tag, uid, chargingStation, starting, isTag, token, found, sameStation, sameBadge,
    sameTime, source⟩ := sources id attached
  cases source with
  | remoteStart _ action => cases action
  | authorize starting' authorize _ same stored station badge' valid named unused =>
      cases same
      rw [← Collection.key_of_find found] at sameStation
      have ofStation := station (sameStation ▸ chargingStation.ne_id.symm)
      have ofBadge := badge' (sameBadge ▸ badge ▸ startTransaction.ne_idTag.symm)
      rw [sameStation, Collection.key_of_find found] at ofStation
      rw [sameBadge] at ofBadge
      rw [sameTime] at valid
      obtain unknown | ⟨tag', uid', isTag', token', authorized⟩ :=
        h.authorizes authorize stored id named
      · rw [ofBadge, isTag] at unknown
        cases unknown
      · rw [ofBadge, isTag] at isTag'
        cases isTag'
        rw [token] at token'
        cases token'
        rw [ofStation, ofBadge] at authorized
        exact ⟨⟨tag, uid, isTag, token, .authorized authorize.timestamp valid
          (authorized.mono (List.subset_append_left _ _))⟩, not_attached_of_unused h.unique unused⟩
  | requested post connectorId authorizationInfo client answer allowed named =>
      have authorizes : platforms.Authorizes uid transaction.chargeBoxID id :=
        ⟨post, chargingStation, connectorId, authorizationInfo, client,
          Collection.key_of_find found, answer, allowed, named⟩
      refine ⟨⟨tag, uid, isTag, token, .requested now platforms startTransaction answers
        (List.mem_append_right _ (List.mem_singleton_self _)) badge authorizes⟩, ?_⟩
      intro other stored attached
      obtain ⟨_, _, _, _, started⟩ := h.sessions other stored id attached
      obtain ⟨earlier, mem, names⟩ := started.names
      exact newID earlier mem _ _ _ _ _ _ rfl uid transaction.chargeBoxID id authorizes names

/-- **What one event preserves.** -/
theorem step (h : Consistent events store) (effect : event.Effect store store')
    (newID : ∀ earlier ∈ events, earlier.GivesNewID event) :
    Consistent (events ++ [event]) store' := by
  have getTag : ∀ tagID, TagStorage.getTag store'.organization tagID =
      TagStorage.getTag store.organization tagID := by
    intro tagID
    rw [TagStorage.getTag, TagStorage.getTag, effect.tags]
  have earlier : events ⊆ events ++ [event] := List.subset_append_left _ _
  constructor
  · intro chargeBoxID remoteAuthorization has
    obtain before | commands := effect.remoteAuthorizations chargeBoxID remoteAuthorization has
    · obtain ⟨command, mem, commands⟩ :=
        h.remoteAuthorizations chargeBoxID remoteAuthorization before
      exact ⟨command, earlier mem, commands⟩
    · exact ⟨event, List.mem_append_right _ (List.mem_singleton_self _), commands⟩
  · intro authorize mem id named
    simp only [getTag]
    obtain before | saves := effect.authorizes authorize mem
    · refine (h.authorizes authorize before id named).imp_right ?_
      rintro ⟨tag, uid, isTag, token, authorized⟩
      exact ⟨tag, uid, isTag, token, authorized.mono earlier⟩
    · exact h.authorizedWith saves named
  · intro transaction mem id attached
    simp only [getTag]
    obtain ⟨before, stored, continues⟩ | starts := effect.transactions transaction mem
    · rw [← continues.ocpiAuthorizationID] at attached
      obtain ⟨tag, uid, isTag, token, started⟩ := h.sessions before stored id attached
      rw [continues.tagID] at isTag
      exact ⟨tag, uid, isTag, token, (started.continues continues).mono earlier⟩
    · exact (h.startedWith starts newID attached).1
  · intro transaction mem transaction' mem' id attached attached'
    refine Collection.eq_of_key_eq mem mem' ?_
    obtain ⟨before, stored, continues⟩ | starts := effect.transactions transaction mem <;>
      obtain ⟨before', stored', continues'⟩ | starts' := effect.transactions transaction' mem'
    · rw [← continues.ocpiAuthorizationID] at attached
      rw [← continues'.ocpiAuthorizationID] at attached'
      rw [← continues.id, ← continues'.id,
        h.unique before stored before' stored' id attached attached']
    · rw [← continues.ocpiAuthorizationID] at attached
      exact absurd attached ((h.startedWith starts' newID attached').2 before stored)
    · rw [← continues'.ocpiAuthorizationID] at attached'
      exact absurd attached' ((h.startedWith starts newID attached).2 before' stored')
    · obtain ⟨_, _, _, _, same, _⟩ := starts
      obtain ⟨_, _, _, _, same', _⟩ := starts'
      injection same.symm.trans same' with _ _ _ sameID

end Consistent

/-- An organisation in which no ID has been given yet. -/
structure Organization.HasNoIDs (organization : Organization) : Prop where
  remoteAuthorizations : ∀ chargingStation ∈ organization.chargingStations.docs,
    chargingStation.remoteAuthorizations = []
  sessions : ∀ transaction ∈ organization.transactions.docs, transaction.ocpiAuthorizationID = none

/-- **What a run preserves.** -/
theorem consistent_of_run {acl : RoleAcl} {definition : AuthorizationDefinition} {tenant : Tenant}
    {organization : Organization} {events : List RoamingEvent} {store : TenantStore}
    (noIDs : organization.HasNoIDs)
    (run : Transition.Run (RoamingStep acl definition tenant) ⟨organization, []⟩ events store)
    (newIDs : events.Pairwise RoamingEvent.GivesNewID) : Consistent events store := by
  induction run with
  | refl =>
      refine ⟨?_, fun _ mem => (List.not_mem_nil mem).elim, ?_, ?_⟩
      · rintro chargeBoxID remoteAuthorization ⟨chargingStation, stored, _, has⟩
        rw [noIDs.remoteAuthorizations chargingStation stored] at has
        cases has
      · intro transaction stored id attached
        rw [noIDs.sessions transaction stored] at attached
        cases attached
      · intro transaction stored _ _ id attached
        rw [noIDs.sessions transaction stored] at attached
        cases attached
  | snoc _ step ih =>
      rw [List.pairwise_append] at newIDs
      obtain ⟨earlier, _, last⟩ := newIDs
      exact (ih earlier).step (.of_step step) fun event mem =>
        last event mem _ (List.mem_singleton_self _)

/-- **No two transactions have one authorization ID**, and it was given for the token of the badge
and the station: when the transaction was started, or to an Authorize within the validity period
before the start, which may have got it from a remote command within that period before. -/
theorem authorizationIDs_of_run (acl : RoleAcl) (definition : AuthorizationDefinition)
    (tenant : Tenant) {organization : Organization} {events : List RoamingEvent}
    {store : TenantStore} (noIDs : organization.HasNoIDs)
    (run : Transition.Run (RoamingStep acl definition tenant) ⟨organization, []⟩ events store)
    (newIDs : events.Pairwise RoamingEvent.GivesNewID) :
    (∀ transaction ∈ store.organization.transactions.docs,
      ∀ transaction' ∈ store.organization.transactions.docs, ∀ id,
      transaction.ocpiAuthorizationID = some id → transaction'.ocpiAuthorizationID = some id →
        transaction = transaction') ∧
    ∀ transaction ∈ store.organization.transactions.docs, ∀ id,
      transaction.ocpiAuthorizationID = some id →
        ∃ tag uid, TagStorage.getTag store.organization transaction.tagID = some tag ∧
          tag.ocpiToken = some uid ∧ StartedWith events transaction uid id := by
  have consistent := consistent_of_run noIDs run newIDs
  exact ⟨consistent.unique, consistent.sessions⟩

/-! ## Two runs -/

/-- A tenant with sites that takes part in roaming. -/
def roamingTenant : Tenant where
  components := [(.organization, true), (.ocpi, true)]

/-- A public station with two connectors. -/
def quayStation : ChargingStation where
  id := "cs5"
  isPublic := true
  siteID := some "port"
  siteAreaID := some "quay"
  connectorIDs := [1, 2]

/-- A site with the station, and two users of other operators. -/
def harbour : Organization where
  tags := ⟨[{ id := "tagJ", issuer := false, userID := some "jonas", ocpiToken := some "tagJ" },
    { id := "tagK", issuer := false, userID := some "karla", ocpiToken := some "tagK" }], by decide⟩
  chargingStations := ⟨[quayStation], by decide⟩
  sites := ⟨[{ id := "port" }], by decide⟩
  siteAreas := ⟨[{ id := "quay", siteID := some "port" }], by decide⟩
  users := ⟨[{ id := "jonas", issuer := false, role := .basic },
    { id := "karla", issuer := false, role := .basic }], by decide⟩

/-- A platform that authorizes nobody. -/
def refusingPlatforms : RoamingPlatforms where
  ocpiClient := some fun _ _ _ => .error .typeError

theorem not_authorizes_refusing {uid chargeBoxID id : String} :
    ¬ refusingPlatforms.Authorizes uid chargeBoxID id := by
  rintro ⟨post, _, _, _, client, _, answer, _⟩
  cases client
  cases answer

/-- An Authorize takes over the ID of a command, and a start that of the Authorize. -/
def commandedStart : List RoamingEvent :=
  [.remoteStart 0 ⟨"tagJ", "cs5", 1, "auth1"⟩ true,
    .authorize 100000 refusingPlatforms "cs5" "tagJ" fun _ => .ok (),
    .startTransaction 200000 refusingPlatforms "cs5" 1
      { connectorId := 1, idTag := "tagJ", timestamp := 200000 } {}]

/-- The other badge starts at the connector, and then the first one again. -/
def laterStarts : List RoamingEvent :=
  [.remoteStart 200000 ⟨"tagK", "cs5", 2, "auth2"⟩ true,
    .authorize 200000 refusingPlatforms "cs5" "tagK" fun _ => .ok (),
    .startTransaction 201000 refusingPlatforms "cs5" 2
      { connectorId := 1, idTag := "tagK", timestamp := 201000 } {},
    .startTransaction 202000 refusingPlatforms "cs5" 3
      { connectorId := 1, idTag := "tagJ", timestamp := 202000 } {}]

/-- The events of the two runs ask the platform that authorizes nobody. -/
theorem givesNewID_refusing :
    (commandedStart ++ laterStarts).Pairwise RoamingEvent.GivesNewID := by
  refine List.pairwise_of_forall_mem_list ?_
  rintro earlier - event mem now platforms chargeBoxID id starting answers rfl uid station
    authorizationID authorizes
  have refusing : platforms = refusingPlatforms := by
    simp only [commandedStart, laterStarts, List.cons_append, List.nil_append, List.mem_cons,
      List.not_mem_nil, RoamingEvent.startTransaction.injEq, reduceCtorEq, false_or, or_false]
      at mem
    rcases mem with ⟨-, same, -⟩ | ⟨-, same, -⟩ | ⟨-, same, -⟩ <;> exact same
  rw [refusing] at authorizes
  exact absurd authorizes not_authorizes_refusing

/-- The store after some events. -/
def handleAll (store : TenantStore) (events : List RoamingEvent) : Option TenantStore :=
  Transition.follow
    (RoamingEvent.handle (Library.inOrder conditions) AUTHORIZATION_DEFINITION roamingTenant)
    (fun _ _ _ => True) store events

theorem run_of_handleAll {store store' : TenantStore} {events : List RoamingEvent}
    (h : handleAll store events = some store') :
    Transition.Run
      (RoamingStep (Library.inOrder conditions) AUTHORIZATION_DEFINITION roamingTenant) store events
      store' :=
  .of_follow (fun _ _ _ handled _ => handled) h

/-- The transaction that a command has started. -/
def commandedTransaction : Transaction where
  id := 1
  tagID := "tagJ"
  userID := some "jonas"
  chargeBoxID := "cs5"
  siteID := some "port"
  siteAreaID := some "quay"
  timestamp := 200000
  ocpiAuthorizationID := some "auth1"

/-- The one that is started when the ID is free again. -/
def laterTransaction : Transaction where
  id := 3
  tagID := "tagJ"
  userID := some "jonas"
  chargeBoxID := "cs5"
  siteID := some "port"
  siteAreaID := some "quay"
  timestamp := 202000
  ocpiAuthorizationID := some "auth1"

theorem handleAll_runs :
    ∃ store store', handleAll ⟨harbour, []⟩ commandedStart = some store ∧
      store.organization.transactions.docs = [commandedTransaction] ∧
      handleAll store laterStarts = some store' ∧
      store'.organization.transactions.docs = [laterTransaction] := by
  have ran : ((handleAll ⟨harbour, []⟩ commandedStart).bind fun store =>
      (handleAll store laterStarts).map fun store' =>
        (store.organization.transactions.docs, store'.organization.transactions.docs)) =
      some ([commandedTransaction], [laterTransaction]) := by
    decide +kernel
  obtain ⟨store, handled, ran⟩ := Option.bind_eq_some_iff.mp ran
  obtain ⟨store', handled', same⟩ := Option.map_eq_some_iff.mp ran
  obtain ⟨transactions, transactions'⟩ := Prod.mk.inj same
  exact ⟨store, store', handled, transactions, handled', transactions'⟩

theorem hasNoIDs_harbour : harbour.HasNoIDs where
  remoteAuthorizations := by
    simp [harbour, quayStation]
  sessions := by
    simp [harbour, Collection.empty]

/-- A transaction has the ID of the command. -/
theorem authorizationIDs_of_commandedStart :
    ∃ store : TenantStore, commandedTransaction ∈ store.organization.transactions.docs ∧
      (∀ transaction ∈ store.organization.transactions.docs,
        ∀ transaction' ∈ store.organization.transactions.docs, ∀ id,
        transaction.ocpiAuthorizationID = some id → transaction'.ocpiAuthorizationID = some id →
          transaction = transaction') ∧
      ∀ transaction ∈ store.organization.transactions.docs, ∀ id,
        transaction.ocpiAuthorizationID = some id →
          ∃ tag uid, TagStorage.getTag store.organization transaction.tagID = some tag ∧
            tag.ocpiToken = some uid ∧ StartedWith commandedStart transaction uid id := by
  obtain ⟨store, _, handled, transactions, _⟩ := handleAll_runs
  obtain ⟨newIDs, _, _⟩ := List.pairwise_append.mp givesNewID_refusing
  refine ⟨store, by rw [transactions]; exact List.mem_singleton_self _, ?_⟩
  exact authorizationIDs_of_run (Library.inOrder conditions) AUTHORIZATION_DEFINITION roamingTenant
    hasNoIDs_harbour (run_of_handleAll handled) newIDs

/-- The ID of the transaction was given longer ago than the validity period, and it is attached to
another transaction once the first one has been deleted. -/
theorem authorizationID_old_and_reused :
    ∃ store store',
      Transition.Run
        (RoamingStep (Library.inOrder conditions) AUTHORIZATION_DEFINITION roamingTenant)
        ⟨harbour, []⟩ commandedStart store ∧
      Transition.Run
        (RoamingStep (Library.inOrder conditions) AUTHORIZATION_DEFINITION roamingTenant)
        store laterStarts store' ∧
      (commandedStart ++ laterStarts).Pairwise RoamingEvent.GivesNewID ∧
      commandedTransaction ∈ store.organization.transactions.docs ∧
      commandedTransaction.ocpiAuthorizationID = some "auth1" ∧
      (∀ event ∈ commandedStart, event.Names "auth1" →
        ∃ now startSession isAvailable, event = .remoteStart now startSession isAvailable ∧
          now < commandedTransaction.timestamp - Constants.roamingAuthorizationTimeout) ∧
      laterTransaction ∈ store'.organization.transactions.docs ∧
      laterTransaction.id ≠ commandedTransaction.id ∧
      laterTransaction.ocpiAuthorizationID = some "auth1" := by
  obtain ⟨store, store', handled, transactions, handled', transactions'⟩ := handleAll_runs
  refine ⟨store, store', run_of_handleAll handled, run_of_handleAll handled', givesNewID_refusing,
    by rw [transactions]; exact List.mem_singleton_self _, rfl, ?_,
    by rw [transactions']; exact List.mem_singleton_self _, by decide, rfl⟩
  intro event mem names
  simp only [commandedStart, List.mem_cons, List.not_mem_nil, or_false] at mem
  rcases mem with rfl | rfl | rfl
  · exact ⟨0, _, true, rfl, by decide⟩
  · obtain ⟨uid, chargeBoxID, authorizes⟩ := names
    exact absurd authorizes not_authorizes_refusing
  · obtain ⟨uid, chargeBoxID, authorizes⟩ := names
    exact absurd authorizes not_authorizes_refusing

end EvServer.Authorization
