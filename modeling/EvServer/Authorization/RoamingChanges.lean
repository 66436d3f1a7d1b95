import EvServer.Authorization.RoamingStart

/-!
# What the requests of roaming users change

A check removes remote authorizations that have expired, and nothing else.  An Authorize saves the
badge with the authorization ID that the check has found, and a start saves its transaction, to
which the ID is attached; both lemmas say so for every outcome, since what is written before a
request fails stays.
-/

namespace EvServer.Authorization

open AccessControl

/-! ## What a check changes -/

/-- The station has a remote authorization. -/
def TenantStore.HasRemoteAuthorization (store : TenantStore) (chargeBoxID : String)
    (remoteAuthorization : RemoteAuthorization) : Prop :=
  ∃ chargingStation ∈ store.organization.chargingStations.docs,
    chargingStation.id = chargeBoxID ∧ remoteAuthorization ∈ chargingStation.remoteAuthorizations

/-- No remote authorization is new, but those the station was handed over with; nothing else is
changed that IDs depend on. -/
structure Keeps (chargingStation : ChargingStation) (store store' : TenantStore) : Prop where
  authorizes : store'.authorizes = store.authorizes
  transactions : store'.organization.transactions = store.organization.transactions
  tags : store'.organization.tags = store.organization.tags
  siteAreas : store'.organization.siteAreas = store.organization.siteAreas
  remoteAuthorizations : ∀ chargeBoxID remoteAuthorization,
    store'.HasRemoteAuthorization chargeBoxID remoteAuthorization →
      store.HasRemoteAuthorization chargeBoxID remoteAuthorization ∨
        chargeBoxID = chargingStation.id ∧
          remoteAuthorization ∈ chargingStation.remoteAuthorizations

namespace Keeps

variable {chargingStation : ChargingStation}

theorem refl (store : TenantStore) : Keeps chargingStation store store :=
  ⟨rfl, rfl, rfl, rfl, fun _ _ => .inl⟩

theorem trans {store store' store'' : TenantStore} (h : Keeps chargingStation store store')
    (h' : Keeps chargingStation store' store'') : Keeps chargingStation store store'' where
  authorizes := h'.authorizes.trans h.authorizes
  transactions := h'.transactions.trans h.transactions
  tags := h'.tags.trans h.tags
  siteAreas := h'.siteAreas.trans h.siteAreas
  remoteAuthorizations := by
    intro chargeBoxID remoteAuthorization has
    obtain before | handed := h'.remoteAuthorizations chargeBoxID remoteAuthorization has
    · exact h.remoteAuthorizations chargeBoxID remoteAuthorization before
    · exact .inr handed

theorem siteArea_eq {store store' : TenantStore} (h : Keeps chargingStation store store') :
    chargingStation.siteArea store'.organization = chargingStation.siteArea store.organization := by
  rw [ChargingStation.siteArea, ChargingStation.siteArea, h.siteAreas]

end Keeps

/-- Of the stations the one that is named gets other remote authorizations. -/
theorem hasRemoteAuthorization_save {id chargeBoxID : String} {store : TenantStore}
    {remoteAuthorization : RemoteAuthorization} {remoteAuthorizations : List RemoteAuthorization}
    (h : (ChargingStationStorage.saveChargingStationRemoteAuthorizations id remoteAuthorizations
      store).HasRemoteAuthorization chargeBoxID remoteAuthorization) :
    chargeBoxID = id ∧ remoteAuthorization ∈ remoteAuthorizations ∨
      store.HasRemoteAuthorization chargeBoxID remoteAuthorization := by
  obtain ⟨chargingStation, written, named, has⟩ := h
  obtain ⟨before, stored, rfl⟩ := List.mem_map.mp written
  split at named
  · rename_i same
    rw [if_pos same] at has
    exact .inl ⟨named.symm.trans same, has⟩
  · rename_i other
    rw [if_neg other] at has
    exact .inr ⟨before, stored, named, has⟩

section Checks

variable {acl : RoleAcl} {definition : AuthorizationDefinition} {tenant : Tenant}
  {platforms : RoamingPlatforms} {now : Timestamp} {chargingStation : ChargingStation}
  {transaction : Option Transaction}

theorem keeps_fromIOPRemoteStartTransaction (connector : Option ℕ) (uid : String) :
    Handler.Changes (Keeps chargingStation)
      (Authorizations.checkAndGetOCPIAuthorizationIDFromIOPRemoteStartTransaction now
        chargingStation connector uid) := by
  rw [Authorizations.checkAndGetOCPIAuthorizationIDFromIOPRemoteStartTransaction]
  rcases spec : Authorizations.findRemoteAuthorization now uid
    chargingStation.remoteAuthorizations.reverse with ⟨found, kept⟩
  obtain ⟨_, isKept⟩ := Authorizations.findRemoteAuthorization_spec spec
  refine (Handler.changes_ofExcept Keeps.refl _).bind Keeps.trans fun _ _ _ _ => ?_
  refine .bind Keeps.trans (Handler.changes_write Keeps.refl fun store => ?_)
    fun _ _ _ _ => Handler.changes_pure Keeps.refl _
  split
  · refine ⟨rfl, rfl, rfl, rfl, fun chargeBoxID remoteAuthorization has => ?_⟩
    obtain ⟨named, mem⟩ | before := hasRemoteAuthorization_save has
    · exact .inr ⟨named, List.mem_reverse.mp (isKept (List.mem_reverse.mp mem))⟩
    · exact .inl before
  · exact Keeps.refl store

theorem keeps_checkOCPIAuthorizedUser (tag : Tag) (user : User) (authAction : Option Action) :
    Handler.Changes (Keeps chargingStation)
      (Authorizations.checkOCPIAuthorizedUser tenant platforms now chargingStation transaction tag
        user authAction) := by
  have fails : ∀ {α : Type} (x : Except CheckError α),
      Handler.Changes (Keeps chargingStation) (Handler.ofExcept x) :=
    fun x => Handler.changes_ofExcept Keeps.refl x
  rw [Authorizations.checkOCPIAuthorizedUser]
  refine (fails _).bind Keeps.trans fun _ _ _ _ => ?_
  split
  · exact fails _
  · refine (fails _).bind Keeps.trans fun _ _ _ _ => ?_
    split
    · exact fails _
    · split
      · exact (keeps_fromIOPRemoteStartTransaction _ _).bind Keeps.trans fun _ _ _ _ => fails _
      · split
        · exact fails _
        · exact (Handler.changes_read Keeps.refl _).bind Keeps.trans fun _ _ _ _ => fails _
      · exact Handler.changes_pure Keeps.refl _

/-- A check only removes remote authorizations, whether it accepts the badge or not. -/
theorem keeps_isTagIDAuthorizedOnChargingStation (tagID : String) (authAction : Option Action) :
    Handler.Changes (Keeps chargingStation)
      (Authorizations.isTagIDAuthorizedOnChargingStation acl definition tenant platforms now
        chargingStation transaction tagID authAction) := by
  have fails : ∀ {α : Type} (x : Except CheckError α),
      Handler.Changes (Keeps chargingStation) (Handler.ofExcept x) :=
    fun x => Handler.changes_ofExcept Keeps.refl x
  have returns : ∀ {α : Type} (a : α),
      Handler.Changes (Keeps chargingStation) (pure a : Check α) :=
    fun a => Handler.changes_pure Keeps.refl a
  rw [Authorizations.isTagIDAuthorizedOnChargingStation]
  refine (Handler.changes_read Keeps.refl _).bind Keeps.trans fun organization _ _ _ => ?_
  refine (fails _).bind Keeps.trans fun siteArea _ _ _ => ?_
  split
  · exact returns _
  · refine (fails _).bind Keeps.trans fun found _ _ _ => ?_
    split
    · refine (fails _).bind Keeps.trans fun oicpUser _ _ _ => ?_
      split
      · exact returns _
      · exact fails _
    · refine (fails _).bind Keeps.trans fun user _ _ _ => ?_
      split
      · exact returns _
      · exact (keeps_checkOCPIAuthorizedUser _ _ _).bind Keeps.trans fun _ _ _ _ => returns _

/-- The user of another operator whom a check returns has an authorization ID of one of the three
sources, when the badge is known and the access is controlled. -/
theorem roamingUser_of_ok {tagID : String} {authAction : Action} {authorized : AuthorizedUser}
    {user : User} {store store' : TenantStore}
    (action : authAction = .authorize ∨ authAction = .startTransaction)
    (h : Authorizations.isTagIDAuthorizedOnChargingStation acl definition tenant platforms now
      chargingStation transaction tagID (some authAction) store = (.ok authorized, store'))
    (returned : authorized.user = some user) (roaming : user.issuer = false)
    (controlled : ((chargingStation.siteArea store.organization).any SiteArea.accessControl) =
      true) :
    (TagStorage.getTag store.organization tagID = none ∧ authorized.tag = none) ∨
      ∃ tag uid authorizationID, TagStorage.getTag store.organization tagID = some tag ∧
        tag.ocpiToken = some uid ∧ user.authorizationID = some authorizationID ∧
        Authorizations.OCPIAuthorization platforms now store chargingStation transaction authAction
          uid authorizationID := by
  rw [Authorizations.isTagIDAuthorizedOnChargingStation] at h
  obtain ⟨organization, read, h⟩ := Handler.read_bind_eq_ok.mp h
  cases read
  obtain ⟨siteArea, valid, h⟩ := Handler.ofExcept_bind_eq_ok.mp h
  obtain ⟨_, area⟩ := Authorizations.isChargingStationValidInOrganization_ok valid
  split at h
  · rename_i off
    obtain _ | siteArea := siteArea
    · cases off
    · rw [area siteArea rfl] at controlled
      simp_all
  · obtain ⟨found, checked, h⟩ := Handler.ofExcept_bind_eq_ok.mp h
    obtain ⟨rfl, unknown⟩ | ⟨tag, tagUser, rfl, stored, _, _⟩ :=
      Authorizations.checkAndGetAuthorizedTag_ok checked
    · obtain ⟨oicpUser, _, h⟩ := Handler.ofExcept_bind_eq_ok.mp h
      obtain _ | oicpUser := oicpUser
      · cases h
      · cases h
        exact .inl ⟨unknown, rfl⟩
    · obtain ⟨tagUser, checked, h⟩ := Handler.ofExcept_bind_eq_ok.mp h
      split at h
      · rename_i isLocal
        cases h
        cases returned
        rw [isLocal] at roaming
        cases roaming
      · obtain ⟨roamingUser, between, checked, h⟩ := Handler.bind_apply_eq_ok.mp h
        obtain ⟨uid, authorizationID, token, _, _, same, _, source, _⟩ :=
          Authorizations.checkOCPIAuthorizedUser_ok checked action
        cases h
        cases returned
        exact .inr ⟨tag, uid, authorizationID, stored, token, by rw [same], source⟩

end Checks

/-! ## What the requests change -/

section Requests

variable {acl : RoleAcl} {definition : AuthorizationDefinition} {tenant : Tenant}
  {platforms : RoamingPlatforms} {now : Timestamp} {chargingStation : ChargingStation}
  {store : TenantStore}

theorem enrichAuthorize_some {organization : Organization} {user : Option User}
    {authorizationID : String}
    (h : OCPPService.enrichAuthorize chargingStation organization user =
      .ok (some authorizationID)) :
    ∃ roamingUser, user = some roamingUser ∧ roamingUser.issuer = false ∧
      ((chargingStation.siteArea organization).any SiteArea.accessControl) = true ∧
      roamingUser.authorizationID = some authorizationID := by
  obtain _ | user := user
  · cases h
  · rw [OCPPService.enrichAuthorize] at h
    split at h
    · cases h
    · rename_i roaming
      split at h
      · cases h
      · rename_i siteArea area
        split at h
        · cases h
        · rename_i controlled
          split at h
          · cases h
          · rename_i authorizationID named
            obtain ⟨_, h⟩ := Outcome.refuse_bind_eq_ok.mp h
            cases h
            refine ⟨user, rfl, by simpa using roaming, ?_, (Option.filter_eq_some_iff.mp named).1⟩
            rw [area]
            exact Bool.eq_true_of_not_eq_false controlled

variable (acl definition tenant platforms now chargingStation store)

/-- An Authorize saves the badge at most, with an ID of one of the sources. -/
theorem handleAuthorize_cases (idTag : String) (billing : Option User → Except CheckError Unit) :
    ∃ checked, Keeps chargingStation store checked ∧
      ((OCPPService.handleAuthorize acl definition tenant platforms now chargingStation idTag
          billing store).2 = checked ∨
        ∃ authorizationId userID,
          (OCPPService.handleAuthorize acl definition tenant platforms now chargingStation idTag
            billing store).2 = { checked with
              authorizes := checked.authorizes ++
                [{ chargeBoxID := chargingStation.id
                   tagID := idTag
                   timestamp := now
                   authorizationId := authorizationId
                   userID := userID }] } ∧
          ∀ id, authorizationId = some id →
            TagStorage.getTag store.organization idTag = none ∨
              ∃ tag uid, TagStorage.getTag store.organization idTag = some tag ∧
                tag.ocpiToken = some uid ∧
                Authorizations.OCPIAuthorization platforms now store chargingStation none .authorize
                  uid id) := by
  have kept : Keeps chargingStation store (Authorizations.isTagIDAuthorizedOnChargingStation acl
      definition tenant platforms now chargingStation none idTag (some .authorize) store).2 :=
    keeps_isTagIDAuthorizedOnChargingStation idTag (some .authorize) store
  rw [OCPPService.handleAuthorize, Authorizations.isAuthorizedOnChargingStation]
  rcases check : Authorizations.isTagIDAuthorizedOnChargingStation acl definition tenant platforms
    now chargingStation none idTag (some .authorize) store with ⟨error | result, checked⟩
  · rw [check] at kept
    rw [Handler.bind_apply_error check]
    exact ⟨checked, kept, .inl rfl⟩
  · rw [check] at kept
    refine ⟨checked, kept, ?_⟩
    rw [Handler.bind_apply_ok check]
    rcases billing result.user with _ | _
    · exact .inl rfl
    · rw [Handler.ofExcept_ok_bind, Handler.read_bind_apply]
      rcases enriched : OCPPService.enrichAuthorize chargingStation checked.organization result.user
        with _ | authorizationId
      · exact .inl rfl
      · rw [Handler.ofExcept_ok_bind, OCPPStorage.saveAuthorize, Handler.read_bind_apply]
        rw [Outcome.refuse]
        split
        · exact .inl rfl
        · refine .inr ⟨authorizationId, _, rfl, fun id named => ?_⟩
          cases named
          obtain ⟨user, returned, roaming, controlled, named⟩ := enrichAuthorize_some enriched
          rw [kept.siteArea_eq] at controlled
          obtain ⟨unknown, _⟩ | ⟨tag, uid, authorizationID, stored, token, same, source⟩ :=
            roamingUser_of_ok (.inl rfl) check returned roaming controlled
          · exact .inl unknown
          · rw [named] at same
            cases same
            exact .inr ⟨tag, uid, stored, token, source⟩

variable {acl definition tenant platforms now chargingStation store}

theorem processOCPITransaction_ok {startSession : Except CheckError Unit} {tag : Option Tag}
    {authorizationID : Option String} {transaction attached : Transaction}
    (h : OCPPService.processOCPITransaction platforms startSession tag authorizationID transaction =
      .ok attached) :
    tag.isSome ∧ ∃ id, authorizationID = some id ∧
      attached = { transaction with ocpiAuthorizationID := some id } := by
  simp only [OCPPService.processOCPITransaction] at h
  obtain ⟨_, h⟩ := Outcome.refuse_bind_eq_ok.mp h
  split at h
  · cases h
  · cases h
  · rename_i id uid named token
    obtain ⟨_, _, h⟩ := Outcome.bind_eq_ok.mp h
    obtain rfl := Outcome.pure_eq_ok_iff.mp h
    obtain ⟨tag, rfl, _⟩ := Option.bind_eq_some_iff.mp token
    exact ⟨rfl, id, (Option.filter_eq_some_iff.mp named).1, rfl⟩

/-- What a start writes to its transaction of the roaming platforms. -/
theorem processTransactionRoaming_ok {answers : OCPPService.StartAnswers}
    {organization : Organization} {user : Option User} {tag : Option Tag}
    {transaction roamed : Transaction}
    (h : OCPPService.processTransactionRoaming tenant platforms chargingStation answers organization
      user tag transaction = .ok roamed) :
    ∃ oicpSessionID ocpiAuthorizationID,
      roamed = { transaction with
        oicpSessionID := oicpSessionID
        ocpiAuthorizationID := ocpiAuthorizationID } ∧
      ∀ id, ocpiAuthorizationID = some id → transaction.ocpiAuthorizationID = some id ∨
        tag.isSome ∧ ∃ roamingUser, user = some roamingUser ∧ roamingUser.issuer = false ∧
          ((chargingStation.siteArea organization).any SiteArea.accessControl) = true ∧
          roamingUser.authorizationID = some id := by
  rw [OCPPService.processTransactionRoaming] at h
  split at h
  · rename_i roaming
    obtain ⟨roaming, controlled⟩ := roaming
    obtain ⟨attached, processed, h⟩ := Outcome.bind_eq_ok.mp h
    have session : ∃ sessionID, roamed = { attached with oicpSessionID := sessionID } := by
      split at h
      · obtain ⟨sessionID, _, h⟩ := Outcome.bind_eq_ok.mp h
        exact ⟨sessionID, (Outcome.pure_eq_ok_iff.mp h).symm⟩
      · exact ⟨_, (Outcome.pure_eq_ok_iff.mp h).symm⟩
    obtain ⟨sessionID, rfl⟩ := session
    split at processed
    · obtain ⟨known, id, named, rfl⟩ := processOCPITransaction_ok processed
      refine ⟨sessionID, some id, rfl, fun id' same => .inr ⟨known, ?_⟩⟩
      cases same
      obtain ⟨roamingUser, rfl, named⟩ := Option.bind_eq_some_iff.mp named
      exact ⟨roamingUser, rfl, by simpa using roaming, controlled, named⟩
    · cases processed
      exact ⟨sessionID, _, rfl, fun _ => .inl⟩
  · cases h
    exact ⟨_, _, rfl, fun _ => .inl⟩

/-- A transaction may be deleted, and nothing else is changed. -/
theorem processExistingTransaction_eq (chargingStation : ChargingStation) (connectorId : ℕ)
    (store : TenantStore) :
    ∃ transactions, transactions.docs ⊆ store.organization.transactions.docs ∧
      OCPPService.processExistingTransaction chargingStation connectorId store =
        { store with
          organization := { store.organization with transactions := transactions } } := by
  rw [OCPPService.processExistingTransaction]
  split
  · split
    · exact ⟨_, fun _ mem => (Collection.mem_delete.mp mem).1, rfl⟩
    · exact ⟨store.organization.transactions, List.Subset.refl _, rfl⟩
  · exact ⟨store.organization.transactions, List.Subset.refl _, rfl⟩

variable (acl definition tenant platforms now chargingStation store)

/-- A start saves its transaction at most, with an ID of one of the sources; one that is running
at the connector may be deleted before. -/
theorem handleStartTransaction_cases (id : ℕ) (startTransaction : OCPPStartTransaction)
    (answers : OCPPService.StartAnswers) {store' : TenantStore}
    (h : (OCPPService.handleStartTransaction acl definition tenant platforms now chargingStation id
      startTransaction answers store).2 = store') :
    ∃ checked, Keeps chargingStation store checked ∧
      (store' = checked ∨
        store' = OCPPService.processExistingTransaction chargingStation startTransaction.connectorId
          checked ∨
        ∃ userID oicpSessionID ocpiAuthorizationID,
          store' = OCPPService.saveTransaction
            { OCPPService.createTransaction tenant chargingStation id startTransaction with
              userID := userID
              oicpSessionID := oicpSessionID
              ocpiAuthorizationID := ocpiAuthorizationID }
            (OCPPService.processExistingTransaction chargingStation startTransaction.connectorId
              checked) ∧
          ∀ authorizationID, ocpiAuthorizationID = some authorizationID →
            ∃ tag uid, TagStorage.getTag store.organization startTransaction.idTag = some tag ∧
              tag.ocpiToken = some uid ∧
              Authorizations.OCPIAuthorization platforms now store chargingStation
                (some (OCPPService.createTransaction tenant chargingStation id startTransaction))
                .startTransaction uid authorizationID) := by
  have kept : Keeps chargingStation store (Authorizations.isTagIDAuthorizedOnChargingStation acl
      definition tenant platforms now chargingStation
      (some (OCPPService.createTransaction tenant chargingStation id startTransaction))
      startTransaction.idTag (some .startTransaction) store).2 :=
    keeps_isTagIDAuthorizedOnChargingStation startTransaction.idTag (some .startTransaction) store
  simp only [OCPPService.handleStartTransaction, Outcome.refuse,
    Authorizations.isAuthorizedToStartTransaction] at h
  split at h
  · exact ⟨store, .refl store, .inl h.symm⟩
  · rw [Handler.ofExcept_ok_bind] at h
    rcases check : Authorizations.isTagIDAuthorizedOnChargingStation acl definition tenant platforms
      now chargingStation
      (some (OCPPService.createTransaction tenant chargingStation id startTransaction))
      startTransaction.idTag (some .startTransaction) store with ⟨error | result, checked⟩
    · rw [check] at kept
      rw [Handler.bind_apply_error check] at h
      exact ⟨checked, kept, .inl h.symm⟩
    · rw [check] at kept
      refine ⟨checked, kept, .inr ?_⟩
      rw [Handler.bind_apply_ok check, Handler.write_ok_bind] at h
      rcases priced : answers.priced with _ | _ <;> rw [priced] at h
      · exact .inl h.symm
      · rw [Handler.ofExcept_ok_bind, Handler.read_bind_apply] at h
        rcases roaming : OCPPService.processTransactionRoaming tenant platforms chargingStation
          answers (OCPPService.processExistingTransaction chargingStation
            startTransaction.connectorId checked).organization result.user result.tag
          { OCPPService.createTransaction tenant chargingStation id startTransaction with
            userID := result.user.map User.id } with error | roamed
        · rw [roaming] at h
          exact .inl h.symm
        · obtain ⟨oicpSessionID, ocpiAuthorizationID, rfl, sources⟩ :=
            processTransactionRoaming_ok roaming
          rw [roaming, Handler.ofExcept_ok_bind, Handler.write_ok_bind] at h
          refine .inr ⟨_, oicpSessionID, ocpiAuthorizationID, h.symm, ?_⟩
          intro authorizationID named
          obtain given | ⟨known, user, returned, roaming, controlled, named⟩ :=
            sources authorizationID named
          · cases given
          · have area : chargingStation.siteArea
                (OCPPService.processExistingTransaction chargingStation
                  startTransaction.connectorId checked).organization =
                chargingStation.siteArea store.organization := by
              obtain ⟨_, _, same⟩ := processExistingTransaction_eq chargingStation
                startTransaction.connectorId checked
              rw [same, ← kept.siteArea_eq]
              rfl
            rw [area] at controlled
            obtain ⟨_, unknown⟩ | ⟨tag, uid, authorizationID', stored, token, same, source⟩ :=
              roamingUser_of_ok (.inr rfl) check returned roaming controlled
            · rw [unknown] at known
              cases known
            · rw [named] at same
              cases same
              exact ⟨tag, uid, stored, token, source⟩

end Requests

end EvServer.Authorization
