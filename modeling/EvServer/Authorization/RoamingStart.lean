import EvServer.Authorization.TagGrounds

/-!
# Authorization IDs of roaming sessions

A platform starts a session by a command, which is kept at the station, or authorizes a token
that is presented there.  The ID that an Authorize has obtained is saved with it, and a
StartTransaction takes the latest one that no transaction has, or asks the platform; the ID is
attached to the session of the transaction.  One request is processed after the other.
-/

namespace EvServer.Authorization

open AccessControl

/-! ## Remote commands -/

/-- `OCPIStartSession`, with the station and the connector that its EVSE UID names. -/
structure OCPIStartSession where
  token : String
  chargingStationID : String
  connectorID : ℕ
  authorization_id : String
  deriving DecidableEq, Repr

/-- The remote authorization of the connector is replaced, or the new one is added. -/
def putRemoteAuthorization (remoteAuthorization : RemoteAuthorization) :
    List RemoteAuthorization → List RemoteAuthorization
  | [] => [remoteAuthorization]
  | existing :: rest =>
      if existing.connectorId = remoteAuthorization.connectorId then remoteAuthorization :: rest
      else existing :: putRemoteAuthorization remoteAuthorization rest

/-- `CPOCommandsEndpoint.remoteStartSessionRequest`, once the body is valid: what is stored.
`isAvailable` says whether the connector is available or preparing. -/
def CPOCommandsEndpoint.remoteStartSessionRequest (now : Timestamp)
    (startSession : OCPIStartSession) (isAvailable : Bool) (store : TenantStore) : TenantStore :=
  let localToken := TagStorage.getTag store.organization startSession.token
  let user := localToken.bind (Tag.user store.organization)
  let found := store.organization.chargingStations.find startSession.chargingStationID
  match localToken, user, found with
  | some localToken, some user, some chargingStation =>
      let existingAuthorization := chargingStation.remoteAuthorizations.find? fun authorization =>
        authorization.connectorId = startSession.connectorID
      -- Each of these rejects the command
      if localToken.active = false ∨ localToken.ocpiToken = none ∨
          localToken.ocpiTokenValid = false ∨ user.issuer = true ∨
          startSession.connectorID ∉ chargingStation.connectorIDs ∨
          chargingStation.issuer = false ∨ chargingStation.isPublic = false ∨
          isAvailable = false ∨
          (existingAuthorization.any fun authorization =>
            OCPIUtils.isAuthorizationValid now authorization.timestamp) then store
      else
        -- Save Auth
        ChargingStationStorage.saveChargingStationRemoteAuthorizations chargingStation.id
          (putRemoteAuthorization
            { id := startSession.authorization_id
              connectorId := startSession.connectorID
              timestamp := now
              tagId := startSession.token } chargingStation.remoteAuthorizations) store
  | _, _, _ => store

/-! ## Authorize -/

/-- `OCPPStorage.saveAuthorize`: the `_id` is made of the station and the time. -/
def OCPPStorage.saveAuthorize (authorize : OCPPAuthorize) : Check Unit := do
  let authorizes ← Handler.read fun store => .ok store.authorizes
  Handler.ofExcept (Outcome.refuse
    (∃ stored ∈ authorizes, stored.chargeBoxID = authorize.chargeBoxID ∧
      stored.timestamp = authorize.timestamp) .typeError)
  Handler.write (.ok ()) fun store => { store with authorizes := store.authorizes ++ [authorize] }

namespace OCPPService

variable (acl : RoleAcl) (definition : AuthorizationDefinition) (tenant : Tenant)
  (platforms : RoamingPlatforms) (now : Timestamp) (chargingStation : ChargingStation)

/-- `enrichAuthorize`, with the `authorizationId` of the request. -/
def enrichAuthorize (organization : Organization) (user : Option User) :
    Except CheckError (Option String) :=
  match user with
  | none => return none
  | some user =>
      if user.issuer then return none
      else
        match chargingStation.siteArea organization with
        | none => throw .typeError
        | some siteArea =>
            if siteArea.accessControl = false then return none
            else
              match user.authorizationID.filter (· ≠ "") with
              | none => throw (.backendError "enrichAuthorize"
                  "Authorization ID has not been supplied")
              | some authorizationID => do
                  Outcome.refuse (chargingStation.isPublic = false) (.backendError
                    "enrichAuthorize"
                    "Cannot authorize a roaming user on a private charging station")
                  -- Keep Roaming Auth ID
                  return some authorizationID

/-- `handleAuthorize`, up to what it answers; `billing` is how `checkBillingPrerequisites` goes. -/
def handleAuthorize (idTag : String) (billing : Option User → Except CheckError Unit) :
    Check Unit := do
  let result ← Authorizations.isAuthorizedOnChargingStation acl definition tenant platforms now
    chargingStation idTag (some .authorize)
  -- Check Billing Prerequisites
  Handler.ofExcept (billing result.user)
  -- Enrich
  let organization ← Handler.read fun store => .ok store.organization
  let authorizationId ← Handler.ofExcept
    (enrichAuthorize chargingStation organization result.user)
  -- Save
  OCPPStorage.saveAuthorize
    { chargeBoxID := chargingStation.id
      tagID := idTag
      timestamp := now
      authorizationId := authorizationId
      userID := result.user.map User.id }

/-! ## StartTransaction -/

/-- How the other steps of a start go: the car, the pricing and the billing, the `PUT` of the
session to the OCPI platform, the session of the OICP platform, and what follows once the
transaction is saved. -/
structure StartAnswers where
  priced : Except CheckError Unit := .ok ()
  startSession : Except CheckError Unit := .ok ()
  oicpSession : Except CheckError (Option String) := .ok none
  afterwards : Except CheckError Unit := .ok ()

/-- `processExistingTransaction`: the only transaction that is running at the connector is deleted
if it has no consumption; a pending one with consumption cannot be stopped here. -/
def processExistingTransaction (connectorId : ℕ) (store : TenantStore) : TenantStore :=
  match store.organization.transactions.docs.filter fun transaction =>
    transaction.chargeBoxID = chargingStation.id ∧ transaction.connectorId = connectorId ∧
      transaction.stopped = false with
  | [activeTransaction] =>
      if activeTransaction.currentTotalConsumptionWh ≤ 0 then
        { store with
          organization :=
            { store.organization with
              transactions := store.organization.transactions.delete activeTransaction.id } }
      else store
  | _ => store

/-- `OCPPUtils.processOCPITransaction`, for `TransactionAction.START`. -/
def processOCPITransaction (startSession : Except CheckError Unit) (tag : Option Tag)
    (authorizationID : Option String) (transaction : Transaction) :
    Except CheckError Transaction := do
  let method := "processOCPITransaction"
  Outcome.refuse (platforms.ocpiClient.isNone = true) (.backendError method
    "OCPI component requires at least one CPO endpoint to start a Transaction")
  match authorizationID.filter (· ≠ ""), tag.bind Tag.ocpiToken with
  | none, _ => throw (.backendError method s!"Tag ID '{transaction.tagID}' is not authorized")
  | some _, none => throw .typeError
  | some authorizationID, some _ =>
      startSession
      return { transaction with ocpiAuthorizationID := some authorizationID }

/-- `OCPPUtils.processTransactionRoaming`, for `TransactionAction.START`. -/
def processTransactionRoaming (answers : StartAnswers) (organization : Organization)
    (user : Option User) (tag : Option Tag) (transaction : Transaction) :
    Except CheckError Transaction :=
  -- Roaming User and ACL must be active in Site Area
  if (user.any fun user => !user.issuer) = true ∧
      ((chargingStation.siteArea organization).any SiteArea.accessControl) = true then do
    let transaction ←
      (if Utils.isTenantComponentActive tenant .ocpi then
        processOCPITransaction platforms answers.startSession tag
          (user.bind User.authorizationID) transaction
      else .ok transaction)
    if Utils.isTenantComponentActive tenant .oicp then
      let sessionID ← answers.oicpSession
      return { transaction with oicpSessionID := sessionID }
    else return transaction
  else return transaction

/-- `TransactionStorage.saveTransaction`. -/
def saveTransaction (transaction : Transaction) (store : TenantStore) : TenantStore :=
  { store with
    organization :=
      { store.organization with
        transactions := store.organization.transactions.save transaction } }

/-- `handleStartTransaction`, up to what it answers; `id` is the ID that is available. -/
def handleStartTransaction (id : ℕ) (startTransaction : OCPPStartTransaction)
    (answers : StartAnswers) : Check Unit := do
  -- Check props
  Handler.ofExcept (Outcome.refuse (startTransaction.connectorId ∉ chargingStation.connectorIDs)
    (.backendError "validateStartTransaction"
      s!"The Connector ID '{startTransaction.connectorId}' is invalid"))
  -- Create Transaction
  let newTransaction := createTransaction tenant chargingStation id startTransaction
  -- Check User
  let result ← Authorizations.isAuthorizedToStartTransaction acl definition tenant platforms now
    chargingStation startTransaction.idTag newTransaction (some .startTransaction)
  let newTransaction := { newTransaction with userID := result.user.map User.id }
  -- Cleanup ongoing Transaction
  Handler.write (.ok ()) (processExistingTransaction chargingStation startTransaction.connectorId)
  Handler.ofExcept answers.priced
  -- Roaming
  let organization ← Handler.read fun store => .ok store.organization
  let newTransaction ← Handler.ofExcept (processTransactionRoaming tenant platforms
    chargingStation answers organization result.user result.tag newTransaction)
  -- Save it
  Handler.write (.ok ()) (saveTransaction newTransaction)
  Handler.ofExcept answers.afterwards

end OCPPService

end EvServer.Authorization
