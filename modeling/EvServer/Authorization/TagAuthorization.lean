import EvServer.Authorization.ChargingStationList

/-!
# Whether a badge may be used at a station

A badge that is presented to a station is looked up with its user, and a local user is granted
the action by the definition.  A user of another operator is authorized by an OCPI platform, now
or a short time ago; a badge that nobody knows is passed on to the OICP platform.

What the platforms answer is given; they may also fail.  Remote authorizations that are found
to have expired are removed from the station.
-/

namespace EvServer.Authorization

open AccessControl

/-- What a check throws: a `BackendError`, or the error when a property of `undefined` is read. -/
inductive CheckError
  | backendError (method message : String)
  | typeError
  deriving DecidableEq, Repr

/-- `Constants.ROAMING_AUTHORIZATION_TIMEOUT_MINS`, in milliseconds. -/
def Constants.roamingAuthorizationTimeout : ℤ := 2 * 60 * 1000

/-- `Constants.OICP_VIRTUAL_USER_EMAIL`. -/
def Constants.oicpVirtualUserEmail : String := "virtual@oicp.com"

/-- `OICPDefaultTagId.RemoteIdentification`. -/
def OICPDefaultTagId.remoteIdentification : String := "NoTagID-OICPRemote"

/-- `OCPPAuthorizeRequestExtended`, as it is stored. -/
structure OCPPAuthorize where
  chargeBoxID : String
  tagID : String
  timestamp : Timestamp
  authorizationId : Option String := none
  userID : Option String := none
  deriving DecidableEq, Repr

/-- What a check reads and writes. -/
structure TenantStore where
  organization : Organization
  authorizes : List OCPPAuthorize := []
  deriving DecidableEq

/-- A computation on the store of a tenant. -/
abbrev Check := Handler TenantStore CheckError

/-! ## The platforms -/

/-- `OCPIAllowed`. -/
inductive OCPIAllowed
  | allowed
  | blocked
  | expired
  | noCredit
  | notAllowed
  deriving DecidableEq, Repr

/-- `OCPIAuthorizationInfo`. -/
structure OCPIAuthorizationInfo where
  allowed : OCPIAllowed
  authorization_id : Option String := none
  deriving DecidableEq, Repr

/-- `OICPAuthorizationStatus`. -/
inductive OICPAuthorizationStatus
  | Authorized
  | NotAuthorized
  deriving DecidableEq, Repr

/-- `OICPAuthorizeStartCpoReceive`. -/
structure OICPAuthorizeStart where
  AuthorizationStatus : OICPAuthorizationStatus
  SessionID : Option String := none
  deriving DecidableEq, Repr

/-- The clients of the tenant: what the platform answers to the `POST` of a token, for a connector
of a station, and to an `authorizeStart`. -/
structure RoamingPlatforms where
  ocpiClient : Option (String → ChargingStation → ℕ →
    Except CheckError (Option OCPIAuthorizationInfo)) := none
  oicpClient : Option (String → Except CheckError (Option OICPAuthorizeStart)) := none

/-- `CpoOCPIClient.authorizeToken`. -/
def CpoOCPIClient.authorizeToken (post : String → ChargingStation → ℕ →
      Except CheckError (Option OCPIAuthorizationInfo)) (token : String)
    (chargingStation : ChargingStation) (connector : Option ℕ) : Except CheckError String := do
  -- The EVSE UID is built of the connector
  match connector with
  | none => throw .typeError
  | some connectorId =>
      match ← post token chargingStation connectorId with
      | none => throw (.backendError "authorizeToken" "Invalid response from Post Authorize")
      | some authorizationInfo =>
          Outcome.refuse (authorizationInfo.allowed ≠ .allowed) (.backendError "authorizeToken"
            s!"OCPI Tag ID '{token}' has been rejected")
          match authorizationInfo.authorization_id.filter (· ≠ "") with
          | none => throw (.backendError "authorizeToken"
              s!"OCPI Tag ID '{token}' has been rejected (no Authorization ID)")
          | some authorizationID => return authorizationID

/-- `OCPIUtils.isAuthorizationValid`. -/
def OCPIUtils.isAuthorizationValid (now authorizationDate : Timestamp) : Bool :=
  now - Constants.roamingAuthorizationTimeout < authorizationDate

/-! ## Storage -/

/-- `TagStorage.getTag`; the `_id` of a badge is unique. -/
def TagStorage.getTag (organization : Organization) (id : String) : Option Tag :=
  organization.tags.find id

/-- The user of a badge, who is looked up with it. -/
def Tag.user (organization : Organization) (tag : Tag) : Option User :=
  tag.userID.bind organization.users.find

/-- `UserStorage.getUserByTagID`. -/
def UserStorage.getUserByTagID (organization : Organization) (tagID : String) : Option User :=
  (TagStorage.getTag organization tagID).bind (Tag.user organization)

/-- `UserStorage.getUserByEmail`: the user with the address, if there is only one. -/
def UserStorage.getUserByEmail (organization : Organization) (email : String) : Option User :=
  match organization.users.docs.filter fun user => user.email = email with
  | [user] => some user
  | _ => none

/-- `TransactionStorage.getOCPITransactionByAuthorizationID`: the transaction, if there is only
one. -/
def TransactionStorage.getOCPITransactionByAuthorizationID (organization : Organization)
    (authorizationID : String) : Option Transaction :=
  match organization.transactions.docs.filter fun transaction =>
    transaction.ocpiAuthorizationID = some authorizationID with
  | [transaction] => some transaction
  | _ => none

/-- `OCPPStorage.getAuthorizes`, all of them, the latest first. -/
def OCPPStorage.getAuthorizes (authorizes : List OCPPAuthorize) (dateFrom : Timestamp)
    (chargeBoxID tagID : String) : List OCPPAuthorize :=
  (authorizes.filter fun authorize => dateFrom ≤ authorize.timestamp ∧
      (chargeBoxID ≠ "" → authorize.chargeBoxID = chargeBoxID) ∧
      (tagID ≠ "" → authorize.tagID = tagID)).mergeSort
    fun authorize authorize' => authorize'.timestamp ≤ authorize.timestamp

/-- `ChargingStationStorage.saveChargingStationRemoteAuthorizations`. -/
def ChargingStationStorage.saveChargingStationRemoteAuthorizations (id : String)
    (remoteAuthorizations : List RemoteAuthorization) (store : TenantStore) : TenantStore :=
  { store with
    organization :=
      { store.organization with
        chargingStations := store.organization.chargingStations.updateMany
          (fun chargingStation =>
            if chargingStation.id = id then
              { chargingStation with remoteAuthorizations := remoteAuthorizations }
            else chargingStation)
          fun chargingStation => by
            split <;> rfl } }

/-- The site area that a station is read with. -/
def ChargingStation.siteArea (organization : Organization) (chargingStation : ChargingStation) :
    Option SiteArea :=
  chargingStation.siteAreaID.bind organization.siteAreas.find

/-- `Utils.getStatusDescription`. -/
def Utils.getStatusDescription : UserStatus → String
  | .pending => "Pending"
  | .locked => "Locked"
  | .blocked => "Blocked"
  | .active => "Active"
  | .inactive => "Inactive"

/-! ## The check -/

/-- What a check returns: the user, and the badge when it is known. -/
structure AuthorizedUser where
  user : Option User
  tag : Option Tag := none
  deriving DecidableEq

namespace Authorizations

/-- `Authorizations.isChargingStationValidInOrganization`, with the site area of a station that is
valid; without the component none is looked at. -/
def isChargingStationValidInOrganization (tenant : Tenant) (organization : Organization)
    (chargingStation : ChargingStation) : Except CheckError (Option SiteArea) :=
  let method := "isTagIDAuthorizedOnChargingStation"
  if Utils.isTenantComponentActive tenant .organization then
    match chargingStation.siteArea organization with
    | none => throw (.backendError method
        s!"Charging Station '{chargingStation.id}' is not assigned to a Site Area!")
    | some siteArea => do
        Outcome.refuse (chargingStation.siteID = none)
          (.backendError method s!"Site Area '{siteArea.name}' is not assigned to a Site!")
        return some siteArea
  else return none

/-- `Authorizations.checkAndGetAuthorizedTag`, with the user of the badge. -/
def checkAndGetAuthorizedTag (organization : Organization) (tagID : String) :
    Except CheckError (Option (Tag × User)) :=
  match TagStorage.getTag organization tagID with
  | none => return none
  | some tag => do
      Outcome.refuse (tag.active = false)
        (.backendError "checkAndGetAuthorizedTag" s!"Tag ID '{tagID}' is not active")
      match tag.user organization with
      | none => throw (.backendError "checkAndGetAuthorizedTag"
          s!"Tag ID '{tagID}' is not assigned to a User")
      | some user => return some (tag, user)

/-- `Authorizations.checkAndGetOICPAuthorizedUser`. -/
def checkAndGetOICPAuthorizedUser (tenant : Tenant) (platforms : RoamingPlatforms)
    (organization : Organization) (transaction : Option Transaction) (tagID : String) :
    Except CheckError (Option User) :=
  let virtualUser := UserStorage.getUserByEmail organization Constants.oicpVirtualUserEmail
  if Utils.isTenantComponentActive tenant .oicp = false then return none
  -- Check if user has remote authorization or the session is already running
  else if tagID = OICPDefaultTagId.remoteIdentification ∨
      (transaction.bind Transaction.oicpSessionID).isSome then return virtualUser
  else
    match platforms.oicpClient with
    | none => throw (.backendError "checkAndGetOICPAuthorizedUser"
        "OICP component requires at least one CPO endpoint to start a Session")
    | some authorizeStart => do
        match ← authorizeStart tagID with
        | none => return none
        | some response =>
            if response.AuthorizationStatus = .Authorized then
              match virtualUser with
              | none => throw .typeError
              | some user => return some { user with authorizationID := response.SessionID }
            else return none

/-- `Authorizations.notifyUnknownBadgeHasBeenUsedAndAbort`. -/
def notifyUnknownBadgeHasBeenUsedAndAbort (tagID : String) : CheckError :=
  .backendError "notifyUnknownBadgeHasBeenUsedAndAbort" s!"Tag ID '{tagID}' is unknown"

/-- `Authorizations.canPerformActionOnChargingStation`; the context may be given. -/
def canPerformActionOnChargingStation (acl : RoleAcl) (definition : AuthorizationDefinition)
    (loggedUser : UserToken) (action : Action) (chargingStation : ChargingStation)
    (context : Option AuthorizationContext) : Bool :=
  canPerformAction acl definition loggedUser .chargingStation action (context.getD
    { tagIDs := loggedUser.tagIDs
      owner := some loggedUser.id
      site :=
        if Utils.isComponentActiveFromToken loggedUser .organization then chargingStation.siteID
        else none
      sites := loggedUser.sites
      sitesAdmin := loggedUser.sitesAdmin })

/-- The context in which the user of a badge is granted an action. -/
def tagContext (userToken : UserToken) (chargingStation : ChargingStation)
    (transaction : Option Transaction) : AuthorizationContext where
  user := transaction.bind Transaction.userID
  tagIDs := userToken.tagIDs
  tagID := transaction.map Transaction.tagID
  owner := some userToken.id
  site := chargingStation.siteID
  sites := userToken.sites
  sitesAdmin := userToken.sitesAdmin

/-- `Authorizations.checkAndGetAuthorizedUserFromTag`. -/
def checkAndGetAuthorizedUserFromTag (acl : RoleAcl) (definition : AuthorizationDefinition)
    (tenant : Tenant) (organization : Organization) (chargingStation : ChargingStation)
    (transaction : Option Transaction) (tag : Tag) (tagUser : User) (authAction : Option Action) :
    Except CheckError User :=
  match organization.users.find tagUser.id with
  | none => throw .typeError
  | some user => do
      Outcome.refuse (user.status ≠ .active) (.backendError "checkAndGetAuthorizedUser"
        (s!"User with Tag ID '{tag.id}' is not Active " ++
          s!"('{Utils.getStatusDescription user.status}')"))
      -- Check Auth if local User
      if user.issuer then
        match authAction with
        | none => return user
        | some authAction =>
            let userToken := buildUserToken tenant organization user [(tag.id, tag.active)]
            Outcome.refuse (canPerformActionOnChargingStation acl definition userToken authAction
                chargingStation (tagContext userToken chargingStation transaction) = false)
              (.backendError "checkAndGetAuthorizedUser"
                (s!"User with Tag ID '{tag.id}' is not authorized to perform the action " ++
                  s!"'{authAction.value}'"))
            return user
      else return user

/-- The loop of `checkAndGetOCPIAuthorizationIDFromIOPRemoteStartTransaction`, from the latest one:
the remote authorization that is found, and those that are kept. -/
def findRemoteAuthorization (now : Timestamp) (uid : String) :
    List RemoteAuthorization → Option RemoteAuthorization × List RemoteAuthorization
  | [] => (none, [])
  | remoteAuthorization :: rest =>
      if OCPIUtils.isAuthorizationValid now remoteAuthorization.timestamp then
        if remoteAuthorization.tagId = uid then
          (some remoteAuthorization, remoteAuthorization :: rest)
        else
          let (found, kept) := findRemoteAuthorization now uid rest
          (found, remoteAuthorization :: kept)
      -- Expired: Remove it
      else findRemoteAuthorization now uid rest

/-- `Authorizations.checkAndGetOCPIAuthorizationIDFromIOPRemoteStartTransaction`. -/
def checkAndGetOCPIAuthorizationIDFromIOPRemoteStartTransaction (now : Timestamp)
    (chargingStation : ChargingStation) (connector : Option ℕ) (uid : String) :
    Check (Option String) := do
  let (found, kept) :=
    findRemoteAuthorization now uid chargingStation.remoteAuthorizations.reverse
  -- The connector of a remote authorization that is found is logged
  Handler.ofExcept (Outcome.refuse (found.isSome ∧ connector = none) .typeError)
  -- Update Remote Authorizations
  (Handler.write (.ok ())
    (if kept.length < chargingStation.remoteAuthorizations.length then
      ChargingStationStorage.saveChargingStationRemoteAuthorizations chargingStation.id kept.reverse
    else id) : Check Unit)
  return found.map RemoteAuthorization.id

/-- `Authorizations.checkAndGetOCPIAuthorizationIDFromOCPPAuthorize`. -/
def checkAndGetOCPIAuthorizationIDFromOCPPAuthorize (transaction : Transaction)
    (store : TenantStore) : Option String :=
  (OCPPStorage.getAuthorizes store.authorizes
      (transaction.timestamp - Constants.roamingAuthorizationTimeout) transaction.chargeBoxID
      transaction.tagID).findSome? fun authorization =>
    -- Get the first non used Authorization OCPI ID
    (authorization.authorizationId.filter (· ≠ "")).filter fun authorizationID =>
      (TransactionStorage.getOCPITransactionByAuthorizationID store.organization
        authorizationID).isNone

/-- The user with the authorization ID that is found, or with one that is requested. -/
def withAuthorizationID (post : String → ChargingStation → ℕ →
      Except CheckError (Option OCPIAuthorizationInfo)) (ocpiToken : String)
    (chargingStation : ChargingStation) (connector : Option ℕ) (user : User)
    (authorizationID : Option String) : Except CheckError User :=
  match authorizationID.filter (· ≠ "") with
  | some authorizationID => return { user with authorizationID := some authorizationID }
  -- Not found: Request one from OCPI IOP
  | none => do
      let authorizationID ←
        CpoOCPIClient.authorizeToken post ocpiToken chargingStation connector
      return { user with authorizationID := some authorizationID }

/-- The connector of a check: when no transaction is provided, it is connector 1. -/
def connectorOf (chargingStation : ChargingStation) (transaction : Option Transaction) :
    Option ℕ :=
  let connectorId := ((transaction.map Transaction.connectorId).filter (· ≠ 0)).getD 1
  chargingStation.connectorIDs.find? (· = connectorId)

/-- `Authorizations.checkOCPIAuthorizedUser`, with the authorization ID that is set. -/
def checkOCPIAuthorizedUser (tenant : Tenant) (platforms : RoamingPlatforms) (now : Timestamp)
    (chargingStation : ChargingStation) (transaction : Option Transaction) (tag : Tag) (user : User)
    (authAction : Option Action) : Check User := do
  let method := "checkOCPIAuthorizedUser"
  -- OCPI Active?
  Handler.ofExcept (Outcome.refuse (Utils.isTenantComponentActive tenant .ocpi = false)
    (.backendError method s!"Unable to authorize Tag ID '{tag.id}', Roaming is not active"))
  match tag.ocpiToken with
  -- Got Token from OCPI
  | none => Handler.ofExcept (throw (.backendError method
      (s!"Tag ID '{tag.id}' cannot be authorized through OCPI protocol due to missing OCPI " ++
        "Token")))
  | some ocpiToken =>
      -- Check Charging Station
      Handler.ofExcept (Outcome.refuse (chargingStation.isPublic = false) (.backendError method
        s!"Tag ID '{tag.id}' cannot be authorized on a private Charging Station"))
      match platforms.ocpiClient with
      | none => Handler.ofExcept (throw (.backendError method
          "OCPI component requires at least one CPO endpoint to authorize users"))
      | some post =>
          let connector := connectorOf chargingStation transaction
          match authAction with
          -- OCPP Authorize
          | some .authorize =>
              let authorizationID ←
                checkAndGetOCPIAuthorizationIDFromIOPRemoteStartTransaction now chargingStation
                  connector ocpiToken
              Handler.ofExcept (withAuthorizationID post ocpiToken chargingStation connector user
                authorizationID)
          -- OCPP Start Transaction
          | some .startTransaction =>
              match transaction with
              | none => Handler.ofExcept (throw .typeError)
              | some transaction =>
                  let authorizationID ← Handler.read fun store => .ok
                    (checkAndGetOCPIAuthorizationIDFromOCPPAuthorize transaction store)
                  Handler.ofExcept (withAuthorizationID post ocpiToken chargingStation connector
                    user authorizationID)
          | _ => return user

/-- `Authorizations.isTagIDAuthorizedOnChargingStation`. -/
def isTagIDAuthorizedOnChargingStation (acl : RoleAcl) (definition : AuthorizationDefinition)
    (tenant : Tenant) (platforms : RoamingPlatforms) (now : Timestamp)
    (chargingStation : ChargingStation) (transaction : Option Transaction) (tagID : String)
    (authAction : Option Action) : Check AuthorizedUser := do
  let organization ← Handler.read fun store => .ok store.organization
  -- Check Organization
  let siteArea ← Handler.ofExcept
    (isChargingStationValidInOrganization tenant organization chargingStation)
  -- Access Control is disabled?
  if siteArea.any fun siteArea => !siteArea.accessControl then
    return {
      user := UserStorage.getUserByTagID organization tagID
      tag := TagStorage.getTag organization tagID }
  else
    match ← Handler.ofExcept (checkAndGetAuthorizedTag organization tagID) with
    | none =>
        -- Check OICP first
        match ← Handler.ofExcept
            (checkAndGetOICPAuthorizedUser tenant platforms organization transaction tagID) with
        | some user => return { user := some user }
        | none => Handler.ofExcept (throw (notifyUnknownBadgeHasBeenUsedAndAbort tagID))
    | some (tag, tagUser) =>
        let user ← Handler.ofExcept (checkAndGetAuthorizedUserFromTag acl definition tenant
          organization chargingStation transaction tag tagUser authAction)
        -- Check OCPI
        if user.issuer then return { user := some user, tag := some tag }
        else
          let user ← checkOCPIAuthorizedUser tenant platforms now chargingStation transaction tag
            user authAction
          return { user := some user, tag := some tag }

/-- `Authorizations.isAuthorizedOnChargingStation`. -/
def isAuthorizedOnChargingStation (acl : RoleAcl) (definition : AuthorizationDefinition)
    (tenant : Tenant) (platforms : RoamingPlatforms) (now : Timestamp)
    (chargingStation : ChargingStation) (tagID : String) (authAction : Option Action) :
    Check AuthorizedUser :=
  isTagIDAuthorizedOnChargingStation acl definition tenant platforms now chargingStation none tagID
    authAction

/-- `Authorizations.isAuthorizedToStartTransaction`. -/
def isAuthorizedToStartTransaction (acl : RoleAcl) (definition : AuthorizationDefinition)
    (tenant : Tenant) (platforms : RoamingPlatforms) (now : Timestamp)
    (chargingStation : ChargingStation) (tagID : String) (transaction : Transaction)
    (authAction : Option Action) : Check AuthorizedUser :=
  isTagIDAuthorizedOnChargingStation acl definition tenant platforms now chargingStation
    (some transaction) tagID authAction

end Authorizations

end EvServer.Authorization
