import EvServer.Authorization.ChargingStationList

/-!
# Which transactions a user sees

The list of transactions and the statistics both restrict somebody with role basic to his own
transactions, or to those on the sites he administers, and to the filters that he asks for.  A
filter may get lost on the way: the list drops the sites without the organisation component and
the badges with a visual ID that no badge has, and the statistics replace the sites and the user
that are asked for by those that are visible.

A filter that is not asked for is an empty list.
-/

namespace EvServer.Authorization

open AccessControl

/-- `DatabaseUtils.convertToObjectID`: what an ID is compared with. -/
def convertToObjectID (id : String) : Option String := if id = "" then none else some id

/-- `$in`, for IDs. -/
def isIn (id : Option String) (ids : List String) : Bool := id ∈ ids.map convertToObjectID

/-- `HttpTransactionsRequest`. -/
structure HttpTransactionsRequest where
  chargingStationID : List String := []
  userID : List String := []
  tagID : List String := []
  visualTagID : List String := []
  siteAreaID : List String := []
  siteID : List String := []
  startDateTime : Option Timestamp := none
  endDateTime : Option Timestamp := none
  /-- What the database makes of the status, the issuer, the connectors, the refund, the price,
  the text and the inactivity that are asked for. -/
  others : Transaction → Bool := fun _ => true

/-- The parameters of `TransactionStorage.getTransactions`. -/
structure GetTransactionsParams where
  ownerID : Option String
  siteAdminIDs : Option (List String)
  chargeBoxIDs : Option (List String)
  userIDs : Option (List String)
  tagIDs : Option (List String)
  siteAreaIDs : Option (List String)
  siteIDs : Option (List String)
  startDateTime : Option Timestamp
  endDateTime : Option Timestamp
  others : Transaction → Bool

/-- The timestamp is within the dates that are given. -/
def isWithin (startDateTime endDateTime : Option Timestamp) (timestamp : Timestamp) : Bool :=
  (startDateTime.all fun start => start ≤ timestamp) && endDateTime.all fun finish =>
    timestamp ≤ finish

namespace TransactionStorage

/-- `ownerMatch`: the owner, or one of the sites, if there is either. -/
def ownerMatch (ownerID : Option String) (siteAdminIDs : Option (List String))
    (transaction : Transaction) : Bool :=
  (ownerID.isNone && siteAdminIDs.isNone) ||
    (ownerID.any fun ownerID => transaction.userID = some ownerID) ||
    siteAdminIDs.any fun siteIDs => isIn transaction.siteID siteIDs

/-- The filters of `getTransactions`. -/
def passes (params : GetTransactionsParams) (transaction : Transaction) : Bool :=
  ownerMatch params.ownerID params.siteAdminIDs transaction &&
    params.others transaction &&
    (params.userIDs.all fun userIDs => isIn transaction.userID userIDs) &&
    (params.chargeBoxIDs.all fun chargeBoxIDs => transaction.chargeBoxID ∈ chargeBoxIDs) &&
    (params.tagIDs.all fun tagIDs => transaction.tagID ∈ tagIDs) &&
    isWithin params.startDateTime params.endDateTime transaction.timestamp &&
    (params.siteAreaIDs.all fun siteAreaIDs => isIn transaction.siteAreaID siteAreaIDs) &&
    params.siteIDs.all fun siteIDs => isIn transaction.siteID siteIDs

/-- `TransactionStorage.getTransactions`: the page that is asked for, the latest first unless told
otherwise. -/
def getTransactions (organization : Organization) (params : GetTransactionsParams)
    (dbParams : DbParams Transaction) : List Transaction :=
  dbParams.page
    (dbParams.sort.getD fun transaction transaction' =>
      transaction'.timestamp ≤ transaction.timestamp)
    (organization.transactions.docs.filter (passes params))

end TransactionStorage

/-- `TagStorage.getTags`, the IDs of the badges with one of the visual IDs. -/
def TagStorage.getTagIDs (organization : Organization) (visualIDs : List String) : List String :=
  (organization.tags.docs.filter fun tag => tag.visualID ∈ visualIDs).map Tag.id

namespace Authorizations

variable (acl : RoleAcl) (definition : AuthorizationDefinition) (organization : Organization)
  (userToken : UserToken)

/-- `Authorizations.canListTransactions`. -/
def canListTransactions : Bool := canPerformAction acl definition userToken .transaction .list {}

/-- The sites that a user administers or owns. -/
def siteAdminAndOwnerIDs : List String :=
  (DynamicAuthorizationFactory.getSitesAdminSiteIDs organization userToken.id ++
    DynamicAuthorizationFactory.getSitesOwnerSiteIDs organization userToken.id).eraseDups

/-- `Authorizations.getAuthorizedSiteAdminIDs`. -/
def getAuthorizedSiteAdminIDs (requestedSites : Option (List String)) : Option (List String) :=
  if Utils.isComponentActiveFromToken userToken .organization then
    if userToken.role = .demo then none
    else if userToken.role = .admin then requestedSites
    else
      match Utils.nonEmptyArray requestedSites with
      | none => some (siteAdminAndOwnerIDs organization userToken)
      | some requestedSites =>
          some (requestedSites.filter (· ∈ siteAdminAndOwnerIDs organization userToken))
  else none

/-- `Authorizations.isSiteAdmin`. -/
def isSiteAdmin : Bool := userToken.role = .basic ∧ userToken.sitesAdmin ≠ []

end Authorizations

namespace TransactionService

variable (acl : RoleAcl) (definition : AuthorizationDefinition) (organization : Organization)
  (userToken : UserToken) (request : HttpTransactionsRequest)

/-- The badges that are asked for: those with the visual IDs, if there are any. -/
def requestedTagIDs : List String :=
  if request.visualTagID = [] then request.tagID
  else
    let tagIDs := TagStorage.getTagIDs organization request.visualTagID
    if tagIDs = [] then request.tagID else tagIDs

/-- The parameters of the query. -/
def params : GetTransactionsParams where
  ownerID := if userToken.role = .basic then some userToken.id else none
  siteAdminIDs := Authorizations.getAuthorizedSiteAdminIDs organization userToken none
  chargeBoxIDs := Utils.nonEmptyArray (some request.chargingStationID)
  userIDs := Utils.nonEmptyArray (some request.userID)
  tagIDs := Utils.nonEmptyArray (some (requestedTagIDs organization request))
  siteAreaIDs := Utils.nonEmptyArray (some request.siteAreaID)
  siteIDs :=
    if request.siteID = [] then none
    else Authorizations.getAuthorizedSiteAdminIDs organization userToken (some request.siteID)
  startDateTime := request.startDateTime
  endDateTime := request.endDateTime
  others := request.others

/-- `TransactionService.getTransactions`, up to the fields to project. -/
def getTransactions (dbParams : DbParams Transaction) : Except AppError (List Transaction) := do
  Outcome.refuse (Authorizations.canListTransactions acl definition userToken = false)
    (.forbidden .list .transaction "handleGetTransactionsToRefund")
  return TransactionStorage.getTransactions organization (params organization userToken request)
    dbParams

end TransactionService

/-! ## Statistics -/

/-- `HttpStatisticsRequest`; a `Year` that is not given is 0 once the request is validated. -/
structure HttpStatisticsRequest where
  year : ℤ := 0
  startDateTime : Option Timestamp := none
  endDateTime : Option Timestamp := none
  siteID : List String := []
  siteAreaID : List String := []
  chargingStationID : List String := []
  userID : List String := []
  deriving DecidableEq, Repr

/-- `StatisticFilter`, of completed transactions. -/
structure StatisticFilter where
  startDateTime : Option Timestamp := none
  endDateTime : Option Timestamp := none
  siteIDs : List String := []
  siteAreaIDs : List String := []
  chargeBoxIDs : List String := []
  userIDs : List String := []
  deriving DecidableEq, Repr

/-- The first and the last moment of a year, in the time zone of the server. -/
structure Calendar where
  startOfYear : ℤ → Timestamp
  endOfYear : ℤ → Timestamp

/-- `StatisticService.buildFilter`. -/
def StatisticService.buildFilter (calendar : Calendar) (filteredRequest : HttpStatisticsRequest)
    (loggedUser : UserToken) : StatisticFilter :=
  let filter : StatisticFilter :=
    { -- Date, DateFrom, DateUntil
      startDateTime := filteredRequest.startDateTime <|>
        if 0 < filteredRequest.year then some (calendar.startOfYear filteredRequest.year) else none
      endDateTime := filteredRequest.endDateTime <|>
        if 0 < filteredRequest.year then some (calendar.endOfYear filteredRequest.year) else none
      siteIDs := filteredRequest.siteID
      siteAreaIDs := filteredRequest.siteAreaID
      chargeBoxIDs := filteredRequest.chargingStationID }
  -- User
  if loggedUser.role = .basic then
    -- Only for current sites
    if Authorizations.isSiteAdmin loggedUser then { filter with siteIDs := loggedUser.sitesAdmin }
    -- Only for current user
    else { filter with userIDs := [loggedUser.id] }
  else { filter with userIDs := filteredRequest.userID }

/-- The transactions that `StatisticsStorage.getChargingStationStats` and `getUserStats` group. -/
def StatisticsStorage.counted (organization : Organization) (params : StatisticFilter) :
    List Transaction :=
  organization.transactions.docs.filter fun transaction =>
    transaction.stopped &&
      isWithin params.startDateTime params.endDateTime transaction.timestamp &&
      ((Utils.nonEmptyArray (some params.siteIDs)).all fun siteIDs =>
        isIn transaction.siteID siteIDs) &&
      ((Utils.nonEmptyArray (some params.siteAreaIDs)).all fun siteAreaIDs =>
        isIn transaction.siteAreaID siteAreaIDs) &&
      ((Utils.nonEmptyArray (some params.chargeBoxIDs)).all fun chargeBoxIDs =>
        transaction.chargeBoxID ∈ chargeBoxIDs) &&
      (Utils.nonEmptyArray (some params.userIDs)).all fun userIDs =>
        isIn transaction.userID userIDs

end EvServer.Authorization
