import EvServer.ChargingStation
import EvServer.Lib.Documents
import EvServer.Pricing.Types

/-!
# Sessions at the eMSP

The platform of the charging station reports a roaming session, with the energy and the cost so
far, and the eMSP keeps a transaction for it.  A report is a whole session (`PUT`) or some of its
properties (`PATCH`), which are merged into the session that is stored with the transaction.

A property that a body leaves out is not set, and one that is `null` is falsy as well; to merge
the two is not the same.
-/

namespace EvServer.Emsp

/-! ## Sessions -/

/-- `OCPISessionStatus`. -/
inductive OCPISessionStatus
  | active
  | completed
  | invalid
  | pending
  deriving DecidableEq, Repr

/-- `OCPIEvse`; of its connectors, the IDs. -/
structure OCPIEvse where
  uid : Option String := none
  connectors : Option (List String) := none
  deriving DecidableEq, Repr

/-- `OCPILocation`, as far as a session is read. -/
structure OCPILocation where
  id : Option String := none
  evses : Option (List OCPIEvse) := none
  deriving DecidableEq, Repr

/-- `OCPISession`; the properties are those of the body, of which none has been checked. -/
structure OCPISession where
  id : Option String := none
  start_datetime : Option Timestamp := none
  end_datetime : Option Timestamp := none
  /-- What has been charged so far, in kWh. -/
  kwh : Option ℚ := none
  auth_id : Option String := none
  auth_method : Option String := none
  location : Option OCPILocation := none
  currency : Option String := none
  total_cost : Option ℚ := none
  status : Option OCPISessionStatus := none
  last_updated : Option Timestamp := none
  deriving DecidableEq, Repr

/-- A property of a `PATCH` body: not there, `null`, or a value. -/
abbrev Patched (α : Type) := Option (Option α)

/-- The body of a `PATCH` request. -/
structure OCPISessionPatch where
  start_datetime : Patched Timestamp := none
  end_datetime : Patched Timestamp := none
  kwh : Patched ℚ := none
  auth_id : Patched String := none
  auth_method : Patched String := none
  location : Option OCPILocation := none
  currency : Patched String := none
  total_cost : Patched ℚ := none
  status : Patched OCPISessionStatus := none
  last_updated : Patched Timestamp := none
  deriving DecidableEq, Repr

/-- `_.merge` of two arrays: member by member. -/
def mergeLists {α : Type} (merge : α → α → α) : List α → List α → List α
  | [], added => added
  | kept, [] => kept
  | first :: kept, second :: added => merge first second :: mergeLists merge kept added

/-- `_.merge` of two properties that are merged themselves. -/
def mergeProperties {α : Type} (merge : α → α → α) : Option α → Option α → Option α
  | some kept, some added => some (merge kept added)
  | kept, none => kept
  | none, added => added

/-- `_.merge` of two EVSEs. -/
def OCPIEvse.merge (evse body : OCPIEvse) : OCPIEvse :=
  { uid := body.uid.or evse.uid
    connectors := mergeProperties (mergeLists fun _ added => added) evse.connectors
      body.connectors }

/-- `_.merge` of two locations. -/
def OCPILocation.merge (location body : OCPILocation) : OCPILocation :=
  { id := body.id.or location.id
    evses := mergeProperties (mergeLists OCPIEvse.merge) location.evses body.evses }

namespace OCPISession

/-- `_.merge` of a session and the body of a request: what is not there is kept. -/
def merge (session : OCPISession) (body : OCPISessionPatch) : OCPISession :=
  { session with
    start_datetime := body.start_datetime.getD session.start_datetime
    end_datetime := body.end_datetime.getD session.end_datetime
    kwh := body.kwh.getD session.kwh
    auth_id := body.auth_id.getD session.auth_id
    auth_method := body.auth_method.getD session.auth_method
    location := mergeProperties OCPILocation.merge session.location body.location
    currency := body.currency.getD session.currency
    total_cost := body.total_cost.getD session.total_cost
    status := body.status.getD session.status
    last_updated := body.last_updated.getD session.last_updated }

/-- A property in a message. -/
def text (property : Option String) : String := property.getD ""

/-- A text that is set and not empty. -/
def isSet (text : Option String) : Bool := text.any (· ≠ "")

/-- `OCPIUtilsService.validateLocation`. -/
def validateLocation (location : OCPILocation) : Bool :=
  match location.evses with
  | some [evse] => isSet evse.uid
  | _ => false

/-- `OCPIUtilsService.validateSession`. -/
def validateSession (session : OCPISession) : Bool :=
  isSet session.id && session.start_datetime.isSome && isSet session.auth_id &&
    isSet session.auth_method && isSet session.currency && session.status.isSome &&
    session.last_updated.isSome && session.location.any validateLocation

/-- The default values of `total_cost` and `kwh`. -/
def withDefaults (session : OCPISession) : OCPISession :=
  { session with
    total_cost := some (session.total_cost.getD 0)
    kwh := some (session.kwh.getD 0) }

/-- The energy so far, in Wh. -/
def energyWh (session : OCPISession) : ℚ := session.kwh.getD 0 * 1000

/-- The cost so far. -/
def totalCost (session : OCPISession) : ℚ := session.total_cost.getD 0

/-- The date of a session that is valid. -/
def lastUpdated (session : OCPISession) : Timestamp := session.last_updated.getD 0

/-- The start of a session that is valid. -/
def startDatetime (session : OCPISession) : Timestamp := session.start_datetime.getD 0

/-- The EVSE of a session that is valid. -/
def evse (session : OCPISession) : OCPIEvse :=
  ((session.location.bind OCPILocation.evses).bind List.head?).getD {}

end OCPISession

/-! ## Transactions -/

/-- `transaction.lastConsumption`. -/
structure LastConsumption where
  value : ℚ
  timestamp : Timestamp
  deriving DecidableEq, Repr

/-- `TransactionStop`, as a session that is completed sets it. -/
structure TransactionStop where
  extraInactivityComputed : Bool := false
  extraInactivitySecs : ℚ := 0
  meterStop : ℚ
  price : ℚ
  priceUnit : Option String
  pricingSource : PricingSource := .ocpi
  roundedPrice : ℚ
  stateOfCharge : ℚ := 0
  tagID : Option String
  timestamp : Timestamp
  totalConsumptionWh : ℚ
  totalDurationSecs : ℤ
  totalInactivitySecs : ℚ
  inactivityStatus : Option InactivityStatus
  userID : String
  deriving DecidableEq, Repr

/-- `Transaction` of a roaming session.  A number that is not set reads as `0`, where it makes no
difference; the ID and the price are not set while the transaction is new. -/
structure Transaction where
  id : Option ℕ := none
  userID : String
  tagID : Option String
  timestamp : Timestamp
  chargeBoxID : String
  connectorId : ℕ
  meterStart : ℚ := 0
  currentStateOfCharge : Option ℚ := some 0
  currentTotalInactivitySecs : ℚ := 0
  pricingSource : PricingSource := .ocpi
  currentInactivityStatus : Option InactivityStatus := some .info
  currentInstantWatts : ℚ := 0
  currentConsumptionWh : ℚ := 0
  currentTotalConsumptionWh : ℚ := 0
  lastConsumption : Option LastConsumption
  session : Option OCPISession := none
  currentTimestamp : Option Timestamp := none
  price : Option ℚ := none
  priceUnit : Option String := none
  roundedPrice : ℚ := 0
  stop : Option TransactionStop := none
  deriving DecidableEq, Repr

/-- What `saveTransaction` writes: a transaction that is stopped has no runtime properties. -/
def Transaction.toStored (transaction : Transaction) : Transaction :=
  let stored := { transaction with
    price := some (transaction.price.getD 0)
    currentConsumptionWh := 0
    currentTimestamp := none }
  if transaction.stop.isSome then
    { stored with
      currentInstantWatts := 0
      currentStateOfCharge := none
      currentTotalConsumptionWh := 0
      currentTotalInactivitySecs := 0
      currentInactivityStatus := none
      lastConsumption := none }
  else stored

/-- `Consumption` of a roaming session. -/
structure Consumption where
  transactionId : Option ℕ
  connectorId : ℕ
  chargeBoxID : String
  userID : String
  startedAt : Timestamp
  endedAt : Timestamp
  consumptionWh : ℚ
  instantWatts : ℤ
  instantAmps : ℤ
  cumulatedConsumptionWh : ℚ
  cumulatedConsumptionAmps : ℤ
  totalInactivitySecs : ℚ
  totalDurationSecs : ℚ
  stateOfCharge : Option ℚ
  amount : ℚ
  currencyCode : Option String
  cumulatedAmount : ℚ
  deriving DecidableEq, Repr

/-- The `_id` of a consumption is made up of its transaction and its end. -/
def Consumption.key (consumption : Consumption) : Option ℕ × Timestamp :=
  (consumption.transactionId, consumption.endedAt)

/-- The collection `consumptions`. -/
abbrev Consumptions := Collection Consumption.key

/-! ## Charging stations -/

/-- `Connector` of a roaming station. -/
structure Connector where
  id : String
  connectorId : ℕ
  status : Option ChargePointStatus := none
  currentTransactionID : ℕ := 0
  currentTransactionDate : Option Timestamp := none
  currentTagID : Option String := none
  currentTotalConsumptionWh : ℚ := 0
  currentStateOfCharge : Option ℚ := none
  currentTotalInactivitySecs : ℚ := 0
  currentInstantWatts : ℚ := 0
  currentInactivityStatus : Option InactivityStatus := none
  deriving DecidableEq, Repr

/-- `ChargingStation` of the platform. -/
structure ChargingStation where
  id : String
  locationID : String
  evseUid : String
  connectors : List Connector := []
  deriving DecidableEq, Repr

/-- The collection of charging stations. -/
abbrev ChargingStations := Collection ChargingStation.id

end EvServer.Emsp
