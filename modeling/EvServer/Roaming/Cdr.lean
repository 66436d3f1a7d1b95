import EvServer.Lib.Handler
import EvServer.Utils

/-!
# Charge detail records of roaming sessions

The charge detail record (CDR) of a roaming session is sent to its platform, over OCPI or
OICP, once the session is completed: after a status notification of the connector, by an
administrator, or by a task.  The CDR is a part of the transaction, and the transaction is
saved by whoever sends it.

The state is the stored transaction, with what has been posted to the platforms so far.
Reads and writes of the database do not fail here; the platforms answer as they like.
-/

namespace EvServer

/-- `OCPIChargingPeriod`, with the volumes of its dimensions. -/
structure OCPIChargingPeriod where
  startDateTime : Timestamp
  volumes : List ℚ
  deriving DecidableEq, Repr

/-- `OCPISession`, as far as the CDR reads it; the ID is that of the transaction. -/
structure OCPISession where
  id : String
  authID : String := ""
  authorizationID : Option String := none
  id_ne : id ≠ "" := by decide
  deriving DecidableEq, Repr

/-- `OCPICdr`. -/
structure OCPICdr where
  id : String
  startDateTime : Timestamp
  stopDateTime : Timestamp
  /-- In hours, as the next one. -/
  totalParkingTime : ℚ
  totalTime : ℚ
  /-- In kWh. -/
  totalEnergy : ℚ
  currency : String
  authID : String
  authorizationID : Option String
  totalCost : ℚ
  chargingPeriods : List OCPIChargingPeriod
  lastUpdated : Timestamp
  deriving DecidableEq, Repr

/-- `TransactionOcpiData`. -/
structure TransactionOcpiData where
  session : Option OCPISession := none
  cdr : Option OCPICdr := none
  deriving DecidableEq, Repr

/-- `OICPSession`, as far as the CDR reads it. -/
structure OICPSession where
  id : String
  empPartnerSessionID : Option String := none
  evseID : String := ""
  startDatetime : Timestamp
  endDatetime : Option Timestamp := none
  /-- In Wh. -/
  meterValueInBetween : List ℚ := []
  id_ne : id ≠ "" := by decide
  deriving DecidableEq, Repr

/-- `OICPChargeDetailRecord`; the meter values are in kWh. -/
structure OICPChargeDetailRecord where
  sessionID : String
  cpoPartnerSessionID : Option String
  empPartnerSessionID : Option String
  evseID : String
  chargingStart : Timestamp
  chargingEnd : Timestamp
  sessionStart : Timestamp
  sessionEnd : Option Timestamp
  meterValueStart : ℚ
  meterValueEnd : ℚ
  meterValueInBetween : Option (List ℚ)
  consumedEnergy : ℚ
  deriving DecidableEq, Repr

/-- `TransactionOicpData`. -/
structure TransactionOicpData where
  session : Option OICPSession := none
  cdr : Option OICPChargeDetailRecord := none
  deriving DecidableEq, Repr

/-- `TransactionStop`, as far as the CDR reads it. -/
structure RoamingStop where
  timestamp : Timestamp
  meterStop : ℚ
  totalConsumptionWh : ℚ
  totalInactivitySecs : ℚ := 0
  extraInactivitySecs : ℚ := 0
  totalDurationSecs : ℚ := 0
  roundedPrice : ℚ := 0
  deriving DecidableEq, Repr

/-- `Transaction`, with the data of its roaming session. -/
structure RoamingTransaction where
  id : ℕ
  timestamp : Timestamp
  meterStart : ℚ := 0
  issuer : Bool := true
  /-- `user.issuer`, when there is a user. -/
  userIssuer : Option Bool := some false
  stop : Option RoamingStop := none
  ocpiData : Option TransactionOcpiData := none
  oicpData : Option TransactionOicpData := none
  deriving DecidableEq, Repr

/-- What is posted to a platform, and whether it has answered that it accepts it. -/
structure CdrPost (C : Type) where
  cdr : C
  accepted : Bool
  deriving DecidableEq, Repr

/-- The stored transaction, and what the platforms have received. -/
structure CdrStore where
  transaction : RoamingTransaction
  ocpiPosts : List (CdrPost OCPICdr) := []
  oicpPosts : List (CdrPost OICPChargeDetailRecord) := []
  deriving DecidableEq, Repr

/-- The answers of the other components while a CDR is sent. -/
structure RoamingContext where
  ocpiActive : Bool
  oicpActive : Bool
  /-- `siteArea?.accessControl`. -/
  accessControl : Bool := true
  /-- There is a client of the component in the role of the operator. -/
  ocpiClient : Bool := true
  oicpClient : Bool := true
  /-- `getEndpointUrl` for the CDRs of OCPI and of OICP. -/
  ocpiEndpointUrl : Except String Unit := .ok ()
  oicpEndpointUrl : Except String Unit := .ok ()
  buildChargingPeriods : RoamingTransaction → Except String (List OCPIChargingPeriod)
  currency : String := "EUR"
  /-- The answer to a post over OCPI; an error when it is refused or there is no answer. -/
  postOCPI : OCPICdr → Except String Unit
  /-- `Result` of the answer over OICP, be it a response or an error; `none` when there is no
  answer. -/
  postOICP : OICPChargeDetailRecord → Option Bool
  /-- The lock of the transaction is acquired. -/
  pushCdrLock : Bool := true
  /-- The extra inactivity and the billing of a transaction that has been stopped: what they
  leave of the stop, and whether it has been updated. -/
  completeStop : RoamingStop → Except String (RoamingStop × Bool) := fun stop => .ok (stop, false)
  /-- What else an administrator or the task needs: authorizations, station, tag. -/
  checks : Except String Unit := .ok ()

/-- A computation on the stored transaction. -/
abbrev CdrHandler (α : Type) : Type := Handler CdrStore String α

namespace RoamingTransaction

/-- The CDR over OCPI that the transaction carries. -/
def ocpiCdr (transaction : RoamingTransaction) : Option OCPICdr :=
  transaction.ocpiData.bind TransactionOcpiData.cdr

/-- The CDR over OICP that the transaction carries. -/
def oicpCdr (transaction : RoamingTransaction) : Option OICPChargeDetailRecord :=
  transaction.oicpData.bind TransactionOicpData.cdr

/-- `ocpiData?.session`. -/
def ocpiSession (transaction : RoamingTransaction) : Option OCPISession :=
  transaction.ocpiData.bind TransactionOcpiData.session

/-- `oicpData?.session`. -/
def oicpSession (transaction : RoamingTransaction) : Option OICPSession :=
  transaction.oicpData.bind TransactionOicpData.session

/-- `ocpiData.cdr?.id`. -/
def hasOcpiCdrID (transaction : RoamingTransaction) : Bool :=
  transaction.ocpiCdr.any fun cdr => cdr.id ≠ ""

/-- `oicpData.cdr?.SessionID`. -/
def hasOicpCdrID (transaction : RoamingTransaction) : Bool :=
  transaction.oicpCdr.any fun cdr => cdr.sessionID ≠ ""

/-- `ocpiData.cdr` is set. -/
def withOcpiCdr (transaction : RoamingTransaction) (cdr : OCPICdr) : RoamingTransaction :=
  { transaction with ocpiData := some { session := transaction.ocpiSession, cdr := some cdr } }

/-- `oicpData.cdr` is set. -/
def withOicpCdr (transaction : RoamingTransaction) (cdr : OICPChargeDetailRecord) :
    RoamingTransaction :=
  { transaction with oicpData := some { session := transaction.oicpSession, cdr := some cdr } }

end RoamingTransaction

/-- A CDR is sent over OCPI only when it has charging periods and consumed energy. -/
def OCPICdr.hasConsumption (cdr : OCPICdr) : Bool :=
  !cdr.chargingPeriods.isEmpty && decide (0 < cdr.totalEnergy)

/-! ## The clients -/

namespace CpoOCPIClient

variable (context : RoamingContext)

/-- The CDR of a session that has been stopped. -/
def buildCdr (transaction : RoamingTransaction) (session : OCPISession) (stop : RoamingStop)
    (chargingPeriods : List OCPIChargingPeriod) : OCPICdr :=
  { id := session.id
    startDateTime := transaction.timestamp
    stopDateTime := stop.timestamp
    totalParkingTime := (stop.totalInactivitySecs + stop.extraInactivitySecs) / 3600
    totalTime := stop.totalDurationSecs / 3600
    totalEnergy := stop.totalConsumptionWh / 1000
    currency := context.currency
    authID := session.authID
    authorizationID := session.authorizationID
    totalCost := if 0 < stop.roundedPrice then stop.roundedPrice else 0
    chargingPeriods := chargingPeriods
    lastUpdated := stop.timestamp }

/-- The post of a CDR; the platform remembers it. -/
def post (cdr : OCPICdr) : CdrHandler Unit := do
  Handler.write (.ok ()) fun store =>
    { store with
      ocpiPosts := store.ocpiPosts ++ [⟨cdr, (context.postOCPI cdr).isOk⟩] }
  Handler.ofExcept (context.postOCPI cdr)

/-- `postCdr`: the transaction with its CDR. -/
def postCdr (transaction : RoamingTransaction) : CdrHandler RoamingTransaction :=
  match transaction.stop, transaction.ocpiSession with
  | none, _ => Handler.ofExcept (.error "Transaction has not yet been stopped")
  | some _, none => Handler.ofExcept (.error "OCPI Session does not exists")
  | some stop, some session =>
      if transaction.hasOcpiCdrID then
        Handler.ofExcept (.error "OCPI CDR has already been sent for this Transaction")
      else do
        Handler.ofExcept context.ocpiEndpointUrl
        let chargingPeriods ← Handler.ofExcept (context.buildChargingPeriods transaction)
        let cdr := buildCdr context transaction session stop chargingPeriods
        let transaction := transaction.withOcpiCdr cdr
        -- Send CDR only if there is charging periods and consummed energy
        if cdr.hasConsumption then do
          post context cdr
          return transaction
        else return transaction

end CpoOCPIClient

namespace CpoOICPClient

variable (context : RoamingContext)

/-- The CDR of a session that has been stopped. -/
def buildCdr (transaction : RoamingTransaction) (session : OICPSession) (stop : RoamingStop) :
    OICPChargeDetailRecord :=
  { sessionID := session.id
    cpoPartnerSessionID := if transaction.id ≠ 0 then some (toString transaction.id) else none
    empPartnerSessionID := session.empPartnerSessionID
    evseID := session.evseID
    chargingStart := transaction.timestamp
    chargingEnd := stop.timestamp
    sessionStart := session.startDatetime
    sessionEnd := session.endDatetime
    meterValueStart := Utils.truncTo (transaction.meterStart / 1000) 3
    meterValueEnd := Utils.truncTo (stop.meterStop / 1000) 3
    meterValueInBetween :=
      if session.meterValueInBetween.isEmpty then none
      else some (session.meterValueInBetween.map fun wattHour => Utils.truncTo (wattHour / 1000) 3)
    consumedEnergy := Utils.truncTo (stop.totalConsumptionWh / 1000) 3 }

/-- `pushCdr`: the transaction with its CDR.  Whatever the platform answers is written to
the log. -/
def pushCdr (transaction : RoamingTransaction) : CdrHandler RoamingTransaction :=
  match transaction.oicpSession, transaction.stop with
  | none, _ => Handler.ofExcept (.error "OICP Session data does not exists")
  | some _, none => Handler.ofExcept (.error "OICP Session has not been stopped")
  | some session, some stop => do
      Handler.ofExcept context.oicpEndpointUrl
      let cdr := buildCdr transaction session stop
      Handler.write (.ok ()) fun store =>
        { store with
          oicpPosts := store.oicpPosts ++ [⟨cdr, (context.postOICP cdr).getD false⟩] }
      return transaction.withOicpCdr cdr

end CpoOICPClient

/-! ## Who sends a CDR -/

namespace OCPPUtils

variable (context : RoamingContext)

/-- `processOCPITransaction` at the end of a transaction. -/
def processOCPITransaction (transaction : RoamingTransaction) : CdrHandler RoamingTransaction :=
  if context.ocpiClient then CpoOCPIClient.postCdr context transaction
  else Handler.ofExcept (.error "OCPI component requires at least one CPO endpoint")

/-- `processOICPTransaction` at the end of a transaction. -/
def processOICPTransaction (transaction : RoamingTransaction) : CdrHandler RoamingTransaction :=
  if transaction.userIssuer = some false then
    if context.oicpClient then CpoOICPClient.pushCdr context transaction
    else Handler.ofExcept (.error "OICP component requires at least one CPO endpoint")
  else return transaction

/-- A component processes the transaction when it is active. -/
def processWhen (active : Bool) (process : RoamingTransaction → CdrHandler RoamingTransaction)
    (transaction : RoamingTransaction) : CdrHandler RoamingTransaction :=
  if active then process transaction else return transaction

/-- `processTransactionRoaming` at the end of a transaction, which throws what it catches. -/
def processTransactionRoamingEnd (transaction : RoamingTransaction) :
    CdrHandler RoamingTransaction :=
  if transaction.userIssuer = some false ∧ context.accessControl then do
    let transaction ← processWhen context.ocpiActive (processOCPITransaction context) transaction
    processWhen context.oicpActive (processOICPTransaction context) transaction
  else return transaction

end OCPPUtils

namespace TransactionStorage

/-- `saveTransaction`. -/
def saveRoamingTransaction (transaction : RoamingTransaction) : CdrHandler Unit :=
  Handler.write (.ok ()) fun store => { store with transaction := transaction }

/-- `saveTransactionOcpiData`. -/
def saveTransactionOcpiData (ocpiData : Option TransactionOcpiData) : CdrHandler Unit :=
  Handler.write (.ok ()) fun store =>
    { store with transaction := { store.transaction with ocpiData := ocpiData } }

/-- `saveTransactionOicpData`. -/
def saveTransactionOicpData (oicpData : Option TransactionOicpData) : CdrHandler Unit :=
  Handler.write (.ok ()) fun store =>
    { store with transaction := { store.transaction with oicpData := oicpData } }

end TransactionStorage

namespace OCPPService

variable (context : RoamingContext)

/-- `checkAndSendOCPITransactionCdr`: the transaction, and whether it has been updated. -/
def checkAndSendOCPITransactionCdr (transaction : RoamingTransaction) :
    CdrHandler (RoamingTransaction × Bool) :=
  -- CDR not already pushed
  if transaction.ocpiSession.isSome && !transaction.hasOcpiCdrID && context.pushCdrLock then
    (OCPPUtils.processTransactionRoamingEnd context transaction) >>= fun transaction =>
      return (transaction, true)
  else return (transaction, false)

/-- `checkAndSendOICPTransactionCdr`. -/
def checkAndSendOICPTransactionCdr (transaction : RoamingTransaction) :
    CdrHandler (RoamingTransaction × Bool) :=
  -- CDR not already pushed
  if transaction.oicpSession.isSome && !transaction.hasOicpCdrID && context.pushCdrLock then
    (OCPPUtils.processTransactionRoamingEnd context transaction) >>= fun transaction =>
      return (transaction, true)
  else return (transaction, false)

/-- `checkAndUpdateLastCompletedTransactionFromStatusNotification`, for a transaction that has
been read. -/
def completeRoamingTransaction (transaction : RoamingTransaction) : CdrHandler Unit :=
  match transaction.stop with
  | none => return ()
  | some stop => do
      let (stop, transactionUpdated) ← Handler.ofExcept (context.completeStop stop)
      let (transaction, ocpiUpdated) ←
        checkAndSendOCPITransactionCdr context { transaction with stop := some stop }
      let (transaction, oicpUpdated) ← checkAndSendOICPTransactionCdr context transaction
      if transactionUpdated || ocpiUpdated || oicpUpdated then
        TransactionStorage.saveRoamingTransaction transaction
      else return ()

end OCPPService

namespace TransactionService

variable (context : RoamingContext)

/-- The part of `handlePushTransactionCdr` about OCPI. -/
def pushOcpiCdr (transaction : RoamingTransaction) : CdrHandler RoamingTransaction :=
  if transaction.ocpiSession.isSome then
    if transaction.hasOcpiCdrID then
      Handler.ofExcept (.error "The CDR of the Transaction has already been pushed")
    else if context.pushCdrLock then do
      let transaction ← OCPPUtils.processTransactionRoamingEnd context transaction
      TransactionStorage.saveTransactionOcpiData transaction.ocpiData
      return transaction
    else return transaction
  else return transaction

/-- The part of `handlePushTransactionCdr` about OICP. -/
def pushOicpCdr (transaction : RoamingTransaction) : CdrHandler RoamingTransaction :=
  if transaction.oicpSession.isSome then
    if transaction.hasOicpCdrID then
      Handler.ofExcept (.error "The CDR of the transaction has already been pushed")
    else if context.pushCdrLock then do
      let transaction ← OCPPUtils.processOICPTransaction context transaction
      TransactionStorage.saveTransactionOicpData transaction.oicpData
      -- The log reads the CDR over OCPI here too.
      Handler.ofExcept <| if transaction.ocpiData.isSome then .ok transaction
        else .error "Cannot read properties of undefined"
    else return transaction
  else return transaction

/-- `handlePushTransactionCdr`, for a transaction that has been read. -/
def pushTransactionCdr (transaction : RoamingTransaction) : CdrHandler Unit := do
  Handler.ofExcept context.checks
  if transaction.issuer then
    if transaction.oicpSession.isNone && transaction.ocpiSession.isNone then
      Handler.ofExcept (.error "No OCPI or OICP Session data")
    else do
      let transaction ← pushOcpiCdr context transaction
      let _ ← pushOicpCdr context transaction
      return ()
  else Handler.ofExcept (.error "Transaction belongs to an external organization")

end TransactionService

namespace OCPIPushCdrsTask

variable (context : RoamingContext)

/-- The task finds the transaction: it has been stopped, and carries no CDR. -/
def finds (transaction : RoamingTransaction) : Bool :=
  transaction.stop.isSome && transaction.ocpiData.isSome && transaction.ocpiCdr.isNone

/-- What the task does with a transaction that it has read under the lock. -/
def pushCdrOf (transaction : RoamingTransaction) : CdrHandler Unit :=
  if transaction.ocpiCdr.isSome then return ()
  else do
    Handler.ofExcept context.checks
    let transaction ← OCPPUtils.processTransactionRoamingEnd context transaction
    TransactionStorage.saveTransactionOcpiData transaction.ocpiData

/-- `OCPIPushCdrsTask.processTenant`, for the transaction. -/
def processTransaction (transaction : RoamingTransaction) : CdrHandler Unit :=
  if context.ocpiActive && finds transaction && context.pushCdrLock then
    pushCdrOf context transaction
  else return ()

end OCPIPushCdrsTask

end EvServer
