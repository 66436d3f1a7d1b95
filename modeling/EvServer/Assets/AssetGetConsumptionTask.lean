import EvServer.Lib.Documents
import EvServer.Utils

/-!
# The consumptions of an asset (`AssetGetConsumptionTask`, `ConsumptionStorage`)

Every server runs a task that reads the dynamic assets of a tenant and then takes them one
after the other: it takes the lock of the asset, asks its meter for readings, saves a
consumption for each reading that is not too close to the one before, and in the end saves
the asset with its last reading.

The state is that of one asset, and a run is the passage of one server through it.  The lock
is taken to be exclusive.  What a meter answers is a step of its own and arbitrary.  The
writes of others (the requests that push a consumption, smart charging) are left out.
-/

namespace EvServer

namespace AssetGetConsumptionTask

/-- `lastConsumption` of an `AbstractCurrentConsumption`. -/
structure LastConsumption where
  value : ℚ
  timestamp : Timestamp
  deriving DecidableEq, Repr

/-- What else `assignAssetConsumption` takes over. -/
structure CurrentConsumption where
  currentConsumptionWh : ℚ := 0
  currentInstantAmps : ℚ := 0
  currentInstantAmpsL1 : ℚ := 0
  currentInstantAmpsL2 : ℚ := 0
  currentInstantAmpsL3 : ℚ := 0
  currentInstantVolts : ℚ := 0
  currentInstantVoltsL1 : ℚ := 0
  currentInstantVoltsL2 : ℚ := 0
  currentInstantVoltsL3 : ℚ := 0
  currentInstantWatts : ℚ := 0
  currentInstantWattsL1 : ℚ := 0
  currentInstantWattsL2 : ℚ := 0
  currentInstantWattsL3 : ℚ := 0
  currentStateOfCharge : ℚ := 0
  deriving DecidableEq, Repr

/-- A reading of the meter. -/
structure Reading where
  lastConsumption : LastConsumption
  current : CurrentConsumption := {}
  deriving DecidableEq, Repr

/-- `Asset`, with what the task reads of its site area. -/
structure Asset where
  id : String
  siteAreaID : String
  siteID : String
  voltage : ℚ
  usesPushAPI : Bool := false
  lastConsumption : Option LastConsumption := none
  current : CurrentConsumption := {}
  deriving DecidableEq, Repr

/-- What `addSiteLimitationToConsumption` sets. -/
structure SiteLimitation where
  limitSiteAreaWatts : ℚ := 0
  limitSiteAreaAmps : ℚ := 0
  limitSiteAreaSource : Option String := none
  smartChargingActive : Bool := false
  deriving DecidableEq, Repr

/-- A consumption of an asset. -/
structure AssetConsumption where
  startedAt : Timestamp
  endedAt : Timestamp
  assetID : String
  siteAreaID : String
  siteID : String
  cumulatedConsumptionWh : ℚ
  cumulatedConsumptionAmps : ℤ
  instantAmps : ℚ
  instantWatts : ℚ
  stateOfCharge : ℚ
  limit : SiteLimitation
  deriving DecidableEq, Repr

/-- What the `_id` of a consumption is a hash of. -/
def AssetConsumption.key (consumption : AssetConsumption) : String × Timestamp :=
  (consumption.assetID, consumption.endedAt)

/-- The date of the last reading. -/
def Asset.lastTimestamp (asset : Asset) : Option Timestamp :=
  asset.lastConsumption.map LastConsumption.timestamp

/-- The reading comes too early after the last one, or before it. -/
def isRecent (asset : Asset) (reading : Reading) : Bool :=
  asset.lastTimestamp.any fun last =>
    Utils.diffSeconds reading.lastConsumption.timestamp last < 50

/-- `consumptionToSave`. -/
def consumptionToSave (asset : Asset) (limit : SiteLimitation) (reading : Reading) :
    AssetConsumption where
  startedAt := asset.lastTimestamp.getD (reading.lastConsumption.timestamp - 60 * 1000)
  endedAt := reading.lastConsumption.timestamp
  assetID := asset.id
  siteAreaID := asset.siteAreaID
  siteID := asset.siteID
  cumulatedConsumptionWh := reading.current.currentConsumptionWh
  cumulatedConsumptionAmps := ⌊reading.current.currentConsumptionWh / asset.voltage⌋
  instantAmps := reading.current.currentInstantAmps
  instantWatts := reading.current.currentInstantWatts
  stateOfCharge := reading.current.currentStateOfCharge
  limit := limit

def assignAssetConsumption (asset : Asset) (reading : Reading) : Asset :=
  { asset with lastConsumption := some reading.lastConsumption, current := reading.current }

/-- Where a run is with the asset. -/
inductive Pc
  | idle
  /-- With the asset that was read. -/
  | copied (asset : Asset)
  /-- With the lock, before the readings are retrieved. -/
  | locked (asset : Asset)
  /-- In the loop over the readings. -/
  | looping (asset : Asset) (readings : List Reading) (limit : SiteLimitation)
  /-- In the `finally`. -/
  | releasing
  | done
  deriving DecidableEq, Repr

/-- A step of a run. -/
inductive Action
  | read
  | acquire
  /-- The meter answers. -/
  | retrieve (readings : List Reading) (limit : SiteLimitation)
  /-- The next reading. -/
  | process
  | saveAsset
  /-- Something throws under the lock. -/
  | fail
  | release
  deriving DecidableEq, Repr

/-- What is stored of the asset. -/
structure AssetStore (P : Type) where
  asset : Asset
  consumptions : Collection AssetConsumption.key
  lock : Option P

/-- `AssetStorage.saveAsset`; the last reading stays when there is none to save. -/
def saveAsset (stored asset : Asset) : Asset :=
  { asset with lastConsumption := asset.lastConsumption <|> stored.lastConsumption }

variable {P : Type}

/-- A step of the run `p`; `none` when it cannot take it. -/
def turn (p : P) (store : AssetStore P) : Pc → Action → Option (Pc × AssetStore P)
  | .idle, .read =>
      some (if store.asset.usesPushAPI then .done else .copied store.asset, store)
  | .copied asset, .acquire =>
      if store.lock.isSome then some (.done, store)
      else some (.locked asset, { store with lock := some p })
  | .locked asset, .retrieve readings limit =>
      some (if readings.isEmpty then .releasing else .looping asset readings limit, store)
  | .looping asset (reading :: rest) limit, .process =>
      if isRecent asset reading then some (.looping asset rest limit, store)
      else
        some (.looping (assignAssetConsumption asset reading) rest limit,
          { store with
            consumptions := store.consumptions.save (consumptionToSave asset limit reading) })
  | .looping asset [] _, .saveAsset =>
      some (.releasing, { store with asset := saveAsset store.asset asset })
  | .locked _, .fail | .looping _ _ _, .fail => some (.releasing, store)
  | .releasing, .release => some (.done, { store with lock := none })
  | _, _ => none

/-- The store and the runs. -/
structure State (P : Type) where
  store : AssetStore P
  pc : P → Pc

namespace State

/-- Before the first run. -/
def start (asset : Asset) (consumptions : Collection AssetConsumption.key) : State P :=
  ⟨⟨asset, consumptions, none⟩, fun _ => .idle⟩

variable [DecidableEq P]

/-- The state after a step of a run. -/
def next (s : State P) (event : P × Action) : Option (State P) :=
  (turn event.1 s.store (s.pc event.1) event.2).map fun result =>
    { store := result.2, pc := Function.update s.pc event.1 result.1 }

/-- The step relation. -/
def Step (s : State P) (event : P × Action) (s' : State P) : Prop := s.next event = some s'

end State

end AssetGetConsumptionTask

end EvServer
