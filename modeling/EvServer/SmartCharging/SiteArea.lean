import Mathlib.Data.Fintype.Pi
import EvServer.Ocpp.Store

/-!
# Site areas as smart charging sees them

The optimizer is given a site area with the connectors that are charging: the stations are
read with the connectors of these statuses only.  What a site area can draw from the grid is
an amount for each phase.
-/

namespace EvServer

/-- `OptimizerPhase`. -/
inductive OptimizerPhase
  | phase1
  | phase2
  | phase3
  deriving DecidableEq, Repr

instance : Fintype OptimizerPhase where
  elems := {.phase1, .phase2, .phase3}
  complete := by rintro ⟨⟩ <;> decide

/-- The properties `…Phase1`, `…Phase2` and `…Phase3`, in amps. -/
abbrev PhaseAmps := OptimizerPhase → ℚ

/-- `Voltage.VOLTAGE_230` and `Voltage.VOLTAGE_110`, the voltages of a site area. -/
def SiteArea.voltages : List ℚ := [230, 110]

/-- `SiteArea`, with its charging stations. -/
structure SiteArea where
  id : String
  name : String := ""
  /-- In watts; `0` when it is not set. -/
  maximumPower : ℚ
  voltage : ℚ
  numberOfPhases : ℕ
  chargingStations : Collection ChargingStation.id
  /-- Each connector of a station has its own ID. -/
  apart : ∀ chargingStation ∈ chargingStations.docs,
    (chargingStation.connectors.map Connector.connectorId).Nodup

/-- `AssetType`. -/
inductive AssetType
  | consumption
  | production
  | consumptionAndProduction
  deriving DecidableEq, Repr

/-- `Asset`. -/
structure Asset where
  siteAreaID : String
  assetType : AssetType
  excludeFromSmartCharging : Bool := false
  dynamicAsset : Bool := false
  staticValueWatt : ℚ := 0
  fluctuationPercent : ℚ := 0
  currentInstantWatts : ℚ := 0
  /-- `lastConsumption?.timestamp`. -/
  lastConsumption : Option Timestamp := none
  deriving DecidableEq, Repr

/-- The asset type consumes. -/
def AssetType.consumes (assetType : AssetType) : Bool :=
  assetType = .consumption || assetType = .consumptionAndProduction

/-- What a dynamic asset is counted with: what it consumes now with the fluctuation added, or
its static value when that is not known. -/
def Asset.consumptionSaveValue (now : Timestamp) (asset : Asset) : ℚ :=
  let fluctuation := asset.staticValueWatt * (asset.fluctuationPercent / 100)
  -- `moment(undefined)` is the present.
  if (now - asset.lastConsumption.getD now).tdiv 60000 < 2 then
    if 0 < asset.currentInstantWatts then
      if asset.currentInstantWatts + fluctuation < asset.staticValueWatt then
        asset.currentInstantWatts + fluctuation
      else asset.staticValueWatt
    else if asset.currentInstantWatts < 0 then
      if asset.currentInstantWatts + fluctuation < 0 then asset.currentInstantWatts + fluctuation
      else 0
    else 0
  else if asset.assetType.consumes then asset.staticValueWatt
  else 0

/-- What smart charging reads besides the site area. -/
structure SmartChargingContext where
  /-- `TransactionStorage.getTransaction`. -/
  transactions : Collection Transaction.id
  /-- The component `TenantComponents.ASSET` is active. -/
  assetComponent : Bool := false
  assets : List Asset := []
  now : Timestamp := 0

/-- `getAssetConsumptionInWatts`. -/
def getAssetConsumptionInWatts (context : SmartChargingContext) (siteAreaID : String) : ℚ :=
  if context.assetComponent then
    (((context.assets.filter fun asset => asset.siteAreaID = siteAreaID).filter
      fun asset => !asset.excludeFromSmartCharging).map fun asset =>
        if asset.dynamicAsset then asset.consumptionSaveValue context.now
        else if asset.assetType.consumes then asset.staticValueWatt
        else 0).sum
  else 0

/-- `checkIfSiteAreaIsValid`; a site area always comes with its charging stations. -/
def checkIfSiteAreaIsValid (siteArea : SiteArea) : Except String Unit :=
  if siteArea.maximumPower = 0 then
    .error s!"Maximum Power is not set in Site Area '{siteArea.name}'"
  else if siteArea.voltage ∉ SiteArea.voltages then
    .error s!"Voltage must be either 110V or 230V in Site Area '{siteArea.name}'"
  else if siteArea.numberOfPhases ≠ 1 ∧ siteArea.numberOfPhases ≠ 3 then
    .error s!"Number of phases must be either 1 or 3 in Site Area '{siteArea.name}'"
  else .ok ()

end EvServer
