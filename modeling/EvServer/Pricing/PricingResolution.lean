import EvServer.Pricing.WholeSteps
import EvServer.Roaming.EmspLocations

/-!
# Which definition prices a chunk (`PricingEngine`, `BuiltInPricingIntegration`)

When a session starts, the definitions of its charging station, its site and its tenant are read,
the latest ones first, and those are kept whose static restrictions hold for the session.  Behind
them comes a default definition.  From then on each chunk is priced by the first of them whose
other restrictions it meets.  The lookups for the site area and the company are commented out in
the source.
-/

namespace EvServer

open EmspLocations (ConnectorType)

/-- `PricingEntity`. -/
inductive PricingEntity
  | tenant
  | company
  | site
  | siteArea
  | chargingStation
  deriving DecidableEq, Repr

/-- `PricingStaticRestriction`. -/
structure PricingStaticRestriction where
  validFrom : Option Timestamp := none
  validTo : Option Timestamp := none
  connectorType : Option ConnectorType := none
  connectorPowerkW : Option ℚ := none
  deriving DecidableEq, Repr

/-- `PricingDefinition`; it is shrunk to the resolved definition. -/
structure PricingDefinition extends ResolvedPricingDefinition where
  id : String
  entityID : String
  entityType : PricingEntity
  staticRestrictions : Option PricingStaticRestriction := none
  createdOn : Timestamp
  deleted : Bool := false
  deriving DecidableEq, Repr

/-- The collection `pricingdefinitions`. -/
abbrev PricingDefinitions := Collection PricingDefinition.id

/-- A connector with its type. -/
structure TypedConnector extends Connector where
  type : Option ConnectorType := none

/-- `PricingStorage.getPricingDefinitions` for an entity, sorted by `createdOn: -1`. -/
def PricingStorage.getPricingDefinitions (pricingDefinitions : PricingDefinitions)
    (entityID : String) : List PricingDefinition :=
  (pricingDefinitions.docs.filter fun pricingDefinition =>
    pricingDefinition.entityID = entityID && !pricingDefinition.deleted).mergeSort
    fun pricingDefinition other => other.createdOn ≤ pricingDefinition.createdOn

namespace PricingEngine

/-- `checkDateValidity`. -/
def checkDateValidity (staticRestrictions : PricingStaticRestriction) (transaction : Transaction) :
    Bool :=
  !(staticRestrictions.validFrom.any fun validFrom => transaction.timestamp < validFrom) &&
    !(staticRestrictions.validTo.any fun validTo => validTo ≤ transaction.timestamp)

/-- The connector of the transaction; `chargingStation` are the connectors of the station. -/
def connectorOf (transaction : Transaction) (chargingStation : List TypedConnector) :
    Option TypedConnector :=
  chargingStation.find? fun connector => connector.connectorId = transaction.connectorId

/-- `checkConnectorType`. -/
def checkConnectorType (staticRestrictions : PricingStaticRestriction) (transaction : Transaction)
    (chargingStation : List TypedConnector) : Bool :=
  match staticRestrictions.connectorType with
  | none => true
  | some connectorType =>
      (connectorOf transaction chargingStation).bind TypedConnector.type = some connectorType

/-- `checkConnectorPower`; a power that is not set counts as 0. -/
def checkConnectorPower (staticRestrictions : PricingStaticRestriction) (transaction : Transaction)
    (chargingStation : List TypedConnector) : Bool :=
  match staticRestrictions.connectorPowerkW with
  | none => true
  | some connectorPowerkW =>
      (((connectorOf transaction chargingStation).bind fun connector =>
        connector.power).getD 0) / 1000 = connectorPowerkW

/-- `checkStaticRestrictions`. -/
def checkStaticRestrictions (transaction : Transaction) (chargingStation : List TypedConnector)
    (pricingDefinition : PricingDefinition) : Bool :=
  match pricingDefinition.staticRestrictions with
  | none => true
  | some staticRestrictions =>
      checkDateValidity staticRestrictions transaction &&
        checkConnectorType staticRestrictions transaction chargingStation &&
        checkConnectorPower staticRestrictions transaction chargingStation

section Resolve

variable (pricingDefinitions : PricingDefinitions) (transaction : Transaction)
  (chargingStation : List TypedConnector)

/-- `fetchPricingDefinitions4Entity` and `checkEntityType`: the definitions of an entity. -/
def fetchPricingDefinitions4Entity (entityType : PricingEntity) (entityID : String) :
    List PricingDefinition :=
  if entityID = "" then []
  else
    (PricingStorage.getPricingDefinitions pricingDefinitions entityID).filter
      fun pricingDefinition => pricingDefinition.entityType = entityType

/-- `getPricingDefinitions4Entity`. -/
def getPricingDefinitions4Entity (entityType : PricingEntity) (entityID : String) :
    List ResolvedPricingDefinition :=
  ((fetchPricingDefinitions4Entity pricingDefinitions entityType entityID).filter
    (checkStaticRestrictions transaction chargingStation)).map
      PricingDefinition.toResolvedPricingDefinition

/-- `PricingEngine.resolvePricingContext`. -/
def resolvePricingContext (tenantID : String) : ResolvedPricingModel where
  pricingDefinitions :=
    getPricingDefinitions4Entity pricingDefinitions transaction chargingStation
        .chargingStation transaction.chargeBoxID ++
      getPricingDefinitions4Entity pricingDefinitions transaction chargingStation
        .site (transaction.siteID.getD "") ++
      getPricingDefinitions4Entity pricingDefinitions transaction chargingStation
        .tenant tenantID
  pricerContext := {
    flatFeeAlreadyPriced := false
    sessionStartDate := transaction.timestamp
    timezone := transaction.timezone }

end Resolve

end PricingEngine

namespace BuiltInPricingIntegration

/-- `getDefaultPricingDefinition`. -/
def getDefaultPricingDefinition : ResolvedPricingDefinition where
  name := "No Tariff"
  dimensions := { energy := some { active := true, price := 0 } }

/-- `BuiltInPricingIntegration.resolvePricingContext`. -/
def resolvePricingContext (pricingDefinitions : PricingDefinitions) (transaction : Transaction)
    (chargingStation : List TypedConnector) (tenantID : String) : ResolvedPricingModel :=
  let resolvedPricingModel :=
    PricingEngine.resolvePricingContext pricingDefinitions transaction chargingStation tenantID
  { resolvedPricingModel with
    pricingDefinitions :=
      resolvedPricingModel.pricingDefinitions ++ [getDefaultPricingDefinition] }

end BuiltInPricingIntegration

/-! ## The order of the definitions -/

namespace PricingEngine

/-- The ID of an entity of a session; empty when it has none. -/
def entityID (tenantID : String) (transaction : Transaction) : PricingEntity → String
  | .tenant => tenantID
  | .company => transaction.companyID.getD ""
  | .site => transaction.siteID.getD ""
  | .siteArea => transaction.siteAreaID.getD ""
  | .chargingStation => transaction.chargeBoxID

/-- The definitions of some entities of a session, one entity after the other. -/
def rankedDefinitions (pricingDefinitions : PricingDefinitions) (tenantID : String)
    (transaction : Transaction) (entities : List PricingEntity) : List PricingDefinition :=
  entities.flatMap fun entityType =>
    fetchPricingDefinitions4Entity pricingDefinitions entityType
      (entityID tenantID transaction entityType)

/-- The restrictions of a definition hold: the static ones for the session, the others for the
chunk. -/
def restrictionsHold (zoneTime : String → Timestamp → LocalTime) (transaction : Transaction)
    (chargingStation : List TypedConnector) (chunk : ConsumptionChunk)
    (pricingDefinition : PricingDefinition) : Bool :=
  checkStaticRestrictions transaction chargingStation pricingDefinition &&
    ConsumptionChunkPricer.checkPricingDefinitionRestrictions zoneTime
      { sessionStartDate := transaction.timestamp, timezone := transaction.timezone } chunk
      pricingDefinition.toResolvedPricingDefinition

/-- The definition at a position of the model is the first of the ranked ones whose restrictions
hold, or the default one when there is none: the model has the ones ahead of it whose static
restrictions hold. -/
structure IsFirstThatHolds (zoneTime : String → Timestamp → LocalTime) (transaction : Transaction)
    (chargingStation : List TypedConnector) (chunk : ConsumptionChunk)
    (ranked : List PricingDefinition) (index : ℕ) (definition : ResolvedPricingDefinition) :
    Prop where
  index_eq : index = (ranked.takeWhile fun pricingDefinition =>
    !restrictionsHold zoneTime transaction chargingStation chunk pricingDefinition).countP
      (checkStaticRestrictions transaction chargingStation)
  tariff_eq : definition.tariff =
    (((ranked.find? (restrictionsHold zoneTime transaction chargingStation chunk)).map
      PricingDefinition.toResolvedPricingDefinition).getD
        BuiltInPricingIntegration.getDefaultPricingDefinition).tariff

section Search

variable {A B : Type} (static : A → Bool) (resolve : A → B) {dynamic : B → Bool} {fallback : B}

/-- Among the elements that pass a first test, with one behind them that passes the second, the
first that passes the second is the first that passes both. -/
theorem findIdx?_filter_append (passes : dynamic fallback) (ranked : List A) :
    ((ranked.filter static).map resolve ++ [fallback]).findIdx? dynamic =
        some ((ranked.takeWhile fun a => !(static a && dynamic (resolve a))).countP static) ∧
      ((ranked.filter static).map resolve ++ [fallback])[
          (ranked.takeWhile fun a => !(static a && dynamic (resolve a))).countP static]? =
        some (((ranked.find? fun a => static a && dynamic (resolve a)).map resolve).getD
          fallback) := by
  induction ranked with
  | nil => simp [List.findIdx?_cons, passes]
  | cons a rest ih =>
      obtain ⟨index, element⟩ := ih
      cases isStatic : static a with
      | false =>
          rw [List.filter_cons_of_neg (by simp [isStatic]), List.takeWhile_cons_of_pos
            (by simp [isStatic]), List.countP_cons_of_neg (by simp [isStatic]),
            List.find?_cons_of_neg (by simp [isStatic])]
          exact ⟨index, element⟩
      | true =>
          rw [List.filter_cons_of_pos isStatic, List.map_cons, List.cons_append,
            List.findIdx?_cons]
          cases isDynamic : dynamic (resolve a) with
          | true =>
              rw [List.takeWhile_cons_of_neg (by simp [isStatic, isDynamic]),
                List.find?_cons_of_pos (by simp [isStatic, isDynamic])]
              exact ⟨rfl, rfl⟩
          | false =>
              rw [List.takeWhile_cons_of_pos (by simp [isDynamic]),
                List.countP_cons_of_pos isStatic, index,
                List.find?_cons_of_neg (by simp [isDynamic])]
              exact ⟨rfl, element⟩

end Search

section Session

variable (zoneTime : String → Timestamp → LocalTime)

/-- The model after chunks of a session. -/
def priceChunks (model : ResolvedPricingModel) (chunks : List ConsumptionChunk) :
    Except String ResolvedPricingModel :=
  chunks.foldlM (fun model chunk =>
    (ConsumptionChunkPricer.priceConsumptionChunk zoneTime model chunk).map Prod.snd) model

variable {zoneTime} {model model' resolved : ResolvedPricingModel}

/-- The model is the resolved one, up to what has been priced. -/
structure IsResolvedAs (resolved model : ResolvedPricingModel) : Prop where
  tariffs : model.pricingDefinitions.map ResolvedPricingDefinition.tariff =
    resolved.pricingDefinitions.map ResolvedPricingDefinition.tariff
  timezone : model.pricerContext.timezone = resolved.pricerContext.timezone

/-- A chunk leaves the model as it was resolved. -/
theorem IsResolvedAs.priceConsumptionChunk (isResolved : IsResolvedAs resolved model)
    {chunk : ConsumptionChunk} {pricedData : PricedConsumptionData}
    (h : ConsumptionChunkPricer.priceConsumptionChunk zoneTime model chunk =
      .ok (pricedData, model')) : IsResolvedAs resolved model' := by
  have tariffs := (ConsumptionChunkPricer.pricesChunk_of_priceConsumptionChunk h).amount.tariffs
  obtain ⟨index, definition, -, rfl, -⟩ := ConsumptionChunkPricer.priceConsumptionChunk_ok h
  exact ⟨tariffs.trans isResolved.tariffs,
    (ConsumptionChunkPricer.timezone_priceDimensions _ _).trans isResolved.timezone⟩

/-- When some definition always matches, all chunks of a session are priced, and the model stays
as it was resolved. -/
theorem exists_priceChunks (always : ∀ chunk, ∃ index,
      ConsumptionChunkPricer.actualPricingDefinition zoneTime resolved chunk = some index)
    (isResolved : IsResolvedAs resolved model) (chunks : List ConsumptionChunk) :
    ∃ after, priceChunks zoneTime model chunks = .ok after ∧ IsResolvedAs resolved after := by
  induction chunks generalizing model with
  | nil => exact ⟨model, rfl, isResolved⟩
  | cons chunk rest ih =>
      obtain ⟨index, actual⟩ := always chunk
      rw [← ConsumptionChunkPricer.actualPricingDefinition_congr isResolved.tariffs
        isResolved.timezone] at actual
      obtain ⟨⟨pricedData, model'⟩, priced⟩ :=
        ConsumptionChunkPricer.exists_priceConsumptionChunk_of_actual actual
      obtain ⟨after, others, isResolved'⟩ := ih (isResolved.priceConsumptionChunk priced)
      refine ⟨after, ?_, isResolved'⟩
      rw [priceChunks, Outcome.foldlM_cons_eq_ok]
      exact ⟨model', Outcome.map_eq_ok.mpr ⟨_, priced, rfl⟩, others⟩

end Session

section Chunk

variable (zoneTime : String → Timestamp → LocalTime) (pricingDefinitions : PricingDefinitions)
  (transaction : Transaction) (chargingStation : List TypedConnector) (tenantID : String)

/-- The definitions of the resolved model are the ranked ones whose static restrictions hold, and
the default one. -/
theorem pricingDefinitions_resolvePricingContext :
    (BuiltInPricingIntegration.resolvePricingContext pricingDefinitions transaction chargingStation
        tenantID).pricingDefinitions =
      ((rankedDefinitions pricingDefinitions tenantID transaction
        [.chargingStation, .site, .tenant]).filter
          (checkStaticRestrictions transaction chargingStation)).map
            PricingDefinition.toResolvedPricingDefinition ++
        [BuiltInPricingIntegration.getDefaultPricingDefinition] := by
  change (_ ++ _ ++ _) ++ [_] = _
  simp only [rankedDefinitions, List.flatMap_cons, List.flatMap_nil, List.append_nil,
    List.filter_append, List.map_append, List.append_assoc]
  rfl

/-- The definition of the resolved model that prices a chunk. -/
theorem actualPricingDefinition_resolvePricingContext (chunk : ConsumptionChunk) :
    ∃ index definition,
      ConsumptionChunkPricer.actualPricingDefinition zoneTime
          (BuiltInPricingIntegration.resolvePricingContext pricingDefinitions transaction
            chargingStation tenantID) chunk = some index ∧
        (BuiltInPricingIntegration.resolvePricingContext pricingDefinitions transaction
          chargingStation tenantID).pricingDefinitions[index]? = some definition ∧
        IsFirstThatHolds zoneTime transaction chargingStation chunk
          (rankedDefinitions pricingDefinitions tenantID transaction
            [.chargingStation, .site, .tenant]) index definition := by
  have passes : ConsumptionChunkPricer.checkPricingDefinitionRestrictions zoneTime
      { sessionStartDate := transaction.timestamp, timezone := transaction.timezone } chunk
      BuiltInPricingIntegration.getDefaultPricingDefinition = true := rfl
  have found := findIdx?_filter_append (checkStaticRestrictions transaction chargingStation)
    PricingDefinition.toResolvedPricingDefinition passes
    (rankedDefinitions pricingDefinitions tenantID transaction [.chargingStation, .site, .tenant])
  rw [← pricingDefinitions_resolvePricingContext] at found
  exact ⟨_, _, found.1, found.2, rfl, rfl⟩

/-- **The definition of a chunk.**  Whatever chunks of the session have been priced, each further
chunk is priced by the first definition of the charging station, the site and the tenant whose
restrictions hold, or by the default one; no other definition of the model changes. -/
theorem exists_priceConsumptionChunk_isFirstThatHolds (before : List ConsumptionChunk)
    (chunk : ConsumptionChunk) :
    ∃ model index definition priced,
      priceChunks zoneTime (BuiltInPricingIntegration.resolvePricingContext pricingDefinitions
          transaction chargingStation tenantID) before = .ok model ∧
        ConsumptionChunkPricer.actualPricingDefinitions zoneTime model chunk =
          some (index, definition) ∧
        IsFirstThatHolds zoneTime transaction chargingStation chunk
          (rankedDefinitions pricingDefinitions tenantID transaction
            [.chargingStation, .site, .tenant]) index definition ∧
        ConsumptionChunkPricer.priceConsumptionChunk zoneTime model chunk = .ok priced ∧
        ∀ other ≠ index,
          priced.2.pricingDefinitions[other]? = model.pricingDefinitions[other]? := by
  have resolves := actualPricingDefinition_resolvePricingContext zoneTime pricingDefinitions
    transaction chargingStation tenantID
  obtain ⟨model, before', isResolved⟩ := exists_priceChunks
    (fun chunk => by
      obtain ⟨index, -, actual, -⟩ := resolves chunk
      exact ⟨index, actual⟩) ⟨rfl, rfl⟩ before
  obtain ⟨index, resolved, actual, atIndex, first⟩ := resolves chunk
  rw [← ConsumptionChunkPricer.actualPricingDefinition_congr isResolved.tariffs
    isResolved.timezone] at actual
  -- The definition at the position is the resolved one, up to what it has priced.
  have tariffs := congrArg (fun tariffs => tariffs[index]?) isResolved.tariffs
  simp only [List.getElem?_map, atIndex, Option.map_some] at tariffs
  obtain ⟨definition, present, tariff⟩ := Option.map_eq_some_iff.mp tariffs
  have found : ConsumptionChunkPricer.actualPricingDefinitions zoneTime model chunk =
      some (index, definition) := by
    rw [ConsumptionChunkPricer.actualPricingDefinitions, actual, Option.bind_some, present,
      Option.map_some]
  obtain ⟨⟨pricedData, model'⟩, priced⟩ :=
    ConsumptionChunkPricer.exists_priceConsumptionChunk_of_actual actual
  refine ⟨model, index, definition, (pricedData, model'), before', found,
    ⟨first.index_eq, tariff.trans first.tariff_eq⟩, priced, fun other ne => ?_⟩
  obtain ⟨index', definition', found', rfl, -⟩ :=
    ConsumptionChunkPricer.priceConsumptionChunk_ok priced
  rw [found, Option.some.injEq, Prod.mk.injEq] at found'
  obtain ⟨rfl, rfl⟩ := found'
  exact List.getElem?_set_ne ne.symm

end Chunk

/-! ## A definition of the site area -/

/-- One definition, for the site area of the session. -/
def siteAreaPricingDefinitions : PricingDefinitions where
  docs := [
    { id := "PD-1"
      name := "Site area"
      entityID := "SA-1"
      entityType := .siteArea
      createdOn := 0
      dimensions := { energy := some { active := true, price := 3 / 10 } } }]
  nodup := List.nodup_singleton _

/-- A session in the site area. -/
def siteAreaTransaction : Transaction where
  id := 64
  chargeBoxID := "CS-1"
  connectorId := 1
  siteID := some "S-1"
  siteAreaID := some "SA-1"
  tagID := "TAG"
  meterStart := 0
  timestamp := 0

/-- A minute with 500 Wh. -/
def siteAreaChunk : ConsumptionChunk where
  startedAt := 0
  endedAt := 60000
  consumptionWh := 500
  cumulatedConsumptionWh := 500
  totalDurationSecs := 60
  totalInactivitySecs := 0

/-- Midnight of a Monday in all time zones; the definition has no restrictions on times. -/
def midnight (_ : String) (_ : Timestamp) : LocalTime := ⟨1, ⟨0, 0, 0⟩⟩

/-- The chunk is not priced by the definition of the site area, but by the default one. -/
theorem not_isFirstThatHolds_siteArea :
    ¬ ∃ index definition,
      ConsumptionChunkPricer.actualPricingDefinitions midnight
          (BuiltInPricingIntegration.resolvePricingContext siteAreaPricingDefinitions
            siteAreaTransaction [] "T-1") siteAreaChunk = some (index, definition) ∧
        IsFirstThatHolds midnight siteAreaTransaction [] siteAreaChunk
          (rankedDefinitions siteAreaPricingDefinitions "T-1" siteAreaTransaction
            [.chargingStation, .siteArea, .site, .tenant]) index definition := by
  rintro ⟨index, definition, found, -, tariff⟩
  have byDefault : ConsumptionChunkPricer.actualPricingDefinitions midnight
      (BuiltInPricingIntegration.resolvePricingContext siteAreaPricingDefinitions
        siteAreaTransaction [] "T-1") siteAreaChunk =
      some (0, BuiltInPricingIntegration.getDefaultPricingDefinition) := by
    decide +kernel
  rw [byDefault] at found
  obtain ⟨-, rfl⟩ := Prod.mk.injEq .. ▸ Option.some.inj found
  exact absurd tariff (by decide +kernel)

end PricingEngine

end EvServer
