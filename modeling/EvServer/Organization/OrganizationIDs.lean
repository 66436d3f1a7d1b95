import EvServer.Lib.Documents
import EvServer.Lib.Runs

/-!
# The organisation IDs that are copied to the documents

A company has sites and a site has site areas.  A charging station, a transaction and an asset
carry the IDs of all three, and a consumption those of the last two, so that they can be searched
without a lookup.  The IDs are copied when a document is created or assigned.  When a site or a
site area moves, its document is saved, and the copies are updated afterwards: the request does
not wait for that (`void SiteStorage.updateEntitiesWithOrganizationIDs(..)`).

The state is the database with the updates that have been started and not been carried out.  A
request that is refused leaves it as it is, so the checks of the requests are modelled as far as
they look for documents.
-/

namespace EvServer

namespace Organization

/-! ## Documents -/

/-- `companyID`, `siteID` and `siteAreaID` of a document. -/
@[ext] structure OrganizationIDs where
  companyID : Option String := none
  siteID : Option String := none
  siteAreaID : Option String := none
  deriving DecidableEq

/-- `Company`. -/
structure Company where
  id : String
  deriving DecidableEq

/-- `Site`. -/
structure Site where
  id : String
  issuer : Bool := true
  companyID : String
  deriving DecidableEq

/-- `SiteArea`; one without a site has `none`. -/
structure SiteArea where
  id : String
  issuer : Bool := true
  siteID : Option String
  deriving DecidableEq

/-- A charging station, a transaction or an asset. -/
structure Entity (K : Type) where
  id : K
  ids : OrganizationIDs := {}
  deriving DecidableEq

/-- `Consumption`. -/
@[ext] structure Consumption where
  id : String
  siteID : Option String
  siteAreaID : Option String
  deriving DecidableEq

abbrev Entities (K : Type) : Type := Collection (Entity.id : Entity K → K)

/-- The collections of a tenant. -/
structure Database where
  companies : Collection Company.id
  sites : Collection Site.id
  siteAreas : Collection SiteArea.id
  chargingStations : Entities String
  transactions : Entities ℤ
  assets : Entities String
  consumptions : Collection Consumption.id

/-- No document. -/
def Database.empty : Database := ⟨.empty, .empty, .empty, .empty, .empty, .empty, .empty⟩

/-- The IDs of a site area in the database: those of the area, of its site and of the company of
the site. -/
def Database.organizationOf (db : Database) (siteAreaID : String) : Option OrganizationIDs := do
  let siteArea ← db.siteAreas.find siteAreaID
  let siteID ← siteArea.siteID
  let site ← db.sites.find siteID
  return ⟨some site.companyID, some siteID, some siteAreaID⟩

/-! ## Updates of the copies -/

/-- The arguments of `updateEntitiesWithOrganizationIDs`, of a site area or of a whole site. -/
structure OrganizationUpdate where
  companyID : String
  siteID : String
  siteAreaID : Option String
  deriving DecidableEq

namespace OrganizationUpdate

/-- The filter: the site area of the document if one is given, else its site. -/
def Selects (update : OrganizationUpdate) (ids : OrganizationIDs) : Prop :=
  match update.siteAreaID with
  | some siteAreaID => ids.siteAreaID = some siteAreaID
  | none => ids.siteID = some update.siteID

instance (update : OrganizationUpdate) (ids : OrganizationIDs) :
    Decidable (update.Selects ids) := by
  unfold Selects
  split <;> infer_instance

/-- What is set in a document. -/
def set (update : OrganizationUpdate) (ids : OrganizationIDs) : OrganizationIDs :=
  if update.Selects ids then
    match update.siteAreaID with
    | some _ => { ids with siteID := some update.siteID, companyID := some update.companyID }
    | none => { ids with companyID := some update.companyID }
  else ids

/-- What is set in a consumption: a site area only is looked for. -/
def setConsumption (update : OrganizationUpdate) (consumption : Consumption) : Consumption :=
  if update.siteAreaID.isSome ∧ consumption.siteAreaID = update.siteAreaID then
    { consumption with siteID := some update.siteID }
  else consumption

end OrganizationUpdate

section Storage

variable {K V : Type} [DecidableEq V] {key : V → K}

/-- `updateMany`, and the `modifiedCount` of its result: the documents that are not as before. -/
def updateMany (f : V → V) (keeps : ∀ doc, key (f doc) = key doc) (docs : Collection key) :
    Collection key × ℕ :=
  (docs.updateMany f keeps, docs.docs.countP fun doc => f doc ≠ doc)

end Storage

/-- The update of a charging station, a transaction or an asset. -/
def Entity.update {K : Type} (update : OrganizationUpdate) (entity : Entity K) : Entity K :=
  { entity with ids := update.set entity.ids }

/-- `updateChargingStationsWithOrganizationIDs`, and the same of the other storages. -/
def updateWithOrganizationIDs {K : Type} [DecidableEq K] (update : OrganizationUpdate)
    (entities : Entities K) : Entities K × ℕ :=
  updateMany (Entity.update update) (fun _ => rfl) entities

theorem OrganizationUpdate.id_setConsumption (update : OrganizationUpdate)
    (consumption : Consumption) : (update.setConsumption consumption).id = consumption.id := by
  unfold setConsumption
  split <;> rfl

namespace ChargingStationStorage

/-- `updateChargingStationsWithOrganizationIDs`. -/
def updateChargingStationsWithOrganizationIDs (update : OrganizationUpdate) :
    Entities String → Entities String × ℕ := updateWithOrganizationIDs update

end ChargingStationStorage

namespace TransactionStorage

/-- `updateTransactionsWithOrganizationIDs`. -/
def updateTransactionsWithOrganizationIDs (update : OrganizationUpdate) :
    Entities ℤ → Entities ℤ × ℕ := updateWithOrganizationIDs update

end TransactionStorage

namespace AssetStorage

/-- `updateAssetsWithOrganizationIDs`. -/
def updateAssetsWithOrganizationIDs (update : OrganizationUpdate) :
    Entities String → Entities String × ℕ := updateWithOrganizationIDs update

end AssetStorage

namespace ConsumptionStorage

/-- `updateConsumptionsWithOrganizationIDs`. -/
def updateConsumptionsWithOrganizationIDs (update : OrganizationUpdate) :
    Collection Consumption.id → Collection Consumption.id × ℕ :=
  updateMany update.setConsumption update.id_setConsumption

end ConsumptionStorage

open ChargingStationStorage TransactionStorage AssetStorage ConsumptionStorage

/-- `updateEntitiesWithOrganizationIDs` of `SiteAreaStorage`, and of `SiteStorage` when there is
no site area, where the consumptions are left alone. -/
def updateEntitiesWithOrganizationIDs (update : OrganizationUpdate) (db : Database) :
    Database × ℕ :=
  let chargingStations := updateChargingStationsWithOrganizationIDs update db.chargingStations
  let transactions := updateTransactionsWithOrganizationIDs update db.transactions
  let assets := updateAssetsWithOrganizationIDs update db.assets
  let consumptions := updateConsumptionsWithOrganizationIDs update db.consumptions
  ({ db with
      chargingStations := chargingStations.1
      transactions := transactions.1
      assets := assets.1
      consumptions := consumptions.1 },
    chargingStations.2 + transactions.2 + assets.2 + consumptions.2)

/-! ## Assignments and deletions -/

/-- `updateMany` of the documents with these IDs. -/
def assign {K : Type} [DecidableEq K] (ids : List K) (assigned : OrganizationIDs → OrganizationIDs)
    (entities : Entities K) : Entities K :=
  entities.updateMany
    (fun entity => if entity.id ∈ ids then { entity with ids := assigned entity.ids } else entity)
    (fun entity => by split <;> rfl)

/-- The site area is taken from the documents that have it. -/
def Entity.removeSiteAreas {K : Type} (siteAreaIDs : List String) (entity : Entity K) : Entity K :=
  if ∃ siteAreaID ∈ siteAreaIDs, entity.ids.siteAreaID = some siteAreaID then
    { entity with ids := { entity.ids with siteAreaID := none } }
  else entity

theorem Entity.id_removeSiteAreas {K : Type} (siteAreaIDs : List String) (entity : Entity K) :
    (entity.removeSiteAreas siteAreaIDs).id = entity.id := by
  unfold removeSiteAreas
  split <;> rfl

namespace SiteAreaStorage

/-- `addChargingStationsToSiteArea`; the site of the area is looked up. -/
def addChargingStationsToSiteArea (db : Database) (siteArea : SiteArea)
    (chargingStationIDs : List String) : Database :=
  let site := siteArea.siteID.bind db.sites.find
  let assigned := fun _ => ⟨site.map Site.companyID, siteArea.siteID, some siteArea.id⟩
  { db with chargingStations := assign chargingStationIDs assigned db.chargingStations }

/-- `removeChargingStationsFromSiteArea`. -/
def removeChargingStationsFromSiteArea (db : Database) (chargingStationIDs : List String) :
    Database :=
  { db with chargingStations := assign chargingStationIDs (fun _ => {}) db.chargingStations }

/-- `addAssetsToSiteArea`: the company is left as it is. -/
def addAssetsToSiteArea (db : Database) (siteArea : SiteArea) (assetIDs : List String) :
    Database :=
  let assigned := fun ids : OrganizationIDs =>
    { ids with siteAreaID := some siteArea.id, siteID := siteArea.siteID }
  { db with assets := assign assetIDs assigned db.assets }

/-- `removeAssetsFromSiteArea`: the company is left as it is. -/
def removeAssetsFromSiteArea (db : Database) (assetIDs : List String) : Database :=
  let assigned := fun ids : OrganizationIDs => { ids with siteAreaID := none, siteID := none }
  { db with assets := assign assetIDs assigned db.assets }

/-- `deleteSiteAreas`: the charging stations and the assets lose the site area, but neither the
site nor the company. -/
def deleteSiteAreas (db : Database) (siteAreaIDs : List String) : Database :=
  { db with
      chargingStations := db.chargingStations.updateMany (Entity.removeSiteAreas siteAreaIDs)
        (Entity.id_removeSiteAreas siteAreaIDs)
      assets := db.assets.updateMany (Entity.removeSiteAreas siteAreaIDs)
        (Entity.id_removeSiteAreas siteAreaIDs)
      siteAreas := db.siteAreas.deleteMany fun id => id ∈ siteAreaIDs }

/-- `deleteSiteAreasFromSites`. -/
def deleteSiteAreasFromSites (db : Database) (siteIDs : List String) : Database :=
  deleteSiteAreas db
    ((db.siteAreas.docs.filter fun siteArea => siteArea.siteID.any (· ∈ siteIDs)).map SiteArea.id)

end SiteAreaStorage

namespace SiteStorage

/-- `deleteSites`. -/
def deleteSites (db : Database) (ids : List String) : Database :=
  let db := SiteAreaStorage.deleteSiteAreasFromSites db ids
  { db with sites := db.sites.deleteMany fun id => id ∈ ids }

/-- `deleteCompanySites`: the site areas are deleted twice. -/
def deleteCompanySites (db : Database) (companyID : String) : Database :=
  let siteIDs := (db.sites.docs.filter fun site => site.companyID = companyID).map Site.id
  deleteSites (SiteAreaStorage.deleteSiteAreasFromSites db siteIDs) siteIDs

end SiteStorage

namespace CompanyStorage

/-- `deleteCompany`. -/
def deleteCompany (db : Database) (id : String) : Database :=
  let db := SiteStorage.deleteCompanySites db id
  { db with companies := db.companies.delete id }

end CompanyStorage

/-! ## Requests -/

/-- The database, and the updates of copies that have been started, in this order. -/
structure OrganizationState where
  db : Database
  pending : List OrganizationUpdate

namespace OrganizationState

/-- A tenant without documents. -/
def start : OrganizationState := ⟨.empty, []⟩

/-- A change of the database that starts no update. -/
def withDb (s : OrganizationState) (db : Database) : OrganizationState := { s with db := db }

end OrganizationState

/-- A request, or a message of a charging station, with what it says about the organisation. -/
inductive OrganizationRequest
  | createCompany (id : String)
  | deleteCompany (id : String)
  | createSite (id companyID : String)
  | updateSite (id companyID : String)
  | deleteSite (id : String)
  | createSiteArea (id siteID : String)
  | updateSiteArea (id siteID : String)
  | deleteSiteArea (id : String)
  | addChargingStations (siteAreaID : String) (chargingStationIDs : List String)
  | removeChargingStations (siteAreaID : String) (chargingStationIDs : List String)
  | addAssets (siteAreaID : String) (assetIDs : List String)
  | removeAssets (siteAreaID : String) (assetIDs : List String)
  /-- The parameters of a charging station; `organizationActive` is the component of the user. -/
  | updateChargingStation (id : String) (siteAreaID : Option String) (organizationActive : Bool)
  /-- The first boot notification of a charging station, with the site area of its token. -/
  | bootChargingStation (id : String) (siteAreaID : Option String)
  /-- Deleted logically when the charging station has had transactions. -/
  | deleteChargingStation (id : String) (logically : Bool)
  | startTransaction (id : ℤ) (chargingStationID : String) (organizationActive : Bool)
  | createConsumption (id : String) (transactionID : ℤ)
  /-- An asset is created or updated. -/
  | saveAsset (id : String) (siteAreaID : Option String) (organizationActive : Bool)
  /-- The first of the updates that have been started is carried out. -/
  | updateReferences
  deriving DecidableEq

namespace OrganizationState

variable (s : OrganizationState)

/-- `handleCreateCompany`. -/
def handleCreateCompany (id : String) : Option OrganizationState :=
  some (s.withDb { s.db with companies := s.db.companies.save ⟨id⟩ })

/-- `handleDeleteCompany`. -/
def handleDeleteCompany (id : String) : Option OrganizationState := do
  let company ← s.db.companies.find id
  return s.withDb (CompanyStorage.deleteCompany s.db company.id)

/-- `handleCreateSite`. -/
def handleCreateSite (id companyID : String) : Option OrganizationState := do
  let company ← s.db.companies.find companyID
  return s.withDb { s.db with sites := s.db.sites.save { id, companyID := company.id } }

/-- `handleUpdateSite`. -/
def handleUpdateSite (id companyID : String) : Option OrganizationState := do
  let site ← s.db.sites.find id
  let company ← s.db.companies.find companyID
  return {
    db := { s.db with sites := s.db.sites.save { site with companyID := company.id } }
    pending := s.pending ++ [⟨company.id, site.id, none⟩] }

/-- `handleDeleteSite`. -/
def handleDeleteSite (id : String) : Option OrganizationState := do
  let site ← s.db.sites.find id
  return s.withDb (SiteStorage.deleteSites s.db [site.id])

/-- `handleCreateSiteArea`. -/
def handleCreateSiteArea (id siteID : String) : Option OrganizationState := do
  let site ← s.db.sites.find siteID
  return s.withDb { s.db with siteAreas := s.db.siteAreas.save { id, siteID := some site.id } }

/-- `handleUpdateSiteArea`. -/
def handleUpdateSiteArea (id siteID : String) : Option OrganizationState := do
  let siteArea ← s.db.siteAreas.find id
  let site ← s.db.sites.find siteID
  return {
    db := { s.db with siteAreas := s.db.siteAreas.save { siteArea with siteID := some site.id } }
    pending := s.pending ++ [⟨site.companyID, site.id, some siteArea.id⟩] }

/-- `handleDeleteSiteArea`. -/
def handleDeleteSiteArea (id : String) : Option OrganizationState := do
  let siteArea ← s.db.siteAreas.find id
  return s.withDb (SiteAreaStorage.deleteSiteAreas s.db [siteArea.id])

/-- `checkSiteAreaChargingStationsAuthorization`, and the same of assets: IDs are provided, and as
many documents are found. -/
def checkEntities (entities : Entities String) (ids : List String) : Option (List String) :=
  let found := entities.docs.filter fun entity => entity.id ∈ ids
  if ids ≠ [] ∧ ids.length = found.length then some (found.map Entity.id) else none

/-- `handleAssignChargingStationsToSiteArea`. -/
def handleAssignChargingStationsToSiteArea (add : Bool) (siteAreaID : String)
    (chargingStationIDs : List String) : Option OrganizationState := do
  let siteArea ← s.db.siteAreas.find siteAreaID
  let chargingStations ← checkEntities s.db.chargingStations chargingStationIDs
  return s.withDb
    (if add then SiteAreaStorage.addChargingStationsToSiteArea s.db siteArea chargingStations
    else SiteAreaStorage.removeChargingStationsFromSiteArea s.db chargingStations)

/-- `handleAssignAssetsToSiteArea`. -/
def handleAssignAssetsToSiteArea (add : Bool) (siteAreaID : String) (assetIDs : List String) :
    Option OrganizationState := do
  let siteArea ← s.db.siteAreas.find siteAreaID
  let assets ← checkEntities s.db.assets assetIDs
  return s.withDb
    (if add then SiteAreaStorage.addAssetsToSiteArea s.db siteArea assets
    else SiteAreaStorage.removeAssetsFromSiteArea s.db assets)

/-- The IDs of a document that is put in a site area, with the site of the area looked up. -/
def idsIn (siteArea : SiteArea) : OrganizationIDs :=
  ⟨(siteArea.siteID.bind s.db.sites.find).map Site.companyID, siteArea.siteID, some siteArea.id⟩

/-- `handleUpdateChargingStationParams`: without a site area, or without the component, the
charging station leaves its site area. -/
def handleUpdateChargingStationParams (id : String) (siteAreaID : Option String)
    (organizationActive : Bool) : Option OrganizationState := do
  let chargingStation ← s.db.chargingStations.find id
  let save (ids : OrganizationIDs) : OrganizationState := s.withDb { s.db with
    chargingStations := s.db.chargingStations.save { chargingStation with ids := ids } }
  match siteAreaID.filter fun _ => organizationActive with
  | none => return save {}
  | some siteAreaID =>
      let siteArea ← s.db.siteAreas.find siteAreaID
      if siteArea.issuer then return save (s.idsIn siteArea) else none

/-- `createChargingStationFromBootNotification`. -/
def createChargingStationFromBootNotification (id : String) (siteAreaID : Option String) :
    Option OrganizationState :=
  let ids := ((siteAreaID.bind s.db.siteAreas.find).map s.idsIn).getD {}
  match s.db.chargingStations.find id with
  | some _ => none
  | none => some (s.withDb { s.db with
      chargingStations := s.db.chargingStations.save ⟨id, ids⟩ })

/-- `handleDeleteChargingStation`. -/
def handleDeleteChargingStation (id : String) (logically : Bool) : Option OrganizationState := do
  let chargingStation ← s.db.chargingStations.find id
  return s.withDb { s.db with
    chargingStations :=
      if logically then s.db.chargingStations.save { chargingStation with ids := {} }
      else s.db.chargingStations.delete id }

/-- `enrichStartTransaction`, and the transaction that is saved. -/
def startTransaction (id : ℤ) (chargingStationID : String) (organizationActive : Bool) :
    Option OrganizationState := do
  let chargingStation ← s.db.chargingStations.find chargingStationID
  let ids := if organizationActive then chargingStation.ids else {}
  return s.withDb { s.db with transactions := s.db.transactions.save ⟨id, ids⟩ }

/-- `createConsumptionFromMeterValue`. -/
def createConsumption (id : String) (transactionID : ℤ) : Option OrganizationState := do
  let transaction ← s.db.transactions.find transactionID
  return s.withDb { s.db with
    consumptions := s.db.consumptions.save
      ⟨id, transaction.ids.siteID, transaction.ids.siteAreaID⟩ }

/-- `handleCreateAsset` and `handleUpdateAsset`: the site area is looked up when the component is
active, and set in any case. -/
def saveAsset (id : String) (siteAreaID : Option String) (organizationActive : Bool) :
    Option OrganizationState := do
  let save (ids : OrganizationIDs) : OrganizationState :=
    s.withDb { s.db with assets := s.db.assets.save ⟨id, ids⟩ }
  match siteAreaID.filter fun _ => organizationActive with
  | none => return save { siteAreaID }
  | some siteAreaID =>
      let siteArea ← s.db.siteAreas.find siteAreaID
      return save { s.idsIn siteArea with siteAreaID := some siteAreaID }

/-- The first update is carried out. -/
def updateReferences : Option OrganizationState :=
  match s.pending with
  | [] => none
  | update :: pending => some ⟨(updateEntitiesWithOrganizationIDs update s.db).1, pending⟩

/-- The state after a request; `none` when the request is refused. -/
def handle : OrganizationRequest → Option OrganizationState
  | .createCompany id => s.handleCreateCompany id
  | .deleteCompany id => s.handleDeleteCompany id
  | .createSite id companyID => s.handleCreateSite id companyID
  | .updateSite id companyID => s.handleUpdateSite id companyID
  | .deleteSite id => s.handleDeleteSite id
  | .createSiteArea id siteID => s.handleCreateSiteArea id siteID
  | .updateSiteArea id siteID => s.handleUpdateSiteArea id siteID
  | .deleteSiteArea id => s.handleDeleteSiteArea id
  | .addChargingStations siteAreaID ids =>
      s.handleAssignChargingStationsToSiteArea true siteAreaID ids
  | .removeChargingStations siteAreaID ids =>
      s.handleAssignChargingStationsToSiteArea false siteAreaID ids
  | .addAssets siteAreaID ids => s.handleAssignAssetsToSiteArea true siteAreaID ids
  | .removeAssets siteAreaID ids => s.handleAssignAssetsToSiteArea false siteAreaID ids
  | .updateChargingStation id siteAreaID active =>
      s.handleUpdateChargingStationParams id siteAreaID active
  | .bootChargingStation id siteAreaID => s.createChargingStationFromBootNotification id siteAreaID
  | .deleteChargingStation id logically => s.handleDeleteChargingStation id logically
  | .startTransaction id chargingStationID active => s.startTransaction id chargingStationID active
  | .createConsumption id transactionID => s.createConsumption id transactionID
  | .saveAsset id siteAreaID active => s.saveAsset id siteAreaID active
  | .updateReferences => s.updateReferences

end OrganizationState

end Organization

end EvServer
