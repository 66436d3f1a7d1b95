import EvServer.Organization.Settling

/-!
# Aligning the copies of the organisation IDs (`AlignEntitiesWithOrganizationIDsTask`)

The migration goes through the site areas that the organisation has issued and updates the
documents of each of them with the IDs of its site.  An update makes a document what it is to be or
leaves it alone, so what the migration leaves can be said of each document by itself.  It restores
the copies from whatever they were, and to run it again changes nothing.
-/

namespace EvServer

namespace Organization

open Collection

namespace AlignEntitiesWithOrganizationIDsTask

/-- The update of the documents of a site area, if its site is one of `sites`. -/
def updateOf (sites : List Site) (siteArea : SiteArea) : Option OrganizationUpdate := do
  let siteID ← siteArea.siteID
  let foundSite ← sites.find? fun site => site.id = siteID
  return ⟨foundSite.companyID, siteID, some siteArea.id⟩

/-- The updates of the site areas that the organisation has issued. -/
def updates (db : Database) : List OrganizationUpdate :=
  (db.siteAreas.docs.filter SiteArea.issuer).filterMap
    (updateOf (db.sites.docs.filter Site.issuer))

/-- One site area: what has been updated is counted. -/
def updateSiteArea (state : Database × ℕ) (update : OrganizationUpdate) : Database × ℕ :=
  let (db, updated) := updateEntitiesWithOrganizationIDs update state.1
  (db, state.2 + updated)

/-- `migrateTenant`, with the number of documents that have been updated. -/
def migrateTenant (db : Database) : Database × ℕ := (updates db).foldl updateSiteArea (db, 0)

end AlignEntitiesWithOrganizationIDsTask

open AlignEntitiesWithOrganizationIDsTask

/-- The IDs of a site area when the organisation has issued it, and its site. -/
def Database.issuedOrganizationOf (db : Database) (siteAreaID : String) :
    Option OrganizationIDs := do
  let siteArea ← (db.siteAreas.find siteAreaID).filter SiteArea.issuer
  let siteID ← siteArea.siteID
  let site ← (db.sites.find siteID).filter Site.issuer
  return ⟨some site.companyID, some siteID, some siteAreaID⟩

/-- The IDs that a document is to have. -/
def OrganizationIDs.align (db : Database) (ids : OrganizationIDs) : OrganizationIDs :=
  (ids.siteAreaID.bind db.issuedOrganizationOf).getD ids

/-- A document with the IDs that it is to have. -/
def Entity.align {K : Type} (db : Database) (entity : Entity K) : Entity K :=
  { entity with ids := entity.ids.align db }

/-- A consumption with the site that it is to have. -/
def Consumption.align (db : Database) (consumption : Consumption) : Consumption :=
  { consumption with siteID := (consumption.ids.align db).siteID }

/-! ## The updates -/

variable {db : Database} {update : OrganizationUpdate} {pending : List OrganizationUpdate}
variable {ids : OrganizationIDs} {siteAreaID : String}

theorem updateOf_eq_some {sites : List Site} {siteArea : SiteArea} :
    updateOf sites siteArea = some update ↔ ∃ site, siteArea.siteID = some site.id ∧
      sites.find? (fun other => other.id = site.id) = some site ∧
        update = ⟨site.companyID, site.id, some siteArea.id⟩ := by
  unfold updateOf
  simp only [Option.bind_eq_bind, Option.bind_eq_some_iff, Option.pure_def, Option.some.injEq]
  constructor
  · rintro ⟨siteID, same, site, found, rfl⟩
    obtain rfl : site.id = siteID := by simpa using List.find?_some found
    exact ⟨site, same, found, rfl⟩
  · rintro ⟨site, same, found, rfl⟩
    exact ⟨site.id, same, site, found, rfl⟩

/-- The documents for which `p` holds, searched by their keys. -/
theorem find?_filter_docs {K V : Type} [DecidableEq K] {key : V → K} (c : Collection key)
    (p : V → Bool) (k : K) :
    (c.docs.filter p).find? (fun doc => key doc = k) = (c.find k).filter p := by
  let kept : Collection key := ⟨c.docs.filter p, c.nodup.sublist (List.filter_sublist.map key)⟩
  show kept.find k = _
  ext doc
  rw [Option.filter_eq_some_iff]
  constructor
  · intro found
    obtain ⟨mem, holds⟩ := List.mem_filter.mp (mem_of_find found)
    obtain rfl := key_of_find found
    exact ⟨find_of_mem mem, holds⟩
  · rintro ⟨found, holds⟩
    obtain rfl := key_of_find found
    exact find_of_mem (c := kept) (List.mem_filter.mpr ⟨mem_of_find found, holds⟩)

/-- The updates are those of the site areas that have been issued with their sites. -/
theorem mem_updates : update ∈ updates db ↔ ∃ siteAreaID, update.siteAreaID = some siteAreaID ∧
    db.issuedOrganizationOf siteAreaID =
      some ⟨some update.companyID, some update.siteID, some siteAreaID⟩ := by
  unfold updates Database.issuedOrganizationOf
  simp only [List.mem_filterMap, updateOf_eq_some, find?_filter_docs, Option.bind_eq_bind,
    Option.bind_eq_some_iff, Option.pure_def, Option.some.injEq, Option.filter_eq_some_iff,
    List.mem_filter]
  constructor
  · rintro ⟨siteArea, ⟨mem, issuer⟩, site, same, ⟨found, siteIssuer⟩, rfl⟩
    exact ⟨siteArea.id, rfl, siteArea, ⟨find_of_mem mem, issuer⟩, site.id, same, site,
      ⟨found, siteIssuer⟩, rfl⟩
  · rintro ⟨siteAreaID, same, siteArea, ⟨found, issuer⟩, siteID, inSite, site,
      ⟨hsite, siteIssuer⟩, ids⟩
    obtain rfl := key_of_find found
    obtain rfl := key_of_find hsite
    refine ⟨siteArea, ⟨mem_of_find found, issuer⟩, site, inSite, ⟨hsite, siteIssuer⟩, ?_⟩
    obtain ⟨companyID, siteID, updated⟩ := update
    simp only [OrganizationIDs.mk.injEq, Option.some.injEq, and_true] at ids
    obtain ⟨rfl, rfl⟩ := ids
    exact congrArg _ same

theorem siteAreaID_of_issuedOrganizationOf {org : OrganizationIDs}
    (h : db.issuedOrganizationOf siteAreaID = some org) :
    ∃ companyID siteID, org = ⟨some companyID, some siteID, some siteAreaID⟩ := by
  obtain ⟨_, -, h⟩ := Option.bind_eq_some_iff.mp h
  obtain ⟨siteID, -, h⟩ := Option.bind_eq_some_iff.mp h
  obtain ⟨site, -, h⟩ := Option.bind_eq_some_iff.mp h
  exact ⟨site.companyID, siteID, (Option.some.inj h).symm⟩

@[simp] theorem siteAreaID_align : (ids.align db).siteAreaID = ids.siteAreaID := by
  unfold OrganizationIDs.align
  rcases h : ids.siteAreaID.bind db.issuedOrganizationOf with _ | org
  · rfl
  · obtain ⟨siteAreaID, siteArea, issued⟩ := Option.bind_eq_some_iff.mp h
    obtain ⟨companyID, siteID, rfl⟩ := siteAreaID_of_issuedOrganizationOf issued
    exact siteArea.symm

@[simp] theorem align_align : (ids.align db).align db = ids.align db := by
  rw [OrganizationIDs.align, siteAreaID_align]
  unfold OrganizationIDs.align
  rcases ids.siteAreaID.bind db.issuedOrganizationOf with _ | org <;> rfl

/-- An update makes a document that it selects what it is to be. -/
theorem set_of_selects (mem : update ∈ updates db) (selects : update.Selects ids) :
    update.set ids = ids.align db := by
  obtain ⟨siteAreaID, same, issued⟩ := mem_updates.mp mem
  obtain ⟨companyID, siteID, updated⟩ := update
  obtain rfl : updated = some siteAreaID := same
  have siteArea : ids.siteAreaID = some siteAreaID := selects
  rw [OrganizationUpdate.set_of_siteArea, if_pos siteArea, OrganizationIDs.align, siteArea,
    Option.bind_some, issued]
  rfl

/-- An update leaves the documents alone that are aligned. -/
theorem set_align (mem : update ∈ updates db) : update.set (ids.align db) = ids.align db := by
  by_cases selects : update.Selects (ids.align db)
  · rw [set_of_selects mem selects, align_align]
  · exact OrganizationUpdate.set_of_not_selects selects

/-- **What the updates make of a document** is what it is to be. -/
theorem settle_updates (db : Database) (ids : OrganizationIDs) :
    settle (updates db) ids = ids.align db := by
  have aligned {pending : List OrganizationUpdate} (sub : pending ⊆ updates db) :
      settle pending (ids.align db) = ids.align db := by
    induction pending with
    | nil => rfl
    | cons update rest ih =>
        rw [List.cons_subset] at sub
        rw [settle_cons, set_align sub.1, ih sub.2]
  have reached {pending : List OrganizationUpdate} (sub : pending ⊆ updates db)
      (selected : ∃ update ∈ pending, update.Selects ids) :
      settle pending ids = ids.align db := by
    induction pending with
    | nil => simp at selected
    | cons update rest ih =>
        rw [List.cons_subset] at sub
        rw [settle_cons]
        by_cases first : update.Selects ids
        · rw [set_of_selects sub.1 first, aligned sub.2]
        · rw [OrganizationUpdate.set_of_not_selects first]
          exact ih sub.2 ((List.exists_mem_cons_iff ..).mp selected |>.resolve_left first)
  by_cases selected : ∃ update ∈ updates db, update.Selects ids
  · exact reached (List.Subset.refl _) selected
  · rw [settle_of_not_selects fun update mem selects => selected ⟨update, mem, selects⟩]
    unfold OrganizationIDs.align
    rcases h : ids.siteAreaID.bind db.issuedOrganizationOf with _ | org
    · rfl
    · obtain ⟨siteAreaID, siteArea, issued⟩ := Option.bind_eq_some_iff.mp h
      obtain ⟨companyID, siteID, rfl⟩ := siteAreaID_of_issuedOrganizationOf issued
      exact absurd ⟨⟨companyID, siteID, some siteAreaID⟩,
        mem_updates.mpr ⟨siteAreaID, rfl, issued⟩, siteArea⟩ selected

/-! ## The documents -/

/-- What the updates that are left make of the documents. -/
theorem docs_foldl_updateSiteArea (pending : List OrganizationUpdate) (state : Database × ℕ) :
    let after := (pending.foldl updateSiteArea state).1
    after.chargingStations.docs =
        state.1.chargingStations.docs.map (fun doc => ⟨doc.id, settle pending doc.ids⟩) ∧
      after.transactions.docs =
        state.1.transactions.docs.map (fun doc => ⟨doc.id, settle pending doc.ids⟩) ∧
      after.assets.docs =
        state.1.assets.docs.map (fun doc => ⟨doc.id, settle pending doc.ids⟩) ∧
      after.consumptions.docs = state.1.consumptions.docs.map (fun doc =>
        ⟨doc.id, (settle pending doc.ids).siteID, doc.siteAreaID⟩) ∧
      after.siteAreas = state.1.siteAreas ∧ after.sites = state.1.sites ∧
      after.companies = state.1.companies := by
  induction pending generalizing state with
  | nil =>
      refine ⟨?_, ?_, ?_, ?_, rfl, rfl, rfl⟩
      all_goals exact (List.map_id _).symm
  | cons update pending ih =>
      obtain ⟨stations, transactions, assets, consumptions, siteAreas, sites, companies⟩ :=
        ih (updateSiteArea state update)
      refine ⟨stations.trans ?_, transactions.trans ?_, assets.trans ?_, consumptions.trans ?_,
        siteAreas, sites, companies⟩
      · exact List.map_map
      · exact List.map_map
      · exact List.map_map
      · refine List.map_map.trans (List.map_congr_left fun consumption _ => ?_)
        rw [Function.comp_apply, OrganizationUpdate.setConsumption_eq]
        ext1
        · rfl
        · refine siteID_settle_congr rfl ?_
          exact (@OrganizationUpdate.siteAreaID_set update consumption.ids).symm
        · rfl

theorem setConsumption_align (mem : update ∈ updates db) (consumption : Consumption) :
    update.setConsumption (consumption.align db) = consumption.align db := by
  have aligned : update.set (consumption.ids.align db) = consumption.ids.align db := set_align mem
  rw [OrganizationUpdate.setConsumption_eq]
  ext1
  · rfl
  · refine (OrganizationUpdate.siteID_set_congr ?_ ?_).trans (congrArg OrganizationIDs.siteID aligned)
    · rfl
    · exact (siteAreaID_align : (consumption.ids.align db).siteAreaID = _).symm
  · rfl

/-- Documents that are left alone are not counted. -/
theorem updateMany_eq_self {V K : Type} [DecidableEq V] {key : V → K} {f : V → V}
    {keeps : ∀ doc, key (f doc) = key doc} {docs : Collection key}
    (h : ∀ doc ∈ docs.docs, f doc = doc) : updateMany f keeps docs = (docs, 0) := by
  unfold updateMany
  ext1
  · apply Collection.ext
    exact (List.map_congr_left h).trans (List.map_id _)
  · rw [List.countP_eq_zero]
    intro doc mem
    simp [h doc mem]

/-- The documents of `after` are those of `db`, aligned. -/
structure Aligned (db after : Database) : Prop where
  chargingStations :
    after.chargingStations.docs = db.chargingStations.docs.map (Entity.align db)
  transactions : after.transactions.docs = db.transactions.docs.map (Entity.align db)
  assets : after.assets.docs = db.assets.docs.map (Entity.align db)
  consumptions : after.consumptions.docs = db.consumptions.docs.map (Consumption.align db)
  siteAreas : after.siteAreas = db.siteAreas
  sites : after.sites = db.sites
  companies : after.companies = db.companies

theorem aligned_migrateTenant (db : Database) : Aligned db (migrateTenant db).1 := by
  obtain ⟨stations, transactions, assets, consumptions, siteAreas, sites, companies⟩ :=
    docs_foldl_updateSiteArea (updates db) (db, 0)
  simp only [settle_updates] at stations transactions assets consumptions
  exact ⟨stations, transactions, assets, consumptions, siteAreas, sites, companies⟩

/-- No document is updated that is aligned. -/
theorem Aligned.updateEntitiesWithOrganizationIDs {after : Database} (aligned : Aligned db after)
    (mem : update ∈ updates db) :
    updateEntitiesWithOrganizationIDs update after = (after, 0) := by
  have entities {K : Type} [DecidableEq K] {docs old : Entities K}
      (same : docs.docs = old.docs.map (Entity.align db)) :
      updateWithOrganizationIDs update docs = (docs, 0) := by
    refine updateMany_eq_self fun doc hdoc => ?_
    rw [same] at hdoc
    obtain ⟨entity, -, rfl⟩ := List.mem_map.mp hdoc
    exact congrArg (Entity.mk entity.id) (set_align mem)
  have stations := entities aligned.chargingStations
  have transactions := entities aligned.transactions
  have assets := entities aligned.assets
  have consumptions : updateMany update.setConsumption update.id_setConsumption
      after.consumptions = (after.consumptions, 0) := by
    refine updateMany_eq_self fun doc hdoc => ?_
    rw [aligned.consumptions] at hdoc
    obtain ⟨consumption, -, rfl⟩ := List.mem_map.mp hdoc
    exact setConsumption_align mem consumption
  unfold Organization.updateEntitiesWithOrganizationIDs
    ChargingStationStorage.updateChargingStationsWithOrganizationIDs
    TransactionStorage.updateTransactionsWithOrganizationIDs
    AssetStorage.updateAssetsWithOrganizationIDs
    ConsumptionStorage.updateConsumptionsWithOrganizationIDs
  rw [stations, transactions, assets, consumptions]
  rfl

/-- **Aligning the copies.**  From whatever they were, every document has the IDs of its site area,
its site and the company of the site, if these have been issued; the others and the organisation
itself are as before.  To align them again updates nothing. -/
theorem migrateTenant_aligns (db : Database) :
    Aligned db (migrateTenant db).1 ∧
      migrateTenant (migrateTenant db).1 = ((migrateTenant db).1, 0) := by
  have aligned := aligned_migrateTenant db
  refine ⟨aligned, ?_⟩
  have same : updates (migrateTenant db).1 = updates db := by
    unfold updates
    rw [aligned.siteAreas, aligned.sites]
  have again {pending : List OrganizationUpdate} (sub : pending ⊆ updates db) :
      pending.foldl updateSiteArea ((migrateTenant db).1, 0) = ((migrateTenant db).1, 0) := by
    induction pending with
    | nil => rfl
    | cons update rest ih =>
        rw [List.cons_subset] at sub
        have step : updateSiteArea ((migrateTenant db).1, 0) update =
            ((migrateTenant db).1, 0) := by
          unfold updateSiteArea
          rw [aligned.updateEntitiesWithOrganizationIDs sub.1]
        rw [List.foldl_cons, step]
        exact ih sub.2
  rw [← again (List.Subset.refl _), ← same]
  rfl

end Organization

end EvServer
