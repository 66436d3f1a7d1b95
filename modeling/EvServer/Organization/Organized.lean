import EvServer.Organization.Settling

/-!
# What is invariant of an organisation and its copies

No reference dangles: a charging station or an asset is in a site area that exists, the site area
is in a site that exists, and the site belongs to a company that exists (`Referential`).  And the
IDs of the documents are settled (`Settling`).  There is one lemma for each kind of change of the
database.
-/

namespace EvServer

namespace Organization

open Collection

/-! ## The invariant -/

/-- The site area of a document exists, if it has one. -/
def Database.HasSiteArea (db : Database) (ids : OrganizationIDs) : Prop :=
  ∀ siteAreaID, ids.siteAreaID = some siteAreaID →
    ∃ siteArea ∈ db.siteAreas.docs, siteArea.id = siteAreaID

/-- **No reference dangles.** -/
structure Referential (db : Database) : Prop where
  companies : ∀ site ∈ db.sites.docs, ∃ company ∈ db.companies.docs, company.id = site.companyID
  sites : ∀ siteArea ∈ db.siteAreas.docs, ∃ site ∈ db.sites.docs, siteArea.siteID = some site.id
  chargingStations : ∀ doc ∈ db.chargingStations.docs, db.HasSiteArea doc.ids
  assets : ∀ doc ∈ db.assets.docs, db.HasSiteArea doc.ids

/-- The IDs of a document in a site, and in one of its site areas. -/
def Site.idsOf (site : Site) (siteAreaID : Option String) : OrganizationIDs :=
  ⟨some site.companyID, some site.id, siteAreaID⟩

/-- **The pending updates settle the copies.** -/
structure CopiesSettled (organizationOf : String → Option OrganizationIDs)
    (pending : List OrganizationUpdate) (db : Database) : Prop where
  chargingStations : ∀ doc ∈ db.chargingStations.docs, Settled organizationOf pending doc.ids
  transactions : ∀ doc ∈ db.transactions.docs, Settled organizationOf pending doc.ids
  assets : ∀ doc ∈ db.assets.docs, SettledSite organizationOf pending doc.ids
  consumptions : ∀ doc ∈ db.consumptions.docs, SettledSite organizationOf pending doc.ids

namespace CopiesSettled

variable {organizationOf organizationOf' : String → Option OrganizationIDs}
variable {pending : List OrganizationUpdate} {update : OrganizationUpdate} {db : Database}

/-- Fewer site areas. -/
theorem mono (copies : CopiesSettled organizationOf pending db)
    (sub : ∀ siteAreaID org,
      organizationOf' siteAreaID = some org → organizationOf siteAreaID = some org) :
    CopiesSettled organizationOf' pending db where
  chargingStations doc mem := (copies.chargingStations doc mem).mono fun _ _ _ => sub _ _
  transactions doc mem := (copies.transactions doc mem).mono fun _ _ _ => sub _ _
  assets doc mem := (copies.assets doc mem).mono fun _ _ _ => sub _ _
  consumptions doc mem := (copies.consumptions doc mem).mono fun _ _ _ => sub _ _

/-- One more update is pending, which changes the IDs of the site areas as they have changed. -/
theorem append (copies : CopiesSettled organizationOf pending db)
    (follows : Follows organizationOf update organizationOf') :
    CopiesSettled organizationOf' (pending ++ [update]) db where
  chargingStations doc mem := (copies.chargingStations doc mem).append follows
  transactions doc mem := (copies.transactions doc mem).append follows
  assets doc mem := (copies.assets doc mem).append follows
  consumptions doc mem := (copies.consumptions doc mem).append follows

end CopiesSettled

namespace OrganizationState

/-- **The pending updates settle the documents**, and they leave the IDs of the organisation as
they are. -/
structure Settling (s : OrganizationState) : Prop
    extends CopiesSettled s.db.organizationOf s.pending s.db where
  sites : ∀ site ∈ s.db.sites.docs, settle s.pending (site.idsOf none) = site.idsOf none
  siteAreas : ∀ siteArea ∈ s.db.siteAreas.docs, ∀ site ∈ s.db.sites.docs,
    siteArea.siteID = some site.id →
      settle s.pending (site.idsOf (some siteArea.id)) = site.idsOf (some siteArea.id)

/-- The invariant. -/
structure Organized (s : OrganizationState) : Prop where
  referential : Referential s.db
  settling : s.Settling

theorem organized_start : start.Organized where
  referential := by constructor <;> exact fun _ mem => absurd mem List.not_mem_nil
  settling := by
    refine ⟨⟨?_, ?_, ?_, ?_⟩, ?_, ?_⟩ <;> exact fun _ mem => absurd mem List.not_mem_nil

variable {s : OrganizationState} {id companyID siteAreaID : String} {db : Database}
variable {ids org : OrganizationIDs} {siteArea : SiteArea} {site : Site}

/-! ## Changes of documents that have the IDs copied -/

/-- Charging stations that are in an existing site area, and settled. -/
theorem Organized.chargingStations (inv : s.Organized) {docs : Entities String}
    (hasSiteArea : ∀ doc ∈ docs.docs, s.db.HasSiteArea doc.ids)
    (settled : ∀ doc ∈ docs.docs, Settled s.db.organizationOf s.pending doc.ids) :
    (s.withDb { s.db with chargingStations := docs }).Organized where
  referential := { inv.referential with chargingStations := hasSiteArea }
  settling := { inv.settling with chargingStations := settled }

theorem Organized.transactions (inv : s.Organized) {docs : Entities ℤ}
    (settled : ∀ doc ∈ docs.docs, Settled s.db.organizationOf s.pending doc.ids) :
    (s.withDb { s.db with transactions := docs }).Organized where
  referential := { inv.referential with }
  settling := { inv.settling with transactions := settled }

theorem Organized.assets (inv : s.Organized) {docs : Entities String}
    (hasSiteArea : ∀ doc ∈ docs.docs, s.db.HasSiteArea doc.ids)
    (settled : ∀ doc ∈ docs.docs, SettledSite s.db.organizationOf s.pending doc.ids) :
    (s.withDb { s.db with assets := docs }).Organized where
  referential := { inv.referential with assets := hasSiteArea }
  settling := { inv.settling with assets := settled }

theorem Organized.consumptions (inv : s.Organized) {docs : Collection Consumption.id}
    (settled : ∀ doc ∈ docs.docs, SettledSite s.db.organizationOf s.pending doc.ids) :
    (s.withDb { s.db with consumptions := docs }).Organized where
  referential := { inv.referential with }
  settling := { inv.settling with consumptions := settled }

/-- What holds of all documents is kept by the assignment of some of them. -/
theorem forall_mem_assign {K : Type} [DecidableEq K] {ids : List K}
    {assigned : OrganizationIDs → OrganizationIDs} {entities : Entities K}
    {P : OrganizationIDs → Prop} (old : ∀ doc ∈ entities.docs, P doc.ids)
    (new : ∀ doc ∈ entities.docs, P (assigned doc.ids)) :
    ∀ doc ∈ (assign ids assigned entities).docs, P doc.ids := by
  intro doc mem
  obtain ⟨before, hbefore, rfl⟩ := mem_updateMany.mp mem
  split
  · exact new before hbefore
  · exact old before hbefore

/-- A document without a site area refers to none. -/
theorem hasSiteArea_of_none (h : ids.siteAreaID = none) :
    db.HasSiteArea ids := by
  intro siteAreaID siteArea
  rw [h] at siteArea
  cases siteArea

/-- A document that is put in a site area has one that exists. -/
theorem hasSiteArea_of_find (found : db.siteAreas.find id = some siteArea)
    (h : ids.siteAreaID = some siteArea.id) :
    db.HasSiteArea ids := by
  intro siteAreaID same
  rw [h, Option.some.injEq] at same
  exact ⟨siteArea, mem_of_find found, same⟩

/-- The IDs of a site area, when its site exists. -/
theorem idsIn_eq (inv : s.Organized) (found : s.db.siteAreas.find id = some siteArea) :
    ∃ site ∈ s.db.sites.docs, siteArea.siteID = some site.id ∧
      s.idsIn siteArea = site.idsOf (some siteArea.id) ∧
      s.db.organizationOf siteArea.id = some (site.idsOf (some siteArea.id)) := by
  have mem := mem_of_find found
  obtain ⟨site, hsite, same⟩ := inv.referential.sites siteArea mem
  have hfind := find_of_mem hsite
  refine ⟨site, hsite, same, ?_, ?_⟩
  · unfold idsIn Site.idsOf
    rw [same, Option.bind_some, hfind, Option.map_some]
  · exact organizationOf_eq_some.mpr ⟨siteArea, site, find_of_mem mem, same, hfind, rfl⟩

/-- **A document that is put in a site area** is settled: the pending updates are not about the
IDs that the site area has now. -/
theorem settled_idsIn (inv : s.Organized) (found : s.db.siteAreas.find id = some siteArea) :
    Settled s.db.organizationOf s.pending (s.idsIn siteArea) := by
  obtain ⟨site, hsite, same, ids, org⟩ := idsIn_eq inv found
  intro siteAreaID other hsiteArea hother
  rw [ids] at hsiteArea ⊢
  obtain rfl := Option.some.inj hsiteArea
  rw [org, Option.some.injEq] at hother
  rw [← hother]
  exact inv.settling.siteAreas siteArea (mem_of_find found) site hsite same

/-! ## Deletions -/

section Deletions

variable {siteAreaIDs : List String}

/-- A document that has lost its site area has none, and another one is as before. -/
theorem siteAreaID_removeSiteAreas {K : Type} {doc : Entity K}
    (h : (doc.removeSiteAreas siteAreaIDs).ids.siteAreaID = some siteAreaID) :
    doc.removeSiteAreas siteAreaIDs = doc ∧ siteAreaID ∉ siteAreaIDs := by
  unfold Entity.removeSiteAreas at h ⊢
  split
  · next removed =>
    rw [if_pos removed] at h
    cases h
  · next kept =>
    rw [if_neg kept] at h
    exact ⟨rfl, fun mem => kept ⟨siteAreaID, mem, h⟩⟩

/-- A document that has a site area afterwards is as before. -/
theorem mem_of_mem_removeSiteAreas {K : Type} [DecidableEq K] {entities : Entities K}
    {doc : Entity K}
    (mem : doc ∈ (entities.updateMany (Entity.removeSiteAreas siteAreaIDs)
      (Entity.id_removeSiteAreas siteAreaIDs)).docs)
    (h : doc.ids.siteAreaID = some siteAreaID) :
    doc ∈ entities.docs ∧ siteAreaID ∉ siteAreaIDs := by
  obtain ⟨before, hbefore, rfl⟩ := mem_updateMany.mp mem
  obtain ⟨same, kept⟩ := siteAreaID_removeSiteAreas h
  exact ⟨same.symm ▸ hbefore, kept⟩

/-- The site areas that are left are organised as before. -/
theorem organizationOf_deleteMany {p : String → Bool}
    (h : { db with siteAreas := db.siteAreas.deleteMany p }.organizationOf siteAreaID = some org) :
    db.organizationOf siteAreaID = some org := by
  obtain ⟨siteArea, site, harea, same, hsite, rfl⟩ := organizationOf_eq_some.mp h
  exact organizationOf_eq_some.mpr
    ⟨siteArea, site, find_of_find_deleteMany harea, same, hsite, rfl⟩

/-- **Site areas are deleted**: nobody refers to them afterwards. -/
theorem Organized.deleteSiteAreas (inv : s.Organized) (siteAreaIDs : List String) :
    (s.withDb (SiteAreaStorage.deleteSiteAreas s.db siteAreaIDs)).Organized := by
  have hasSiteArea {entities : Entities String}
      (old : ∀ doc ∈ entities.docs, s.db.HasSiteArea doc.ids) :
      ∀ doc ∈ (entities.updateMany (Entity.removeSiteAreas siteAreaIDs)
        (Entity.id_removeSiteAreas siteAreaIDs)).docs,
        (SiteAreaStorage.deleteSiteAreas s.db siteAreaIDs).HasSiteArea doc.ids := by
    intro doc mem siteAreaID h
    obtain ⟨stored, kept⟩ := mem_of_mem_removeSiteAreas mem h
    obtain ⟨siteArea, harea, rfl⟩ := old doc stored siteAreaID h
    exact ⟨siteArea, mem_deleteMany.mpr ⟨harea, by simpa using kept⟩, rfl⟩
  refine ⟨⟨inv.referential.companies, ?_, ?_, ?_⟩, ⟨⟨?_, ?_, ?_, ?_⟩, inv.settling.sites, ?_⟩⟩
  · intro siteArea mem
    exact inv.referential.sites siteArea (mem_deleteMany.mp mem).1
  · exact hasSiteArea inv.referential.chargingStations
  · exact hasSiteArea inv.referential.assets
  · intro doc mem siteAreaID org h found
    exact inv.settling.chargingStations doc (mem_of_mem_removeSiteAreas mem h).1 siteAreaID org h
      (organizationOf_deleteMany found)
  · intro doc mem
    exact (inv.settling.transactions doc mem).mono fun _ _ _ => organizationOf_deleteMany
  · intro doc mem siteAreaID org h found
    exact inv.settling.assets doc (mem_of_mem_removeSiteAreas mem h).1 siteAreaID org h
      (organizationOf_deleteMany found)
  · intro doc mem
    exact (inv.settling.consumptions doc mem).mono fun _ _ _ => organizationOf_deleteMany
  · intro siteArea mem
    exact inv.settling.siteAreas siteArea (mem_deleteMany.mp mem).1

/-- Sites without site areas are deleted. -/
theorem Organized.deleteManySites (inv : s.Organized) {ids : List String}
    (unused : ∀ siteArea ∈ s.db.siteAreas.docs, ∀ id ∈ ids, siteArea.siteID ≠ some id) :
    (s.withDb { s.db with sites := s.db.sites.deleteMany fun id => id ∈ ids }).Organized := by
  have sub {siteAreaID : String} {org : OrganizationIDs}
      (h : { s.db with sites := s.db.sites.deleteMany fun id => id ∈ ids }.organizationOf
        siteAreaID = some org) : s.db.organizationOf siteAreaID = some org := by
    obtain ⟨siteArea, site, harea, same, hsite, rfl⟩ := organizationOf_eq_some.mp h
    exact organizationOf_eq_some.mpr
      ⟨siteArea, site, harea, same, find_of_find_deleteMany hsite, rfl⟩
  refine ⟨⟨?_, ?_, inv.referential.chargingStations, inv.referential.assets⟩, ⟨?_, ?_, ?_⟩⟩
  · intro site mem
    exact inv.referential.companies site (mem_deleteMany.mp mem).1
  · intro siteArea mem
    obtain ⟨site, hsite, same⟩ := inv.referential.sites siteArea mem
    refine ⟨site, mem_deleteMany.mpr ⟨hsite, ?_⟩, same⟩
    intro deleted
    exact unused siteArea mem site.id (of_decide_eq_true deleted) same
  · exact { inv.settling.toCopiesSettled.mono fun _ _ => sub with }
  · exact fun site mem => inv.settling.sites site (mem_deleteMany.mp mem).1
  · exact fun siteArea mem site hsite =>
      inv.settling.siteAreas siteArea mem site (mem_deleteMany.mp hsite).1

/-- The site areas of the sites are gone. -/
theorem not_mem_deleteSiteAreasFromSites {siteIDs : List String}
    (mem : siteArea ∈ (SiteAreaStorage.deleteSiteAreasFromSites db siteIDs).siteAreas.docs) :
    ∀ id ∈ siteIDs, siteArea.siteID ≠ some id := by
  intro id hid same
  obtain ⟨stored, kept⟩ := mem_deleteMany.mp mem
  refine kept (decide_eq_true (List.mem_map.mpr ⟨siteArea, List.mem_filter.mpr ⟨stored, ?_⟩, rfl⟩))
  rw [same]
  exact decide_eq_true hid

/-- **Sites are deleted**, and their site areas before them. -/
theorem Organized.deleteSites (inv : s.Organized) (ids : List String) :
    (s.withDb (SiteStorage.deleteSites s.db ids)).Organized := by
  have without : (s.withDb (SiteAreaStorage.deleteSiteAreasFromSites s.db ids)).Organized :=
    inv.deleteSiteAreas _
  exact without.deleteManySites fun siteArea mem => not_mem_deleteSiteAreasFromSites mem

/-- **A company is deleted**, and its sites before it. -/
theorem Organized.deleteCompany (inv : s.Organized) (id : String) :
    (s.withDb (CompanyStorage.deleteCompany s.db id)).Organized := by
  have without : (s.withDb (SiteStorage.deleteCompanySites s.db id)).Organized :=
    (inv.deleteSiteAreas _).deleteSites _
  refine ⟨{ without.referential with companies := ?_ }, { without.settling with }⟩
  intro site mem
  obtain ⟨company, hcompany, same⟩ := without.referential.companies site mem
  refine ⟨company, mem_delete.mpr ⟨hcompany, ?_⟩, same⟩
  -- A site of the company would have been deleted.
  rintro rfl
  obtain ⟨stored, kept⟩ := mem_deleteMany.mp mem
  refine kept (decide_eq_true (List.mem_map.mpr ⟨site, List.mem_filter.mpr ⟨stored, ?_⟩, rfl⟩))
  exact decide_eq_true same.symm

end Deletions

/-! ## Changes of the organisation -/

/-- A company more. -/
theorem Organized.saveCompany (inv : s.Organized) (company : Company) :
    (s.withDb { s.db with companies := s.db.companies.save company }).Organized := by
  refine ⟨{ inv.referential with companies := ?_ }, { inv.settling with }⟩
  exact fun site mem => exists_key_save company (inv.referential.companies site mem)

/-- The site of a site area is still there when one is saved. -/
theorem exists_site_save (inv : s.Organized) (site : Site) :
    ∀ siteArea ∈ s.db.siteAreas.docs,
      ∃ found ∈ (s.db.sites.save site).docs, siteArea.siteID = some found.id := by
  intro siteArea mem
  obtain ⟨old, hold, same⟩ := inv.referential.sites siteArea mem
  obtain ⟨found, hfound, sameID⟩ := exists_key_save site ⟨old, hold, rfl⟩
  exact ⟨found, hfound, same.trans (congrArg some sameID.symm)⟩

/-- A document still has its site area when one is saved. -/
theorem hasSiteArea_save (old : db.HasSiteArea ids) :
    { db with siteAreas := db.siteAreas.save siteArea }.HasSiteArea ids := fun siteAreaID h =>
  exists_key_save siteArea (old siteAreaID h)

/-- **A new site**, that nothing refers to. -/
theorem Organized.createSite (inv : s.Organized)
    (company : ∃ company ∈ s.db.companies.docs, company.id = site.companyID)
    (new : ∀ old ∈ s.db.sites.docs, old.id ≠ site.id)
    (notPending : ∀ update ∈ s.pending, update.siteID ≠ site.id) :
    (s.withDb { s.db with sites := s.db.sites.save site }).Organized := by
  have elsewhere {siteArea : SiteArea} (mem : siteArea ∈ s.db.siteAreas.docs) :
      siteArea.siteID ≠ some site.id := by
    obtain ⟨old, hold, same⟩ := inv.referential.sites siteArea mem
    rw [same]
    exact fun equal => new old hold (Option.some.inj equal)
  have sub {siteAreaID : String} {org : OrganizationIDs}
      (h : { s.db with sites := s.db.sites.save site }.organizationOf siteAreaID = some org) :
      s.db.organizationOf siteAreaID = some org := by
    obtain ⟨siteArea, found, harea, same, hsite, rfl⟩ := organizationOf_eq_some.mp h
    refine organizationOf_eq_some.mpr ⟨siteArea, found, harea, same, ?_, rfl⟩
    rw [find_save_of_ne] at hsite
    · exact hsite
    · exact fun equal => elsewhere (mem_of_find harea) (equal ▸ same)
  refine ⟨⟨forall_mem_save inv.referential.companies company, exists_site_save inv site,
    inv.referential.chargingStations, inv.referential.assets⟩, ⟨?_, ?_, ?_⟩⟩
  · exact { inv.settling.toCopiesSettled.mono fun _ _ => sub with }
  · refine forall_mem_save inv.settling.sites (settle_of_not_selects fun update mem => ?_)
    unfold OrganizationUpdate.Selects
    split
    · exact fun none => by cases none
    · exact fun same => notPending update mem (Option.some.inj same).symm
  · intro siteArea mem other hother same
    rcases mem_save_of_ne hother with rfl | ⟨hother, -⟩
    · exact absurd same (elsewhere mem)
    · exact inv.settling.siteAreas siteArea mem other hother same

/-- **A new site area**, that nothing refers to. -/
theorem Organized.createSiteArea (inv : s.Organized)
    (hsite : site ∈ s.db.sites.docs) (inSite : siteArea.siteID = some site.id)
    (new : ∀ old ∈ s.db.siteAreas.docs, old.id ≠ siteArea.id)
    (notPending : ∀ update ∈ s.pending, update.siteAreaID ≠ some siteArea.id)
    (transactions : ∀ doc ∈ s.db.transactions.docs, doc.ids.siteAreaID ≠ some siteArea.id)
    (consumptions : ∀ doc ∈ s.db.consumptions.docs, doc.siteAreaID ≠ some siteArea.id) :
    (s.withDb { s.db with siteAreas := s.db.siteAreas.save siteArea }).Organized := by
  have sub {siteAreaID : String} {org : OrganizationIDs} (other : siteAreaID ≠ siteArea.id)
      (h : { s.db with siteAreas := s.db.siteAreas.save siteArea }.organizationOf siteAreaID =
        some org) : s.db.organizationOf siteAreaID = some org := by
    obtain ⟨found, site, harea, same, hsite, rfl⟩ := organizationOf_eq_some.mp h
    rw [find_save_of_ne other] at harea
    exact organizationOf_eq_some.mpr ⟨found, site, harea, same, hsite, rfl⟩
  have elsewhere {ids : OrganizationIDs} (old : s.db.HasSiteArea ids) {siteAreaID : String}
      (h : ids.siteAreaID = some siteAreaID) : siteAreaID ≠ siteArea.id := by
    obtain ⟨found, mem, rfl⟩ := old siteAreaID h
    exact new found mem
  refine ⟨⟨inv.referential.companies, ?_, ?_, ?_⟩, ⟨⟨?_, ?_, ?_, ?_⟩, inv.settling.sites, ?_⟩⟩
  · exact forall_mem_save inv.referential.sites ⟨site, hsite, inSite⟩
  · exact fun doc mem => hasSiteArea_save (inv.referential.chargingStations doc mem)
  · exact fun doc mem => hasSiteArea_save (inv.referential.assets doc mem)
  · exact fun doc mem => (inv.settling.chargingStations doc mem).mono fun _ _ h =>
      sub (elsewhere (inv.referential.chargingStations doc mem) h)
  · refine fun doc mem => (inv.settling.transactions doc mem).mono fun siteAreaID _ h => sub ?_
    rintro rfl
    exact transactions doc mem h
  · exact fun doc mem => (inv.settling.assets doc mem).mono fun _ _ h =>
      sub (elsewhere (inv.referential.assets doc mem) h)
  · refine fun doc mem => (inv.settling.consumptions doc mem).mono fun siteAreaID _ h => sub ?_
    rintro rfl
    exact consumptions doc mem h
  · intro other hother found hfound same
    rcases mem_save_of_ne hother with rfl | ⟨hother, -⟩
    · -- No update is about the new site area, and the others leave its site as it is.
      show settle s.pending ⟨_, _, _⟩ = _
      rw [settle_of_forall_siteAreaID_ne notPending]
      have site := inv.settling.sites found hfound
      unfold Site.idsOf at site
      rw [site]
      rfl
    · exact inv.settling.siteAreas other hother found hfound same

/-- **A site moves to another company**, and the update of its documents is pending. -/
theorem Organized.updateSite (inv : s.Organized) (found : s.db.sites.find id = some site)
    (company : ∃ company ∈ s.db.companies.docs, company.id = companyID) :
    (⟨{ s.db with sites := s.db.sites.save { site with companyID := companyID } },
      s.pending ++ [⟨companyID, site.id, none⟩]⟩ : OrganizationState).Organized := by
  have stored := mem_of_find found
  have follows : Follows s.db.organizationOf ⟨companyID, site.id, none⟩ { s.db with
      sites := s.db.sites.save { site with companyID := companyID } }.organizationOf := by
    intro siteAreaID org' h
    obtain ⟨siteArea, site', harea, same, hsite, rfl⟩ := organizationOf_eq_some.mp h
    rcases eq_or_ne site'.id site.id with moved | other
    · have saved : (s.db.sites.save { site with companyID := companyID }).find site.id =
          some { site with companyID := companyID } := find_save_self
      rw [moved, saved, Option.some.injEq] at hsite
      subst hsite
      exact ⟨site.idsOf (some siteAreaID),
        organizationOf_eq_some.mpr ⟨siteArea, site, harea, same, find_of_mem stored, rfl⟩, rfl,
        if_pos rfl⟩
    · have kept : (s.db.sites.save { site with companyID := companyID }).find site'.id =
          s.db.sites.find site'.id := find_save_of_ne other
      exact ⟨site'.idsOf (some siteAreaID),
        organizationOf_eq_some.mpr ⟨siteArea, site', harea, same, kept.symm.trans hsite, rfl⟩, rfl,
        if_neg fun same => other (Option.some.inj same)⟩
  -- The update makes the IDs of the site those it has now, and leaves those of the others.
  have updated (siteAreaID : Option String) {site' : Site}
      (mem : site' ∈ (s.db.sites.save { site with companyID := companyID }).docs)
      (settled : ∀ old ∈ s.db.sites.docs, old.id = site'.id →
        settle s.pending (old.idsOf siteAreaID) = old.idsOf siteAreaID) :
      settle (s.pending ++ [⟨companyID, site.id, none⟩]) (site'.idsOf siteAreaID) =
        site'.idsOf siteAreaID := by
    rw [settle_append, OrganizationUpdate.set_of_site]
    rcases mem_save_of_ne mem with rfl | ⟨mem, other⟩
    · have sameSite : (settle s.pending (Site.idsOf { site with companyID := companyID }
          siteAreaID)).siteID = (settle s.pending (site.idsOf siteAreaID)).siteID :=
        siteID_settle_congr rfl rfl
      rw [settled site stored rfl] at sameSite
      change _ = some site.id at sameSite
      rw [if_pos sameSite]
      ext1
      · rfl
      · exact sameSite
      · exact siteAreaID_settle
    · rw [settled site' mem rfl]
      exact if_neg fun same => other (Option.some.inj same)
  refine ⟨⟨forall_mem_save inv.referential.companies company, exists_site_save inv _,
    inv.referential.chargingStations, inv.referential.assets⟩, ⟨?_, ?_, ?_⟩⟩
  · exact { inv.settling.toCopiesSettled.append follows with }
  · exact fun site' mem => updated none mem fun old hold _ => inv.settling.sites old hold
  · intro siteArea mem site' hsite' same
    refine updated _ hsite' fun old hold sameSite => ?_
    exact inv.settling.siteAreas siteArea mem old hold (sameSite ▸ same)

/-- **A site area moves to another site**, and the update of its documents is pending. -/
theorem Organized.updateSiteArea (inv : s.Organized)
    (found : s.db.siteAreas.find id = some siteArea) (hsite : site ∈ s.db.sites.docs) :
    (⟨{ s.db with siteAreas := s.db.siteAreas.save { siteArea with siteID := some site.id } },
      s.pending ++ [⟨site.companyID, site.id, some siteArea.id⟩]⟩ :
        OrganizationState).Organized := by
  have stored := mem_of_find found
  have follows : Follows s.db.organizationOf ⟨site.companyID, site.id, some siteArea.id⟩ { s.db with
      siteAreas := s.db.siteAreas.save { siteArea with siteID := some site.id }
        }.organizationOf := by
    intro siteAreaID org' h
    obtain ⟨area', site', harea, same, hsite', rfl⟩ := organizationOf_eq_some.mp h
    rcases eq_or_ne siteAreaID siteArea.id with rfl | other
    · have saved : (s.db.siteAreas.save { siteArea with siteID := some site.id }).find siteArea.id =
          some { siteArea with siteID := some site.id } := find_save_self
      rw [saved, Option.some.injEq] at harea
      subst harea
      obtain ⟨before, hbefore, inBefore⟩ := inv.referential.sites siteArea stored
      refine ⟨before.idsOf (some siteArea.id), organizationOf_eq_some.mpr
        ⟨siteArea, before, find_of_mem stored, inBefore, find_of_mem hbefore, rfl⟩, rfl, ?_⟩
      obtain rfl := eq_of_key_eq hsite (mem_of_find hsite') (Option.some.inj same)
      exact if_pos rfl
    · have kept : (s.db.siteAreas.save { siteArea with siteID := some site.id }).find siteAreaID =
          s.db.siteAreas.find siteAreaID := find_save_of_ne other
      exact ⟨site'.idsOf (some siteAreaID),
        organizationOf_eq_some.mpr ⟨area', site', kept.symm.trans harea, same, hsite', rfl⟩, rfl,
        if_neg fun equal => other (Option.some.inj equal)⟩
  refine ⟨⟨inv.referential.companies, ?_, ?_, ?_⟩, ⟨?_, ?_, ?_⟩⟩
  · exact forall_mem_save inv.referential.sites ⟨site, hsite, rfl⟩
  · exact fun doc mem => hasSiteArea_save (inv.referential.chargingStations doc mem)
  · exact fun doc mem => hasSiteArea_save (inv.referential.assets doc mem)
  · exact { inv.settling.toCopiesSettled.append follows with }
  · intro site' mem
    rw [settle_append, inv.settling.sites site' mem, OrganizationUpdate.set_of_siteArea]
    exact if_neg fun none => by cases none
  · intro area' mem site' hsite' same
    rw [settle_append, OrganizationUpdate.set_of_siteArea]
    rcases mem_save_of_ne mem with rfl | ⟨mem, other⟩
    · obtain rfl := eq_of_key_eq hsite hsite' (Option.some.inj same)
      have selected : (settle s.pending (site.idsOf (some siteArea.id))).siteAreaID =
          some siteArea.id := siteAreaID_settle
      rw [if_pos selected]
      ext1
      · rfl
      · rfl
      · exact selected
    · rw [inv.settling.siteAreas area' mem site' hsite' same]
      exact if_neg fun equal => other (Option.some.inj equal)

theorem exists_of_mem_updateWithOrganizationIDs {K : Type} [DecidableEq K]
    {update : OrganizationUpdate} {entities : Entities K} {doc : Entity K}
    (mem : doc ∈ (updateWithOrganizationIDs update entities).1.docs) :
    ∃ before ∈ entities.docs, doc.ids = update.set before.ids := by
  obtain ⟨before, hbefore, rfl⟩ := List.mem_map.mp mem
  exact ⟨before, hbefore, rfl⟩

theorem exists_of_mem_updateConsumptions {update : OrganizationUpdate}
    {consumptions : Collection Consumption.id} {doc : Consumption}
    (mem : doc ∈ (ConsumptionStorage.updateConsumptionsWithOrganizationIDs update
      consumptions).1.docs) :
    ∃ before ∈ consumptions.docs, (update.set before.ids).siteID = doc.siteID ∧
      (update.set before.ids).siteAreaID = doc.siteAreaID := by
  obtain ⟨before, hbefore, rfl⟩ := List.mem_map.mp mem
  refine ⟨before, hbefore, ?_⟩
  rw [OrganizationUpdate.setConsumption_eq]
  exact ⟨rfl, OrganizationUpdate.siteAreaID_set⟩

/-- **The first pending update is carried out.** -/
theorem Organized.updateReferences (inv : s.Organized) {update : OrganizationUpdate}
    {pending : List OrganizationUpdate} (first : s.pending = update :: pending) :
    (⟨(updateEntitiesWithOrganizationIDs update s.db).1, pending⟩ :
      OrganizationState).Organized := by
  have settling := inv.settling
  have hasSiteArea {entities : Entities String}
      (old : ∀ doc ∈ entities.docs, s.db.HasSiteArea doc.ids) :
      ∀ doc ∈ (updateWithOrganizationIDs update entities).1.docs, s.db.HasSiteArea doc.ids := by
    intro doc mem siteAreaID h
    obtain ⟨before, hbefore, same⟩ := exists_of_mem_updateWithOrganizationIDs mem
    rw [same, OrganizationUpdate.siteAreaID_set] at h
    exact old before hbefore siteAreaID h
  have idempotent {ids : OrganizationIDs} (h : settle s.pending ids = ids) :
      settle pending ids = ids := by
    rw [first, settle_cons] at h
    rw [← h, settle_settle]
  refine ⟨⟨inv.referential.companies, inv.referential.sites,
      hasSiteArea inv.referential.chargingStations, hasSiteArea inv.referential.assets⟩,
    ⟨⟨?_, ?_, ?_, ?_⟩, fun site mem => idempotent (settling.sites site mem),
      fun siteArea mem site hsite same =>
        idempotent (settling.siteAreas siteArea mem site hsite same)⟩⟩
  · intro doc mem
    obtain ⟨before, hbefore, same⟩ := exists_of_mem_updateWithOrganizationIDs mem
    rw [same]
    exact (first ▸ settling.chargingStations before hbefore).set
  · intro doc mem
    obtain ⟨before, hbefore, same⟩ := exists_of_mem_updateWithOrganizationIDs mem
    rw [same]
    exact (first ▸ settling.transactions before hbefore).set
  · intro doc mem
    obtain ⟨before, hbefore, same⟩ := exists_of_mem_updateWithOrganizationIDs mem
    rw [same]
    exact (first ▸ settling.assets before hbefore).set
  · intro doc mem
    obtain ⟨before, hbefore, site, siteArea⟩ := exists_of_mem_updateConsumptions mem
    have settled : SettledSite s.db.organizationOf pending (update.set before.ids) :=
      (first ▸ settling.consumptions before hbefore).set
    exact settled.congr site siteArea

end OrganizationState

end Organization

end EvServer
