import EvServer.Organization.OrganizationIDs

/-!
# What the pending updates will have made of the copies

An update changes each document by itself, so what the pending updates will have made of a
document can be computed from its IDs (`settle`).  They never change its site area, and what they
set as its site does not depend on the company it has.

The IDs of a document are settled when the pending updates will have made them the IDs of its site
area in the database.  This is what is invariant: the IDs themselves are behind while an update of
the site area is pending.
-/

namespace EvServer

namespace Organization

open Collection

/-- `siteID` and `siteAreaID` of a consumption. -/
def Consumption.ids (consumption : Consumption) : OrganizationIDs :=
  ⟨none, consumption.siteID, consumption.siteAreaID⟩

variable {update : OrganizationUpdate} {pending : List OrganizationUpdate}
variable {ids ids' org : OrganizationIDs} {siteAreaID : String}

/-! ## One update -/

namespace OrganizationUpdate

@[simp] theorem siteAreaID_set : (update.set ids).siteAreaID = ids.siteAreaID := by
  unfold set
  split
  · split <;> rfl
  · rfl

theorem set_of_not_selects (h : ¬ update.Selects ids) : update.set ids = ids := if_neg h

/-- An update of a site sets the company of the documents of the site. -/
@[simp] theorem set_of_site (companyID siteID : String) :
    (⟨companyID, siteID, none⟩ : OrganizationUpdate).set ids =
      if ids.siteID = some siteID then { ids with companyID := some companyID } else ids := rfl

/-- An update of a site area sets the company and the site of its documents. -/
@[simp] theorem set_of_siteArea (companyID siteID siteAreaID : String) :
    (⟨companyID, siteID, some siteAreaID⟩ : OrganizationUpdate).set ids =
      if ids.siteAreaID = some siteAreaID then
        { ids with siteID := some siteID, companyID := some companyID }
      else ids := rfl

/-- The site that is set does not depend on the company. -/
theorem siteID_set_congr (site : ids.siteID = ids'.siteID)
    (siteArea : ids.siteAreaID = ids'.siteAreaID) :
    (update.set ids).siteID = (update.set ids').siteID := by
  obtain ⟨companyID, siteID, siteAreaID⟩ := update
  cases siteAreaID with
  | none =>
      rw [set_of_site, set_of_site]
      split <;> split <;> exact site
  | some siteAreaID =>
      rw [set_of_siteArea, set_of_siteArea, siteArea]
      split
      · rfl
      · exact site

/-- A consumption is updated like a document without a company. -/
theorem setConsumption_eq (consumption : Consumption) :
    update.setConsumption consumption = { consumption with
      siteID := (update.set consumption.ids).siteID } := by
  obtain ⟨companyID, siteID, siteAreaID⟩ := update
  unfold setConsumption Consumption.ids
  cases siteAreaID with
  | none =>
      rw [if_neg fun h => Bool.false_ne_true h.1, set_of_site]
      split <;> rfl
  | some siteAreaID =>
      rw [set_of_siteArea]
      by_cases same : consumption.siteAreaID = some siteAreaID
      · rw [if_pos ⟨rfl, same⟩, if_pos same]
      · rw [if_neg fun h => same h.2, if_neg same]

end OrganizationUpdate

open OrganizationUpdate

/-! ## The pending updates -/

/-- The IDs when the pending updates have been carried out. -/
def settle (pending : List OrganizationUpdate) (ids : OrganizationIDs) : OrganizationIDs :=
  pending.foldl (fun ids update => update.set ids) ids

@[simp] theorem settle_nil : settle [] ids = ids := rfl

@[simp] theorem settle_cons :
    settle (update :: pending) ids = settle pending (update.set ids) := rfl

@[simp] theorem settle_append :
    settle (pending ++ [update]) ids = update.set (settle pending ids) :=
  List.foldl_append ..

@[simp] theorem siteAreaID_settle : (settle pending ids).siteAreaID = ids.siteAreaID := by
  induction pending generalizing ids with
  | nil => rfl
  | cons update pending ih => rw [settle_cons, ih, siteAreaID_set]

theorem siteID_settle_congr (site : ids.siteID = ids'.siteID)
    (siteArea : ids.siteAreaID = ids'.siteAreaID) :
    (settle pending ids).siteID = (settle pending ids').siteID := by
  induction pending generalizing ids ids' with
  | nil => exact site
  | cons update pending ih =>
      rw [settle_cons, settle_cons]
      refine ih (siteID_set_congr site siteArea) ?_
      rw [siteAreaID_set, siteAreaID_set, siteArea]

/-- Updates of other documents do nothing. -/
theorem settle_of_not_selects (h : ∀ update ∈ pending, ¬ update.Selects ids) :
    settle pending ids = ids := by
  induction pending with
  | nil => rfl
  | cons update pending ih =>
      rw [List.forall_mem_cons] at h
      rw [settle_cons, set_of_not_selects h.1, ih h.2]

/-- A document keeps its site until its site area is updated, which makes all documents of the
site area alike. -/
theorem settle_eq_or_siteID_settle (siteArea : ids.siteAreaID = ids'.siteAreaID) :
    settle pending ids = settle pending ids' ∨ (settle pending ids).siteID = ids.siteID := by
  induction pending generalizing ids ids' with
  | nil => exact .inr rfl
  | cons update pending ih =>
      rw [settle_cons, settle_cons]
      have alike : (update.set ids).siteAreaID = (update.set ids').siteAreaID := by
        rw [siteAreaID_set, siteAreaID_set, siteArea]
      obtain ⟨companyID, siteID, updated⟩ := update
      cases updated with
      | none =>
          refine (ih alike).imp_right fun same => same.trans ?_
          rw [set_of_site]
          split <;> rfl
      | some updated =>
          rcases eq_or_ne ids.siteAreaID (some updated) with selected | other
          · refine .inl (congrArg (settle pending) ?_)
            rw [set_of_siteArea, set_of_siteArea, if_pos selected, if_pos (siteArea ▸ selected)]
            ext1
            · rfl
            · rfl
            · exact siteArea
          · refine (ih alike).imp_right fun same => same.trans ?_
            rw [set_of_siteArea, if_neg other]

/-- Documents of one site keep their companies until an update makes them alike. -/
theorem settle_eq_or_companyID_settle (site : ids.siteID = ids'.siteID)
    (siteArea : ids.siteAreaID = ids'.siteAreaID) :
    settle pending ids = settle pending ids' ∨
      (settle pending ids).companyID = ids.companyID ∧
        (settle pending ids').companyID = ids'.companyID := by
  induction pending generalizing ids ids' with
  | nil => exact .inr ⟨rfl, rfl⟩
  | cons update pending ih =>
      rw [settle_cons, settle_cons]
      have alike : update.Selects ids ↔ update.Selects ids' := by
        unfold Selects
        split
        · rw [siteArea]
        · rw [site]
      by_cases selected : update.Selects ids
      · refine .inl (congrArg (settle pending) ?_)
        unfold OrganizationUpdate.set
        rw [if_pos selected, if_pos (alike.mp selected)]
        split
        · ext1
          · rfl
          · rfl
          · exact siteArea
        · ext1
          · rfl
          · exact site
          · exact siteArea
      · rw [set_of_not_selects selected, set_of_not_selects fun h => selected (alike.mpr h)]
        exact ih site siteArea

/-- **The updates are idempotent.**  To carry them out once more changes nothing. -/
@[simp] theorem settle_settle : settle pending (settle pending ids) = settle pending ids := by
  have siteArea : ids.siteAreaID = (settle pending ids).siteAreaID := siteAreaID_settle.symm
  have alike : settle pending ids = settle pending (settle pending ids) ∨
      (settle pending ids).siteID = ids.siteID := settle_eq_or_siteID_settle siteArea
  rcases alike with same | site
  · exact same.symm
  · have alike : settle pending ids = settle pending (settle pending ids) ∨
        (settle pending ids).companyID = ids.companyID ∧
          (settle pending (settle pending ids)).companyID = (settle pending ids).companyID :=
      settle_eq_or_companyID_settle site.symm siteArea
    rcases alike with same | ⟨-, company⟩
    · exact same.symm
    · -- Nothing has been updated.
      ext1
      · exact company
      · exact siteID_settle_congr site siteAreaID_settle
      · exact siteAreaID_settle

/-- A site area that no update is about is updated with its site. -/
theorem settle_of_forall_siteAreaID_ne (h : ∀ update ∈ pending, update.siteAreaID ≠ some siteAreaID)
    (companyID siteID : Option String) :
    settle pending ⟨companyID, siteID, some siteAreaID⟩ =
      { settle pending ⟨companyID, siteID, none⟩ with siteAreaID := some siteAreaID } := by
  induction pending generalizing companyID with
  | nil => rfl
  | cons update pending ih =>
      rw [List.forall_mem_cons] at h
      obtain ⟨newCompanyID, newSiteID, updated⟩ := update
      cases updated with
      | none =>
          rw [settle_cons, settle_cons, set_of_site, set_of_site]
          dsimp only
          split
          · exact ih h.2 _
          · exact ih h.2 _
      | some updated =>
          rw [settle_cons, settle_cons, set_of_siteArea, set_of_siteArea, if_neg, if_neg]
          · exact ih h.2 _
          · exact fun none => by cases none
          · exact fun same => h.1 same.symm

/-! ## The IDs in the database -/

/-- The IDs of a site area are found along its site. -/
theorem organizationOf_eq_some {db : Database} :
    db.organizationOf siteAreaID = some org ↔
      ∃ siteArea site, db.siteAreas.find siteAreaID = some siteArea ∧
        siteArea.siteID = some site.id ∧ db.sites.find site.id = some site ∧
        org = ⟨some site.companyID, some site.id, some siteAreaID⟩ := by
  unfold Database.organizationOf
  simp only [Option.bind_eq_bind, Option.bind_eq_some_iff, Option.pure_def, Option.some.injEq]
  constructor
  · rintro ⟨siteArea, harea, siteID, hsiteID, site, hsite, rfl⟩
    obtain rfl := key_of_find hsite
    exact ⟨siteArea, site, harea, hsiteID, hsite, rfl⟩
  · rintro ⟨siteArea, site, harea, hsiteID, hsite, rfl⟩
    exact ⟨siteArea, harea, site.id, hsiteID, site, hsite, rfl⟩

/-- The IDs of a document will be those of its site area. -/
def Settled (organizationOf : String → Option OrganizationIDs) (pending : List OrganizationUpdate)
    (ids : OrganizationIDs) : Prop :=
  ∀ siteAreaID org, ids.siteAreaID = some siteAreaID → organizationOf siteAreaID = some org →
    settle pending ids = org

/-- The site of a document will be that of its site area. -/
def SettledSite (organizationOf : String → Option OrganizationIDs)
    (pending : List OrganizationUpdate) (ids : OrganizationIDs) : Prop :=
  ∀ siteAreaID org, ids.siteAreaID = some siteAreaID → organizationOf siteAreaID = some org →
    (settle pending ids).siteID = org.siteID

variable {organizationOf organizationOf' : String → Option OrganizationIDs}

theorem Settled.site (settled : Settled organizationOf pending ids) :
    SettledSite organizationOf pending ids := by
  intro siteAreaID org siteArea found
  rw [settled siteAreaID org siteArea found]

/-- A document without a site area is settled. -/
theorem Settled.of_none (h : ids.siteAreaID = none) : Settled organizationOf pending ids := by
  intro siteAreaID org siteArea _
  rw [h] at siteArea
  cases siteArea

/-- Fewer site areas. -/
theorem Settled.mono (settled : Settled organizationOf pending ids)
    (sub : ∀ siteAreaID org, ids.siteAreaID = some siteAreaID →
      organizationOf' siteAreaID = some org → organizationOf siteAreaID = some org) :
    Settled organizationOf' pending ids := fun siteAreaID org siteArea found =>
  settled siteAreaID org siteArea (sub siteAreaID org siteArea found)

theorem SettledSite.mono (settled : SettledSite organizationOf pending ids)
    (sub : ∀ siteAreaID org, ids.siteAreaID = some siteAreaID →
      organizationOf' siteAreaID = some org → organizationOf siteAreaID = some org) :
    SettledSite organizationOf' pending ids := fun siteAreaID org siteArea found =>
  settled siteAreaID org siteArea (sub siteAreaID org siteArea found)

/-- The company does not matter for the site. -/
theorem SettledSite.congr (settled : SettledSite organizationOf pending ids)
    (site : ids.siteID = ids'.siteID) (siteArea : ids.siteAreaID = ids'.siteAreaID) :
    SettledSite organizationOf pending ids' := by
  intro siteAreaID org found hfound
  rw [← siteID_settle_congr site siteArea]
  exact settled siteAreaID org (siteArea.trans found) hfound

/-- An update changes the IDs of the site areas as they have changed. -/
def Follows (organizationOf : String → Option OrganizationIDs) (update : OrganizationUpdate)
    (organizationOf' : String → Option OrganizationIDs) : Prop :=
  ∀ siteAreaID org', organizationOf' siteAreaID = some org' →
    ∃ org, organizationOf siteAreaID = some org ∧ org.siteAreaID = some siteAreaID ∧
      update.set org = org'

/-- The IDs follow the organisation when the update is pending. -/
theorem Settled.append (settled : Settled organizationOf pending ids)
    (follows : Follows organizationOf update organizationOf') :
    Settled organizationOf' (pending ++ [update]) ids := by
  intro siteAreaID org' h found
  obtain ⟨org, before, -, rfl⟩ := follows siteAreaID org' found
  rw [settle_append, settled siteAreaID org h before]

theorem SettledSite.append (settled : SettledSite organizationOf pending ids)
    (follows : Follows organizationOf update organizationOf') :
    SettledSite organizationOf' (pending ++ [update]) ids := by
  intro siteAreaID org' h found
  obtain ⟨org, before, siteArea, rfl⟩ := follows siteAreaID org' found
  rw [settle_append]
  refine siteID_set_congr (settled siteAreaID org h before) ?_
  rw [siteAreaID_settle, h, siteArea]

/-- The first update is carried out on the document. -/
theorem Settled.set (settled : Settled organizationOf (update :: pending) ids) :
    Settled organizationOf pending (update.set ids) := by
  intro siteAreaID org siteArea found
  rw [siteAreaID_set] at siteArea
  exact settled siteAreaID org siteArea found

theorem SettledSite.set (settled : SettledSite organizationOf (update :: pending) ids) :
    SettledSite organizationOf pending (update.set ids) := by
  intro siteAreaID org siteArea found
  rw [siteAreaID_set] at siteArea
  exact settled siteAreaID org siteArea found

end Organization

end EvServer
