import EvServer.Organization.Organized

/-!
# The copies agree with the organisation

Requests are handled one after the other, and the updates that they start are carried out at any
time later, in the order in which they were started.  Every request keeps the invariant, so the
copies agree with the organisation as soon as no update is pending, and no reference dangles in
the meantime either.

The IDs of new documents are new: `new ObjectId()`.
-/

namespace EvServer

namespace Organization

open Collection

namespace OrganizationState

variable {s s' : OrganizationState} {requests : List OrganizationRequest} {id : String}

/-! ## Requests -/

/-- The ID has been used. -/
def Uses (s : OrganizationState) (id : String) : Prop :=
  (∃ site ∈ s.db.sites.docs, site.id = id) ∨
  (∃ siteArea ∈ s.db.siteAreas.docs, siteArea.id = id) ∨
  (∃ update ∈ s.pending, update.siteID = id ∨ update.siteAreaID = some id) ∨
  (∃ doc ∈ s.db.transactions.docs, doc.ids.siteAreaID = some id) ∨
  (∃ doc ∈ s.db.consumptions.docs, doc.siteAreaID = some id)

instance : DecidablePred s.Uses := fun _ => inferInstanceAs (Decidable (_ ∨ _))

/-- The ID of a new site or site area is new, and assets are put in a site area by users whose
organisation component is active. -/
def Admits (s : OrganizationState) : OrganizationRequest → Prop
  | .createSite id _ => ¬ s.Uses id
  | .createSiteArea id _ => ¬ s.Uses id
  | .saveAsset _ siteAreaID organizationActive => siteAreaID.isSome → organizationActive = true
  | _ => True

/-- A request is handled or refused. -/
def Step (s : OrganizationState) (request : OrganizationRequest) (s' : OrganizationState) : Prop :=
  s.handle request = some s' ∨ s' = s

/-- A charging station of which only the IDs have changed. -/
theorem Organized.saveChargingStation (inv : s.Organized) {doc : Entity String}
    (hasSiteArea : s.db.HasSiteArea doc.ids)
    (settled : Settled s.db.organizationOf s.pending doc.ids) :
    (s.withDb { s.db with chargingStations := s.db.chargingStations.save doc }).Organized :=
  inv.chargingStations (forall_mem_save inv.referential.chargingStations hasSiteArea)
    (forall_mem_save inv.settling.chargingStations settled)

theorem Organized.saveAssetDoc (inv : s.Organized) {doc : Entity String}
    (hasSiteArea : s.db.HasSiteArea doc.ids)
    (settled : SettledSite s.db.organizationOf s.pending doc.ids) :
    (s.withDb { s.db with assets := s.db.assets.save doc }).Organized :=
  inv.assets (forall_mem_save inv.referential.assets hasSiteArea)
    (forall_mem_save inv.settling.assets settled)

theorem organized_assignChargingStations (inv : s.Organized) {add : Bool}
    {siteAreaID : String} {ids : List String}
    (h : s.handleAssignChargingStationsToSiteArea add siteAreaID ids = some s') : s'.Organized := by
  obtain ⟨siteArea, found, h⟩ := Option.bind_eq_some_iff.mp h
  obtain ⟨checked, -, h⟩ := Option.bind_eq_some_iff.mp h
  obtain rfl := Option.some.inj h
  cases add with
  | true =>
      exact inv.chargingStations
        (forall_mem_assign inv.referential.chargingStations fun _ _ =>
          hasSiteArea_of_find found rfl)
        (forall_mem_assign inv.settling.chargingStations fun _ _ => settled_idsIn inv found)
  | false =>
      exact inv.chargingStations
        (forall_mem_assign inv.referential.chargingStations fun _ _ => hasSiteArea_of_none rfl)
        (forall_mem_assign inv.settling.chargingStations fun _ _ => .of_none rfl)

theorem organized_assignAssets (inv : s.Organized) {add : Bool}
    {siteAreaID : String} {ids : List String}
    (h : s.handleAssignAssetsToSiteArea add siteAreaID ids = some s') : s'.Organized := by
  obtain ⟨siteArea, found, h⟩ := Option.bind_eq_some_iff.mp h
  obtain ⟨checked, -, h⟩ := Option.bind_eq_some_iff.mp h
  obtain rfl := Option.some.inj h
  cases add with
  | true =>
      exact inv.assets
        (forall_mem_assign inv.referential.assets fun _ _ => hasSiteArea_of_find found rfl)
        (forall_mem_assign inv.settling.assets fun _ _ =>
          (settled_idsIn inv found).site.congr rfl rfl)
  | false =>
      exact inv.assets
        (forall_mem_assign inv.referential.assets fun _ _ => hasSiteArea_of_none rfl)
        (forall_mem_assign inv.settling.assets fun _ _ => (Settled.of_none rfl).site)

theorem organized_updateChargingStation (inv : s.Organized)
    {siteAreaID : Option String} {active : Bool}
    (h : s.handleUpdateChargingStationParams id siteAreaID active = some s') : s'.Organized := by
  obtain ⟨chargingStation, -, h⟩ := Option.bind_eq_some_iff.mp h
  dsimp only at h
  split at h
  · obtain rfl := Option.some.inj h
    exact inv.saveChargingStation (hasSiteArea_of_none rfl) (.of_none rfl)
  · obtain ⟨siteArea, found, h⟩ := Option.bind_eq_some_iff.mp h
    split at h
    · obtain rfl := Option.some.inj h
      exact inv.saveChargingStation (hasSiteArea_of_find found rfl) (settled_idsIn inv found)
    · cases h

theorem organized_bootChargingStation (inv : s.Organized)
    {siteAreaID : Option String}
    (h : s.createChargingStationFromBootNotification id siteAreaID = some s') : s'.Organized := by
  unfold createChargingStationFromBootNotification at h
  dsimp only at h
  split at h
  · cases h
  · obtain rfl := Option.some.inj h
    rcases hsiteArea : siteAreaID.bind s.db.siteAreas.find with _ | siteArea
    · exact inv.saveChargingStation (hasSiteArea_of_none rfl) (.of_none rfl)
    · obtain ⟨siteAreaID, -, found⟩ := Option.bind_eq_some_iff.mp hsiteArea
      exact inv.saveChargingStation (hasSiteArea_of_find found rfl) (settled_idsIn inv found)

theorem organized_deleteChargingStation (inv : s.Organized)
    {logically : Bool} (h : s.handleDeleteChargingStation id logically = some s') :
    s'.Organized := by
  obtain ⟨chargingStation, -, h⟩ := Option.bind_eq_some_iff.mp h
  obtain rfl := Option.some.inj h
  cases logically with
  | true => exact inv.saveChargingStation (hasSiteArea_of_none rfl) (.of_none rfl)
  | false =>
      exact inv.chargingStations
        (fun doc mem => inv.referential.chargingStations doc (mem_delete.mp mem).1)
        (fun doc mem => inv.settling.chargingStations doc (mem_delete.mp mem).1)

/-- A transaction has the IDs of its charging station. -/
theorem organized_startTransaction (inv : s.Organized) {id : ℤ}
    {chargingStationID : String} {active : Bool}
    (h : s.startTransaction id chargingStationID active = some s') : s'.Organized := by
  obtain ⟨chargingStation, found, h⟩ := Option.bind_eq_some_iff.mp h
  obtain rfl := Option.some.inj h
  refine inv.transactions (forall_mem_save inv.settling.transactions ?_)
  cases active with
  | true => exact inv.settling.chargingStations chargingStation (mem_of_find found)
  | false => exact .of_none rfl

/-- A consumption has the IDs of its transaction. -/
theorem organized_createConsumption (inv : s.Organized)
    {transactionID : ℤ} (h : s.createConsumption id transactionID = some s') : s'.Organized := by
  obtain ⟨transaction, found, h⟩ := Option.bind_eq_some_iff.mp h
  obtain rfl := Option.some.inj h
  refine inv.consumptions (forall_mem_save inv.settling.consumptions ?_)
  exact (inv.settling.transactions transaction (mem_of_find found)).site.congr rfl rfl

theorem organized_saveAsset (inv : s.Organized)
    {siteAreaID : Option String} {active : Bool} (admits : siteAreaID.isSome → active = true)
    (h : s.saveAsset id siteAreaID active = some s') : s'.Organized := by
  unfold saveAsset at h
  cases siteAreaID with
  | none =>
      obtain rfl := Option.some.inj h
      exact inv.saveAssetDoc (hasSiteArea_of_none rfl) (Settled.of_none rfl).site
  | some siteAreaID =>
      obtain rfl := admits rfl
      obtain ⟨siteArea, found, h⟩ := Option.bind_eq_some_iff.mp h
      obtain rfl := Option.some.inj h
      have same : siteArea.id = siteAreaID := key_of_find found
      refine inv.saveAssetDoc (hasSiteArea_of_find found (congrArg some same.symm)) ?_
      exact (settled_idsIn inv found).site.congr rfl (congrArg some same)

/-- **Every request keeps the invariant.** -/
theorem Organized.handle (inv : s.Organized) {request : OrganizationRequest}
    (admits : s.Admits request) (h : s.handle request = some s') :
    s'.Organized := by
  cases request with
  | createCompany id =>
      obtain rfl := Option.some.inj h
      exact inv.saveCompany ⟨id⟩
  | deleteCompany id =>
      obtain ⟨company, -, h⟩ := Option.bind_eq_some_iff.mp h
      obtain rfl := Option.some.inj h
      exact inv.deleteCompany company.id
  | createSite id companyID =>
      obtain ⟨company, found, h⟩ := Option.bind_eq_some_iff.mp h
      obtain rfl := Option.some.inj h
      refine inv.createSite ⟨company, mem_of_find found, rfl⟩ ?_ ?_
      · exact fun old mem same => admits (.inl ⟨old, mem, same⟩)
      · exact fun update mem same => admits (.inr (.inr (.inl ⟨update, mem, .inl same⟩)))
  | updateSite id companyID =>
      obtain ⟨site, found, h⟩ := Option.bind_eq_some_iff.mp h
      obtain ⟨company, hcompany, h⟩ := Option.bind_eq_some_iff.mp h
      obtain rfl := Option.some.inj h
      exact inv.updateSite found ⟨company, mem_of_find hcompany, rfl⟩
  | deleteSite id =>
      obtain ⟨site, -, h⟩ := Option.bind_eq_some_iff.mp h
      obtain rfl := Option.some.inj h
      exact inv.deleteSites [site.id]
  | createSiteArea id siteID =>
      obtain ⟨site, found, h⟩ := Option.bind_eq_some_iff.mp h
      obtain rfl := Option.some.inj h
      refine inv.createSiteArea (mem_of_find found) rfl ?_ ?_ ?_ ?_
      · exact fun old mem same => admits (.inr (.inl ⟨old, mem, same⟩))
      · exact fun update mem same => admits (.inr (.inr (.inl ⟨update, mem, .inr same⟩)))
      · exact fun doc mem same => admits (.inr (.inr (.inr (.inl ⟨doc, mem, same⟩))))
      · exact fun doc mem same => admits (.inr (.inr (.inr (.inr ⟨doc, mem, same⟩))))
  | updateSiteArea id siteID =>
      obtain ⟨siteArea, found, h⟩ := Option.bind_eq_some_iff.mp h
      obtain ⟨site, hsite, h⟩ := Option.bind_eq_some_iff.mp h
      obtain rfl := Option.some.inj h
      exact inv.updateSiteArea found (mem_of_find hsite)
  | deleteSiteArea id =>
      obtain ⟨siteArea, -, h⟩ := Option.bind_eq_some_iff.mp h
      obtain rfl := Option.some.inj h
      exact inv.deleteSiteAreas [siteArea.id]
  | addChargingStations siteAreaID ids => exact organized_assignChargingStations inv h
  | removeChargingStations siteAreaID ids => exact organized_assignChargingStations inv h
  | addAssets siteAreaID ids => exact organized_assignAssets inv h
  | removeAssets siteAreaID ids => exact organized_assignAssets inv h
  | updateChargingStation id siteAreaID active => exact organized_updateChargingStation inv h
  | bootChargingStation id siteAreaID => exact organized_bootChargingStation inv h
  | deleteChargingStation id logically => exact organized_deleteChargingStation inv h
  | startTransaction id chargingStationID active => exact organized_startTransaction inv h
  | createConsumption id transactionID => exact organized_createConsumption inv h
  | saveAsset id siteAreaID active => exact organized_saveAsset inv admits h
  | updateReferences =>
      change s.updateReferences = some s' at h
      unfold OrganizationState.updateReferences at h
      split at h
      · cases h
      · next first =>
        obtain rfl := Option.some.inj h
        exact inv.updateReferences first

/-- The invariant holds in every run. -/
theorem organized_of_run
    (run : Transition.Run (Transition.guarded Admits Step) start requests s) : s.Organized := by
  refine run.invariant organized_start fun t request r inv step => ?_
  obtain ⟨admits, handled | refused⟩ := step
  · exact inv.handle admits handled
  · exact refused ▸ inv

/-- The copies agree with the organisation. -/
structure Agrees (db : Database) : Prop where
  /-- A charging station has the IDs of its site area, which exists with its site. -/
  chargingStations : ∀ doc ∈ db.chargingStations.docs, ∀ siteAreaID,
    doc.ids.siteAreaID = some siteAreaID → db.organizationOf siteAreaID = some doc.ids
  /-- So has a transaction, unless its site area has been deleted. -/
  transactions : ∀ doc ∈ db.transactions.docs, ∀ siteAreaID org,
    doc.ids.siteAreaID = some siteAreaID → db.organizationOf siteAreaID = some org → doc.ids = org
  /-- An asset has the site of its site area. -/
  assets : ∀ doc ∈ db.assets.docs, ∀ siteAreaID, doc.ids.siteAreaID = some siteAreaID →
    ∃ org, db.organizationOf siteAreaID = some org ∧ doc.ids.siteID = org.siteID
  /-- So has a consumption, unless its site area has been deleted. -/
  consumptions : ∀ doc ∈ db.consumptions.docs, ∀ siteAreaID org,
    doc.siteAreaID = some siteAreaID → db.organizationOf siteAreaID = some org →
      doc.siteID = org.siteID

/-- A site area that exists has a site, and its company. -/
theorem Referential.organizationOf {db : Database} (inv : Referential db) {siteArea : SiteArea}
    (mem : siteArea ∈ db.siteAreas.docs) :
    ∃ org, db.organizationOf siteArea.id = some org := by
  obtain ⟨site, hsite, same⟩ := inv.sites siteArea mem
  exact ⟨_, organizationOf_eq_some.mpr
    ⟨siteArea, site, find_of_mem mem, same, find_of_mem hsite, rfl⟩⟩

/-- A charging station of a site charges while the site moves to another company. -/
def exampleMove : List OrganizationRequest :=
  [.createCompany "A", .createCompany "B", .createSite "site" "A", .createSiteArea "area" "site",
    .bootChargingStation "CS" (some "area"), .updateSite "site" "B",
    .startTransaction 1 "CS" true, .updateReferences]

instance : ∀ (s : OrganizationState) (request : OrganizationRequest), Decidable (s.Admits request)
  | s, .createSite id _ => inferInstanceAs (Decidable (¬ s.Uses id))
  | s, .createSiteArea id _ => inferInstanceAs (Decidable (¬ s.Uses id))
  | _, .saveAsset _ _ _ => inferInstanceAs (Decidable (_ → _))
  | _, .createCompany _ | _, .deleteCompany _ | _, .updateSite _ _ | _, .deleteSite _
  | _, .updateSiteArea _ _ | _, .deleteSiteArea _ | _, .addChargingStations _ _
  | _, .removeChargingStations _ _ | _, .addAssets _ _ | _, .removeAssets _ _
  | _, .updateChargingStation _ _ _ | _, .bootChargingStation _ _
  | _, .deleteChargingStation _ _ | _, .startTransaction _ _ _ | _, .createConsumption _ _
  | _, .updateReferences => .isTrue trivial

/-- The company is deleted while the charging station is in its site area. -/
def exampleDelete : List OrganizationRequest :=
  [.createCompany "A", .createSite "site" "A", .createSiteArea "area" "site",
    .bootChargingStation "CS" (some "area"), .deleteCompany "A"]

end OrganizationState

end Organization

end EvServer
