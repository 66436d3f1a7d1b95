import EvServer.Lib.Growth
import EvServer.Roaming.EmspLocations

/-!
# The sites and site areas of pulled locations

`pullLocations` keeps a site for each operator and a site area for each location.  Those stored
for the company of the endpoint are read once, at the start, and looked up by name: the name of
the operator, and the name of the operator and the ID of the location.

A site that is created is added to the ones that have been read, when its location has been
processed to the end.  A site area that is created is not.

ObjectIds are numbered in the order in which they are generated.  A call of the database may
fail, and so may the processing of the charging stations, which are those of
`EvServer.Roaming.EmspStations`.  The address of a site, and the dates of a change, are left out.
-/

namespace EvServer.PulledLocations

open EmspLocations (OCPILocation)

/-! ## The store -/

/-- `Site`. -/
structure Site where
  id : ℕ
  name : String
  companyID : String
  deriving DecidableEq, Repr

/-- `SiteArea`, with `ocpiData.location`. -/
structure SiteArea where
  id : ℕ
  name : String
  siteID : ℕ
  location : Option OCPILocation := none
  deriving DecidableEq, Repr

/-- The collections, and how many ObjectIds have been generated for them. -/
structure Store where
  sites : Collection Site.id
  siteAreas : Collection SiteArea.id
  objectIDs : ℕ
  sites_lt : ∀ site ∈ sites.docs, site.id < objectIDs
  siteAreas_lt : ∀ siteArea ∈ siteAreas.docs, siteArea.id < objectIDs

namespace Store

/-- The collections before anything has been stored. -/
def empty : Store := ⟨.empty, .empty, 0, fun _ mem => (List.not_mem_nil mem).elim,
  fun _ mem => (List.not_mem_nil mem).elim⟩

variable (store : Store)

/-- `SiteStorage.saveSite`. -/
def saveSite (site : Site) : Store where
  sites := store.sites.save site
  siteAreas := store.siteAreas
  objectIDs := max store.objectIDs (site.id + 1)
  sites_lt := fun other mem => by
    rcases Collection.mem_save mem with rfl | mem
    · omega
    · have := store.sites_lt other mem
      omega
  siteAreas_lt := fun siteArea mem => by
    have := store.siteAreas_lt siteArea mem
    omega

/-- `SiteAreaStorage.saveSiteArea`, which leaves the OCPI data alone. -/
def saveSiteArea (siteArea : SiteArea) : Store where
  sites := store.sites
  siteAreas := store.siteAreas.save
    { siteArea with location := (store.siteAreas.find siteArea.id).bind SiteArea.location }
  objectIDs := max store.objectIDs (siteArea.id + 1)
  sites_lt := fun site mem => by
    have := store.sites_lt site mem
    omega
  siteAreas_lt := fun other mem => by
    rcases Collection.mem_save mem with rfl | mem
    · exact lt_of_lt_of_le (Nat.lt_succ_self _) (le_max_right _ _)
    · have := store.siteAreas_lt other mem
      omega

/-- `SiteAreaStorage.saveSiteAreaOcpiData`. -/
def saveSiteAreaOcpiData (id : ℕ) (location : OCPILocation) : Store where
  sites := store.sites
  siteAreas := store.siteAreas.updateMany
    (fun siteArea =>
      if siteArea.id = id then { siteArea with location := some location } else siteArea)
    (fun siteArea => by split <;> rfl)
  objectIDs := store.objectIDs
  sites_lt := store.sites_lt
  siteAreas_lt := fun siteArea mem => by
    obtain ⟨old, stored, rfl⟩ := Collection.mem_updateMany.mp mem
    have := store.siteAreas_lt old stored
    split <;> exact this

theorem map_id_saveSiteAreaOcpiData (id : ℕ) (location : OCPILocation) :
    (store.saveSiteAreaOcpiData id location).siteAreas.docs.map SiteArea.id =
      store.siteAreas.docs.map SiteArea.id :=
  Collection.map_key_updateMany fun _ => by split <;> rfl

/-- `SiteStorage.getSites` of a company. -/
def getSites (companyID : String) : List Site :=
  store.sites.docs.filter fun site => site.companyID = companyID

/-- `SiteAreaStorage.getSiteAreas` of a company: those of its sites. -/
def getSiteAreas (companyID : String) : List SiteArea :=
  store.siteAreas.docs.filter fun siteArea =>
    (store.sites.find siteArea.siteID).any fun site => site.companyID = companyID

end Store

/-! ## Pulling -/

/-- The calls that may fail once the site has a name. -/
inductive Call
  | saveSite
  | saveSiteArea
  | saveSiteAreaOcpiData
  | processEMSPLocationChargingStations
  deriving DecidableEq, Repr

/-- A location of a page, and the call that throws when it is processed, with its message. -/
structure Received where
  location : OCPILocation
  throws : Option (Call × String) := none
  deriving DecidableEq, Repr

/-- What a run of `pullLocations` works on: the store, `sites.result`, `siteAreas.result` and its
result. -/
structure PullState where
  store : Store
  sites : List Site
  siteAreas : List SiteArea
  success : ℕ := 0
  failure : ℕ := 0
  logs : List String := []

namespace PullState

variable (state : PullState)

/-- The location counts as a failure. -/
def failed (location : OCPILocation) (message : String) : PullState :=
  { state with
    failure := state.failure + 1
    logs := state.logs ++ [s!"Failed to update Location '{location.name}': {message}"] }

/-- The message of a call that throws. -/
def thrown (call : Call) (received : Received) : Option String :=
  (received.throws.filter fun thrown => thrown.1 = call).map Prod.snd

end PullState

namespace OCPIUtils

/-- The site of `processEMSPLocationSite`: the one that is found, or a new one. -/
def processEMSPLocationSite (store : Store) (companyID : String) (site : Option Site)
    (siteName : String) : Site :=
  site.getD ⟨store.objectIDs, siteName, companyID⟩

/-- The site area of `processEMSPLocationSiteArea`. -/
def processEMSPLocationSiteArea (store : Store) (location : OCPILocation) (site : Site)
    (siteArea : Option SiteArea) : SiteArea :=
  match siteArea with
  | some siteArea => { siteArea with siteID := site.id, location := some location }
  | none => ⟨store.objectIDs, site.name ++ "*" ++ location.id, site.id, some location⟩

end OCPIUtils

namespace EmspOCPIClient

open PulledLocations.OCPIUtils PullState

/-- One location of a page. -/
def pullLocation (companyID : String) (state : PullState) (received : Received) : PullState :=
  let location := received.location
  match location.operatorName with
  | none => state.failed location "Cannot read properties of undefined (reading 'name')"
  | some siteName =>
      -- Process Site
      match thrown .saveSite received with
      | some message => state.failed location message
      | none =>
          let foundSite := state.sites.find? fun existingSite => existingSite.name = siteName
          let site := processEMSPLocationSite state.store companyID foundSite siteName
          let state := { state with store := state.store.saveSite site }
          -- Process Site Area
          match thrown .saveSiteArea received with
          | some message => state.failed location message
          | none =>
              let siteAreaName := siteName ++ "*" ++ location.id
              let foundSiteArea := state.siteAreas.find? fun existingSiteArea =>
                existingSiteArea.name = siteAreaName
              let siteArea := processEMSPLocationSiteArea state.store location site foundSiteArea
              let state := { state with store := state.store.saveSiteArea siteArea }
              match thrown .saveSiteAreaOcpiData received with
              | some message => state.failed location message
              | none =>
                  let state :=
                    { state with store := state.store.saveSiteAreaOcpiData siteArea.id location }
                  -- Process Charging Station
                  match thrown .processEMSPLocationChargingStations received with
                  | some message => state.failed location message
                  | none =>
                      -- Push the Site then it can be retrieve in the next round
                      { state with
                        sites := if foundSite.isNone then state.sites ++ [site] else state.sites
                        success := state.success + 1 }

/-- The sites and site areas of the company, read at the start. -/
def start (companyID : String) (store : Store) : PullState :=
  { store := store, sites := store.getSites companyID, siteAreas := store.getSiteAreas companyID }

/-- `pullLocations`: page after page, location after location. -/
def pullLocations (companyID : String) (pages : List (List Received)) (store : Store) :
    PullState :=
  pages.flatten.foldl (pullLocation companyID) (start companyID store)

end EmspOCPIClient

/-! ## What a location does -/

namespace Received

/-- The site of the location is saved. -/
def savesSite (received : Received) : Bool :=
  received.location.operatorName.isSome && (PullState.thrown .saveSite received).isNone

/-- So is its site area. -/
def savesSiteArea (received : Received) : Bool :=
  received.savesSite && (PullState.thrown .saveSiteArea received).isNone

/-- The location is processed to the end. -/
def completes (received : Received) : Bool :=
  received.location.operatorName.isSome && received.throws.isNone

theorem savesSiteArea_of_completes {received : Received} (h : received.completes = true) :
    received.savesSite = true ∧ received.savesSiteArea = true := by
  simp only [completes, Bool.and_eq_true, Option.isNone_iff_eq_none] at h
  simp [savesSite, savesSiteArea, PullState.thrown, h.1, h.2]

theorem completes_eq_false {received : Received} {call : Call} {message : String}
    (h : PullState.thrown call received = some message) : received.completes = false := by
  obtain ⟨location, throws⟩ := received
  cases throws with
  | none => cases h
  | some thrown => simp [completes]

theorem throws_eq_none {received : Received}
    (h : ∀ call, PullState.thrown call received = none) : received.throws = none := by
  obtain ⟨location, throws⟩ := received
  cases throws with
  | none => rfl
  | some thrown => simpa [PullState.thrown] using h thrown.1

end Received

namespace EmspOCPIClient

open PulledLocations.OCPIUtils PullState

variable {companyID : String} {state : PullState} {received : Received}

/-- What has been read has not been deleted. -/
structure Reads (state : PullState) : Prop where
  sites : ∀ site ∈ state.sites, site.id ∈ state.store.sites.docs.map Site.id
  siteAreas : ∀ siteArea ∈ state.siteAreas,
    siteArea.id ∈ state.store.siteAreas.docs.map SiteArea.id

/-- The site of the location. -/
def siteOf (companyID : String) (state : PullState) (siteName : String) : Site :=
  processEMSPLocationSite state.store companyID
    (state.sites.find? fun existingSite => existingSite.name = siteName) siteName

/-- The site area of the location. -/
def siteAreaOf (companyID : String) (state : PullState) (received : Received)
    (siteName : String) : SiteArea :=
  let site := siteOf companyID state siteName
  processEMSPLocationSiteArea (state.store.saveSite site) received.location site
    (state.siteAreas.find? fun existingSiteArea =>
      existingSiteArea.name = siteName ++ "*" ++ received.location.id)

/-- What a location does: its site is not saved, or it is and the site area is not, or both are
and it may be processed to the end. -/
theorem pullLocation_cases (companyID : String) (state : PullState) (received : Received) :
    let state' := pullLocation companyID state received
    state'.siteAreas = state.siteAreas ∧
      (received.savesSite = false ∧ received.savesSiteArea = false ∧ received.completes = false ∧
          state'.store = state.store ∧ state'.sites = state.sites ∨
        ∃ siteName, received.location.operatorName = some siteName ∧ received.savesSite = true ∧
          let site := siteOf companyID state siteName
          let siteArea := siteAreaOf companyID state received siteName
          (received.savesSiteArea = false ∧ received.completes = false ∧
              state'.store = state.store.saveSite site ∧ state'.sites = state.sites ∨
            received.savesSiteArea = true ∧
              (state'.store = (state.store.saveSite site).saveSiteArea siteArea ∨
                state'.store = ((state.store.saveSite site).saveSiteArea
                  siteArea).saveSiteAreaOcpiData siteArea.id received.location) ∧
              state'.sites = if received.completes = true ∧
                  (state.sites.find? fun existingSite => existingSite.name = siteName) = none
                then state.sites ++ [site] else state.sites)) := by
  intro state'
  simp only [state', pullLocation]
  split
  · next operator =>
      exact ⟨rfl, Or.inl ⟨by simp [Received.savesSite, operator],
        by simp [Received.savesSiteArea, Received.savesSite, operator],
        by simp [Received.completes, operator], rfl, rfl⟩⟩
  · next siteName operator =>
      split
      · next message thrown =>
          exact ⟨rfl, Or.inl ⟨by simp [Received.savesSite, thrown],
            by simp [Received.savesSiteArea, Received.savesSite, thrown],
            Received.completes_eq_false thrown, rfl, rfl⟩⟩
      · next saved =>
          have savesSite : received.savesSite = true := by
            simp [Received.savesSite, operator, saved]
          split
          · next message thrown =>
              exact ⟨rfl, Or.inr ⟨siteName, operator, savesSite, Or.inl
                ⟨by simp [Received.savesSiteArea, thrown], Received.completes_eq_false thrown, rfl,
                  rfl⟩⟩⟩
          · next savedArea =>
              have savesSiteArea : received.savesSiteArea = true := by
                simp [Received.savesSiteArea, savesSite, savedArea]
              split
              · next message thrown =>
                  refine ⟨rfl, Or.inr ⟨siteName, operator, savesSite, Or.inr
                    ⟨savesSiteArea, Or.inl rfl, ?_⟩⟩⟩
                  rw [if_neg (by simp [Received.completes_eq_false thrown])]
                  rfl
              · next savedData =>
                  split
                  · next message thrown =>
                      refine ⟨rfl, Or.inr ⟨siteName, operator, savesSite, Or.inr
                        ⟨savesSiteArea, Or.inr rfl, ?_⟩⟩⟩
                      rw [if_neg (by simp [Received.completes_eq_false thrown])]
                      rfl
                  · next processed =>
                      have completes : received.completes = true := by
                        rw [Received.completes, operator, Received.throws_eq_none]
                        · rfl
                        · rintro (_ | _ | _ | _) <;> assumption
                      refine ⟨rfl, Or.inr ⟨siteName, operator, savesSite, Or.inr
                        ⟨savesSiteArea, Or.inr rfl, ?_⟩⟩⟩
                      simp only [completes, true_and, Option.isNone_iff_eq_none]
                      rfl

/-! ## What a location adds -/

/-- A site is known by its name. -/
def Knows (siteName : String) (state : PullState) : Prop :=
  ∃ site ∈ state.sites, site.name = siteName

theorem find?_eq_none_iff {siteName : String} :
    (state.sites.find? fun existingSite => existingSite.name = siteName) = none ↔
      ¬ Knows siteName state := by
  simp [List.find?_eq_none, Knows]

/-- A site that is known is the one that has been read. -/
theorem siteOf_of_knows {siteName : String} (known : Knows siteName state) :
    siteOf companyID state siteName ∈ state.sites := by
  rw [siteOf, processEMSPLocationSite]
  cases found : state.sites.find? fun existingSite => existingSite.name = siteName with
  | none => exact absurd known (find?_eq_none_iff.mp found)
  | some site => exact List.mem_of_find?_eq_some found

/-- A site that is not known is a new one. -/
theorem siteOf_of_not_knows {siteName : String} (unknown : ¬ Knows siteName state) :
    siteOf companyID state siteName = ⟨state.store.objectIDs, siteName, companyID⟩ := by
  rw [siteOf, processEMSPLocationSite, find?_eq_none_iff.mpr unknown]
  rfl

/-- The site is added when it is not known. -/
theorem length_saveSite (reads : Reads state) (siteName : String)
    [Decidable (Knows siteName state)] :
    (state.store.saveSite (siteOf companyID state siteName)).sites.docs.length =
      state.store.sites.docs.length + if Knows siteName state then 0 else 1 := by
  change (state.store.sites.save _).docs.length = _
  rw [Collection.length_save]
  by_cases known : Knows siteName state
  · rw [if_pos known, if_pos (reads.sites _ (siteOf_of_knows known))]
  · rw [if_neg known, if_neg]
    rw [siteOf_of_not_knows known]
    intro stored
    obtain ⟨site, mem, same⟩ := List.mem_map.mp stored
    have := state.store.sites_lt site mem
    simp only at same
    omega

/-- The site area of the location has been read. -/
def hasSiteArea (siteAreas : List SiteArea) (received : Received) : Bool :=
  received.location.operatorName.any fun siteName =>
    siteAreas.any fun siteArea => siteArea.name = siteName ++ "*" ++ received.location.id

/-- A site area is stored already when it has been read. -/
theorem mem_siteAreaOf_iff (reads : Reads state) {siteName : String}
    (operator : received.location.operatorName = some siteName) :
    (siteAreaOf companyID state received siteName).id ∈
        state.store.siteAreas.docs.map SiteArea.id ↔
      hasSiteArea state.siteAreas received = true := by
  simp only [hasSiteArea, operator, Option.any_some, siteAreaOf, processEMSPLocationSiteArea]
  cases found : state.siteAreas.find? fun existingSiteArea =>
      existingSiteArea.name = siteName ++ "*" ++ received.location.id with
  | some siteArea =>
      have read := List.mem_of_find?_eq_some found
      have named := List.find?_some found
      exact iff_of_true (reads.siteAreas siteArea read) (List.any_eq_true.mpr ⟨_, read, named⟩)
  | none =>
      refine iff_of_false ?_ ?_
      · intro stored
        obtain ⟨siteArea, mem, same⟩ := List.mem_map.mp stored
        have := (state.store.saveSite (siteOf companyID state siteName)).siteAreas_lt siteArea mem
        simp only at same
        omega
      · rw [List.any_eq_true]
        rintro ⟨siteArea, read, named⟩
        exact List.find?_eq_none.mp found siteArea read named

/-- The site area is added when it has not been read. -/
theorem length_saveSiteArea (reads : Reads state) {siteName : String}
    (operator : received.location.operatorName = some siteName) :
    ((state.store.saveSite (siteOf companyID state siteName)).saveSiteArea
        (siteAreaOf companyID state received siteName)).siteAreas.docs.length =
      state.store.siteAreas.docs.length +
        if hasSiteArea state.siteAreas received then 0 else 1 := by
  change (state.store.siteAreas.save _).docs.length = _
  rw [Collection.length_save]
  congr 1
  exact if_congr (mem_siteAreaOf_iff reads operator) rfl rfl

/-- How many site areas a location adds. -/
theorem siteAreas_length_pullLocation (reads : Reads state) :
    (pullLocation companyID state received).store.siteAreas.docs.length =
      state.store.siteAreas.docs.length +
        if received.savesSiteArea && !hasSiteArea state.siteAreas received then 1 else 0 := by
  obtain ⟨-, ⟨-, unsaved, -, store, -⟩ | ⟨siteName, operator, -, saved⟩⟩ :=
    pullLocation_cases companyID state received
  · rw [store, unsaved]
    rfl
  · rcases saved with ⟨unsaved, -, store, -⟩ | ⟨saved, store, -⟩
    · rw [store, unsaved]
      rfl
    · have length : ((state.store.saveSite (siteOf companyID state siteName)).saveSiteArea
          (siteAreaOf companyID state received siteName)).siteAreas.docs.length = _ :=
        length_saveSiteArea reads operator
      have added : (pullLocation companyID state received).store.siteAreas.docs.length =
          state.store.siteAreas.docs.length +
            if hasSiteArea state.siteAreas received then 0 else 1 := by
        rcases store with store | store
        · rw [store, length]
        · rw [store, ← length]
          exact List.length_map _
      rw [added, saved]
      cases hasSiteArea state.siteAreas received <;> rfl

/-- How many sites it adds. -/
theorem sites_length_pullLocation (reads : Reads state) {siteName : String}
    (operator : received.location.operatorName = some siteName)
    [Decidable (Knows siteName state)] :
    (pullLocation companyID state received).store.sites.docs.length =
      state.store.sites.docs.length +
        if received.savesSite = true ∧ ¬ Knows siteName state then 1 else 0 := by
  obtain ⟨-, ⟨unsaved, -, -, store, -⟩ | ⟨name, operator', saved, rest⟩⟩ :=
    pullLocation_cases companyID state received
  · rw [store, unsaved]
    simp
  · obtain rfl : siteName = name := Option.some.inj (operator.symm.trans operator')
    have sites : (pullLocation companyID state received).store.sites =
        (state.store.saveSite (siteOf companyID state siteName)).sites := by
      rcases rest with ⟨-, -, store, -⟩ | ⟨-, store | store, -⟩ <;> rw [store] <;> rfl
    rw [sites, length_saveSite reads, saved]
    by_cases known : Knows siteName state <;> simp [known]

/-- The sites that are known after a location: those before, and its own if it was not known
and the location has been processed to the end. -/
theorem sites_pullLocation (companyID : String) (state : PullState) (received : Received) :
    (pullLocation companyID state received).sites = state.sites ∨
      ∃ siteName, received.location.operatorName = some siteName ∧ ¬ Knows siteName state ∧
        received.savesSite = true ∧ received.completes = true ∧
        (pullLocation companyID state received).sites =
          state.sites ++ [siteOf companyID state siteName] := by
  obtain ⟨-, ⟨-, -, -, -, sites⟩ | ⟨siteName, operator, saved, rest⟩⟩ :=
    pullLocation_cases companyID state received
  · exact Or.inl sites
  · rcases rest with ⟨-, -, -, sites⟩ | ⟨-, -, sites⟩
    · exact Or.inl sites
    · split at sites
      · next learned =>
          exact Or.inr ⟨siteName, operator, find?_eq_none_iff.mp learned.2, saved, learned.1, sites⟩
      · exact Or.inl sites

/-- A location that is processed to the end makes its site known. -/
theorem knows_pullLocation_of_completes {siteName : String}
    (operator : received.location.operatorName = some siteName)
    (completes : received.completes = true) :
    Knows siteName (pullLocation companyID state received) := by
  have saves := Received.savesSiteArea_of_completes completes
  obtain ⟨-, ⟨unsaved, -⟩ | ⟨name, operator', -, rest⟩⟩ :=
    pullLocation_cases companyID state received
  · exact absurd (unsaved.symm.trans saves.1) Bool.false_ne_true
  · obtain rfl : siteName = name := Option.some.inj (operator.symm.trans operator')
    rcases rest with ⟨unsaved, -⟩ | ⟨-, -, sites⟩
    · exact absurd (unsaved.symm.trans saves.2) Bool.false_ne_true
    · by_cases known : Knows siteName state
      · rw [if_neg fun learned => find?_eq_none_iff.mp learned.2 known] at sites
        obtain ⟨site, mem, named⟩ := known
        exact ⟨site, sites ▸ mem, named⟩
      · rw [if_pos ⟨completes, find?_eq_none_iff.mpr known⟩] at sites
        refine ⟨siteOf companyID state siteName, ?_, ?_⟩
        · rw [sites]
          exact List.mem_append_right _ (List.mem_singleton.mpr rfl)
        · rw [siteOf_of_not_knows known]

/-- What is known stays known, and nothing else gets known than the site of the location. -/
theorem knows_pullLocation_iff (siteName : String) :
    Knows siteName (pullLocation companyID state received) ↔
      Knows siteName state ∨
        received.location.operatorName = some siteName ∧ received.completes = true := by
  constructor
  · rintro ⟨site, mem, named⟩
    rcases sites_pullLocation companyID state received
      with same | ⟨name, operator, unknown, -, completes, sites⟩
    · exact Or.inl ⟨site, same ▸ mem, named⟩
    · rw [sites, List.mem_append, List.mem_singleton] at mem
      rcases mem with mem | rfl
      · exact Or.inl ⟨site, mem, named⟩
      · rw [siteOf_of_not_knows unknown] at named
        exact Or.inr ⟨named ▸ operator, completes⟩
  · rintro (⟨site, mem, named⟩ | ⟨operator, completes⟩)
    · rcases sites_pullLocation companyID state received
        with same | ⟨name, -, -, -, -, sites⟩
      · exact ⟨site, same ▸ mem, named⟩
      · exact ⟨site, sites ▸ List.mem_append_left _ mem, named⟩
    · exact knows_pullLocation_of_completes operator completes

/-- The sites that are stored after a location: those before, and its own if it is saved. -/
theorem siteIDs_pullLocation (id : ℕ) :
    id ∈ (pullLocation companyID state received).store.sites.docs.map Site.id ↔
      id ∈ state.store.sites.docs.map Site.id ∨
        ∃ siteName, received.location.operatorName = some siteName ∧ received.savesSite = true ∧
          id = (siteOf companyID state siteName).id := by
  obtain ⟨-, ⟨unsaved, -, -, store, -⟩ | ⟨siteName, operator, saved, rest⟩⟩ :=
    pullLocation_cases companyID state received
  · rw [store, unsaved]
    simp
  · have sites : (pullLocation companyID state received).store.sites =
        state.store.sites.save (siteOf companyID state siteName) := by
      rcases rest with ⟨-, -, store, -⟩ | ⟨-, store | store, -⟩ <;> rw [store] <;> rfl
    rw [sites, Collection.mem_map_key_save, operator, saved]
    simp

/-- A site area that is stored stays. -/
theorem siteAreaIDs_pullLocation {id : ℕ}
    (stored : id ∈ state.store.siteAreas.docs.map SiteArea.id) :
    id ∈ (pullLocation companyID state received).store.siteAreas.docs.map SiteArea.id := by
  obtain ⟨-, ⟨-, -, -, store, -⟩ | ⟨siteName, -, -, rest⟩⟩ :=
    pullLocation_cases companyID state received
  · rwa [store]
  · rcases rest with ⟨-, -, store, -⟩ | ⟨-, store, -⟩
    · rwa [store]
    · have saved : id ∈ ((state.store.saveSite (siteOf companyID state siteName)).saveSiteArea
          (siteAreaOf companyID state received siteName)).siteAreas.docs.map SiteArea.id :=
        Collection.mem_map_key_save.mpr (Or.inl stored)
      rcases store with store | store
      · rwa [store]
      · rwa [store, Store.map_id_saveSiteAreaOcpiData]

/-- What has been read and what has been created since is stored. -/
theorem Reads.pullLocation (reads : Reads state) (companyID : String) (received : Received) :
    Reads (pullLocation companyID state received) where
  sites site mem := by
    rw [siteIDs_pullLocation]
    rcases sites_pullLocation companyID state received with
      same | ⟨siteName, operator, -, saved, -, sites⟩
    · exact Or.inl (reads.sites site (same ▸ mem))
    · rw [sites, List.mem_append, List.mem_singleton] at mem
      rcases mem with mem | rfl
      · exact Or.inl (reads.sites site mem)
      · exact Or.inr ⟨siteName, operator, saved, rfl⟩
  siteAreas siteArea mem := by
    rw [(pullLocation_cases companyID state received).1] at mem
    exact siteAreaIDs_pullLocation (reads.siteAreas siteArea mem)

/-- The sites of an operator are learned. -/
theorem learns_sites (companyID siteName : String) :
    Growth.Learns (pullLocation companyID) (fun state => state.store.sites.docs.length)
      (fun received => received.location.operatorName = some siteName) Reads (Knows siteName)
      Received.savesSite Received.completes where
  keeps state received reads := reads.pullLocation companyID received
  others state received reads other := by
    rw [knows_pullLocation_iff]
    have := of_decide_eq_false other
    simp [this]
  of_known state received reads counted known := by
    classical
    have operator := of_decide_eq_true counted
    rw [knows_pullLocation_iff, sites_length_pullLocation reads operator]
    simp [known]
  of_unknown state received reads counted unknown := by
    classical
    have operator := of_decide_eq_true counted
    rw [knows_pullLocation_iff, sites_length_pullLocation reads operator]
    refine ⟨by simp [unknown], ?_⟩
    rw [or_iff_right unknown, and_iff_right operator]
    exact ⟨fun completes => ⟨(Received.savesSiteArea_of_completes completes).1, completes⟩,
      fun learned => learned.2⟩

theorem reads_start (companyID : String) (store : Store) : Reads (start companyID store) where
  sites _ mem := List.mem_map_of_mem (List.mem_of_mem_filter mem)
  siteAreas _ mem := List.mem_map_of_mem (List.mem_of_mem_filter mem)

theorem knows_start_iff {store : Store} {siteName : String} :
    Knows siteName (start companyID store) ↔
      ∃ site ∈ store.getSites companyID, site.name = siteName := Iff.rfl

/-! ## One run -/

variable (companyID : String) (pages : List (List Received)) (store : Store)

/-- How many sites a run creates for an operator. -/
def createdSites (siteName : String) : ℕ :=
  Growth.total (pullLocation companyID) (fun state => state.store.sites.docs.length)
    (fun received => received.location.operatorName = some siteName) pages.flatten
    (start companyID store)

/-- How many site areas it creates for a location. -/
def createdSiteAreas (locationID : String) : ℕ :=
  Growth.total (pullLocation companyID) (fun state => state.store.siteAreas.docs.length)
    (fun received => received.location.id = locationID) pages.flatten (start companyID store)

/-- A site of the operator is stored. -/
def hasSiteOf (siteName : String) : Bool :=
  (store.getSites companyID).any fun site => site.name = siteName

/-- A site area of the location is stored. -/
def hasSiteAreaOf (locationID : String) : Bool :=
  (store.getSiteAreas companyID).any fun siteArea =>
    siteArea.location.any fun location => location.id = locationID

/-- A run stores one site for each operator and one site area for each location, and creates
none where it is stored. -/
def StoresOnce : Prop :=
  (∀ siteName, createdSites companyID pages store siteName ≤
      if hasSiteOf companyID store siteName then 0 else 1) ∧
    ∀ locationID, createdSiteAreas companyID pages store locationID ≤
      if hasSiteAreaOf companyID store locationID then 0 else 1

/-- The locations of an operator whose sites are saved. -/
def savedFor (siteName : String) : List Received :=
  pages.flatten.filter fun received =>
    received.location.operatorName = some siteName && received.savesSite

/-- The reports of a location whose site areas are saved, and are not stored by their name. -/
def unread (locationID : String) : List Received :=
  pages.flatten.filter fun received =>
    received.location.id = locationID && received.savesSiteArea &&
      !hasSiteArea (store.getSiteAreas companyID) received

variable {companyID pages store}

/-- Sites: nothing is created for an operator that has one, and one is created for another just
when the first location that saves it is processed to the end, or no other saves it. -/
theorem createdSites_le_iff (siteName : String) :
    createdSites companyID pages store siteName ≤
        (if hasSiteOf companyID store siteName then 0 else 1) ↔
      (hasSiteOf companyID store siteName = false → ∀ first others,
        savedFor pages siteName = first :: others → others = [] ∨ first.completes = true) := by
  have learns := learns_sites companyID siteName
  have reads := reads_start companyID store
  cases stored : hasSiteOf companyID store siteName with
  | true =>
      have known : Knows siteName (start companyID store) := by
        simpa [hasSiteOf, knows_start_iff] using stored
      rw [createdSites, learns.total_of_known _ reads known]
      simp
  | false =>
      have unknown : ¬ Knows siteName (start companyID store) := by
        simpa [hasSiteOf, knows_start_iff] using stored
      rw [createdSites, if_neg (by simp), learns.total_le_one_iff _ reads unknown]
      exact ⟨fun once _ => once, fun once => once rfl⟩

/-- Site areas: one is created for each report whose own was not stored. -/
theorem createdSiteAreas_eq (locationID : String) :
    createdSiteAreas companyID pages store locationID =
      (unread companyID pages store locationID).length := by
  have reads (state : PullState) (received : Received)
      (h : Reads state ∧ state.siteAreas = store.getSiteAreas companyID) :
      Reads (pullLocation companyID state received) ∧
        (pullLocation companyID state received).siteAreas = store.getSiteAreas companyID :=
    ⟨h.1.pullLocation companyID received, (pullLocation_cases companyID state received).1.trans h.2⟩
  have adds (state : PullState) (received : Received)
      (h : Reads state ∧ state.siteAreas = store.getSiteAreas companyID)
      (_ : decide (received.location.id = locationID) = true) :
      (pullLocation companyID state received).store.siteAreas.docs.length =
        state.store.siteAreas.docs.length + if received.savesSiteArea &&
          !hasSiteArea (store.getSiteAreas companyID) received then 1 else 0 := by
    rw [siteAreas_length_pullLocation h.1, h.2]
  rw [createdSiteAreas, unread, ← List.countP_eq_length_filter,
    Growth.total_eq_countP reads adds _ ⟨reads_start companyID store, rfl⟩]
  simp only [Bool.and_assoc]

/-- **A run stores each site and each site area once** just when, for each operator without a
site, the first location that saves one is processed to the end or no other saves one, and for
each location at most one report saves a site area that is not stored by its name, and none does
when a site area of the location is stored. -/
theorem storesOnce_iff :
    StoresOnce companyID pages store ↔
      (∀ siteName, hasSiteOf companyID store siteName = false → ∀ first others,
        savedFor pages siteName = first :: others → others = [] ∨ first.completes = true) ∧
      ∀ locationID, (unread companyID pages store locationID).length ≤
        if hasSiteAreaOf companyID store locationID then 0 else 1 := by
  unfold StoresOnce
  simp only [createdSites_le_iff, createdSiteAreas_eq]

/-- The location `L1` is on two pages: a site area is created twice. -/
theorem not_storesOnce_twice :
    ¬ StoresOnce "C1"
      [[⟨{ id := "L1", operatorName := some "Op" }, none⟩],
        [⟨{ id := "L1", operatorName := some "Op" }, none⟩]] .empty := by
  intro once
  have two := once.2 "L1"
  revert two
  decide

end EmspOCPIClient

end EvServer.PulledLocations
