import EvServer.Roaming.OcpiEvseStatus
import Mathlib.Data.List.Flatten

/-!
# The delta run of the EVSE statuses (`sendEVSEStatuses`)

A delta run is to patch the EVSEs of the stations that were in failure in the previous run or
have sent a status notification since.  The IDs of these stations go into the query for the
stations of each site, but without any ID the query has no such filter.  The loop over the
stations of a site ends with the first page whose stations have no EVSE.
-/

namespace EvServer

open OICP (Station PatchJobResult Endpoint)
open OCPIUtilsService (stationStatuses projectFields)

namespace CpoOCPIClient

/-! ## Records -/

/-- A site, with its charging stations in the order of their IDs. -/
structure LocationSite where
  id : String
  id_ne_empty : id ≠ ""
  isPublic : Bool
  issuer : Bool
  chargingStations : List Station
  deriving Repr

/-- What a run reads: the sites and the status notifications that are stored. -/
structure Network where
  sites : List LocationSite
  statusNotifications : List OICP.StatusNotification := []
  deriving Repr

/-- `OCPIResult`; the logs are left out. -/
structure OCPIResult where
  success : ℕ := 0
  failure : ℕ := 0
  total : ℕ := 0
  objectIDsInFailure : List String := []
  deriving DecidableEq, Repr

/-- A run, with the EVSEs it has patched: the ID of the location and the EVSE. -/
structure StatusRun where
  result : OCPIResult := {}
  patches : List (String × StatusEvse) := []
  deriving DecidableEq, Repr

/-! ## The code -/

/-- `getChargeBoxIDsWithNewStatusNotifications`; the date is the present when there was no run. -/
def getChargeBoxIDsWithNewStatusNotifications (ocpiEndpoint : Endpoint) (network : Network)
    (now : Timestamp) : List String :=
  (network.statusNotifications.filter fun statusNotification =>
    ocpiEndpoint.lastPatchJobOn.getD now ≤ statusNotification.timestamp).map
      OICP.StatusNotification.chargeBoxID

/-- `chargeBoxIDsToProcess`. -/
def chargeBoxIDsToProcess (ocpiEndpoint : Endpoint) (network : Network) (now : Timestamp)
    (processAllEVSEs : Bool) : List String :=
  if processAllEVSEs then []
  else
    (ocpiEndpoint.getChargeBoxIDsInFailure ++
      getChargeBoxIDsWithNewStatusNotifications ocpiEndpoint network now).eraseDups

/-- `ChargingStationStorage.getChargingStations` of a site, as `getEvsesFromSite` calls it,
without the page.  No IDs are no filter. -/
def getChargingStations (site : LocationSite) (chargingStationIDs : List String) : List Station :=
  site.chargingStations.filter fun chargingStation =>
    chargingStation.isPublic ∧ chargingStation.issuer ∧
      (chargingStationIDs.isEmpty ∨ chargingStation.id ∈ chargingStationIDs)

/-- The EVSEs of the charging stations of a page. -/
def evsesOfPage (chargingStations : List Station) : Except String (List StatusEvse) :=
  ((chargingStations.map projectFields).mapM stationStatuses).map List.flatten

/-- The EVSEs of a location that are processed, page by page. -/
def evsesOfLocation (site : LocationSite) (chargingStationIDs : List String) :
    Except String (List StatusEvse) :=
  let chargingStations := getChargingStations site chargingStationIDs
  Paging.collectFrom Constants.dbRecordCountDefault evsesOfPage chargingStations
    (chargingStations.length + 1) 0

/-- `getAllLocations`. -/
def getAllLocations (network : Network) : List LocationSite :=
  network.sites.filter fun site => site.issuer ∧ site.isPublic

/-- Process an EVSE.  What comes of a patch is known by the location and the EVSE. -/
def StatusRun.process (outcome : String → StatusEvse → Except String Unit) (run : StatusRun)
    (entry : String × StatusEvse) : StatusRun :=
  let result := { run.result with total := run.result.total + 1 }
  if entry.1 = "" then { run with result }
  else
    { result :=
        match outcome entry.1 entry.2 with
        | .ok _ => { result with success := result.success + 1 }
        | .error _ =>
            { result with
              failure := result.failure + 1
              objectIDsInFailure := result.objectIDsInFailure ++ [entry.2.chargingStationID] }
      patches := run.patches ++ [entry] }

/-- `sendEVSEStatuses`: the run, and the endpoint that is saved. -/
def sendEVSEStatuses (ocpiEndpoint : Endpoint) (network : Network)
    (outcome : String → StatusEvse → Except String Unit) (startDate : Timestamp)
    (processAllEVSEs : Bool) : Except String (StatusRun × Endpoint) := do
  let chargingStationIDs := chargeBoxIDsToProcess ocpiEndpoint network startDate processAllEVSEs
  let evses ← (getAllLocations network).mapM fun site =>
    (evsesOfLocation site chargingStationIDs).map fun evses =>
      evses.map fun evse => (site.id, evse)
  let run : StatusRun := evses.flatten.foldl (StatusRun.process outcome) {}
  let lastPatchJobResult : PatchJobResult :=
    { successNbr := run.result.success
      failureNbr := run.result.failure
      totalNbr := run.result.total
      chargeBoxIDsInFailure := run.result.objectIDsInFailure.eraseDups }
  return (run, { lastPatchJobOn := some startDate, lastPatchJobResult := some lastPatchJobResult })

/-! ## What is to be patched -/

/-- The station was in failure in the previous run or has sent a status notification since. -/
def IsDue (ocpiEndpoint : Endpoint) (network : Network) (now : Timestamp)
    (chargingStation : Station) : Prop :=
  chargingStation.id ∈ ocpiEndpoint.getChargeBoxIDsInFailure ∨
    ∃ statusNotification ∈ network.statusNotifications,
      statusNotification.chargeBoxID = chargingStation.id ∧
        ocpiEndpoint.lastPatchJobOn.getD now ≤ statusNotification.timestamp

instance (ocpiEndpoint : Endpoint) (network : Network) (now : Timestamp)
    (chargingStation : Station) : Decidable (IsDue ocpiEndpoint network now chargingStation) :=
  inferInstanceAs (Decidable (_ ∨ ∃ statusNotification ∈ network.statusNotifications, _ ∧ _))

/-- The EVSEs of a station, or none if it cannot be converted. -/
def evsesOf (chargingStation : Station) : List StatusEvse :=
  (stationStatuses (projectFields chargingStation)).toOption.getD []

/-- The public stations of a site that are due. -/
def dueStations (ocpiEndpoint : Endpoint) (network : Network) (now : Timestamp)
    (site : LocationSite) : List Station :=
  site.chargingStations.filter fun chargingStation =>
    chargingStation.isPublic ∧ chargingStation.issuer ∧
      IsDue ocpiEndpoint network now chargingStation

/-- What a delta run is to patch. -/
def duePatches (ocpiEndpoint : Endpoint) (network : Network) (now : Timestamp) :
    List (String × StatusEvse) :=
  (getAllLocations network).flatMap fun site =>
    ((dueStations ocpiEndpoint network now site).flatMap evsesOf).map fun evse => (site.id, evse)

/-- A delta run patches the EVSEs of the stations that are due, each once, and no other one. -/
def PatchesWhatIsDue (ocpiEndpoint : Endpoint) (network : Network)
    (outcome : String → StatusEvse → Except String Unit) (now : Timestamp) : Prop :=
  ∃ run saved, sendEVSEStatuses ocpiEndpoint network outcome now false = .ok (run, saved) ∧
    run.patches.Perm (duePatches ocpiEndpoint network now)

variable {ocpiEndpoint : Endpoint} {network : Network} {now : Timestamp}
variable {outcome : String → StatusEvse → Except String Unit} {site : LocationSite}

theorem mem_chargeBoxIDsToProcess {chargingStation : Station} :
    chargingStation.id ∈ chargeBoxIDsToProcess ocpiEndpoint network now false ↔
      IsDue ocpiEndpoint network now chargingStation := by
  unfold chargeBoxIDsToProcess getChargeBoxIDsWithNewStatusNotifications IsDue
  rw [if_neg (by simp), List.mem_eraseDups, List.mem_append, List.mem_map]
  simp only [List.mem_filter, decide_eq_true_eq]
  grind

/-- With some ID, the stations that are read are those that are due. -/
theorem getChargingStations_of_ne_nil
    (h : chargeBoxIDsToProcess ocpiEndpoint network now false ≠ []) :
    getChargingStations site (chargeBoxIDsToProcess ocpiEndpoint network now false) =
      dueStations ocpiEndpoint network now site := by
  refine List.filter_congr fun chargingStation _ => ?_
  simp only [mem_chargeBoxIDsToProcess, List.isEmpty_iff, h, false_or]

/-- Without IDs there is no station that is due. -/
theorem dueStations_of_nil (h : chargeBoxIDsToProcess ocpiEndpoint network now false = []) :
    dueStations ocpiEndpoint network now site = [] := by
  rw [dueStations, List.filter_eq_nil_iff]
  intro chargingStation _
  rw [decide_eq_true_eq]
  rintro ⟨-, -, due⟩
  rw [← mem_chargeBoxIDsToProcess, h] at due
  cases due

theorem patches_foldl (entries : List (String × StatusEvse))
    (named : ∀ entry ∈ entries, entry.1 ≠ "") (run : StatusRun) :
    (entries.foldl (StatusRun.process outcome) run).patches = run.patches ++ entries := by
  induction entries generalizing run with
  | nil => simp
  | cons entry entries ih =>
      rw [List.forall_mem_cons] at named
      rw [List.foldl_cons, ih named.2, StatusRun.process, if_neg named.1]
      simp

/-- The EVSEs of a page are those of its stations. -/
theorem eq_flatMap_of_evsesOfPage {page : List Station} {evses : List StatusEvse}
    (h : evsesOfPage page = .ok evses) : evses = page.flatMap evsesOf := by
  obtain ⟨bs, hbs, rfl⟩ := Outcome.map_eq_ok.mp h
  rw [List.flatMap_def]
  refine congrArg List.flatten ?_
  have mapped := Outcome.map_mapM_eq (h := id) (g := fun chargingStation =>
    (stationStatuses chargingStation).toOption.getD []) hbs fun chargingStation _ b hb => by
      rw [hb]
      rfl
  rw [List.map_id, List.map_map] at mapped
  exact mapped

/-! ## What is patched -/

/-- Lists that are no longer than others, together, are the others when they are together. -/
theorem perm_flatMap_iff_of_sublist {α β : Type} {f g : α → List β} {l : List α}
    (sub : ∀ a ∈ l, (f a).Sublist (g a)) :
    (l.flatMap f).Perm (l.flatMap g) ↔ ∀ a ∈ l, f a = g a := by
  induction l with
  | nil => simp
  | cons a l ih =>
      rw [List.forall_mem_cons] at sub ⊢
      rw [List.flatMap_cons, List.flatMap_cons]
      constructor
      · intro perm
        have total := perm.length_eq
        have rest : (l.flatMap f).length ≤ (l.flatMap g).length :=
          (List.Sublist.flatMap_right l sub.2).length_le
        have first := sub.1.length_le
        rw [List.length_append, List.length_append] at total
        have same : f a = g a := sub.1.eq_of_length (by omega)
        refine ⟨same, (ih sub.2).mp ?_⟩
        rw [same] at perm
        exact (List.perm_append_left_iff _).mp perm
      · rintro ⟨same, rest⟩
        rw [same]
        exact ((ih sub.2).mpr rest).append_left _

/-- The EVSEs of a location that are collected. -/
def collected (site : LocationSite) (chargingStationIDs : List String) : List StatusEvse :=
  (evsesOfLocation site chargingStationIDs).toOption.getD []

theorem exists_sendEVSEStatuses_iff {P : List (String × StatusEvse) → Prop}
    (processAllEVSEs : Bool) :
    (∃ run saved, sendEVSEStatuses ocpiEndpoint network outcome now processAllEVSEs =
        .ok (run, saved) ∧ P run.patches) ↔
      let chargingStationIDs := chargeBoxIDsToProcess ocpiEndpoint network now processAllEVSEs
      (∀ site ∈ getAllLocations network, ∃ evses,
        evsesOfLocation site chargingStationIDs = .ok evses) ∧
      P ((getAllLocations network).flatMap fun site =>
        (collected site chargingStationIDs).map fun evse => (site.id, evse)) := by
  extract_lets chargingStationIDs
  -- The entries of the locations, when all of them are read.
  have entries {bs : List (List (String × StatusEvse))}
      (h : (getAllLocations network).mapM (fun site =>
        (evsesOfLocation site chargingStationIDs).map fun evses =>
          evses.map fun evse => (site.id, evse)) = .ok bs) :
      bs.flatten = (getAllLocations network).flatMap fun site =>
        (collected site chargingStationIDs).map fun evse => (site.id, evse) := by
    rw [List.flatMap_def]
    refine congrArg List.flatten ?_
    have mapped := Outcome.map_mapM_eq (h := id) (g := fun site =>
      (collected site chargingStationIDs).map fun evse => (site.id, evse)) h
      fun site _ b hb => by
        obtain ⟨evses, hevses, rfl⟩ := Outcome.map_eq_ok.mp hb
        rw [collected, hevses]
        rfl
    rwa [List.map_id] at mapped
  have named : ∀ entry ∈ (getAllLocations network).flatMap fun site =>
      (collected site chargingStationIDs).map fun evse => (site.id, evse), entry.1 ≠ "" := by
    intro entry mem
    obtain ⟨site, -, mem⟩ := List.mem_flatMap.mp mem
    obtain ⟨evse, -, rfl⟩ := List.mem_map.mp mem
    exact site.id_ne_empty
  constructor
  · rintro ⟨run, saved, h, holds⟩
    obtain ⟨bs, hbs, h⟩ := Outcome.bind_eq_ok.mp h
    cases h
    rw [entries hbs, patches_foldl _ named] at holds
    refine ⟨fun site mem => ?_, holds⟩
    obtain ⟨b, hb⟩ := Outcome.exists_mapM_eq_ok_iff.mp ⟨bs, hbs⟩ site mem
    obtain ⟨evses, hevses, -⟩ := Outcome.map_eq_ok.mp hb
    exact ⟨evses, hevses⟩
  · rintro ⟨read, holds⟩
    obtain ⟨bs, hbs⟩ : ∃ bs, (getAllLocations network).mapM (fun site =>
        (evsesOfLocation site chargingStationIDs).map fun evses =>
          evses.map fun evse => (site.id, evse)) = .ok bs := by
      refine Outcome.exists_mapM_eq_ok_iff.mpr fun site mem => ?_
      obtain ⟨evses, hevses⟩ := read site mem
      exact ⟨_, Outcome.map_eq_ok.mpr ⟨evses, hevses, rfl⟩⟩
    refine ⟨_, _, Outcome.bind_eq_ok.mpr ⟨bs, hbs, rfl⟩, ?_⟩
    rw [entries hbs, patches_foldl _ named]
    exact holds

theorem evsesOfLocation_eq_ok_iff {chargingStationIDs : List String} {evses : List StatusEvse} :
    evsesOfLocation site chargingStationIDs = .ok evses ↔
      ∃ n, Paging.StopsAfter Constants.dbRecordCountDefault evsesOfPage
          (getChargingStations site chargingStationIDs) 0 n ∧
        evses = ((getChargingStations site chargingStationIDs).take
          (n * Constants.dbRecordCountDefault)).flatMap evsesOf := by
  have nothing : evsesOfPage [] = .ok [] := rfl
  have enough : (getChargingStations site chargingStationIDs).length <
      0 + ((getChargingStations site chargingStationIDs).length + 1) := by omega
  refine (Paging.collectFrom_eq_ok_iff (by decide) nothing
    (fun page items => eq_flatMap_of_evsesOfPage) enough).trans ?_
  rw [Paging.Collected, List.drop_zero]

/-- No EVSE of a location is collected when those of its first page are none. -/
theorem evsesOfLocation_eq_nil_iff {chargingStationIDs : List String} :
    evsesOfLocation site chargingStationIDs = .ok [] ↔
      evsesOfPage ((getChargingStations site chargingStationIDs).take
        Constants.dbRecordCountDefault) = .ok [] :=
  Paging.collectFrom_eq_nil_iff

theorem collected_of_ok {chargingStationIDs : List String} {evses : List StatusEvse}
    (h : evsesOfLocation site chargingStationIDs = .ok evses) :
    collected site chargingStationIDs = evses := by
  rw [collected, h]
  rfl

/-- The loop over the stations of a location ends where no station with an EVSE is left. -/
def ReadsAll (chargingStations : List Station) : Prop :=
  ∃ n, Paging.StopsAfter Constants.dbRecordCountDefault evsesOfPage chargingStations 0 n ∧
    ∀ chargingStation ∈ chargingStations.drop (n * Constants.dbRecordCountDefault),
      evsesOf chargingStation = []

theorem flatMap_take_append (chargingStations : List Station) (k : ℕ) :
    chargingStations.flatMap evsesOf = (chargingStations.take k).flatMap evsesOf ++
      (chargingStations.drop k).flatMap evsesOf := by
  rw [← List.flatMap_append, List.take_append_drop]

theorem collected_sublist {chargingStationIDs : List String} {evses : List StatusEvse}
    (h : evsesOfLocation site chargingStationIDs = .ok evses) :
    (collected site chargingStationIDs).Sublist
      ((getChargingStations site chargingStationIDs).flatMap evsesOf) := by
  obtain ⟨n, -, hevses⟩ := evsesOfLocation_eq_ok_iff.mp h
  rw [collected_of_ok h, hevses]
  exact (List.take_sublist _ _).flatMap evsesOf

/-- All EVSEs of the stations that are read are collected when the loop ends behind them. -/
theorem collected_eq_iff {chargingStationIDs : List String} :
    ((∃ evses, evsesOfLocation site chargingStationIDs = .ok evses) ∧
      collected site chargingStationIDs =
        (getChargingStations site chargingStationIDs).flatMap evsesOf) ↔
      ReadsAll (getChargingStations site chargingStationIDs) := by
  constructor
  · rintro ⟨⟨evses, h⟩, all⟩
    obtain ⟨n, stops, hevses⟩ := evsesOfLocation_eq_ok_iff.mp h
    rw [collected_of_ok h, hevses, flatMap_take_append (getChargingStations site _)
      (n * Constants.dbRecordCountDefault), List.self_eq_append_right, List.flatMap_eq_nil_iff] at all
    exact ⟨n, stops, all⟩
  · rintro ⟨n, stops, none⟩
    have h := evsesOfLocation_eq_ok_iff.mpr ⟨n, stops, rfl⟩
    refine ⟨⟨_, h⟩, ?_⟩
    rw [collected_of_ok h, flatMap_take_append (getChargingStations site _)
      (n * Constants.dbRecordCountDefault), List.flatMap_eq_nil_iff.mpr none, List.append_nil]

/-- A public station with a connector. -/
private def idleStation : Station where
  id := "CS1"
  siteID := some "S1"
  connectors := [{ connectorId := 1 }]
  issuer := true
  isPublic := true

end CpoOCPIClient

end EvServer
