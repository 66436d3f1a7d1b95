import EvServer.SmartCharging.GridAmps

/-!
# Which connectors the fuse tree holds

The fuse tree should hold each connector that smart charging controls once, and no other.
`buildRootFuse` notes a charge point whose power is shared when it takes a connector out, so that
its power is not subtracted twice; but a connector of a charge point that is noted is not taken
out either.  Of the connectors of such a charge point only the last one leaves the tree.
-/

namespace EvServer

/-- A connector of the site area that smart charging does not control: its station or its charge
point is excluded or does not support charging profiles. -/
def Connector.isUnsupported (excludedChargingStations : List String)
    (chargingStation : ChargingStation) (connector : Connector) : Bool :=
  EvServer.isUnsupported excludedChargingStations chargingStation
    (connector.chargePoint? chargingStation)

/-- The fuse tree has no fuse for an unsupported connector, and one fuse for each other connector
with a session. -/
def HoldsSupported (context : SmartChargingContext) (siteArea : SiteArea)
    (excludedChargingStations : List String) (children : List OptimizerChargingStationFuse) :
    Prop :=
  ∀ chargingStation ∈ siteArea.chargingStations.docs,
    ∀ connector ∈ chargingStation.connectors,
      if connector.isUnsupported excludedChargingStations chargingStation then
        (chargingStation.id, connector.connectorId) ∉ treeConnectors children
      else hasTransaction context connector →
        (treeConnectors children).count (chargingStation.id, connector.connectorId) = 1

instance (context : SmartChargingContext) (siteArea : SiteArea)
    (excludedChargingStations : List String) (children : List OptimizerChargingStationFuse) :
    Decidable (HoldsSupported context siteArea excludedChargingStations children) :=
  inferInstanceAs (Decidable (∀ _ ∈ _, ∀ _ ∈ _, _))

/-- The connector stays in its station because of the other one behind it: both have the charge
point, and it shares its power. -/
def staysBecauseOf (chargingStation : ChargingStation) (connector other : Connector) : Bool :=
  (connector.chargePoint? chargingStation).any ChargePoint.isShared &&
    other.chargePointID = connector.chargePointID

/-- No unsupported connector with a session has another connector of its shared charge point
behind it. -/
def TakesOutUnsupported (context : SmartChargingContext) (excludedChargingStations : List String)
    (chargingStation : ChargingStation) (connectors : List Connector) : Prop :=
  connectors.Pairwise fun connector other =>
    connector.isUnsupported excludedChargingStations chargingStation →
      hasTransaction context connector → staysBecauseOf chargingStation connector other = false

instance (context : SmartChargingContext) (excludedChargingStations : List String)
    (chargingStation : ChargingStation) (connectors : List Connector) :
    Decidable (TakesOutUnsupported context excludedChargingStations chargingStation connectors) :=
  inferInstanceAs (Decidable (List.Pairwise _ _))

section

variable {context : SmartChargingContext} {siteArea : SiteArea}
  {excludedChargingStations : List String} {chargingStation : ChargingStation}
  {connector : Connector} {connectors : List Connector}

theorem isTakenOut_eq (later : List Connector) (connector : Connector) :
    isTakenOut excludedChargingStations chargingStation later connector =
      (connector.isUnsupported excludedChargingStations chargingStation &&
        !later.any (staysBecauseOf chargingStation connector)) := by
  unfold isTakenOut staysBecauseOf
  cases (connector.chargePoint? chargingStation).any ChargePoint.isShared with
  | false => simp [Connector.isUnsupported]
  | true => rfl

/-- A connector that smart charging controls is left. -/
theorem mem_remainingConnectors (mem : connector ∈ connectors)
    (supported : connector.isUnsupported excludedChargingStations chargingStation = false) :
    connector ∈ remainingConnectors excludedChargingStations chargingStation connectors := by
  induction mem with
  | head rest =>
      rw [remainingConnectors, isTakenOut_eq, supported]
      exact List.mem_cons_self
  | tail other mem ih =>
      rw [remainingConnectors]
      split
      · exact ih
      · exact List.mem_cons_of_mem _ ih

/-- The unsupported connectors that are left have no session just when none stays because of
another. -/
theorem forall_remaining_iff_takesOutUnsupported :
    (∀ connector ∈ remainingConnectors excludedChargingStations chargingStation connectors,
      connector.isUnsupported excludedChargingStations chargingStation →
        ¬ hasTransaction context connector) ↔
      TakesOutUnsupported context excludedChargingStations chargingStation connectors := by
  induction connectors with
  | nil => simp [remainingConnectors, TakesOutUnsupported]
  | cons connector rest ih =>
      unfold TakesOutUnsupported at ih ⊢
      rw [List.pairwise_cons, ← ih, remainingConnectors, isTakenOut_eq]
      cases unsupported : connector.isUnsupported excludedChargingStations chargingStation with
      | false => simp [unsupported]
      | true =>
          cases stays : rest.any (staysBecauseOf chargingStation connector) with
          | false =>
              -- It is taken out, and nothing is left to say of it.
              rw [List.any_eq_false] at stays
              rw [Bool.not_false, Bool.and_self, if_pos rfl, iff_and_self]
              exact fun _ other mem _ _ => Bool.eq_false_iff.mpr (stays other mem)
          | true =>
              rw [if_neg (by simp), List.forall_mem_cons]
              refine and_congr_left fun _ => ?_
              obtain ⟨other, mem, because⟩ := List.any_eq_true.mp stays
              constructor
              · intro noSession _ _ _ has
                exact absurd has (noSession unsupported)
              · intro taken _ has
                rw [taken other mem rfl has] at because
                cases because

/-- The connectors of a station have a fuse each, and no two stations have one ID. -/
theorem nodup_connectorsWithTransaction (siteArea : SiteArea) :
    (siteArea.chargingStations.docs.flatMap (connectorsWithTransaction context)).Nodup := by
  refine List.nodup_flatMap.mpr ⟨fun chargingStation mem => ?_, ?_⟩
  · have ids := (siteArea.apart chargingStation mem).sublist
      (List.Sublist.map Connector.connectorId
        (List.filter_sublist (p := hasTransaction context)))
    have pairs := ids.map (Prod.mk_right_injective chargingStation.id)
    rw [List.map_map] at pairs
    exact pairs
  · refine (List.pairwise_map.mp siteArea.chargingStations.nodup).imp fun apart => ?_
    intro pair inFirst inSecond
    obtain ⟨first, -, rfl⟩ := List.mem_map.mp inFirst
    obtain ⟨second, -, same⟩ := List.mem_map.mp inSecond
    exact apart (Prod.mk.inj same).1.symm

/-- A connector of a station is in the tree when it is left and has its transaction. -/
theorem mem_treeConnectors_of_run {children : List OptimizerChargingStationFuse}
    (tree : treeConnectors children = siteArea.chargingStations.docs.flatMap
      fun chargingStation => connectorsWithTransaction context
        (remainingChargingStation excludedChargingStations chargingStation))
    (memStation : chargingStation ∈ siteArea.chargingStations.docs)
    (mem : connector ∈ chargingStation.connectors) :
    (chargingStation.id, connector.connectorId) ∈ treeConnectors children ↔
      connector ∈ remainingConnectors excludedChargingStations chargingStation
          chargingStation.connectors ∧
        hasTransaction context connector := by
  have sameID : ∀ old, (remainingChargingStation excludedChargingStations old).id = old.id :=
    fun _ => rfl
  rw [tree]
  refine (mem_treeConnectors_iff memStation sameID).trans (List.mem_map.trans ?_)
  constructor
  · rintro ⟨other, left, same⟩
    rw [List.mem_filter] at left
    have memOther := (remainingConnectors_sublist _).subset left.1
    rw [List.inj_on_of_nodup_map (siteArea.apart chargingStation memStation) memOther mem same]
      at left
    exact left
  · exact fun left => ⟨connector, List.mem_filter.mpr left, rfl⟩

/-- **The fuse tree holds what smart charging controls** just when no unsupported connector with
a session stays because of another one of its charge point. -/
theorem holdsSupported_iff_of_runOptimizerRequest {run : OptimizerRequestRun}
    (h : runOptimizerRequest context siteArea excludedChargingStations = .ok run) :
    HoldsSupported context siteArea excludedChargingStations run.request.rootFuse.children ↔
      ∀ chargingStation ∈ siteArea.chargingStations.docs,
        TakesOutUnsupported context excludedChargingStations chargingStation
          chargingStation.connectors := by
  obtain ⟨site, -, tree, -, -⟩ := runOptimizerRequest_ok h
  have nodup : (treeConnectors run.request.rootFuse.children).Nodup := by
    rw [tree]
    exact nodup_connectorsWithTransaction run.siteArea
  rw [site, flatMap_docs_buildRootFuse fun _ => connectorsWithTransaction_of_eq_nil] at tree
  refine forall₂_congr fun chargingStation memStation => ?_
  rw [← forall_remaining_iff_takesOutUnsupported]
  constructor
  · intro holds connector left unsupported has
    have mem := (remainingConnectors_sublist _).subset left
    have outside := holds connector mem
    rw [if_pos unsupported] at outside
    exact outside ((mem_treeConnectors_of_run tree memStation mem).mpr ⟨left, has⟩)
  · intro taken connector mem
    split
    · rename_i unsupported
      intro inTree
      obtain ⟨left, has⟩ := (mem_treeConnectors_of_run tree memStation mem).mp inTree
      exact taken connector left unsupported has
    · rename_i supported
      intro has
      refine List.count_eq_one_of_mem nodup ?_
      exact (mem_treeConnectors_of_run tree memStation mem).mpr
        ⟨mem_remainingConnectors mem (Bool.eq_false_iff.mpr supported), has⟩

end

/-! ## A charge point that shares its power -/

/-- A station that does not support charging profiles; two connectors charge, and their charge
points may share the power or not. -/
def unsupportedChargingStation (sharePowerToAllConnectors : Bool) : ChargingStation where
  id := "CS-31"
  supportChargingProfiles := false
  chargePoints := [
    { chargePointID := 1
      amperage := 96
      numberOfConnectedPhase := 3
      sharePowerToAllConnectors := sharePowerToAllConnectors
      connectorIDs := [1, 2] }]
  connectors := [
    { connectorId := 1, status := .charging, chargePointID := 1, currentTransactionID := 31 },
    { connectorId := 2, status := .charging, chargePointID := 1, currentTransactionID := 32 }]

/-- A site area with one station. -/
def oneStationSiteArea (chargingStation : ChargingStation)
    (apart : (chargingStation.connectors.map Connector.connectorId).Nodup) : SiteArea where
  id := "SA-3"
  maximumPower := 44160
  voltage := 230
  numberOfPhases := 3
  chargingStations := ⟨[chargingStation], List.nodup_singleton _⟩
  apart := List.forall_mem_singleton.mpr apart

/-- Two transactions on the station. -/
def twoSessionsContext : SmartChargingContext where
  transactions :=
    ⟨[exampleSmartChargingTransaction 31 "CS-31", exampleSmartChargingTransaction 32 "CS-31"], by
      decide⟩

/-- Both connectors leave when each has its own share. -/
theorem holdsSupported_iff_of_runOptimizerRequest_notShared :
    ∃ run, runOptimizerRequest twoSessionsContext
        (oneStationSiteArea (unsupportedChargingStation false) (by decide)) [] = .ok run ∧
      treeConnectors run.request.rootFuse.children = [] ∧
      HoldsSupported twoSessionsContext
        (oneStationSiteArea (unsupportedChargingStation false) (by decide)) []
        run.request.rootFuse.children := by
  have built : (runOptimizerRequest twoSessionsContext
      (oneStationSiteArea (unsupportedChargingStation false) (by decide))
      []).toOption.map (fun run => treeConnectors run.request.rootFuse.children) = some [] := by
    decide +kernel
  obtain ⟨run, h, tree⟩ := Outcome.exists_ok_of_toOption_map built
  exact ⟨run, h, tree, (holdsSupported_iff_of_runOptimizerRequest h).mpr (by decide +kernel)⟩

/-- The first connector of a shared charge point gets a fuse. -/
theorem not_holdsSupported_shared :
    ∃ run, runOptimizerRequest twoSessionsContext
        (oneStationSiteArea (unsupportedChargingStation true) (by decide)) [] = .ok run ∧
      treeConnectors run.request.rootFuse.children = [("CS-31", 1)] ∧
      ¬ HoldsSupported twoSessionsContext
        (oneStationSiteArea (unsupportedChargingStation true) (by decide)) []
        run.request.rootFuse.children := by
  have built : (runOptimizerRequest twoSessionsContext
      (oneStationSiteArea (unsupportedChargingStation true) (by decide))
      []).toOption.map (fun run => (treeConnectors run.request.rootFuse.children,
        decide (HoldsSupported twoSessionsContext
          (oneStationSiteArea (unsupportedChargingStation true) (by decide)) []
          run.request.rootFuse.children))) = some ([("CS-31", 1)], false) := by
    decide +kernel
  obtain ⟨run, h, tree⟩ := Outcome.exists_ok_of_toOption_map built
  rw [Prod.mk.injEq, decide_eq_false_iff_not] at tree
  exact ⟨run, h, tree⟩

end EvServer
