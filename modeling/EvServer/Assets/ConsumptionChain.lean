import EvServer.Assets.AssetGetConsumptionTask
import EvServer.Lib.Periods
import EvServer.Lib.Runs
import Mathlib.Data.Fintype.Basic

/-!
# The consumptions of an asset follow one another

A run that works with an up-to-date copy of the asset adds its consumptions at the end of
those that are stored, each from the last reading to its own.
-/

namespace EvServer

namespace AssetGetConsumptionTask

/-- The period of a consumption. -/
def AssetConsumption.period (consumption : AssetConsumption) : Timestamp × Timestamp :=
  (consumption.startedAt, consumption.endedAt)

/-- The consumptions follow one another up to a last reading. -/
def Chained (consumptions : Collection AssetConsumption.key) (asset : Asset) : Prop :=
  Periods.Chained (consumptions.docs.map AssetConsumption.period) asset.lastTimestamp

/-- No two consumptions have time in common, and each starts where another one ends unless it
is the first. -/
structure InOrder (consumptions : List AssetConsumption) : Prop where
  apart : consumptions.Pairwise fun c c' => c.endedAt ≤ c'.startedAt ∨ c'.endedAt ≤ c.startedAt
  meets : ∀ c ∈ consumptions, (∃ previous ∈ consumptions, previous.endedAt = c.startedAt) ∨
    ∀ other ∈ consumptions, c.startedAt ≤ other.startedAt

/-- The last reading of the asset is that of the last consumption. -/
structure EndsAt (consumptions : List AssetConsumption) (asset : Asset) : Prop where
  none : asset.lastTimestamp = none → consumptions = []
  last : ∀ timestamp ∈ asset.lastTimestamp,
    IsGreatest {endedAt | ∃ c ∈ consumptions, c.endedAt = endedAt} timestamp

variable {consumptions : Collection AssetConsumption.key} {asset : Asset} {reading : Reading}
variable {limit : SiteLimitation}

theorem Chained.inOrder (h : Chained consumptions asset) : InOrder consumptions.docs where
  apart := (List.pairwise_map.mp h.pairwise).imp fun le => .inl le
  meets := by
    intro c mem
    refine (h.exists_previous _ (List.mem_map_of_mem mem)).imp ?_ ?_
    · rintro ⟨previous, isMember, same⟩
      obtain ⟨c', mem', rfl⟩ := List.mem_map.mp isMember
      exact ⟨c', mem', same⟩
    · exact fun first other mem' => first _ (List.mem_map_of_mem mem')

theorem Chained.endsAt (h : Chained consumptions asset) : EndsAt consumptions.docs asset where
  none := by
    intro none
    unfold Chained at h
    rw [none] at h
    exact List.map_eq_nil_iff.mp h.eq_nil
  last := by
    intro timestamp mem
    refine ⟨?_, ?_⟩
    · obtain ⟨period, isMember, rfl⟩ := h.exists_finish mem
      obtain ⟨c, mem', rfl⟩ := List.mem_map.mp isMember
      exact ⟨c, mem', rfl⟩
    · rintro _ ⟨c, mem', rfl⟩
      exact h.finish_le mem _ (List.mem_map_of_mem mem')

/-- A reading that is not recent lies behind the last one. -/
theorem lt_of_not_isRecent (late : ¬ isRecent asset reading) :
    ∀ last ∈ asset.lastTimestamp, last < reading.lastConsumption.timestamp := by
  intro last mem
  unfold isRecent at late
  rw [Option.mem_def.mp mem, Option.any_some, decide_eq_true_eq, Utils.diffSeconds] at late
  by_contra early
  have notPos : (reading.lastConsumption.timestamp - last).tdiv 1000 ≤ Int.tdiv 0 1000 :=
    Int.tdiv_le_tdiv (by decide) (sub_nonpos.mpr (not_lt.mp early))
  rw [Int.zero_tdiv] at notPos
  omega

/-- **A consumption is added at the end.** -/
theorem Chained.save (h : Chained consumptions asset) (late : ¬ isRecent asset reading) :
    Chained (consumptions.save (consumptionToSave asset limit reading))
      (assignAssetConsumption asset reading) := by
  have lt := lt_of_not_isRecent late
  have new : consumptions.find (consumptionToSave asset limit reading).key = none := by
    refine Option.eq_none_iff_forall_not_mem.mpr fun c found => ?_
    have same : c.endedAt = reading.lastConsumption.timestamp :=
      congrArg Prod.snd (Collection.key_of_find found)
    have mem := Collection.mem_of_find found
    cases hlast : asset.lastTimestamp with
    | none =>
        rw [h.endsAt.none hlast] at mem
        cases mem
    | some last =>
        have before : c.endedAt ≤ last := (h.endsAt.last last hlast).2 ⟨c, mem, rfl⟩
        exact absurd (lt last hlast) (not_lt.mpr (same ▸ before))
  unfold Chained
  rw [Collection.docs_save_of_find_eq_none new, List.map_append]
  refine .snoc h ?_ ?_
  · intro finish mem
    change asset.lastTimestamp.getD _ = finish
    rw [Option.mem_def.mp mem, Option.getD_some]
  · change asset.lastTimestamp.getD _ < reading.lastConsumption.timestamp
    cases hlast : asset.lastTimestamp with
    | none =>
        rw [Option.getD_none]
        exact sub_lt_self _ (by decide)
    | some last => exact lt last hlast

/-- Where a run holds the lock. -/
def Pc.HoldsLock : Pc → Prop
  | .locked _ | .looping _ _ _ | .releasing => True
  | _ => False

variable {P : Type} {p : P} {store store' : AssetStore P} {pc pc' : Pc} {action : Action}

/-- What is known where a run holds the lock. -/
def Pc.Local (store : AssetStore P) : Pc → Prop
  | .locked asset =>
      asset.lastTimestamp = store.asset.lastTimestamp ∧ Chained store.consumptions store.asset
  | .looping asset readings _ =>
      Chained store.consumptions asset ∧ (asset.lastTimestamp = none → readings ≠ [])
  | .releasing => Chained store.consumptions store.asset
  | _ => True

theorem Pc.local_of_not_holdsLock (free : ¬ pc.HoldsLock) : pc.Local store := by
  cases pc with
  | idle | copied | done => trivial
  | locked | looping | releasing => exact absurd trivial free

/-- Under the lock the consumptions are in order. -/
theorem Pc.Local.inOrder (h : pc.Local store) (holds : pc.HoldsLock) :
    InOrder store.consumptions.docs := by
  cases pc with
  | idle | copied | done => exact absurd holds not_false
  | locked => exact h.2.inOrder
  | looping => exact h.1.inOrder
  | releasing => exact Chained.inOrder h

/-- The condition: who gets the lock has a copy with the last reading that is stored, and where
something throws no reading has been saved since the asset was. -/
def Admits (store : AssetStore P) : Pc → Action → Prop
  | .copied asset, .acquire =>
      store.lock = none → asset.lastTimestamp = store.asset.lastTimestamp
  | .looping asset _ _, .fail => asset.lastTimestamp = store.asset.lastTimestamp
  | _, _ => True

/-- What a step of a run does. -/
inductive Effect (p : P) (store : AssetStore P) (pc : Pc) : Pc → AssetStore P → Prop
  /-- A step without the lock. -/
  | passes {pc' : Pc} : ¬ pc.HoldsLock → ¬ pc'.HoldsLock → Effect p store pc pc' store
  /-- The lock is taken, with an up-to-date copy. -/
  | acquires {asset : Asset} :
      store.lock = none → asset.lastTimestamp = store.asset.lastTimestamp →
        Effect p store pc (.locked asset) { store with lock := some p }
  /-- A step under the lock. -/
  | keeps {pc' : Pc} {store' : AssetStore P} :
      pc.HoldsLock → pc'.HoldsLock → store'.lock = store.lock → pc'.Local store' →
        Effect p store pc pc' store'
  /-- The lock is released. -/
  | releases {pc' : Pc} :
      pc.HoldsLock → ¬ pc'.HoldsLock → Chained store.consumptions store.asset →
        Effect p store pc pc' { store with lock := none }

/-- What is chained up to a date is so for any asset with that date. -/
theorem Chained.congr {other : Asset} (h : Chained consumptions asset)
    (same : other.lastTimestamp = asset.lastTimestamp) : Chained consumptions other := by
  unfold Chained
  rw [same]
  exact h

/-- **What a step does.** -/
theorem turn_spec (isLocal : pc.Local store) (admits : Admits store pc action)
    (h : turn p store pc action = some (pc', store')) : Effect p store pc pc' store' := by
  unfold turn at h
  split at h
  case h_1 =>
    cases h
    refine .passes not_false ?_
    split <;> exact not_false
  case h_2 =>
    split at h
    · cases h
      exact .passes not_false not_false
    · rename_i free
      cases h
      rw [Option.not_isSome_iff_eq_none] at free
      exact .acquires free (admits free)
  case h_3 asset readings limit =>
    cases h
    obtain ⟨same, chained⟩ := isLocal
    cases readings with
    | nil => exact .keeps trivial trivial rfl chained
    | cons => exact .keeps trivial trivial rfl ⟨chained.congr same, fun _ => nofun⟩
  case h_4 asset reading rest limit =>
    obtain ⟨chained, begun⟩ := isLocal
    split at h
    · rename_i recent
      cases h
      refine .keeps trivial trivial rfl ⟨chained, fun none => ?_⟩
      rw [isRecent, none] at recent
      cases recent
    · rename_i late
      cases h
      exact .keeps trivial trivial rfl ⟨chained.save late, nofun⟩
  case h_5 asset limit =>
    cases h
    obtain ⟨chained, begun⟩ := isLocal
    refine .keeps trivial trivial rfl (chained.congr ?_)
    unfold Asset.lastTimestamp saveAsset
    unfold Asset.lastTimestamp at begun
    cases hlast : asset.lastConsumption with
    | none => exact absurd rfl (begun (by rw [hlast]; rfl))
    | some last => rfl
  case h_6 =>
    cases h
    exact .keeps trivial trivial rfl isLocal.2
  case h_7 =>
    cases h
    exact .keeps trivial trivial rfl (isLocal.1.congr admits.symm)
  case h_8 =>
    cases h
    exact .releases trivial not_false isLocal
  case h_9 => cases h

namespace State

/-- The invariant. -/
structure Sound (s : State P) : Prop where
  held : ∀ p, (s.pc p).HoldsLock ↔ s.store.lock = some p
  free : s.store.lock = none → Chained s.store.consumptions s.store.asset
  isLocal : ∀ p, (s.pc p).Local s.store

variable {s s' : State P}

theorem Sound.inOrder (inv : s.Sound) : InOrder s.store.consumptions.docs := by
  cases hlock : s.store.lock with
  | none => exact (inv.free hlock).inOrder
  | some p => exact (inv.isLocal p).inOrder ((inv.held p).mpr hlock)

theorem sound_start {consumptions : Collection AssetConsumption.key} {asset : Asset}
    (chained : Chained consumptions asset) : (start asset consumptions : State P).Sound where
  held := fun _ => ⟨False.elim, nofun⟩
  free := fun _ => chained
  isLocal := fun _ => trivial

variable [DecidableEq P] {event : P × Action}

/-- **A step keeps the invariant.** -/
theorem Sound.step (inv : s.Sound) (admits : Admits s.store (s.pc event.1) event.2)
    (step : Step s event s') : s'.Sound := by
  obtain ⟨⟨pc', store'⟩, hturn, rfl⟩ := Option.map_eq_some_iff.mp step
  obtain ⟨p, action⟩ := event
  have self : Function.update s.pc p pc' p = pc' := Function.update_self ..
  have kept : ∀ q, q ≠ p → Function.update s.pc p pc' q = s.pc q :=
    fun q other => Function.update_of_ne other ..
  have idle : ∀ q, q ≠ p → s.store.lock = none ∨ s.store.lock = some p →
      ¬ (Function.update s.pc p pc' q).HoldsLock := by
    intro q other lock holds
    rw [kept q other, inv.held q] at holds
    rcases lock with none | mine
    · cases none.symm.trans holds
    · exact other (Option.some.inj (holds.symm.trans mine))
  -- A store that the run leaves locked for itself, or free.
  have alone : ∀ store' : AssetStore P, (s.store.lock = none ∨ s.store.lock = some p) →
      (pc'.HoldsLock ↔ store'.lock = some p) → (store'.lock = none ∨ store'.lock = some p) →
      (store'.lock = none → Chained store'.consumptions store'.asset) → pc'.Local store' →
      (⟨store', Function.update s.pc p pc'⟩ : State P).Sound := by
    intro store' before held after free isLocal
    refine ⟨fun q => ?_, free, fun q => ?_⟩ <;> rcases eq_or_ne q p with rfl | other
    · change (Function.update s.pc q pc' q).HoldsLock ↔ _
      rw [self]
      exact held
    · refine iff_of_false (idle q other before) fun isLocked => ?_
      rcases after with none | mine
      · cases none.symm.trans isLocked
      · exact other (Option.some.inj (isLocked.symm.trans mine))
    · change (Function.update s.pc q pc' q).Local _
      rw [self]
      exact isLocal
    · exact Pc.local_of_not_holdsLock (idle q other before)
  cases turn_spec (inv.isLocal p) admits hturn with
  | passes notHeld notHeld' =>
      refine ⟨fun q => ?_, inv.free, fun q => ?_⟩ <;> rcases eq_or_ne q p with rfl | other
      · change (Function.update s.pc q pc' q).HoldsLock ↔ _
        rw [self, ← inv.held q]
        exact iff_of_false notHeld' notHeld
      · change (Function.update s.pc p pc' q).HoldsLock ↔ _
        rw [kept q other]
        exact inv.held q
      · change (Function.update s.pc q pc' q).Local _
        rw [self]
        exact Pc.local_of_not_holdsLock notHeld'
      · change (Function.update s.pc p pc' q).Local _
        rw [kept q other]
        exact inv.isLocal q
  | acquires free same =>
      exact alone _ (.inl free) (iff_of_true trivial rfl) (.inr rfl) nofun ⟨same, inv.free free⟩
  | keeps holds holds' lock isLocal =>
      have mine := (inv.held p).mp holds
      refine alone store' (.inr mine) (iff_of_true holds' (lock.trans mine)) (.inr (lock.trans mine))
        ?_ isLocal
      intro none
      cases none.symm.trans (lock.trans mine)
  | releases holds notHeld chained =>
      exact alone _ (.inr ((inv.held p).mp holds)) (iff_of_false notHeld nofun) (.inl rfl)
        (fun _ => chained) (Pc.local_of_not_holdsLock notHeld)

/-- **The consumptions follow one another.**  In every run of any number of servers in which who
gets the lock has a copy with the last reading that is stored, and nothing throws between the
first consumption that is saved and the asset, the consumptions are in order, and whenever
nobody holds the lock the last reading of the asset is that of the last consumption. -/
theorem inOrder_of_run {consumptions : Collection AssetConsumption.key} {asset : Asset}
    (chained : Chained consumptions asset) {events : List (P × Action)}
    (run : Transition.Run (Transition.guarded
      (fun s event => Admits s.store (s.pc event.1) event.2) Step) (start asset consumptions) events
        s) :
    InOrder s.store.consumptions.docs ∧
      (s.store.lock = none → EndsAt s.store.consumptions.docs s.store.asset) := by
  have inv : s.Sound := run.invariant (sound_start chained)
    fun _ _ _ inv step => inv.step step.1 step.2
  exact ⟨inv.inOrder, fun free => (inv.free free).endsAt⟩

instance (store : AssetStore P) (pc : Pc) (action : Action) : Decidable (Admits store pc action) :=
  match pc, action with
  | .copied asset, .acquire =>
      inferInstanceAs
        (Decidable (store.lock = none → asset.lastTimestamp = store.asset.lastTimestamp))
  | .looping asset _ _, .fail =>
      inferInstanceAs (Decidable (asset.lastTimestamp = store.asset.lastTimestamp))
  | .idle, _ | .locked _, _ | .releasing, _ | .done, _ => .isTrue trivial
  | .copied _, .read | .copied _, .retrieve _ _ | .copied _, .process | .copied _, .saveAsset
  | .copied _, .fail | .copied _, .release => .isTrue trivial
  | .looping _ _ _, .read | .looping _ _ _, .acquire | .looping _ _ _, .retrieve _ _
  | .looping _ _ _, .process | .looping _ _ _, .saveAsset | .looping _ _ _, .release =>
      .isTrue trivial

/-- An asset that has not been read. -/
def exampleAsset : Asset := { id := "A1", siteAreaID := "SA1", siteID := "S1", voltage := 230 }

/-- The asset without consumptions. -/
def exampleStart : State (Fin 2) := start exampleAsset .empty

/-- A reading some seconds after the epoch. -/
def exampleReading (seconds : ℤ) : Reading := { lastConsumption := ⟨0, seconds * 1000⟩ }

/-- What a server does under the lock with two readings. -/
def exampleRun (p : Fin 2) (first second : ℤ) : List (Fin 2 × Action) :=
  [(p, .acquire), (p, .retrieve [exampleReading first, exampleReading second] {}), (p, .process),
    (p, .process), (p, .saveAsset), (p, .release)]

/-- The second server reads the asset after the first one and gets a reading once more. -/
theorem inOrder_of_run_sequential :
    ∃ s : State (Fin 2), s.store.consumptions.docs.map AssetConsumption.period =
        [(0, 60000), (60000, 120000), (120000, 200000)] ∧
      InOrder s.store.consumptions.docs ∧
      (s.store.lock = none → EndsAt s.store.consumptions.docs s.store.asset) := by
  have reached : (Transition.follow next (fun s event _ => Admits s.store (s.pc event.1) event.2)
      exampleStart ((0, .read) :: exampleRun 0 60 120 ++ (1, .read) :: exampleRun 1 120 200)).map
        (fun s => s.store.consumptions.docs.map AssetConsumption.period) =
          some [(0, 60000), (60000, 120000), (120000, 200000)] := by
    decide +kernel
  obtain ⟨s, hs, periods⟩ := Option.map_eq_some_iff.mp reached
  have chained : Chained .empty exampleAsset := Periods.Chained.nil
  exact ⟨s, periods, inOrder_of_run chained
    (.of_follow (fun _ _ _ computed admits => ⟨admits, computed⟩) hs)⟩

/-- Both servers read the asset before the first one takes the lock. -/
theorem not_inOrder_of_stale :
    ∃ s : State (Fin 2), Transition.Run Step exampleStart
        ((0, .read) :: (1, .read) :: exampleRun 0 60 120 ++ exampleRun 1 100 150) s ∧
      ¬ InOrder s.store.consumptions.docs := by
  have reached : (Transition.follow next (fun _ _ _ => True) exampleStart
      ((0, .read) :: (1, .read) :: exampleRun 0 60 120 ++ exampleRun 1 100 150)).map
        (fun s => s.store.consumptions.docs.map AssetConsumption.period) =
          some [(0, 60000), (60000, 120000), (40000, 100000), (100000, 150000)] := by
    decide +kernel
  obtain ⟨s, hs, periods⟩ := Option.map_eq_some_iff.mp reached
  refine ⟨s, .of_follow (fun _ _ _ computed _ => computed) hs, fun inOrder => ?_⟩
  have apart : ((0, 60000) :: (60000, 120000) :: (40000, 100000) :: [(100000, 150000)] :
      List (Timestamp × Timestamp)).Pairwise fun c c' => c.2 ≤ c'.1 ∨ c'.2 ≤ c.1 := by
    rw [← periods]
    exact List.pairwise_map.mpr inOrder.apart
  revert apart
  decide

end State

end AssetGetConsumptionTask

end EvServer
