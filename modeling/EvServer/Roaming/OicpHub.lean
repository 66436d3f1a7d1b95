import EvServer.Roaming.OicpEvses

/-!
# What a run leaves in the hub

A full run in which every push is acknowledged leaves what it has pushed since the last page that
has overwritten the hub; a delta run overwrites the hub only for a page that does not fit into
one batch.
-/

namespace EvServer

namespace OICP

/-! ## Pages that overwrite -/

section Load

universe u

variable {E : Type u} {size : ℕ}

/-- What a page does to the hub and to whether the run only adds. -/
def load (size : ℕ) (state : List E × Bool) (page : List E) : List E × Bool :=
  if size < page.length then (page, true)
  else (if state.2 then state.1 ++ page else page, state.2)

/-- The pages from the last one that overwrites the hub; the run only adds already, or not. -/
def fromLastOverwrite (size : ℕ) : Bool → List (List E) → Option (List (List E))
  | _, [] => none
  | inserting, page :: rest =>
      (fromLastOverwrite size (inserting || decide (size < page.length)) rest).or
        (if !inserting || decide (size < page.length) then some (page :: rest) else none)

/-- **The hub after a run**: what it had if no page has overwritten it, and all pages from the
last one that has. -/
theorem mem_foldl_load {pages : List (List E)} {hub : List E} {inserting : Bool} {evse : E} :
    evse ∈ (pages.foldl (load size) (hub, inserting)).1 ↔
      match fromLastOverwrite size inserting pages with
      | none => evse ∈ hub ∨ evse ∈ pages.flatten
      | some kept => evse ∈ kept.flatten := by
  induction pages generalizing hub inserting with
  | nil => simp [fromLastOverwrite]
  | cons page rest ih =>
      rw [List.foldl_cons, load, fromLastOverwrite]
      by_cases large : size < page.length
      · rw [if_pos large, ih, decide_eq_true large, Bool.or_true, Bool.or_true]
        cases fromLastOverwrite size true rest with
        | none => simp
        | some kept => simp
      · rw [if_neg large, ih, decide_eq_false large, Bool.or_false, Bool.or_false]
        cases fromLastOverwrite size inserting rest with
        | none => cases inserting <;> simp [or_assoc]
        | some kept => simp

theorem fromLastOverwrite_suffix {pages kept : List (List E)} {inserting : Bool}
    (h : fromLastOverwrite size inserting pages = some kept) : kept <:+ pages := by
  induction pages generalizing inserting with
  | nil => cases h
  | cons page rest ih =>
      rw [fromLastOverwrite] at h
      cases later : fromLastOverwrite size (inserting || decide (size < page.length)) rest with
      | none =>
          rw [later, Option.none_or, Option.ite_none_right_eq_some, Option.some.injEq] at h
          obtain ⟨_, rfl⟩ := h
          exact List.suffix_rfl
      | some kept' =>
          rw [later, Option.some_or] at h
          exact (ih (later.trans h)).trans (List.suffix_cons _ _)

/-- A run that begins with a full load overwrites the hub, if it has a page. -/
theorem isSome_fromLastOverwrite {pages : List (List E)} (nonempty : pages ≠ []) :
    (fromLastOverwrite size false pages).isSome := by
  cases pages with
  | nil => exact absurd rfl nonempty
  | cons page rest =>
      rw [fromLastOverwrite, Bool.not_false, Bool.true_or, if_pos rfl]
      cases fromLastOverwrite size (false || decide (size < page.length)) rest <;> rfl

/-- The hub is what the pages have, just when the pages from the last one that overwrites it have
all of it. -/
theorem foldl_load_iff {pages : List (List E)} {hub : List E} :
    (∀ evse, evse ∈ (pages.foldl (load size) (hub, false)).1 ↔ evse ∈ pages.flatten) ↔
      (pages = [] → hub = []) ∧
        ∀ kept ∈ fromLastOverwrite size false pages, ∀ evse ∈ pages.flatten, evse ∈ kept.flatten := by
  simp only [mem_foldl_load]
  rcases eq_or_ne pages [] with rfl | some
  · simp [fromLastOverwrite, List.eq_nil_iff_forall_not_mem]
  · obtain ⟨kept, hkept⟩ := Option.isSome_iff_exists.mp 
      (@isSome_fromLastOverwrite _ size _ some)
    rw [hkept]
    have sub := (fromLastOverwrite_suffix hkept).subset
    constructor
    · intro same
      refine ⟨fun none => absurd none some, fun kept' mem evse isEvse => ?_⟩
      rw [← Option.some.inj mem]
      exact (same evse).mpr isEvse
    · rintro ⟨_, all⟩ evse
      refine ⟨fun mem => ?_, all kept rfl evse⟩
      obtain ⟨page, isPage, mem⟩ := List.mem_flatten.mp mem
      exact List.mem_flatten_of_mem (sub isPage) mem

end Load

/-! ## Pushes -/

variable {D : Type} {client : Client} {network : Network} {details : Details D}
variable {outcomes : ℕ → PushOutcome} {now : Timestamp} {processAll : Bool} {run : EvseRun D}
variable {evses : List (EvseDataRecord D)}

theorem reject_isOk {data : Option Acknowledgment} {requestError : Option String} :
    (pushEvseData.reject data requestError).isOk = data.any Acknowledgment.result := by
  unfold pushEvseData.reject
  split
  · rename_i acknowledged
    exact acknowledged.symm
  · rename_i refused
    rw [Bool.not_eq_true] at refused
    rw [refused]
    split <;> rfl

/-- A push of EVSEs throws just when it is not acknowledged. -/
theorem pushEvseData_isOk (outcome : PushOutcome) :
    (pushEvseData outcome).isOk = outcome.acknowledged := by
  cases outcome with
  | unconfigured message => rfl
  | response data => exact @reject_isOk data none
  | requestError message data => exact @reject_isOk data (some message)

/-- What a push leaves in the hub. -/
theorem hub_push (hub evses : List (EvseDataRecord D)) (actionType : ActionType) :
    (run.push outcomes evses actionType).hub hub =
      EvsePush.apply (run.hub hub) ⟨evses, actionType, outcomes run.pushes.length⟩ := by
  unfold EvseRun.hub EvseRun.push
  rw [List.foldl_append]
  rfl

/-- A batch is pushed, and the run goes on. -/
theorem pushBatch_spec (batch : List (EvseDataRecord D)) :
    (run.pushBatch client outcomes batch).pushes = (run.push outcomes batch run.actionType).pushes ∧
      (run.pushBatch client outcomes batch).actionType = run.actionType ∧
      (run.pushBatch client outcomes batch).thrown = run.thrown := by
  unfold EvseRun.pushBatch
  split <;> exact ⟨rfl, rfl, rfl⟩

/-- The hub is overwritten with nothing. -/
theorem clean_pushes :
    (run.clean outcomes).pushes = (run.push outcomes [] .fullLoad).pushes := by
  unfold EvseRun.clean
  split <;> rfl

/-- What the hub has depends on the pushes. -/
theorem hub_congr {run' : EvseRun D} (same : run'.pushes = run.pushes)
    (hub : List (EvseDataRecord D)) : run'.hub hub = run.hub hub := by
  unfold EvseRun.hub
  rw [same]

theorem flatten_batches (evses : List (EvseDataRecord D)) : (batches evses).flatten = evses := by
  unfold batches
  split
  · rename_i empty
    rw [List.isEmpty_iff.mp empty]
    rfl
  · exact Paging.flatten_pages (by decide)

/-- What fits into one batch is pushed in one. -/
theorem batches_of_length_le (fits : evses.length ≤ Constants.oicpBatchSize) :
    batches evses = [evses] := by
  unfold batches
  split
  · rename_i empty
    rw [List.isEmpty_iff.mp empty]
  · rename_i nonempty
    exact Paging.pages_of_length_le (by simpa using nonempty) fits

/-- A page that has been converted is pushed. -/
theorem process_ok (running : run.thrown = none) :
    run.process client network outcomes now processAll (.ok evses) =
      run.pushAll client outcomes (client.evsesToProcess network now processAll evses) := by
  unfold EvseRun.process
  rw [if_neg (by rw [running]; exact nofun)]

/-- After a run has thrown nothing is pushed. -/
theorem process_of_thrown (thrown : run.thrown.isSome)
    (page : Except String (List (EvseDataRecord D))) :
    run.process client network outcomes now processAll page = run :=
  if_pos thrown

/-! ## A run in which every push is acknowledged -/

/-- Where a run is that goes on: what the hub has, and whether it only adds. -/
structure EvseRun.At (run : EvseRun D) (hub : List (EvseDataRecord D))
    (state : List (EvseDataRecord D) × Bool) : Prop where
  hub : run.hub hub = state.1
  actionType : run.actionType = if state.2 then .insert else .fullLoad
  thrown : run.thrown = none

section Acknowledged

variable (acknowledged : ∀ i, (outcomes i).acknowledged)
variable {hub : List (EvseDataRecord D)} {state : List (EvseDataRecord D) × Bool}
include acknowledged

theorem EvseRun.At.pushBatch (here : run.At hub state) (batch : List (EvseDataRecord D)) :
    (run.pushBatch client outcomes batch).At hub
      (if state.2 then state.1 ++ batch else batch, state.2) := by
  obtain ⟨pushes, actionType, thrown⟩ := @pushBatch_spec _ client outcomes run batch
  refine ⟨?_, actionType.trans here.actionType, thrown.trans here.thrown⟩
  rw [hub_congr pushes, hub_push, EvsePush.apply, if_pos (acknowledged _), here.hub,
    here.actionType]
  cases state.2 <;> rfl

/-- Batches are added. -/
theorem EvseRun.At.foldl_pushBatch {has : List (EvseDataRecord D)} (here : run.At hub (has, true))
    (batches : List (List (EvseDataRecord D))) :
    (batches.foldl (EvseRun.pushBatch client outcomes) run).At hub
      (has ++ batches.flatten, true) := by
  induction batches generalizing run has with
  | nil =>
      rw [List.flatten_nil, List.append_nil]
      exact here
  | cons batch rest ih =>
      rw [List.flatten_cons, ← List.append_assoc]
      exact ih (here.pushBatch acknowledged batch)

/-- The hub is empty after it has been overwritten with nothing. -/
theorem EvseRun.At.clean (here : run.At hub state) : (run.clean outcomes).At hub ([], true) := by
  have pushed : ∃ data, pushEvseData (outcomes run.pushes.length) = .ok data := by
    rw [← Outcome.isOk_iff, pushEvseData_isOk]
    exact acknowledged _
  obtain ⟨data, pushed⟩ := pushed
  refine ⟨?_, ?_, ?_⟩
  · rw [hub_congr clean_pushes, hub_push, EvsePush.apply, if_pos (acknowledged _)]
  · rw [EvseRun.clean, pushed]
    rfl
  · rw [EvseRun.clean, pushed]
    exact here.thrown

/-- **A page** overwrites the hub or adds to it. -/
theorem EvseRun.At.pushAll (here : run.At hub state) (evses : List (EvseDataRecord D)) :
    (run.pushAll client outcomes evses).At hub (load Constants.oicpBatchSize state evses) := by
  have counted : (run.count evses).At hub state := ⟨here.hub, here.actionType, here.thrown⟩
  unfold EvseRun.pushAll load
  by_cases large : Constants.oicpBatchSize < evses.length
  · have cleaned := counted.clean acknowledged
    simp only [if_pos large]
    rw [if_neg (by rw [cleaned.thrown]; exact nofun)]
    have all := @EvseRun.At.foldl_pushBatch _ client _ _ acknowledged _ _ cleaned (batches evses)
    rw [flatten_batches, List.nil_append] at all
    exact all
  · simp only [if_neg large]
    rw [if_neg (by rw [counted.thrown]; exact nofun), batches_of_length_le (not_lt.mp large)]
    exact counted.pushBatch acknowledged evses

/-- The pages of a run, all of which have been converted. -/
theorem EvseRun.At.foldl_process {pages : List (List (EvseDataRecord D))} (here : run.At hub state) :
    ((pages.map Except.ok).foldl (EvseRun.process client network outcomes now processAll) run).At
      hub ((pages.map (client.evsesToProcess network now processAll)).foldl
        (load Constants.oicpBatchSize) state) := by
  induction pages generalizing run state with
  | nil => exact here
  | cons page rest ih =>
      refine ih ?_
      rw [process_ok here.thrown]
      exact here.pushAll acknowledged _

end Acknowledged

/-- The EVSEs on the pages are those of the public stations. -/
theorem isPublished_iff {pages : List (List (EvseDataRecord D))}
    (converts : client.evsePages network details = pages.map .ok) {evse : EvseDataRecord D} :
    IsPublished client network details evse ↔ evse ∈ pages.flatten := by
  constructor
  · rintro ⟨site, isSite, isPublic, station, isStation, isPublic', issuer, evses, converted, mem⟩
    obtain ⟨stations, page, onPage⟩ := exists_page isSite isPublic isStation isPublic'
    have isPage : convertChargingStationsToEVSEs client.options details site stations ∈
        pages.map Except.ok := converts ▸ List.mem_map.mpr ⟨(site, stations), page, rfl⟩
    obtain ⟨all, isPage, same⟩ := List.mem_map.mp isPage
    obtain ⟨lists, hlists, rfl⟩ := Outcome.map_eq_ok.mp same.symm
    have sends : station ∈ stations.filter fun station => station.issuer && station.isPublic :=
      List.mem_filter.mpr ⟨onPage, by rw [issuer, isPublic']; rfl⟩
    have isList := (Outcome.mem_mapM hlists).mpr ⟨station, sends, converted⟩
    exact List.mem_flatten_of_mem isPage (List.mem_flatten_of_mem isList mem)
  · intro mem
    obtain ⟨all, isPage, mem⟩ := List.mem_flatten.mp mem
    have onPage : Except.ok all ∈ client.evsePages network details :=
      converts ▸ List.mem_map_of_mem isPage
    obtain ⟨⟨site, stations⟩, page, same⟩ := List.mem_map.mp onPage
    obtain ⟨lists, hlists, rfl⟩ := Outcome.map_eq_ok.mp same
    obtain ⟨evses, isList, mem⟩ := List.mem_flatten.mp mem
    obtain ⟨station, sends, converted⟩ := (Outcome.mem_mapM hlists).mp isList
    obtain ⟨onPage, sends⟩ := List.mem_filter.mp sends
    rw [Bool.and_eq_true] at sends
    obtain ⟨isSite, isPublic, isStation, isPublic'⟩ := of_mem_page page onPage
    exact ⟨site, isSite, isPublic, station, isStation, isPublic', sends.1, evses, converted, mem⟩

/-! ## A delta run -/

/-- What has been converted before the first page that fails. -/
def converted {ε α : Type} : List (Except ε α) → List α
  | [] => []
  | .error _ :: _ => []
  | .ok a :: rest => a :: converted rest

/-- What fits into one batch is pushed in one. -/
theorem pushAll_of_length_le (running : run.thrown = none)
    (fits : evses.length ≤ Constants.oicpBatchSize) :
    run.pushAll client outcomes evses = (run.count evses).pushBatch client outcomes evses := by
  unfold EvseRun.pushAll
  have running' : (run.count evses).thrown = none := running
  simp only [if_neg (not_lt.mpr fits)]
  rw [if_neg (by rw [running']; exact nofun), batches_of_length_le fits]
  rfl

theorem foldl_process_of_thrown (thrown : run.thrown.isSome)
    (pages : List (Except String (List (EvseDataRecord D)))) :
    pages.foldl (EvseRun.process client network outcomes now processAll) run = run := by
  induction pages with
  | nil => rfl
  | cons page rest ih =>
      rw [List.foldl_cons, process_of_thrown thrown]
      exact ih

/-- A run of pages that fit into one batch each removes nothing. -/
theorem mem_hub_foldl_process {hub : List (EvseDataRecord D)} {evse : EvseDataRecord D}
    (inserting : run.actionType = .insert) (mem : evse ∈ run.hub hub)
    {pages : List (Except String (List (EvseDataRecord D)))}
    (fits : ∀ evses ∈ converted pages,
      (client.evsesToProcess network now processAll evses).length ≤ Constants.oicpBatchSize) :
    evse ∈ (pages.foldl (EvseRun.process client network outcomes now processAll) run).hub hub := by
  induction pages generalizing run with
  | nil => exact mem
  | cons page rest ih =>
      cases thrown : run.thrown with
      | some message =>
          rw [foldl_process_of_thrown (by rw [thrown]; rfl)]
          exact mem
      | none =>
          rw [List.foldl_cons]
          cases page with
          | error message =>
              have failed : run.process client network outcomes now processAll (.error message) =
                  { run with thrown := some message } := if_neg (by rw [thrown]; exact nofun)
              rw [failed, foldl_process_of_thrown rfl]
              exact mem
          | ok evses =>
              obtain ⟨fits, fits_rest⟩ := List.forall_mem_cons.mp fits
              rw [process_ok thrown, pushAll_of_length_le thrown fits]
              generalize client.evsesToProcess network now processAll evses = evses
              obtain ⟨pushes, actionType, _⟩ :=
                @pushBatch_spec _ client outcomes (run.count evses) evses
              refine ih (actionType.trans inserting) ?_ fits_rest
              have adds : (run.count evses).actionType = .insert := inserting
              rw [hub_congr pushes, hub_push, adds, EvsePush.apply]
              split
              · exact List.mem_append_left _ mem
              · exact mem

/-- A run of pages that fit into one batch each pushes once for each. -/
theorem foldl_process_of_fits (running : run.thrown = none)
    {pages : List (List (EvseDataRecord D))} (fits : ∀ evses ∈ pages,
      (client.evsesToProcess network now processAll evses).length ≤ Constants.oicpBatchSize) :
    ((pages.map Except.ok).foldl (EvseRun.process client network outcomes now processAll)
        run).thrown = none ∧
      ((pages.map Except.ok).foldl (EvseRun.process client network outcomes now processAll)
        run).pushes.length = run.pushes.length + pages.length := by
  induction pages generalizing run with
  | nil => exact ⟨running, rfl⟩
  | cons evses rest ih =>
      obtain ⟨fits, fits_rest⟩ := List.forall_mem_cons.mp fits
      rw [List.map_cons, List.foldl_cons, process_ok running, pushAll_of_length_le running fits]
      generalize client.evsesToProcess network now processAll evses = evses
      obtain ⟨pushes, _, thrown⟩ := @pushBatch_spec _ client outcomes (run.count evses) evses
      obtain ⟨running', count⟩ := ih (thrown.trans running) fits_rest
      have pushed : (run.count evses).pushes.length = run.pushes.length := rfl
      refine ⟨running', count.trans ?_⟩
      rw [pushes, EvseRun.push, List.length_append, List.length_singleton, List.length_cons, pushed]
      omega

/-- From a push on the hub acknowledges nothing more. -/
structure EvseRun.Stuck (run : EvseRun D) (number : ℕ) (hub has : List (EvseDataRecord D)) :
    Prop where
  hub : run.hub hub = has
  reached : number ≤ run.pushes.length

section Stuck

variable {number : ℕ} (refused : ∀ i, number ≤ i → (outcomes i).acknowledged = false)
variable {hub has : List (EvseDataRecord D)}
include refused

theorem EvseRun.Stuck.push (stuck : run.Stuck number hub has) (evses : List (EvseDataRecord D))
    (actionType : ActionType) : (run.push outcomes evses actionType).Stuck number hub has where
  hub := by
    rw [hub_push, EvsePush.apply, if_neg (by rw [refused _ stuck.reached]; exact nofun), stuck.hub]
  reached := by
    rw [EvseRun.push, List.length_append]
    exact stuck.reached.trans (Nat.le_add_right _ _)

omit refused in
theorem EvseRun.Stuck.congr (stuck : run.Stuck number hub has) {run' : EvseRun D}
    (same : run'.pushes = run.pushes) : run'.Stuck number hub has :=
  ⟨(hub_congr same hub).trans stuck.hub, same ▸ stuck.reached⟩

theorem EvseRun.Stuck.foldl_pushBatch (stuck : run.Stuck number hub has)
    (batches : List (List (EvseDataRecord D))) :
    (batches.foldl (EvseRun.pushBatch client outcomes) run).Stuck number hub has := by
  induction batches generalizing run with
  | nil => exact stuck
  | cons batch rest ih =>
      exact ih ((stuck.push refused batch run.actionType).congr (pushBatch_spec batch).1)

theorem EvseRun.Stuck.pushAll (stuck : run.Stuck number hub has)
    (evses : List (EvseDataRecord D)) :
    (run.pushAll client outcomes evses).Stuck number hub has := by
  have counted : (run.count evses).Stuck number hub has := stuck.congr rfl
  unfold EvseRun.pushAll
  by_cases large : Constants.oicpBatchSize < evses.length
  · have cleaned := (counted.push refused [] .fullLoad).congr clean_pushes
    simp only [if_pos large]
    split
    · exact cleaned
    · exact cleaned.foldl_pushBatch refused _
  · simp only [if_neg large]
    split
    · exact counted
    · exact counted.foldl_pushBatch refused _

theorem EvseRun.Stuck.foldl_process (stuck : run.Stuck number hub has)
    (pages : List (Except String (List (EvseDataRecord D)))) :
    (pages.foldl (EvseRun.process client network outcomes now processAll) run).Stuck number hub
      has := by
  induction pages generalizing run with
  | nil => exact stuck
  | cons page rest ih =>
      refine ih ?_
      unfold EvseRun.process
      split
      · exact stuck
      · cases page with
        | error message => exact stuck.congr rfl
        | ok evses => exact stuck.pushAll refused _

end Stuck

/-- The first page that does not fit into one batch. -/
theorem exists_first_large {pages : List (Except String (List (EvseDataRecord D)))}
    (large : ∃ evses ∈ converted pages, Constants.oicpBatchSize <
      (client.evsesToProcess network now processAll evses).length) :
    ∃ (before : List (List (EvseDataRecord D))) (evses : List (EvseDataRecord D))
      (after : List (Except String (List (EvseDataRecord D)))),
      pages = before.map .ok ++ .ok evses :: after ∧
      (∀ evses ∈ before, (client.evsesToProcess network now processAll evses).length ≤
        Constants.oicpBatchSize) ∧
      Constants.oicpBatchSize < (client.evsesToProcess network now processAll evses).length := by
  induction pages with
  | nil =>
      obtain ⟨_, mem, _⟩ := large
      cases mem
  | cons page rest ih =>
      cases page with
      | error message =>
          obtain ⟨_, mem, _⟩ := large
          cases mem
      | ok evses =>
          by_cases first : Constants.oicpBatchSize <
              (client.evsesToProcess network now processAll evses).length
          · exact ⟨[], evses, rest, rfl, nofun, first⟩
          · obtain ⟨evses', mem, isLarge⟩ := large
            rcases List.mem_cons.mp mem with rfl | later
            · exact absurd isLarge first
            · obtain ⟨before, evses'', after, rfl, fits, isLarge'⟩ := ih ⟨evses', later, isLarge⟩
              exact ⟨evses :: before, evses'', after, rfl,
                List.forall_mem_cons.mpr ⟨not_lt.mp first, fits⟩, isLarge'⟩

/-- **A page that does not fit** into one batch may clear the hub: the hub acknowledges that it is
overwritten with nothing, and no push after it. -/
theorem exists_hub_eq_nil {startDate : Timestamp}
    (large : ∃ evses ∈ converted (client.evsePages network details), Constants.oicpBatchSize <
      (client.evsesToProcess network startDate false evses).length)
    (hub : List (EvseDataRecord D)) :
    ∃ outcomes,
      (client.sendEVSEs network details outcomes startDate false none).1.hub hub = [] := by
  obtain ⟨before, evses, after, pages, fits, isLarge⟩ := exists_first_large large
  have acknowledges : ∃ outcomes : ℕ → PushOutcome, (outcomes before.length).acknowledged ∧
      ∀ i, before.length + 1 ≤ i → (outcomes i).acknowledged = false := by
    refine ⟨fun i => .response (some { result := decide (i = before.length) }),
      decide_eq_true rfl, ?_⟩
    intro i later
    exact decide_eq_false (by omega)
  obtain ⟨outcomes, acknowledged, refused⟩ := acknowledges
  refine ⟨outcomes, ?_⟩
  change EvseRun.hub ((client.evsePages network details).foldl
    (EvseRun.process client network outcomes startDate false) { actionType := .insert }) hub = []
  rw [pages, List.foldl_append, List.foldl_cons]
  have begun : ({ actionType := .insert } : EvseRun D).thrown = none := rfl
  obtain ⟨running, count⟩ := @foldl_process_of_fits _ client network outcomes startDate false _ begun
    before fits
  generalize (before.map Except.ok).foldl (EvseRun.process client network outcomes startDate false)
    _ = run at running count
  have reached : run.pushes.length = before.length := count.trans (Nat.zero_add _)
  rw [process_ok running]
  generalize client.evsesToProcess network startDate false evses = evses at isLarge
  -- The page clears the hub, and nothing is acknowledged behind.
  have cleaned : ((run.count evses).clean outcomes).Stuck (before.length + 1) hub [] := by
    have cleared : ((run.count evses).push outcomes [] .fullLoad).hub hub = [] := by
      rw [hub_push, EvsePush.apply, if_pos]
      change (outcomes run.pushes.length).acknowledged = true
      rw [reached]
      exact acknowledged
    refine EvseRun.Stuck.congr ⟨cleared, ?_⟩ clean_pushes
    rw [EvseRun.push, List.length_append]
    exact Nat.add_le_add_right reached.ge 1
  have pushed : (run.pushAll client outcomes evses).Stuck (before.length + 1) hub [] := by
    unfold EvseRun.pushAll
    simp only [if_pos isLarge]
    split
    · exact cleaned
    · exact cleaned.foldl_pushBatch refused _
  exact (pushed.foldl_process refused after).hub

/-! ## What is published -/

/-- After a full run the hub has the EVSEs of the public stations, and no others. -/
def LoadsPublished (client : Client) (network : Network) (details : Details D)
    (outcomes : ℕ → PushOutcome) (startDate : Timestamp) (hub : List (EvseDataRecord D)) : Prop :=
  ∀ evse, evse ∈ (client.sendEVSEs network details outcomes startDate true none).1.hub hub ↔
    IsPublished client network details evse

/-- Whatever comes of the pushes, a delta run keeps the records of the stations that are public. -/
def KeepsPublic (client : Client) (network : Network) (details : Details D)
    (startDate : Timestamp) (hub : List (EvseDataRecord D)) : Prop :=
  ∀ outcomes, ∀ evse ∈ hub, IsStillPublic network evse →
    evse ∈ (client.sendEVSEs network details outcomes startDate false none).1.hub hub

variable {startDate : Timestamp} {hub : List (EvseDataRecord D)}

theorem loadsPublished_iff (acknowledged : ∀ i, (outcomes i).acknowledged)
    {pages : List (List (EvseDataRecord D))}
    (converts : client.evsePages network details = pages.map .ok) :
    LoadsPublished client network details outcomes startDate hub ↔
      (pages = [] → hub = []) ∧
        ∀ kept ∈ fromLastOverwrite Constants.oicpBatchSize false pages, ∀ evse ∈ pages.flatten,
          evse ∈ kept.flatten := by
  have begun : ({ actionType := .fullLoad } : EvseRun D).At hub (hub, false) := ⟨rfl, rfl, rfl⟩
  have final := @EvseRun.At.foldl_process _ client network outcomes startDate true _ acknowledged
    hub _ pages begun
  have all : pages.map (client.evsesToProcess network startDate true) = pages := by
    refine (List.map_congr_left fun evses _ => ?_).trans (List.map_id pages)
    exact List.filter_eq_self.mpr fun _ _ => rfl
  rw [all, ← converts] at final
  rw [← foldl_load_iff]
  refine forall_congr' fun evse => ?_
  rw [isPublished_iff converts, ← final.hub]
  rfl

theorem keepsPublic_iff : KeepsPublic client network details startDate hub ↔
    (∀ evses ∈ converted (client.evsePages network details),
        (client.evsesToProcess network startDate false evses).length ≤ Constants.oicpBatchSize) ∨
      ∀ evse ∈ hub, ¬ IsStillPublic network evse := by
  constructor
  · intro keeps
    by_contra neither
    rw [not_or] at neither
    obtain ⟨large, stillPublic⟩ := neither
    push Not at large stillPublic
    obtain ⟨evse, mem, isStillPublic⟩ := stillPublic
    obtain ⟨outcomes, empty⟩ := exists_hub_eq_nil large hub
    have kept := keeps outcomes evse mem isStillPublic
    rw [empty] at kept
    cases kept
  · rintro (fits | none) outcomes evse mem isStillPublic
    · exact mem_hub_foldl_process rfl mem fits
    · exact absurd isStillPublic (none evse mem)

/-- **What is published.**  If every push is acknowledged, and the stations are converted, a full
run loads what is published just when the pages from the last one that overwrites the hub have
all EVSEs of the pages, and the hub was empty if there is no page.  A delta run keeps what is
public, whatever comes of its pushes, just when every page fits into one batch, or the hub has no
record of a public station. -/
theorem sendEVSEs_iff :
    (∀ outcomes (pages : List (List (EvseDataRecord D))), (∀ i, (outcomes i).acknowledged) →
      client.evsePages network details = pages.map .ok →
      (LoadsPublished client network details outcomes startDate hub ↔
        (pages = [] → hub = []) ∧
          ∀ kept ∈ fromLastOverwrite Constants.oicpBatchSize false pages, ∀ evse ∈ pages.flatten,
            evse ∈ kept.flatten)) ∧
      (KeepsPublic client network details startDate hub ↔
        (∀ evses ∈ converted (client.evsePages network details),
            (client.evsesToProcess network startDate false evses).length ≤
              Constants.oicpBatchSize) ∨
          ∀ evse ∈ hub, ¬ IsStillPublic network evse) :=
  ⟨fun _ _ acknowledged converts => loadsPublished_iff acknowledged converts,
    keepsPublic_iff⟩

/-- A public station in a site area. -/
def examplePublicStation (id : String) : Station where
  id := id
  siteAreaID := some "SA1"
  issuer := true
  isPublic := true
  connectors := [{ connectorId := 1 }]

/-- A site with such a station. -/
def exampleSite (id chargingStationID : String) : Site :=
  ⟨id, true, [examplePublicStation chargingStationID]⟩

/-- The EVSE of such a station. -/
def exampleEvse (chargingStationID : String) : EvseDataRecord Unit :=
  ⟨"FR*ABC*E" ++ chargingStationID ++ "*1", "FR*ABC*PSA1", chargingStationID, "", ()⟩

def exampleCpo : Client := { tenantID := "T1", options := ⟨"FR", "ABC"⟩ }

/-- The hub acknowledges. -/
def exampleAcknowledgment (_ : ℕ) : PushOutcome := .response (some { result := true })

/-- One site with one station. -/
theorem sendEVSEs_iff_one_page :
    LoadsPublished exampleCpo { sites := [exampleSite "S1" "CS1"] } (fun _ _ _ => .ok ())
        exampleAcknowledgment 0 [] ∧
      KeepsPublic exampleCpo { sites := [exampleSite "S1" "CS1"] } (fun _ _ _ => .ok ()) 0
        [exampleEvse "CS1"] := by
  have converts : exampleCpo.evsePages { sites := [exampleSite "S1" "CS1"] }
      (fun _ _ _ => .ok ()) = [[exampleEvse "CS1"]].map .ok := by
    decide +kernel
  refine ⟨(sendEVSEs_iff.1 exampleAcknowledgment _ (fun _ => rfl) converts).mpr ⟨nofun, ?_⟩,
    sendEVSEs_iff.2.mpr (.inl ?_)⟩
  · rintro _ ⟨⟩ evse mem
    exact mem
  · rw [converts]
    decide +kernel

/-- The page of the second site overwrites that of the first one. -/
theorem not_loadsPublished_two_sites :
    ¬ LoadsPublished exampleCpo { sites := [exampleSite "S1" "CS1", exampleSite "S2" "CS2"] }
      (fun _ _ _ => .ok ()) exampleAcknowledgment 0 [] := by
  intro loads
  have published : IsPublished exampleCpo
      { sites := [exampleSite "S1" "CS1", exampleSite "S2" "CS2"] } (fun _ _ _ => .ok ())
      (exampleEvse "CS1") :=
    ⟨exampleSite "S1" "CS1", List.mem_cons_self, rfl, examplePublicStation "CS1",
      List.mem_cons_self, rfl, rfl, [exampleEvse "CS1"], (by decide +kernel), List.mem_cons_self⟩
  have missing : exampleEvse "CS1" ∉ (exampleCpo.sendEVSEs
      { sites := [exampleSite "S1" "CS1", exampleSite "S2" "CS2"] } (fun _ _ _ => .ok ())
      exampleAcknowledgment 0 true none).1.hub [] := by
    decide +kernel
  exact missing ((loads _).mpr published)

end OICP

end EvServer
