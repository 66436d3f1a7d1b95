import EvServer.Lib.Documents
import EvServer.Lib.Stretches
import EvServer.Ocpp.Transaction
import Mathlib.Data.List.Dedup
import Mathlib.Data.List.Perm.Subperm

/-!
# The consumptions that are drawn for a transaction

`getOptimizedTransactionConsumptions` groups the consumptions of a transaction by rounded
power and limit and takes those out of each group that lie inside a run of back-to-back
ones.  The loop takes the last one of a run out as well and puts it back when the run ends.
It stops two elements before the end of the group, so that the last one of a run which ends
right before the last consumption of the group is not put back.
-/

namespace EvServer

/-- A document of the collection `consumptions`. -/
structure ConsumptionMDB extends Consumption where
  id : String
  deriving DecidableEq, Repr

/-- The property `limitWatts`. -/
def ConsumptionMDB.limitWatts (consumption : ConsumptionMDB) : Option ℚ :=
  consumption.limitation.bind ConnectorLimitation.limitWatts

/-- The next consumption starts when this one ends. -/
def ConsumptionMDB.isFollowedBy (lastConsumption next : ConsumptionMDB) : Bool :=
  next.startedAt = some lastConsumption.endedAt

namespace ConsumptionStorage

/-! ## The aggregation -/

/-- `$round`: the nearest integer, ties to the even one. -/
def round (x : ℚ) : ℤ :=
  if x - ⌊x⌋ < 1 / 2 then ⌊x⌋
  else if 1 / 2 < x - ⌊x⌋ then ⌊x⌋ + 1
  else if 2 ∣ ⌊x⌋ then ⌊x⌋
  else ⌊x⌋ + 1

/-- The field `roundedInstantPower`. -/
def roundedInstantPower (consumption : ConsumptionMDB) : Option JsNumber :=
  consumption.instantWatts.total.map fun
    | .nan => .nan
    | .num instantWatts => .num (round (instantWatts / 100))

/-- The `_id` of `$group`. -/
def groupKey (consumption : ConsumptionMDB) : Option JsNumber × Option ℚ :=
  (roundedInstantPower consumption, consumption.limitWatts)

/-- The consumptions of a group. -/
def groupOf (consumptions : List ConsumptionMDB) (key : Option JsNumber × Option ℚ) :
    List ConsumptionMDB :=
  consumptions.filter fun consumption => groupKey consumption = key

/-- The order of `$sort` on `consumptions.startedAt`: that of the earliest starts, where a
missing start comes first. -/
def startsNotAfter (group group' : List ConsumptionMDB) : Bool :=
  group'.all fun consumption' => group.any fun consumption =>
    consumption.startedAt.all fun startedAt => consumption'.startedAt.any (startedAt ≤ ·)

/-- The groups, in the order of their earliest starts. -/
def groups (consumptions : List ConsumptionMDB) : List (List ConsumptionMDB) :=
  ((consumptions.map groupKey).dedup.map (groupOf consumptions)).mergeSort startsNotAfter

/-! ## The loop over a group -/

/-- The variables of the loop over a group. -/
structure GroupLoop where
  consumptions : List ConsumptionMDB
  i : ℕ := 0
  lastConsumption : Option ConsumptionMDB := none
  lastConsumtionRemoved : Bool := false
  deriving DecidableEq, Repr

/-- The body of the loop, and `i++`. -/
def GroupLoop.turn (s : GroupLoop) : GroupLoop :=
  match s.lastConsumption.or s.consumptions[s.i]?, s.consumptions[s.i + 1]? with
  | some lastConsumption, some next =>
      if lastConsumption.isFollowedBy next then
        -- `i--` and `i++` leave the index where it is.
        { s with
          consumptions := s.consumptions.eraseIdx (s.i + 1)
          lastConsumption := some next
          lastConsumtionRemoved := true }
      else if s.lastConsumtionRemoved then
        let consumptions := s.consumptions.insertIdx s.i lastConsumption
        { consumptions
          i := s.i + 2
          lastConsumption := consumptions[s.i + 2]?
          lastConsumtionRemoved := false }
      else { s with i := s.i + 1, lastConsumption := some next }
  | _, _ => s

/-- The loop.  Each turn brings the index closer to the end of the array. -/
def GroupLoop.run : ℕ → GroupLoop → GroupLoop
  | 0, s => s
  | fuel + 1, s => if s.i + 3 ≤ s.consumptions.length then run fuel s.turn else s

/-- What the loop leaves of a group. -/
def simplifyGroup (group : List ConsumptionMDB) : List ConsumptionMDB :=
  (GroupLoop.run group.length { consumptions := group }).consumptions

/-- The consumptions of a transaction. -/
def transactionConsumptions (collection : Collection ConsumptionMDB.id) (transactionId : ℕ) :
    List ConsumptionMDB :=
  collection.docs.filter fun consumption => consumption.transactionId = transactionId

/-- `getOptimizedTransactionConsumptions`. -/
def getOptimizedTransactionConsumptions (collection : Collection ConsumptionMDB.id)
    (transactionId : ℕ) : List ConsumptionMDB :=
  ((groups (transactionConsumptions collection transactionId)).flatMap simplifyGroup).mergeSort
    fun cons1 cons2 => cons1.endedAt ≤ cons2.endedAt

/-! ## What the loop does to a group

The loop stands at the first consumption of a run.  `last` is the one it has come to in the
run, and `removed` says that `last` has been taken out. -/

/-- What the loop leaves of a run that begins with `first` and of what comes after it. -/
def simplified (first last : ConsumptionMDB) (removed : Bool) :
    List ConsumptionMDB → List ConsumptionMDB
  | [] => [first]
  | [final] => [first, final]
  | next :: final :: after =>
      if last.isFollowedBy next then simplified first next true (final :: after)
      else (if removed then [last, first] else [first]) ++
        simplified next next false (final :: after)

theorem insertIdx_length_append (before after : List ConsumptionMDB)
    (consumption : ConsumptionMDB) :
    (before ++ after).insertIdx before.length consumption = before ++ consumption :: after := by
  induction before with
  | nil => rfl
  | cons x before ih => simp [List.insertIdx_succ_cons, ih]

/-- The loop goes over the consumptions that come after the index. -/
theorem consumptions_run {fuel : ℕ} {before ahead : List ConsumptionMDB}
    {first last : ConsumptionMDB} {lastConsumption : Option ConsumptionMDB} {removed : Bool}
    (hfuel : ahead.length ≤ fuel) (hlast : lastConsumption.or (some first) = some last) :
    (GroupLoop.run fuel ⟨before ++ first :: ahead, before.length, lastConsumption,
      removed⟩).consumptions = before ++ simplified first last removed ahead := by
  induction fuel generalizing before ahead first last lastConsumption removed with
  | zero => rw [List.length_eq_zero_iff.mp (Nat.le_zero.mp hfuel)]; rfl
  | succ fuel ih =>
      match ahead with
      | [] => simp [GroupLoop.run, simplified]
      | [final] => simp [GroupLoop.run, simplified]
      | next :: final :: after =>
          have inside : before.length + 3 ≤ (before ++ first :: next :: final :: after).length := by
            simp
          have hfuel' : (final :: after).length ≤ fuel := by
            simpa using hfuel
          rw [GroupLoop.run, if_pos inside, simplified]
          have here : (before ++ first :: next :: final :: after)[before.length]? = some first := by
            simp
          have there : (before ++ first :: next :: final :: after)[before.length + 1]? =
              some next := by
            simp
          unfold GroupLoop.turn
          simp only [here, there, hlast]
          by_cases follows : last.isFollowedBy next = true
          · rw [if_pos follows, if_pos follows]
            have erased : (before ++ first :: next :: final :: after).eraseIdx
                (before.length + 1) = before ++ first :: final :: after := by
              rw [List.eraseIdx_append_of_length_le (by simp)]
              simp
            rw [erased]
            exact ih hfuel' rfl
          · rw [if_neg follows, if_neg follows]
            cases removed with
            | true =>
                have inserted : (before ++ first :: next :: final :: after).insertIdx
                    before.length last = before ++ last :: first :: next :: final :: after :=
                  insertIdx_length_append before _ last
                have step : (GroupLoop.run fuel ⟨(before ++ [last, first]) ++ next :: final :: after,
                    (before ++ [last, first]).length, some next, false⟩).consumptions = _ :=
                  ih hfuel' rfl
                simpa [inserted] using step
            | false =>
                have step : (GroupLoop.run fuel ⟨(before ++ [first]) ++ next :: final :: after,
                    (before ++ [first]).length, some next, false⟩).consumptions = _ :=
                  ih hfuel' rfl
                simpa using step

theorem simplifyGroup_cons (first : ConsumptionMDB) (ahead : List ConsumptionMDB) :
    simplifyGroup (first :: ahead) = simplified first first false ahead := by
  have started : (GroupLoop.run (first :: ahead).length ⟨[] ++ first :: ahead,
      ([] : List ConsumptionMDB).length, none, false⟩).consumptions =
        [] ++ simplified first first false ahead :=
    consumptions_run (Nat.le_succ _) rfl
  exact started

/-! ## Which consumptions of a group are kept -/

/-- Whether `last`, which has been taken out, is put back before what is ahead. -/
def putBack (last : ConsumptionMDB) : List ConsumptionMDB → List ConsumptionMDB
  | next :: _ :: _ => if last.isFollowedBy next then [] else [last]
  -- The loop ends first.
  | _ => []

/-- What is kept of a consumption that comes after `last`. -/
def keptOne (last next : ConsumptionMDB) (ahead : List ConsumptionMDB) : List ConsumptionMDB :=
  if last.isFollowedBy next ∧ ahead ≠ [] then putBack next ahead else [next]

/-- What is kept of the consumptions that come after `last`. -/
def keptAfter (last : ConsumptionMDB) : List ConsumptionMDB → List ConsumptionMDB
  | [] => []
  | next :: ahead => keptOne last next ahead ++ keptAfter next ahead

theorem perm_simplified (first last : ConsumptionMDB) (removed : Bool)
    (ahead : List ConsumptionMDB) :
    (simplified first last removed ahead).Perm
      (first :: ((if removed then putBack last ahead else []) ++ keptAfter last ahead)) := by
  fun_induction simplified first last removed ahead with
  | case1 first last removed => cases removed <;> simp [putBack, keptAfter]
  | case2 first last removed final => cases removed <;> simp [putBack, keptAfter, keptOne]
  | case3 first last removed next final after follows ih =>
      have unheld : putBack last (next :: final :: after) = [] := if_pos follows
      have kept : keptOne last next (final :: after) = putBack next (final :: after) :=
        if_pos ⟨follows, List.cons_ne_nil _ _⟩
      rw [unheld, ite_self, List.nil_append, keptAfter, kept]
      exact ih
  | case4 first last removed next final after follows ih =>
      have kept : keptOne last next (final :: after) = [next] := if_neg fun h => follows h.1
      rw [keptAfter, kept]
      cases removed with
      | true =>
          rw [if_pos rfl, if_pos rfl, putBack, if_neg follows]
          refine (List.Perm.swap first last _).trans (List.Perm.cons _ (List.Perm.cons _ ih))
      | false => exact List.Perm.cons _ ih

theorem putBack_sublist (last : ConsumptionMDB) (ahead : List ConsumptionMDB) :
    (putBack last ahead).Sublist [last] := by
  unfold putBack
  split
  · split
    · exact List.nil_sublist _
    · exact List.Sublist.refl _
  · exact List.nil_sublist _

theorem keptOne_sublist (last next : ConsumptionMDB) (ahead : List ConsumptionMDB) :
    (keptOne last next ahead).Sublist [next] := by
  unfold keptOne
  split
  · exact putBack_sublist next ahead
  · exact List.Sublist.refl _

theorem keptAfter_sublist (last : ConsumptionMDB) (ahead : List ConsumptionMDB) :
    (keptAfter last ahead).Sublist ahead := by
  induction ahead generalizing last with
  | nil => exact List.Sublist.refl _
  | cons next ahead ih => exact (keptOne_sublist last next ahead).append (ih next)

/-- What is kept of the consumptions before one of a group does not include it. -/
theorem exists_keptAfter_append (last next : ConsumptionMDB) (before ahead : List ConsumptionMDB) :
    ∃ front, front.Sublist before ∧ keptAfter last (before ++ next :: ahead) =
      front ++ keptOne (before.getLast?.getD last) next ahead ++ keptAfter next ahead := by
  induction before generalizing last with
  | nil => exact ⟨[], List.Sublist.refl _, rfl⟩
  | cons x before ih =>
      obtain ⟨front, sub, heq⟩ := ih x
      refine ⟨keptOne last x (before ++ next :: ahead) ++ front,
        (keptOne_sublist last x _).append sub, ?_⟩
      rw [List.cons_append, keptAfter, heq, List.getLast?_cons]
      simp

/-- The consumptions of a group that are kept, in its order. -/
def kept : List ConsumptionMDB → List ConsumptionMDB
  | [] => []
  | first :: ahead => first :: keptAfter first ahead

theorem perm_simplifyGroup (group : List ConsumptionMDB) :
    (simplifyGroup group).Perm (kept group) := by
  cases group with
  | nil => exact List.Perm.refl _
  | cons first ahead =>
      rw [simplifyGroup_cons]
      exact perm_simplified first first false ahead

theorem kept_sublist (group : List ConsumptionMDB) : (kept group).Sublist group := by
  cases group with
  | nil => exact List.Sublist.refl _
  | cons first ahead => exact (keptAfter_sublist first ahead).cons_cons first

/-- The consumption before one of a group decides whether that one is kept. -/
theorem exists_kept_append {last : ConsumptionMDB} {before : List ConsumptionMDB}
    (h : before.getLast? = some last) (next : ConsumptionMDB) (ahead : List ConsumptionMDB) :
    ∃ front, front.Sublist before ∧ kept (before ++ next :: ahead) =
      front ++ keptOne last next ahead ++ keptAfter next ahead := by
  cases before with
  | nil => exact absurd h (by simp)
  | cons first before =>
      obtain ⟨front, sub, heq⟩ := exists_keptAfter_append first next before ahead
      refine ⟨first :: front, sub.cons_cons first, ?_⟩
      rw [List.getLast?_cons, Option.some_inj] at h
      rw [List.cons_append, kept, heq, h]
      simp

/-- The last consumption of the group stands alone after a run of more than one. -/
def EndsAfterRun (group : List ConsumptionMDB) : Prop :=
  ∃ before last next final, group = before ++ [last, next, final] ∧
    last.isFollowedBy next = true ∧ next.isFollowedBy final = false

/-- The first consumption of a run is kept. -/
theorem mem_kept_of_begins {before ahead : List ConsumptionMDB} {next : ConsumptionMDB}
    (h : ∀ last ∈ before.getLast?, last.isFollowedBy next = false) :
    next ∈ kept (before ++ next :: ahead) := by
  rcases hlast : before.getLast? with _ | last
  · rw [List.getLast?_eq_none_iff.mp hlast]
    exact List.mem_cons_self
  · obtain ⟨front, -, heq⟩ := exists_kept_append hlast next ahead
    have alone : keptOne last next ahead = [next] :=
      if_neg fun follows => absurd follows.1 (by simp [h last hlast])
    rw [heq, alone]
    simp

/-- The last consumption of a run is kept, unless the loop ends before it is put back. -/
theorem mem_kept_of_ends {before ahead : List ConsumptionMDB} {next : ConsumptionMDB}
    (h : ∀ final ∈ ahead.head?, next.isFollowedBy final = false)
    (inside : ¬ EndsAfterRun (before ++ next :: ahead)) :
    next ∈ kept (before ++ next :: ahead) := by
  rcases hlast : before.getLast? with _ | last
  · rw [List.getLast?_eq_none_iff.mp hlast]
    exact List.mem_cons_self
  · obtain ⟨front, -, heq⟩ := exists_kept_append hlast next ahead
    suffices keptOne last next ahead = [next] by
      rw [heq, this]
      simp
    unfold keptOne
    split
    · rename_i follows
      match ahead with
      | [] => exact absurd rfl follows.2
      | [final] =>
          obtain ⟨init, rfl⟩ := List.getLast?_eq_some_iff.mp hlast
          refine absurd ⟨init, last, next, final, ?_, follows.1, h final rfl⟩ inside
          simp
      | final :: _ :: _ => exact if_neg (by simp [h final rfl])
    · rfl

/-- The consumption before the one that stands alone is lost. -/
theorem not_mem_kept {before : List ConsumptionMDB} {last next final : ConsumptionMDB}
    (nodup : (before ++ [last, next, final]).Nodup) (follows : last.isFollowedBy next = true) :
    next ∉ kept (before ++ [last, next, final]) := by
  have hlast : (before ++ [last]).getLast? = some last := List.getLast?_concat
  obtain ⟨front, sub, heq⟩ := exists_kept_append hlast next [final]
  have lost : keptOne last next [final] = [] := if_pos ⟨follows, List.cons_ne_nil _ _⟩
  have split : before ++ [last, next, final] = (before ++ [last]) ++ next :: [final] := by simp
  rw [split] at nodup ⊢
  rw [heq, lost, List.append_nil, List.mem_append]
  have apart := List.nodup_append.mp nodup
  rintro (mem | mem)
  · exact apart.2.2 next (sub.subset mem) next List.mem_cons_self rfl
  · have mem' := (keptAfter_sublist next [final]).subset mem
    exact (List.nodup_cons.mp apart.2.1).1 mem'

/-! ## The consumptions that are returned -/

section

variable {consumptions : List ConsumptionMDB} {key : Option JsNumber × Option ℚ}

theorem mem_of_mem_simplifyGroup {group : List ConsumptionMDB} {consumption : ConsumptionMDB}
    (h : consumption ∈ simplifyGroup group) : consumption ∈ group :=
  (kept_sublist group).subset ((perm_simplifyGroup group).mem_iff.mp h)

theorem mem_simplifyGroup_groupOf {consumption : ConsumptionMDB}
    (h : consumption ∈ simplifyGroup (groupOf consumptions key)) :
    consumption ∈ consumptions ∧ groupKey consumption = key := by
  simpa [groupOf] using mem_of_mem_simplifyGroup h

/-- The groups cover the consumptions, and no two have a common one. -/
theorem perm_flatMap_groups (consumptions : List ConsumptionMDB) :
    ((groups consumptions).flatMap simplifyGroup).Perm
      ((consumptions.map groupKey).dedup.flatMap fun key =>
        simplifyGroup (groupOf consumptions key)) := by
  have unsorted := (List.mergeSort_perm ((consumptions.map groupKey).dedup.map
    (groupOf consumptions)) startsNotAfter).flatMap_right simplifyGroup
  rwa [List.flatMap_map] at unsorted

theorem mem_flatMap_groups {consumption : ConsumptionMDB} :
    consumption ∈ (groups consumptions).flatMap simplifyGroup ↔
      consumption ∈ kept (groupOf consumptions (groupKey consumption)) := by
  rw [(perm_flatMap_groups consumptions).mem_iff, List.mem_flatMap,
    ← (perm_simplifyGroup _).mem_iff]
  constructor
  · rintro ⟨key, -, mem⟩
    obtain ⟨-, rfl⟩ := mem_simplifyGroup_groupOf mem
    exact mem
  · intro mem
    have stored := (mem_simplifyGroup_groupOf mem).1
    exact ⟨groupKey consumption, List.mem_dedup.mpr (List.mem_map_of_mem stored), mem⟩

theorem nodup_flatMap_groups (nodup : consumptions.Nodup) :
    ((groups consumptions).flatMap simplifyGroup).Nodup := by
  rw [(perm_flatMap_groups consumptions).nodup_iff, List.nodup_flatMap]
  constructor
  · intro key _
    rw [(perm_simplifyGroup _).nodup_iff]
    exact (nodup.filter _).sublist (kept_sublist _)
  · refine (List.nodup_dedup (consumptions.map groupKey)).imp fun ne => ?_
    intro consumption mem mem'
    exact ne ((mem_simplifyGroup_groupOf mem).2.symm.trans (mem_simplifyGroup_groupOf mem').2)

end

section

variable {collection : Collection ConsumptionMDB.id} {transactionId : ℕ}

theorem nodup_transactionConsumptions (collection : Collection ConsumptionMDB.id)
    (transactionId : ℕ) : (transactionConsumptions collection transactionId).Nodup :=
  (List.Nodup.of_map _ collection.nodup).filter _

theorem mem_getOptimizedTransactionConsumptions {consumption : ConsumptionMDB} :
    consumption ∈ getOptimizedTransactionConsumptions collection transactionId ↔
      consumption ∈ kept
        (groupOf (transactionConsumptions collection transactionId) (groupKey consumption)) := by
  rw [getOptimizedTransactionConsumptions, List.mem_mergeSort, mem_flatMap_groups]

theorem nodup_getOptimizedTransactionConsumptions :
    (getOptimizedTransactionConsumptions collection transactionId).Nodup :=
  (List.mergeSort_perm _ _).nodup_iff.mpr
    (nodup_flatMap_groups (nodup_transactionConsumptions collection transactionId))

theorem pairwise_getOptimizedTransactionConsumptions :
    (getOptimizedTransactionConsumptions collection transactionId).Pairwise
      fun cons1 cons2 => cons1.endedAt ≤ cons2.endedAt := by
  refine List.Pairwise.imp of_decide_eq_true (List.pairwise_mergeSort ?_ ?_ _)
  · exact fun _ _ _ h h' => decide_eq_true (le_trans (of_decide_eq_true h) (of_decide_eq_true h'))
  · exact fun cons1 cons2 => by simpa using le_total cons1.endedAt cons2.endedAt

/-- Every back-to-back run of every group keeps its ends. -/
structure IsOptimized (consumptions optimized : List ConsumptionMDB) : Prop where
  subperm : optimized.Subperm consumptions
  nodup : optimized.Nodup
  sorted : optimized.Pairwise fun cons1 cons2 => cons1.endedAt ≤ cons2.endedAt
  first_mem : ∀ key, ∀ run ∈ (groupOf consumptions key).splitBy ConsumptionMDB.isFollowedBy,
    ∀ consumption ∈ run.head?, consumption ∈ optimized
  last_mem : ∀ key, ∀ run ∈ (groupOf consumptions key).splitBy ConsumptionMDB.isFollowedBy,
    ∀ consumption ∈ run.getLast?, consumption ∈ optimized

theorem groupKey_of_mem_splitBy {consumptions run : List ConsumptionMDB}
    {key : Option JsNumber × Option ℚ} {consumption : ConsumptionMDB}
    (h : run ∈ (groupOf consumptions key).splitBy ConsumptionMDB.isFollowedBy)
    (mem : consumption ∈ run) : groupKey consumption = key := by
  have grouped : consumption ∈ groupOf consumptions key := by
    rw [← List.flatten_splitBy ConsumptionMDB.isFollowedBy (groupOf consumptions key)]
    exact List.mem_flatten_of_mem h mem
  simpa using (List.mem_filter.mp grouped).2

/-- What is drawn has the ends of every run, unless a group ends with a consumption that stands
alone after a run of more than one. -/
theorem isOptimized_getOptimizedTransactionConsumptions_iff
    (collection : Collection ConsumptionMDB.id) (transactionId : ℕ) :
    IsOptimized (transactionConsumptions collection transactionId)
        (getOptimizedTransactionConsumptions collection transactionId) ↔
      ∀ key, ¬ EndsAfterRun (groupOf (transactionConsumptions collection transactionId) key) := by
  constructor
  · rintro optimized key ⟨before, last, next, final, hgroup, follows, alone⟩
    have split : groupOf (transactionConsumptions collection transactionId) key =
        (before ++ [last]) ++ next :: [final] := by
      rw [hgroup]
      simp
    have ends : ∃ run ∈ ((before ++ [last]) ++ next :: [final]).splitBy
        ConsumptionMDB.isFollowedBy, run.getLast? = some next :=
      List.exists_mem_splitBy_getLast? (by simpa using alone)
    obtain ⟨run, mem, hlast⟩ := ends
    rw [← split] at mem
    have drawn := optimized.last_mem key run mem next hlast
    rw [mem_getOptimizedTransactionConsumptions,
      groupKey_of_mem_splitBy mem (List.mem_of_getLast? hlast), hgroup] at drawn
    refine not_mem_kept ?_ follows drawn
    rw [← hgroup]
    exact (nodup_transactionConsumptions collection transactionId).filter _
  · intro inside
    have subset : getOptimizedTransactionConsumptions collection transactionId ⊆
        transactionConsumptions collection transactionId := fun consumption mem =>
      (List.filter_sublist.subset
        ((kept_sublist _).subset (mem_getOptimizedTransactionConsumptions.mp mem)))
    refine ⟨nodup_getOptimizedTransactionConsumptions.subperm subset,
      nodup_getOptimizedTransactionConsumptions, pairwise_getOptimizedTransactionConsumptions,
      ?_, ?_⟩
    · intro key run mem consumption hhead
      rw [mem_getOptimizedTransactionConsumptions,
        groupKey_of_mem_splitBy mem (List.mem_of_mem_head? hhead)]
      obtain ⟨before, after, hgroup, unrelated, -⟩ := List.exists_append_of_mem_splitBy mem
      obtain ⟨ahead, rfl⟩ := List.head?_eq_some_iff.mp hhead
      rw [hgroup, List.append_assoc, List.cons_append]
      exact mem_kept_of_begins fun last hlast => unrelated last hlast consumption hhead
    · intro key run mem consumption hlast
      rw [mem_getOptimizedTransactionConsumptions,
        groupKey_of_mem_splitBy mem (List.mem_of_getLast? hlast)]
      obtain ⟨before, after, hgroup, -, unrelated⟩ := List.exists_append_of_mem_splitBy mem
      obtain ⟨init, rfl⟩ := List.getLast?_eq_some_iff.mp hlast
      have split : groupOf (transactionConsumptions collection transactionId) key =
          (before ++ init) ++ consumption :: after := by
        rw [hgroup]
        simp
      have inside' := inside key
      rw [split] at inside' ⊢
      exact mem_kept_of_ends (fun final hfinal => unrelated consumption hlast final hfinal)
        inside'

/-- A minute at a power of 7 kW. -/
private def drawnMinute (id : String) (start : Timestamp) : ConsumptionMDB where
  id := id
  transactionId := 1
  connectorId := 1
  chargeBoxID := "CS1"
  startedAt := some start
  endedAt := start + 60000
  instantWatts := ⟨some (.num 7000), none, none, none, none⟩

/-- The last of two minutes is lost when a third one comes after a gap of a minute. -/
theorem not_isOptimized_gapBeforeLast : ¬ ∀ (collection : Collection ConsumptionMDB.id)
    (transactionId : ℕ),
    ((transactionConsumptions collection transactionId).Pairwise fun cons1 cons2 =>
      cons1.endedAt ≤ cons2.endedAt) →
    IsOptimized (transactionConsumptions collection transactionId)
      (getOptimizedTransactionConsumptions collection transactionId) := by
  intro optimized
  let collection : Collection ConsumptionMDB.id :=
    ⟨[drawnMinute "A" 0, drawnMinute "B" 60000, drawnMinute "C" 180000], by decide⟩
  have lost : drawnMinute "B" 60000 ∉ getOptimizedTransactionConsumptions collection 1 := by
    rw [mem_getOptimizedTransactionConsumptions]
    decide +kernel
  exact lost ((optimized collection 1 (by decide +kernel)).last_mem (some (.num 70), none)
    [drawnMinute "A" 0, drawnMinute "B" 60000] (by decide +kernel) _ rfl)

end

end ConsumptionStorage

end EvServer
