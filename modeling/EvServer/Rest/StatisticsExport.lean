import EvServer.Rest.GraphTotals

/-!
# Statistics as CSV rows (`StatisticService.convertToCSV`)

For the export the statistics of a charging station or a user are added up: over the months, or
for each month where the users of one name are many.  A record goes to the first row that it may
be in; a row without a unit takes any record, and a record without a unit goes to any row.

`exportAddsUp_iff` says which statistics keep their units, whatever the totals are, and
`statistics_add_up_iff` is about the graph data, too.
-/

namespace EvServer

/-- `StatsDataScope`. -/
inductive StatsDataScope
  | year
  | month
  deriving DecidableEq, Repr

namespace StatisticService

variable {S : Type} [DecidableEq S]

/-- Whether a row may take a record: the test of `findIndex`. -/
def mayTake (ofMonth : Bool) (record stat : TransactionStat S) : Bool :=
  record.subject = stat.subject && (!ofMonth || record.month = stat.month) &&
    (record.unit.isNone || stat.unit.isNone || record.unit = stat.unit)

/-- The statistics are added to the first row that may take them, or are a new row. -/
def addToRow (ofMonth : Bool) (rows : List (TransactionStat S)) (stat : TransactionStat S) :
    List (TransactionStat S) :=
  match rows.findIdx? (mayTake ofMonth · stat) with
  | none => rows ++ [stat]
  | some index => rows.modify index fun record => record.withTotal (record.total + stat.total)

/-- Whether the rows are of a month: a year is asked for, which `0` is not, and the scope of a
month. -/
def isMonthly (year : ℕ) (dataScope : Option StatsDataScope) : Bool :=
  year ≠ 0 && dataScope = some .month

/-- A turn of the loop in `convertToCSV`. -/
def exportTurn (dataCategory : StatsDataCategory) (monthly : Bool)
    (rows : List (TransactionStat S)) (stat : TransactionStat S) : List (TransactionStat S) :=
  if !monthly then addToRow false rows { stat with month := 0 }
  else
    match dataCategory with
    | .chargingStation => rows ++ [stat]
    | .user => addToRow true rows stat

/-- The rows of `convertToCSV`, before they are sorted and written. -/
def exportRows (dataCategory : StatsDataCategory) (year : ℕ) (dataScope : Option StatsDataScope)
    (transactionStats : List (TransactionStat S)) : List (TransactionStat S) :=
  transactionStats.foldl (exportTurn dataCategory (isMonthly year dataScope)) []

/-! ## One more record -/

variable {ofMonth : Bool} {rows : List (TransactionStat S)} {record stat : TransactionStat S}
variable {unit : Option String}

theorem addToRow_nil : addToRow ofMonth [] stat = [stat] := rfl

theorem addToRow_cons :
    addToRow ofMonth (record :: rows) stat =
      if mayTake ofMonth record stat then
        record.withTotal (record.total + stat.total) :: rows
      else record :: addToRow ofMonth rows stat := by
  unfold addToRow
  rw [List.findIdx?_cons]
  cases mayTake ofMonth record stat with
  | true => rfl
  | false =>
      cases rows.findIdx? (mayTake ofMonth · stat) <;> rfl

/-- The unit of the row that statistics are added to. -/
def unitOfRow (ofMonth : Bool) (rows : List (TransactionStat S)) (stat : TransactionStat S) :
    Option String :=
  ((rows.find? (mayTake ofMonth · stat)).getD stat).unit

theorem unitTotal_addToRow (unit : Option String) (rows : List (TransactionStat S))
    (stat : TransactionStat S) :
    unitTotal unit (addToRow ofMonth rows stat) = unitTotal unit rows +
      if unitOfRow ofMonth rows stat = unit then stat.total else 0 := by
  induction rows with
  | nil =>
      rw [addToRow_nil, unitTotal_cons, add_comm]
      rfl
  | cons record rows ih =>
      rw [addToRow_cons, unitOfRow, List.find?_cons]
      cases takes : mayTake ofMonth record stat with
      | true =>
          rw [if_pos rfl, unitTotal_cons, unitTotal_cons]
          show (if record.unit = unit then record.total + stat.total else 0) + _ =
            (if record.unit = unit then record.total else 0) + _ +
              if record.unit = unit then stat.total else 0
          by_cases same : record.unit = unit
          · rw [if_pos same, if_pos same, if_pos same]
            ring
          · rw [if_neg same, if_neg same, if_neg same]
            ring
      | false =>
          rw [if_neg Bool.false_ne_true, unitTotal_cons, unitTotal_cons, ih, unitOfRow]
          ring

/-- Up to the totals, a record that is added to a row changes nothing. -/
theorem map_addToRow (ofMonth : Bool) (rows : List (TransactionStat S))
    (stat : TransactionStat S) :
    (addToRow ofMonth rows stat).map (·.withTotal 0) = rows.map (·.withTotal 0) ++
      if rows.any (mayTake ofMonth · stat) then [] else [stat.withTotal 0] := by
  induction rows with
  | nil => rfl
  | cons record rows ih =>
      rw [addToRow_cons, List.any_cons]
      cases takes : mayTake ofMonth record stat with
      | true =>
          rw [Bool.true_or, if_pos rfl, if_pos rfl, List.append_nil]
          rfl
      | false =>
          rw [Bool.false_or, if_neg Bool.false_ne_true, List.map_cons, List.map_cons, ih]
          rfl

/-! ## The rows and their units -/

/-- Records that a row is looked for by. -/
def SameRow (ofMonth : Bool) (record stat : TransactionStat S) : Prop :=
  record.subject = stat.subject ∧ (ofMonth = true → record.month = stat.month)

theorem mayTake_iff : mayTake ofMonth record stat ↔ SameRow ofMonth record stat ∧
    (record.unit = none ∨ stat.unit = none ∨ record.unit = stat.unit) := by
  unfold mayTake SameRow
  cases ofMonth <;> simp [or_assoc, and_assoc]

/-- Statistics of which those that a row is looked for by alike all have a unit, or none has. -/
def UnitsAgree (ofMonth : Bool) (stats : List (TransactionStat S)) : Prop :=
  ∀ stat ∈ stats, ∀ other ∈ stats, SameRow ofMonth stat other →
    (stat.unit = none ↔ other.unit = none)

omit [DecidableEq S] in
theorem withTotal_eq_iff : record.withTotal 0 = stat.withTotal 0 ↔
    record.subject = stat.subject ∧ record.month = stat.month ∧ record.unit = stat.unit := by
  obtain ⟨subject, month, unit, total⟩ := record
  obtain ⟨subject', month', unit', total'⟩ := stat
  simp [TransactionStat.withTotal]

omit [DecidableEq S] in
theorem SameRow.symm (same : SameRow ofMonth record stat) : SameRow ofMonth stat record :=
  ⟨same.1.symm, fun month => (same.2 month).symm⟩

omit [DecidableEq S] in
theorem SameRow.trans {other : TransactionStat S} (same : SameRow ofMonth record stat)
    (same' : SameRow ofMonth stat other) : SameRow ofMonth record other :=
  ⟨same.1.trans same'.1, fun month => (same.2 month).trans (same'.2 month)⟩

omit [DecidableEq S] in
theorem sameRow_of_withTotal_eq (alike : record.withTotal 0 = stat.withTotal 0) :
    SameRow ofMonth record stat := by
  obtain ⟨subject, month, -⟩ := withTotal_eq_iff.mp alike
  exact ⟨subject, fun _ => month⟩

/-- Every row stands for one of the records, and every record has a row. -/
structure RowsOf (ofMonth : Bool) (stats rows : List (TransactionStat S)) : Prop where
  stands : ∀ record ∈ rows, ∃ stat ∈ stats, record.withTotal 0 = stat.withTotal 0
  has : ∀ stat ∈ stats, ∃ record ∈ rows, SameRow ofMonth record stat

variable {stats : List (TransactionStat S)}

theorem RowsOf.addToRow (rowsOf : RowsOf ofMonth stats rows) (stat : TransactionStat S) :
    RowsOf ofMonth (stats ++ [stat]) (addToRow ofMonth rows stat) := by
  have shapes := map_addToRow ofMonth rows stat
  constructor
  · intro record mem
    have shape := List.mem_map_of_mem (f := (·.withTotal 0)) mem
    rw [shapes, List.mem_append] at shape
    rcases shape with old | new
    · obtain ⟨record', mem', alike⟩ := List.mem_map.mp old
      obtain ⟨other, here, alike'⟩ := rowsOf.stands record' mem'
      exact ⟨other, List.mem_append_left _ here, alike.symm.trans alike'⟩
    · refine ⟨stat, List.mem_append_right _ (List.mem_singleton_self _), ?_⟩
      split at new
      · cases new
      · exact List.mem_singleton.mp new
  · -- What has the shape of a row is in a row.
    have stays {record : TransactionStat S}
        (shape : record.withTotal 0 ∈ rows.map (·.withTotal 0) ++
          if rows.any (mayTake ofMonth · stat) then [] else [stat.withTotal 0]) :
        ∃ record' ∈ StatisticService.addToRow ofMonth rows stat,
          SameRow ofMonth record' record := by
      rw [← shapes] at shape
      obtain ⟨record', mem', alike⟩ := List.mem_map.mp shape
      exact ⟨record', mem', sameRow_of_withTotal_eq alike⟩
    intro other mem
    rcases List.mem_append.mp mem with old | new
    · obtain ⟨record, here, same⟩ := rowsOf.has other old
      obtain ⟨record', here', same'⟩ := stays (List.mem_append_left _ (List.mem_map_of_mem here))
      exact ⟨record', here', same'.trans same⟩
    · obtain rfl := List.mem_singleton.mp new
      by_cases takes : rows.any (mayTake ofMonth · other) = true
      · obtain ⟨record, here, takes⟩ := List.any_eq_true.mp takes
        obtain ⟨record', here', same'⟩ :=
          stays (List.mem_append_left _ (List.mem_map_of_mem here))
        exact ⟨record', here', same'.trans (mayTake_iff.mp takes).1⟩
      · refine stays (List.mem_append_right _ ?_)
        rw [if_neg takes]
        exact List.mem_singleton_self _

/-- Where the units agree, a record goes to a row of its unit. -/
theorem unitOfRow_of_agree (rowsOf : RowsOf ofMonth stats rows)
    (agree : ∀ other ∈ stats, SameRow ofMonth other stat → (other.unit = none ↔ stat.unit = none)) :
    unitOfRow ofMonth rows stat = stat.unit := by
  unfold unitOfRow
  cases found : rows.find? (mayTake ofMonth · stat) with
  | none => rfl
  | some record =>
      obtain ⟨other, here, alike⟩ := rowsOf.stands record (List.mem_of_find?_eq_some found)
      have takes := List.find?_some found
      obtain ⟨same, units⟩ := mayTake_iff.mp takes
      have unit := (withTotal_eq_iff.mp alike).2.2
      have iff := agree other here ((sameRow_of_withTotal_eq alike).symm.trans same)
      rw [← unit] at iff
      rw [Option.getD_some]
      rcases units with none | none | equal
      · rw [none, iff.mp none]
      · rw [none, iff.mpr none]
      · exact equal

/-- A record that goes to a row of its unit agrees with the others. -/
theorem agree_of_unitOfRow (rowsOf : RowsOf ofMonth stats rows) (agree : UnitsAgree ofMonth stats)
    (here : unitOfRow ofMonth rows stat = stat.unit) :
    ∀ other ∈ stats, SameRow ofMonth other stat → (other.unit = none ↔ stat.unit = none) := by
  intro other mem same
  -- The rows of both have a unit when the other record has one.
  have ofRow (record : TransactionStat S) (inRows : record ∈ rows)
      (same' : SameRow ofMonth record stat) : record.unit = none ↔ other.unit = none := by
    obtain ⟨other', mem', alike⟩ := rowsOf.stands record inRows
    rw [(withTotal_eq_iff.mp alike).2.2]
    exact agree other' mem' other mem
      ((sameRow_of_withTotal_eq alike).symm.trans (same'.trans same.symm))
  have first (missing : other.unit = none ∨ stat.unit = none) :
      stat.unit = none ↔ other.unit = none := by
    obtain ⟨record, inRows, same'⟩ := rowsOf.has other mem
    have sameStat := same'.trans same
    have takes : mayTake ofMonth record stat := by
      refine mayTake_iff.mpr ⟨sameStat, ?_⟩
      rcases missing with none | none
      · exact .inl ((ofRow record inRows sameStat).mpr none)
      · exact .inr (.inl none)
    cases found : rows.find? (mayTake ofMonth · stat) with
    | none => exact absurd takes (List.find?_eq_none.mp found record inRows)
    | some record' =>
        have takes' := List.find?_some found
        rw [unitOfRow, found, Option.getD_some] at here
        rw [← here]
        exact ofRow record' (List.mem_of_find?_eq_some found) (mayTake_iff.mp takes').1
  constructor
  · exact fun none => (first (.inl none)).mpr none
  · exact fun none => (first (.inr none)).mp none

/-! ## All the records -/

/-- The statistics as they are added up; over the months the month is `0`. -/
def ofScope (ofMonth : Bool) (stat : TransactionStat S) : TransactionStat S :=
  if ofMonth then stat else { stat with month := 0 }

/-- The rows that statistics are added up in. -/
def grouped (ofMonth : Bool) (stats : List (TransactionStat S)) : List (TransactionStat S) :=
  (stats.map (ofScope ofMonth)).foldl (addToRow ofMonth) []

theorem exportRows_eq (dataCategory : StatsDataCategory) (year : ℕ)
    (dataScope : Option StatsDataScope) (stats : List (TransactionStat S)) :
    exportRows dataCategory year dataScope stats =
      if isMonthly year dataScope && dataCategory = .chargingStation then stats
      else grouped (isMonthly year dataScope) stats := by
  rw [exportRows]
  cases isMonthly year dataScope with
  | false =>
      rw [Bool.false_and, if_neg Bool.false_ne_true, grouped, List.foldl_map]
      rfl
  | true =>
      cases dataCategory with
      | chargingStation =>
          show stats.foldl (fun rows stat => rows ++ [stat]) [] = stats
          rw [List.foldl_append_eq_append, List.nil_append, ← List.flatMap_def,
            List.flatMap_singleton']
      | user =>
          rw [grouped, List.foldl_map]
          rfl

theorem grouped_concat (stats : List (TransactionStat S)) (stat : TransactionStat S) :
    grouped ofMonth (stats ++ [stat]) =
      addToRow ofMonth (grouped ofMonth stats) (ofScope ofMonth stat) := by
  rw [grouped, List.map_append, List.foldl_append]
  rfl

omit [DecidableEq S] in
@[simp] theorem unit_ofScope (ofMonth : Bool) (stat : TransactionStat S) :
    (ofScope ofMonth stat).unit = stat.unit := by
  cases ofMonth <;> rfl

omit [DecidableEq S] in
@[simp] theorem total_ofScope (ofMonth : Bool) (stat : TransactionStat S) :
    (ofScope ofMonth stat).total = stat.total := by
  cases ofMonth <;> rfl

omit [DecidableEq S] in
theorem sameRow_ofScope_iff :
    SameRow ofMonth (ofScope ofMonth record) (ofScope ofMonth stat) ↔
      SameRow ofMonth record stat := by
  cases ofMonth <;> simp [SameRow, ofScope]

theorem rowsOf_grouped (stats : List (TransactionStat S)) :
    RowsOf ofMonth (stats.map (ofScope ofMonth)) (grouped ofMonth stats) := by
  induction stats using List.reverseRecOn with
  | nil => exact ⟨List.forall_mem_nil _, List.forall_mem_nil _⟩
  | append_singleton stats stat ih =>
      rw [grouped_concat, List.map_append, List.map_singleton]
      exact ih.addToRow _

theorem unitTotal_grouped_concat (unit : Option String) (stats : List (TransactionStat S))
    (stat : TransactionStat S) :
    unitTotal unit (grouped ofMonth (stats ++ [stat])) = unitTotal unit (grouped ofMonth stats) +
      if unitOfRow ofMonth (grouped ofMonth stats) (ofScope ofMonth stat) = unit then stat.total
      else 0 := by
  rw [grouped_concat, unitTotal_addToRow, total_ofScope]

/-- Statistics without totals change nothing. -/
theorem unitTotal_grouped_append (ofMonth : Bool) (unit : Option String)
    (stats rest : List (TransactionStat S))
    (nothing : ∀ stat ∈ rest, stat.total = 0) :
    unitTotal unit (grouped ofMonth (stats ++ rest)) = unitTotal unit (grouped ofMonth stats) := by
  induction rest using List.reverseRecOn with
  | nil => rw [List.append_nil]
  | append_singleton rest stat ih =>
      rw [List.forall_mem_append, List.forall_mem_singleton] at nothing
      rw [← List.append_assoc, unitTotal_grouped_concat, ih nothing.1, nothing.2, ite_self,
        add_zero]

omit [DecidableEq S] in
/-- The months do not decide whether units agree over the months. -/
theorem agree_ofScope_iff {other : TransactionStat S} :
    (SameRow ofMonth (ofScope ofMonth other) (ofScope ofMonth stat) →
      ((ofScope ofMonth other).unit = none ↔ (ofScope ofMonth stat).unit = none)) ↔
    (SameRow ofMonth other stat → (other.unit = none ↔ stat.unit = none)) := by
  rw [sameRow_ofScope_iff, unit_ofScope, unit_ofScope]

omit [DecidableEq S] in
theorem unitsAgree_concat_iff : UnitsAgree ofMonth (stats ++ [stat]) ↔ UnitsAgree ofMonth stats ∧
    ∀ other ∈ stats, SameRow ofMonth other stat → (other.unit = none ↔ stat.unit = none) := by
  constructor
  · intro agree
    have last := List.mem_append_right stats (List.mem_singleton_self stat)
    exact ⟨fun first mem other mem' =>
        agree first (List.mem_append_left _ mem) other (List.mem_append_left _ mem'),
      fun other mem => agree other (List.mem_append_left _ mem) stat last⟩
  · rintro ⟨agree, here⟩ first mem other mem' same
    rcases List.mem_append.mp mem with old | new
    · rcases List.mem_append.mp mem' with old' | new'
      · exact agree first old other old' same
      · obtain rfl := List.mem_singleton.mp new'
        exact here first old same
    · obtain rfl := List.mem_singleton.mp new
      rcases List.mem_append.mp mem' with old' | new'
      · exact (here other old' same.symm).symm
      · rw [List.mem_singleton.mp new']

/-- **Where the units agree** the rows keep them. -/
theorem unitTotal_grouped_of_agree (agree : UnitsAgree ofMonth stats) (unit : Option String) :
    unitTotal unit (grouped ofMonth stats) = unitTotal unit stats := by
  induction stats using List.reverseRecOn with
  | nil => rfl
  | append_singleton stats stat ih =>
      obtain ⟨before, here⟩ := unitsAgree_concat_iff.mp agree
      have ofRow : unitOfRow ofMonth (grouped ofMonth stats) (ofScope ofMonth stat) =
          stat.unit := by
        rw [unitOfRow_of_agree (rowsOf_grouped stats), unit_ofScope]
        exact List.forall_mem_map.mpr fun other mem => agree_ofScope_iff.mpr (here other mem)
      rw [unitTotal_grouped_concat, ih before, ofRow, unitTotal_append, unitTotal_cons]
      simp [unitTotal]

omit [DecidableEq S] in
theorem unitsAgree_map {w : TransactionStat S → TransactionStat S}
    (unit : ∀ stat, (w stat).unit = stat.unit)
    (same : ∀ record stat, SameRow ofMonth (w record) (w stat) → SameRow ofMonth record stat)
    (agree : UnitsAgree ofMonth stats) : UnitsAgree ofMonth (stats.map w) := by
  refine List.forall_mem_map.mpr fun first mem => List.forall_mem_map.mpr fun other mem' alike => ?_
  rw [unit, unit]
  exact agree first mem other mem' (same _ _ alike)

/-- When all the totals count for their units, the units agree. -/
theorem unitsAgree_of_unitTotal
    (addsUp : ∀ stats', SameButTotals stats stats' → ∀ unit,
      unitTotal unit (grouped ofMonth stats') = unitTotal unit stats') :
    UnitsAgree ofMonth stats := by
  have prefixes (before behind : List (TransactionStat S)) (whole : stats = before ++ behind) :
      UnitsAgree ofMonth before := by
    induction before using List.reverseRecOn generalizing behind with
    | nil => exact List.forall_mem_nil _
    | append_singleton before stat ih =>
        have agree := ih (stat :: behind) (by rw [whole, List.append_assoc]; rfl)
        refine unitsAgree_concat_iff.mpr ⟨agree, fun other mem => ?_⟩
        -- All the totals but one are zero; the one has to be in a row of its unit.
        have same : SameButTotals stats (before.map (·.withTotal 0) ++
            stat.withTotal 1 :: behind.map (·.withTotal 0)) := by
          rw [SameButTotals, whole]
          simp [TransactionStat.withTotal, Function.comp_def]
        have total := addsUp _ same stat.unit
        have ofRow : unitOfRow ofMonth (grouped ofMonth (before.map (·.withTotal 0)))
            (ofScope ofMonth (stat.withTotal 1)) = stat.unit := by
          have nothing := unitTotal_grouped_append ofMonth stat.unit []
            (before.map (·.withTotal 0)) (total_of_mem_map_withTotal 0)
          rw [List.nil_append] at nothing
          rw [unitTotal_single, if_pos rfl, ← List.singleton_append, ← List.append_assoc,
            unitTotal_grouped_append _ _ _ _ (total_of_mem_map_withTotal 0),
            unitTotal_grouped_concat, nothing] at total
          by_contra others
          rw [if_neg others] at total
          exact absurd total (by simp [unitTotal, grouped])
        have zeros : UnitsAgree ofMonth ((before.map (·.withTotal 0)).map (ofScope ofMonth)) :=
          unitsAgree_map (unit_ofScope ofMonth) (fun _ _ => sameRow_ofScope_iff.mp)
            (unitsAgree_map (fun _ => rfl) (fun _ _ same => same) agree)
        have here := agree_of_unitOfRow (rowsOf_grouped (before.map (·.withTotal 0))) zeros
          (ofRow.trans (unit_ofScope ofMonth (stat.withTotal 1)).symm)
        rw [List.forall_mem_map, List.forall_mem_map] at here
        have agrees := agree_ofScope_iff.mp (here other mem)
        exact agrees
  exact prefixes stats [] (List.append_nil _).symm

/-- **Which rows keep their units**, whatever the totals are. -/
theorem grouped_iff (ofMonth : Bool) (stats : List (TransactionStat S)) :
    (∀ stats', SameButTotals stats stats' → ∀ unit,
      unitTotal unit (grouped ofMonth stats') = unitTotal unit stats') ↔
      UnitsAgree ofMonth stats := by
  refine ⟨unitsAgree_of_unitTotal, fun agree stats' same => unitTotal_grouped_of_agree ?_⟩
  have shape : UnitsAgree ofMonth (stats'.map (·.withTotal 0)) := by
    rw [← same]
    exact unitsAgree_map (fun _ => rfl) (fun _ _ same => same) agree
  exact fun first mem other mem' =>
    List.forall_mem_map.mp (List.forall_mem_map.mp shape first mem) other mem'

/-- Each unit comes to the same in the rows of the export as in the statistics. -/
def ExportAddsUp (dataCategory : StatsDataCategory) (year : ℕ) (dataScope : Option StatsDataScope)
    (stats : List (TransactionStat S)) : Prop :=
  ∀ unit, unitTotal unit (exportRows dataCategory year dataScope stats) = unitTotal unit stats

/-- **Which exports add up**, whatever the totals are; the charging stations in a month are not
added up at all. -/
theorem exportAddsUp_iff (dataCategory : StatsDataCategory) (year : ℕ)
    (dataScope : Option StatsDataScope) (stats : List (TransactionStat S)) :
    (∀ stats', SameButTotals stats stats' → ExportAddsUp dataCategory year dataScope stats') ↔
      (isMonthly year dataScope = true ∧ dataCategory = .chargingStation) ∨
        UnitsAgree (isMonthly year dataScope) stats := by
  by_cases alone : isMonthly year dataScope = true ∧ dataCategory = .chargingStation
  · refine iff_of_true (fun stats' _ unit => ?_) (.inl alone)
    rw [exportRows_eq, if_pos (by simpa using alone)]
  · have rows (stats' : List (TransactionStat S)) :
        exportRows dataCategory year dataScope stats' =
          grouped (isMonthly year dataScope) stats' := by
      rw [exportRows_eq, if_neg (by simpa using alone)]
    rw [or_iff_right alone, ← grouped_iff]
    simp only [ExportAddsUp, rows]

end StatisticService

open StatisticService

/-- **Which statistics add up**, in the graph data and in the rows of an export, whatever their
totals are. -/
theorem statistics_add_up_iff (toText : ℚ → String) (year : ℕ)
    (dataScope : Option StatsDataScope) :
    (∀ stats : List (TransactionStat String),
      ((∀ stats', SameButTotals stats stats' →
          GraphAddsUp toText .chargingStation id stats') ↔
        ∀ run ∈ sections stats, FitsRow .chargingStation id run) ∧
      ((∀ stats', SameButTotals stats stats' →
          ExportAddsUp .chargingStation year dataScope stats') ↔
        isMonthly year dataScope = true ∨ UnitsAgree (isMonthly year dataScope) stats)) ∧
    (∀ stats : List (TransactionStat StatsUser),
      ((∀ stats', SameButTotals stats stats' →
          GraphAddsUp toText .user Utils.buildUserFullName stats') ↔
        ∀ run ∈ sections stats, FitsRow .user Utils.buildUserFullName run) ∧
      ((∀ stats', SameButTotals stats stats' → ExportAddsUp .user year dataScope stats') ↔
        UnitsAgree (isMonthly year dataScope) stats)) := by
  refine ⟨fun stats => ⟨graphAddsUp_iff stats, ?_⟩, fun stats => ⟨graphAddsUp_iff stats, ?_⟩⟩
  · rw [exportAddsUp_iff, and_iff_left rfl]
  · rw [exportAddsUp_iff, or_iff_right (fun station => by cases station.2)]

/-- Prices of a charging station, in the order in which they are read from the database: in the
second month there are sessions without a unit and sessions with one. -/
theorem not_statistics_add_up :
    let stats : List (TransactionStat String) :=
      [⟨"station", 1, some "EUR", 2⟩, ⟨"station", 2, none, 3⟩, ⟨"station", 2, some "EUR", 1⟩]
    ¬ GraphAddsUp (fun _ => "") .chargingStation id stats ∧
      ¬ ExportAddsUp .chargingStation 0 none stats := by
  intro stats
  refine ⟨fun addsUp => absurd (addsUp (some "EUR")) ?_, fun addsUp =>
    absurd (addsUp (some "EUR")) ?_⟩
  · decide +kernel
  · decide +kernel

end EvServer
