import EvServer.Lib.KeyedList
import EvServer.Lib.Sections
import EvServer.Utils

/-!
# Statistics as graph data (`StatisticService.convertToGraphData`)

The statistics say what a charging station or a user comes to in a month, in a unit where there
is one.  For a graph they are put into rows, which are objects: the month and the unit of a row
are properties of it, and so is the total of everyone who is in it, under his name.

The rows are sections of the statistics (`convertToGraphData_eq`).
-/

namespace EvServer

/-- `StatsDataCategory`. -/
inductive StatsDataCategory
  | chargingStation
  | user
  deriving DecidableEq, Repr

/-- The user of `UserStats`. -/
structure StatsUser where
  name : Option String
  firstName : Option String := none
  deriving DecidableEq, Repr

/-- `Utils.buildUserFullName`, without the ID and the e-mail. -/
def Utils.buildUserFullName (user : StatsUser) : String :=
  match user.name.filter (· ≠ ""), user.firstName.filter (· ≠ "") with
  | none, _ => "-"
  | some name, none => name
  | some name, some firstName => firstName ++ " " ++ name

/-- `ChargingStationStats` with its `chargeBox`, or `UserStats` with its `user`.  An empty `unit`
is none. -/
structure TransactionStat (S : Type) where
  subject : S
  month : ℕ
  unit : Option String := none
  total : ℚ
  deriving DecidableEq, Repr

/-- The statistics of another total. -/
def TransactionStat.withTotal {S : Type} (stat : TransactionStat S) (total : ℚ) :
    TransactionStat S :=
  { stat with total := total }

/-- What the statistics in a unit come to. -/
def unitTotal {S : Type} (unit : Option String) (stats : List (TransactionStat S)) : ℚ :=
  (stats.map fun stat => if stat.unit = unit then stat.total else 0).sum

/-! ## Rows -/

/-- A property of a row. -/
inductive GraphValue
  | number (value : ℚ)
  | text (value : String)
  deriving DecidableEq, Repr

/-- The number of a property; a text is none. -/
def GraphValue.amount : GraphValue → ℚ
  | number value => value
  | text _ => 0

/-- `property + total`. -/
def GraphValue.add (toText : ℚ → String) : GraphValue → ℚ → GraphValue
  | number value, total => number (value + total)
  | text value, total => text (value ++ toText total)

/-- An object with its own properties, in their order. -/
abbrev GraphRow := List (String × GraphValue)

/-- The properties that every object inherits from `Object.prototype`. -/
def objectPrototype : List String :=
  ["constructor", "__defineGetter__", "__defineSetter__", "hasOwnProperty", "__lookupGetter__",
    "__lookupSetter__", "isPrototypeOf", "propertyIsEnumerable", "toString", "valueOf",
    "__proto__", "toLocaleString"]

/-- The text of an inherited function. -/
def inheritedText (key : String) : String :=
  "function " ++ (if key = "constructor" then "Object" else key) ++ "() \\x7b [native code] \\x7d"

namespace GraphRow

/-- `row[key] = value`; a number or a text does not become the prototype. -/
def assign (row : GraphRow) (key : String) (value : GraphValue) : GraphRow :=
  if key = "__proto__" then row else KeyedList.upsert key (fun _ => value) row

/-- `row[key]`, if `key in row`. -/
def property (row : GraphRow) (key : String) : Option GraphValue :=
  (row.lookup key).or (if key ∈ objectPrototype then some (.text (inheritedText key)) else none)

/-- The properties that are not the total of anyone. -/
def ownKeys : List String := ["month", "unit"]

/-- What the totals in a row come to. -/
def total (row : GraphRow) : ℚ :=
  (row.map fun entry => if entry.1 ∈ ownKeys then 0 else entry.2.amount).sum

/-- Whether a row is of a unit. -/
def IsOf (row : GraphRow) (unit : Option String) : Prop :=
  row.lookup "unit" = unit.map GraphValue.text

instance (row : GraphRow) (unit : Option String) : Decidable (row.IsOf unit) :=
  inferInstanceAs (Decidable (_ = _))

end GraphRow

/-- What the rows of a unit come to. -/
def graphTotal (unit : Option String) (rows : List GraphRow) : ℚ :=
  (rows.map fun row => if row.IsOf unit then row.total else 0).sum

namespace StatisticService

variable {S : Type}

/-- The new row of a month and, if there is one, a unit. -/
def createRow (stat : TransactionStat S) : GraphRow :=
  let row := GraphRow.assign [] "month" (.number (stat.month - 1))
  match stat.unit with
  | none => row
  | some unit => row.assign "unit" (.text unit)

/-- The variables of the loop in `convertToGraphData`; the month `-1` at its beginning is none.
The last of the rows is `transaction`. -/
structure GraphLoop where
  month : Option ℕ := none
  unit : Option String := none
  transactions : List GraphRow := []

/-- A new row. -/
def GraphLoop.create (loop : GraphLoop) (stat : TransactionStat S) : GraphLoop where
  month := some stat.month
  unit := stat.unit.or loop.unit
  transactions := loop.transactions ++ [createRow stat]

/-- The key figure of the statistics is set in a row. -/
def setKeyFigure (toText : ℚ → String) (dataCategory : StatsDataCategory) (nameOf : S → String)
    (row : GraphRow) (stat : TransactionStat S) : GraphRow :=
  match dataCategory with
  | .chargingStation => row.assign (nameOf stat.subject) (.number stat.total)
  | .user =>
      let userName := nameOf stat.subject
      match row.property userName with
      | some property => row.assign userName (property.add toText stat.total)
      | none => row.assign userName (.number stat.total)

/-- A turn of the loop. -/
def graphTurn (toText : ℚ → String) (dataCategory : StatsDataCategory) (nameOf : S → String)
    (loop : GraphLoop) (stat : TransactionStat S) : GraphLoop :=
  let loop := if stat.unit.isSome ∧ loop.unit ≠ stat.unit then loop.create stat else loop
  let loop := if loop.month ≠ some stat.month then loop.create stat else loop
  { loop with
    transactions :=
      loop.transactions.modifyLast (setKeyFigure toText dataCategory nameOf · stat) }

/-- `convertToGraphData`. -/
def convertToGraphData (toText : ℚ → String) (dataCategory : StatsDataCategory)
    (nameOf : S → String) (transactionStats : List (TransactionStat S)) : List GraphRow :=
  (transactionStats.foldl (graphTurn toText dataCategory nameOf) {}).transactions

/-! ## The rows are sections of the statistics -/

/-- Whether a new row is created, after the statistics before. -/
def startsRow (before : List (TransactionStat S)) (stat : TransactionStat S) : Bool :=
  (stat.unit.isSome && (before.filterMap (·.unit)).getLast? ≠ stat.unit) ||
    before.getLast?.map (·.month) ≠ some stat.month

/-- The statistics, by the row they are put in. -/
def sections (transactionStats : List (TransactionStat S)) : List (List (TransactionStat S)) :=
  Sections.cut startsRow transactionStats

variable {toText : ℚ → String} {dataCategory : StatsDataCategory} {nameOf : S → String}
variable {stats run : List (TransactionStat S)} {stat : TransactionStat S} {unit : Option String}
variable {row : GraphRow}

/-- The key figures that are set in a row. -/
def setAll (toText : ℚ → String) (dataCategory : StatsDataCategory) (nameOf : S → String)
    (row : GraphRow) (run : List (TransactionStat S)) : GraphRow :=
  run.foldl (setKeyFigure toText dataCategory nameOf) row

/-- The row of a section. -/
def rowOf (toText : ℚ → String) (dataCategory : StatsDataCategory) (nameOf : S → String) :
    List (TransactionStat S) → GraphRow
  | [] => []
  | first :: rest => setAll toText dataCategory nameOf (createRow first) (first :: rest)

theorem rowOf_concat (nonempty : run ≠ []) (stat : TransactionStat S) :
    rowOf toText dataCategory nameOf (run ++ [stat]) =
      setKeyFigure toText dataCategory nameOf (rowOf toText dataCategory nameOf run) stat := by
  cases run with
  | nil => exact absurd rfl nonempty
  | cons first rest =>
      rw [List.cons_append, rowOf, rowOf, setAll, ← List.cons_append, List.foldl_append]
      rfl

theorem startsRow_nil (stat : TransactionStat S) : startsRow [] stat = true := by
  simp [startsRow]

theorem flatten_sections (stats : List (TransactionStat S)) : (sections stats).flatten = stats :=
  Sections.flatten_cut startsRow_nil stats

/-- The totals do not decide where a row starts. -/
theorem startsRow_withTotal (totals : ℚ) (before : List (TransactionStat S))
    (stat : TransactionStat S) :
    startsRow (before.map (·.withTotal totals)) (stat.withTotal totals) =
      startsRow before stat := by
  unfold startsRow
  rw [List.filterMap_map, List.getLast?_map, Option.map_map]
  rfl

/-- A turn of the loop, by whether a row is created. -/
theorem graphTurn_eq (loop : GraphLoop) (stat : TransactionStat S) :
    graphTurn toText dataCategory nameOf loop stat =
      { month := some stat.month
        unit := stat.unit.or loop.unit
        transactions :=
          (loop.transactions ++
            if (stat.unit.isSome && loop.unit ≠ stat.unit) || loop.month ≠ some stat.month then
              [createRow stat]
            else []).modifyLast (setKeyFigure toText dataCategory nameOf · stat) } := by
  unfold graphTurn
  by_cases changes : stat.unit.isSome ∧ loop.unit ≠ stat.unit
  · have starts : ((stat.unit.isSome && loop.unit ≠ stat.unit) ||
        loop.month ≠ some stat.month) = true := by simp [changes]
    have same : ¬ (loop.create stat).month ≠ some stat.month := not_not.mpr rfl
    rw [if_pos changes, if_pos starts]
    dsimp only
    rw [if_neg same]
    rfl
  · rw [if_neg changes]
    dsimp only
    by_cases later : loop.month ≠ some stat.month
    · have starts : ((stat.unit.isSome && loop.unit ≠ stat.unit) ||
          loop.month ≠ some stat.month) = true := by simp [later]
      rw [if_pos later, if_pos starts]
      rfl
    · have goes_on : ¬ ((stat.unit.isSome && loop.unit ≠ stat.unit) ||
          loop.month ≠ some stat.month) = true := by simp_all
      have same : stat.unit.or loop.unit = loop.unit := by
        cases here : stat.unit with
        | none => rfl
        | some unit =>
            rw [here] at changes
            by_contra other
            exact changes ⟨rfl, Ne.symm other⟩
      rw [if_neg later, if_neg goes_on, same, not_not.mp later, List.append_nil]

theorem foldl_graphTurn (stats : List (TransactionStat S)) :
    stats.foldl (graphTurn toText dataCategory nameOf) {} =
      { month := stats.getLast?.map (·.month)
        unit := (stats.filterMap (·.unit)).getLast?
        transactions := (sections stats).map (rowOf toText dataCategory nameOf) } := by
  induction stats using List.reverseRecOn with
  | nil => rfl
  | append_singleton stats stat ih =>
      have rows : (Sections.cut startsRow (stats ++ [stat])).map
            (rowOf toText dataCategory nameOf) =
          ((Sections.cut startsRow stats).map (rowOf toText dataCategory nameOf) ++
            if startsRow stats stat then [createRow stat] else []).modifyLast
              (setKeyFigure toText dataCategory nameOf · stat) :=
        Sections.map_cut_concat (fun _ => rfl) (fun _ stat nonempty => rowOf_concat nonempty stat)
          startsRow_nil stats stat
      rw [List.foldl_append, ih, List.foldl_cons, List.foldl_nil, graphTurn_eq, sections,
        sections, rows, List.getLast?_concat, List.filterMap_append, List.getLast?_append]
      congr 1
      cases here : stat.unit <;> simp [here]

/-- **The rows** are those of the sections. -/
theorem convertToGraphData_eq (stats : List (TransactionStat S)) :
    convertToGraphData toText dataCategory nameOf stats =
      (sections stats).map (rowOf toText dataCategory nameOf) := by
  rw [convertToGraphData, foldl_graphTurn]

end StatisticService

end EvServer
