import EvServer.Rest.Statistics

/-!
# What graph data comes to

An object is a poor ledger: a property that is set again is overwritten, a name may be that of a
property which is there already, and a row has one unit.  `graphAddsUp_iff` says which statistics
are all in the rows of their units, whatever the totals are.
-/

namespace EvServer

namespace StatisticService

variable {S : Type} {toText : ℚ → String} {dataCategory : StatsDataCategory}
variable {nameOf : S → String} {stats run : List (TransactionStat S)} {stat : TransactionStat S}
variable {unit : Option String} {row : GraphRow}

/-! ## What a row comes to -/

/-- The names that are no totals in a row. -/
def reservedNames : StatsDataCategory → List String
  | .chargingStation => "__proto__" :: GraphRow.ownKeys
  | .user => GraphRow.ownKeys ++ objectPrototype

/-- A row as the loop builds it: every property but its own and those it could inherit is a
number. -/
structure IsGraphRow (row : GraphRow) : Prop where
  nodup : (row.map Prod.fst).Nodup
  number : ∀ key value, row.lookup key = some value → key ∉ GraphRow.ownKeys →
    key ∉ objectPrototype → ∃ amount, value = .number amount

theorem lookup_assign_of_ne {key key' : String} (other : key' ≠ key) (value : GraphValue) :
    (row.assign key value).lookup key' = row.lookup key' := by
  unfold GraphRow.assign
  split
  · rfl
  · exact KeyedList.lookup_upsert_of_ne other

theorem lookup_assign_self {key : String} (own : key ≠ "__proto__") (value : GraphValue) :
    (row.assign key value).lookup key = some value := by
  rw [GraphRow.assign, if_neg own, KeyedList.lookup_upsert_self]

/-- The total of a name is what an assignment changes. -/
theorem total_assign {key : String} (own : key ≠ "__proto__") (named : key ∉ GraphRow.ownKeys)
    (value : GraphValue) :
    (row.assign key value).total =
      row.total + value.amount - ((row.lookup key).map GraphValue.amount).getD 0 := by
  rw [GraphRow.assign, if_neg own, GraphRow.total, KeyedList.sum_map_upsert, GraphRow.total]
  simp only [named, if_false]

theorem nodup_assign {key : String} {value : GraphValue} (nodup : (row.map Prod.fst).Nodup) :
    ((row.assign key value).map Prod.fst).Nodup := by
  unfold GraphRow.assign
  split
  · exact nodup
  · exact KeyedList.nodup_keys_upsert nodup

/-- What becomes of the property that the statistics are set in. -/
def keyFigure (toText : ℚ → String) (dataCategory : StatsDataCategory) (row : GraphRow)
    (name : String) (total : ℚ) : GraphValue :=
  match dataCategory with
  | .chargingStation => .number total
  | .user => ((row.property name).map (·.add toText total)).getD (.number total)

theorem setKeyFigure_eq (row : GraphRow) (stat : TransactionStat S) :
    setKeyFigure toText dataCategory nameOf row stat = row.assign (nameOf stat.subject)
      (keyFigure toText dataCategory row (nameOf stat.subject) stat.total) := by
  cases dataCategory with
  | chargingStation => rfl
  | user =>
      unfold setKeyFigure keyFigure
      dsimp only
      cases row.property (nameOf stat.subject) <;> rfl

theorem lookup_setKeyFigure_of_ne {key : String} (other : key ≠ nameOf stat.subject) :
    (setKeyFigure toText dataCategory nameOf row stat).lookup key = row.lookup key := by
  rw [setKeyFigure_eq, lookup_assign_of_ne other]

theorem not_mem_of_not_reserved {name : String} (named : name ∉ reservedNames dataCategory) :
    name ≠ "__proto__" ∧ name ∉ GraphRow.ownKeys ∧
      (dataCategory = .user → name ∉ objectPrototype) := by
  cases dataCategory with
  | chargingStation =>
      rw [reservedNames, List.mem_cons, not_or] at named
      exact ⟨named.1, named.2, fun user => by cases user⟩
  | user =>
      rw [reservedNames, List.mem_append, not_or] at named
      refine ⟨fun proto => named.2 ?_, named.1, fun _ => named.2⟩
      rw [proto]
      decide

/-- The key figure of a name that is none of the reserved ones is a number. -/
theorem keyFigure_of_not_reserved (isRow : IsGraphRow row) {name : String}
    (named : name ∉ reservedNames dataCategory)
    (fresh : dataCategory = .chargingStation → row.lookup name = none) (total : ℚ) :
    keyFigure toText dataCategory row name total =
      .number (((row.lookup name).map GraphValue.amount).getD 0 + total) := by
  obtain ⟨-, notOwn, ofUser⟩ := not_mem_of_not_reserved named
  cases dataCategory with
  | chargingStation =>
      rw [fresh rfl, Option.map_none, Option.getD_none, zero_add]
      rfl
  | user =>
      have own : row.property name = row.lookup name := by
        rw [GraphRow.property, if_neg (ofUser rfl), Option.or_none]
      unfold keyFigure
      dsimp only
      rw [own]
      cases here : row.lookup name with
      | none => simp
      | some value =>
          obtain ⟨amount, rfl⟩ := isRow.number name value here notOwn (ofUser rfl)
          rfl

theorem total_setKeyFigure (isRow : IsGraphRow row)
    (named : nameOf stat.subject ∉ reservedNames dataCategory)
    (fresh : dataCategory = .chargingStation → row.lookup (nameOf stat.subject) = none) :
    (setKeyFigure toText dataCategory nameOf row stat).total = row.total + stat.total := by
  obtain ⟨own, notOwn, -⟩ := not_mem_of_not_reserved named
  rw [setKeyFigure_eq, total_assign own notOwn, keyFigure_of_not_reserved isRow named fresh]
  dsimp only [GraphValue.amount]
  ring

theorem IsGraphRow.setKeyFigure (isRow : IsGraphRow row)
    (named : nameOf stat.subject ∉ reservedNames dataCategory)
    (fresh : dataCategory = .chargingStation → row.lookup (nameOf stat.subject) = none) :
    IsGraphRow (setKeyFigure toText dataCategory nameOf row stat) := by
  rw [setKeyFigure_eq, keyFigure_of_not_reserved isRow named fresh]
  refine ⟨nodup_assign isRow.nodup, fun key value here notOwn notInherited => ?_⟩
  by_cases same : key = nameOf stat.subject
  · rw [same, lookup_assign_self (not_mem_of_not_reserved named).1, Option.some.injEq] at here
    exact ⟨_, here.symm⟩
  · rw [lookup_assign_of_ne same] at here
    exact isRow.number key value here notOwn notInherited

/-- **The total of a row** is the sum of the totals that are set in it. -/
theorem total_setAll (isRow : IsGraphRow row)
    (named : ∀ stat ∈ run, nameOf stat.subject ∉ reservedNames dataCategory)
    (once : dataCategory = .chargingStation → (run.map (nameOf ·.subject)).Nodup)
    (fresh : dataCategory = .chargingStation →
      ∀ stat ∈ run, row.lookup (nameOf stat.subject) = none) :
    (setAll toText dataCategory nameOf row run).total =
      row.total + (run.map (·.total)).sum := by
  induction run generalizing row with
  | nil => simp [setAll]
  | cons stat rest ih =>
      rw [List.forall_mem_cons] at named
      simp only [List.map_cons, List.nodup_cons] at once
      have freshHere := fun station => (List.forall_mem_cons.mp (fresh station)).1
      have later (station : dataCategory = .chargingStation) (other : TransactionStat S)
          (mem : other ∈ rest) :
          (setKeyFigure toText dataCategory nameOf row stat).lookup (nameOf other.subject) =
            none := by
        rw [lookup_setKeyFigure_of_ne]
        · exact (List.forall_mem_cons.mp (fresh station)).2 other mem
        · intro same
          exact (once station).1 (same ▸ List.mem_map_of_mem mem)
      rw [setAll, List.foldl_cons, ← setAll,
        ih (isRow.setKeyFigure named.1 freshHere) named.2 (fun station => (once station).2) later,
        total_setKeyFigure isRow named.1 freshHere, List.map_cons, List.sum_cons, add_assoc]

theorem lookup_setAll_of_ne {key : String} (other : ∀ stat ∈ run, key ≠ nameOf stat.subject) :
    (setAll toText dataCategory nameOf row run).lookup key = row.lookup key := by
  induction run generalizing row with
  | nil => rfl
  | cons stat rest ih =>
      rw [List.forall_mem_cons] at other
      rw [setAll, List.foldl_cons, ← setAll, ih other.2, lookup_setKeyFigure_of_ne other.1]

/-! ### New rows -/

theorem createRow_eq (stat : TransactionStat S) :
    createRow stat = ("month", .number (stat.month - 1)) ::
      (stat.unit.map fun unit => ("unit", GraphValue.text unit)).toList := by
  unfold createRow
  cases stat.unit <;> rfl

theorem lookup_createRow {key : String} (named : key ∉ GraphRow.ownKeys) :
    (createRow stat).lookup key = none := by
  rw [createRow_eq, List.lookup_eq_none_iff]
  rw [GraphRow.ownKeys, List.mem_cons, List.mem_singleton, not_or] at named
  intro entry mem
  rcases List.mem_cons.mp mem with rfl | ofUnit
  · exact bne_iff_ne.mpr named.1
  · obtain ⟨unit, -, rfl⟩ := Option.map_eq_some_iff.mp (Option.mem_toList.mp ofUnit)
    exact bne_iff_ne.mpr named.2

theorem isOf_createRow (stat : TransactionStat S) : (createRow stat).IsOf stat.unit := by
  rw [GraphRow.IsOf, createRow_eq]
  cases stat.unit <;> rfl

theorem total_createRow (stat : TransactionStat S) : (createRow stat).total = 0 := by
  rw [createRow_eq]
  cases stat.unit <;> simp [GraphRow.total, GraphRow.ownKeys]

theorem nodup_createRow (stat : TransactionStat S) : ((createRow stat).map Prod.fst).Nodup := by
  rw [createRow_eq]
  cases stat.unit <;> simp

theorem isGraphRow_createRow (stat : TransactionStat S) : IsGraphRow (createRow stat) where
  nodup := nodup_createRow stat
  number key value here notOwn _ := by
    rw [lookup_createRow notOwn] at here
    cases here

/-! ### Rows without totals -/

/-- Apart from the property of one name, all the totals in a row are zero; what could be
inherited is a text. -/
structure ZeroBut (dataCategory : StatsDataCategory) (except : Option String) (row : GraphRow) :
    Prop where
  nodup : (row.map Prod.fst).Nodup
  zero : ∀ key value, row.lookup key = some value → key ∉ GraphRow.ownKeys → some key ≠ except →
    value.amount = 0
  text : dataCategory = .user → ∀ key value, row.lookup key = some value →
    key ∈ objectPrototype → ∃ text, value = .text text
  proto : row.lookup "__proto__" = none

theorem ZeroBut.total_eq_zero (zero : ZeroBut dataCategory none row) : row.total = 0 := by
  refine List.sum_eq_zero fun amount mem => ?_
  obtain ⟨⟨key, value⟩, entry, rfl⟩ := List.mem_map.mp mem
  dsimp only
  split
  · rfl
  · rename_i notOwn
    refine zero.zero key value ?_ notOwn (by simp)
    exact (KeyedList.mem_iff_lookup_eq_some zero.nodup).mp entry

variable {except : Option String}

/-- Another zero does not change a zero. -/
theorem amount_keyFigure_zero {name : String} (zero : ZeroBut dataCategory except row)
    (notOwn : name ∉ GraphRow.ownKeys) (here : some name ≠ except) :
    (keyFigure toText dataCategory row name 0).amount = 0 := by
  cases dataCategory with
  | chargingStation => rfl
  | user =>
      unfold keyFigure GraphRow.property
      dsimp only
      cases own : row.lookup name with
      | some value =>
          have nothing := zero.zero name value own notOwn here
          rw [Option.some_or, Option.map_some, Option.getD_some]
          cases value with
          | number amount => exact (add_zero amount).trans nothing
          | text => rfl
      | none =>
          rw [Option.none_or]
          split <;> rfl

/-- What a number is added to that is inherited is a text. -/
theorem text_keyFigure {name : String} (total : ℚ) (zero : ZeroBut .user except row)
    (inherited : name ∈ objectPrototype) :
    ∃ text, keyFigure toText .user row name total = .text text := by
  unfold keyFigure GraphRow.property
  dsimp only
  rw [if_pos inherited]
  cases own : row.lookup name with
  | some value =>
      obtain ⟨text, rfl⟩ := zero.text rfl name value own inherited
      exact ⟨_, rfl⟩
  | none => exact ⟨_, rfl⟩

/-- What stays zero when statistics are set. -/
theorem ZeroBut.setKeyFigure {except' : Option String} (zero : ZeroBut dataCategory except row)
    (others : ∀ key, some key ≠ except' → key ≠ nameOf stat.subject → some key ≠ except)
    (here : nameOf stat.subject ∉ GraphRow.ownKeys → nameOf stat.subject ≠ "__proto__" →
      some (nameOf stat.subject) ≠ except' →
      (keyFigure toText dataCategory row (nameOf stat.subject) stat.total).amount = 0) :
    ZeroBut dataCategory except'
      (StatisticService.setKeyFigure toText dataCategory nameOf row stat) := by
  rw [setKeyFigure_eq]
  by_cases proto : nameOf stat.subject = "__proto__"
  · rw [GraphRow.assign, if_pos proto]
    refine ⟨zero.nodup, fun key value found notOwn exempt => ?_, zero.text, zero.proto⟩
    refine zero.zero key value found notOwn (others key exempt fun same => ?_)
    rw [same, proto, zero.proto] at found
    cases found
  · refine ⟨nodup_assign zero.nodup, fun key value found notOwn exempt => ?_,
      fun user key value found inherited => ?_, ?_⟩
    · by_cases same : key = nameOf stat.subject
      · subst same
        rw [lookup_assign_self proto, Option.some.injEq] at found
        rw [← found]
        exact here notOwn proto exempt
      · rw [lookup_assign_of_ne same] at found
        exact zero.zero key value found notOwn (others key exempt same)
    · by_cases same : key = nameOf stat.subject
      · subst same user
        rw [lookup_assign_self proto, Option.some.injEq] at found
        rw [← found]
        exact text_keyFigure _ zero inherited
      · rw [lookup_assign_of_ne same] at found
        exact zero.text user key value found inherited
    · rw [lookup_assign_of_ne (Ne.symm proto), zero.proto]

theorem ZeroBut.setAll_of_zero (zero : ZeroBut dataCategory except row)
    (nothing : ∀ stat ∈ run, stat.total = 0) :
    ZeroBut dataCategory except (setAll toText dataCategory nameOf row run) := by
  induction run generalizing row with
  | nil => exact zero
  | cons stat rest ih =>
      rw [List.forall_mem_cons] at nothing
      refine ih (zero.setKeyFigure (fun _ exempt _ => exempt) fun notOwn _ exempt => ?_) nothing.2
      rw [nothing.1]
      exact amount_keyFigure_zero zero notOwn exempt

theorem ZeroBut.setKeyFigure_of_reserved (zero : ZeroBut dataCategory except row)
    (reserved : nameOf stat.subject ∈ reservedNames dataCategory) :
    ZeroBut dataCategory except
      (StatisticService.setKeyFigure toText dataCategory nameOf row stat) := by
  refine zero.setKeyFigure (fun _ exempt _ => exempt) fun notOwn proto _ => ?_
  cases dataCategory with
  | chargingStation =>
      rcases List.mem_cons.mp reserved with same | own
      · exact absurd same proto
      · exact absurd own notOwn
  | user =>
      have inherited := (List.mem_append.mp reserved).resolve_left notOwn
      obtain ⟨text, texts⟩ := text_keyFigure stat.total zero inherited
      rw [texts]
      rfl

/-- A charging station that comes again is overwritten. -/
theorem ZeroBut.setAll_of_overwritten {name : String}
    (zero : ZeroBut .chargingStation (some name) row) (nothing : ∀ stat ∈ run, stat.total = 0)
    (again : name ∈ run.map (nameOf ·.subject)) :
    ZeroBut .chargingStation none (setAll toText .chargingStation nameOf row run) := by
  induction run generalizing row with
  | nil => cases again
  | cons stat rest ih =>
      rw [List.forall_mem_cons] at nothing
      by_cases here : name = nameOf stat.subject
      · have overwritten : ZeroBut .chargingStation none
            (StatisticService.setKeyFigure toText .chargingStation nameOf row stat) :=
          zero.setKeyFigure (fun key _ other same => other ((Option.some.inj same).trans here))
            fun _ _ _ => nothing.1
        exact overwritten.setAll_of_zero nothing.2
      · rw [List.map_cons, List.mem_cons] at again
        refine ih (zero.setKeyFigure (fun _ exempt _ => exempt) fun _ _ _ => nothing.1)
          nothing.2 (again.resolve_left here)

theorem zeroBut_createRow (stat : TransactionStat S) :
    ZeroBut dataCategory none (createRow stat) where
  nodup := nodup_createRow stat
  zero key value here notOwn _ := by
    rw [lookup_createRow notOwn] at here
    cases here
  text _ key value here inherited := by
    have notOwn : key ∉ GraphRow.ownKeys := by
      intro own
      revert inherited
      rcases List.mem_cons.mp own with rfl | own
      · decide
      · rw [List.mem_singleton.mp own]
        decide
    rw [lookup_createRow notOwn] at here
    cases here
  proto := lookup_createRow (by decide)

theorem rowOf_append (before behind : List (TransactionStat S)) (stat : TransactionStat S) :
    ∃ first : TransactionStat S, rowOf toText dataCategory nameOf (before ++ stat :: behind) =
      setAll toText dataCategory nameOf
        (setKeyFigure toText dataCategory nameOf
          (setAll toText dataCategory nameOf (createRow first) before) stat) behind := by
  have set (first : TransactionStat S) (run : List (TransactionStat S))
      (whole : run = before ++ stat :: behind) :
      setAll toText dataCategory nameOf (createRow first) run =
        setAll toText dataCategory nameOf (setKeyFigure toText dataCategory nameOf
          (setAll toText dataCategory nameOf (createRow first) before) stat) behind := by
    rw [whole, setAll, List.foldl_append]
    rfl
  cases whole : before ++ stat :: behind with
  | nil => exact absurd whole (List.append_ne_nil_of_right_ne_nil _ (List.cons_ne_nil _ _))
  | cons first rest => exact ⟨first, set first _ whole.symm⟩

/-- **A total that counts** has a name of its own, and is not overwritten. -/
theorem of_total_rowOf_ne_zero {before behind : List (TransactionStat S)}
    (counts : (rowOf toText dataCategory nameOf (before ++ stat :: behind)).total ≠ 0)
    (nothing : ∀ other ∈ before ++ behind, other.total = 0) :
    nameOf stat.subject ∉ reservedNames dataCategory ∧
      (dataCategory = .chargingStation →
        nameOf stat.subject ∉ behind.map (nameOf ·.subject)) := by
  obtain ⟨first, built⟩ : ∃ first : TransactionStat S, _ = setAll toText dataCategory nameOf
    (setKeyFigure toText dataCategory nameOf
      (setAll toText dataCategory nameOf (createRow first) before) stat) behind :=
    rowOf_append before behind stat
  rw [List.forall_mem_append] at nothing
  rw [built] at counts
  have started : ZeroBut dataCategory none
      (setAll toText dataCategory nameOf (createRow first) before) :=
    (zeroBut_createRow first).setAll_of_zero nothing.1
  constructor
  · intro reserved
    exact counts ((started.setKeyFigure_of_reserved reserved).setAll_of_zero
      nothing.2).total_eq_zero
  · rintro rfl again
    refine counts (ZeroBut.setAll_of_overwritten ?_ nothing.2 again).total_eq_zero
    exact started.setKeyFigure (fun _ _ _ => by simp) fun _ _ exempt => absurd rfl exempt

theorem total_rowOf_of_zero (nothing : ∀ stat ∈ run, stat.total = 0) :
    (rowOf toText dataCategory nameOf run).total = 0 := by
  cases run with
  | nil => rfl
  | cons first rest => exact ((zeroBut_createRow first).setAll_of_zero nothing).total_eq_zero

/-! ## Conservation -/

/-- Statistics that are the same up to their totals. -/
def SameButTotals (stats stats' : List (TransactionStat S)) : Prop :=
  stats.map (·.withTotal 0) = stats'.map (·.withTotal 0)

/-- Each unit comes to the same in the rows as in the statistics. -/
def GraphAddsUp (toText : ℚ → String) (dataCategory : StatsDataCategory) (nameOf : S → String)
    (stats : List (TransactionStat S)) : Prop :=
  ∀ unit, graphTotal unit (convertToGraphData toText dataCategory nameOf stats) =
    unitTotal unit stats

/-- Statistics that can be put in one row. -/
structure FitsRow (dataCategory : StatsDataCategory) (nameOf : S → String)
    (run : List (TransactionStat S)) : Prop where
  named : ∀ stat ∈ run, nameOf stat.subject ∉ reservedNames dataCategory
  unit : ∀ stat ∈ run, ∀ other ∈ run, stat.unit = other.unit
  once : dataCategory = .chargingStation → (run.map (nameOf ·.subject)).Nodup

theorem unitTotal_cons (unit : Option String) (stat : TransactionStat S)
    (stats : List (TransactionStat S)) :
    unitTotal unit (stat :: stats) =
      (if stat.unit = unit then stat.total else 0) + unitTotal unit stats := by
  rw [unitTotal, List.map_cons, List.sum_cons]
  rfl

theorem unitTotal_append (unit : Option String) (stats stats' : List (TransactionStat S)) :
    unitTotal unit (stats ++ stats') = unitTotal unit stats + unitTotal unit stats' := by
  rw [unitTotal, List.map_append, List.sum_append]
  rfl

theorem unitTotal_of_zero (nothing : ∀ stat ∈ run, stat.total = 0) : unitTotal unit run = 0 := by
  refine List.sum_eq_zero fun amount mem => ?_
  obtain ⟨stat, here, rfl⟩ := List.mem_map.mp mem
  rw [nothing stat here, ite_self]

theorem total_of_mem_map_withTotal (totals : ℚ) :
    ∀ stat ∈ run.map (·.withTotal totals), stat.total = totals :=
  List.forall_mem_map.mpr fun _ _ => rfl

/-- What statistics come to of which one only has a total. -/
theorem unitTotal_single (unit : Option String) (before behind : List (TransactionStat S))
    (stat : TransactionStat S) :
    unitTotal unit (before.map (·.withTotal 0) ++
      stat.withTotal 1 :: behind.map (·.withTotal 0)) = if stat.unit = unit then 1 else 0 := by
  rw [unitTotal_append, unitTotal_cons, unitTotal_of_zero (total_of_mem_map_withTotal 0),
    unitTotal_of_zero (total_of_mem_map_withTotal 0), zero_add, add_zero]
  rfl

theorem unitTotal_of_unit (all : ∀ stat ∈ run, stat.unit = unit) :
    unitTotal unit run = (run.map (·.total)).sum := by
  rw [unitTotal]
  exact congrArg List.sum (List.map_congr_left fun stat mem => if_pos (all stat mem))

theorem unitTotal_of_others (others : ∀ stat ∈ run, stat.unit ≠ unit) :
    unitTotal unit run = 0 := by
  refine List.sum_eq_zero fun amount mem => ?_
  obtain ⟨stat, here, rfl⟩ := List.mem_map.mp mem
  exact if_neg (others stat here)

/-- A row is of the unit of the statistics that it has been created for. -/
theorem isOf_rowOf_iff (unit : Option String)
    (named : ∀ stat ∈ run, nameOf stat.subject ∉ reservedNames dataCategory)
    (nonempty : run ≠ []) :
    (rowOf toText dataCategory nameOf run).IsOf unit ↔ run.head?.map (·.unit) = some unit := by
  cases run with
  | nil => exact absurd rfl nonempty
  | cons first rest =>
      have own : ∀ stat ∈ first :: rest, "unit" ≠ nameOf stat.subject := fun stat mem same =>
        (not_mem_of_not_reserved (named stat mem)).2.1 (by rw [← same]; decide)
      rw [rowOf, GraphRow.IsOf, lookup_setAll_of_ne own, isOf_createRow, List.head?_cons,
        Option.map_some, Option.some.injEq]
      exact (Option.map_injective fun _ _ same => GraphValue.text.inj same).eq_iff

theorem FitsRow.total_rowOf (fits : FitsRow dataCategory nameOf run) (nonempty : run ≠ []) :
    (if (rowOf toText dataCategory nameOf run).IsOf unit then
        (rowOf toText dataCategory nameOf run).total else 0) = unitTotal unit run := by
  cases run with
  | nil => exact absurd rfl nonempty
  | cons first rest =>
      have ofUnit : (rowOf toText dataCategory nameOf (first :: rest)).IsOf unit ↔ _ :=
        isOf_rowOf_iff unit fits.named nonempty
      rw [List.head?_cons, Option.map_some, Option.some.injEq] at ofUnit
      by_cases same : first.unit = unit
      · have fresh (_ : dataCategory = .chargingStation) : ∀ stat ∈ first :: rest,
            (createRow first).lookup (nameOf stat.subject) = none := fun stat mem =>
          lookup_createRow (not_mem_of_not_reserved (fits.named stat mem)).2.1
        rw [if_pos (ofUnit.mpr same), rowOf, total_setAll (isGraphRow_createRow first) fits.named
          fits.once fresh, total_createRow, zero_add, unitTotal_of_unit]
        exact fun stat mem => (fits.unit stat mem first List.mem_cons_self).trans same
      · rw [if_neg (mt ofUnit.mp same), unitTotal_of_others]
        exact fun stat mem equal =>
          same ((fits.unit first List.mem_cons_self stat mem).trans equal)

/-- **Nothing is lost** when the statistics fit in their rows. -/
theorem graphAddsUp_of_fits (fits : ∀ run ∈ sections stats, FitsRow dataCategory nameOf run) :
    GraphAddsUp toText dataCategory nameOf stats := by
  intro unit
  have runs (runs : List (List (TransactionStat S)))
      (fits : ∀ run ∈ runs, FitsRow dataCategory nameOf run ∧ run ≠ []) :
      graphTotal unit (runs.map (rowOf toText dataCategory nameOf)) =
        unitTotal unit runs.flatten := by
    induction runs with
    | nil => rfl
    | cons run rest ih =>
        rw [List.forall_mem_cons] at fits
        have others := ih fits.2
        rw [graphTotal] at others ⊢
        rw [List.map_cons, List.map_cons, List.sum_cons, others,
          fits.1.1.total_rowOf fits.1.2, List.flatten_cons, unitTotal_append]
  rw [convertToGraphData_eq, runs, flatten_sections]
  exact fun run mem => ⟨fits run mem, Sections.ne_nil_of_mem_cut mem⟩

theorem sections_map (stats : List (TransactionStat S)) (totals : ℚ) :
    sections (stats.map (·.withTotal totals)) =
      (sections stats).map (List.map (·.withTotal totals)) :=
  Sections.cut_map (startsRow_withTotal totals) stats

/-- Whether statistics fit in their rows does not depend on the totals. -/
theorem fitsRow_map_iff : FitsRow dataCategory nameOf (run.map (·.withTotal 0)) ↔
    FitsRow dataCategory nameOf run := by
  constructor
  · rintro ⟨named, unit, once⟩
    simp only [List.forall_mem_map, List.map_map] at named unit once
    exact ⟨named, unit, once⟩
  · rintro ⟨named, unit, once⟩
    refine ⟨List.forall_mem_map.mpr named, List.forall_mem_map.mpr fun stat mem =>
      List.forall_mem_map.mpr (unit stat mem), fun station => ?_⟩
    rw [List.map_map]
    exact once station

theorem graphTotal_append (unit : Option String) (rows rows' : List GraphRow) :
    graphTotal unit (rows ++ rows') = graphTotal unit rows + graphTotal unit rows' := by
  rw [graphTotal, List.map_append, List.sum_append]
  rfl

theorem graphTotal_cons (unit : Option String) (row : GraphRow) (rows : List GraphRow) :
    graphTotal unit (row :: rows) =
      (if row.IsOf unit then row.total else 0) + graphTotal unit rows := by
  rw [graphTotal, List.map_cons, List.sum_cons]
  rfl

theorem graphTotal_of_zero (unit : Option String) (runs : List (List (TransactionStat S))) :
    graphTotal unit ((runs.map (List.map (·.withTotal 0))).map
      (rowOf toText dataCategory nameOf)) = 0 := by
  induction runs with
  | nil => rfl
  | cons run rest ih =>
      rw [List.map_cons, List.map_cons, graphTotal_cons, ih,
        total_rowOf_of_zero (total_of_mem_map_withTotal 0), ite_self, add_zero]

/-- Every total of the statistics in a section counts, in the row of its unit. -/
theorem counts_of_graphAddsUp {before behind : List (TransactionStat S)}
    (addsUp : ∀ stats', SameButTotals stats stats' →
      GraphAddsUp toText dataCategory nameOf stats')
    (mem : before ++ stat :: behind ∈ sections stats) :
    let run := before.map (·.withTotal 0) ++ stat.withTotal 1 :: behind.map (·.withTotal 0)
    (rowOf toText dataCategory nameOf run).IsOf stat.unit ∧
      (rowOf toText dataCategory nameOf run).total ≠ 0 := by
  intro run
  obtain ⟨runs, runs', whole⟩ := List.append_of_mem mem
  -- All the other totals are zero.
  let others : List (List (TransactionStat S)) → List (List (TransactionStat S)) :=
    List.map (List.map (·.withTotal 0))
  have alike : (others runs ++ run :: others runs').map (List.map (·.withTotal 0)) =
      (sections stats).map (List.map (·.withTotal 0)) := by
    have again (run : List (TransactionStat S)) (totals : ℚ) :
        (run.map (·.withTotal totals)).map (·.withTotal 0) = run.map (·.withTotal 0) := by
      rw [List.map_map]
      rfl
    rw [whole]
    simp only [others, run, List.map_append, List.map_cons, List.map_map, Function.comp_def,
      again]
    rfl
  have cut : sections (others runs ++ run :: others runs').flatten =
      others runs ++ run :: others runs' :=
    Sections.cut_flatten startsRow_nil (startsRow_withTotal 0) alike
  have same : SameButTotals stats (others runs ++ run :: others runs').flatten := by
    rw [SameButTotals, List.map_flatten, alike, ← List.map_flatten, flatten_sections]
  have one : unitTotal stat.unit run = 1 := by
    rw [unitTotal_single, if_pos rfl]
  have none (runs : List (List (TransactionStat S))) :
      unitTotal stat.unit (others runs).flatten = 0 := by
    rw [← List.map_flatten]
    exact unitTotal_of_zero (total_of_mem_map_withTotal 0)
  have total := addsUp _ same stat.unit
  rw [convertToGraphData_eq, cut, List.map_append, List.map_cons, graphTotal_append,
    graphTotal_cons, graphTotal_of_zero, graphTotal_of_zero, List.flatten_append,
    List.flatten_cons, unitTotal_append, unitTotal_append, none, none, one] at total
  by_cases ofUnit : (rowOf toText dataCategory nameOf run).IsOf stat.unit
  · rw [if_pos ofUnit] at total
    exact ⟨ofUnit, fun zero => by rw [zero] at total; norm_num at total⟩
  · rw [if_neg ofUnit] at total
    norm_num at total

section Fits

variable (addsUp : ∀ stats', SameButTotals stats stats' →
  GraphAddsUp toText dataCategory nameOf stats')
include addsUp

/-- When every total counts, statistics have a name of their own and are not overwritten. -/
theorem not_reserved_of_graphAddsUp {before behind : List (TransactionStat S)}
    (mem : before ++ stat :: behind ∈ sections stats) :
    nameOf stat.subject ∉ reservedNames dataCategory ∧
      (dataCategory = .chargingStation →
        nameOf stat.subject ∉ behind.map (nameOf ·.subject)) := by
  obtain ⟨named, once⟩ := of_total_rowOf_ne_zero (counts_of_graphAddsUp addsUp mem).2
    (List.forall_mem_append.mpr ⟨total_of_mem_map_withTotal 0, total_of_mem_map_withTotal 0⟩)
  refine ⟨named, fun station again => once station ?_⟩
  rw [List.map_map]
  exact again

theorem forall_not_reserved_of_graphAddsUp (mem : run ∈ sections stats) :
    ∀ stat ∈ run, nameOf stat.subject ∉ reservedNames dataCategory := by
  intro stat here
  obtain ⟨before, behind, rfl⟩ := List.append_of_mem here
  exact (not_reserved_of_graphAddsUp addsUp mem).1

/-- When every total counts, statistics are of the unit that their row has been created for. -/
theorem head_unit_of_graphAddsUp (mem : run ∈ sections stats) (here : stat ∈ run) :
    run.head?.map (·.unit) = some stat.unit := by
  have named := forall_not_reserved_of_graphAddsUp addsUp mem
  obtain ⟨before, behind, rfl⟩ := List.append_of_mem here
  have ofUnit := (counts_of_graphAddsUp addsUp mem).1
  have namedRun : ∀ other ∈ before.map (·.withTotal 0) ++
      stat.withTotal 1 :: behind.map (·.withTotal 0),
      nameOf other.subject ∉ reservedNames dataCategory := by
    rw [List.forall_mem_append, List.forall_mem_cons] at named ⊢
    exact ⟨List.forall_mem_map.mpr named.1, named.2.1, List.forall_mem_map.mpr named.2.2⟩
  rw [isOf_rowOf_iff _ namedRun (by simp)] at ofUnit
  rw [← ofUnit]
  cases before <;> rfl

/-- When every total counts, the statistics of a section fit in its row. -/
theorem fitsRow_of_graphAddsUp (mem : run ∈ sections stats) :
    FitsRow dataCategory nameOf run where
  named := forall_not_reserved_of_graphAddsUp addsUp mem
  unit stat here other here' :=
    Option.some.inj ((head_unit_of_graphAddsUp addsUp mem here).symm.trans
      (head_unit_of_graphAddsUp addsUp mem here'))
  once station := by
    have suffix (rest before : List (TransactionStat S)) (place : run = before ++ rest) :
        (rest.map (nameOf ·.subject)).Nodup := by
      induction rest generalizing before with
      | nil => exact List.nodup_nil
      | cons stat rest ih =>
          rw [List.map_cons, List.nodup_cons]
          exact ⟨(not_reserved_of_graphAddsUp addsUp (place ▸ mem)).2 station,
            ih (before ++ [stat]) (by rw [place, List.append_assoc]; rfl)⟩
    exact suffix run [] rfl

end Fits

/-- **Which graph data adds up**, whatever the totals are. -/
theorem graphAddsUp_iff (stats : List (TransactionStat S)) :
    (∀ stats', SameButTotals stats stats' → GraphAddsUp toText dataCategory nameOf stats') ↔
      ∀ run ∈ sections stats, FitsRow dataCategory nameOf run := by
  constructor
  · exact fun addsUp run mem => fitsRow_of_graphAddsUp addsUp mem
  · intro fits stats' same
    refine graphAddsUp_of_fits fun run mem => ?_
    have shapes : (sections stats').map (List.map (·.withTotal 0)) =
        (sections stats).map (List.map (·.withTotal 0)) := by
      rw [← sections_map, ← sections_map, same]
    have shape : run.map (·.withTotal 0) ∈
        (sections stats).map (List.map (·.withTotal 0)) := by
      rw [← shapes]
      exact List.mem_map_of_mem mem
    obtain ⟨run', mem', equal⟩ := List.mem_map.mp shape
    rw [← fitsRow_map_iff, ← equal, fitsRow_map_iff]
    exact fits run' mem'

end StatisticService

end EvServer
