import EvServer.Lib.Register

/-!
# The order in which readings of a register are filed

A sheet keeps, per point in time, the date the register had when the last reading of
that time came (`start`) and the amount the register shows after it.  Times stand in
the order in which they were first met.  Sorting a sheet by `start`, and keeping the
order of what starts together, should put an entry with the highest amount last.

It need not: of two entries with the same start the one met first may be raised last.
`RaisesAtNewest` rules this out, and `amount_of_last_sorted` is what it is for.
-/

namespace Register

universe u v

variable {T : Type u} {V : Type v}

/-- One line per point in time; `none` when no reading came at that time. -/
abbrev Sheet (T : Type u) (V : Type v) := List (T × Option (T × V))

/-- The date a line starts at. -/
def startOf (origin : T) (line : T × Option (T × V)) : T := (line.2.map Prod.fst).getD origin

/-! ## Covered lines -/

section Covered

variable [LinearOrder T] {date key : T} {value : V} {sheet : Sheet T V}

/-- Every line is at the amount `value`, or a line behind it is that starts no earlier. -/
def Covered (value : V) : Sheet T V → Prop
  | [] => True
  | (_, none) :: rest => Covered value rest
  | (_, some (start, amount)) :: rest =>
      (amount = value ∨ ∃ line ∈ rest, ∃ start', line.2 = some (start', value) ∧ start ≤ start') ∧
        Covered value rest

/-- No line starts after `date`. -/
def StartsBy (date : T) (sheet : Sheet T V) : Prop :=
  ∀ line ∈ sheet, ∀ start amount, line.2 = some (start, amount) → start ≤ date

theorem covered_cons {line : T × Option (T × V)} (rest : Covered value sheet)
    (here : ∀ start amount, line.2 = some (start, amount) →
      amount = value ∨ ∃ line ∈ sheet, ∃ start', line.2 = some (start', value) ∧ start ≤ start') :
    Covered value (line :: sheet) := by
  obtain ⟨time, _ | ⟨start, amount⟩⟩ := line
  · exact rest
  · exact ⟨here start amount rfl, rest⟩

theorem Covered.tail {line : T × Option (T × V)} (h : Covered value (line :: sheet)) :
    Covered value sheet := by
  obtain ⟨time, _ | ⟨start, amount⟩⟩ := line
  · exact h
  · exact h.2

theorem StartsBy.tail {line : T × Option (T × V)} (h : StartsBy date (line :: sheet)) :
    StartsBy date sheet := fun other mem => h other (List.mem_cons_of_mem line mem)

/-- The line of the key is there after an `upsert`. -/
theorem mem_upsert_self (content : Option (T × V)) (sheet : Sheet T V) :
    (key, content) ∈ KeyedList.upsert key (fun _ => content) sheet := by
  induction sheet with
  | nil => simp
  | cons line rest ih =>
      obtain ⟨time, old⟩ := line
      by_cases h : time = key
      · subst h
        rw [KeyedList.upsert_cons_self]
        exact List.mem_cons_self
      · rw [KeyedList.upsert_cons_of_ne h]
        exact List.mem_cons_of_mem _ ih

/-- A line that is followed by one at the amount that starts no earlier is covered by it,
whichever line that is. -/
theorem covered_cons_upsert {time : T} {old : Option (T × V)} (starts : StartsBy date
    ((time, old) :: sheet))
    (rest : Covered value (KeyedList.upsert key (fun _ => some (date, value)) sheet)) :
    Covered value ((time, old) :: KeyedList.upsert key (fun _ => some (date, value)) sheet) := by
  refine covered_cons rest ?_
  intro start amount hline
  refine Or.inr ⟨(key, some (date, value)), mem_upsert_self _ _, date, rfl, ?_⟩
  exact starts (time, old) List.mem_cons_self start amount hline

/-- A reading that shows the amount all lines are covered at. -/
theorem covered_upsert (starts : StartsBy date sheet) (covered : Covered value sheet) :
    Covered value (KeyedList.upsert key (fun _ => some (date, value)) sheet) := by
  induction sheet with
  | nil => exact ⟨Or.inl rfl, trivial⟩
  | cons line rest ih =>
      obtain ⟨time, old⟩ := line
      by_cases h : time = key
      · subst h
        rw [KeyedList.upsert_cons_self]
        exact ⟨Or.inl rfl, covered.tail⟩
      · rw [KeyedList.upsert_cons_of_ne h]
        exact covered_cons_upsert starts (ih starts.tail covered.tail)

/-- A reading at the time met last, or at a new one, covers all lines. -/
theorem covered_upsert_newest (starts : StartsBy date sheet) (nodup : (sheet.map Prod.fst).Nodup)
    (newest : key ∉ sheet.map Prod.fst ∨ (sheet.map Prod.fst).getLast? = some key) :
    Covered value (KeyedList.upsert key (fun _ => some (date, value)) sheet) := by
  induction sheet with
  | nil => exact ⟨Or.inl rfl, trivial⟩
  | cons line rest ih =>
      obtain ⟨time, old⟩ := line
      rw [List.map_cons, List.nodup_cons] at nodup
      by_cases h : time = key
      · -- The line of the key stands last, so nothing follows it.
        subst h
        have last : rest = [] := by
          rcases newest with fresh | last
          · exact absurd List.mem_cons_self fresh
          · by_contra nonempty
            refine nodup.1 (List.mem_of_getLast? (l := rest.map Prod.fst) ?_)
            rwa [List.map_cons, List.getLast?_cons_of_ne_nil (by simpa using nonempty)] at last
        rw [KeyedList.upsert_cons_self, last]
        exact ⟨Or.inl rfl, trivial⟩
      · rw [KeyedList.upsert_cons_of_ne h]
        refine covered_cons_upsert starts (ih starts.tail nodup.2 ?_)
        rcases newest with fresh | last
        · exact Or.inl fun mem => fresh (List.mem_cons_of_mem _ mem)
        · right
          cases rest with
          | nil => exact absurd (Option.some.inj last) h
          | cons _ _ => simpa using last

/-- A sample that is no reading adds an empty line at most. -/
theorem upsert_join (key : T) (sheet : Sheet T V) :
    KeyedList.upsert key Option.join sheet = sheet ∨
      KeyedList.upsert key Option.join sheet = sheet ++ [(key, none)] := by
  induction sheet with
  | nil => exact Or.inr rfl
  | cons line rest ih =>
      obtain ⟨time, old⟩ := line
      by_cases h : time = key
      · subst h
        exact Or.inl (KeyedList.upsert_cons_self _ _)
      · rw [KeyedList.upsert_cons_of_ne h]
        rcases ih with same | added
        · exact Or.inl (congrArg _ same)
        · exact Or.inr (congrArg _ added)

/-- An empty line at the end changes nothing. -/
theorem covered_append_none (covered : Covered value sheet) :
    Covered value (sheet ++ [(key, none)]) := by
  induction sheet with
  | nil => exact trivial
  | cons line rest ih =>
      rw [List.cons_append]
      obtain ⟨time, _ | ⟨start, amount⟩⟩ := line
      · exact ih covered
      · refine ⟨covered.1.imp id ?_, ih covered.2⟩
        rintro ⟨line, mem, hline⟩
        exact ⟨line, List.mem_append_left _ mem, hline⟩

/-- What covers a line stands behind it. -/
theorem exists_sublist_of_covered (covered : Covered value sheet) {line : T × Option (T × V)}
    (mem : line ∈ sheet) {start : T} {amount : V} (hline : line.2 = some (start, amount)) :
    amount = value ∨ ∃ cover start', List.Sublist [line, cover] sheet ∧
      cover.2 = some (start', value) ∧ start ≤ start' := by
  induction sheet with
  | nil => exact absurd mem List.not_mem_nil
  | cons first rest ih =>
      rcases List.mem_cons.mp mem with rfl | later
      · obtain ⟨time, content⟩ := line
        cases hline
        refine covered.1.imp id ?_
        rintro ⟨cover, hmem, start', hcover, le⟩
        exact ⟨cover, start', List.cons_sublist_cons.mpr (List.singleton_sublist.mpr hmem),
          hcover, le⟩
      · refine (ih covered.tail later).imp id ?_
        rintro ⟨cover, start', sub, hcover, le⟩
        exact ⟨cover, start', sub.cons first, hcover, le⟩

/-- **The last line of a sorted sheet is at the highest amount**, when all lines are
covered at it and none is empty. -/
theorem amount_of_last_sorted (origin : T) (nodup : (sheet.map Prod.fst).Nodup)
    (covered : Covered value sheet) (filled : ∀ line ∈ sheet, line.2.isSome)
    {last : T × Option (T × V)}
    (hlast : (sheet.insertionSort fun a b => startOf origin a ≤ startOf origin b).getLast? =
      some last) :
    ∃ start, last.2 = some (start, value) := by
  have total : Std.Total fun a b : T × Option (T × V) => startOf origin a ≤ startOf origin b :=
    ⟨fun a b => le_total (startOf origin a) (startOf origin b)⟩
  have trans : IsTrans (T × Option (T × V)) fun a b => startOf origin a ≤ startOf origin b :=
    ⟨fun _ _ _ => le_trans⟩
  have mem : last ∈ sheet :=
    (List.mem_insertionSort _).mp (List.mem_of_getLast? hlast)
  obtain ⟨⟨start, amount⟩, hline⟩ := Option.isSome_iff_exists.mp (filled last mem)
  rcases exists_sublist_of_covered covered mem hline with rfl | ⟨cover, start', sub, hcover, le⟩
  · exact ⟨start, hline⟩
  · refine absurd ?_ (KeyedList.not_rel_of_getLast?_insertionSort nodup.of_map hlast sub)
    simpa [startOf, hline, hcover] using le

end Covered

/-! ## Filing samples -/

section Filing

variable [LinearOrder T] [LinearOrder V]

/-- File an admitted sample; `origin` is the date of a mark that has none. -/
def file (origin : T) (mark : Mark T V) (sample : Sample T V) (sheet : Sheet T V) : Sheet T V :=
  KeyedList.upsert sample.time
    (fun old =>
      if sample.isReading then some (mark.time.getD origin, (mark.next sample).value)
      else old.join) sheet

/-- File all samples taken. -/
def fileAll (origin : T) (mark : Mark T V) : List (Sample T V) → Sheet T V → Sheet T V
  | [], sheet => sheet
  | sample :: rest, sheet =>
      if mark.Admits sample then
        fileAll origin (mark.next sample) rest (file origin mark sample sheet)
      else fileAll origin mark rest sheet

/-- The times met, in the order in which they were first met. -/
def meet (time : T) (times : List T) : List T := if time ∈ times then times else times ++ [time]

/-- A reading raises the register only at the time met last, or at a new one. -/
def RaisesAtNewest (mark : Mark T V) : List T → List (Sample T V) → Prop
  | _, [] => True
  | times, sample :: rest =>
      if mark.Admits sample then
        ((mark.next sample).value ≠ mark.value →
            sample.time ∉ times ∨ times.getLast? = some sample.time) ∧
          RaisesAtNewest (mark.next sample) (meet sample.time times) rest
      else RaisesAtNewest mark times rest

instance decidableRaisesAtNewest : (mark : Mark T V) → (times : List T) →
    (samples : List (Sample T V)) → Decidable (RaisesAtNewest mark times samples)
  | _, _, [] => isTrue trivial
  | mark, times, sample :: rest =>
      have := decidableRaisesAtNewest (mark.next sample) (meet sample.time times) rest
      have := decidableRaisesAtNewest mark times rest
      if h : mark.Admits sample then
        decidable_of_iff
          (((mark.next sample).value ≠ mark.value →
              sample.time ∉ times ∨ times.getLast? = some sample.time) ∧
            RaisesAtNewest (mark.next sample) (meet sample.time times) rest)
          (by rw [RaisesAtNewest, if_pos h])
      else decidable_of_iff (RaisesAtNewest mark times rest) (by rw [RaisesAtNewest, if_neg h])

variable {origin date : T} {mark : Mark T V} {sample : Sample T V} {sheet : Sheet T V}

theorem raisesAtNewest_of_no_reading {times : List T} {samples : List (Sample T V)}
    (h : ∀ sample ∈ samples, ¬ sample.isReading) : RaisesAtNewest mark times samples := by
  induction samples generalizing mark times with
  | nil => exact trivial
  | cons sample rest ih =>
      rw [List.forall_mem_cons] at h
      rw [RaisesAtNewest]
      split
      · refine ⟨fun raised => absurd ?_ raised, ih h.2⟩
        cases sample with
        | other _ => rfl
        | reading _ _ => exact absurd rfl h.1
      · exact ih h.2

/-- The first sample alone may be a reading. -/
theorem raisesAtNewest_cons {rest : List (Sample T V)}
    (h : ∀ sample ∈ rest, ¬ sample.isReading) : RaisesAtNewest mark [] (sample :: rest) := by
  rw [RaisesAtNewest]
  split
  · exact ⟨fun _ => .inl List.not_mem_nil, raisesAtNewest_of_no_reading h⟩
  · exact raisesAtNewest_of_no_reading h

theorem keys_file (origin : T) (mark : Mark T V) (sample : Sample T V) (sheet : Sheet T V) :
    (file origin mark sample sheet).map Prod.fst = meet sample.time (sheet.map Prod.fst) :=
  KeyedList.keys_upsert

/-- Where a filed sheet starts. -/
theorem startsBy_file (hdate : mark.time = some date) (starts : StartsBy date sheet) :
    StartsBy date (file origin mark sample sheet) := by
  unfold file
  by_cases isReading : sample.isReading
  · simp only [isReading, if_true, hdate, Option.getD_some]
    refine KeyedList.forall_mem_upsert starts ?_
    rintro start amount ⟨⟩
    exact le_rfl
  · simp only [isReading, Bool.false_eq_true, if_false]
    rcases upsert_join sample.time sheet with same | added
    · rwa [same]
    · rw [added]
      intro line mem start amount hline
      rcases List.mem_append.mp mem with old | new
      · exact starts line old start amount hline
      · rw [List.mem_singleton.mp new] at hline
        cases hline

/-- Filing keeps the lines covered when the register is raised at the newest time only. -/
theorem covered_file (hdate : mark.time = some date) (starts : StartsBy date sheet)
    (nodup : (sheet.map Prod.fst).Nodup) (covered : Covered mark.value sheet)
    (newest : (mark.next sample).value ≠ mark.value →
      sample.time ∉ sheet.map Prod.fst ∨ (sheet.map Prod.fst).getLast? = some sample.time) :
    Covered (mark.next sample).value (file origin mark sample sheet) := by
  unfold file
  by_cases isReading : sample.isReading
  · simp only [isReading, if_true, hdate, Option.getD_some]
    by_cases raises : (mark.next sample).value = mark.value
    · rw [raises]
      exact covered_upsert starts covered
    · exact covered_upsert_newest starts nodup (newest raises)
  · have stays : mark.next sample = mark := by
      cases sample with
      | other _ => rfl
      | reading _ _ => exact absurd rfl isReading
    simp only [isReading, Bool.false_eq_true, if_false, stays]
    rcases upsert_join sample.time sheet with same | added
    · rwa [same]
    · rw [added]
      exact covered_append_none covered

/-- A mark that has a date has a later one after an admitted sample. -/
theorem time_next_of_admits (hdate : mark.time = some date) (admits : mark.Admits sample) :
    ∃ date', (mark.next sample).time = some date' ∧ date ≤ date' := by
  rcases mark.time_next sample with same | moved
  · exact ⟨date, same.trans hdate, le_rfl⟩
  · exact ⟨sample.time, moved, admits date hdate⟩

/-- A mark that has a date ends with one. -/
theorem time_final (hdate : mark.time = some date) (samples : List (Sample T V)) :
    ∃ date', (final mark samples).time = some date' ∧ date ≤ date' := by
  induction samples generalizing mark date with
  | nil => exact ⟨date, hdate, le_rfl⟩
  | cons sample rest ih =>
      by_cases admits : mark.Admits sample
      · rw [final_cons_of_admits admits]
        obtain ⟨between, hbetween, le⟩ := time_next_of_admits hdate admits
        obtain ⟨date', hdate', le'⟩ := ih hbetween
        exact ⟨date', hdate', le.trans le'⟩
      · rw [final_cons_of_not_admits admits]
        exact ih hdate

/-- **Filing a whole list of samples** keeps the lines covered, at the amount of the
final mark. -/
theorem covered_fileAll {samples : List (Sample T V)} (hdate : mark.time = some date)
    (starts : StartsBy date sheet) (nodup : (sheet.map Prod.fst).Nodup)
    (covered : Covered mark.value sheet)
    (newest : RaisesAtNewest mark (sheet.map Prod.fst) samples) :
    Covered (final mark samples).value (fileAll origin mark samples sheet) ∧
      ((fileAll origin mark samples sheet).map Prod.fst).Nodup := by
  induction samples generalizing mark date sheet with
  | nil => exact ⟨covered, nodup⟩
  | cons sample rest ih =>
      rw [RaisesAtNewest] at newest
      by_cases admits : mark.Admits sample
      · rw [if_pos admits, ← keys_file origin mark] at newest
        rw [fileAll, if_pos admits, final_cons_of_admits admits]
        obtain ⟨date', hdate', later⟩ := time_next_of_admits hdate admits
        refine ih hdate' ?_ (KeyedList.nodup_keys_upsert nodup)
          (covered_file hdate starts nodup covered newest.1) newest.2
        intro line mem start amount hline
        exact (startsBy_file hdate starts line mem start amount hline).trans later
      · rw [if_neg admits] at newest
        rw [fileAll, if_neg admits, final_cons_of_not_admits admits]
        exact ih hdate starts nodup covered newest

/-- A line is kept when a sample is filed, and stays filled. -/
theorem lookup_file (origin : T) (mark : Mark T V) (sample : Sample T V) {time : T}
    {content : Option (T × V)} (h : sheet.lookup time = some content) :
    ∃ content', (file origin mark sample sheet).lookup time = some content' ∧
      (content.isSome → content'.isSome) := by
  by_cases same : time = sample.time
  · subst same
    rw [file, KeyedList.lookup_upsert_self, h]
    by_cases isReading : sample.isReading
    · exact ⟨_, rfl, fun _ => by simp [isReading]⟩
    · exact ⟨_, rfl, by simp [isReading]⟩
  · exact ⟨content, by rwa [file, KeyedList.lookup_upsert_of_ne same], id⟩

/-- A line is kept to the end, and stays filled. -/
theorem lookup_fileAll (origin : T) (mark : Mark T V) (samples : List (Sample T V)) {time : T}
    {content : Option (T × V)} (h : sheet.lookup time = some content) :
    ∃ content', (fileAll origin mark samples sheet).lookup time = some content' ∧
      (content.isSome → content'.isSome) := by
  induction samples generalizing mark sheet content with
  | nil => exact ⟨content, h, id⟩
  | cons sample rest ih =>
      rw [fileAll]
      split
      · obtain ⟨between, hbetween, filled⟩ := lookup_file origin mark sample h
        obtain ⟨content', hcontent, filled'⟩ := ih _ hbetween
        exact ⟨content', hcontent, filled' ∘ filled⟩
      · exact ih _ h

/-- The sheet has a line for every sample taken, filled if the sample is a reading. -/
theorem lookup_of_taken (origin : T) (sheet : Sheet T V) {samples : List (Sample T V)}
    (mem : sample ∈ taken mark samples) :
    ∃ content, (fileAll origin mark samples sheet).lookup sample.time = some content ∧
      (sample.isReading → content.isSome) := by
  induction samples generalizing mark sheet with
  | nil => exact absurd mem List.not_mem_nil
  | cons first rest ih =>
      by_cases admits : mark.Admits first
      · rw [fileAll, if_pos admits]
        rw [taken_cons_of_admits admits] at mem
        rcases List.mem_cons.mp mem with rfl | later
        · have here : (file origin mark sample sheet).lookup sample.time = some _ :=
            KeyedList.lookup_upsert_self
          obtain ⟨content, hcontent, filled⟩ :=
            lookup_fileAll origin (mark.next sample) rest here
          refine ⟨content, hcontent, fun isReading => filled ?_⟩
          simp [isReading]
        · exact ih _ later
      · rw [fileAll, if_neg admits]
        rw [taken_cons_of_not_admits admits] at mem
        exact ih _ mem

/-- Nothing is filed when no sample is taken. -/
theorem fileAll_of_taken_eq_nil {samples : List (Sample T V)} (h : taken mark samples = []) :
    fileAll origin mark samples sheet = sheet := by
  induction samples with
  | nil => rfl
  | cons sample rest ih =>
      by_cases admits : mark.Admits sample
      · rw [taken_cons_of_admits admits] at h
        cases h
      · rw [taken_cons_of_not_admits admits] at h
        rw [fileAll, if_neg admits, ih h]

end Filing

end Register
