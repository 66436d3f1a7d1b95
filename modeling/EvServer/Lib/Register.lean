import EvServer.Lib.KeyedList
import Mathlib.Algebra.Order.Group.Defs
import Mathlib.Algebra.Order.Sub.Basic

/-!
# A register that only rises, read at points in time

A meter shows an amount that only rises.  Its reader keeps a `Mark`: the highest
amount it has seen and when.  Samples come in one by one.  One that is dated before
the mark is dropped.  A reading as high as the mark moves it; a lower one, or one that
is no number, leaves it.  Samples of other things are taken but say nothing about the
register.

A book keeps, per point in time, the rise of the reading that came last at it: a
later reading of the same time replaces the entry.  `total_bookAll_eq_iff` says when
the book still adds up to the rise of the register: exactly when every reading that
raised it is the last of its time.
-/

namespace Register

universe u v

variable {T : Type u} {V : Type v}

/-- Something measured at a point in time. -/
inductive Sample (T : Type u) (V : Type v)
  /-- Not of the register. -/
  | other (time : T)
  /-- A reading of the register; `none` when it is no number. -/
  | reading (time : T) (amount : Option V)
  deriving DecidableEq

namespace Sample

/-- When the sample was taken. -/
def time : Sample T V → T
  | other time => time
  | reading time _ => time

/-- The sample is a reading of the register. -/
def isReading : Sample T V → Bool
  | other _ => false
  | reading _ _ => true

/-- The amount read, if any. -/
def amount : Sample T V → Option V
  | other _ => none
  | reading _ amount => amount

end Sample

/-- The highest amount seen and the time of the last reading as high as it. -/
structure Mark (T : Type u) (V : Type v) where
  time : Option T
  value : V
  deriving DecidableEq

namespace Mark

/-- The sample is not dated before the mark. -/
def Admits [LinearOrder T] (mark : Mark T V) (sample : Sample T V) : Prop :=
  ∀ time ∈ mark.time, time ≤ sample.time

instance [LinearOrder T] (mark : Mark T V) (sample : Sample T V) :
    Decidable (mark.Admits sample) :=
  inferInstanceAs (Decidable (∀ time ∈ mark.time, time ≤ sample.time))

variable [LinearOrder V]

/-- The mark after a sample. -/
def next (mark : Mark T V) : Sample T V → Mark T V
  | .other _ => mark
  | .reading _ none => mark
  | .reading time (some amount) => if mark.value ≤ amount then ⟨some time, amount⟩ else mark

/-- The mark is never lowered. -/
theorem value_le_next (mark : Mark T V) (sample : Sample T V) :
    mark.value ≤ (mark.next sample).value := by
  match sample with
  | .other _ => exact le_rfl
  | .reading _ none => exact le_rfl
  | .reading _ (some amount) =>
      by_cases h : mark.value ≤ amount <;> simp [next, h]

/-- The highest amount is the maximum of what was there and what is read. -/
theorem value_next (mark : Mark T V) (sample : Sample T V) :
    (mark.next sample).value = sample.amount.elim mark.value (max mark.value) := by
  match sample with
  | .other _ => rfl
  | .reading _ none => rfl
  | .reading _ (some amount) =>
      by_cases h : mark.value ≤ amount
      · simp [next, h, Sample.amount]
      · simp [next, h, Sample.amount, le_of_not_ge h]

/-- The mark keeps its date or takes that of the sample. -/
theorem time_next (mark : Mark T V) (sample : Sample T V) :
    (mark.next sample).time = mark.time ∨ (mark.next sample).time = some sample.time := by
  match sample with
  | .other _ => exact Or.inl rfl
  | .reading _ none => exact Or.inl rfl
  | .reading time (some amount) =>
      by_cases h : mark.value ≤ amount
      · exact Or.inr (by simp [next, h, Sample.time])
      · exact Or.inl (by simp [next, h])

/-- A reading that is not below the mark moves its date. -/
theorem time_next_of_le {mark : Mark T V} {sample : Sample T V} {amount : V}
    (h : amount ∈ sample.amount) (le : mark.value ≤ amount) :
    (mark.next sample).time = some sample.time := by
  cases sample with
  | other _ => cases h
  | reading time read =>
      cases h
      rw [next, if_pos le]
      rfl

variable [AddCommGroup V]

/-- What a sample adds to the highest amount. -/
def rise (mark : Mark T V) : Sample T V → V
  | .other _ => 0
  | .reading _ none => 0
  | .reading _ (some amount) => if mark.value < amount then amount - mark.value else 0

/-- The mark rises by the rise. -/
theorem value_add_rise (mark : Mark T V) (sample : Sample T V) :
    mark.value + mark.rise sample = (mark.next sample).value := by
  match sample with
  | .other _ => exact add_zero _
  | .reading _ none => exact add_zero _
  | .reading _ (some amount) =>
      rcases lt_trichotomy mark.value amount with h | h | h
      · simp [rise, next, h, h.le]
      · simp [rise, next, h]
      · simp [rise, next, not_lt.mpr h.le, not_le.mpr h]

/-- A sample that is no reading adds nothing. -/
theorem rise_eq_zero_of_not_isReading (mark : Mark T V) {sample : Sample T V}
    (h : ¬ sample.isReading) : mark.rise sample = 0 := by
  cases sample with
  | other _ => rfl
  | reading _ _ => exact absurd rfl h

theorem rise_nonneg [IsOrderedAddMonoid V] (mark : Mark T V) (sample : Sample T V) :
    0 ≤ mark.rise sample := by
  have rises := value_le_next mark sample
  rw [← value_add_rise] at rises
  exact nonneg_of_le_add_right rises

end Mark

/-! ## Runs of samples -/

section Runs

variable [LinearOrder T] [LinearOrder V]

/-- The samples that are not dated before the mark they meet. -/
def taken (mark : Mark T V) : List (Sample T V) → List (Sample T V)
  | [] => []
  | sample :: rest =>
      if mark.Admits sample then sample :: taken (mark.next sample) rest else taken mark rest

/-- The mark after a list of samples. -/
def final (mark : Mark T V) (samples : List (Sample T V)) : Mark T V :=
  (taken mark samples).foldl Mark.next mark

variable {mark : Mark T V} {sample : Sample T V} {rest : List (Sample T V)}

theorem taken_cons_of_admits (h : mark.Admits sample) :
    taken mark (sample :: rest) = sample :: taken (mark.next sample) rest := if_pos h

theorem taken_cons_of_not_admits (h : ¬ mark.Admits sample) :
    taken mark (sample :: rest) = taken mark rest := if_neg h

theorem final_cons_of_admits (h : mark.Admits sample) :
    final mark (sample :: rest) = final (mark.next sample) rest := by
  simp [final, taken_cons_of_admits h]

theorem final_cons_of_not_admits (h : ¬ mark.Admits sample) :
    final mark (sample :: rest) = final mark rest := by
  simp [final, taken_cons_of_not_admits h]

/-- **The mark is the running maximum** of the amounts read by the samples taken. -/
theorem value_final (mark : Mark T V) (samples : List (Sample T V)) :
    (final mark samples).value =
      ((taken mark samples).filterMap Sample.amount).foldl max mark.value := by
  unfold final
  generalize taken mark samples = chosen
  induction chosen generalizing mark with
  | nil => rfl
  | cons sample rest ih =>
      rw [List.foldl_cons, ih, Mark.value_next]
      cases h : sample.amount <;> simp [h]

/-- Samples that are no readings leave the mark where it is. -/
theorem final_eq_of_no_reading {samples : List (Sample T V)}
    (h : ∀ sample ∈ taken mark samples, ¬ sample.isReading) : final mark samples = mark := by
  unfold final
  generalize taken mark samples = chosen at h
  induction chosen with
  | nil => rfl
  | cons sample rest ih =>
      rw [List.forall_mem_cons] at h
      cases sample with
      | other _ => exact ih h.2
      | reading _ _ => exact absurd rfl h.1

theorem mem_of_mem_taken {samples : List (Sample T V)} (h : sample ∈ taken mark samples) :
    sample ∈ samples := by
  induction samples generalizing mark with
  | nil => exact h
  | cons first rest ih =>
      rw [taken] at h
      split at h
      · rcases List.mem_cons.mp h with rfl | later
        · exact List.mem_cons_self
        · exact List.mem_cons_of_mem _ (ih later)
      · exact List.mem_cons_of_mem _ (ih h)

/-- Samples that are all dated before the mark are dropped. -/
theorem taken_eq_nil {samples : List (Sample T V)} (h : ∀ sample ∈ samples, ¬ mark.Admits sample) :
    taken mark samples = [] := by
  induction samples with
  | nil => rfl
  | cons sample rest ih =>
      rw [List.forall_mem_cons] at h
      rw [taken_cons_of_not_admits h.1]
      exact ih h.2

/-- The mark ends with its date or with that of a sample. -/
theorem time_final_cases (mark : Mark T V) (samples : List (Sample T V)) :
    (final mark samples).time = mark.time ∨
      ∃ sample ∈ samples, (final mark samples).time = some sample.time := by
  induction samples generalizing mark with
  | nil => exact .inl rfl
  | cons sample rest ih =>
      by_cases admits : mark.Admits sample
      · rw [final_cons_of_admits admits]
        rcases ih (mark.next sample) with same | ⟨later, mem, time⟩
        · rcases mark.time_next sample with stays | moves
          · exact .inl (same.trans stays)
          · exact .inr ⟨sample, List.mem_cons_self, same.trans moves⟩
        · exact .inr ⟨later, List.mem_cons_of_mem _ mem, time⟩
      · rw [final_cons_of_not_admits admits]
        rcases ih mark with same | ⟨later, mem, time⟩
        · exact .inl same
        · exact .inr ⟨later, List.mem_cons_of_mem _ mem, time⟩

/-- No reading taken is below the mark, and each one is a number. -/
def NeverFalls (mark : Mark T V) : List (Sample T V) → Prop
  | [] => True
  | sample :: rest =>
      if mark.Admits sample then
        (sample.isReading → ∃ amount ∈ sample.amount, mark.value ≤ amount) ∧
          NeverFalls (mark.next sample) rest
      else NeverFalls mark rest

instance decidableNeverFalls : (mark : Mark T V) → (samples : List (Sample T V)) →
    Decidable (NeverFalls mark samples)
  | _, [] => isTrue trivial
  | mark, sample :: rest =>
      have := decidableNeverFalls (mark.next sample) rest
      have := decidableNeverFalls mark rest
      if h : mark.Admits sample then
        decidable_of_iff
          ((sample.isReading → ∃ amount ∈ sample.amount, mark.value ≤ amount) ∧
            NeverFalls (mark.next sample) rest) (by rw [NeverFalls, if_pos h])
      else decidable_of_iff (NeverFalls mark rest) (by rw [NeverFalls, if_neg h])

/-- The samples taken come in order of time, and the register never falls. -/
structure Steady (mark : Mark T V) (samples : List (Sample T V)) : Prop where
  inOrder : (taken mark samples).Pairwise fun sample later => sample.time ≤ later.time
  neverFalls : NeverFalls mark samples

instance (mark : Mark T V) (samples : List (Sample T V)) : Decidable (Steady mark samples) :=
  decidable_of_iff
    ((taken mark samples).Pairwise (fun sample later => sample.time ≤ later.time) ∧
      NeverFalls mark samples) ⟨fun h => ⟨h.1, h.2⟩, fun h => ⟨h.1, h.2⟩⟩

/-- The first of steady samples that is taken comes before the others. -/
theorem Steady.of_admits (steady : Steady mark (sample :: rest)) (admits : mark.Admits sample) :
    (sample.isReading → (mark.next sample).time = some sample.time) ∧
      (∀ later ∈ taken (mark.next sample) rest, sample.time ≤ later.time) ∧
      Steady (mark.next sample) rest := by
  obtain ⟨inOrder, neverFalls⟩ := steady
  rw [taken_cons_of_admits admits, List.pairwise_cons] at inOrder
  rw [NeverFalls, if_pos admits] at neverFalls
  refine ⟨?_, inOrder.1, inOrder.2, neverFalls.2⟩
  intro isReading
  obtain ⟨amount, mem, le⟩ := neverFalls.1 isReading
  exact Mark.time_next_of_le mem le

theorem Steady.of_not_admits (steady : Steady mark (sample :: rest))
    (past : ¬ mark.Admits sample) : Steady mark rest := by
  obtain ⟨inOrder, neverFalls⟩ := steady
  rw [taken_cons_of_not_admits past] at inOrder
  rw [NeverFalls, if_neg past] at neverFalls
  exact ⟨inOrder, neverFalls⟩

/-- A running maximum is no lower than where it starts. -/
theorem le_foldl_max (start : V) (amounts : List V) : start ≤ amounts.foldl max start := by
  induction amounts generalizing start with
  | nil => exact le_rfl
  | cons amount rest ih => exact (le_max_left start amount).trans (ih _)

/-- A running maximum is no lower than what it has met. -/
theorem le_foldl_max_of_mem {start amount : V} {amounts : List V} (mem : amount ∈ amounts) :
    amount ≤ amounts.foldl max start := by
  induction amounts generalizing start with
  | nil => cases mem
  | cons first rest ih =>
      rcases List.mem_cons.mp mem with rfl | later
      · exact (le_max_right start amount).trans (le_foldl_max _ rest)
      · exact ih later

end Runs

/-! ## Booking the rises by time -/

section Book

variable [LinearOrder T] [LinearOrder V] [AddCommGroup V]

/-- Book an admitted sample: a reading replaces the entry of its time by its rise,
any other sample leaves it. -/
def book (mark : Mark T V) (sample : Sample T V) (entries : List (T × V)) : List (T × V) :=
  KeyedList.upsert sample.time
    (fun old => if sample.isReading then mark.rise sample else old.getD 0) entries

/-- Book all samples taken. -/
def bookAll (mark : Mark T V) : List (Sample T V) → List (T × V) → List (T × V)
  | [], entries => entries
  | sample :: rest, entries =>
      if mark.Admits sample then bookAll (mark.next sample) rest (book mark sample entries)
      else bookAll mark rest entries

/-- What a book adds up to. -/
def total (entries : List (T × V)) : V := (entries.map Prod.snd).sum

/-- The amount booked at a time. -/
def amountAt (entries : List (T × V)) (time : T) : V := (entries.lookup time).getD 0

/-- Every reading that raises the register is the last reading taken of its time. -/
def RaisesStandLast (mark : Mark T V) : List (Sample T V) → Prop
  | [] => True
  | sample :: rest =>
      if mark.Admits sample then
        (mark.rise sample ≠ 0 →
            ∀ later ∈ taken (mark.next sample) rest,
              later.isReading → later.time ≠ sample.time) ∧
          RaisesStandLast (mark.next sample) rest
      else RaisesStandLast mark rest

instance decidableRaisesStandLast :
    (mark : Mark T V) → (samples : List (Sample T V)) → Decidable (RaisesStandLast mark samples)
  | _, [] => isTrue trivial
  | mark, sample :: rest =>
      have := decidableRaisesStandLast (mark.next sample) rest
      have := decidableRaisesStandLast mark rest
      if h : mark.Admits sample then
        decidable_of_iff
          ((mark.rise sample ≠ 0 →
              ∀ later ∈ taken (mark.next sample) rest,
                later.isReading → later.time ≠ sample.time) ∧
            RaisesStandLast (mark.next sample) rest) (by rw [RaisesStandLast, if_pos h])
      else decidable_of_iff (RaisesStandLast mark rest) (by rw [RaisesStandLast, if_neg h])

/-- No reading taken meets an amount already booked at its time. -/
def MeetsNoAmount (mark : Mark T V) (samples : List (Sample T V)) (entries : List (T × V)) :
    Prop :=
  ∀ sample ∈ taken mark samples, sample.isReading → amountAt entries sample.time = 0

variable {mark : Mark T V} {sample : Sample T V} {entries : List (T × V)}

theorem keys_book (mark : Mark T V) (sample : Sample T V) (entries : List (T × V)) :
    (book mark sample entries).map Prod.fst =
      if sample.time ∈ entries.map Prod.fst then entries.map Prod.fst
      else entries.map Prod.fst ++ [sample.time] :=
  KeyedList.keys_upsert

/-- A book has one entry for a time. -/
theorem nodup_keys_bookAll {samples : List (Sample T V)} (nodup : (entries.map Prod.fst).Nodup) :
    ((bookAll mark samples entries).map Prod.fst).Nodup := by
  induction samples generalizing mark entries with
  | nil => exact nodup
  | cons sample rest ih =>
      rw [bookAll]
      split
      · exact ih (KeyedList.nodup_keys_upsert nodup)
      · exact ih nodup

/-- What is booked is booked at the time of a sample taken. -/
theorem mem_keys_bookAll {samples : List (Sample T V)} {time : T}
    (h : time ∈ (bookAll mark samples entries).map Prod.fst) :
    time ∈ entries.map Prod.fst ∨ ∃ sample ∈ taken mark samples, sample.time = time := by
  induction samples generalizing mark entries with
  | nil => exact .inl h
  | cons sample rest ih =>
      rw [bookAll] at h
      by_cases admits : mark.Admits sample
      · rw [if_pos admits] at h
        rw [taken_cons_of_admits admits]
        rcases ih h with booked | ⟨later, mem, same⟩
        · rw [keys_book] at booked
          split at booked
          · exact .inl booked
          · rcases List.mem_append.mp booked with old | new
            · exact .inl old
            · exact .inr ⟨sample, List.mem_cons_self, (List.mem_singleton.mp new).symm⟩
        · exact .inr ⟨later, List.mem_cons_of_mem _ mem, same⟩
      · rw [if_neg admits] at h
        rw [taken_cons_of_not_admits admits]
        exact ih h

theorem amountAt_book_self :
    amountAt (book mark sample entries) sample.time =
      if sample.isReading then mark.rise sample else amountAt entries sample.time := by
  rw [amountAt, book, KeyedList.lookup_upsert_self]
  rfl

theorem amountAt_book_of_ne {time : T} (h : time ≠ sample.time) :
    amountAt (book mark sample entries) time = amountAt entries time := by
  rw [amountAt, book, KeyedList.lookup_upsert_of_ne h]
  rfl

theorem total_book (mark : Mark T V) (sample : Sample T V) (entries : List (T × V)) :
    total (book mark sample entries) =
      total entries +
        if sample.isReading then mark.rise sample - amountAt entries sample.time else 0 := by
  rw [total, book, KeyedList.sum_upsert]
  by_cases h : sample.isReading <;> simp only [h, if_true, total, amountAt]
  · abel
  · simp

theorem amountAt_nonneg (nonneg : ∀ entry ∈ entries, 0 ≤ entry.2) (time : T) :
    0 ≤ amountAt entries time := by
  unfold amountAt
  cases h : entries.lookup time with
  | none => exact le_rfl
  | some value =>
      obtain ⟨before, after, rfl, -⟩ := List.lookup_eq_some_iff.mp h
      exact nonneg (time, value) (by simp)

/-- What stands against a book that adds up, sample by sample: a reading must not
meet an amount at its time, neither one booked before nor its own rise later on. -/
theorem meetsNoAmount_cons_iff {rest : List (Sample T V)} (h : mark.Admits sample) :
    (MeetsNoAmount mark (sample :: rest) entries ∧ RaisesStandLast mark (sample :: rest)) ↔
      (sample.isReading → amountAt entries sample.time = 0) ∧
        MeetsNoAmount (mark.next sample) rest (book mark sample entries) ∧
        RaisesStandLast (mark.next sample) rest := by
  unfold MeetsNoAmount
  rw [RaisesStandLast, if_pos h, taken_cons_of_admits h, List.forall_mem_cons]
  constructor
  · rintro ⟨⟨here, later⟩, apart, standLast⟩
    refine ⟨here, ?_, standLast⟩
    intro other mem isReading
    by_cases same : other.time = sample.time
    · rw [same, amountAt_book_self]
      by_cases rises : mark.rise sample = 0
      · rw [rises, ← same, later other mem isReading, ite_self]
      · exact absurd same (apart rises other mem isReading)
    · rw [amountAt_book_of_ne same]
      exact later other mem isReading
  · rintro ⟨here, later, standLast⟩
    have reading_of_rise : mark.rise sample ≠ 0 → sample.isReading :=
      fun rises => by_contra fun no => rises (mark.rise_eq_zero_of_not_isReading no)
    refine ⟨⟨here, ?_⟩, ?_, standLast⟩
    · intro other mem isReading
      have booked := later other mem isReading
      by_cases same : other.time = sample.time
      · rw [same, amountAt_book_self] at booked
        rw [same]
        by_cases now : sample.isReading
        · exact here now
        · simpa [now] using booked
      · rwa [amountAt_book_of_ne same] at booked
    · intro rises other mem isReading same
      have booked := later other mem isReading
      rw [same, amountAt_book_self, if_pos (reading_of_rise rises)] at booked
      exact rises booked

/-- Samples of another kind raise nothing. -/
theorem raisesStandLast_of_no_reading {samples : List (Sample T V)}
    (h : ∀ sample ∈ samples, ¬ sample.isReading) : RaisesStandLast mark samples := by
  induction samples generalizing mark with
  | nil => exact trivial
  | cons sample rest ih =>
      rw [List.forall_mem_cons] at h
      rw [RaisesStandLast]
      split
      · refine ⟨fun rises => ?_, ih h.2⟩
        exact absurd (mark.rise_eq_zero_of_not_isReading h.1) rises
      · exact ih h.2

/-- The first sample alone may be a reading. -/
theorem raisesStandLast_cons {rest : List (Sample T V)}
    (h : ∀ sample ∈ rest, ¬ sample.isReading) : RaisesStandLast mark (sample :: rest) := by
  rw [RaisesStandLast]
  split
  · refine ⟨fun _ later mem isReading => ?_, raisesStandLast_of_no_reading h⟩
    exact absurd isReading (h later (mem_of_mem_taken mem))
  · exact raisesStandLast_of_no_reading h

variable [IsOrderedAddMonoid V]

theorem book_nonneg (mark : Mark T V) (sample : Sample T V)
    (nonneg : ∀ entry ∈ entries, 0 ≤ entry.2) :
    ∀ entry ∈ book mark sample entries, 0 ≤ entry.2 := by
  refine KeyedList.forall_mem_upsert nonneg ?_
  by_cases h : sample.isReading <;> simp only [h, if_true]
  · exact Mark.rise_nonneg mark sample
  · exact amountAt_nonneg nonneg sample.time

/-- **Nothing is booked twice.**  A book never adds up to more than the rise. -/
theorem total_bookAll_le (mark : Mark T V) (samples : List (Sample T V))
    (nonneg : ∀ entry ∈ entries, 0 ≤ entry.2) :
    total (bookAll mark samples entries) + mark.value ≤
      total entries + (final mark samples).value := by
  induction samples generalizing mark entries with
  | nil => exact le_rfl
  | cons sample rest ih =>
      by_cases h : mark.Admits sample
      · have later := ih (mark.next sample) (book_nonneg mark sample nonneg)
        have here := total_book mark sample entries
        have rise := mark.value_add_rise sample
        have lost := amountAt_nonneg nonneg sample.time
        rw [bookAll, if_pos h, final_cons_of_admits h]
        by_cases isReading : sample.isReading
        · rw [if_pos isReading] at here
          grind
        · rw [if_neg isReading] at here
          have := mark.rise_eq_zero_of_not_isReading isReading
          grind
      · rw [bookAll, if_neg h, final_cons_of_not_admits h]
        exact ih mark nonneg

/-- **When nothing is lost.**  The book adds up to the rise of the register exactly
when no reading meets an amount booked before and every reading that raises the
register is the last of its time. -/
theorem total_bookAll_eq_iff (mark : Mark T V) (samples : List (Sample T V))
    (nonneg : ∀ entry ∈ entries, 0 ≤ entry.2) :
    total (bookAll mark samples entries) + mark.value =
        total entries + (final mark samples).value ↔
      MeetsNoAmount mark samples entries ∧ RaisesStandLast mark samples := by
  induction samples generalizing mark entries with
  | nil => simp [bookAll, final, taken, MeetsNoAmount, RaisesStandLast]
  | cons sample rest ih =>
      by_cases h : mark.Admits sample
      · have nonneg' := book_nonneg mark sample nonneg
        have atMost := total_bookAll_le (mark.next sample) rest nonneg'
        have here := total_book mark sample entries
        have rise := mark.value_add_rise sample
        have lost := amountAt_nonneg nonneg sample.time
        rw [bookAll, if_pos h, final_cons_of_admits h, meetsNoAmount_cons_iff h,
          ← ih (mark.next sample) nonneg']
        by_cases isReading : sample.isReading
        · rw [if_pos isReading] at here
          grind
        · rw [if_neg isReading] at here
          have := mark.rise_eq_zero_of_not_isReading isReading
          grind
      · rw [bookAll, if_neg h, final_cons_of_not_admits h, ih mark nonneg]
        simp only [MeetsNoAmount, taken_cons_of_not_admits h, RaisesStandLast, if_neg h]

/-- Starting from an empty book, it adds up exactly when every reading that raises the
register is the last of its time. -/
theorem total_bookAll_nil_eq_iff (mark : Mark T V) (samples : List (Sample T V)) :
    total (bookAll mark samples []) = (final mark samples).value - mark.value ↔
      RaisesStandLast mark samples := by
  have nonneg : ∀ entry ∈ ([] : List (T × V)), 0 ≤ entry.2 := by simp
  have := total_bookAll_eq_iff mark samples nonneg
  rw [eq_sub_iff_add_eq]
  simpa [total, MeetsNoAmount, amountAt] using this

end Book

end Register
