import EvServer.Lib.Cyclic
import EvServer.Pricing.ChunkPricer

/-!
# The hours of a tariff

A restriction on the time of day compares the local time of a consumption with two
bounds.  The day is a cycle of seconds: `PricingTimeLimit.isBetween` is membership in the
arc from the first bound to the second, past midnight where the second comes first.

A bound that is left out is replaced by `00:00`.  That is the start of the day for
`timeFrom`, and the end of the day for `timeTo` as the arc runs on to midnight, except
where it starts there: from midnight to midnight is the empty arc and not the whole day.
-/

namespace EvServer

/-! ## Times of day -/

/-- The seconds of a day. -/
abbrev secondsOfDay : ℕ := 86400

/-- Every number of the time is one that a clock shows. -/
def PricingTimeLimit.IsTimeOfDay (time : PricingTimeLimit) : Prop :=
  time.hour < 24 ∧ time.minute < 60 ∧ time.second < 60

instance : DecidablePred PricingTimeLimit.IsTimeOfDay := fun time =>
  inferInstanceAs (Decidable (time.hour < 24 ∧ time.minute < 60 ∧ time.second < 60))

/-- A time that a clock shows. -/
abbrev TimeOfDay := { time : PricingTimeLimit // time.IsTimeOfDay }

namespace TimeOfDay

/-- The second of the day. -/
def secondOfDay : TimeOfDay → Fin secondsOfDay
  | ⟨time, inDay⟩ =>
      ⟨3600 * time.hour + 60 * time.minute + time.second, by
        obtain ⟨hour, minute, second⟩ := inDay
        show _ < 86400
        omega⟩

theorem isLowerThan_iff (time aTimeLimit : TimeOfDay) :
    time.1.isLowerThan aTimeLimit.1 = true ↔ time.secondOfDay < aTimeLimit.secondOfDay := by
  obtain ⟨time, hour, minute, second⟩ := time
  obtain ⟨aTimeLimit, hour', minute', second'⟩ := aTimeLimit
  simp only [secondOfDay, Fin.lt_def, PricingTimeLimit.isLowerThan]
  split_ifs <;> simp only [decide_eq_true_eq] <;> omega

theorem isSameOrGreaterThan_iff (time aTimeLimit : TimeOfDay) :
    time.1.isSameOrGreaterThan aTimeLimit.1 = true ↔
      aTimeLimit.secondOfDay ≤ time.secondOfDay := by
  rw [PricingTimeLimit.isSameOrGreaterThan, Bool.not_eq_true', ← Bool.not_eq_true,
    isLowerThan_iff, not_lt]

theorem secondOfDay_injective : Function.Injective secondOfDay := by
  rintro ⟨⟨h, m, s⟩, inDay⟩ ⟨⟨h', m', s'⟩, inDay'⟩ same
  have bounds : h < 24 ∧ m < 60 ∧ s < 60 := inDay
  have bounds' : h' < 24 ∧ m' < 60 ∧ s' < 60 := inDay'
  have same : 3600 * h + 60 * m + s = 3600 * h' + 60 * m' + s' := congrArg Fin.val same
  obtain ⟨rfl, rfl, rfl⟩ : h = h' ∧ m = m' ∧ s = s' := by omega
  rfl

/-- A time of day is between two others when it lies on the arc between them. -/
theorem isBetween_iff (time timeFrom timeTo : TimeOfDay) :
    time.1.isBetween timeFrom.1 timeTo.1 = true ↔
      time.secondOfDay ∈ Cyclic.arc timeFrom.secondOfDay timeTo.secondOfDay := by
  unfold PricingTimeLimit.isBetween
  split
  · next spanTwoDays =>
      rw [Cyclic.arc_of_lt ((isLowerThan_iff _ _).mp spanTwoDays), Set.mem_compl_iff,
        Set.mem_Ico, Bool.not_eq_true', ← Bool.not_eq_true, Bool.and_eq_true,
        isSameOrGreaterThan_iff, isLowerThan_iff]
  · next regular =>
      rw [isLowerThan_iff, not_lt] at regular
      rw [Cyclic.arc_of_le regular, Set.mem_Ico, Bool.and_eq_true, isSameOrGreaterThan_iff,
        isLowerThan_iff]

end TimeOfDay

/-! ## The texts of the bounds -/

/-- A text the schema of a pricing definition accepts for a bound:
`^(0[0-9]|1[0-9]|2[0-3]):[0-5][0-9]$`. -/
def isTimeText (text : String) : Bool :=
  match text.toList with
  | [h, h', c, m, m'] =>
      h.isDigit && h'.isDigit && (h ≤ '1' || h = '2' && h' ≤ '3') && c = ':' &&
        m.isDigit && m ≤ '5' && m'.isDigit
  | _ => false

/-- A text that the schema accepts for a bound. -/
abbrev TimeText := { text : String // isTimeText text = true }

namespace TimeText

/-- `'00:00'`, the bound that replaces one that is left out. -/
def midnight : TimeText := ⟨"00:00", by decide⟩

theorem isDigit_iff (c : Char) : c.isDigit = true ↔ 48 ≤ c.toNat ∧ c.toNat ≤ 57 := by
  simp only [Char.isDigit, ge_iff_le, Bool.and_eq_true, decide_eq_true_eq,
    UInt32.le_iff_toNat_le]
  rfl

theorem le_iff_toNat (c c' : Char) : c ≤ c' ↔ c.toNat ≤ c'.toNat := by
  rw [Char.le_def, UInt32.le_iff_toNat_le]
  rfl

/-- The numbers a text of a bound shows, digit by digit. -/
theorem parseTime_eq (text : TimeText) :
    ∃ h h' m m' : Char, text.1.toList = [h, h', ':', m, m'] ∧
      (∀ c ∈ [h, h', m, m'], 48 ≤ c.toNat ∧ c.toNat ≤ 57) ∧
      (h.toNat ≤ 49 ∨ h.toNat = 50 ∧ h'.toNat ≤ 51) ∧ m.toNat ≤ 53 ∧
      PricingTimeLimit.parseTime text.1 =
        ⟨10 * (h.toNat - 48) + (h'.toNat - 48), 10 * (m.toNat - 48) + (m'.toNat - 48), 0⟩ := by
  obtain ⟨text, accepted⟩ := text
  unfold isTimeText at accepted
  split at accepted
  · next h h' c m m' chars =>
      simp only [Bool.and_eq_true, Bool.or_eq_true, decide_eq_true_eq] at accepted
      obtain ⟨⟨⟨⟨⟨⟨digit, digit'⟩, hour⟩, rfl⟩, digitM⟩, minute⟩, digitM'⟩ := accepted
      refine ⟨h, h', m, m', chars, ?_, ?_, ?_, ?_⟩
      · simp only [List.forall_mem_cons, List.not_mem_nil, false_implies, implies_true, and_true,
          ← isDigit_iff]
        exact ⟨digit, digit', digitM, digitM'⟩
      · rcases hour with hour | ⟨rfl, hour⟩
        · exact Or.inl ((le_iff_toNat _ _).mp hour)
        · exact Or.inr ⟨rfl, (le_iff_toNat _ _).mp hour⟩
      · exact (le_iff_toNat _ _).mp minute
      · simp [PricingTimeLimit.parseTime, PricingTimeLimit.numberAt, Utils.digitsValue, chars,
          digit, digit', digitM, digitM']
  · cases accepted

theorem isTimeOfDay_parseTime (text : TimeText) :
    (PricingTimeLimit.parseTime text.1).IsTimeOfDay := by
  obtain ⟨h, h', m, m', -, digits, hour, minute, parsed⟩ := text.parseTime_eq
  simp only [List.forall_mem_cons, List.not_mem_nil, false_implies, implies_true, and_true]
    at digits
  rw [parsed]
  refine ⟨?_, ?_, ?_⟩ <;> simp only <;> omega

/-- The time of day that the text of a bound names. -/
def time (text : TimeText) : TimeOfDay := ⟨.parseTime text.1, text.isTimeOfDay_parseTime⟩

@[simp] theorem secondOfDay_time_midnight : midnight.time.secondOfDay = 0 := by
  decide

/-- Only `00:00` names the start of the day. -/
theorem secondOfDay_time_eq_zero_iff (text : TimeText) :
    text.time.secondOfDay = 0 ↔ text = midnight := by
  refine ⟨fun zero => ?_, fun h => h ▸ secondOfDay_time_midnight⟩
  obtain ⟨h, h', m, m', chars, digits, -, -, parsed⟩ := text.parseTime_eq
  simp only [List.forall_mem_cons, List.not_mem_nil, false_implies, implies_true, and_true]
    at digits
  have zero : 3600 * (PricingTimeLimit.parseTime text.1).hour +
      60 * (PricingTimeLimit.parseTime text.1).minute +
      (PricingTimeLimit.parseTime text.1).second = 0 := congrArg Fin.val zero
  simp only [parsed] at zero
  have char (c : Char) (code : c.toNat = 48) : c = '0' :=
    Char.ext (UInt32.toNat_inj.mp code)
  rw [char h (by omega), char h' (by omega), char m (by omega), char m' (by omega)] at chars
  exact Subtype.ext (String.toList_inj.mp chars)

end TimeText

/-! ## The hours of a restriction -/

/-- The seconds of the day a restriction leaves: from its `timeFrom` or the start of the
day until its `timeTo` or the end of the day. -/
def restrictedHours : Option TimeText → Option TimeText → Set (Fin secondsOfDay)
  | none, none => Set.univ
  | some timeFrom, none => Set.Ici timeFrom.time.secondOfDay
  | none, some timeTo => Set.Iio timeTo.time.secondOfDay
  | some timeFrom, some timeTo =>
      Cyclic.arc timeFrom.time.secondOfDay timeTo.time.secondOfDay

/-- The arc between the bounds, each replaced by `00:00` where it is left out, is the hours
of the restriction unless they are the whole day read off a `timeFrom` of `00:00`. -/
theorem arc_eq_restrictedHours {timeFrom timeTo : Option TimeText}
    (given : ¬ (timeFrom = none ∧ timeTo = none))
    (starts : ¬ (timeFrom = some TimeText.midnight ∧ timeTo = none)) :
    Cyclic.arc (timeFrom.getD TimeText.midnight).time.secondOfDay
        (timeTo.getD TimeText.midnight).time.secondOfDay =
      restrictedHours timeFrom timeTo := by
  match timeFrom, timeTo with
  | none, none => exact absurd ⟨rfl, rfl⟩ given
  | some timeFrom, none =>
      have : timeFrom ≠ .midnight := fun h => starts ⟨congrArg some h, rfl⟩
      rw [Option.getD_some, Option.getD_none, TimeText.secondOfDay_time_midnight,
        Cyclic.arc_zero_right (mt timeFrom.secondOfDay_time_eq_zero_iff.mp this),
        restrictedHours]
  | none, some timeTo =>
      rw [Option.getD_some, Option.getD_none, TimeText.secondOfDay_time_midnight,
        Cyclic.arc_zero_left, restrictedHours]
  | some timeFrom, some timeTo => rfl

/-- A day from midnight on, without an end, is the whole day. -/
theorem restrictedHours_midnight_none : restrictedHours (some .midnight) none = Set.univ := by
  rw [restrictedHours, TimeText.secondOfDay_time_midnight]
  exact Set.eq_univ_of_forall fun t => Fin.zero_le t

namespace ConsumptionChunkPricer

variable {zoneTime : String → Timestamp → LocalTime}

/-- The time of day at a date, where the time zones show times of day. -/
def localTimeOfDay (shows : ∀ timezone date, (zoneTime timezone date).time.IsTimeOfDay)
    (timezone : String) (date : Timestamp) : TimeOfDay :=
  ⟨(zoneTime timezone date).time, shows timezone date⟩

/-- The restriction with the bounds of a tariff for a part of the day. -/
def withHours (restrictions : PricingRestriction) (timeFrom timeTo : Option TimeText) :
    PricingRestriction :=
  { restrictions with timeFrom := timeFrom.map Subtype.val, timeTo := timeTo.map Subtype.val }

section

variable (shows : ∀ timezone date, (zoneTime timezone date).time.IsTimeOfDay)
variable (context : ConsumptionPricerContext) (timezone : String) (chunk : ConsumptionChunk)
variable (restrictions : PricingRestriction)

/-- A restriction with a bound is checked against the arc between its bounds. -/
theorem checkTimeValidity_withHours {timeFrom timeTo : Option TimeText}
    (given : ¬ (timeFrom = none ∧ timeTo = none)) :
    checkTimeValidity zoneTime { context with timezone := some timezone } chunk
        (withHours restrictions timeFrom timeTo) = true ↔
      (localTimeOfDay shows timezone chunk.startedAt).secondOfDay ∈
        Cyclic.arc (timeFrom.getD TimeText.midnight).time.secondOfDay
          (timeTo.getD TimeText.midnight).time.secondOfDay := by
  have bound (limit : Option TimeText) :
      PricingTimeLimit.parseTime ((limit.map Subtype.val).getD "00:00") =
        (limit.getD TimeText.midnight).time.1 := by
    cases limit <;> rfl
  rw [← TimeOfDay.isBetween_iff, ← bound, ← bound, checkTimeValidity,
    if_neg (by simpa [withHours] using given)]
  rfl

/-- A restriction is checked as its bounds read, except for a `timeFrom` of `00:00` without
a `timeTo`, which no time of day meets. -/
theorem checkTimeValidity_iff_restrictedHours (timeFrom timeTo : Option TimeText) :
    (checkTimeValidity zoneTime { context with timezone := some timezone } chunk
          (withHours restrictions timeFrom timeTo) = true ↔
        (localTimeOfDay shows timezone chunk.startedAt).secondOfDay ∈
          restrictedHours timeFrom timeTo) ↔
      ¬ (timeFrom = some TimeText.midnight ∧ timeTo = none) := by
  by_cases given : timeFrom = none ∧ timeTo = none
  · obtain ⟨rfl, rfl⟩ := given
    simp [checkTimeValidity, withHours, restrictedHours]
  · rw [checkTimeValidity_withHours shows context timezone chunk restrictions given]
    by_cases starts : timeFrom = some TimeText.midnight ∧ timeTo = none
    · obtain ⟨rfl, rfl⟩ := starts
      simp [restrictedHours_midnight_none]
    · exact iff_of_true (by rw [arc_eq_restrictedHours given starts]) starts

include shows in
/-- Two tariffs split at one time share the day between them, except at midnight. -/
theorem xor_checkTimeValidity_iff (split : TimeText) :
    Xor
        (checkTimeValidity zoneTime { context with timezone := some timezone } chunk
          (withHours restrictions none (some split)) = true)
        (checkTimeValidity zoneTime { context with timezone := some timezone } chunk
          (withHours restrictions (some split) none) = true) ↔
      split ≠ TimeText.midnight := by
  rw [checkTimeValidity_withHours shows context timezone chunk restrictions (by simp),
    checkTimeValidity_withHours shows context timezone chunk restrictions (by simp)]
  simp only [Option.getD_none, Option.getD_some, TimeText.secondOfDay_time_midnight]
  by_cases starts : split = TimeText.midnight
  · subst starts
    simp [Xor]
  · refine iff_of_true (Cyclic.xor_mem_arc (Ne.symm ?_) _) starts
    exact mt split.secondOfDay_time_eq_zero_iff.mp starts

/-- **The hours of tariffs.**  A time of day is between two others when it lies on the arc
from the one to the other, so between two different times it is in exactly one of the two
ranges.  A restriction is met in the hours it reads, and two tariffs split at one time
cover the day once, as long as the time of day a tariff starts at without an end is not
midnight. -/
theorem tariffs_cover_day (timeFrom timeTo : Option TimeText) (split : TimeText) :
    let time := localTimeOfDay shows timezone chunk.startedAt
    (∀ limit limit' : TimeOfDay,
        (time.1.isBetween limit.1 limit'.1 = true ↔
          time.secondOfDay ∈ Cyclic.arc limit.secondOfDay limit'.secondOfDay) ∧
        (limit ≠ limit' →
          Xor (time.1.isBetween limit.1 limit'.1 = true)
            (time.1.isBetween limit'.1 limit.1 = true))) ∧
      ((checkTimeValidity zoneTime { context with timezone := some timezone } chunk
            (withHours restrictions timeFrom timeTo) = true ↔
          time.secondOfDay ∈ restrictedHours timeFrom timeTo) ↔
        ¬ (timeFrom = some TimeText.midnight ∧ timeTo = none)) ∧
      (Xor
          (checkTimeValidity zoneTime { context with timezone := some timezone } chunk
            (withHours restrictions none (some split)) = true)
          (checkTimeValidity zoneTime { context with timezone := some timezone } chunk
            (withHours restrictions (some split) none) = true) ↔
        split ≠ TimeText.midnight) := by
  intro time
  refine ⟨fun limit limit' => ⟨TimeOfDay.isBetween_iff _ _ _, fun different => ?_⟩,
    checkTimeValidity_iff_restrictedHours shows context timezone chunk restrictions _ _,
    xor_checkTimeValidity_iff shows context timezone chunk restrictions split⟩
  rw [TimeOfDay.isBetween_iff, TimeOfDay.isBetween_iff]
  exact Cyclic.xor_mem_arc (TimeOfDay.secondOfDay_injective.ne different) _

end

/-- A clock that stands at noon. -/
def noon : String → Timestamp → LocalTime := fun _ _ => ⟨1, { hour := 12, minute := 0 }⟩

/-- A session of an hour at a station in a known time zone. -/
def noonContext : ConsumptionPricerContext :=
  { sessionStartDate := 0, timezone := some "Europe/Paris" }

/-- Its consumption. -/
def noonChunk : ConsumptionChunk := ⟨0, 3600000, 1000, 1000, 3600, 0⟩

/-- At noon the tariffs split at eight share the day. -/
theorem tariffs_cover_day_noon :
    Xor
      (checkTimeValidity noon noonContext noonChunk { timeTo := some "08:00" } = true)
      (checkTimeValidity noon noonContext noonChunk { timeFrom := some "08:00" } = true) :=
  (tariffs_cover_day
    (fun _ _ => (by decide : PricingTimeLimit.IsTimeOfDay { hour := 12, minute := 0 })) noonContext
    "Europe/Paris" noonChunk {} none none ⟨"08:00", by decide⟩).2.2.mpr (by decide)

/-- A tariff from `00:00` on without an end does not apply at noon, nor does the one
until `00:00`. -/
theorem not_checkTimeValidity_from_midnight :
    checkTimeValidity noon noonContext noonChunk { timeFrom := some "00:00" } = false ∧
      (⟨12 * 3600, by decide⟩ : Fin secondsOfDay) ∈
        restrictedHours (some TimeText.midnight) none ∧
      checkTimeValidity noon noonContext noonChunk { timeTo := some "00:00" } = false := by
  refine ⟨by decide, ?_, by decide⟩
  rw [restrictedHours_midnight_none]
  exact Set.mem_univ _

end ConsumptionChunkPricer

end EvServer
