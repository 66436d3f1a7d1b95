import EvServer.Lib.Periods
import EvServer.Pricing.TimePriced

/-!
# What the chunks of a consumption add up to

The loop of `generateChunk` counts whole seconds.  Cutting a consumption into minutes keeps its
energy and its duration, but what is left of a second at its end is in no chunk, and one of up to
a second more than a minute is not cut at all.  The inactivity goes to the chunks when the
consumption has no energy and is inactive for the whole seconds of its time; otherwise the last
chunk stands where the consumption has started.
-/

namespace EvServer

namespace ConsumptionPricer

/-- The chunks are contiguous, cover the interval of the consumption and last a minute at most,
their energy adds up, and the last one stands at the totals of the consumption. -/
structure IsCutUp (consumptionData : PricerInput) (chunks : List ConsumptionChunk) : Prop where
  covers : Periods.Covers consumptionData.startedAt (chunks.map ConsumptionChunk.period)
    consumptionData.endedAt
  minutes : ∀ chunk ∈ chunks, chunk.endedAt - chunk.startedAt ≤ 60000
  energy : (chunks.map ConsumptionChunk.consumptionWh).sum = consumptionData.consumptionWh
  last : ∃ chunk ∈ chunks.getLast?,
    chunk.cumulatedConsumptionWh = consumptionData.cumulatedConsumptionWh ∧
      chunk.totalDurationSecs = consumptionData.totalDurationSecs ∧
      chunk.totalInactivitySecs = consumptionData.totalInactivitySecs

/-- The consumption lasts a minute at most, or at least a second more and whole seconds, and it is
not inactive or inactive all the time. -/
def IsWhole (consumptionData : PricerInput) : Prop :=
  let durationMillis := consumptionData.endedAt - consumptionData.startedAt
  durationMillis ≤ 60000 ∨
    61000 ≤ durationMillis ∧ 1000 ∣ durationMillis ∧
      (consumptionData.inactivitySecs = 0 ∨
        consumptionData.consumptionWh = 0 ∧
          1000 * consumptionData.inactivitySecs = durationMillis)

section Loop

variable {consumptionData : PricerInput} {nbSeconds : ℤ} {state : ChunkState}

/-- The seconds of the next chunk. -/
def secondsToPrice (nbSeconds : ℤ) (state : ChunkState) : ℤ :=
  min (nbSeconds - state.secondsAlreadyPriced) 60

/-- The share of its seconds that a chunk is inactive. -/
def inactiveShare (consumptionData : PricerInput) (nbSeconds : ℤ) : ℚ :=
  if consumptionData.consumptionWh = 0 ∧ consumptionData.inactivitySecs = nbSeconds then 1 else 0

theorem secondsAlreadyPriced_nextChunk :
    (nextChunk consumptionData nbSeconds state).2.secondsAlreadyPriced =
      state.secondsAlreadyPriced + secondsToPrice nbSeconds state := rfl

theorem period_nextChunk :
    (nextChunk consumptionData nbSeconds state).1.period =
      (consumptionData.startedAt + 1000 * state.secondsAlreadyPriced,
        consumptionData.startedAt +
          1000 * (nextChunk consumptionData nbSeconds state).2.secondsAlreadyPriced) := rfl

theorem chunkTotalInactivitySecs_nextChunk :
    (nextChunk consumptionData nbSeconds state).2.chunkTotalInactivitySecs =
      state.chunkTotalInactivitySecs +
        inactiveShare consumptionData nbSeconds * secondsToPrice nbSeconds state := by
  show state.chunkTotalInactivitySecs +
    ((if _ then secondsToPrice nbSeconds state else 0 : ℤ) : ℚ) = _
  unfold inactiveShare
  split
  · rw [one_mul]
  · rw [zero_mul, Int.cast_zero]

variable (consumptionData) in
/-- The chunks of the loop cover the seconds that are left. -/
theorem covers_chunksFrom (turns : ℕ) (within : state.secondsAlreadyPriced ≤ nbSeconds)
    (enough : nbSeconds - state.secondsAlreadyPriced ≤ turns) :
    Periods.Covers (consumptionData.startedAt + 1000 * state.secondsAlreadyPriced)
      ((chunksFrom consumptionData nbSeconds turns state).map ConsumptionChunk.period)
      (consumptionData.startedAt + 1000 * nbSeconds) := by
  induction turns generalizing state with
  | zero =>
      rw [show state.secondsAlreadyPriced = nbSeconds by omega]
      exact .nil
  | succ turns ih =>
      rw [chunksFrom]
      split
      · rename_i more
        rw [List.map_cons, period_nextChunk]
        refine .cons (ih ?_ (ChunkState.IsShare.enough_next more enough))
        rw [secondsAlreadyPriced_nextChunk, secondsToPrice]
        omega
      · rw [show state.secondsAlreadyPriced = nbSeconds by omega]
        exact .nil

variable (consumptionData) in
/-- A chunk of the loop lasts a minute at most. -/
theorem minutes_chunksFrom (turns : ℕ) (state : ChunkState) :
    ∀ chunk ∈ chunksFrom consumptionData nbSeconds turns state,
      chunk.endedAt - chunk.startedAt ≤ 60000 := by
  induction turns generalizing state with
  | zero => exact fun _ mem => absurd mem List.not_mem_nil
  | succ turns ih =>
      rw [chunksFrom]
      split
      · refine List.forall_mem_cons.mpr ⟨?_, ih _⟩
        show consumptionData.startedAt +
          1000 * (state.secondsAlreadyPriced + secondsToPrice nbSeconds state) -
            (consumptionData.startedAt + 1000 * state.secondsAlreadyPriced) ≤ 60000
        have minute : secondsToPrice nbSeconds state ≤ 60 := min_le_right _ _
        linarith
      · exact fun _ mem => absurd mem List.not_mem_nil

variable (consumptionData) in
/-- The chunks of the loop have the share of the energy that is left. -/
theorem sum_consumptionWh_chunksFrom (turns : ℕ) (within : state.secondsAlreadyPriced ≤ nbSeconds)
    (enough : nbSeconds - state.secondsAlreadyPriced ≤ turns) :
    ((chunksFrom consumptionData nbSeconds turns state).map ConsumptionChunk.consumptionWh).sum =
      consumptionData.consumptionWh * (nbSeconds - state.secondsAlreadyPriced : ℤ) / nbSeconds := by
  induction turns generalizing state with
  | zero =>
      have none_left : nbSeconds - state.secondsAlreadyPriced = 0 := by omega
      rw [none_left]
      simp [chunksFrom]
  | succ turns ih =>
      rw [chunksFrom]
      split
      · rename_i more
        rw [List.map_cons, List.sum_cons, ih ?_ (ChunkState.IsShare.enough_next more enough),
          secondsAlreadyPriced_nextChunk]
        · show consumptionData.consumptionWh * (secondsToPrice nbSeconds state : ℤ) /
            nbSeconds + _ = _
          push_cast
          ring
        · rw [secondsAlreadyPriced_nextChunk, secondsToPrice]
          omega
      · have none_left : nbSeconds - state.secondsAlreadyPriced = 0 := by omega
        rw [none_left]
        simp

variable (consumptionData) in
/-- The last chunk of the loop stands at what the loop has started with and what is left. -/
theorem exists_getLast?_chunksFrom (turns : ℕ) (more : state.secondsAlreadyPriced < nbSeconds)
    (enough : nbSeconds - state.secondsAlreadyPriced ≤ turns) :
    ∃ chunk ∈ (chunksFrom consumptionData nbSeconds turns state).getLast?,
      chunk.cumulatedConsumptionWh = state.chunkCumulatedConsumptionWh +
          consumptionData.consumptionWh * (nbSeconds - state.secondsAlreadyPriced : ℤ) / nbSeconds ∧
        chunk.totalDurationSecs =
          state.chunkTotalDurationSecs + (nbSeconds - state.secondsAlreadyPriced : ℤ) ∧
        chunk.totalInactivitySecs = state.chunkTotalInactivitySecs +
          inactiveShare consumptionData nbSeconds *
            (nbSeconds - state.secondsAlreadyPriced : ℤ) := by
  induction turns generalizing state with
  | zero => omega
  | succ turns ih =>
      have seconds : (nextChunk consumptionData nbSeconds state).2.secondsAlreadyPriced =
        state.secondsAlreadyPriced + secondsToPrice nbSeconds state := rfl
      rw [chunksFrom, if_pos more]
      dsimp only
      rcases lt_or_ge (nextChunk consumptionData nbSeconds state).2.secondsAlreadyPriced nbSeconds
        with again | done
      · obtain ⟨chunk, mem, cumulated, duration, inactivity⟩ :=
          ih again (ChunkState.IsShare.enough_next more enough)
        refine ⟨chunk, ?_, ?_, ?_, ?_⟩
        · rw [Option.mem_def, List.getLast?_cons, Option.mem_def.mp mem]
          rfl
        · rw [cumulated, seconds]
          show state.chunkCumulatedConsumptionWh +
            consumptionData.consumptionWh * (secondsToPrice nbSeconds state : ℤ) / nbSeconds + _ = _
          push_cast
          ring
        · rw [duration, seconds]
          show state.chunkTotalDurationSecs + (secondsToPrice nbSeconds state : ℤ) + _ = _
          push_cast
          ring
        · rw [inactivity, seconds, chunkTotalInactivitySecs_nextChunk]
          push_cast
          ring
      · -- It is the last turn.
        have all : secondsToPrice nbSeconds state = nbSeconds - state.secondsAlreadyPriced := by
          rw [seconds] at done
          unfold secondsToPrice at done ⊢
          omega
        have none_left : chunksFrom consumptionData nbSeconds turns
            (nextChunk consumptionData nbSeconds state).2 = [] := by
          cases turns with
          | zero => rfl
          | succ turns => rw [chunksFrom, if_neg (not_lt.mpr done)]
        rw [none_left]
        refine ⟨_, rfl, ?_, ?_, ?_⟩
        · show state.chunkCumulatedConsumptionWh +
            consumptionData.consumptionWh * (secondsToPrice nbSeconds state : ℤ) / nbSeconds = _
          rw [all]
        · show state.chunkTotalDurationSecs + (secondsToPrice nbSeconds state : ℤ) = _
          rw [all]
        · show (nextChunk consumptionData nbSeconds state).2.chunkTotalInactivitySecs = _
          rw [chunkTotalInactivitySecs_nextChunk, all]

end Loop

/-! ## The chunks of a consumption -/

section Consumption

variable {consumptionData : PricerInput}

/-- A consumption that is not cut is its only chunk. -/
theorem isCutUp_singleton_iff :
    IsCutUp consumptionData [consumptionData.toConsumptionChunk] ↔
      consumptionData.endedAt - consumptionData.startedAt ≤ 60000 := by
  constructor
  · intro cut
    exact cut.minutes _ (List.mem_singleton_self _)
  · intro minute
    exact {
      covers := .cons .nil
      minutes := fun chunk mem => by rw [List.mem_singleton.mp mem]; exact minute
      energy := List.sum_singleton
      last := ⟨_, rfl, rfl, rfl, rfl⟩ }

/-- What the loop starts with. -/
def startState (consumptionData : PricerInput) (nbSeconds : ℤ) : ChunkState where
  secondsAlreadyPriced := 0
  chunkCumulatedConsumptionWh :=
    consumptionData.cumulatedConsumptionWh - consumptionData.consumptionWh
  chunkTotalDurationSecs := consumptionData.totalDurationSecs - nbSeconds
  chunkTotalInactivitySecs :=
    consumptionData.totalInactivitySecs - consumptionData.inactivitySecs

/-- The chunks of a consumption of more than a minute. -/
def loopChunks (consumptionData : PricerInput) (nbSeconds : ℤ) : List ConsumptionChunk :=
  chunksFrom consumptionData nbSeconds nbSeconds.toNat (startState consumptionData nbSeconds)

theorem generateChunk_eq (consumptionData : PricerInput) :
    generateChunk consumptionData =
      let nbSeconds := Utils.diffSeconds consumptionData.endedAt consumptionData.startedAt
      if nbSeconds ≤ 60 then [consumptionData.toConsumptionChunk]
      else loopChunks consumptionData nbSeconds := rfl

section Loop

variable {nbSeconds : ℤ}

theorem enough_startState (le : 0 ≤ nbSeconds) :
    nbSeconds - (startState consumptionData nbSeconds).secondsAlreadyPriced ≤ nbSeconds.toNat := by
  show nbSeconds - 0 ≤ _
  omega

variable (consumptionData) in
theorem covers_loopChunks (pos : 0 < nbSeconds) :
    Periods.Covers consumptionData.startedAt
      ((loopChunks consumptionData nbSeconds).map ConsumptionChunk.period)
      (consumptionData.startedAt + 1000 * nbSeconds) := by
  have covers := covers_chunksFrom consumptionData nbSeconds.toNat
    (show (startState consumptionData nbSeconds).secondsAlreadyPriced ≤ nbSeconds from pos.le)
    (enough_startState pos.le)
  rwa [show (startState consumptionData nbSeconds).secondsAlreadyPriced = 0 from rfl, mul_zero,
    add_zero] at covers

variable (consumptionData) in
theorem sum_consumptionWh_loopChunks (pos : 0 < nbSeconds) :
    ((loopChunks consumptionData nbSeconds).map ConsumptionChunk.consumptionWh).sum =
      consumptionData.consumptionWh := by
  have pos' : (nbSeconds : ℚ) ≠ 0 := by exact_mod_cast pos.ne'
  rw [loopChunks, sum_consumptionWh_chunksFrom consumptionData nbSeconds.toNat pos.le
    (enough_startState pos.le)]
  show consumptionData.consumptionWh * ((nbSeconds - 0 : ℤ) : ℚ) / nbSeconds = _
  rw [sub_zero, mul_div_cancel_right₀ _ pos']

variable (consumptionData) in
/-- The last chunk stands at the energy and the duration of the consumption, and at its inactivity
if the loop gives it out. -/
theorem exists_getLast?_loopChunks (pos : 0 < nbSeconds) :
    ∃ chunk ∈ (loopChunks consumptionData nbSeconds).getLast?,
      chunk.cumulatedConsumptionWh = consumptionData.cumulatedConsumptionWh ∧
        chunk.totalDurationSecs = consumptionData.totalDurationSecs ∧
        chunk.totalInactivitySecs =
          consumptionData.totalInactivitySecs - consumptionData.inactivitySecs +
            inactiveShare consumptionData nbSeconds * nbSeconds := by
  have pos' : (nbSeconds : ℚ) ≠ 0 := by exact_mod_cast pos.ne'
  obtain ⟨chunk, mem, cumulated, duration, inactivity⟩ :=
    exists_getLast?_chunksFrom consumptionData nbSeconds.toNat
      (show (startState consumptionData nbSeconds).secondsAlreadyPriced < nbSeconds from pos)
      (enough_startState pos.le)
  rw [show (startState consumptionData nbSeconds).secondsAlreadyPriced = 0 from rfl, sub_zero]
    at cumulated duration inactivity
  refine ⟨chunk, mem, ?_, ?_, inactivity⟩
  · rw [cumulated, mul_div_cancel_right₀ _ pos']
    exact sub_add_cancel _ _
  · rw [duration]
    exact sub_add_cancel _ _

/-- The loop gives out the inactivity when there is none, or when it is all the time and there is
no energy. -/
theorem inactivitySecs_eq_iff (pos : 0 < nbSeconds) :
    inactiveShare consumptionData nbSeconds * nbSeconds = consumptionData.inactivitySecs ↔
      consumptionData.inactivitySecs = 0 ∨
        consumptionData.consumptionWh = 0 ∧ consumptionData.inactivitySecs = nbSeconds := by
  have pos' : (nbSeconds : ℚ) ≠ 0 := by exact_mod_cast pos.ne'
  unfold inactiveShare
  split
  · rename_i all
    rw [one_mul]
    exact ⟨fun _ => .inr all, fun _ => all.2.symm⟩
  · rename_i other
    rw [zero_mul, or_iff_left other]
    exact eq_comm

/-- The chunks of a consumption of more than a minute, in terms of its seconds. -/
theorem isCutUp_loopChunks_iff (pos : 0 < nbSeconds) :
    IsCutUp consumptionData (loopChunks consumptionData nbSeconds) ↔
      consumptionData.endedAt = consumptionData.startedAt + 1000 * nbSeconds ∧
        (consumptionData.inactivitySecs = 0 ∨
          consumptionData.consumptionWh = 0 ∧ consumptionData.inactivitySecs = nbSeconds) := by
  have covers := covers_loopChunks consumptionData pos
  obtain ⟨chunk, mem, cumulated, duration, inactivity⟩ :=
    exists_getLast?_loopChunks consumptionData pos
  rw [← inactivitySecs_eq_iff pos]
  constructor
  · intro cut
    obtain ⟨last, hlast, -, -, same⟩ := cut.last
    obtain rfl := Option.mem_unique mem hlast
    refine ⟨cut.covers.finish_eq covers, ?_⟩
    rw [inactivity] at same
    linarith
  · rintro ⟨ends, gives⟩
    exact {
      covers := ends ▸ covers
      minutes := minutes_chunksFrom consumptionData _ _
      energy := sum_consumptionWh_loopChunks consumptionData pos
      last := ⟨chunk, mem, cumulated, duration, by rw [inactivity, gives, sub_add_cancel]⟩ }

end Loop

/-- A duration has more than a minute in whole seconds from 61 seconds on. -/
theorem diffSeconds_le_iff {startedAt endedAt : ℤ} :
    Utils.diffSeconds endedAt startedAt ≤ 60 ↔ endedAt - startedAt < 61000 := by
  unfold Utils.diffSeconds
  rcases le_total 0 (endedAt - startedAt) with forth | back
  · rw [Int.tdiv_eq_ediv_of_nonneg forth]
    omega
  · have backwards : 0 ≤ (-(endedAt - startedAt)).tdiv 1000 :=
      Int.tdiv_nonneg (by omega) (by norm_num)
    rw [Int.neg_tdiv] at backwards
    omega

/-- Nothing is left of a second. -/
theorem endedAt_eq_iff {startedAt endedAt : Timestamp} :
    endedAt = startedAt + 1000 * Utils.diffSeconds endedAt startedAt ↔
      1000 ∣ endedAt - startedAt := by
  rw [← sub_eq_iff_eq_add', Utils.diffSeconds]
  constructor
  · exact fun whole => ⟨_, whole⟩
  · exact fun whole => (Int.mul_tdiv_cancel' whole).symm

/-- **Cutting a consumption into minutes** loses nothing just when its time is a minute at most, or
a whole number of seconds in which it was not inactive or nothing else. -/
theorem isCutUp_generateChunk_iff (consumptionData : PricerInput) :
    IsCutUp consumptionData (generateChunk consumptionData) ↔ IsWhole consumptionData := by
  rw [generateChunk_eq, IsWhole]
  dsimp only
  split
  · rename_i short
    have short : consumptionData.endedAt - consumptionData.startedAt < 61000 :=
      diffSeconds_le_iff.mp short
    rw [isCutUp_singleton_iff]
    exact (or_iff_left fun long => absurd long.1 (not_le.mpr short)).symm
  · rename_i long
    have long' : 61000 ≤ consumptionData.endedAt - consumptionData.startedAt :=
      not_lt.mp (mt diffSeconds_le_iff.mpr long)
    rw [isCutUp_loopChunks_iff (by omega), endedAt_eq_iff,
      or_iff_right (not_le.mpr (lt_of_lt_of_le (by norm_num) long')), and_iff_right long']
    refine and_congr_right fun whole => or_congr_right (and_congr_right fun _ => ?_)
    have millis : consumptionData.endedAt - consumptionData.startedAt =
        1000 * Utils.diffSeconds consumptionData.endedAt consumptionData.startedAt :=
      (Int.mul_tdiv_cancel' whole).symm
    rw [millis, Int.cast_mul]
    exact (mul_right_inj' (by norm_num)).symm

end Consumption

/-- Parking for two minutes and half a second. -/
def parkedHalfSecond : PricerInput where
  startedAt := 0
  endedAt := 120500
  consumptionWh := 0
  cumulatedConsumptionWh := 1000
  totalDurationSecs := 7441 / 2
  totalInactivitySecs := 241 / 2
  inactivitySecs := 241 / 2

/-- The chunks of two minutes and half a second of parking end half a second early, and none of
them is inactive. -/
theorem not_isCutUp_parkedHalfSecond :
    (generateChunk parkedHalfSecond).map
        (fun chunk => (chunk.startedAt, chunk.endedAt, chunk.totalInactivitySecs)) =
      [(0, 60000, 0), (60000, 120000, 0)] ∧
      ¬ IsCutUp parkedHalfSecond (generateChunk parkedHalfSecond) := by
  refine ⟨by decide +kernel, fun cut => ?_⟩
  have periods : (generateChunk parkedHalfSecond).map ConsumptionChunk.period =
      [(0, 60000), (60000, 120000)] := by
    decide +kernel
  have covers := cut.covers
  rw [periods] at covers
  have ends : parkedHalfSecond.endedAt = 120000 := covers.finish_eq (.cons (.cons .nil))
  exact absurd ends (by decide)

end ConsumptionPricer

end EvServer
