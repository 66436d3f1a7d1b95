import EvServer.Lib.Outcome
import Mathlib.Data.Int.Notation
import Mathlib.Data.List.Nodup
import Mathlib.Data.List.Perm.Basic

/-!
# Reading by pages

A loop reads records page by page, from the first one on, until it reads an empty page.  The
pages it has read, put together, are the records.
-/

namespace Paging

universe u

variable {α : Type u} {limit skip fuel : ℕ} {records page : List α}

/-- The page behind the records to skip. -/
def read (limit skip : ℕ) (records : List α) : List α := (records.drop skip).take limit

/-- The pages from a place on, up to an empty one. -/
def pagesFrom (limit : ℕ) (records : List α) : ℕ → ℕ → List (List α)
  | 0, _ => []
  | fuel + 1, skip =>
      if (read limit skip records).isEmpty then []
      else read limit skip records :: pagesFrom limit records fuel (skip + limit)

/-- The pages of the records; there are no more of them than records. -/
def pages (limit : ℕ) (records : List α) : List (List α) :=
  pagesFrom limit records (records.length + 1) 0

theorem flatten_pagesFrom (pos : 0 < limit) (enough : records.length < skip + fuel) :
    (pagesFrom limit records fuel skip).flatten = records.drop skip := by
  induction fuel generalizing skip with
  | zero =>
      rw [pagesFrom, List.flatten_nil, List.drop_eq_nil_of_le (by omega)]
  | succ fuel ih =>
      rw [pagesFrom]
      split
      · rename_i empty
        rw [List.isEmpty_iff, read, List.take_eq_nil_iff] at empty
        rcases empty with zero | none
        · omega
        · rw [none, List.flatten_nil]
      · rw [List.flatten_cons, ih (by omega), read, ← List.drop_drop, List.take_append_drop]

/-- **Nothing is missed and nothing is read twice.** -/
theorem flatten_pages (pos : 0 < limit) : (pages limit records).flatten = records :=
  flatten_pagesFrom pos (by omega)

/-- Records that fit on one page. -/
theorem pages_of_length_le (nonempty : records ≠ []) (fits : records.length ≤ limit) :
    pages limit records = [records] := by
  have first : read limit 0 records = records := List.take_of_length_le fits
  have second : read limit (0 + limit) records = [] := by
    rw [read, List.drop_eq_nil_of_le (by omega), List.take_nil]
  obtain ⟨n, hn⟩ := Nat.exists_eq_succ_of_ne_zero (mt List.length_eq_zero_iff.mp nonempty)
  rw [pages, pagesFrom, first, if_neg (by simpa using nonempty), hn, pagesFrom, second]
  rfl

/-! ## Reading until a page gives nothing -/

section

universe v w

variable {β : Type v} {ε : Type w} {convert : List α → Except ε (List β)} {f : α → List β}
variable {items : List β} {n : ℕ}

/-- What the pages from a place on are converted to, up to one that is converted to nothing. -/
def collectFrom (limit : ℕ) (convert : List α → Except ε (List β)) (records : List α) :
    ℕ → ℕ → Except ε (List β)
  | 0, _ => .ok []
  | fuel + 1, skip =>
      match convert (read limit skip records) with
      | .error error => .error error
      | .ok items =>
          if items.isEmpty then .ok []
          else (collectFrom limit convert records fuel (skip + limit)).map (items ++ ·)

/-- Nothing is collected when the first page is converted to nothing. -/
theorem collectFrom_eq_nil_iff :
    collectFrom limit convert records (fuel + 1) skip = .ok [] ↔
      convert (read limit skip records) = .ok [] := by
  rw [collectFrom]
  cases convert (read limit skip records) with
  | error error => exact iff_of_false (by simp) (by simp)
  | ok items =>
      cases items with
      | nil => exact iff_of_true rfl rfl
      | cons item items =>
          refine iff_of_false (fun h => ?_) (by simp)
          cases hrest : collectFrom limit convert records fuel (skip + limit) with
          | error error => simp [hrest, Except.map] at h
          | ok rest => simp [hrest, Except.map] at h

/-- The first page that is converted to nothing is the one after `n` pages. -/
structure StopsAfter (limit : ℕ) (convert : List α → Except ε (List β)) (records : List α)
    (skip n : ℕ) : Prop where
  goes_on : ∀ i < n, ∃ items, items ≠ [] ∧
    convert (read limit (skip + i * limit) records) = .ok items
  stops : convert (read limit (skip + n * limit) records) = .ok []

theorem StopsAfter.eq_zero (h : StopsAfter limit convert records skip n)
    (first : convert (read limit skip records) = .ok []) : n = 0 := by
  by_contra later
  obtain ⟨items, nonempty, hitems⟩ := h.goes_on 0 (Nat.pos_of_ne_zero later)
  rw [Nat.zero_mul, Nat.add_zero, first] at hitems
  exact nonempty (Except.ok.inj hitems).symm

theorem stopsAfter_zero (first : convert (read limit skip records) = .ok []) :
    StopsAfter limit convert records skip 0 :=
  ⟨fun _ lt => absurd lt (Nat.not_lt_zero _), by rwa [Nat.zero_mul, Nat.add_zero]⟩

theorem stopsAfter_succ_iff :
    StopsAfter limit convert records skip (n + 1) ↔
      (∃ items, items ≠ [] ∧ convert (read limit skip records) = .ok items) ∧
        StopsAfter limit convert records (skip + limit) n := by
  have place (i : ℕ) : skip + (i + 1) * limit = skip + limit + i * limit := by
    rw [Nat.succ_mul, Nat.add_comm (i * limit), Nat.add_assoc]
  constructor
  · intro h
    refine ⟨by simpa using h.goes_on 0 (Nat.succ_pos n), fun i lt => ?_, ?_⟩
    · rw [← place]
      exact h.goes_on (i + 1) (Nat.succ_lt_succ lt)
    · rw [← place]
      exact h.stops
  · rintro ⟨first, h⟩
    refine ⟨fun i lt => ?_, by rw [place]; exact h.stops⟩
    cases i with
    | zero => simpa using first
    | succ i =>
        rw [place]
        exact h.goes_on i (Nat.lt_of_succ_lt_succ lt)

theorem not_stopsAfter_of_error {error : ε}
    (first : convert (read limit skip records) = .error error) :
    ¬ StopsAfter limit convert records skip n := by
  intro h
  cases n with
  | zero =>
      have stops := h.stops
      rw [Nat.zero_mul, Nat.add_zero, first] at stops
      cases stops
  | succ n =>
      obtain ⟨⟨items, -, hitems⟩, -⟩ := stopsAfter_succ_iff.mp h
      rw [first] at hitems
      cases hitems

/-- Items are what the records from a place on are converted to, before the first page that is
converted to nothing. -/
def Collected (limit : ℕ) (convert : List α → Except ε (List β)) (f : α → List β)
    (records : List α) (skip : ℕ) (items : List β) : Prop :=
  ∃ n, StopsAfter limit convert records skip n ∧
    items = ((records.drop skip).take (n * limit)).flatMap f

theorem collected_iff_of_nil (first : convert (read limit skip records) = .ok []) :
    Collected limit convert f records skip items ↔ items = [] := by
  constructor
  · rintro ⟨n, h, rfl⟩
    rw [h.eq_zero first]
    simp
  · rintro rfl
    exact ⟨0, stopsAfter_zero first, by simp⟩

theorem collected_iff_of_ne_nil {page : List β}
    (first : convert (read limit skip records) = .ok page) (some : page ≠ [])
    (converted : page = (read limit skip records).flatMap f) :
    Collected limit convert f records skip items ↔
      ∃ rest, Collected limit convert f records (skip + limit) rest ∧ items = page ++ rest := by
  have taken (n : ℕ) : ((records.drop skip).take ((n + 1) * limit)).flatMap f =
      page ++ ((records.drop (skip + limit)).take (n * limit)).flatMap f := by
    rw [Nat.succ_mul, Nat.add_comm, List.take_add, List.flatMap_append, List.drop_drop,
      converted, read]
  constructor
  · rintro ⟨n, h, rfl⟩
    cases n with
    | zero =>
        have stops := h.stops
        rw [Nat.zero_mul, Nat.add_zero, first] at stops
        exact absurd (Except.ok.inj stops) some
    | succ n => exact ⟨_, ⟨n, (stopsAfter_succ_iff.mp h).2, rfl⟩, taken n⟩
  · rintro ⟨rest, ⟨n, stops, rfl⟩, rfl⟩
    exact ⟨n + 1, stopsAfter_succ_iff.mpr ⟨⟨page, some, first⟩, stops⟩, (taken n).symm⟩

/-- **What is collected** is what the records before the first page without any are
converted to. -/
theorem collectFrom_eq_ok_iff (pos : 0 < limit) (nothing : convert [] = .ok [])
    (converted : ∀ page items, convert page = .ok items → items = page.flatMap f)
    (enough : records.length < skip + fuel) :
    collectFrom limit convert records fuel skip = .ok items ↔
      Collected limit convert f records skip items := by
  induction fuel generalizing skip items with
  | zero =>
      have behind : read limit skip records = [] := by
        rw [read, List.drop_eq_nil_of_le (by omega), List.take_nil]
      rw [collectFrom, collected_iff_of_nil (by rw [behind, nothing]), Except.ok.injEq, eq_comm]
  | succ fuel ih =>
      rw [collectFrom]
      cases first : convert (read limit skip records) with
      | error error =>
          refine iff_of_false (by simp) ?_
          rintro ⟨n, h, -⟩
          exact not_stopsAfter_of_error first h
      | ok page =>
          dsimp only
          split
          · rename_i empty
            rw [List.isEmpty_iff.mp empty] at first
            rw [collected_iff_of_nil first, Except.ok.injEq, eq_comm]
          · rename_i nonempty
            have some : page ≠ [] := fun nil => nonempty (List.isEmpty_iff.mpr nil)
            rw [collected_iff_of_ne_nil first some (converted _ _ first)]
            simp only [← ih (show records.length < skip + limit + fuel by omega)]
            cases collectFrom limit convert records fuel (skip + limit) with
            | error error => simp [Except.map]
            | ok rest => simp [Except.map, eq_comm]

end

/-! ## Following links

An answer may carry a link: the request for the next page.  The first request need not read the
records that the linked ones read. -/

section Links

universe v

variable {ε : Type u} {β R : Type v} {respond : R → Except ε (List β × Option R)}
variable {request next : R} {items found rest : List β}

/-- Following the links of the answers ends, with these items on the pages. -/
inductive Collects (respond : R → Except ε (List β × Option R)) : R → List β → Prop
  | last {request : R} {items : List β} :
      respond request = .ok (items, none) → Collects respond request items
  | link {request next : R} {items rest : List β} :
      respond request = .ok (items, some next) → Collects respond next rest →
        Collects respond request (items ++ rest)

theorem collects_of_last (answer : respond request = .ok (items, none)) :
    Collects respond request found ↔ items = found := by
  constructor
  · intro h
    cases h with
    | last same =>
        rw [answer] at same
        exact (Prod.mk.inj (Except.ok.inj same)).1
    | link other _ =>
        rw [answer] at other
        cases other
  · rintro rfl
    exact .last answer

theorem not_collects_of_error {error : ε} (answer : respond request = .error error) :
    ¬ Collects respond request found := by
  intro h
  cases h with
  | last other =>
      rw [answer] at other
      cases other
  | link other _ =>
      rw [answer] at other
      cases other

theorem collects_of_link (answer : respond request = .ok (items, some next)) :
    Collects respond request found ↔
      ∃ rest, Collects respond next rest ∧ items ++ rest = found := by
  constructor
  · intro h
    cases h with
    | last other =>
        rw [answer] at other
        cases other
    | link same rest =>
        rw [answer] at same
        cases same
        exact ⟨_, rest, rfl⟩
  · rintro ⟨rest, h, rfl⟩
    exact .link answer h

/-- The answer to a request that is the last one. -/
theorem collects_of_no_link {answered : Except ε (List β)}
    (answer : respond request = answered >>= fun items => pure (items, none)) :
    Collects respond request found ↔ answered = .ok found := by
  cases answered with
  | error error => exact iff_of_false (not_collects_of_error answer) (by simp)
  | ok items =>
      rw [collects_of_last answer, Except.ok.injEq]

/-- Links that only lead to requests of one kind, none of which is the last, have no end. -/
theorem not_collects_of_forever {I : R → Prop}
    (goes_on : ∀ request, I request → ∀ items, respond request ≠ .ok (items, none))
    (leads : ∀ request items next, I request → respond request = .ok (items, some next) → I next)
    (start : I request) : ¬ Collects respond request found := by
  intro h
  induction h with
  | last answer => exact goes_on _ start _ answer
  | link answer _ ih => exact ih (leads _ _ _ start answer)

variable {convert : α → Except ε β} {link : ℤ → R} {limit offset : ℤ}

/-- The answer at an offset: the records behind it, converted, and a link while the limit leaves
records. -/
def answer (convert : α → Except ε β) (link : ℤ → R) (limit : ℤ) (records : List α)
    (offset : ℤ) : Except ε (List β × Option R) := do
  let items ← (read limit.toNat offset.toNat records).mapM convert
  return (items, if offset + limit < records.length then some (link (offset + limit)) else none)

theorem collects_answer_iff (asked : respond request = answer convert link limit records offset) :
    Collects respond request found ↔
      ∃ items, (read limit.toNat offset.toNat records).mapM convert = .ok items ∧
        if offset + limit < records.length then
          ∃ rest, Collects respond (link (offset + limit)) rest ∧ items ++ rest = found
        else items = found := by
  rw [answer] at asked
  cases reads : (read limit.toNat offset.toNat records).mapM convert with
  | error error =>
      rw [reads] at asked
      exact iff_of_false (not_collects_of_error asked) (by simp)
  | ok items =>
      rw [reads, Outcome.ok_bind] at asked
      simp only [Except.ok.injEq, exists_eq_left']
      by_cases more : offset + limit < records.length
      · rw [if_pos more] at asked ⊢
        exact collects_of_link asked
      · rw [if_neg more] at asked ⊢
        exact collects_of_last asked

/-- The records on the pages from an offset on. -/
def linkedFrom (limit : ℤ) (pos : 0 < limit) (records : List α) (offset : ℤ) : List α :=
  read limit.toNat offset.toNat records ++
    if offset + limit < records.length then linkedFrom limit pos records (offset + limit) else []
termination_by (records.length - offset).toNat
decreasing_by omega

variable (pos : 0 < limit)

theorem collects_linked_iff
    (asked : ∀ offset, respond (link offset) = answer convert link limit records offset) :
    Collects respond (link offset) found ↔
      (linkedFrom limit pos records offset).mapM convert = .ok found := by
  induction offset using linkedFrom.induct limit pos records generalizing found with
  | case1 offset ih =>
      rw [collects_answer_iff (asked offset), linkedFrom, Outcome.mapM_append_eq_ok]
      refine exists_congr fun items => and_congr_right fun _ => ?_
      by_cases more : offset + limit < records.length
      · rw [if_pos more, if_pos more]
        exact exists_congr fun rest => and_congr_left' (ih more)
      · rw [if_neg more, if_neg more]
        simp

theorem linkedFrom_of_nonneg {records : List α} (nonneg : 0 ≤ offset) :
    linkedFrom limit pos records offset = records.drop offset.toNat := by
  induction offset using linkedFrom.induct limit pos records with
  | case1 offset ih =>
      rw [linkedFrom]
      split
      · rename_i more
        have further : (offset + limit).toNat = offset.toNat + limit.toNat := by omega
        rw [ih more (by omega), further, ← List.drop_drop, read, List.take_append_drop]
      · rw [List.append_nil, read, List.take_of_length_le]
        rw [List.length_drop]
        omega

theorem linkedFrom_nil (offset : ℤ) : linkedFrom limit pos ([] : List α) offset = [] := by
  induction offset using linkedFrom.induct limit pos ([] : List α) with
  | case1 offset ih =>
      rw [linkedFrom, read, List.drop_nil, List.take_nil, List.nil_append]
      split
      · rename_i more
        exact ih more
      · rfl

/-- The pages from a negative offset on repeat records rather than miss one. -/
theorem length_le_length_linkedFrom (records : List α) (nonpos : offset ≤ 0) :
    records.length ≤ (linkedFrom limit pos records offset).length := by
  induction offset using linkedFrom.induct limit pos records with
  | case1 offset ih =>
      rw [linkedFrom, List.length_append, read, Int.toNat_of_nonpos nonpos, List.drop_zero,
        List.length_take]
      split
      · rename_i more
        rcases Int.le_total (offset + limit) 0 with before | behind
        · exact Nat.le_trans (ih more before) (Nat.le_add_left _ _)
        · rw [linkedFrom_of_nonneg pos behind, List.length_drop]
          omega
      · rw [List.length_nil]
        omega

/-- The records on all the pages, when the first request reads some and the linked ones others. -/
def recordsFrom (limit : ℤ) (pos : 0 < limit) (first later : List α) (offset : ℤ) : List α :=
  read limit.toNat offset.toNat first ++
    if offset + limit < first.length then linkedFrom limit pos later (offset + limit) else []

theorem collects_iff {first later : List α}
    (asked : respond request = answer convert link limit first offset)
    (linked : ∀ offset, respond (link offset) = answer convert link limit later offset) :
    Collects respond request found ↔
      (recordsFrom limit pos first later offset).mapM convert = .ok found := by
  rw [collects_answer_iff asked, recordsFrom, Outcome.mapM_append_eq_ok]
  refine exists_congr fun items => and_congr_right fun _ => ?_
  by_cases more : offset + limit < first.length
  · rw [if_pos more, if_pos more]
    exact exists_congr fun rest => and_congr_left' (collects_linked_iff pos linked)
  · rw [if_neg more, if_neg more]
    simp

/-- Following the links ends, and the wanted records are on the pages, each once, and no other. -/
def CollectsAll (respond : R → Except ε (List β × Option R)) (request : R)
    (convert : α → Except ε β) (wanted : List α) : Prop :=
  ∃ found items, Collects respond request found ∧ wanted.mapM convert = .ok items ∧
    found.Perm items

theorem collectsAll_nil_iff :
    CollectsAll respond request convert [] ↔ Collects respond request [] := by
  constructor
  · rintro ⟨found, items, collects, mapped, perm⟩
    cases mapped
    rwa [← List.perm_nil.mp perm]
  · intro collects
    exact ⟨[], [], collects, rfl, .refl _⟩

/-- When the records in a window are on the pages, each once, and no other. -/
def LinksCover (limit offset : ℤ) (window : α → Bool) (first later : List α) : Prop :=
  if first.length ≤ offset + limit then
    first.length ≤ offset ∨ ∀ a ∈ first, window a
  else if 0 ≤ offset then
    (∀ a ∈ later, window a) ∧ ∀ a ∈ first.take (offset + limit).toNat, window a
  else first = [] ∧ later = []

variable {first later : List α} {window : α → Bool}

theorem recordsFrom_perm_iff_of_last (last : first.length ≤ offset + limit) :
    (recordsFrom limit pos first later offset).Perm ((first.filter window).drop offset.toNat) ↔
      first.length ≤ offset ∨ ∀ a ∈ first, window a := by
  have whole : recordsFrom limit pos first later offset = first.drop offset.toNat := by
    rw [recordsFrom, if_neg (by omega), List.append_nil, read, List.take_of_length_le]
    rw [List.length_drop]
    omega
  rw [whole]
  constructor
  · intro perm
    have lengths := perm.length_eq
    rw [List.length_drop, List.length_drop] at lengths
    have fewer := List.length_filter_le window first
    by_cases beyond : first.length ≤ offset
    · exact .inl beyond
    · exact .inr (List.length_filter_eq_length_iff.mp (by omega))
  · rintro (beyond | all)
    · have fewer := List.length_filter_le window first
      rw [List.drop_eq_nil_of_le (by omega), List.drop_eq_nil_of_le (by omega)]
    · rw [List.filter_eq_self.mpr all]

theorem recordsFrom_perm_iff_of_negative (same : first.filter window = later.filter window)
    (more : offset + limit < first.length) (negative : offset < 0) :
    (recordsFrom limit pos first later offset).Perm ((first.filter window).drop offset.toNat) ↔
      first = [] ∧ later = [] := by
  rw [recordsFrom, if_pos more, read, Int.toNat_of_nonpos (Int.le_of_lt negative), List.drop_zero,
    List.drop_zero]
  constructor
  · intro perm
    have lengths := perm.length_eq
    have fewer := List.length_filter_le window later
    rw [← same, ← lengths, List.length_append, List.length_take] at fewer
    rcases Int.le_total (offset + limit) 0 with before | behind
    · have pages := length_le_length_linkedFrom pos later before
      have none : first = [] := List.length_eq_zero_iff.mp (by omega)
      refine ⟨none, ?_⟩
      rw [none, List.filter_nil, List.take_nil, List.nil_append] at lengths
      exact List.length_eq_zero_iff.mp (by rw [List.length_nil] at lengths; omega)
    · rw [linkedFrom_of_nonneg pos behind, List.length_drop] at fewer
      omega
  · rintro ⟨rfl, rfl⟩
    rw [linkedFrom_nil, List.take_nil, List.filter_nil, List.append_nil]

/-- Whoever is at the place of a record among all of them, and in the window, is at that place
of the window only when the records before are in the window, too. -/
theorem forall_window_of_mem_drop {before behind : List α} {a : α} (nodup : first.Nodup)
    (place : first = before ++ a :: behind) (inside : window a)
    (mem : a ∈ (first.filter window).drop before.length) : ∀ b ∈ before, window b := by
  have kept : (first.filter window) = before.filter window ++ a :: behind.filter window := by
    rw [place, List.filter_append, List.filter_cons_of_pos inside]
  have distinct := nodup.filter window
  by_contra outside
  have fewer : (before.filter window).length < before.length :=
    Nat.lt_of_le_of_ne (List.length_filter_le _ _)
      (mt List.length_filter_eq_length_iff.mp outside)
  obtain ⟨n, hn⟩ := Nat.exists_eq_add_of_lt fewer
  rw [kept, hn, Nat.add_assoc, List.drop_append, Nat.add_sub_cancel_left, List.drop_succ_cons,
    List.drop_eq_nil_of_le (by omega), List.nil_append] at mem
  rw [kept, List.nodup_middle, List.nodup_cons] at distinct
  exact distinct.1 (List.mem_append_right _ (List.mem_of_mem_drop mem))

theorem recordsFrom_perm_iff_of_more (same : first.filter window = later.filter window)
    (nodup : first.Nodup) (more : offset + limit < first.length) (nonneg : 0 ≤ offset) :
    (recordsFrom limit pos first later offset).Perm ((first.filter window).drop offset.toNat) ↔
      (∀ a ∈ later, window a) ∧ ∀ a ∈ first.take (offset + limit).toNat, window a := by
  have further : (offset + limit).toNat = offset.toNat + limit.toNat := by omega
  have pages : recordsFrom limit pos first later offset =
      (first.drop offset.toNat).take limit.toNat ++
        later.drop (offset.toNat + limit.toNat) := by
    rw [recordsFrom, if_pos more, read, linkedFrom_of_nonneg pos (by omega), further]
  rw [pages, further]
  constructor
  · intro perm
    have lengths := perm.length_eq
    have fewer := List.length_filter_le window later
    rw [List.length_append, List.length_take, List.length_drop, List.length_drop,
      List.length_drop, same] at lengths
    have all : ∀ a ∈ later, window a := List.length_filter_eq_length_iff.mp (by omega)
    refine ⟨all, ?_⟩
    -- The first page is the page of the window.
    have page : ((first.drop offset.toNat).take limit.toNat).Perm
        (((first.filter window).drop offset.toNat).take limit.toNat) := by
      rw [same, List.filter_eq_self.mpr all] at perm ⊢
      rw [← List.take_append_drop limit.toNat (later.drop offset.toNat), List.drop_drop] at perm
      exact (List.perm_append_right_iff _).mp perm
    have inside (a : α) (mem : a ∈ (first.drop offset.toNat).take limit.toNat) : window a :=
      (List.mem_filter.mp (List.mem_of_mem_drop (List.mem_of_mem_take (page.mem_iff.mp mem)))).2
    intro a mem
    rw [List.take_add, List.mem_append] at mem
    rcases mem with before | here
    · cases rest : first.drop offset.toNat with
      | nil =>
          rw [List.drop_eq_nil_iff] at rest
          omega
      | cons b behind =>
          have start : b ∈ (first.drop offset.toNat).take limit.toNat := by
            obtain ⟨n, hn⟩ := Nat.exists_eq_succ_of_ne_zero (show limit.toNat ≠ 0 by omega)
            rw [rest, hn, List.take_succ_cons]
            exact List.mem_cons_self
          have place : first = first.take offset.toNat ++ b :: behind := by
            rw [← rest, List.take_append_drop]
          have taken : (first.take offset.toNat).length = offset.toNat := by
            rw [List.length_take]
            omega
          refine forall_window_of_mem_drop nodup place (inside b start) ?_ a before
          rw [taken]
          exact List.mem_of_mem_take (page.mem_iff.mp start)
    · exact inside a here
  · rintro ⟨all, firstAll⟩
    have started : first.filter window = first.take (offset.toNat + limit.toNat) ++
        (first.drop (offset.toNat + limit.toNat)).filter window := by
      conv_lhs => rw [← List.take_append_drop (offset.toNat + limit.toNat) first]
      rw [List.filter_append, List.filter_eq_self.mpr firstAll]
    have taken : (first.take (offset.toNat + limit.toNat)).length =
        offset.toNat + limit.toNat := by
      rw [List.length_take]
      omega
    have page : (first.drop offset.toNat).take limit.toNat =
        ((first.filter window).drop offset.toNat).take limit.toNat := by
      rw [List.take_drop, List.take_drop, started, List.take_left' taken]
    rw [page, ← List.filter_eq_self.mpr all, ← same, ← List.drop_drop, List.take_append_drop]

/-- **When the pages cover a window.** -/
theorem recordsFrom_perm_iff (same : first.filter window = later.filter window)
    (nodup : first.Nodup) :
    (recordsFrom limit pos first later offset).Perm ((first.filter window).drop offset.toNat) ↔
      LinksCover limit offset window first later := by
  rw [LinksCover]
  by_cases last : first.length ≤ offset + limit
  · rw [if_pos last]
    exact recordsFrom_perm_iff_of_last pos last
  · rw [if_neg last]
    by_cases nonneg : 0 ≤ offset
    · rw [if_pos nonneg]
      exact recordsFrom_perm_iff_of_more pos same nodup (by omega) nonneg
    · rw [if_neg nonneg]
      exact recordsFrom_perm_iff_of_negative pos same (by omega) (by omega)

theorem mem_of_mem_linkedFrom {records : List α} {a : α}
    (mem : a ∈ linkedFrom limit pos records offset) : a ∈ records := by
  induction offset using linkedFrom.induct limit pos records with
  | case1 offset ih =>
      rw [linkedFrom, List.mem_append] at mem
      rcases mem with here | behind
      · exact List.mem_of_mem_drop (List.mem_of_mem_take here)
      · split at behind
        · rename_i more
          exact ih more behind
        · cases behind

theorem mem_of_mem_recordsFrom {a : α} (mem : a ∈ recordsFrom limit pos first later offset) :
    a ∈ first ∨ a ∈ later := by
  rw [recordsFrom, List.mem_append] at mem
  rcases mem with here | behind
  · exact .inl (List.mem_of_mem_drop (List.mem_of_mem_take here))
  · split at behind
    · exact .inr (mem_of_mem_linkedFrom pos behind)
    · cases behind

section Keys

variable {K : Type v} {keyOf : α → K} {key : β → K} {all wanted : List α}

/-- Records with keys of their own are the same when their keys are. -/
theorem perm_of_map_perm {xs : List α} (distinct : (all.map keyOf).Nodup)
    (ofXs : ∀ a ∈ xs, a ∈ all) (ofWanted : ∀ a ∈ wanted, a ∈ all) (nodup : wanted.Nodup)
    (perm : (xs.map keyOf).Perm (wanted.map keyOf)) : xs.Perm wanted := by
  have inj := List.inj_on_of_nodup_map distinct
  have keys : (wanted.map keyOf).Nodup :=
    nodup.map_on fun a ha b hb => inj (ofWanted a ha) (ofWanted b hb)
  refine (List.perm_ext_iff_of_nodup ((perm.nodup_iff.mpr keys).of_map _) nodup).mpr fun a => ?_
  constructor
  · intro mem
    obtain ⟨b, hb, same⟩ := List.mem_map.mp (perm.mem_iff.mp (List.mem_map_of_mem mem))
    rwa [← inj (ofWanted b hb) (ofXs a mem) same]
  · intro mem
    obtain ⟨b, hb, same⟩ := List.mem_map.mp (perm.mem_iff.mpr (List.mem_map_of_mem mem))
    rwa [← inj (ofXs b hb) (ofWanted a mem) same]

/-- **What is collected** when each item tells its record. -/
theorem collectsAll_iff (keyed : ∀ a b, convert a = .ok b → key b = keyOf a)
    (distinct : (all.map keyOf).Nodup) (ofFirst : ∀ a ∈ first, a ∈ all)
    (ofLater : ∀ a ∈ later, a ∈ all) (ofWanted : ∀ a ∈ wanted, a ∈ all) (nodup : wanted.Nodup)
    (asked : respond request = answer convert link limit first offset)
    (linked : ∀ offset, respond (link offset) = answer convert link limit later offset) :
    CollectsAll respond request convert wanted ↔
      (recordsFrom limit pos first later offset).Perm wanted ∧
        ∀ a ∈ wanted, ∃ b, convert a = .ok b := by
  rw [← Outcome.exists_mapM_eq_ok_iff]
  constructor
  · rintro ⟨found, items, collects, mapped, perm⟩
    rw [collects_iff pos asked linked] at collects
    refine ⟨perm_of_map_perm distinct (fun a mem => ?_) ofWanted nodup ?_, items, mapped⟩
    · exact (mem_of_mem_recordsFrom pos mem).elim (ofFirst a) (ofLater a)
    · rw [← Outcome.map_mapM_eq collects fun a _ => keyed a,
        ← Outcome.map_mapM_eq mapped fun a _ => keyed a]
      exact perm.map key
  · rintro ⟨perm, items, mapped⟩
    obtain ⟨found, collects, same⟩ := Outcome.mapM_perm perm.symm mapped
    exact ⟨found, items, (collects_iff pos asked linked).mpr collects, mapped, same.symm⟩

end Keys

end Links

end Paging
