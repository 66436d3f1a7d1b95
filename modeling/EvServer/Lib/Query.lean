import EvServer.Lib.Documents
import Mathlib.Data.List.Sort

/-!
# Queries that filter and sort

A query returns the documents of a collection that a filter lets through, in the order of
a rank; documents of one rank keep the order they are stored in.  Whoever pages through
such a query while he changes the documents has to know what a change does to it: the
document leaves the result, or it keeps its place there.
-/

universe u v w

namespace List

variable {V : Type v} {T : Type w} [LinearOrder T] {rank : V → T} {p : V → Bool}

theorem orderedInsert_of_forall_le {a : V} {l : List V} (h : ∀ b ∈ l, rank a ≤ rank b) :
    l.orderedInsert (fun a b => rank a ≤ rank b) a = a :: l := by
  cases l with
  | nil => rfl
  | cons b rest => exact orderedInsert_cons_of_le _ rest (h b mem_cons_self)

/-- To insert a document and to filter can be done in either order. -/
theorem filter_orderedInsert (a : V) {l : List V}
    (sorted : l.Pairwise fun a b => rank a ≤ rank b) :
    (l.orderedInsert (fun a b => rank a ≤ rank b) a).filter p =
      if p a then (l.filter p).orderedInsert (fun a b => rank a ≤ rank b) a
      else l.filter p := by
  induction l with
  | nil => by_cases h : p a <;> simp [h]
  | cons b rest ih =>
      obtain ⟨first, sorted⟩ := pairwise_cons.mp sorted
      rw [orderedInsert_cons]
      by_cases before : rank a ≤ rank b
      · rw [if_pos before, filter_cons]
        split
        · -- Everything that is left ranks behind `a`.
          refine (orderedInsert_of_forall_le fun c mem => ?_).symm
          rcases mem_cons.mp (mem_of_mem_filter mem) with rfl | mem
          · exact before
          · exact before.trans (first c mem)
        · rfl
      · rw [if_neg before, filter_cons, ih sorted, filter_cons]
        by_cases kept : p b
        · rw [if_pos kept, if_pos kept]
          by_cases h : p a
          · rw [if_pos h, if_pos h, orderedInsert_cons, if_neg before]
          · rw [if_neg h, if_neg h]
        · rw [if_neg kept, if_neg kept]

/-- To sort and to filter can be done in either order. -/
theorem filter_insertionSort (l : List V) :
    (l.insertionSort fun a b => rank a ≤ rank b).filter p =
      (l.filter p).insertionSort fun a b => rank a ≤ rank b := by
  induction l with
  | nil => rfl
  | cons a rest ih =>
      rw [insertionSort_cons, filter_orderedInsert a (pairwise_insertionSort _ rest), ih,
        filter_cons]
      split <;> rfl

/-- The first element of a rank stays the first one of that rank. -/
theorem find?_insertionSort (rank : V → T) (l : List V) (t : T) :
    (l.insertionSort fun a b => rank a ≤ rank b).find? (fun a => rank a = t) =
      l.find? fun a => rank a = t := by
  have sorted : (l.filter fun a => rank a = t).Pairwise fun a b => rank a ≤ rank b := by
    refine pairwise_of_forall_mem_list fun a ha b hb => ?_
    rw [of_decide_eq_true (mem_filter.mp ha).2, of_decide_eq_true (mem_filter.mp hb).2]
  rw [← head?_filter, filter_insertionSort, sorted.insertionSort_eq, head?_filter]

end List

namespace Collection

variable {K : Type u} {V : Type v} {T : Type w} {key : V → K} [LinearOrder T]

/-- The documents that the filter lets through, in the order of the rank. -/
def query (p : V → Bool) (rank : V → T) (c : Collection key) : List V :=
  (c.docs.filter p).insertionSort fun a b => rank a ≤ rank b

variable {p : V → Bool} {rank : V → T} {c : Collection key} {doc d old : V}

theorem mem_query : d ∈ c.query p rank ↔ d ∈ c.docs ∧ p d := by
  rw [query, List.mem_insertionSort, List.mem_filter]

theorem nodup_query (c : Collection key) (p : V → Bool) (rank : V → T) :
    ((c.query p rank).map key).Nodup := by
  have perm := (List.perm_insertionSort (fun a b => rank a ≤ rank b) (c.docs.filter p)).map key
  exact perm.nodup_iff.mpr (c.nodup.sublist (List.filter_sublist.map key))

variable [DecidableEq K]

/-- A filter that looks at the key and leaves a document out does not notice that it is saved. -/
theorem filter_docs_save (q : K → Bool) (out : q (key doc) = false) :
    (c.save doc).docs.filter (fun d => q (key d)) = c.docs.filter fun d => q (key d) := by
  change (upsert key doc c.docs).filter _ = _
  induction c.docs with
  | nil => exact List.filter_cons_of_neg (by rw [out]; exact Bool.false_ne_true)
  | cons first rest ih =>
      rw [upsert]
      split
      · rename_i same
        rw [List.filter_cons_of_neg (by rw [out]; exact Bool.false_ne_true),
          List.filter_cons_of_neg (by rw [same, out]; exact Bool.false_ne_true)]
      · rw [List.filter_cons, List.filter_cons, ih]

/-- The change that puts a document in the place of the one with its key. -/
def replace (key : V → K) (doc d : V) : V := if key d = key doc then doc else d

theorem replace_self (same : key d = key doc) : replace key doc d = doc := if_pos same

theorem replace_of_ne (other : key d ≠ key doc) : replace key doc d = d := if_neg other

/-- To save a document that is there already replaces it. -/
theorem upsert_of_mem {docs : List V} (nodup : (docs.map key).Nodup)
    (mem : key doc ∈ docs.map key) : upsert key doc docs = docs.map (replace key doc) := by
  induction docs with
  | nil => cases mem
  | cons first rest ih =>
      rw [List.map_cons, List.nodup_cons] at nodup
      rw [upsert, List.map_cons]
      by_cases same : key first = key doc
      · rw [if_pos same, replace_self same]
        have others : ∀ d ∈ rest, replace key doc d = d := fun d mem =>
          replace_of_ne fun equal =>
            nodup.1 (same.trans equal.symm ▸ List.mem_map_of_mem mem)
        rw [List.map_congr_left others, List.map_id']
      · have mem : key doc ∈ rest.map key :=
          (List.mem_cons.mp mem).resolve_left fun equal => same equal.symm
        rw [if_neg same, replace_of_ne same, ih nodup.2 mem]

theorem docs_save_of_find (found : c.find (key doc) = some old) :
    (c.save doc).docs = c.docs.map (replace key doc) := by
  refine upsert_of_mem c.nodup ?_
  rw [← key_of_find found]
  exact List.mem_map_of_mem (mem_of_find found)

/-- A document that no longer gets through the filter leaves the result, and the others
close up. -/
theorem query_save_of_leaves (found : c.find (key doc) = some old) (leaves : ¬ p doc) :
    (c.save doc).query p rank = (c.query p rank).filter fun d => key d ≠ key doc := by
  rw [query, docs_save_of_find found, query, List.filter_insertionSort, List.filter_filter]
  congr 1
  induction c.docs with
  | nil => rfl
  | cons d rest ih =>
      rw [List.map_cons, List.filter_cons, List.filter_cons, ih]
      by_cases same : key d = key doc
      · simp [replace_self same, leaves, same]
      · simp [replace_of_ne same, same]

/-- A document that gets through the filter as before, with its rank, keeps its place. -/
theorem query_save_of_stays (found : c.find (key doc) = some old) (passed : p old)
    (passes : p doc) (ranks : rank doc = rank old) :
    (c.save doc).query p rank = (c.query p rank).map (replace key doc) := by
  have same_old (d : V) (mem : d ∈ c.docs) (same : key d = key doc) : d = old :=
    eq_of_key_eq mem (mem_of_find found) (same.trans (key_of_find found).symm)
  have filtered : (c.docs.map (replace key doc)).filter p =
      (c.docs.filter p).map (replace key doc) := by
    rw [List.filter_map]
    congr 1
    refine List.filter_congr fun d mem => ?_
    by_cases same : key d = key doc
    · rw [Function.comp_apply, replace_self same, same_old d mem same, passes, passed]
    · rw [Function.comp_apply, replace_of_ne same]
  have rank_replace : ∀ d ∈ c.docs, rank (replace key doc d) = rank d := by
    intro d mem
    by_cases same : key d = key doc
    · rw [replace_self same, ranks, same_old d mem same]
    · rw [replace_of_ne same]
  rw [query, docs_save_of_find found, filtered, query]
  refine (List.map_insertionSort _ _ _ _ fun a ha b hb => ?_).symm
  rw [rank_replace a (List.mem_of_mem_filter ha), rank_replace b (List.mem_of_mem_filter hb)]

/-- A document that is deleted leaves the result, and the others close up. -/
theorem query_delete (k : K) :
    (c.delete k).query p rank = (c.query p rank).filter fun d => key d ≠ k := by
  rw [query, query, List.filter_insertionSort, List.filter_filter]
  change ((c.docs.filter fun d => !decide (key d = k)).filter p).insertionSort _ = _
  rw [List.filter_filter]
  congr 2
  funext d
  simp [Bool.and_comm]

section Place

variable {before behind : List V} (result : c.query p rank = before ++ old :: behind)
include result

omit [DecidableEq K] in
theorem mem_of_query : old ∈ c.docs ∧ p old := by
  have mem : old ∈ c.query p rank := by
    rw [result]
    exact List.mem_append_right _ List.mem_cons_self
  exact mem_query.mp mem

omit [DecidableEq K] in
/-- The other documents of the result have other keys. -/
theorem key_ne_of_query (same : key doc = key old) : ∀ d ∈ before ++ behind, key d ≠ key doc := by
  have nodup := nodup_query c p rank
  rw [result, List.map_append, List.map_cons, List.nodup_middle, List.nodup_cons,
    ← List.map_append] at nodup
  intro d mem equal
  rw [same] at equal
  exact nodup.1 (equal ▸ List.mem_map_of_mem mem)

/-- The document at a place of the result leaves it. -/
theorem query_save_leaving (same : key doc = key old) (leaves : ¬ p doc) :
    (c.save doc).query p rank = before ++ behind := by
  have found : c.find (key doc) = some old := same ▸ find_of_mem (mem_of_query result).1
  rw [query_save_of_leaves found leaves, result, List.filter_append,
    List.filter_cons_of_neg (by simp [same]), ← List.filter_append]
  exact List.filter_eq_self.mpr fun d mem => by
    simpa using key_ne_of_query result same d mem

/-- The document at a place of the result is deleted. -/
theorem query_delete_at : (c.delete (key old)).query p rank = before ++ behind := by
  rw [query_delete, result, List.filter_append, List.filter_cons_of_neg (by simp),
    ← List.filter_append]
  exact List.filter_eq_self.mpr fun d mem => by
    simpa using key_ne_of_query result rfl d mem

/-- The document at a place of the result changes there. -/
theorem query_save_staying (same : key doc = key old) (passes : p doc)
    (ranks : rank doc = rank old) :
    (c.save doc).query p rank = before ++ doc :: behind := by
  obtain ⟨stored, passed⟩ := mem_of_query result
  have others : ∀ d ∈ before ++ behind, replace key doc d = d := fun d mem =>
    replace_of_ne (key_ne_of_query result same d mem)
  rw [query_save_of_stays (same ▸ find_of_mem stored) passed passes ranks, result,
    List.map_append, List.map_cons, replace_self same.symm,
    List.map_congr_left fun d mem => others d (List.mem_append_left _ mem),
    List.map_congr_left fun d mem => others d (List.mem_append_right _ mem), List.map_id',
    List.map_id']

end Place

/-- Whatever is saved in the place of a document that gets through the filter, the result
gets no longer. -/
theorem length_query_save_le (found : c.find (key doc) = some old) (passed : p old) :
    ((c.save doc).query p rank).length ≤ (c.query p rank).length := by
  rw [query, query, List.length_insertionSort, List.length_insertionSort,
    docs_save_of_find found, ← List.countP_eq_length_filter, ← List.countP_eq_length_filter,
    List.countP_map]
  refine List.countP_mono_left fun d mem passes => ?_
  by_cases same : key d = key doc
  · rwa [eq_of_key_eq mem (mem_of_find found) (same.trans (key_of_find found).symm)]
  · rwa [Function.comp_apply, replace_of_ne same] at passes

/-- The last of two documents saved for a key is the one that counts. -/
theorem save_save {first second : V} (same : key first = key second) :
    (c.save first).save second = c.save second := by
  refine ext ?_
  change upsert key second (upsert key first c.docs) = upsert key second c.docs
  induction c.docs with
  | nil => simp [upsert, same]
  | cons d rest ih =>
      by_cases here : key d = key second
      · simp [upsert, here, same]
      · simp [upsert, here, same, ih]

/-- At most the document of a key is another one afterwards. -/
def ChangesAt (k : K) (c c' : Collection key) : Prop :=
  c' = c ∨ ∃ doc, key doc = k ∧ c' = c.save doc

theorem ChangesAt.refl (k : K) (c : Collection key) : ChangesAt k c c := .inl rfl

theorem ChangesAt.trans {k : K} {c c' c'' : Collection key} (first : ChangesAt k c c')
    (second : ChangesAt k c' c'') : ChangesAt k c c'' := by
  rcases second with rfl | ⟨doc, same, rfl⟩
  · exact first
  · rcases first with rfl | ⟨doc', same', rfl⟩
    · exact .inr ⟨doc, same, rfl⟩
    · exact .inr ⟨doc, same, save_save (same'.trans same.symm)⟩

/-- The documents of the other keys stay. -/
theorem ChangesAt.find_of_ne {k k' : K} {c c' : Collection key} (changes : ChangesAt k c c')
    (other : k' ≠ k) : c'.find k' = c.find k' := by
  rcases changes with rfl | ⟨doc, rfl, rfl⟩
  · rfl
  · exact find_save_of_ne other

end Collection
