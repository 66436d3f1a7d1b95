import Mathlib.Algebra.BigOperators.Group.List.Basic
import Mathlib.Data.List.Nodup
import Mathlib.Tactic.Abel

/-!
# Collections of documents

A collection holds at most one document for a key, which is read off the document itself.
A document is saved in the place of the one with its key, or at the end.
-/

universe u v

/-- Documents with distinct keys. -/
structure Collection {K : Type u} {V : Type v} (key : V → K) where
  docs : List V
  nodup : (docs.map key).Nodup

namespace Collection

variable {K : Type u} {V : Type v} {key : V → K}

theorem ext {c d : Collection key} (h : c.docs = d.docs) : c = d := by
  obtain ⟨docs, _⟩ := c
  cases h
  rfl

/-- The collection without documents. -/
def empty : Collection key := ⟨[], List.nodup_nil⟩

instance [DecidableEq V] : DecidableEq (Collection key) := fun c d =>
  decidable_of_iff (c.docs = d.docs) ⟨ext, fun h => h ▸ rfl⟩

variable [DecidableEq K]

/-- The document of a key. -/
def find (c : Collection key) (k : K) : Option V := c.docs.find? fun d => key d = k

/-- Put a document in the place of the one with its key, or at the end. -/
def upsert (key : V → K) (doc : V) : List V → List V
  | [] => [doc]
  | d :: rest => if key d = key doc then doc :: rest else d :: upsert key doc rest

theorem map_key_upsert (doc : V) (docs : List V) :
    (upsert key doc docs).map key =
      if key doc ∈ docs.map key then docs.map key else docs.map key ++ [key doc] := by
  induction docs with
  | nil => simp [upsert]
  | cons d rest ih =>
      by_cases h : key d = key doc
      · simp [upsert, h]
      · have ne : key doc ≠ key d := fun equal => h equal.symm
        simp only [upsert, h, if_false, List.map_cons, ih, List.mem_cons, ne, false_or]
        split <;> simp

theorem nodup_upsert (doc : V) {docs : List V} (nodup : (docs.map key).Nodup) :
    ((upsert key doc docs).map key).Nodup := by
  rw [map_key_upsert]
  split
  · exact nodup
  · rename_i new
    exact List.nodup_append.mpr
      ⟨nodup, List.nodup_singleton _, fun a ha b hb equal => new (by simp_all)⟩

/-- Save a document. -/
def save (doc : V) (c : Collection key) : Collection key :=
  ⟨upsert key doc c.docs, nodup_upsert doc c.nodup⟩

/-- Delete the documents of the keys for which `p` holds. -/
def deleteMany (p : K → Bool) (c : Collection key) : Collection key :=
  ⟨c.docs.filter fun d => !p (key d), c.nodup.sublist (List.filter_sublist.map key)⟩

/-- Delete the document of a key. -/
def delete (k : K) (c : Collection key) : Collection key := c.deleteMany fun k' => k' = k

/-- Change documents, but not their keys. -/
def updateMany (f : V → V) (keeps : ∀ d, key (f d) = key d) (c : Collection key) :
    Collection key :=
  ⟨c.docs.map f, by
    have same : key ∘ f = key := funext keeps
    rw [List.map_map, same]
    exact c.nodup⟩

/-- Save documents, one after the other. -/
def saveAll (docs : List V) (c : Collection key) : Collection key :=
  docs.foldl (fun c doc => c.save doc) c

variable {c : Collection key} {doc d : V} {k k' : K}

theorem key_of_find (h : c.find k = some doc) : key doc = k :=
  of_decide_eq_true (List.find?_some (p := fun d => decide (key d = k)) h)

theorem mem_of_find (h : c.find k = some doc) : doc ∈ c.docs := List.mem_of_find?_eq_some h

/-- There is one document for a key. -/
theorem find_of_mem (h : doc ∈ c.docs) : c.find (key doc) = some doc := by
  obtain ⟨docs, nodup⟩ := c
  change docs.find? _ = _
  induction docs with
  | nil => cases h
  | cons first rest ih =>
      rw [List.map_cons, List.nodup_cons] at nodup
      rcases List.mem_cons.mp h with rfl | mem
      · rw [List.find?_cons_of_pos (by simp)]
      · have ne : key first ≠ key doc := fun equal =>
          nodup.1 (equal ▸ List.mem_map_of_mem mem)
        rw [List.find?_cons_of_neg (by simpa using ne)]
        exact ih nodup.2 mem

/-- The documents of a key are the one that is found. -/
theorem filter_key_eq (h : c.find k = some doc) :
    (c.docs.filter fun d => key d = k) = [doc] := by
  obtain ⟨docs, nodup⟩ := c
  change docs.find? _ = some doc at h
  induction docs with
  | nil => cases h
  | cons first rest ih =>
      rw [List.map_cons, List.nodup_cons] at nodup
      by_cases same : key first = k
      · rw [List.find?_cons_of_pos (by simpa using same)] at h
        obtain rfl := Option.some.inj h
        have none : (rest.filter fun d => key d = k) = [] := by
          rw [List.filter_eq_nil_iff]
          intro d mem
          simp only [decide_eq_true_eq]
          rintro rfl
          exact nodup.1 (same ▸ List.mem_map_of_mem mem)
        rw [List.filter_cons_of_pos (by simpa using same), none]
      · rw [List.find?_cons_of_neg (by simpa using same)] at h
        rw [List.filter_cons_of_neg (by simpa using same)]
        exact ih nodup.2 h

theorem eq_of_key_eq {d' : V} (h : d ∈ c.docs) (h' : d' ∈ c.docs) (same : key d = key d') :
    d = d' := by
  have found := find_of_mem h
  rw [same, find_of_mem h'] at found
  exact (Option.some.inj found).symm

theorem not_mem_keys_of_find (h : c.find k = none) : ∀ d ∈ c.docs, key d ≠ k := by
  intro d mem equal
  have found := find_of_mem mem
  rw [equal, h] at found
  cases found

theorem find_save_self : (c.save doc).find (key doc) = some doc := by
  have mem : doc ∈ (c.save doc).docs := by
    change doc ∈ upsert key doc c.docs
    induction c.docs with
    | nil => simp [upsert]
    | cons d rest ih =>
        rw [upsert]
        split
        · exact List.mem_cons_self
        · exact List.mem_cons_of_mem _ ih
  exact find_of_mem mem

/-- The documents of the other keys stay. -/
theorem find_save_of_ne (h : k ≠ key doc) : (c.save doc).find k = c.find k := by
  change (upsert key doc c.docs).find? _ = c.docs.find? _
  induction c.docs with
  | nil => simp [upsert, h.symm]
  | cons d rest ih =>
      rw [upsert]
      split
      · rename_i same
        rw [List.find?_cons_of_neg (by simpa using h.symm),
          List.find?_cons_of_neg (by simpa [same] using h.symm)]
      · rw [List.find?_cons, List.find?_cons, ih]

theorem upsert_of_not_mem {docs : List V} (h : ∀ d ∈ docs, key d ≠ key doc) :
    upsert key doc docs = docs ++ [doc] := by
  induction docs with
  | nil => rfl
  | cons d rest ih =>
      rw [upsert, if_neg (h d List.mem_cons_self),
        ih fun d' mem => h d' (List.mem_cons_of_mem _ mem), List.cons_append]

/-- A document with a new key is added at the end. -/
theorem docs_save_of_find_eq_none (h : c.find (key doc) = none) :
    (c.save doc).docs = c.docs ++ [doc] :=
  upsert_of_not_mem (not_mem_keys_of_find h)

theorem upsert_of_find {docs : List V}
    (found : (docs.find? fun d => key d = key doc) = some doc) : upsert key doc docs = docs := by
  induction docs with
  | nil => cases found
  | cons first rest ih =>
      rw [upsert]
      split
      · rename_i same
        rw [List.find?_cons_of_pos (by simpa using same), Option.some.injEq] at found
        rw [found]
      · rename_i other
        rw [List.find?_cons_of_neg (by simpa using other)] at found
        rw [ih found]

/-- Saving a document changes nothing just when it is there already. -/
theorem save_eq_self_iff : c.save doc = c ↔ c.find (key doc) = some doc := by
  constructor
  · intro same
    rw [← same]
    exact find_save_self
  · intro found
    exact ext (upsert_of_find found)

/-- Two documents leave the same when they are the same, or are both there already. -/
theorem save_eq_save_iff {other : V} : c.save doc = c.save other ↔
    doc = other ∨ c.find (key doc) = some doc ∧ c.find (key other) = some other := by
  constructor
  · intro same
    by_cases keys : key doc = key other
    · have found : (c.save other).find (key doc) = some other := by
        rw [keys, find_save_self]
      rw [← same, find_save_self, Option.some.injEq] at found
      exact .inl found
    · refine .inr ⟨?_, ?_⟩
      · rw [← find_save_of_ne keys, ← same, find_save_self]
      · rw [← find_save_of_ne (Ne.symm keys), same, find_save_self]
  · rintro (rfl | ⟨first, second⟩)
    · rfl
    · rw [save_eq_self_iff.mpr first, save_eq_self_iff.mpr second]

omit [DecidableEq K] in
theorem mem_deleteMany {p : K → Bool} : d ∈ (c.deleteMany p).docs ↔ d ∈ c.docs ∧ ¬ p (key d) := by
  change d ∈ c.docs.filter _ ↔ _
  simp

theorem mem_delete : d ∈ (c.delete k).docs ↔ d ∈ c.docs ∧ key d ≠ k := by
  rw [delete, mem_deleteMany]
  simp

omit [DecidableEq K] in
theorem mem_updateMany {f : V → V} {keeps : ∀ d, key (f d) = key d} :
    d ∈ (c.updateMany f keeps).docs ↔ ∃ old ∈ c.docs, f old = d := List.mem_map

omit [DecidableEq K] in
theorem map_key_updateMany {f : V → V} (keeps : ∀ d, key (f d) = key d) :
    (c.updateMany f keeps).docs.map key = c.docs.map key := by
  have same : key ∘ f = key := funext keeps
  change (c.docs.map f).map key = _
  rw [List.map_map, same]

/-- What is left is found as before. -/
theorem find_deleteMany {p : K → Bool} :
    (c.deleteMany p).find k = if p k then none else c.find k := by
  change (c.docs.filter fun d => !p (key d)).find? _ = _
  rw [List.find?_filter]
  split
  · rename_i deleted
    refine List.find?_eq_none.mpr fun d _ => ?_
    rintro h
    rw [decide_eq_true_eq, decide_eq_true_eq] at h
    rw [h.2, deleted] at h
    cases h.1
  · rename_i kept
    refine congrArg (c.docs.find? ·) (funext fun d => ?_)
    by_cases same : key d = k <;> simp [same, kept]

theorem find_of_find_deleteMany {p : K → Bool} (h : (c.deleteMany p).find k = some d) :
    c.find k = some d := by
  rw [find_deleteMany] at h
  split at h
  · cases h
  · exact h

theorem find_delete : (c.delete k').find k = if k = k' then none else c.find k := by
  rw [delete, find_deleteMany]
  simp

/-! ## What documents add up to -/

theorem mem_of_mem_upsert {docs : List V} (h : d ∈ upsert key doc docs) : d = doc ∨ d ∈ docs := by
  induction docs with
  | nil => exact .inl (List.mem_singleton.mp h)
  | cons first rest ih =>
      rw [upsert] at h
      split at h <;> rcases List.mem_cons.mp h with rfl | mem
      · exact .inl rfl
      · exact .inr (List.mem_cons_of_mem _ mem)
      · exact .inr List.mem_cons_self
      · exact (ih mem).imp_right (List.mem_cons_of_mem _)

theorem mem_save (h : d ∈ (c.save doc).docs) : d = doc ∨ d ∈ c.docs := mem_of_mem_upsert h

/-- What holds of the documents, and of the one that is saved, holds of the new documents. -/
theorem forall_mem_save {P : V → Prop} (old : ∀ d ∈ c.docs, P d) (new : P doc) :
    ∀ d ∈ (c.save doc).docs, P d := by
  intro d mem
  rcases mem_save mem with rfl | mem
  · exact new
  · exact old d mem

/-- Of the documents with the key of the saved one that one alone is left. -/
theorem mem_save_of_ne (h : d ∈ (c.save doc).docs) : d = doc ∨ d ∈ c.docs ∧ key d ≠ key doc := by
  have found := find_of_mem h
  rcases eq_or_ne (key d) (key doc) with same | other
  · rw [same, find_save_self] at found
    exact .inl (Option.some.inj found).symm
  · rw [find_save_of_ne other] at found
    exact .inr ⟨mem_of_find found, other⟩

theorem mem_save_iff : d ∈ (c.save doc).docs ↔ d = doc ∨ d ∈ c.docs ∧ key d ≠ key doc := by
  constructor
  · exact mem_save_of_ne
  · rintro (rfl | ⟨mem, other⟩)
    · exact mem_of_find find_save_self
    · have found := find_of_mem mem
      rw [← find_save_of_ne other] at found
      exact mem_of_find found

/-- A key that is there stays. -/
theorem exists_key_save (doc : V) (h : ∃ d ∈ c.docs, key d = k) :
    ∃ d ∈ (c.save doc).docs, key d = k := by
  obtain ⟨d, mem, rfl⟩ := h
  rcases eq_or_ne (key d) (key doc) with same | other
  · exact ⟨doc, mem_save_iff.mpr (.inl rfl), same.symm⟩
  · exact ⟨d, mem_save_iff.mpr (.inr ⟨mem, other⟩), rfl⟩

theorem map_key_save :
    (c.save doc).docs.map key =
      if key doc ∈ c.docs.map key then c.docs.map key else c.docs.map key ++ [key doc] :=
  map_key_upsert doc c.docs

/-- A document with a new key is one more. -/
theorem length_save :
    (c.save doc).docs.length = c.docs.length + if key doc ∈ c.docs.map key then 0 else 1 := by
  rw [← List.length_map key, map_key_save]
  split <;> simp

theorem mem_map_key_save :
    k ∈ (c.save doc).docs.map key ↔ k ∈ c.docs.map key ∨ k = key doc := by
  rw [map_key_save]
  split
  · next stored => exact ⟨Or.inl, fun h => h.elim id fun same => same ▸ stored⟩
  · rw [List.mem_append, List.mem_singleton]

/-- Documents with new keys are added at the end. -/
theorem docs_saveAll_of_new {docs : List V} (nodup : (docs.map key).Nodup)
    (new : ∀ d ∈ docs, c.find (key d) = none) : (c.saveAll docs).docs = c.docs ++ docs := by
  induction docs generalizing c with
  | nil => exact (List.append_nil _).symm
  | cons doc rest ih =>
      rw [List.map_cons, List.nodup_cons] at nodup
      rw [List.forall_mem_cons] at new
      change ((c.save doc).saveAll rest).docs = _
      rw [ih nodup.2, docs_save_of_find_eq_none new.1, List.append_assoc, List.singleton_append]
      intro other mem
      have apart : key other ≠ key doc := by
        intro same
        exact nodup.1 (same ▸ List.mem_map_of_mem mem)
      rw [find_save_of_ne apart]
      exact new.2 other mem

theorem mem_saveAll {docs : List V} (h : d ∈ (c.saveAll docs).docs) : d ∈ docs ∨ d ∈ c.docs := by
  induction docs generalizing c with
  | nil => exact .inr h
  | cons doc rest ih =>
      rcases ih h with mem | mem
      · exact .inl (List.mem_cons_of_mem _ mem)
      · rcases mem_save mem with rfl | mem
        · exact .inl List.mem_cons_self
        · exact .inr mem

variable {M : Type*} [AddCommGroup M]

/-- A document that is saved counts instead of the one it replaces. -/
theorem sum_map_save (f : V → M) :
    ((c.save doc).docs.map f).sum =
      (c.docs.map f).sum + f doc - ((c.find (key doc)).map f).getD 0 := by
  change ((upsert key doc c.docs).map f).sum =
    (c.docs.map f).sum + f doc - ((c.docs.find? fun d => key d = key doc).map f).getD 0
  induction c.docs with
  | nil => simp [upsert]
  | cons first rest ih =>
      rw [upsert]
      split
      · rename_i same
        rw [List.find?_cons_of_pos (by simpa using same)]
        simp only [List.map_cons, List.sum_cons, Option.map_some, Option.getD_some]
        abel
      · rename_i other
        rw [List.find?_cons_of_neg (by simpa using other)]
        simp only [List.map_cons, List.sum_cons, ih]
        abel

/-- Documents of distinct keys count instead of those they replace. -/
theorem sum_map_saveAll (f : V → M) {docs : List V} (nodup : (docs.map key).Nodup) :
    ((c.saveAll docs).docs.map f).sum =
      (c.docs.map f).sum + (docs.map f).sum -
        (docs.map fun doc => ((c.find (key doc)).map f).getD 0).sum := by
  induction docs generalizing c with
  | nil => simp [saveAll]
  | cons doc rest ih =>
      rw [List.map_cons, List.nodup_cons] at nodup
      have replaced : (rest.map fun other => (((c.save doc).find (key other)).map f).getD 0) =
          rest.map fun other => ((c.find (key other)).map f).getD 0 := by
        refine List.map_congr_left fun other mem => ?_
        have other_ne : key other ≠ key doc := by
          intro same
          exact nodup.1 (same ▸ List.mem_map_of_mem mem)
        rw [find_save_of_ne other_ne]
      change (((c.save doc).saveAll rest).docs.map f).sum = _
      rw [ih nodup.2, replaced, sum_map_save]
      simp only [List.map_cons, List.sum_cons]
      abel

end Collection
