import Mathlib.Algebra.BigOperators.Group.List.Basic
import Mathlib.Data.List.ModifyLast
import Mathlib.Data.List.Induction
import Mathlib.Data.List.Sort
import Mathlib.Tactic.Abel

/-!
# Lists with keys

A list of key and value pairs in which a key stands once is an ordered record.
`upsert key f` changes the entry of a key, or adds one at the end; `f` is told what
was there.  Lookups are `List.lookup`.

The last sections are about a list with distinct keys that is split in two, and about the end
of a list: what changing it and what a stable sort leave there.
-/

namespace KeyedList

universe u v

variable {K : Type u} {V : Type v} [DecidableEq K]

/-- Change the entry of a key, or add one at the end. -/
def upsert (key : K) (f : Option V → V) : List (K × V) → List (K × V)
  | [] => [(key, f none)]
  | (k, value) :: rest =>
      if k = key then (k, f (some value)) :: rest else (k, value) :: upsert key f rest

variable {key k : K} {f : Option V → V} {entries : List (K × V)}

@[simp] theorem upsert_nil : upsert key f [] = [(key, f none)] := rfl

theorem upsert_cons_self (value : V) (rest : List (K × V)) :
    upsert key f ((key, value) :: rest) = (key, f (some value)) :: rest := by
  simp [upsert]

theorem upsert_cons_of_ne (h : k ≠ key) (value : V) (rest : List (K × V)) :
    upsert key f ((k, value) :: rest) = (k, value) :: upsert key f rest := by
  simp [upsert, h]

/-- The entry of the key is what `f` makes of the entry that was there. -/
theorem lookup_upsert_self :
    (upsert key f entries).lookup key = some (f (entries.lookup key)) := by
  induction entries with
  | nil => simp
  | cons entry rest ih =>
      obtain ⟨k, value⟩ := entry
      by_cases h : k = key
      · subst h
        rw [upsert_cons_self, List.lookup_cons_self, List.lookup_cons_self]
      · have distinct : (key == k) = false := beq_false_of_ne (Ne.symm h)
        rw [upsert_cons_of_ne h, List.lookup_cons, List.lookup_cons, distinct]
        exact ih

/-- The entries of the other keys stay. -/
theorem lookup_upsert_of_ne (h : k ≠ key) :
    (upsert key f entries).lookup k = entries.lookup k := by
  induction entries with
  | nil =>
      have distinct : (k == key) = false := beq_false_of_ne h
      simp [List.lookup_cons, distinct]
  | cons entry rest ih =>
      obtain ⟨k', value⟩ := entry
      by_cases h' : k' = key
      · subst h'
        have distinct : (k == k') = false := beq_false_of_ne h
        rw [upsert_cons_self, List.lookup_cons, List.lookup_cons, distinct]
      · rw [upsert_cons_of_ne h', List.lookup_cons, List.lookup_cons, ih]

/-- What holds of the entries, and of the new one, holds of the new entries. -/
theorem forall_mem_upsert {P : K × V → Prop} (old : ∀ entry ∈ entries, P entry)
    (new : P (key, f (entries.lookup key))) : ∀ entry ∈ upsert key f entries, P entry := by
  induction entries with
  | nil => simpa using new
  | cons entry rest ih =>
      obtain ⟨k, value⟩ := entry
      rw [List.forall_mem_cons] at old
      by_cases h : k = key
      · subst h
        rw [List.lookup_cons_self] at new
        rw [upsert_cons_self, List.forall_mem_cons]
        exact ⟨new, old.2⟩
      · have distinct : (key == k) = false := beq_false_of_ne (Ne.symm h)
        rw [List.lookup_cons, distinct] at new
        rw [upsert_cons_of_ne h, List.forall_mem_cons]
        exact ⟨old.1, ih old.2 new⟩

/-- Keys are only added, at the end. -/
theorem keys_upsert :
    (upsert key f entries).map Prod.fst =
      if key ∈ entries.map Prod.fst then entries.map Prod.fst
      else entries.map Prod.fst ++ [key] := by
  induction entries with
  | nil => simp
  | cons entry rest ih =>
      obtain ⟨k, value⟩ := entry
      by_cases h : k = key
      · subst h
        simp [upsert_cons_self]
      · rw [upsert_cons_of_ne h, List.map_cons, ih, List.map_cons]
        have : key ∈ k :: rest.map Prod.fst ↔ key ∈ rest.map Prod.fst := by
          simp [Ne.symm h]
        simp only [this]
        split <;> simp

/-- A key stands once, before and after. -/
theorem nodup_keys_upsert (h : (entries.map Prod.fst).Nodup) :
    ((upsert key f entries).map Prod.fst).Nodup := by
  rw [keys_upsert]
  split
  · exact h
  · rename_i fresh
    rw [List.nodup_append]
    refine ⟨h, List.nodup_singleton _, ?_⟩
    intro a ha b hb
    rw [List.mem_singleton] at hb
    subst hb
    exact fun equal => fresh (equal ▸ ha)

/-- What the entries come to changes by the change of the entry. -/
theorem sum_map_upsert {M : Type*} [AddCommGroup M] (weight : K × V → M) :
    ((upsert key f entries).map weight).sum =
      (entries.map weight).sum + weight (key, f (entries.lookup key)) -
        ((entries.lookup key).map fun value => weight (key, value)).getD 0 := by
  induction entries with
  | nil => simp
  | cons entry rest ih =>
      obtain ⟨k, value⟩ := entry
      by_cases h : k = key
      · subst h
        rw [upsert_cons_self, List.lookup_cons_self]
        simp only [List.map_cons, List.sum_cons, Option.map_some, Option.getD_some]
        abel
      · have distinct : (key == k) = false := beq_false_of_ne (Ne.symm h)
        rw [upsert_cons_of_ne h, List.lookup_cons, distinct]
        simp only [List.map_cons, List.sum_cons, ih]
        abel

/-- The sum of the values changes by the change of the entry. -/
theorem sum_upsert [AddCommGroup V] :
    ((upsert key f entries).map Prod.snd).sum =
      (entries.map Prod.snd).sum + f (entries.lookup key) - (entries.lookup key).getD 0 := by
  rw [sum_map_upsert, Option.map_id']

/-- Of distinct keys, the entries are what the lookups find. -/
theorem mem_iff_lookup_eq_some {value : V} (nodup : (entries.map Prod.fst).Nodup) :
    (k, value) ∈ entries ↔ entries.lookup k = some value := by
  induction entries with
  | nil => simp
  | cons entry rest ih =>
      obtain ⟨k', value'⟩ := entry
      obtain ⟨fresh, nodup⟩ := List.nodup_cons.mp nodup
      by_cases same : k = k'
      · subst same
        have notInRest : (k, value) ∉ rest := fun mem => fresh (List.mem_map.mpr ⟨_, mem, rfl⟩)
        rw [List.lookup_cons_self, List.mem_cons]
        simp [notInRest, eq_comm]
      · have distinct : (k == k') = false := beq_false_of_ne same
        rw [List.lookup_cons, distinct, List.mem_cons, ih nodup]
        simp [same]

/-! ## What was said last of a key -/

section KeepLast

variable {A : Type*} {keyOf : A → K} {said : A → Option V}

/-- File an element under its key: what it says replaces what was said before, and the key
is noted even of an element that says nothing. -/
def keepLast (keyOf : A → K) (said : A → Option V) (entries : List (K × Option V)) (a : A) :
    List (K × Option V) :=
  upsert (keyOf a) (fun old => (said a).or old.join) entries

theorem nodup_keys_foldl_keepLast (l : List A) :
    ((l.foldl (keepLast keyOf said) []).map Prod.fst).Nodup := by
  induction l using List.reverseRecOn with
  | nil => exact List.nodup_nil
  | append_singleton l a ih =>
      rw [List.foldl_append, List.foldl_cons, List.foldl_nil]
      exact nodup_keys_upsert ih

/-- **What is filed** under a key is what the elements of this key said last. -/
theorem lookup_foldl_keepLast (l : List A) (k : K) :
    (l.foldl (keepLast keyOf said) []).lookup k =
      if k ∈ l.map keyOf then some ((l.filter (keyOf · = k)).filterMap said).getLast? else none := by
  induction l using List.reverseRecOn with
  | nil => rfl
  | append_singleton l a ih =>
      rw [List.foldl_append, List.foldl_cons, List.foldl_nil, List.filter_append,
        List.filterMap_append, List.map_append]
      by_cases same : k = keyOf a
      · subst same
        have before : ((l.foldl (keepLast keyOf said) []).lookup (keyOf a)).join =
            ((l.filter (keyOf · = keyOf a)).filterMap said).getLast? := by
          rw [ih]
          split
          · rfl
          · rename_i unmet
            have none : l.filter (keyOf · = keyOf a) = [] := by
              refine List.filter_eq_nil_iff.mpr fun b mem same => unmet ?_
              exact List.mem_map.mpr ⟨b, mem, of_decide_eq_true same⟩
            rw [none]
            rfl
        rw [keepLast, lookup_upsert_self, before, if_pos (by simp)]
        have self : [a].filter (keyOf · = keyOf a) = [a] := by simp
        have last : ([a].filterMap said).getLast? = said a := by
          cases h : said a <;> simp [h]
        rw [self, List.getLast?_append, last]
      · have other : [a].filter (keyOf · = k) = [] := by simp [Ne.symm same]
        have noted : k ∈ l.map keyOf ++ [a].map keyOf ↔ k ∈ l.map keyOf := by simp [same]
        rw [keepLast, lookup_upsert_of_ne same, ih, other]
        simp only [noted, List.filterMap_nil, List.append_nil]

/-- The entries filed, key by key. -/
theorem forall_mem_foldl_keepLast {P : K → Option V → Prop} (l : List A) :
    (∀ entry ∈ l.foldl (keepLast keyOf said) [], P entry.1 entry.2) ↔
      ∀ a ∈ l, P (keyOf a) ((l.filter (keyOf · = keyOf a)).filterMap said).getLast? := by
  have filed {k : K} {content : Option V} :
      (k, content) ∈ l.foldl (keepLast keyOf said) [] ↔
        k ∈ l.map keyOf ∧ ((l.filter (keyOf · = k)).filterMap said).getLast? = content := by
    rw [mem_iff_lookup_eq_some (nodup_keys_foldl_keepLast l), lookup_foldl_keepLast]
    split <;> simp [*]
  constructor
  · intro holds a mem
    exact holds (keyOf a, _) (filed.mpr ⟨List.mem_map_of_mem mem, rfl⟩)
  · rintro holds ⟨k, content⟩ mem
    obtain ⟨met, rfl⟩ := filed.mp mem
    obtain ⟨a, inList, rfl⟩ := List.mem_map.mp met
    exact holds a inList

end KeepLast

/-! ## Searches -/

/-- A search that finds nothing in the elements of other keys looks at one element only. -/
theorem findSome?_eq_of_nodup {A : Type*} {B : Type*} {C : Type*} {key : A → C} {l : List A}
    {f : A → Option B} {a : A} (nodup : (l.map key).Nodup) (mem : a ∈ l)
    (others : ∀ x ∈ l, key x ≠ key a → f x = none) : l.findSome? f = f a := by
  induction l with
  | nil => cases mem
  | cons x rest ih =>
      obtain ⟨fresh, nodup⟩ := List.nodup_cons.mp nodup
      obtain ⟨-, others'⟩ := List.forall_mem_cons.mp others
      rw [List.findSome?_cons]
      rcases List.mem_cons.mp mem with rfl | mem
      · have none : rest.findSome? f = none := by
          refine List.findSome?_eq_none_iff.mpr fun y inRest => others' y inRest fun same => ?_
          exact fresh (same ▸ List.mem_map_of_mem inRest)
        rw [none]
        cases f a with
        | none => rfl
        | some _ => rfl
      · have other : key x ≠ key a := fun same => fresh (same ▸ List.mem_map_of_mem mem)
        rw [others x List.mem_cons_self other]
        exact ih nodup mem others'

/-- Two searches that would both stop where the other one does stop at one element. -/
theorem find?_unique {A : Type*} {l : List A} {p q : A → Bool} {a b : A} (foundP : l.find? p = some a)
    (foundQ : l.find? q = some b) (pb : p b) (qa : q a) : a = b := by
  induction l with
  | nil => cases foundP
  | cons x rest ih =>
      by_cases px : p x
      · rw [List.find?_cons_of_pos px] at foundP
        obtain rfl := Option.some.inj foundP
        rw [List.find?_cons_of_pos qa] at foundQ
        exact Option.some.inj foundQ
      · rw [List.find?_cons_of_neg px] at foundP
        by_cases qx : q x
        · rw [List.find?_cons_of_pos qx] at foundQ
          obtain rfl := Option.some.inj foundQ
          exact absurd pb px
        · rw [List.find?_cons_of_neg qx] at foundQ
          exact ih foundP foundQ

/-- What passes a test that no element fails ahead of one that passes it stands in front. -/
theorem takeWhile_eq_filter {A : Type*} {l : List A} {p : A → Bool}
    (front : l.Pairwise fun x y => p y → p x) : l.takeWhile p = l.filter p := by
  induction l with
  | nil => rfl
  | cons x rest ih =>
      obtain ⟨first, front⟩ := List.pairwise_cons.mp front
      by_cases px : p x
      · rw [List.takeWhile_cons_of_pos px, List.filter_cons_of_pos px, ih front]
      · have none : rest.filter p = [] :=
          List.filter_eq_nil_iff.mpr fun y mem py => px (first y mem py)
        rw [List.takeWhile_cons_of_neg px, List.filter_cons_of_neg px, none]

/-! ## A list that is split in two -/

/-- Of a list that is split in two, what is not chosen from the second part by its keys is the
first part and the others of the second. -/
theorem filter_notMem_keys_perm {α : Type u} {key : α → K} {whole out left : List α}
    (split : (out ++ left).Perm whole) (nodup : (whole.map key).Nodup) (chosen : α → Bool) :
    (whole.filter fun a => key a ∉ (left.filter chosen).map key).Perm
      (out ++ left.filter fun a => !chosen a) := by
  have apart : ((out ++ left).map key).Nodup := (split.map key).nodup_iff.mpr nodup
  rw [List.map_append, List.nodup_append] at apart
  obtain ⟨-, apartLeft, disjoint⟩ := apart
  have outside : (out.filter fun a => key a ∉ (left.filter chosen).map key) = out := by
    refine List.filter_eq_self.mpr fun a mem => decide_eq_true fun chosenKey => ?_
    obtain ⟨b, memLeft, same⟩ := List.mem_map.mp chosenKey
    exact disjoint (key a) (List.mem_map_of_mem mem) (key b)
      (List.mem_map_of_mem (List.mem_filter.mp memLeft).1) same.symm
  have others : (left.filter fun a => key a ∉ (left.filter chosen).map key) =
      left.filter fun a => !chosen a := by
    refine List.filter_congr fun a mem => ?_
    have inChosen : key a ∈ (left.filter chosen).map key ↔ chosen a := by
      constructor
      · intro chosenKey
        obtain ⟨b, memLeft, same⟩ := List.mem_map.mp chosenKey
        have equal := List.inj_on_of_nodup_map apartLeft (List.mem_filter.mp memLeft).1 mem same
        exact equal ▸ (List.mem_filter.mp memLeft).2
      · intro isChosen
        exact List.mem_map_of_mem (List.mem_filter.mpr ⟨mem, isChosen⟩)
    cases isChosen : chosen a with
    | true => exact decide_eq_false (not_not.mpr (inChosen.mpr isChosen))
    | false =>
        refine decide_eq_true fun chosenKey => ?_
        rw [inChosen.mp chosenKey] at isChosen
        cases isChosen
  have := split.symm.filter fun a => decide (key a ∉ (left.filter chosen).map key)
  rwa [List.filter_append, outside, others] at this

/-! ## The end of a list -/

theorem getLast?_modifyLast {α : Type u} (f : α → α) (l : List α) :
    (l.modifyLast f).getLast? = l.getLast?.map f := by
  rcases List.eq_nil_or_concat l with rfl | ⟨init, last, rfl⟩
  · rfl
  · rw [List.concat_eq_append, List.modifyLast_concat]
    simp

/-- Nothing that stands behind the element a stable sort puts last could be sorted
behind it. -/
theorem not_rel_of_getLast?_insertionSort {α : Type u} {r : α → α → Prop} [DecidableRel r]
    [Std.Total r] [IsTrans α r] {l : List α} (nodup : l.Nodup) {x y : α}
    (last : (l.insertionSort r).getLast? = some x) (behind : List.Sublist [x, y] l) :
    ¬ r x y := by
  intro hxy
  obtain ⟨init, sorted⟩ := List.getLast?_eq_some_iff.mp last
  have distinct : (init ++ [x]).Nodup :=
    sorted ▸ (List.perm_insertionSort r l).nodup_iff.mpr nodup
  have notMem : x ∉ init := by
    intro mem
    rw [List.nodup_append] at distinct
    exact distinct.2.2 x mem x (List.mem_singleton_self x) rfl
  have pair : List.Sublist [x, y] (init ++ [x]) :=
    sorted ▸ List.pair_sublist_insertionSort hxy behind
  obtain ⟨first, second, split, hfirst, hsecond⟩ := List.sublist_append_iff.mp pair
  cases first with
  | nil =>
      rw [List.nil_append] at split
      rw [← split] at hsecond
      exact absurd hsecond.length_le (by simp)
  | cons a rest =>
      rw [List.cons_append, List.cons.injEq] at split
      exact notMem (hfirst.subset (split.1 ▸ List.mem_cons_self))

end KeyedList
