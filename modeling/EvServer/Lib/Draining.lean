import Mathlib.Data.List.Nodup

/-!
# Working off a queue page by page

A worker reads the first page of a queue, handles its elements one after the other, and reads
the first page again, until there is none.  The queue is read off the state, which handling
changes: an element that has been handled must not be in the queue any more, and the others
must keep their places.  Then the pages do not matter: the elements are handled once each, in
the order in which they were waiting.
-/

namespace Draining

universe u v

variable {σ : Type u} {α : Type v}

/-- Read a page, handle it, and go on until a page is empty. -/
def drain (queue : σ → List α) (handle : σ → α → σ) (limit : ℕ) : ℕ → σ → σ
  | 0, s => s
  | fuel + 1, s =>
      if ((queue s).take limit).isEmpty then s
      else drain queue handle limit fuel (((queue s).take limit).foldl handle s)

/-- To handle the first element of the queue takes it off the queue, and no other. -/
def Serves (queue : σ → List α) (handle : σ → α → σ) : Prop :=
  ∀ s a rest, queue s = a :: rest → queue (handle s a) = rest

variable {queue : σ → List α} {handle : σ → α → σ} {limit fuel : ℕ} {s : σ}

/-- The elements behind the page are still waiting when the page has been handled. -/
theorem queue_foldl_take (serves : Serves queue handle) (n : ℕ) (s : σ) :
    queue (((queue s).take n).foldl handle s) = (queue s).drop n := by
  induction n generalizing s with
  | zero => rfl
  | succ n ih =>
      rcases h : queue s with _ | ⟨a, rest⟩
      · exact h
      · have next := ih (handle s a)
        rw [serves s a rest h] at next
        exact next

/-- **The pages do not matter.** -/
theorem drain_eq_foldl (serves : Serves queue handle) (pos : 0 < limit)
    (enough : (queue s).length < fuel) :
    drain queue handle limit fuel s = (queue s).foldl handle s := by
  induction fuel generalizing s with
  | zero => exact absurd enough (Nat.not_lt_zero _)
  | succ fuel ih =>
      rw [drain]
      split
      · rename_i empty
        rw [List.isEmpty_iff, List.take_eq_nil_iff] at empty
        rw [empty.resolve_left (Nat.ne_of_gt pos), List.foldl_nil]
      · rename_i waiting
        rw [List.isEmpty_iff, List.take_eq_nil_iff] at waiting
        have some : 0 < (queue s).length :=
          List.length_pos_iff.mpr fun empty => waiting (.inr empty)
        have behind := queue_foldl_take serves limit s
        have fewer : ((queue s).drop limit).length < fuel := by
          rw [List.length_drop]
          omega
        rw [ih (by rwa [behind]), behind, ← List.foldl_append, List.take_append_drop]

/-- Nobody waits in the end. -/
theorem queue_drain (serves : Serves queue handle) (pos : 0 < limit)
    (enough : (queue s).length < fuel) : queue (drain queue handle limit fuel s) = [] := by
  have behind := queue_foldl_take serves (queue s).length s
  rwa [List.take_length, List.drop_length, ← drain_eq_foldl serves pos enough] at behind

/-! ## What handling the elements establishes -/

variable {I : σ → Prop} {P : α → σ → Prop} {R : α → α → Prop} {l : List α}

/-- What handling keeps holds in the end. -/
theorem foldl_invariant (kept : ∀ s, ∀ a ∈ l, I s → I (handle s a)) (inv : I s) :
    I (l.foldl handle s) := by
  induction l generalizing s with
  | nil => exact inv
  | cons a rest ih =>
      refine ih (fun s b mem => kept s b (List.mem_cons_of_mem _ mem)) ?_
      exact kept s a List.mem_cons_self inv

/-- What handling an element establishes of it, and handling the elements apart from it keeps,
holds in the end of all elements. -/
theorem forall_mem_foldl (apart : l.Pairwise R) (kept : ∀ s, ∀ a ∈ l, I s → I (handle s a))
    (established : ∀ s, ∀ a ∈ l, I s → P a (handle s a))
    (stays : ∀ s a, ∀ b ∈ l, I s → R a b → P a s → P a (handle s b)) (inv : I s) :
    ∀ a ∈ l, P a (l.foldl handle s) := by
  induction l generalizing s with
  | nil => exact fun a mem => nomatch mem
  | cons a rest ih =>
      obtain ⟨first, apart⟩ := List.pairwise_cons.mp apart
      have inv' : I (handle s a) := kept s a List.mem_cons_self inv
      have kept' := fun s b (mem : b ∈ rest) => kept s b (List.mem_cons_of_mem _ mem)
      intro b mem
      rcases List.mem_cons.mp mem with rfl | later
      · have both : I (rest.foldl handle (handle s b)) ∧ P b (rest.foldl handle (handle s b)) := by
          refine foldl_invariant (I := fun s => I s ∧ P b s) (fun s c behind holds => ?_)
            ⟨inv', established s b List.mem_cons_self inv⟩
          exact ⟨kept' s c behind holds.1,
            stays s b c (List.mem_cons_of_mem _ behind) holds.1 (first c behind) holds.2⟩
        exact both.2
      · exact ih apart kept' (fun s c behind => established s c (List.mem_cons_of_mem _ behind))
          (fun s c d behind => stays s c d (List.mem_cons_of_mem _ behind)) inv' b later

end Draining
