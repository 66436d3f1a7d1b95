import Mathlib.Data.List.Basic

/-!
# Replacement templates

`String.prototype.replace` takes its second argument for a template: `$$` stands for `$` in it,
`$&` for the match, and `$` with a backtick or an apostrophe for what is ahead of the match and
behind it.  Where the match is the whole text nothing is ahead of it and behind it, and where
its expression has no groups `$` with a digit stands for itself.

A text that is its own template is expanded to itself just when it has none of these patterns:
what a pattern changes cannot be made up for by the others.
-/

namespace Substitution

/-- What `$` and a character behind it stand for. -/
inductive Pattern
  | dollar
  | matched
  | before
  | after
  deriving DecidableEq, Repr

/-- The backtick. -/
def backtick : Char := Char.ofNat 0x60

/-- The apostrophe. -/
def apostrophe : Char := Char.ofNat 0x27

/-- The pattern of `$` and a character. -/
def Pattern.ofChar (c : Char) : Option Pattern :=
  if c = '$' then some .dollar
  else if c = '&' then some .matched
  else if c = backtick then some .before
  else if c = apostrophe then some .after
  else none

/-- The text of a pattern, when the match is the whole text. -/
def Pattern.text (matched : List Char) : Pattern → List Char
  | .dollar => ['$']
  | .matched => matched
  | .before => []
  | .after => []

/-- The pattern that a template starts with. -/
def firstPattern? (c next : Char) : Option Pattern :=
  if c = '$' then Pattern.ofChar next else none

/-- The expansion of a template, when the match is the whole text. -/
def expand (matched : List Char) : (template : List Char) → List Char
  | [] => []
  | [c] => [c]
  | c :: next :: rest =>
      match firstPattern? c next with
      | some pattern => pattern.text matched ++ expand matched rest
      | none => c :: expand matched (next :: rest)

/-- The template has a pattern. -/
def hasPattern : (template : List Char) → Bool
  | [] => false
  | [_] => false
  | c :: next :: rest => (firstPattern? c next).isSome || hasPattern (next :: rest)

/-- The characters of the patterns that do not insert the match. -/
def IsQuiet (c : Char) : Prop := c = '$' ∨ c = backtick ∨ c = apostrophe

theorem eq_dollar_of_firstPattern? {c next : Char} {pattern : Pattern}
    (starts : firstPattern? c next = some pattern) :
    c = '$' ∧ Pattern.ofChar next = some pattern := by
  unfold firstPattern? at starts
  split at starts
  · rename_i dollar
    exact ⟨dollar, starts⟩
  · cases starts

theorem isQuiet_of_ofChar {c : Char} {pattern : Pattern} (ofChar : Pattern.ofChar c = some pattern)
    (other : pattern ≠ .matched) : IsQuiet c := by
  unfold Pattern.ofChar at ofChar
  unfold IsQuiet
  split at ofChar
  · exact .inl ‹_›
  · split at ofChar
    · exact absurd (Option.some.inj ofChar).symm other
    · split at ofChar
      · exact .inr (.inl ‹_›)
      · split at ofChar
        · exact .inr (.inr ‹_›)
        · cases ofChar

section

variable {m : Char} {matched : List Char}

/-- The expansion of a template never puts such characters ahead of the template: to make up for
them it would have to consume as many of them again. -/
theorem expand_ne_append (loud : ¬ IsQuiet m) (template : List Char) {ahead : List Char}
    (nonempty : ahead ≠ []) (quiet : ∀ c ∈ ahead, IsQuiet c) :
    expand (m :: matched) template ≠ ahead ++ template := by
  induction template using expand.induct generalizing ahead with
  | case1 =>
      rw [expand, List.append_nil]
      exact nonempty.symm
  | case2 c =>
      obtain ⟨first, others, rfl⟩ := List.exists_cons_of_ne_nil nonempty
      intro same
      have length := congrArg List.length same
      simp [expand] at length
  | case3 c next rest pattern starts ih =>
      obtain ⟨first, others, rfl⟩ := List.exists_cons_of_ne_nil nonempty
      obtain ⟨quietFirst, quietOthers⟩ := List.forall_mem_cons.mp quiet
      obtain ⟨rfl, ofChar⟩ := eq_dollar_of_firstPattern? starts
      rw [expand, starts]
      intro same
      have consumed : ∀ ahead' : List Char, ahead' ⊆ first :: others → pattern ≠ .matched →
          expand (m :: matched) rest ≠ (ahead' ++ ['$', next]) ++ rest := fun ahead' sub other =>
        ih (by simp) fun c mem => by
          rcases List.mem_append.mp mem with mem | mem
          · exact quiet c (sub mem)
          · rcases List.mem_cons.mp mem with rfl | mem
            · exact .inl rfl
            · exact List.mem_singleton.mp mem ▸ isQuiet_of_ofChar ofChar other
      cases pattern with
      | dollar =>
          refine consumed others (List.subset_cons_self _ _) (by decide) ?_
          have rest' := (List.cons.inj same).2
          rw [List.append_assoc]
          exact rest'
      | matched =>
          have heads : m = first := (List.cons.inj same).1
          exact loud (heads ▸ quietFirst)
      | before =>
          refine consumed (first :: others) (List.Subset.refl _) (by decide) ?_
          rw [List.append_assoc]
          exact same
      | after =>
          refine consumed (first :: others) (List.Subset.refl _) (by decide) ?_
          rw [List.append_assoc]
          exact same
  | case4 c next rest starts ih =>
      obtain ⟨first, others, rfl⟩ := List.exists_cons_of_ne_nil nonempty
      obtain ⟨quietFirst, quietOthers⟩ := List.forall_mem_cons.mp quiet
      rw [expand, starts]
      intro same
      obtain ⟨rfl, rest'⟩ := List.cons.inj same
      refine ih (List.concat_ne_nil c others) (fun d mem => ?_) ?_
      · rcases List.mem_append.mp mem with mem | mem
        · exact quietOthers d mem
        · exact List.mem_singleton.mp mem ▸ quietFirst
      · rw [List.append_assoc]
        exact rest'

/-- **A text as its own template.**  It is expanded to itself just when it has no pattern. -/
theorem expand_eq_self_iff (loud : ¬ IsQuiet m) (template : List Char) :
    expand (m :: matched) template = template ↔ hasPattern template = false := by
  induction template using expand.induct with
  | case1 => exact iff_of_true rfl rfl
  | case2 c => exact iff_of_true rfl rfl
  | case3 c next rest pattern starts ih =>
      obtain ⟨rfl, ofChar⟩ := eq_dollar_of_firstPattern? starts
      rw [expand, hasPattern, starts, Option.isSome_some, Bool.true_or]
      refine iff_of_false (fun same => ?_) Bool.true_eq_false.mp
      have quiet : pattern ≠ .matched → ∀ c ∈ ['$', next], IsQuiet c := fun other =>
        List.forall_mem_cons.mpr ⟨.inl rfl,
          List.forall_mem_singleton.mpr (isQuiet_of_ofChar ofChar other)⟩
      cases pattern with
      | dollar =>
          exact expand_ne_append loud rest (List.cons_ne_nil next [])
            (List.forall_mem_singleton.mpr (isQuiet_of_ofChar ofChar (by decide)))
            (List.cons.inj same).2
      | matched =>
          have heads : m = '$' := (List.cons.inj same).1
          exact loud (.inl heads)
      | before => exact expand_ne_append loud rest (List.cons_ne_nil _ _) (quiet (by decide)) same
      | after => exact expand_ne_append loud rest (List.cons_ne_nil _ _) (quiet (by decide)) same
  | case4 c next rest starts ih =>
      rw [expand, hasPattern, starts, Option.isSome_none, Bool.false_or, ← ih]
      exact ⟨fun same => (List.cons.inj same).2, fun same => congrArg _ same⟩

end

end Substitution
