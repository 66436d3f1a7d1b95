import Mathlib.Logic.Basic

/-!
# Properties of objects from outside

A property of an object that a client sends may be absent, `null` or have a value.  One object is
laid over another property by property: what is absent leaves the other in place (`laidOver`).  Code
that asks first whether a property passes a test keeps the other one in more cases (`laidOverIf`).
-/

universe u

/-- A property of an object. -/
inductive Property (α : Type u)
  | absent
  | null
  | value (a : α)
  deriving DecidableEq, Repr

namespace Property

variable {α : Type u}

/-- The value, if there is one. -/
def toOption : Property α → Option α
  | value a => some a
  | _ => none

/-- There is a value, and it passes the test. -/
def passes (p : α → Bool) : Property α → Bool
  | value a => p a
  | _ => false

/-- The property, or the other one where it is absent. -/
def laidOver : Property α → Property α → Property α
  | absent, other => other
  | property, _ => property

/-- The property, or the other one where it does not pass the test. -/
def laidOverIf (p : α → Bool) (property other : Property α) : Property α :=
  if property.passes p then property else other

variable {p : α → Bool} {property other : Property α}

theorem passes_iff : property.passes p = true ↔ ∃ a, property = value a ∧ p a = true := by
  cases property <;> simp [passes]

theorem laidOver_eq_iff :
    property.laidOver other = other ↔ property = absent ∨ property = other := by
  cases property <;> simp [laidOver]

theorem eq_laidOver_iff :
    other = property.laidOver other ↔ property = absent ∨ property = other := by
  rw [eq_comm, laidOver_eq_iff]

theorem laidOverIf_eq_iff :
    property.laidOverIf p other = other ↔ (property.passes p = true → property = other) := by
  by_cases taken : property.passes p = true <;> simp [laidOverIf, taken]

/-- The test makes no difference where it is passed, where there is nothing to take over and
where nothing changes. -/
theorem laidOverIf_eq_laidOver_iff : property.laidOverIf p other = property.laidOver other ↔
    property = absent ∨ property.passes p = true ∨ property = other := by
  by_cases taken : property.passes p = true
  · obtain ⟨a, rfl, _⟩ := passes_iff.mp taken
    simp [laidOverIf, taken, laidOver]
  · rw [laidOverIf, if_neg taken, eq_comm, laidOver_eq_iff]
    simp only [taken, Bool.false_eq_true, false_or]

end Property
