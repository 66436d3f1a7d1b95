import Mathlib.Data.List.Basic

/-!
# Access control by roles

A definition lists, for each role, the grants of the role and the roles it extends.  What a
request for an action on a resource is decided by are the rules of that pair: the conditions
and the attributes of the grants that cover it.  A library that answers requests evaluates
such rules; a condition may also write to the context of the request.
-/

universe u v

namespace AccessControl

/-- What holds for a pair of a resource and an action: no condition is always met. -/
structure Rule (Condition : Type u) where
  condition : Option Condition
  attributes : List String

/-- A grant of a role. -/
structure Grant (Resource Action Condition : Type u) where
  resource : Resource
  action : List Action
  condition : Option Condition := none
  attributes : List String := []

/-- The grants of a role, and the roles whose grants it has as well. -/
structure RoleDefinition (Role Resource Action Condition : Type u) where
  extend : List Role := []
  grants : List (Grant Resource Action Condition)

/-- The grants of all roles. -/
abbrev Definition (Role Resource Action Condition : Type u) :=
  Role → RoleDefinition Role Resource Action Condition

variable {Role Resource Action Condition : Type u}

section Rules

variable [DecidableEq Resource] [DecidableEq Action]

/-- The rules of a pair in a list of grants. -/
def rulesFor (resource : Resource) (action : Action)
    (grants : List (Grant Resource Action Condition)) : List (Rule Condition) :=
  (grants.filter fun grant => grant.resource = resource ∧ action ∈ grant.action).map fun grant =>
    ⟨grant.condition, grant.attributes⟩

/-- The rules of a pair for somebody with the roles. -/
def Definition.rules (definition : Definition Role Resource Action Condition)
    (roles : List Role) (resource : Resource) (action : Action) : List (Rule Condition) :=
  (roles ++ roles.flatMap fun role => (definition role).extend).flatMap fun role =>
    rulesFor resource action (definition role).grants

/-- Two definitions that differ in the grants of one pair at most. -/
structure AgreeExcept (pair : Resource × Action)
    (definition definition' : Definition Role Resource Action Condition) : Prop where
  extend : ∀ role, (definition role).extend = (definition' role).extend
  rules : ∀ role resource action, (resource, action) ≠ pair →
    rulesFor resource action (definition role).grants =
      rulesFor resource action (definition' role).grants

variable {definition definition' : Definition Role Resource Action Condition}
variable {roles : List Role} {resource : Resource} {action : Action}
variable {pair : Resource × Action}

theorem AgreeExcept.rules_eq (agree : AgreeExcept pair definition definition')
    (other : (resource, action) ≠ pair) :
    definition.rules roles resource action = definition'.rules roles resource action := by
  have extend : (fun role => (definition role).extend) = fun role => (definition' role).extend :=
    funext agree.extend
  have rules : (fun role => rulesFor resource action (definition role).grants) =
      fun role => rulesFor resource action (definition' role).grants :=
    funext fun role => agree.rules role resource action other
  rw [Definition.rules, Definition.rules, extend, rules]

theorem mem_rules {rule : Rule Condition} :
    rule ∈ definition.rules roles resource action ↔
      ∃ role, (role ∈ roles ∨ ∃ r ∈ roles, role ∈ (definition r).extend) ∧
        rule ∈ rulesFor resource action (definition role).grants := by
  simp only [Definition.rules, List.mem_flatMap, List.mem_append]

end Rules

/-! ## Evaluating the rules -/

/-- What is known of the conditions: whether one is met in a context, and what its evaluation
leaves there. -/
structure Semantics (Condition Context : Type u) where
  holds : Condition → Context → Bool
  write : Condition → Context → Context

variable {Context : Type u} (semantics : Semantics Condition Context)

/-- A rule is met when its condition is. -/
def Rule.holds (rule : Rule Condition) (context : Context) : Bool :=
  rule.condition.all fun condition => semantics.holds condition context

/-- The context that the evaluation of a rule leaves. -/
def Rule.write (context : Context) (rule : Rule Condition) : Context :=
  rule.condition.elim context fun condition => semantics.write condition context

/-- Rules without a condition leave the context alone. -/
theorem foldl_write_of_unconditional {rules : List (Rule Condition)}
    (unconditional : ∀ rule ∈ rules, rule.condition = none) (context : Context) :
    rules.foldl (Rule.write semantics) context = context := by
  induction rules with
  | nil => rfl
  | cons rule rules ih =>
      have unwritten : rule.write semantics context = context := by
        rw [Rule.write, unconditional rule List.mem_cons_self]
        rfl
      rw [List.foldl_cons, unwritten]
      exact ih fun rule mem => unconditional rule (List.mem_cons_of_mem _ mem)

/-- The answer to a request. -/
structure Permission (Context : Type u) where
  granted : Bool
  attributes : List String
  context : Context

/-- A library that answers requests: the answer depends on the rules of the pair that is asked
for and no others, it grants the action exactly when one of them is met, and the context is
left as the rules that it evaluated leave it, a rule that is met among them. -/
structure Library (Role Resource Action : Type u) [DecidableEq Resource] [DecidableEq Action]
    (semantics : Semantics Condition Context) where
  can : Definition Role Resource Action Condition → List Role → Resource → Action → Context →
    Permission Context
  local_rules : ∀ definition definition' roles resource action context,
    definition.rules roles resource action = definition'.rules roles resource action →
      can definition roles resource action context = can definition' roles resource action context
  granted_iff : ∀ definition roles resource action context,
    (can definition roles resource action context).granted = true ↔
      ∃ rule ∈ definition.rules roles resource action, rule.holds semantics context = true
  evaluates : ∀ definition roles resource action context,
    ∃ evaluated : List (Rule Condition),
      (∀ rule ∈ evaluated, rule ∈ definition.rules roles resource action) ∧
      (can definition roles resource action context).context =
        evaluated.foldl (Rule.write semantics) context ∧
      ((can definition roles resource action context).granted = true →
        ∃ rule ∈ evaluated, rule.holds semantics context = true)

/-- A library that evaluates all rules of the pair, one after the other. -/
def Library.inOrder [DecidableEq Resource] [DecidableEq Action] :
    Library Role Resource Action semantics where
  can definition roles resource action context :=
    let rules := definition.rules roles resource action
    { granted := rules.any fun rule => rule.holds semantics context
      attributes := (rules.filter fun rule => rule.holds semantics context).flatMap Rule.attributes
      context := rules.foldl (Rule.write semantics) context }
  local_rules _ _ _ _ _ _ same := by simp only [same]
  granted_iff _ _ _ _ _ := List.any_eq_true
  evaluates definition roles resource action _ :=
    ⟨definition.rules roles resource action, fun _ mem => mem, rfl, List.any_eq_true.mp⟩

end AccessControl
