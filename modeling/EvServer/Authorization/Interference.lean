import EvServer.Authorization.EntityAuthorization

/-!
# Which grants a permission depends on

Whether an action on a site or on a site area is permitted should depend on the grants of that
pair alone.  What was left on the shared filter by the checks before does not matter to a check,
but some flags look at the grants of another pair: `canUpdate` and `canDelete` of a site area are
exchanged, and some flags of a site are those of site areas, or of the assignment of users.

The definitions are arbitrary here, and two of them are compared that differ in one pair.
-/

namespace EvServer.Authorization

open AccessControl

namespace AuthorizationService

section SharedFilter

variable {sources : DataSources} {extra : ExtraFilters} {entityData : Option EntityData}
variable {filter filter' : AuthorizationFilter}

theorem processFilter_authorized (same : filter.authorized = filter'.authorized)
    (name : DynamicAuthorizationFilterName) :
    (processFilter sources extra filter entityData name).authorized =
      (processFilter sources extra filter' entityData name).authorized := by
  cases name <;> simp [processFilter, processSites, AuthorizationFilter.authorizeIDs, same]

theorem processAnyFilter_authorized (same : filter.authorized = filter'.authorized)
    (authorized : Bool) (names : List (Negatable DynamicAuthorizationFilterName)) :
    (processAnyFilter sources extra entityData authorized names filter).authorized =
      (processAnyFilter sources extra entityData authorized names filter').authorized := by
  induction names generalizing authorized filter filter' with
  | nil => rfl
  | cons name names ih =>
      simp only [processAnyFilter, processFilter_authorized same]
      apply ih
      rfl

theorem processDynamicFilters_authorized (same : filter.authorized = filter'.authorized)
    (filters : AndOfOrs DynamicAuthorizationFilterName) :
    (processDynamicFilters sources extra entityData filters filter).authorized =
      (processDynamicFilters sources extra entityData filters filter').authorized := by
  induction filters generalizing filter filter' with
  | nil => exact same
  | cons names filters ih =>
      have processed :
          (processAnyFilter sources extra entityData false names
            { filter with authorized := false }).authorized =
          (processAnyFilter sources extra entityData false names
            { filter' with authorized := false }).authorized := by
        apply processAnyFilter_authorized
        rfl
      simp only [processDynamicFilters, processed]
      split
      · exact ih processed
      · exact processed

end SharedFilter

section Flags

variable {acl : RoleAcl} {definition definition' : AuthorizationDefinition}
variable {organization : Organization} {userToken : UserToken}
variable {authEntity : Entity} {authAction : Action} {extra : ExtraFilters}

/-- Whether an action is permitted, on a new filter. -/
def permits (acl : RoleAcl) (definition : AuthorizationDefinition) (organization : Organization)
    (userToken : UserToken) (extra : ExtraFilters) (entityData : EntityData) (authEntity : Entity)
    (authAction : Action) : Bool :=
  (canPerformAuthorizationAction acl definition organization userToken authEntity authAction extra
    (some entityData) {}).authorized

theorem processDynamicAsserts_authorized {asserts : AndOfOrs DynamicAuthorizationAssertName}
    {entityData : Option EntityData} {filter filter' : AuthorizationFilter}
    (same : filter.authorized = filter'.authorized) :
    (processDynamicAsserts userToken entityData asserts filter).authorized =
      (processDynamicAsserts userToken entityData asserts filter').authorized := by
  rcases entityData with _ | entityData
  · exact same
  · simp only [processDynamicAsserts]
    split
    · exact same
    · rfl

/-- A check does not depend on the filter it is made on. -/
theorem canPerformAuthorizationAction_authorized {entityData : Option EntityData}
    (filter filter' : AuthorizationFilter) :
    (canPerformAuthorizationAction acl definition organization userToken authEntity authAction
        extra entityData filter).authorized =
      (canPerformAuthorizationAction acl definition organization userToken authEntity authAction
        extra entityData filter').authorized := by
  simp only [canPerformAuthorizationAction]
  generalize can acl definition userToken authEntity authAction {} = authResult
  split
  · have processed :
        (processDynamicFilters
          (DynamicAuthorizationFactory.getDynamicDataSources organization userToken.id) extra
          entityData authResult.context.filters
          { filter with authorized := authResult.granted }).authorized =
        (processDynamicFilters
          (DynamicAuthorizationFactory.getDynamicDataSources organization userToken.id) extra
          entityData authResult.context.filters
          { filter' with authorized := authResult.granted }).authorized := by
      apply processDynamicFilters_authorized
      rfl
    simp only [processed]
    split
    · apply processDynamicAsserts_authorized
      rfl
    · exact processed
  · rfl

theorem mem_addAuthorizations {entityData : EntityData} {flags : List Flag} {name : String}
    {filter : AuthorizationFilter} :
    name ∈ addAuthorizations acl definition organization userToken extra entityData flags filter ↔
      ∃ flag ∈ flags, flag.name = name ∧
        permits acl definition organization userToken extra entityData flag.entity flag.action := by
  induction flags generalizing filter with
  | nil => simp [addAuthorizations]
  | cons flag flags ih =>
      have first :
          (canPerformAuthorizationAction acl definition organization userToken flag.entity
            flag.action extra (some entityData) filter).authorized =
          permits acl definition organization userToken extra entityData flag.entity flag.action :=
        canPerformAuthorizationAction_authorized filter {}
      rw [addAuthorizations]
      by_cases permitted :
          permits acl definition organization userToken extra entityData flag.entity flag.action
      · rw [if_pos (first.trans permitted), List.mem_cons, ih, List.exists_mem_cons_iff]
        simp only [permitted, and_true, eq_comm (a := name)]
      · rw [if_neg (by rw [first]; exact permitted), ih, List.exists_mem_cons_iff]
        simp [permitted]

/-- A pair whose rules are the same is permitted alike. -/
theorem can_congr {context : AuthorizationContext}
    (same : definition.rules userToken.rolesACL authEntity authAction =
      definition'.rules userToken.rolesACL authEntity authAction) :
    can acl definition userToken authEntity authAction context =
      can acl definition' userToken authEntity authAction context :=
  acl.local_rules _ _ _ _ _ _ same

theorem permits_congr {entityData : EntityData}
    (same : definition.rules userToken.rolesACL authEntity authAction =
      definition'.rules userToken.rolesACL authEntity authAction) :
    permits acl definition organization userToken extra entityData authEntity authAction =
      permits acl definition' organization userToken extra entityData authEntity authAction := by
  simp only [permits, canPerformAuthorizationAction, can_congr same]

theorem checkAndGetEntityAuthorizations_congr {entityData : Option EntityData}
    (same : definition.rules userToken.rolesACL authEntity authAction =
      definition'.rules userToken.rolesACL authEntity authAction) :
    checkAndGetEntityAuthorizations acl definition organization userToken authEntity extra
        authAction entityData =
      checkAndGetEntityAuthorizations acl definition' organization userToken authEntity extra
        authAction entityData := by
  simp only [checkAndGetEntityAuthorizations, can_congr same]

end Flags

end AuthorizationService

/-! ## Two definitions that differ in one pair -/

/-- What a flag is the answer for. -/
abbrev Answers := List (String × Entity × Action)

namespace UtilsService

/-- What the flags of a site area answer. -/
def siteAreaAnswers : Answers := [
  ("canUpdate", .siteArea, .update),
  ("canDelete", .siteArea, .delete),
  ("canAssignAssets", .siteArea, .assignAssetsToSiteArea),
  ("canUnassignAssets", .siteArea, .unassignAssetsFromSiteArea),
  ("canReadAssets", .siteArea, .readAssetsFromSiteArea),
  ("canAssignChargingStations", .siteArea, .assignChargingStationsToSiteArea),
  ("canUnassignChargingStations", .siteArea, .unassignChargingStationsFromSiteArea),
  ("canReadChargingStations", .siteArea, .readChargingStationsFromSiteArea),
  ("canExportOCPPParams", .siteArea, .exportOCPPParams),
  ("canGenerateQrCode", .siteArea, .generateQR)]

/-- What the flags of a site answer. -/
def siteAnswers : Answers := [
  ("canDelete", .site, .delete),
  ("canUpdate", .site, .update),
  ("canMaintainPricingDefinitions", .site, .maintainPricingDefinitions),
  ("canExportOCPPParams", .site, .exportOCPPParams),
  ("canGenerateQrCode", .site, .generateQR),
  ("canAssignUsers", .usersSites, .assign),
  ("canUnassignUsers", .usersSites, .unassign),
  ("canReadUsers", .usersSites, .read)]

/-- The same outcome, with the same flags of the pairs other than the one given. -/
def Agree {α : Type} (pair : Entity × Action) (answers : Answers) :
    Except AppError (AuthorizedEntity α) → Except AppError (AuthorizedEntity α) → Prop
  | .ok authorized, .ok authorized' =>
      authorized.entity = authorized'.entity ∧
        authorized.projectFields = authorized'.projectFields ∧
        authorized.metadata = authorized'.metadata ∧
        ∀ answer ∈ answers, answer.2 ≠ pair →
          (answer.1 ∈ authorized.flags ↔ answer.1 ∈ authorized'.flags)
  | .error error, .error error' => error = error'
  | _, _ => False

/-- Nothing that another pair decides changes with the grants of a pair. -/
def NonInterferes (acl : RoleAcl) (pair : Entity × Action) : Prop :=
  ∀ definition definition', AgreeExcept pair definition definition' →
    ∀ organization userToken id authAction entityData additionalFilters applyProjectFields,
      ((.site, authAction) ≠ pair → Agree pair siteAnswers
        (checkAndGetSiteAuthorization acl definition organization userToken authAction entityData
          additionalFilters applyProjectFields id)
        (checkAndGetSiteAuthorization acl definition' organization userToken authAction entityData
          additionalFilters applyProjectFields id)) ∧
      ((.siteArea, authAction) ≠ pair → Agree pair siteAreaAnswers
        (checkAndGetSiteAreaAuthorization acl definition organization userToken authAction
          entityData additionalFilters applyProjectFields id)
        (checkAndGetSiteAreaAuthorization acl definition' organization userToken authAction
          entityData additionalFilters applyProjectFields id))

/-- The pairs that a flag of another pair looks at. -/
def crossed : List (Entity × Action) := [
  (.siteArea, .update),
  (.siteArea, .delete),
  (.siteArea, .exportOCPPParams),
  (.siteArea, .generateQR),
  (.usersSites, .assign),
  (.usersSites, .unassign)]

/-- A flag, by its name, looks at the pair it stands for, or at one of the crossed ones. -/
def StandsFor (flags : List AuthorizationService.Flag) (name : String)
    (pair : Entity × Action) : Prop :=
  ∀ flag ∈ flags, flag.name = name → (flag.entity, flag.action) ∈ crossed ∨
    (flag.entity, flag.action) = pair

instance (flags : List AuthorizationService.Flag) (name : String) (pair : Entity × Action) :
    Decidable (StandsFor flags name pair) :=
  inferInstanceAs (Decidable (∀ flag ∈ flags, flag.name = name →
    (flag.entity, flag.action) ∈ crossed ∨ (flag.entity, flag.action) = pair))

theorem site_standsFor (action : Action) :
    StandsFor site.flags ("can" ++ action.value) (.site, action) := by
  cases action <;> decide

theorem siteArea_standsFor (action : Action) :
    StandsFor siteArea.flags ("can" ++ action.value) (.siteArea, action) := by
  cases action <;> decide

theorem siteAnswers_standFor : ∀ answer ∈ siteAnswers, StandsFor site.flags answer.1 answer.2 := by
  decide

theorem siteAreaAnswers_standFor :
    ∀ answer ∈ siteAreaAnswers, StandsFor siteArea.flags answer.1 answer.2 := by
  decide

section Agreement

variable {α : Type} {checked : CheckedEntity α} {acl : RoleAcl}
variable {definition definition' : AuthorizationDefinition} {pair other : Entity × Action}
variable {organization : Organization} {userToken : UserToken} {authAction : Action}

theorem mem_entityFlags_congr (agree : AgreeExcept pair definition definition')
    (notCrossed : pair ∉ crossed) (distinct : other ≠ pair) {name : String}
    (standsFor : StandsFor checked.flags name other) {projectFields : Option (List String)}
    {entity : α} {filter : AuthorizationFilter} :
    name ∈ entityFlags checked acl definition organization userToken projectFields entity filter ↔
      name ∈ entityFlags checked acl definition' organization userToken projectFields entity
        filter := by
  simp only [entityFlags, List.mem_cons, AuthorizationService.mem_addAuthorizations]
  apply or_congr_right
  apply exists_congr
  intro flag
  apply and_congr_right
  intro mem
  apply and_congr_right
  intro named
  have looksAt : (flag.entity, flag.action) ≠ pair := by
    rintro rfl
    rcases standsFor flag mem named with crossed | same
    · exact notCrossed crossed
    · exact distinct same.symm
  rw [AuthorizationService.permits_congr (agree.rules_eq looksAt)]

theorem Agree.bind {β : Type} {answers : Answers} {x : Except AppError β}
    {f g : β → Except AppError (AuthorizedEntity α)} (h : ∀ b, Agree pair answers (f b) (g b)) :
    Agree pair answers (x >>= f) (x >>= g) := by
  rcases x with error | b
  · rfl
  · exact h b

/-- The grants of a pair that no other flag looks at decide about that pair only. -/
theorem checkAndGetAuthorization_agree {answers : Answers}
    (agree : AgreeExcept pair definition definition') (notCrossed : pair ∉ crossed)
    (actions : ∀ action,
      StandsFor checked.flags ("can" ++ action.value) (checked.entity, action))
    (answered : ∀ answer ∈ answers, StandsFor checked.flags answer.1 answer.2)
    (distinct : (checked.entity, authAction) ≠ pair) {id : String}
    {entityData : Option EntityData} {additionalFilters : Filters} {applyProjectFields : Bool} :
    Agree pair answers
      (checkAndGetAuthorization checked acl definition organization userToken id authAction
        entityData additionalFilters applyProjectFields)
      (checkAndGetAuthorization checked acl definition' organization userToken id authAction
        entityData additionalFilters applyProjectFields) := by
  rw [checkAndGetAuthorization, checkAndGetAuthorization,
    AuthorizationService.checkAndGetEntityAuthorizations_congr (agree.rules_eq distinct)]
  apply Agree.bind
  intro _
  apply Agree.bind
  intro filter
  apply Agree.bind
  intro _
  rcases checked.get organization id (additionalFilters.merge filter.filters) with _ | entity
  · rfl
  · have permitted : ∀ projectFields, "can" ++ authAction.value ∈ entityFlags checked acl
        definition organization userToken projectFields entity filter ↔
          "can" ++ authAction.value ∈ entityFlags checked acl definition' organization userToken
            projectFields entity filter :=
      fun _ => mem_entityFlags_congr agree notCrossed distinct (actions authAction)
    simp only [AuthorizationService.canPerformAction, permitted]
    apply Agree.bind
    intro _
    refine ⟨rfl, rfl, rfl, ?_⟩
    intro answer mem own
    exact mem_entityFlags_congr agree notCrossed own (answered answer mem)

end Agreement

/-! ## Grants without conditions -/

section Unconditional

/-- The definition that grants everybody some pairs. -/
def unconditional (pairs : List (Entity × Action)) : AuthorizationDefinition := fun _ =>
  { grants := pairs.map fun pair => { resource := pair.1, action := [pair.2] } }

variable {pairs : List (Entity × Action)} {acl : RoleAcl} {authEntity : Entity}
  {authAction : Action} {userToken : UserToken} {organization : Organization}

theorem mem_rulesFor_unconditional {role : Role} {rule : Rule Condition} :
    rule ∈ rulesFor authEntity authAction (unconditional pairs role).grants ↔
      (authEntity, authAction) ∈ pairs ∧ rule = ⟨none, []⟩ := by
  simp only [rulesFor, unconditional, List.mem_map, List.mem_filter, decide_eq_true_eq]
  constructor
  · rintro ⟨_, ⟨⟨pair, listed, rfl⟩, rfl, covered⟩, rfl⟩
    obtain rfl := List.mem_singleton.mp covered
    exact ⟨listed, rfl⟩
  · rintro ⟨listed, rfl⟩
    exact ⟨_, ⟨⟨_, listed, rfl⟩, rfl, List.mem_singleton_self _⟩, rfl⟩

theorem mem_rules_unconditional {rule : Rule Condition} :
    rule ∈ (unconditional pairs).rules userToken.rolesACL authEntity authAction ↔
      userToken.rolesACL ≠ [] ∧ (authEntity, authAction) ∈ pairs ∧ rule = ⟨none, []⟩ := by
  simp only [mem_rules, mem_rulesFor_unconditional]
  constructor
  · rintro ⟨role, mem | ⟨_, _, extended⟩, granted⟩
    · exact ⟨List.ne_nil_of_mem mem, granted⟩
    · exact absurd extended List.not_mem_nil
  · rintro ⟨roles, granted⟩
    obtain ⟨role, mem⟩ := List.exists_mem_of_ne_nil _ roles
    exact ⟨role, .inl mem, granted⟩

/-- A pair is granted when it is listed, and the context is left alone. -/
theorem can_unconditional (acl : RoleAcl) (pairs : List (Entity × Action)) (authEntity : Entity)
    (authAction : Action) (roles : userToken.rolesACL ≠ []) :
    ((AuthorizationService.can acl (unconditional pairs) userToken authEntity authAction
        {}).granted = true ↔ (authEntity, authAction) ∈ pairs) ∧
      (AuthorizationService.can acl (unconditional pairs) userToken authEntity authAction
        {}).context = {} := by
  constructor
  · rw [AuthorizationService.can, acl.granted_iff]
    simp [mem_rules_unconditional, roles, Rule.holds]
  · obtain ⟨evaluated, mem, context, _⟩ :=
      acl.evaluates (unconditional pairs) userToken.rolesACL authEntity authAction {}
    rw [AuthorizationService.can, context]
    apply foldl_write_of_unconditional
    intro rule evaluates
    obtain ⟨_, _, rfl⟩ := mem_rules_unconditional.mp (mem rule evaluates)
    rfl

theorem permits_unconditional (roles : userToken.rolesACL ≠ []) {extra : ExtraFilters}
    {entityData : EntityData} :
    AuthorizationService.permits acl (unconditional pairs) organization userToken extra entityData
      authEntity authAction ↔ (authEntity, authAction) ∈ pairs := by
  obtain ⟨granted, context⟩ := can_unconditional acl pairs authEntity authAction roles
  rw [← granted, AuthorizationService.permits,
    AuthorizationService.canPerformAuthorizationAction, context]
  simp only [AuthorizationService.processDynamicFilters,
    AuthorizationService.processDynamicAsserts]
  split <;> simp_all

theorem checkAndGetEntityAuthorizations_of_mem (roles : userToken.rolesACL ≠ [])
    {extra : ExtraFilters} (listed : (authEntity, authAction) ∈ pairs) :
    ∃ projectFields,
      AuthorizationService.checkAndGetEntityAuthorizations acl (unconditional pairs) organization
        userToken authEntity extra authAction none =
          .ok { authorized := true, projectFields := projectFields } := by
  obtain ⟨granted, context⟩ := can_unconditional acl pairs authEntity authAction roles
  rw [AuthorizationService.checkAndGetEntityAuthorizations, granted.mpr listed, context]
  exact ⟨_, rfl⟩

theorem checkAndGetAuthorization_isOk {α : Type} {checked : CheckedEntity α} {entity : α}
    {id : String} {filters : Filters} (roles : userToken.rolesACL ≠ []) (given : id ≠ "")
    (found : checked.get organization id (filters.merge {}) = some entity)
    (listed : (checked.entity, authAction) ∈ pairs) :
    (checkAndGetAuthorization checked acl (unconditional pairs) organization userToken id
        authAction none filters false).isOk ↔
      "can" ++ authAction.value = "canRead" ∨ ∃ flag ∈ checked.flags,
        flag.name = "can" ++ authAction.value ∧ (flag.entity, flag.action) ∈ pairs := by
  obtain ⟨projectFields, granted⟩ : ∃ projectFields,
      AuthorizationService.checkAndGetEntityAuthorizations acl (unconditional pairs) organization
        userToken checked.entity (checked.entityID id) authAction none =
          .ok { authorized := true, projectFields := projectFields } :=
    checkAndGetEntityAuthorizations_of_mem roles listed
  rw [checkAndGetAuthorization, granted]
  simp only [Outcome.isOk_iff, Outcome.refuse_bind_eq_ok, Outcome.ok_bind, found,
    Outcome.pure_eq_ok_iff, AuthorizationService.canPerformAction, decide_eq_false_iff_not,
    not_not, entityFlags, List.mem_cons, AuthorizationService.mem_addAuthorizations,
    permits_unconditional roles]
  simp [given]

theorem agreeExcept_unconditional (other pair : Entity × Action) :
    AgreeExcept pair (unconditional [other, pair]) (unconditional [other]) where
  extend _ := rfl
  rules role resource action distinct := by
    have notCovered : ¬(pair.1 = resource ∧ action ∈ [pair.2]) := by
      rintro ⟨rfl, covered⟩
      obtain rfl := List.mem_singleton.mp covered
      exact distinct rfl
    simp only [rulesFor, unconditional, List.map_cons, List.map_nil, List.filter_cons,
      List.filter_nil, notCovered, decide_false, Bool.false_eq_true, if_false]

theorem Agree.isOk_eq {α : Type} {pair : Entity × Action} {answers : Answers}
    {outcome outcome' : Except AppError (AuthorizedEntity α)}
    (agree : Agree pair answers outcome outcome') : outcome.isOk = outcome'.isOk := by
  rcases outcome with error | authorized <;> rcases outcome' with error' | authorized'
  · rfl
  · exact agree.elim
  · exact agree.elim
  · rfl

/-- A flag that looks at the grants of another pair makes the outcome depend on them. -/
theorem not_agree_of_crossed {α : Type} {checked : CheckedEntity α} {entity : α} {id : String}
    {filters : Filters} (roles : userToken.rolesACL ≠ []) (given : id ≠ "")
    (found : checked.get organization id (filters.merge {}) = some entity)
    {flag : AuthorizationService.Flag} (mem : flag ∈ checked.flags)
    (named : flag.name = "can" ++ authAction.value)
    (other : (flag.entity, flag.action) ≠ (checked.entity, authAction)) (answers : Answers) :
    ¬ Agree (flag.entity, flag.action) answers
      (checkAndGetAuthorization checked acl
        (unconditional [(checked.entity, authAction), (flag.entity, flag.action)]) organization
        userToken id authAction none filters false)
      (checkAndGetAuthorization checked acl (unconditional [(checked.entity, authAction)])
        organization userToken id authAction none filters false) := by
  intro agree
  have outcomes := agree.isOk_eq
  rw [Bool.eq_iff_iff, checkAndGetAuthorization_isOk roles given found List.mem_cons_self,
    checkAndGetAuthorization_isOk roles given found List.mem_cons_self] at outcomes
  have permitted := outcomes.mp
    (.inr ⟨flag, mem, named, List.mem_cons_of_mem _ (List.mem_singleton_self _)⟩)
  obtain ⟨notRead, names⟩ := List.nodup_cons.mp checked.distinct
  rcases permitted with read | ⟨flag', mem', named', looksAt⟩
  · exact notRead (List.mem_map.mpr ⟨flag, mem, named.trans read⟩)
  · obtain rfl := List.inj_on_of_nodup_map names mem' mem (named'.trans named.symm)
    exact other (List.mem_singleton.mp looksAt)

end Unconditional

/-- An organisation with one site area, on one site. -/
def oneSite : Organization where
  sites := ⟨[{ id := "site" }], by decide⟩
  siteAreas := ⟨[{ id := "area", siteID := some "site" }], by decide⟩

/-- Somebody with a role. -/
def someAdmin : UserToken := { id := "root", role := .admin, rolesACL := [.admin] }

theorem site_interferes (acl : RoleAcl) (flag : AuthorizationService.Flag)
    (authAction : Action) (mem : flag ∈ site.flags)
    (named : flag.name = "can" ++ authAction.value)
    (other : (flag.entity, flag.action) ≠ (.site, authAction)) :
    ¬ NonInterferes acl (flag.entity, flag.action) := by
  intro nonInterferes
  have agree := (nonInterferes _ _ (agreeExcept_unconditional (.site, authAction) _) oneSite
    someAdmin "site" authAction none {} false).1 other.symm
  have roles : someAdmin.rolesACL ≠ [] := by decide
  exact not_agree_of_crossed roles (by decide) rfl mem named other siteAnswers agree

theorem siteArea_interferes (acl : RoleAcl) (flag : AuthorizationService.Flag)
    (authAction : Action) (mem : flag ∈ siteArea.flags)
    (named : flag.name = "can" ++ authAction.value)
    (other : (flag.entity, flag.action) ≠ (.siteArea, authAction)) :
    ¬ NonInterferes acl (flag.entity, flag.action) := by
  intro nonInterferes
  have agree := (nonInterferes _ _ (agreeExcept_unconditional (.siteArea, authAction) _) oneSite
    someAdmin "area" authAction none {} false).2 other.symm
  have roles : someAdmin.rolesACL ≠ [] := by decide
  exact not_agree_of_crossed roles (by decide) rfl mem named other siteAreaAnswers agree

/-- **The grants of a pair decide about that pair only**, unless a flag of another pair looks at
them. -/
theorem nonInterferes_iff (acl : RoleAcl) (pair : Entity × Action) :
    NonInterferes acl pair ↔ pair ∉ crossed := by
  constructor
  · intro nonInterferes mem
    simp only [crossed, List.mem_cons, List.not_mem_nil, or_false] at mem
    rcases mem with rfl | rfl | rfl | rfl | rfl | rfl
    · exact siteArea_interferes acl ⟨"canDelete", .siteArea, .update⟩
        .delete (by decide) (by decide)
        (by decide) nonInterferes
    · exact siteArea_interferes acl ⟨"canUpdate", .siteArea, .delete⟩
        .update (by decide) (by decide)
        (by decide) nonInterferes
    · exact site_interferes acl ⟨"canExportOCPPParams", .siteArea, .exportOCPPParams⟩
        .exportOCPPParams (by decide) (by decide)
        (by decide) nonInterferes
    · exact site_interferes acl ⟨"canGenerateQrCode", .siteArea, .generateQR⟩
        .generateQR (by decide) (by decide)
        (by decide) nonInterferes
    · exact site_interferes acl ⟨"canAssignUsers", .usersSites, .assign⟩
        .assignUsersToSite (by decide) (by decide)
        (by decide) nonInterferes
    · exact site_interferes acl ⟨"canUnassignUsers", .usersSites, .unassign⟩
        .unassignUsersFromSite (by decide) (by decide)
        (by decide) nonInterferes
  · intro notCrossed definition definition' agree organization userToken id authAction entityData
      additionalFilters applyProjectFields
    constructor
    · intro distinct
      exact checkAndGetAuthorization_agree agree notCrossed site_standsFor siteAnswers_standFor
        distinct
    · intro distinct
      exact checkAndGetAuthorization_agree agree notCrossed siteArea_standsFor
        siteAreaAnswers_standFor distinct

/-- Whoever may update site areas and not delete them cannot update them either. -/
theorem update_depends_on_delete :
    (checkAndGetSiteAreaAuthorization (Library.inOrder conditions)
      (unconditional [(.siteArea, .update), (.siteArea, .delete)]) oneSite someAdmin .update none {}
      false "area").isOk = true ∧
    (checkAndGetSiteAreaAuthorization (Library.inOrder conditions)
      (unconditional [(.siteArea, .update)]) oneSite someAdmin .update none {} false
      "area").isOk = false ∧
    ¬ ∀ pair, NonInterferes (Library.inOrder conditions) pair := by
  refine ⟨by decide +kernel, by decide +kernel, fun nonInterferes => ?_⟩
  have agree := (nonInterferes (.siteArea, .delete) _ _
    (agreeExcept_unconditional (.siteArea, .update) _) oneSite someAdmin "area" .update none {}
    false).2 (by decide)
  have outcomes := agree.isOk_eq
  revert outcomes
  decide +kernel

end UtilsService

end EvServer.Authorization
