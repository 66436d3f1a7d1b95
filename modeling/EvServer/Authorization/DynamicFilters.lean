import EvServer.Authorization.AuthorizationService

/-!
# When the dynamic filters and assertions authorize

The filters of an authorization pass one flag on.  A filter by IDs only sets it, so the flag a
filter finds may come from the one before it; but within an OR the flag is never set before the
OR is met, and up to there each filter decides by itself.  So the flag that is left is the AND
of the ORs of what each filter says, whatever the object held before.

What an object keeps for the query is another matter: each filter by IDs clears the IDs it
finds and sets its own.
-/

namespace EvServer.Authorization

open AccessControl

/-! ## What a filter says by itself -/

/-- The IDs of a query that a filter may restrict. -/
inductive RestrictedIDs
  | siteIDs
  | companyIDs
  | userIDs
  deriving DecidableEq, Repr

namespace RestrictedIDs

/-- The IDs that a query is restricted to. -/
def get (filters : Filters) : RestrictedIDs → Option (List String)
  | .siteIDs => filters.siteIDs
  | .companyIDs => filters.companyIDs
  | .userIDs => filters.userIDs

/-- The IDs that are asked for. -/
def requested (extra : ExtraFilters) : RestrictedIDs → Option (List String)
  | .siteIDs => extra.siteID
  | .companyIDs => extra.companyID
  | .userIDs => extra.userID

end RestrictedIDs

/-- The IDs a filter restricts; the others are no filters by IDs. -/
def restricts : DynamicAuthorizationFilterName → Option RestrictedIDs
  | .assignedSites | .sitesAdmin | .sitesOwner => some .siteIDs
  | .assignedSitesCompanies => some .companyIDs
  | .ownUser => some .userIDs
  | .localIssuer | .excludeAction => none

section Filters

variable (sources : DataSources) (extra : ExtraFilters) (entityData : Option EntityData)

/-- The IDs that the data source of a filter grants. -/
def grantedIDs : DynamicAuthorizationFilterName → List String
  | .assignedSites => sources.assignedSites
  | .sitesAdmin => sources.sitesAdmin
  | .sitesOwner => sources.sitesOwner
  | .assignedSitesCompanies => sources.assignedSitesCompanies
  | .ownUser => if sources.ownUser = "" then [] else [sources.ownUser]
  | .localIssuer | .excludeAction => []

/-- The granted IDs, intersected with the ones that are asked for. -/
def intersection (name : DynamicAuthorizationFilterName) : List String :=
  forcedIDs (grantedIDs sources name) ((restricts name).bind (·.requested extra))

/-- What a filter says by itself: one by IDs that its intersection is not empty. -/
def isSatisfied : DynamicAuthorizationFilterName → Bool
  | .localIssuer => (entityData.bind EntityData.issuer).getD true
  | .excludeAction => false
  | name => intersection sources extra name ≠ []

/-- A filter, or the opposite of it. -/
def filterSatisfied (filterToProcess : Negatable DynamicAuthorizationFilterName) : Bool :=
  filterToProcess.negate (isSatisfied sources extra entityData filterToProcess.name)

variable {sources extra entityData}
variable {filter : AuthorizationFilter} {name : DynamicAuthorizationFilterName}

theorem forcedIDs_nil (filteredIDs : Option (List String)) : forcedIDs [] filteredIDs = [] := by
  cases filteredIDs <;> simp [forcedIDs]

theorem mem_intersection {ids : RestrictedIDs} (restricted : restricts name = some ids)
    {id : String} :
    id ∈ intersection sources extra name ↔
      id ∈ grantedIDs sources name ∧
        ∀ requested, ids.requested extra = some requested → id ∈ requested := by
  rw [intersection, restricted, Option.bind_some, mem_forcedIDs]

theorem isSatisfied_iff {ids : RestrictedIDs} (restricted : restricts name = some ids) :
    isSatisfied sources extra entityData name = true ↔
      ∃ id ∈ grantedIDs sources name,
        ∀ requested, ids.requested extra = some requested → id ∈ requested := by
  have byIDs : isSatisfied sources extra entityData name =
      decide (intersection sources extra name ≠ []) := by
    cases name <;> first | rfl | cases restricted
  rw [byIDs, decide_eq_true_eq]
  constructor
  · intro nonempty
    obtain ⟨id, mem⟩ := List.exists_mem_of_ne_nil _ nonempty
    exact ⟨id, (mem_intersection restricted).mp mem⟩
  · rintro ⟨id, mem⟩
    exact List.ne_nil_of_mem ((mem_intersection restricted).mpr mem)

/-- With the flag not set, what a filter leaves in it is what it says by itself. -/
theorem authorized_processFilter (unset : filter.authorized = false) :
    (processFilter sources extra filter entityData name).authorized =
      isSatisfied sources extra entityData name := by
  have byIDs (ids : List String) : filter.authorizeIDs ids = decide (ids ≠ []) := by
    rw [AuthorizationFilter.authorizeIDs, unset, Bool.false_or]
  cases name with
  | ownUser =>
      by_cases anonymous : sources.ownUser = "" <;>
        simp [processFilter, isSatisfied, restricts, intersection, grantedIDs, forcedIDs_nil,
          RestrictedIDs.requested, byIDs, anonymous]
  | assignedSites => exact byIDs _
  | sitesAdmin => exact byIDs _
  | sitesOwner => exact byIDs _
  | assignedSitesCompanies => exact byIDs _
  | localIssuer => rfl
  | excludeAction => rfl

/-- The IDs that a filter leaves: its intersection where it restricts them. -/
theorem get_processFilter (ids : RestrictedIDs) :
    ids.get (processFilter sources extra filter entityData name).filters =
      if restricts name = some ids then some (intersection sources extra name)
      else ids.get filter.filters := by
  cases name with
  | ownUser =>
      by_cases anonymous : sources.ownUser = "" <;> cases ids <;>
        simp [processFilter, restricts, intersection, grantedIDs, forcedIDs_nil, anonymous,
          RestrictedIDs.requested, RestrictedIDs.get]
  | _ =>
      cases ids <;>
        simp [processFilter, processSites, restricts, intersection, grantedIDs,
          RestrictedIDs.requested, RestrictedIDs.get]

end Filters

namespace AuthorizationService

/-! ## The loops -/

section Loops

variable {sources : DataSources} {extra : ExtraFilters} {entityData : Option EntityData}
variable {filter : AuthorizationFilter} {ids : RestrictedIDs}

/-- An OR authorizes when one of its filters is satisfied.  The induction is on the filters to
come; it carries that the flag is set only where the OR is met already. -/
theorem authorized_processAnyFilter {authorized : Bool}
    (met : filter.authorized = true → authorized = true)
    (filtersToProcess : List (Negatable DynamicAuthorizationFilterName)) :
    (processAnyFilter sources extra entityData authorized filtersToProcess filter).authorized =
      (authorized || filtersToProcess.any (filterSatisfied sources extra entityData)) := by
  induction filtersToProcess generalizing authorized filter with
  | nil => simp [processAnyFilter]
  | cons filterToProcess filtersToProcess ih =>
      rw [processAnyFilter, ih (by simp +contextual), List.any_cons, ← Bool.or_assoc]
      cases authorized with
      | true => simp
      | false =>
          have unset : filter.authorized = false := by simpa using met
          simp only [authorized_processFilter unset, filterSatisfied]

/-- Filters that restrict other IDs leave these as they are. -/
theorem get_processAnyFilter {authorized : Bool}
    {filtersToProcess : List (Negatable DynamicAuthorizationFilterName)}
    (others : ∀ f ∈ filtersToProcess, restricts f.name ≠ some ids) :
    ids.get (processAnyFilter sources extra entityData authorized filtersToProcess
      filter).filters = ids.get filter.filters := by
  induction filtersToProcess generalizing authorized filter with
  | nil => rfl
  | cons filterToProcess filtersToProcess ih =>
      obtain ⟨other, others⟩ := List.forall_mem_cons.mp others
      rw [processAnyFilter, ih others, get_processFilter, if_neg other]

/-- One filter by itself leaves its intersection. -/
theorem get_processAnyFilter_singleton {authorized : Bool}
    {f : Negatable DynamicAuthorizationFilterName} (restricted : restricts f.name = some ids) :
    ids.get (processAnyFilter sources extra entityData authorized [f] filter).filters =
      some (intersection sources extra f.name) := by
  rw [processAnyFilter, processAnyFilter, get_processFilter, if_pos restricted]

/-- Every list authorizes: the filters do. -/
theorem authorized_processDynamicFilters (filters : AndOfOrs DynamicAuthorizationFilterName)
    (authorized : filter.authorized = true) :
    (processDynamicFilters sources extra entityData filters filter).authorized =
      filters.all fun filtersToProcess =>
        filtersToProcess.any (filterSatisfied sources extra entityData) := by
  induction filters generalizing filter with
  | nil => exact authorized
  | cons filtersToProcess filters ih =>
      have met : (processAnyFilter sources extra entityData false filtersToProcess
          { filter with authorized := false }).authorized =
          filtersToProcess.any (filterSatisfied sources extra entityData) := by
        rw [authorized_processAnyFilter (by simp), Bool.false_or]
      rw [processDynamicFilters, List.all_cons]
      split
      · next satisfied => rw [ih satisfied, ← met, satisfied, Bool.true_and]
      · next failed => rw [← met, Bool.eq_false_iff.mpr failed, Bool.false_and]

/-- Lists of filters that restrict other IDs leave these as they are. -/
theorem get_processDynamicFilters {filters : AndOfOrs DynamicAuthorizationFilterName}
    (others : ∀ filtersToProcess ∈ filters, ∀ f ∈ filtersToProcess,
      restricts f.name ≠ some ids) :
    ids.get (processDynamicFilters sources extra entityData filters filter).filters =
      ids.get filter.filters := by
  induction filters generalizing filter with
  | nil => rfl
  | cons filtersToProcess filters ih =>
      obtain ⟨other, others⟩ := List.forall_mem_cons.mp others
      rw [processDynamicFilters]
      split
      · rw [ih others, get_processAnyFilter other]
      · rw [get_processAnyFilter other]

/-- The lists before the first one that fails are processed. -/
theorem processDynamicFilters_append {before : AndOfOrs DynamicAuthorizationFilterName}
    (rest : AndOfOrs DynamicAuthorizationFilterName) (authorized : filter.authorized = true)
    (satisfied : ∀ filtersToProcess ∈ before, ∃ f ∈ filtersToProcess,
      filterSatisfied sources extra entityData f = true) :
    ∃ processed : AuthorizationFilter, processed.authorized = true ∧
      processDynamicFilters sources extra entityData (before ++ rest) filter =
        processDynamicFilters sources extra entityData rest processed := by
  induction before generalizing filter with
  | nil => exact ⟨filter, authorized, rfl⟩
  | cons filtersToProcess before ih =>
      obtain ⟨first, satisfied⟩ := List.forall_mem_cons.mp satisfied
      have met : (processAnyFilter sources extra entityData false filtersToProcess
          { filter with authorized := false }).authorized = true := by
        rw [authorized_processAnyFilter (by simp), Bool.false_or]
        exact List.any_eq_true.mpr first
      obtain ⟨processed, authorized, same⟩ := ih met satisfied
      refine ⟨processed, authorized, ?_⟩
      rw [List.cons_append, processDynamicFilters, if_pos met, same]

/-- A filter by IDs that is reached leaves its intersection, until another list has a filter on
the same IDs. -/
theorem get_processDynamicFilters_of_reached
    {before after : AndOfOrs DynamicAuthorizationFilterName}
    {f : Negatable DynamicAuthorizationFilterName}
    (authorized : filter.authorized = true)
    (satisfied : ∀ filtersToProcess ∈ before, ∃ f ∈ filtersToProcess,
      filterSatisfied sources extra entityData f = true)
    (restricted : restricts f.name = some ids)
    (others : ∀ filtersToProcess ∈ after, ∀ f ∈ filtersToProcess,
      restricts f.name ≠ some ids) :
    ids.get (processDynamicFilters sources extra entityData (before ++ [f] :: after)
      filter).filters = some (intersection sources extra f.name) := by
  obtain ⟨processed, -, same⟩ :=
    processDynamicFilters_append ([f] :: after) authorized satisfied
  rw [same, processDynamicFilters]
  split
  · rw [get_processDynamicFilters others, get_processAnyFilter_singleton restricted]
  · rw [get_processAnyFilter_singleton restricted]

end Loops

/-! ## The assertions -/

section Asserts

variable (userToken : UserToken) (entityData : EntityData)

/-- The assertions of an OR: each sets the flag, and one that authorizes is enough. -/
def processAnyAssert (authorized : Bool) :
    List (Negatable DynamicAuthorizationAssertName) → AuthorizationFilter → AuthorizationFilter
  | [], filter => { filter with authorized := authorized }
  | assertToProcess :: assertsToProcess, filter =>
      let processed :=
        { filter with authorized :=
            assertToProcess.negate (processAssert userToken entityData assertToProcess.name) }
      processAnyAssert (authorized || processed.authorized) assertsToProcess processed

/-- The loop of `processDynamicAsserts`: the first list that does not authorize ends it. -/
def processAllAsserts :
    AndOfOrs DynamicAuthorizationAssertName → AuthorizationFilter → AuthorizationFilter
  | [], filter => filter
  | assertsToProcess :: asserts, filter =>
      let processed := processAnyAssert userToken entityData false assertsToProcess
        { filter with authorized := false }
      if processed.authorized then processAllAsserts asserts processed else processed

/-- An assertion, or the opposite of it. -/
def assertSatisfied (assertToProcess : Negatable DynamicAuthorizationAssertName) : Bool :=
  assertToProcess.negate (processAssert userToken entityData assertToProcess.name)

variable {userToken entityData}

theorem processAnyAssert_eq (authorized : Bool)
    (assertsToProcess : List (Negatable DynamicAuthorizationAssertName))
    (filter : AuthorizationFilter) :
    processAnyAssert userToken entityData authorized assertsToProcess filter =
      { filter with authorized :=
          authorized || assertsToProcess.any (assertSatisfied userToken entityData) } := by
  induction assertsToProcess generalizing authorized filter with
  | nil => simp [processAnyAssert]
  | cons assertToProcess assertsToProcess ih =>
      rw [processAnyAssert, ih, List.any_cons, ← Bool.or_assoc]
      rfl

/-- Every list authorizes: the assertions do. -/
theorem processAllAsserts_eq (asserts : AndOfOrs DynamicAuthorizationAssertName)
    {filter : AuthorizationFilter} (authorized : filter.authorized = true) :
    processAllAsserts userToken entityData asserts filter =
      { filter with authorized := asserts.all fun assertsToProcess =>
          assertsToProcess.any (assertSatisfied userToken entityData) } := by
  induction asserts generalizing filter with
  | nil => rw [processAllAsserts, List.all_nil, ← authorized]
  | cons assertsToProcess asserts ih =>
      rw [processAllAsserts, processAnyAssert_eq, Bool.false_or, List.all_cons]
      split
      · next met =>
          have any : assertsToProcess.any (assertSatisfied userToken entityData) = true := met
          rw [ih met, any, Bool.true_and]
      · next failed =>
          have any : assertsToProcess.any (assertSatisfied userToken entityData) = false :=
            Bool.eq_false_iff.mpr failed
          rw [any, Bool.false_and]

/-- The loops do what `processDynamicAsserts` says of a filter that authorizes so far. -/
theorem processDynamicAsserts_eq (entityData : Option EntityData)
    (asserts : AndOfOrs DynamicAuthorizationAssertName) {filter : AuthorizationFilter}
    (authorized : filter.authorized = true) :
    processDynamicAsserts userToken entityData asserts filter =
      entityData.elim filter fun entityData =>
        processAllAsserts userToken entityData asserts filter := by
  cases entityData with
  | none => rfl
  | some entityData =>
      rw [processDynamicAsserts, Option.elim_some, processAllAsserts_eq asserts authorized]
      split
      · next none => rw [none, List.all_nil, ← authorized]
      · rfl

end Asserts

/-! ## The whole check -/

/-- `authorizationFilters.dataSources`: the data sources that are loaded already. -/
structure ExistingDataSources where
  assignedSites : Option (List String) := none
  assignedSitesCompanies : Option (List String) := none
  sitesAdmin : Option (List String) := none
  sitesOwner : Option (List String) := none
  ownUser : Option String := none
  deriving DecidableEq, Repr

/-- `initFilterDataSources`: a data source that is there is not loaded again. -/
def initFilterDataSources (existing : ExistingDataSources) (loaded : DataSources) :
    DataSources where
  assignedSites := existing.assignedSites.getD loaded.assignedSites
  assignedSitesCompanies := existing.assignedSitesCompanies.getD loaded.assignedSitesCompanies
  sitesAdmin := existing.sitesAdmin.getD loaded.sitesAdmin
  sitesOwner := existing.sitesOwner.getD loaded.sitesOwner
  ownUser := existing.ownUser.getD loaded.ownUser

section Dynamic

variable {sources : DataSources} {context : AuthorizationContext} {userToken : UserToken}
variable {filteredRequest : ExtraFilters} {entityData : Option EntityData}
variable {filter : AuthorizationFilter}

/-- The dynamic filters and, where they authorize, the dynamic assertions. -/
def processDynamic (sources : DataSources) (context : AuthorizationContext)
    (userToken : UserToken) (filteredRequest : ExtraFilters) (entityData : Option EntityData)
    (filter : AuthorizationFilter) : AuthorizationFilter :=
  -- Process Dynamic Filters
  let filter := processDynamicFilters sources filteredRequest entityData context.filters filter
  if filter.authorized then
    -- Keep the Meta Data, process Dynamic Assertions
    let filter := { filter with metadata := context.metadata }
    entityData.elim filter fun entityData =>
      processAllAsserts userToken entityData context.asserts filter
  else filter

/-- The assertions leave the filters of the query alone. -/
theorem filters_processDynamic :
    (processDynamic sources context userToken filteredRequest entityData filter).filters =
      (processDynamicFilters sources filteredRequest entityData context.filters filter).filters := by
  rw [processDynamic]
  split
  · next authorized =>
      cases entityData with
      | none => rfl
      | some entityData => rw [Option.elim_some, processAllAsserts_eq _ (by exact authorized)]
  · rfl

/-- The loops over the assertions are `processDynamicAsserts`. -/
theorem processDynamic_eq :
    processDynamic sources context userToken filteredRequest entityData filter =
      let filter := processDynamicFilters sources filteredRequest entityData context.filters filter
      if filter.authorized then
        processDynamicAsserts userToken entityData context.asserts
          { filter with metadata := context.metadata }
      else filter := by
  rw [processDynamic]
  split
  · next authorized =>
      simp only [authorized, if_true]
      rw [processDynamicAsserts_eq _ _ (by rfl)]
  · next failed => rw [if_neg failed]

/-- Filters and assertions authorize when every list has one that is satisfied. -/
theorem authorized_processDynamic (authorized : filter.authorized = true) :
    (processDynamic sources context userToken filteredRequest entityData filter).authorized =
        true ↔
      (∀ filtersToProcess ∈ context.filters, ∃ f ∈ filtersToProcess,
        filterSatisfied sources filteredRequest entityData f = true) ∧
      ∀ entity, entityData = some entity → ∀ assertsToProcess ∈ context.asserts,
        ∃ a ∈ assertsToProcess, assertSatisfied userToken entity a = true := by
  have filters : (processDynamicFilters sources filteredRequest entityData context.filters
      filter).authorized = _ := authorized_processDynamicFilters context.filters authorized
  rw [processDynamic]
  split
  · next met =>
      have every := filters.symm.trans met
      simp only [List.all_eq_true, List.any_eq_true] at every
      rw [and_iff_right every]
      cases entityData with
      | none => simpa using met
      | some entityData =>
          rw [Option.elim_some, processAllAsserts_eq _ (by exact met)]
          simp
  · next failed =>
      refine iff_of_false failed fun met => failed ?_
      rw [filters]
      simpa [List.all_eq_true, List.any_eq_true] using met.1

end Dynamic

section Authorize

variable (acl : RoleAcl) (definition : AuthorizationDefinition) (organization : Organization)
  (userToken : UserToken)

/-- `canPerformAuthorizationAction` on an object that holds data sources. -/
def canPerformAuthorizationActionOn (existing : ExistingDataSources) (authEntity : Entity)
    (authAction : Action) (filteredRequest : ExtraFilters) (entityData : Option EntityData)
    (filter : AuthorizationFilter) : AuthorizationFilter :=
  -- Check static auth
  let authResult := can acl definition userToken authEntity authAction {}
  if authResult.granted then
    let sources := initFilterDataSources existing
      (DynamicAuthorizationFactory.getDynamicDataSources organization userToken.id)
    let filter := processDynamic sources authResult.context userToken filteredRequest entityData
      { filter with authorized := true }
    { filter with
      projectFields := filterProjectFields authResult.attributes filteredRequest.projectFields }
  else { filter with authorized := false }

variable {acl definition organization userToken}
variable {existing : ExistingDataSources} {authEntity : Entity} {authAction : Action}
variable {filteredRequest : ExtraFilters} {entityData : Option EntityData}
variable {filter : AuthorizationFilter}

/-- An object without data sources is checked with those of the user. -/
theorem canPerformAuthorizationActionOn_empty :
    canPerformAuthorizationActionOn acl definition organization userToken {} authEntity authAction
        filteredRequest entityData filter =
      canPerformAuthorizationAction acl definition organization userToken authEntity authAction
        filteredRequest entityData filter := by
  by_cases granted : (can acl definition userToken authEntity authAction {}).granted = true
  · simp only [canPerformAuthorizationActionOn, canPerformAuthorizationAction, granted, if_true,
      processDynamic_eq]
    rfl
  · simp [canPerformAuthorizationActionOn, canPerformAuthorizationAction, granted]

/-- **Dynamic authorization.**  Whatever the object held before, the flag it is left with is the
static grant and the AND of the ORs of what the filters and the assertions say by themselves;
a filter by IDs says whether some granted ID is asked for.  A filter by IDs that stands alone in
its OR leaves exactly these IDs, and they stay for the query unless a later filter restricts the
same ones. -/
theorem canPerformAuthorizationActionOn_iff (existing : ExistingDataSources)
    (filter : AuthorizationFilter) :
    let authResult := can acl definition userToken authEntity authAction {}
    let sources := initFilterDataSources existing
      (DynamicAuthorizationFactory.getDynamicDataSources organization userToken.id)
    let checked := canPerformAuthorizationActionOn acl definition organization userToken existing
      authEntity authAction filteredRequest entityData filter
    (checked.authorized = true ↔
      authResult.granted = true ∧
        (∀ filtersToProcess ∈ authResult.context.filters, ∃ f ∈ filtersToProcess,
          filterSatisfied sources filteredRequest entityData f = true) ∧
        ∀ entity, entityData = some entity → ∀ assertsToProcess ∈ authResult.context.asserts,
          ∃ a ∈ assertsToProcess, assertSatisfied userToken entity a = true) ∧
      ∀ f : Negatable DynamicAuthorizationFilterName, ∀ ids, restricts f.name = some ids →
        (isSatisfied sources filteredRequest entityData f.name = true ↔
          ∃ id ∈ grantedIDs sources f.name,
            ∀ requested, ids.requested filteredRequest = some requested → id ∈ requested) ∧
        ∃ left : List String,
          (∀ id, id ∈ left ↔ id ∈ grantedIDs sources f.name ∧
            ∀ requested, ids.requested filteredRequest = some requested → id ∈ requested) ∧
          (∀ found, ids.get (processAnyFilter sources filteredRequest entityData false [f]
            found).filters = some left) ∧
          (authResult.granted = true → ∀ before after,
            authResult.context.filters = before ++ [f] :: after →
            (∀ filtersToProcess ∈ before, ∃ g ∈ filtersToProcess,
              filterSatisfied sources filteredRequest entityData g = true) →
            (∀ filtersToProcess ∈ after, ∀ g ∈ filtersToProcess, restricts g.name ≠ some ids) →
              ids.get checked.filters = some left) := by
  intro authResult sources checked
  refine ⟨?_, fun f ids restricted => ⟨isSatisfied_iff restricted,
    intersection sources filteredRequest f.name, fun _ => mem_intersection restricted,
    fun _ => get_processAnyFilter_singleton restricted, ?_⟩⟩
  · by_cases granted : authResult.granted = true
    · have flag : checked.authorized = (processDynamic sources authResult.context userToken
          filteredRequest entityData { filter with authorized := true }).authorized := by
        simp only [checked, canPerformAuthorizationActionOn]
        rw [if_pos granted]
      rw [flag, authorized_processDynamic rfl, and_iff_right granted]
    · have flag : checked.authorized = false := by
        simp only [checked, canPerformAuthorizationActionOn]
        rw [if_neg granted]
      simp [flag, granted]
  · intro granted before after split satisfied others
    have filters : checked.filters = (processDynamic sources authResult.context userToken
        filteredRequest entityData { filter with authorized := true }).filters := by
      simp only [checked, canPerformAuthorizationActionOn]
      rw [if_pos granted]
    rw [filters, filters_processDynamic, split]
    exact get_processDynamicFilters_of_reached rfl satisfied restricted others

end Authorize

/-- Every role reads sites under some filters. -/
def readSites (filters : AndOfOrs DynamicAuthorizationFilterName) : AuthorizationDefinition :=
  fun _ => { grants := [{
    resource := .site, action := [.read], condition := some (.dynamicAuthorizations filters [] none)
  }] }

/-- A user who has loaded the sites of which they are the admin and those they are assigned to. -/
def siteManager : UserToken := { id := "U1", role := .basic, rolesACL := [.basic] }

/-- These sites. -/
def loadedSites : ExistingDataSources :=
  { sitesAdmin := some ["S1", "S3"], assignedSites := some ["S2"] }

/-- The admin of two sites who asks for one of them and another one may read the one. -/
theorem canPerformAuthorizationActionOn_iff_oneSite :
    (canPerformAuthorizationActionOn (Library.inOrder conditions)
      (readSites (allOf [.sitesAdmin, .localIssuer])) {} siteManager loadedSites .site .read
      { siteID := some ["S1", "S9"] } none {}).authorized = true :=
  (canPerformAuthorizationActionOn_iff loadedSites {}).1.mpr (by decide)

/-- Of two filters on sites the second one replaces the IDs of the first. -/
theorem siteIDs_of_two_filters :
    let checked := canPerformAuthorizationActionOn (Library.inOrder conditions)
      (readSites (allOf [.sitesAdmin, .assignedSites])) {} siteManager loadedSites .site .read {}
      none {}
    checked.authorized = true ∧ checked.filters.siteIDs = some ["S2"] ∧
      intersection (initFilterDataSources loadedSites
        (DynamicAuthorizationFactory.getDynamicDataSources {} siteManager.id)) {} .sitesAdmin =
        ["S1", "S3"] := by
  decide

end AuthorizationService

end EvServer.Authorization
