import EvServer.Authorization.AuthorizationService

/-!
# Which charging stations a user sees

The list of stations and the read of one by its ID decide in separate code.  Both restrict
everybody but an admin to the sites that are assigned; without the organisation component the
read lets every station through, while the list takes the missing sites for no station at all.
-/

namespace EvServer.Authorization

open AccessControl

namespace Authorizations

variable (acl : RoleAcl) (definition : AuthorizationDefinition) (organization : Organization)
  (userToken : UserToken)

/-- `Authorizations.canPerformAction`. -/
def canPerformAction (entity : Entity) (action : Action) (context : AuthorizationContext) : Bool :=
  (acl.can definition userToken.rolesACL entity action context).granted

/-- `Authorizations.canListChargingStations`. -/
def canListChargingStations : Bool :=
  canPerformAction acl definition userToken .chargingStation .list {}

/-- `Authorizations.canReadChargingStation`. -/
def canReadChargingStation : Bool :=
  canPerformAction acl definition userToken .chargingStation .read {}

/-- `Authorizations.getAuthorizedSiteIDs`. -/
def getAuthorizedSiteIDs (requestedSites : Option (List String)) : Option (List String) :=
  if Utils.isComponentActiveFromToken userToken .organization then
    if userToken.role = .admin then requestedSites
    else
      let userAssignedSiteIDs :=
        DynamicAuthorizationFactory.getAssignedSiteIDs organization userToken.id
      match Utils.nonEmptyArray requestedSites with
      | none => if userAssignedSiteIDs ≠ [] then some userAssignedSiteIDs else none
      | some requestedSites => some (requestedSites.filter (· ∈ userAssignedSiteIDs))
  else none

end Authorizations

/-- The parameters of `ChargingStationStorage.getChargingStations`. -/
structure GetChargingStationsParams where
  chargingStationIDs : Option (List String) := none
  issuer : Option Bool := none
  withNoSiteArea : Bool := false
  siteAreaIDs : Option (List String) := none
  siteIDs : Option (List String) := none
  companyIDs : Option (List String) := none
  includeDeleted : Bool := false
  /-- What the database makes of a text, a position, connector types and statuses. -/
  others : ChargingStation → Bool := fun _ => true

namespace ChargingStationStorage

/-- The filters of `getChargingStations`. -/
def passes (params : GetChargingStationsParams) (chargingStation : ChargingStation) : Bool :=
  params.others chargingStation &&
    (params.includeDeleted || !chargingStation.deleted) &&
    ((Utils.nonEmptyArray params.chargingStationIDs).all fun ids => chargingStation.id ∈ ids) &&
    (params.issuer.all fun issuer => chargingStation.issuer = issuer) &&
    (if params.withNoSiteArea then chargingStation.siteAreaID.isNone
      else (Utils.nonEmptyArray params.siteAreaIDs).all fun siteAreaIDs =>
        chargingStation.siteAreaID.any (· ∈ siteAreaIDs)) &&
    ((Utils.nonEmptyArray params.siteIDs).all fun siteIDs =>
      chargingStation.siteID.any (· ∈ siteIDs)) &&
    (Utils.nonEmptyArray params.companyIDs).all fun companyIDs =>
      chargingStation.companyID.any (· ∈ companyIDs)

/-- `ChargingStationStorage.getChargingStations`: the page that is asked for, by ID unless told
otherwise. -/
def getChargingStations (organization : Organization) (params : GetChargingStationsParams)
    (dbParams : DbParams ChargingStation) : List ChargingStation :=
  dbParams.page
    (dbParams.sort.getD fun chargingStation chargingStation' =>
      chargingStation.id ≤ chargingStation'.id)
    (organization.chargingStations.docs.filter (passes params))

/-- `ChargingStationStorage.getChargingStation`; the `_id` of a station is unique. -/
def getChargingStation (organization : Organization) (id : String)
    (params : GetChargingStationsParams) : Option ChargingStation :=
  (organization.chargingStations.find id).filter
    (passes {
      includeDeleted := params.includeDeleted
      issuer := params.issuer
      siteIDs := params.siteIDs })

end ChargingStationStorage

section Services

variable (acl : RoleAcl) (definition : AuthorizationDefinition) (tenant : Tenant)
  (organization : Organization) (userToken : UserToken)

/-- `checkAssignedSites`, without a requested site. -/
def AuthorizationService.checkAssignedSites (filter : AuthorizationFilter) : AuthorizationFilter :=
  if userToken.role = .admin ∨ userToken.role = .superAdmin then filter
  else if Utils.isTenantComponentActive tenant .organization then
    -- Get assigned Site IDs assigned to user from DB
    let siteIDs := DynamicAuthorizationFactory.getAssignedSiteIDs organization userToken.id
    let filter :=
      if siteIDs ≠ [] then { filter with filters := { filter.filters with siteIDs := some siteIDs } }
      else filter
    if (Utils.nonEmptyArray filter.filters.siteIDs).isSome then { filter with authorized := true }
    else filter
  else { filter with authorized := true }

/-- `checkAndGetChargingStationAuthorizations`, up to the fields to project. -/
def AuthorizationService.checkAndGetChargingStationAuthorizations : AuthorizationFilter :=
  let filter : AuthorizationFilter := { authorized := userToken.role = .admin }
  if userToken.role = .admin then filter
  else checkAssignedSites tenant organization userToken filter

/-- `checkAndGetChargingStationAuthorization`. -/
def UtilsService.checkAndGetChargingStationAuthorization (chargingStationID : String)
    (additionalFilters : GetChargingStationsParams) : Except AppError ChargingStation := do
  let forbidden : AppError :=
    .forbidden .read .chargingStation "checkAndGetChargingStationAuthorization"
  -- Check static auth for reading Charging Station
  Outcome.refuse (Authorizations.canReadChargingStation acl definition userToken = false) forbidden
  -- Check mandatory fields
  Outcome.refuse (chargingStationID = "") (.generalError "The ID must be provided")
  -- Get dynamic auth
  let filter := AuthorizationService.checkAndGetChargingStationAuthorizations tenant organization
    userToken
  Outcome.refuse (filter.authorized = false) forbidden
  -- Get ChargingStation
  match ChargingStationStorage.getChargingStation organization chargingStationID
    { additionalFilters with
      siteIDs := filter.filters.siteIDs <|> additionalFilters.siteIDs } with
  | none => throw (.objectDoesNotExist s!"ChargingStation ID '{chargingStationID}' does not exist")
  | some chargingStation =>
      Outcome.refuse (chargingStation.deleted = true) (.objectDoesNotExist
        s!"ChargingStation with ID '{chargingStation.id}' is logically deleted")
      return chargingStation

/-- `getChargingStations`, up to the fields to project; in the request, the sites are those that
are requested. -/
def ChargingStationService.getChargingStations (request : GetChargingStationsParams)
    (dbParams : DbParams ChargingStation) : Except AppError (List ChargingStation) := do
  -- Check auth
  Outcome.refuse (Authorizations.canListChargingStations acl definition userToken = false)
    (.forbidden .list .chargingStation "getChargingStations")
  let siteIDs := Authorizations.getAuthorizedSiteIDs organization userToken request.siteIDs
  if (Utils.nonEmptyArray siteIDs).isNone ∧ userToken.role ≠ .admin then return []
  else
    return ChargingStationStorage.getChargingStations organization
      { request with siteIDs := siteIDs } dbParams

end Services

/-! ## Whether they agree -/

section Agreement

variable {acl : RoleAcl} {tenant : Tenant} {organization : Organization} {userToken : UserToken}
  {chargingStation : ChargingStation}

/-- The component is active for the token when it is for the tenant. -/
theorem UserToken.IsOf.isComponentActive (issued : userToken.IsOf tenant)
    (component : TenantComponents) :
    Utils.isComponentActiveFromToken userToken component =
      Utils.isTenantComponentActive tenant component := by
  rw [Bool.eq_iff_iff, Utils.isComponentActiveFromToken, decide_eq_true_eq, issued.components,
    Utils.mem_getTenantActiveComponents]

theorem canPerformAction_of_unconditional {definition : AuthorizationDefinition} {entity : Entity}
    {action : Action} {context : AuthorizationContext}
    (granted : ((definition.rules userToken.rolesACL entity action).any fun rule =>
      rule.condition.isNone) = true) :
    Authorizations.canPerformAction acl definition userToken entity action context = true := by
  obtain ⟨rule, mem, unconditional⟩ := List.any_eq_true.mp granted
  refine (acl.granted_iff _ _ _ _ _).mpr ⟨rule, mem, ?_⟩
  rw [Rule.holds, Option.isNone_iff_eq_none.mp unconditional]
  rfl

/-- Everybody but a super admin may list stations and read one. -/
theorem canList_and_canRead (acl : RoleAcl) (roles : userToken.HasRoles)
    (role : userToken.role ≠ .superAdmin) :
    Authorizations.canListChargingStations acl AUTHORIZATION_DEFINITION userToken = true ∧
      Authorizations.canReadChargingStation acl AUTHORIZATION_DEFINITION userToken = true := by
  have granted : ∀ action ∈ [Action.list, .read],
      ((AUTHORIZATION_DEFINITION.rules userToken.rolesACL .chargingStation action).any fun rule =>
        rule.condition.isNone) = true := by
    rcases same : userToken.role
    · exact absurd same role
    · rw [roles.admin same]
      decide
    · rcases roles.basic_cases same with same | same | same | same <;> rw [same] <;> decide
    · rw [roles.demo same]
      decide
  exact ⟨canPerformAction_of_unconditional (granted .list (by decide)),
    canPerformAction_of_unconditional (granted .read (by decide))⟩

/-- The station is on a site that is assigned to the user. -/
def ChargingStation.isOnAssignedSite (organization : Organization) (userToken : UserToken)
    (chargingStation : ChargingStation) : Bool :=
  chargingStation.siteID.any fun siteID =>
    siteID ∈ DynamicAuthorizationFactory.getAssignedSiteIDs organization userToken.id

theorem passes_siteIDs {siteIDs : Option (List String)}
    (notDeleted : chargingStation.deleted = false) :
    ChargingStationStorage.passes { siteIDs := siteIDs } chargingStation ↔
      ∀ ids, Utils.nonEmptyArray siteIDs = some ids → chargingStation.siteID.any (· ∈ ids) := by
  rcases siteIDs with _ | ids
  · simp [ChargingStationStorage.passes, notDeleted, Utils.nonEmptyArray]
  · by_cases none : ids = [] <;>
      simp [ChargingStationStorage.passes, notDeleted, Utils.nonEmptyArray, none]

/-- The sites of the list, when none are requested. -/
theorem getAuthorizedSiteIDs_none :
    Utils.nonEmptyArray (Authorizations.getAuthorizedSiteIDs organization userToken none) =
      if Utils.isComponentActiveFromToken userToken .organization = true ∧
        userToken.role ≠ .admin then
        Utils.nonEmptyArray
          (some (DynamicAuthorizationFactory.getAssignedSiteIDs organization userToken.id))
      else none := by
  rw [Authorizations.getAuthorizedSiteIDs]
  by_cases active : Utils.isComponentActiveFromToken userToken .organization = true
  · by_cases admin : userToken.role = .admin
    · simp [active, admin]
    · by_cases none : DynamicAuthorizationFactory.getAssignedSiteIDs organization userToken.id = []
      <;> simp [active, admin, none]
  · simp [active]

/-- The list shows every station to an admin, and else those on assigned sites, if the component
is active. -/
theorem exists_mem_getChargingStations_iff (roles : userToken.HasRoles)
    (role : userToken.role ≠ .superAdmin)
    (mem : chargingStation ∈ organization.chargingStations.docs)
    (notDeleted : chargingStation.deleted = false) :
    (∃ dbParams chargingStations, ChargingStationService.getChargingStations acl
        AUTHORIZATION_DEFINITION organization userToken {} dbParams = .ok chargingStations ∧
        chargingStation ∈ chargingStations) ↔
      userToken.role = .admin ∨
        Utils.isComponentActiveFromToken userToken .organization = true ∧
          chargingStation.isOnAssignedSite organization userToken = true := by
  obtain ⟨permitted, _⟩ := canList_and_canRead acl roles role
  have onPage : ∀ siteIDs, (∃ dbParams, chargingStation ∈ ChargingStationStorage.getChargingStations
      organization { siteIDs := siteIDs } dbParams) ↔
        ∀ ids, Utils.nonEmptyArray siteIDs = some ids → chargingStation.siteID.any (· ∈ ids) := by
    intro siteIDs
    rw [← passes_siteIDs notDeleted]
    constructor
    · rintro ⟨dbParams, onPage⟩
      exact (List.mem_filter.mp (mem_of_mem_page onPage)).2
    · intro passes
      exact ⟨_, page_all (List.mem_filter.mpr ⟨mem, passes⟩)⟩
  simp only [ChargingStationService.getChargingStations, permitted, Bool.true_eq_false,
    Outcome.refuse_of_not not_false, Outcome.ok_bind, getAuthorizedSiteIDs_none]
  by_cases admin : userToken.role = .admin
  · simp only [admin, ne_eq, not_true_eq_false, and_false, if_false, Outcome.pure_eq_ok_iff,
      exists_eq_left', true_or, iff_true, onPage, getAuthorizedSiteIDs_none]
    intro ids none
    cases none
  · by_cases active : Utils.isComponentActiveFromToken userToken .organization = true
    · by_cases noSites : DynamicAuthorizationFactory.getAssignedSiteIDs organization userToken.id = []
      · simp [admin, active, noSites, ChargingStation.isOnAssignedSite]
      · have assigned := onPage
          (Authorizations.getAuthorizedSiteIDs organization userToken none)
        rw [getAuthorizedSiteIDs_none, if_pos ⟨active, admin⟩, Utils.nonEmptyArray_some,
          if_neg noSites] at assigned
        simp only [active, admin, ne_eq, not_false_eq_true, and_self, if_true,
          Utils.nonEmptyArray_some, noSites, if_false, Option.isNone_some, Bool.false_eq_true,
          false_and, Outcome.pure_eq_ok_iff, exists_eq_left', assigned, Option.some.injEq,
          forall_eq', ChargingStation.isOnAssignedSite, false_or, true_and]
    · simp [admin, active]

/-- What the read of a station is restricted to. -/
theorem checkAndGetChargingStationAuthorizations_eq (role : userToken.role ≠ .superAdmin) :
    AuthorizationService.checkAndGetChargingStationAuthorizations tenant organization userToken =
      if userToken.role = .admin ∨ Utils.isTenantComponentActive tenant .organization = false then
        { authorized := true }
      else if DynamicAuthorizationFactory.getAssignedSiteIDs organization userToken.id = [] then {}
      else
        { filters :=
            { siteIDs := some
                (DynamicAuthorizationFactory.getAssignedSiteIDs organization userToken.id) }
          authorized := true } := by
  rw [AuthorizationService.checkAndGetChargingStationAuthorizations]
  by_cases admin : userToken.role = .admin
  · simp [admin]
  · by_cases active : Utils.isTenantComponentActive tenant .organization = true
    · by_cases noSites :
        DynamicAuthorizationFactory.getAssignedSiteIDs organization userToken.id = []
      <;> simp [AuthorizationService.checkAssignedSites, admin, role, active, noSites]
    · simp [AuthorizationService.checkAssignedSites, admin, role, active]

/-- A station is read by an admin, and else on an assigned site, or if the component is not
active. -/
theorem checkAndGetChargingStationAuthorization_isOk_iff (roles : userToken.HasRoles)
    (role : userToken.role ≠ .superAdmin)
    (mem : chargingStation ∈ organization.chargingStations.docs)
    (notDeleted : chargingStation.deleted = false) :
    (UtilsService.checkAndGetChargingStationAuthorization acl AUTHORIZATION_DEFINITION tenant
        organization userToken chargingStation.id {}).isOk ↔
      userToken.role = .admin ∨ Utils.isTenantComponentActive tenant .organization = false ∨
        chargingStation.isOnAssignedSite organization userToken = true := by
  obtain ⟨_, permitted⟩ := canList_and_canRead acl roles role
  have found := Collection.find_of_mem mem
  have read : ∀ siteIDs, ChargingStationStorage.getChargingStation organization chargingStation.id
      { siteIDs := siteIDs } = if ChargingStationStorage.passes { siteIDs := siteIDs }
        chargingStation then some chargingStation else none := by
    intro siteIDs
    rw [ChargingStationStorage.getChargingStation, found, Option.filter_some]
  rw [UtilsService.checkAndGetChargingStationAuthorization,
    checkAndGetChargingStationAuthorizations_eq role,
    Outcome.refuse_of_not (by simp [permitted]), Outcome.ok_bind,
    Outcome.refuse_of_not chargingStation.ne_id.symm, Outcome.ok_bind]
  have returned : ∀ error, ((fun _ => chargingStation) <$>
      (Outcome.refuse False error : Except AppError Unit)) = .ok chargingStation := fun _ => rfl
  split
  · rename_i all
    have passes : ChargingStationStorage.passes { siteIDs := none } chargingStation = true :=
      (passes_siteIDs notDeleted).mpr fun ids none => by cases none
    refine iff_of_true ?_ (by tauto)
    simp [read, passes, notDeleted, Outcome.isOk_iff, returned]
  · rename_i restricted
    obtain ⟨admin, active⟩ := not_or.mp restricted
    split
    · rename_i noSites
      simp [admin, active, noSites, ChargingStation.isOnAssignedSite, Outcome.isOk_iff]
    · rename_i sites
      have passes : ChargingStationStorage.passes
          { siteIDs := some
              (DynamicAuthorizationFactory.getAssignedSiteIDs organization userToken.id) }
          chargingStation = chargingStation.isOnAssignedSite organization userToken := by
        rw [Bool.eq_iff_iff, passes_siteIDs notDeleted, Utils.nonEmptyArray_some, if_neg sites]
        simp [ChargingStation.isOnAssignedSite]
      by_cases onSite : chargingStation.isOnAssignedSite organization userToken = true
      · simp [read, passes, onSite, notDeleted, Outcome.isOk_iff, returned]
      · simp [read, passes, onSite, admin, active, Outcome.isOk_iff]

end Agreement

/-- **The list and the read agree** on a station that is not deleted, when the organisation
component is active, or for the admins. -/
theorem list_agrees_iff (acl : RoleAcl) {tenant : Tenant} {organization : Organization}
    {userToken : UserToken} {chargingStation : ChargingStation} (issued : userToken.IsOf tenant)
    (mem : chargingStation ∈ organization.chargingStations.docs)
    (notDeleted : chargingStation.deleted = false) :
    ((∃ dbParams chargingStations, ChargingStationService.getChargingStations acl
          AUTHORIZATION_DEFINITION organization userToken {} dbParams = .ok chargingStations ∧
          chargingStation ∈ chargingStations) ↔
        (UtilsService.checkAndGetChargingStationAuthorization acl AUTHORIZATION_DEFINITION tenant
          organization userToken chargingStation.id {}).isOk) ↔
      Utils.isTenantComponentActive tenant .organization = true ∨ userToken.role = .admin ∨
        userToken.role = .superAdmin := by
  by_cases superAdmin : userToken.role = .superAdmin
  · have nothing : ∀ action, AUTHORIZATION_DEFINITION.rules userToken.rolesACL .chargingStation
        action = [] := by
      intro action
      rw [issued.roles.superAdmin superAdmin]
      rfl
    have notListed : Authorizations.canListChargingStations acl AUTHORIZATION_DEFINITION userToken =
        false := acl.can_of_nil (nothing .list)
    have notRead : Authorizations.canReadChargingStation acl AUTHORIZATION_DEFINITION userToken =
        false := acl.can_of_nil (nothing .read)
    simp [ChargingStationService.getChargingStations, notListed,
      UtilsService.checkAndGetChargingStationAuthorization, notRead, superAdmin, Outcome.isOk_iff]
  · rw [exists_mem_getChargingStations_iff issued.roles superAdmin mem notDeleted,
      checkAndGetChargingStationAuthorization_isOk_iff issued.roles superAdmin mem notDeleted,
      issued.isComponentActive]
    by_cases active : Utils.isTenantComponentActive tenant .organization = true <;>
      simp [active, superAdmin]

/-- A tenant with two sites, one of them assigned to a user, and a station on each. -/
def stations : Organization where
  chargingStations := ⟨[{ id := "cs1", siteID := some "s" }, { id := "cs2", siteID := some "t" }],
    by decide⟩
  sites := ⟨[{ id := "s" }, { id := "t" }], by decide⟩
  users := ⟨[{ id := "u", role := .basic }], by decide⟩
  userSites := [{ userID := "u", siteID := "s" }]

/-- The token of the user, for a tenant with these components. -/
def stationToken (tenant : Tenant) : UserToken :=
  Authorizations.buildUserToken tenant stations { id := "u", role := .basic } []

/-- The station on the other site is neither listed nor read. -/
theorem list_agrees_active :
    (∃ dbParams chargingStations, ChargingStationService.getChargingStations
        (Library.inOrder conditions) AUTHORIZATION_DEFINITION stations
        (stationToken organizationTenant) {} dbParams =
          .ok chargingStations ∧
        ({ id := "cs2", siteID := some "t" } : ChargingStation) ∈ chargingStations) ↔
      (UtilsService.checkAndGetChargingStationAuthorization (Library.inOrder conditions)
        AUTHORIZATION_DEFINITION organizationTenant stations
        (stationToken organizationTenant) "cs2" {}).isOk :=
  (list_agrees_iff (Library.inOrder conditions) ⟨⟨0, 0, rfl⟩, rfl⟩ (by decide) rfl).mpr (.inl rfl)

/-- Without the component a station is read and not listed. -/
theorem read_not_listed :
    (∀ dbParams, ChargingStationService.getChargingStations (Library.inOrder conditions)
      AUTHORIZATION_DEFINITION stations (stationToken bareTenant) {} dbParams = .ok []) ∧
    (UtilsService.checkAndGetChargingStationAuthorization (Library.inOrder conditions)
      AUTHORIZATION_DEFINITION bareTenant stations (stationToken bareTenant)
      "cs1" {}).isOk = true := by
  constructor
  · intro dbParams
    rfl
  · decide +kernel

end EvServer.Authorization
