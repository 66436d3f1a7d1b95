import EvServer.Authorization.AuthorizationService

/-!
# Sites and site areas for a user (`UtilsService`)

A permission passes three checks: the grant, the filters of the grant and the query they
restrict, and the flag of the action, which is computed again on what has been read.
-/

namespace EvServer.Authorization

open AccessControl

/-- Whether a field is there after a projection. -/
def isProjected (projectFields : Option (List String)) (field : String) : Bool :=
  projectFields.all fun fields => field ∈ fields

/-- What the checks of the entities that are read by ID differ in. -/
structure CheckedEntity (α : Type) where
  entity : Entity
  method : String
  /-- The ID, as the filters know it. -/
  entityID : String → ExtraFilters
  get : Organization → String → Filters → Option α
  doesNotExist : String → String
  /-- The properties of the entity that filters look at, after a projection. -/
  data : Option (List String) → α → EntityData
  /-- The ID, as the filters that the flags depend on know it. -/
  flagFilters : Option (List String) → α → ExtraFilters
  flags : List AuthorizationService.Flag
  /-- No flag is set twice. -/
  distinct : ("canRead" :: flags.map AuthorizationService.Flag.name).Nodup := by decide

/-- An entity with the properties that its check adds. -/
structure AuthorizedEntity (α : Type) where
  entity : α
  projectFields : List String
  metadata : Option Metadata
  /-- The `can…` properties; those that are false are removed. -/
  flags : List String
  deriving DecidableEq, Repr

namespace UtilsService

/-- The parameters of `checkAndGetSiteAuthorization`; to read a site ignores the filter by IDs. -/
def site : CheckedEntity Site where
  entity := .site
  method := "checkAndGetSiteAuthorization"
  entityID id := { siteID := some [id] }
  get organization id filters := SiteStorage.getSite organization id filters.issuer
  doesNotExist id := s!"Site ID '{id}' does not exist"
  data projectFields site :=
    { issuer :=
        if isProjected (Utils.nonEmptyArray projectFields) "issuer" then some site.issuer
        else none }
  flagFilters projectFields site :=
    { siteID :=
        if isProjected (Utils.nonEmptyArray projectFields) "id" then some [site.id] else none }
  flags := AuthorizationService.siteFlags

/-- The parameters of `checkAndGetSiteAreaAuthorization`; no filter looks for a `SiteAreaID`. -/
def siteArea : CheckedEntity SiteArea where
  entity := .siteArea
  method := "checkAndGetSiteAreaAuthorization"
  entityID _ := {}
  get organization id filters :=
    SiteAreaStorage.getSiteArea organization id filters.siteIDs filters.issuer
  doesNotExist id := s!"Site Area ID '{id}' does not exist"
  data projectFields siteArea :=
    { issuer := if isProjected projectFields "issuer" then some siteArea.issuer else none }
  flagFilters projectFields siteArea :=
    { siteID :=
        if isProjected projectFields "siteID" then siteArea.siteID.map fun siteID => [siteID]
        else none }
  flags := AuthorizationService.siteAreaFlags

variable {α : Type} (checked : CheckedEntity α)
variable (acl : RoleAcl) (definition : AuthorizationDefinition) (organization : Organization)
  (userToken : UserToken) (id : String) (authAction : Action) (entityData : Option EntityData)
  (additionalFilters : Filters) (applyProjectFields : Bool)

/-- The flags of an entity that has been read. -/
def entityFlags (projectFields : Option (List String)) (entity : α)
    (filter : AuthorizationFilter) : List String :=
  -- Always true as it should be filtered upfront
  "canRead" :: AuthorizationService.addAuthorizations acl definition organization userToken
    (checked.flagFilters projectFields entity) (checked.data projectFields entity) checked.flags
    filter

/-- The check of an entity that is read by ID. -/
def checkAndGetAuthorization : Except AppError (AuthorizedEntity α) := do
  let forbidden : AppError := .forbidden authAction checked.entity checked.method
  -- Check mandatory fields
  Outcome.refuse (id = "") (.generalError "The ID must be provided")
  -- Get dynamic auth
  let filter ← AuthorizationService.checkAndGetEntityAuthorizations acl definition organization
    userToken checked.entity (checked.entityID id) authAction entityData
  Outcome.refuse (filter.authorized = false) forbidden
  -- Get the entity & check it exists
  let projectFields := if applyProjectFields then some filter.projectFields else none
  match checked.get organization id (additionalFilters.merge filter.filters) with
  | none => throw (.objectDoesNotExist (checked.doesNotExist id))
  | some entity =>
      -- Add actions
      let flags := entityFlags checked acl definition organization userToken projectFields entity
        filter
      Outcome.refuse (AuthorizationService.canPerformAction flags authAction = false) forbidden
      return {
        entity := entity
        projectFields := filter.projectFields
        metadata := filter.metadata
        flags := flags }

/-- `checkAndGetSiteAuthorization`. -/
def checkAndGetSiteAuthorization (siteID : String) : Except AppError (AuthorizedEntity Site) :=
  checkAndGetAuthorization site acl definition organization userToken siteID authAction entityData
    additionalFilters applyProjectFields

/-- `checkAndGetSiteAreaAuthorization`. -/
def checkAndGetSiteAreaAuthorization (siteAreaID : String) :
    Except AppError (AuthorizedEntity SiteArea) :=
  checkAndGetAuthorization siteArea acl definition organization userToken siteAreaID authAction
    entityData additionalFilters applyProjectFields

end UtilsService

end EvServer.Authorization
