import EvServer.Lib.AccessControl
import EvServer.Rest.LogIn

/-!
# Roles and grants

The definition lists what each role may do with each entity.  A grant may have a condition:
one on the properties of the request's context, or `dynamicAuthorizations`, which is always met
and leaves the names of filters and assertions in the context, for the caller to process.

Only the grants of users, sites, site areas, charging stations and transactions are listed, and
the attributes of those whose attributes are read.
-/

namespace EvServer.Authorization

open AccessControl

/-- `Entity`. -/
inductive Entity
  | site
  | siteArea
  | company
  | chargingStation
  | tenant
  | transaction
  | report
  | user
  | usersSites
  | logging
  | pricing
  | pricingDefinition
  | billing
  | setting
  | asyncTask
  | ocpiEndpoint
  | oicpEndpoint
  | connection
  | asset
  | carCatalog
  | car
  | invoice
  | tax
  | registrationToken
  | chargingProfile
  | notification
  | tag
  | paymentMethod
  | source
  deriving DecidableEq, Repr

/-- `Action`. -/
inductive Action
  | read
  | create
  | update
  | updateByVisualID
  | replace
  | revoke
  | delete
  | logout
  | login
  | list
  | inError
  | reset
  | assign
  | unassign
  | clearCache
  | triggerDataTransfer
  | synchronize
  | getConfiguration
  | changeConfiguration
  | synchronizeCarCatalogs
  | remoteStartTransaction
  | remoteStopTransaction
  | startTransaction
  | stopTransaction
  | unlockConnector
  | authorize
  | setChargingProfile
  | getCompositeSchedule
  | clearChargingProfile
  | getDiagnostics
  | updateFirmware
  | «export»
  | changeAvailability
  | refundTransaction
  | synchronizeBillingUser
  | billingSetupPaymentMethod
  | billingPaymentMethods
  | billingDeletePaymentMethod
  | billingChargeInvoice
  | checkConnection
  | clearBillingTestData
  | retrieveConsumption
  | readConsumption
  | createConsumption
  | ping
  | generateLocalToken
  | register
  | triggerJob
  | download
  | «import»
  | assignUsersToSite
  | unassignUsersFromSite
  | assignAssetsToSiteArea
  | unassignAssetsFromSiteArea
  | readAssetsFromSiteArea
  | assignChargingStationsToSiteArea
  | unassignChargingStationsFromSiteArea
  | readChargingStationsFromSiteArea
  | exportOCPPParams
  | generateQR
  | maintainPricingDefinitions
  deriving DecidableEq, Repr

/-- The name of an action, of which the name of a `can…` flag is made. -/
def Action.value : Action → String
  | .read => "Read"
  | .create => "Create"
  | .update => "Update"
  | .updateByVisualID => "UpdateByVisualID"
  | .replace => "Replace"
  | .revoke => "Revoke"
  | .delete => "Delete"
  | .logout => "Logout"
  | .login => "Login"
  | .list => "List"
  | .inError => "InError"
  | .reset => "Reset"
  | .assign => "Assign"
  | .unassign => "Unassign"
  | .clearCache => "ClearCache"
  | .triggerDataTransfer => "DataTransfer"
  | .synchronize => "Synchronize"
  | .getConfiguration => "GetConfiguration"
  | .changeConfiguration => "ChangeConfiguration"
  | .synchronizeCarCatalogs => "SynchronizeCarCatalogs"
  | .remoteStartTransaction => "RemoteStartTransaction"
  | .remoteStopTransaction => "RemoteStopTransaction"
  | .startTransaction => "StartTransaction"
  | .stopTransaction => "StopTransaction"
  | .unlockConnector => "UnlockConnector"
  | .authorize => "Authorize"
  | .setChargingProfile => "SetChargingProfile"
  | .getCompositeSchedule => "GetCompositeSchedule"
  | .clearChargingProfile => "ClearChargingProfile"
  | .getDiagnostics => "GetDiagnostics"
  | .updateFirmware => "UpdateFirmware"
  | .«export» => "Export"
  | .changeAvailability => "ChangeAvailability"
  | .refundTransaction => "RefundTransaction"
  | .synchronizeBillingUser => "SynchronizeBillingUser"
  | .billingSetupPaymentMethod => "BillingSetupPaymentMethod"
  | .billingPaymentMethods => "BillingPaymentMethods"
  | .billingDeletePaymentMethod => "BillingDeletePaymentMethod"
  | .billingChargeInvoice => "BillingChargeInvoice"
  | .checkConnection => "CheckConnection"
  | .clearBillingTestData => "ClearBillingTestData"
  | .retrieveConsumption => "RetrieveConsumption"
  | .readConsumption => "ReadConsumption"
  | .createConsumption => "CreateConsumption"
  | .ping => "Ping"
  | .generateLocalToken => "GenerateLocalToken"
  | .register => "Register"
  | .triggerJob => "TriggerJob"
  | .download => "Download"
  | .«import» => "Import"
  | .assignUsersToSite => "AssignUsers"
  | .unassignUsersFromSite => "UnassignUsers"
  | .assignAssetsToSiteArea => "AssignAssets"
  | .unassignAssetsFromSiteArea => "UnassignAssets"
  | .readAssetsFromSiteArea => "ReadAssets"
  | .assignChargingStationsToSiteArea => "AssignChargingStations"
  | .unassignChargingStationsFromSiteArea => "UnassignChargingStations"
  | .readChargingStationsFromSiteArea => "ReadChargingStationsFromSiteArea"
  | .exportOCPPParams => "ExportOCPPParams"
  | .generateQR => "GenerateQrCode"
  | .maintainPricingDefinitions => "MaintainPricingDefinitions"

/-- `UserRole`. -/
inductive UserRole
  | superAdmin
  | admin
  | basic
  | demo
  deriving DecidableEq, Repr

/-- The roles of the definition. -/
inductive Role
  | superAdmin
  | admin
  | basic
  | demo
  | siteAdmin
  | siteOwner
  deriving DecidableEq, Repr

/-- `DynamicAuthorizationFilterName`. -/
inductive DynamicAuthorizationFilterName
  | assignedSitesCompanies
  | sitesAdmin
  | sitesOwner
  | assignedSites
  | ownUser
  | localIssuer
  | excludeAction
  deriving DecidableEq, Repr

/-- `DynamicAuthorizationAssertName`. -/
inductive DynamicAuthorizationAssertName
  | poolCar
  | ownUser
  | basicUser
  | userMandatory
  | siteAreaMandatory
  deriving DecidableEq, Repr

/-- A name, or the name with a leading `-`. -/
inductive Negatable (Name : Type)
  | plain (name : Name)
  | negated (name : Name)
  deriving DecidableEq, Repr

/-- The names of filters or assertions: the first list is an AND, the second one an OR. -/
abbrev AndOfOrs (Name : Type) := List (List (Negatable Name))

/-- `AuthorizationDefinitionFieldMetadata`, up to the values. -/
structure FieldMetadata where
  visible : Option Bool := none
  enabled : Option Bool := none
  mandatory : Option Bool := none
  deriving DecidableEq, Repr

/-- The metadata of fields. -/
abbrev Metadata := List (String × FieldMetadata)

/-! ## Conditions -/

/-- `AuthorizationContext`; the `…Set` properties are those of `dynamicAuthorizations`. -/
structure AuthorizationContext where
  user : Option String := none
  owner : Option String := none
  tagID : Option String := none
  site : Option String := none
  tagIDs : List String := []
  sites : List String := []
  sitesAdmin : List String := []
  sitesOwner : List String := []
  filters : AndOfOrs DynamicAuthorizationFilterName := []
  filtersSet : Bool := false
  asserts : AndOfOrs DynamicAuthorizationAssertName := []
  assertsSet : Bool := false
  metadata : Option Metadata := none
  metadataSet : Bool := false
  deriving DecidableEq, Repr

/-- The properties of a context that are strings. -/
inductive ContextProperty
  | user
  | owner
  | tagID
  | site
  deriving DecidableEq, Repr

/-- The properties of a context that are lists. -/
inductive ContextList
  | tagIDs
  | sites
  | sitesAdmin
  | sitesOwner
  deriving DecidableEq, Repr

namespace AuthorizationContext

/-- `context[property]`. -/
def get (context : AuthorizationContext) : ContextProperty → Option String
  | .user => context.user
  | .owner => context.owner
  | .tagID => context.tagID
  | .site => context.site

/-- `context[list]`. -/
def getList (context : AuthorizationContext) : ContextList → List String
  | .tagIDs => context.tagIDs
  | .sites => context.sites
  | .sitesAdmin => context.sitesAdmin
  | .sitesOwner => context.sitesOwner

end AuthorizationContext

/-- What a condition compares with: `null`, or the property that a path `$.…` names. -/
inductive Operand
  | null
  | path (property : ContextProperty)
  deriving DecidableEq, Repr

/-- The value of an operand. -/
def Operand.value (context : AuthorizationContext) : Operand → Option String
  | .null => none
  | .path property => context.get property

/-- The conditions of the library. -/
inductive BasicCondition
  | equals (property : ContextProperty) (operand : Operand)
  | listContains (list : ContextList) (operand : Operand)
  deriving DecidableEq, Repr

/-- `EQUALS` and `LIST_CONTAINS`. -/
def BasicCondition.holds (context : AuthorizationContext) : BasicCondition → Bool
  | .equals property operand => context.get property = operand.value context
  | .listContains list operand =>
      (operand.value context).any fun value => value ∈ context.getList list

/-- `AuthorizationDefinitionCondition`. -/
inductive Condition
  | dynamicAuthorizations (filters : AndOfOrs DynamicAuthorizationFilterName)
      (asserts : AndOfOrs DynamicAuthorizationAssertName) (metadata : Option Metadata)
  | fn (condition : BasicCondition)
  | or (conditions : List BasicCondition)
  deriving DecidableEq, Repr

namespace Condition

/-- Whether a condition is met; `dynamicAuthorizations` returns `true`. -/
def holds : Condition → AuthorizationContext → Bool
  | .dynamicAuthorizations _ _ _, _ => true
  | .fn condition, context => condition.holds context
  | .or conditions, context => conditions.any fun condition => condition.holds context

/-- What the evaluation of a condition leaves in the context: `dynamicAuthorizations` passes its
arguments, unless another grant has. -/
def write : Condition → AuthorizationContext → AuthorizationContext
  | .dynamicAuthorizations filters asserts metadata, context =>
      let context :=
        if context.filtersSet then context
        else { context with filters := filters, filtersSet := true }
      let context :=
        if context.assertsSet then context
        else { context with asserts := asserts, assertsSet := true }
      let context := { context with metadata := some (context.metadata.getD []) }
      if context.metadataSet ∨ metadata = none then context
      else { context with metadata := metadata, metadataSet := true }
  | _, context => context

end Condition

/-- The conditions of grants, `AUTHORIZATION_CONDITIONS` among them. -/
def conditions : Semantics Condition AuthorizationContext := ⟨Condition.holds, Condition.write⟩

/-! ## The definition -/

/-- `AuthorizationDefinition`. -/
abbrev AuthorizationDefinition := Definition Role Entity Action Condition

/-- The library `role-acl`. -/
abbrev RoleAcl := Library Role Entity Action conditions

/-- All of the names. -/
def allOf {Name : Type} (names : List Name) : AndOfOrs Name := names.map fun name => [.plain name]

/-- The metadata of the grants that list users. -/
def statusMetadata : Metadata := [("status", { visible := some true, mandatory := some true })]

/-- The metadata of the grant by which a site admin reads sites. -/
def autoUserSiteAssignmentMetadata : Metadata :=
  [("autoUserSiteAssignment", { enabled := some false })]

/-- `AUTHORIZATION_DEFINITION`. -/
def AUTHORIZATION_DEFINITION : AuthorizationDefinition
  | .superAdmin =>
    { grants := [
        { resource := .user
          action := [.list]
          condition := some (.dynamicAuthorizations [] [] (some statusMetadata))
          attributes := [
            "id", "name", "firstName", "email", "role", "status", "issuer", "createdOn",
            "createdBy", "lastChangedOn", "lastChangedBy", "eulaAcceptedOn",
            "eulaAcceptedVersion", "locale", "billingData.customerID",
            "billingData.lastChangedOn"] },
        { resource := .user
          action := [.delete]
          condition := some (
            .dynamicAuthorizations ([.negated .ownUser] :: allOf [.localIssuer]) [] none) },
        { resource := .user
          action := [.read, .create]
          attributes := [
            "id", "name", "firstName", "email", "role", "status", "issuer", "locale", "plateID",
            "notificationsActive", "notifications", "phone", "mobile", "iNumber", "costCenter",
            "address"] },
        { resource := .user
          action := [.update]
          condition := some (.dynamicAuthorizations (allOf [.localIssuer]) [] none)
          attributes := [
            "id", "name", "firstName", "email", "role", "status", "issuer", "locale", "plateID",
            "notificationsActive", "notifications", "phone", "mobile", "iNumber", "costCenter",
            "address"] }] }
  | .admin =>
    { grants := [
        { resource := .user
          action := [.list, .«export», .«import»]
          condition := some (.dynamicAuthorizations [] [] (some statusMetadata))
          attributes := [
            "id", "name", "firstName", "email", "role", "status", "issuer", "createdOn",
            "createdBy", "lastChangedOn", "lastChangedBy", "eulaAcceptedOn",
            "eulaAcceptedVersion", "locale", "billingData.customerID",
            "billingData.lastChangedOn", "technical", "freeAccess"] },
        { resource := .user
          action := [.inError]
          attributes := [
            "id", "name", "firstName", "email", "role", "status", "issuer", "createdOn",
            "lastChangedOn", "errorCodeDetails", "errorCode"] },
        { resource := .user
          action := [.synchronizeBillingUser] },
        { resource := .user
          action := [.delete]
          condition := some (
            .dynamicAuthorizations ([.negated .ownUser] :: allOf [.localIssuer]) [] none) },
        { resource := .user
          action := [.read, .create]
          attributes := [
            "id", "name", "firstName", "email", "role", "status", "issuer", "locale", "plateID",
            "notificationsActive", "notifications", "phone", "mobile", "iNumber", "costCenter",
            "address", "technical", "freeAccess"] },
        { resource := .user
          action := [.update]
          condition := some (.dynamicAuthorizations (allOf [.localIssuer]) [] none)
          attributes := [
            "id", "name", "firstName", "email", "role", "status", "issuer", "locale", "plateID",
            "notificationsActive", "notifications", "phone", "mobile", "iNumber", "costCenter",
            "address", "technical", "freeAccess"] },
        { resource := .site
          action := [.list]
          attributes := [
            "id", "name", "address.address1", "address.address2", "address.postalCode",
            "address.city", "address.country", "address.coordinates", "companyID", "company.name",
            "autoUserSiteAssignment", "issuer", "autoUserSiteAssignment", "distanceMeters",
            "public", "createdOn", "lastChangedOn", "createdBy.name", "createdBy.firstName",
            "lastChangedBy.name", "lastChangedBy.firstName"] },
        { resource := .site
          action := [.read]
          attributes := [
            "id", "name", "address", "companyID", "company.name", "autoUserSiteAssignment",
            "issuer", "autoUserSiteAssignment", "distanceMeters", "public", "createdOn",
            "lastChangedOn", "tariffID"] },
        { resource := .site
          action := [
            .create, .update, .delete, .exportOCPPParams, .generateQR, .maintainPricingDefinitions]
          condition := some (.dynamicAuthorizations (allOf [.localIssuer]) [] none) },
        { resource := .usersSites
          action := [.list]
          attributes := [
            "user.id", "user.name", "user.firstName", "user.email", "user.role", "siteAdmin",
            "siteOwner", "siteID"] },
        { resource := .usersSites
          action := [.assign, .unassign, .read]
          condition := some (.dynamicAuthorizations (allOf [.localIssuer]) [] none) },
        { resource := .siteArea
          action := [.list]
          attributes := [
            "id", "name", "siteID", "maximumPower", "voltage", "numberOfPhases", "accessControl",
            "smartCharging", "address.address1", "address.address2", "address.postalCode",
            "address.city", "address.country", "address.coordinates", "site.id", "site.name",
            "site.public", "issuer", "distanceMeters", "createdOn", "createdBy", "lastChangedOn",
            "lastChangedBy"] },
        { resource := .siteArea
          action := [.read, .readChargingStationsFromSiteArea]
          attributes := [
            "id", "name", "issuer", "image", "address", "maximumPower", "numberOfPhases",
            "voltage", "smartCharging", "accessControl", "connectorStats", "siteID", "site.name",
            "site.public", "tariffID"] },
        { resource := .siteArea
          action := [
            .create, .update, .delete, .assignAssetsToSiteArea, .unassignAssetsFromSiteArea,
            .assignChargingStationsToSiteArea, .unassignChargingStationsFromSiteArea,
            .exportOCPPParams, .generateQR, .readAssetsFromSiteArea]
          condition := some (.dynamicAuthorizations (allOf [.localIssuer]) [] none) },
        { resource := .chargingStation
          action := [.list, .inError] },
        { resource := .chargingStation
          action := [
            .create, .read, .update, .delete, .reset, .clearCache, .getConfiguration,
            .changeConfiguration, .remoteStartTransaction, .remoteStopTransaction,
            .stopTransaction, .startTransaction, .unlockConnector, .authorize,
            .setChargingProfile, .getCompositeSchedule, .clearChargingProfile, .getDiagnostics,
            .updateFirmware, .«export», .changeAvailability, .triggerDataTransfer] },
        { resource := .transaction
          action := [.list, .«export», .inError] },
        { resource := .transaction
          action := [.read, .update, .delete, .refundTransaction] }] }
  | .basic =>
    { grants := [
        { resource := .user
          action := [.read]
          condition := some (.dynamicAuthorizations (allOf [.ownUser]) [] none)
          attributes := [
            "id", "name", "firstName", "email", "role", "issuer", "locale", "notificationsActive",
            "notifications", "phone", "mobile", "iNumber", "costCenter", "address"] },
        { resource := .user
          action := [.update]
          condition := some (.dynamicAuthorizations (allOf [.ownUser]) (allOf [.basicUser]) none)
          attributes := [
            "id", "name", "firstName", "email", "role", "issuer", "locale", "notificationsActive",
            "notifications", "phone", "mobile", "iNumber", "costCenter", "address"] },
        { resource := .site
          action := [.list]
          condition := some (
            .dynamicAuthorizations (allOf [.assignedSites, .localIssuer]) [] none)
          attributes := [
            "id", "name", "address.address1", "address.address2", "address.postalCode",
            "address.city", "address.country", "address.coordinates", "companyID", "company.name",
            "autoUserSiteAssignment", "issuer", "autoUserSiteAssignment", "distanceMeters",
            "public", "createdOn", "lastChangedOn"] },
        { resource := .site
          action := [.read]
          condition := some (
            .dynamicAuthorizations (allOf [.assignedSites, .localIssuer]) [] none)
          attributes := [
            "id", "name", "address", "companyID", "company.name", "autoUserSiteAssignment",
            "issuer", "autoUserSiteAssignment", "distanceMeters", "public", "createdOn",
            "lastChangedOn"] },
        { resource := .siteArea
          action := [.list]
          condition := some (.dynamicAuthorizations (allOf [.assignedSites]) [] none)
          attributes := [
            "id", "name", "siteID", "maximumPower", "voltage", "numberOfPhases", "accessControl",
            "smartCharging", "address.address1", "address.address2", "address.postalCode",
            "address.city", "address.country", "address.coordinates", "site.id", "site.name",
            "issuer", "distanceMeters", "createdOn", "lastChangedOn"] },
        { resource := .siteArea
          action := [.read, .readChargingStationsFromSiteArea]
          condition := some (.dynamicAuthorizations (allOf [.assignedSites]) [] none)
          attributes := [
            "id", "name", "issuer", "image", "address", "maximumPower", "numberOfPhases",
            "voltage", "smartCharging", "accessControl", "connectorStats", "siteID", "site.name"] },
        { resource := .chargingStation
          action := [.list] },
        { resource := .chargingStation
          action := [.read] },
        { resource := .chargingStation
          action := [.remoteStartTransaction, .authorize, .startTransaction]
          condition := some (.or [.equals .site .null, .listContains .sites (.path .site)]) },
        { resource := .chargingStation
          action := [.remoteStopTransaction, .stopTransaction]
          condition := some (
            .dynamicAuthorizations (allOf [.assignedSites, .localIssuer]) [] none) },
        { resource := .transaction
          action := [.list, .«export»] },
        { resource := .transaction
          action := [.read, .update]
          condition := some (
            .or [.equals .user (.path .owner), .listContains .tagIDs (.path .tagID)]) }] }
  | .demo =>
    { grants := [
        { resource := .user
          action := [.read]
          condition := some (.dynamicAuthorizations (allOf [.ownUser]) [] none)
          attributes := [
            "id", "name", "firstName", "email", "issuer", "locale", "notificationsActive",
            "notifications", "phone", "mobile", "iNumber", "costCenter", "address"] },
        { resource := .site
          action := [.list]
          attributes := [
            "id", "name", "address.address1", "address.address2", "address.postalCode",
            "address.city", "address.country", "address.coordinates", "companyID", "company.name",
            "autoUserSiteAssignment", "issuer", "autoUserSiteAssignment", "distanceMeters",
            "public", "createdOn", "lastChangedOn"] },
        { resource := .site
          action := [.read]
          attributes := [
            "id", "name", "address", "companyID", "company.name", "autoUserSiteAssignment",
            "issuer", "autoUserSiteAssignment", "distanceMeters", "public", "createdOn",
            "lastChangedOn"] },
        { resource := .siteArea
          action := [.list]
          attributes := [
            "id", "name", "siteID", "maximumPower", "voltage", "numberOfPhases", "accessControl",
            "smartCharging", "address.address1", "address.address2", "address.postalCode",
            "address.city", "address.country", "address.coordinates", "site.id", "site.name",
            "issuer", "distanceMeters", "createdOn", "lastChangedOn"] },
        { resource := .siteArea
          action := [.read]
          attributes := [
            "id", "name", "issuer", "image", "address", "maximumPower", "numberOfPhases",
            "voltage", "smartCharging", "accessControl", "connectorStats", "siteID", "site.name"] },
        { resource := .chargingStation
          action := [.list] },
        { resource := .chargingStation
          action := [.read] },
        { resource := .transaction
          action := [.list] },
        { resource := .transaction
          action := [.read] }] }
  | .siteAdmin =>
    { extend := [.basic]
      grants := [
        { resource := .user
          action := [.list]
          condition := some (
            .dynamicAuthorizations (allOf [.sitesAdmin, .localIssuer]) [] (some statusMetadata))
          attributes := [
            "id", "name", "firstName", "email", "role", "status", "issuer", "createdOn",
            "lastChangedOn", "eulaAcceptedOn", "eulaAcceptedVersion", "locale",
            "billingData.customerID", "billingData.lastChangedOn", "technical"] },
        { resource := .user
          action := [.read]
          condition := some (.dynamicAuthorizations (allOf [.sitesAdmin, .localIssuer]) [] none)
          attributes := [
            "id", "name", "firstName", "email", "role", "status", "issuer", "locale", "plateID",
            "notificationsActive", "notifications", "phone", "mobile", "iNumber", "costCenter",
            "address", "technical"] },
        { resource := .user
          action := [.create]
          condition := some (
            .dynamicAuthorizations (allOf [.sitesAdmin]) (allOf [.basicUser]) none)
          attributes := [
            "id", "name", "firstName", "email", "role", "status", "issuer", "locale", "plateID",
            "notificationsActive", "notifications", "phone", "mobile", "iNumber", "costCenter",
            "address", "technical"] },
        { resource := .user
          action := [.update]
          condition := some (
            .dynamicAuthorizations (allOf [.sitesAdmin, .localIssuer]) (allOf [.basicUser]) none)
          attributes := [
            "id", "name", "firstName", "email", "role", "status", "issuer", "locale", "plateID",
            "notificationsActive", "notifications", "phone", "mobile", "iNumber", "costCenter",
            "address", "technical"] },
        { resource := .user
          action := [.synchronizeBillingUser] },
        { resource := .user
          action := [.delete]
          condition := some (
            .dynamicAuthorizations ([.negated .ownUser] :: allOf [.sitesAdmin, .localIssuer])
              (allOf [.basicUser]) none) },
        { resource := .usersSites
          action := [.list, .unassign, .read]
          condition := some (.dynamicAuthorizations (allOf [.sitesAdmin, .localIssuer]) [] none)
          attributes := [
            "user.id", "user.name", "user.firstName", "user.email", "user.role", "siteAdmin",
            "siteOwner", "siteID"] },
        { resource := .site
          action := [.update, .maintainPricingDefinitions]
          condition := some (.dynamicAuthorizations (allOf [.sitesAdmin, .localIssuer]) [] none) },
        { resource := .site
          action := [.read]
          condition := some (
            .dynamicAuthorizations (allOf [.assignedSites, .localIssuer]) []
              (some autoUserSiteAssignmentMetadata))
          attributes := [
            "id", "name", "address", "companyID", "company.name", "autoUserSiteAssignment",
            "issuer", "autoUserSiteAssignment", "distanceMeters", "public", "createdOn",
            "lastChangedOn", "tariffID"] },
        { resource := .siteArea
          action := [.create] },
        { resource := .siteArea
          action := [
            .update, .delete, .unassignAssetsFromSiteArea, .unassignChargingStationsFromSiteArea]
          condition := some (.dynamicAuthorizations (allOf [.sitesAdmin, .localIssuer]) [] none) },
        { resource := .siteArea
          action := [.read]
          attributes := [
            "id", "name", "issuer", "image", "address", "maximumPower", "numberOfPhases",
            "voltage", "smartCharging", "accessControl", "connectorStats", "siteID", "site.name",
            "site.public", "tariffID"] },
        { resource := .siteArea
          action := [.readAssetsFromSiteArea]
          condition := some (.dynamicAuthorizations (allOf [.sitesAdmin]) [] none)
          attributes := [
            "id", "name", "issuer", "image", "address", "maximumPower", "numberOfPhases",
            "voltage", "smartCharging", "accessControl", "connectorStats", "siteID", "site.name"] },
        { resource := .chargingStation
          action := [
            .update, .delete, .reset, .clearCache, .getConfiguration, .changeConfiguration,
            .setChargingProfile, .getCompositeSchedule, .clearChargingProfile, .getDiagnostics,
            .updateFirmware, .remoteStopTransaction, .stopTransaction, .«export»,
            .changeAvailability]
          condition := some (.fn <| .listContains .sitesAdmin (.path .site)) },
        { resource := .transaction
          action := [.read, .update]
          condition := some (.fn <| .listContains .sitesAdmin (.path .site)) }] }
  | .siteOwner =>
    { extend := [.basic]
      grants := [
        { resource := .user
          action := [.list]
          condition := some (.dynamicAuthorizations (allOf [.sitesOwner, .localIssuer]) [] none)
          attributes := [
            "id", "name", "firstName", "email", "role", "status", "issuer", "createdOn",
            "lastChangedOn", "eulaAcceptedOn", "eulaAcceptedVersion", "locale",
            "billingData.customerID", "billingData.lastChangedOn"] },
        { resource := .user
          action := [.read]
          condition := some (.dynamicAuthorizations (allOf [.sitesOwner, .localIssuer]) [] none)
          attributes := [
            "id", "name", "firstName", "email", "issuer", "locale", "notificationsActive",
            "notifications", "phone", "mobile", "iNumber", "costCenter", "address"] },
        { resource := .transaction
          action := [.read, .refundTransaction]
          condition := some (.fn <| .listContains .sitesOwner (.path .site)) }] }

/-! ## What the library answers -/

/-- The filters and the assertions that a condition leaves in the context. -/
def Condition.dynamic? : Condition →
    Option (AndOfOrs DynamicAuthorizationFilterName × AndOfOrs DynamicAuthorizationAssertName)
  | .dynamicAuthorizations filters asserts _ => some (filters, asserts)
  | _ => none

section Answers

variable {filters : AndOfOrs DynamicAuthorizationFilterName}
  {asserts : AndOfOrs DynamicAuthorizationAssertName} {context : AuthorizationContext}
  {rule : Rule Condition}

/-- What is in the context once the grants of a pair have left their filters there. -/
def AuthorizationContext.Holds (context : AuthorizationContext)
    (filters : AndOfOrs DynamicAuthorizationFilterName)
    (asserts : AndOfOrs DynamicAuthorizationAssertName) : Prop :=
  context.filters = filters ∧ context.filtersSet ∧ context.asserts = asserts ∧ context.assertsSet

theorem write_of_dynamic (dynamic : rule.condition.bind Condition.dynamic? = some (filters, asserts))
    (unset : context.filtersSet = false ∧ context.assertsSet = false ∨
      context.Holds filters asserts) :
    (Rule.write conditions context rule).Holds filters asserts := by
  obtain ⟨_ | ⟨filters', asserts', metadata⟩ | condition | conditions, attributes⟩ := rule
  · cases dynamic
  · cases dynamic
    simp only [Rule.write, Option.elim, conditions, Condition.write, AuthorizationContext.Holds]
    rcases unset with ⟨noFilters, noAsserts⟩ | ⟨same, set, sameAsserts, assertsSet⟩
    · simp only [noFilters, noAsserts, Bool.false_eq_true, if_false]
      split <;> simp
    · simp only [set, assertsSet, if_true]
      split <;> simp [same, sameAsserts]
  · cases dynamic
  · cases dynamic

theorem foldl_write_of_holds {rules : List (Rule Condition)}
    (dynamic : ∀ rule ∈ rules, rule.condition.bind Condition.dynamic? = some (filters, asserts))
    (holds : context.Holds filters asserts) :
    (rules.foldl (Rule.write conditions) context).Holds filters asserts := by
  induction rules generalizing context with
  | nil => exact holds
  | cons rule rules ih =>
      apply ih fun rule mem => dynamic rule (List.mem_cons_of_mem _ mem)
      exact write_of_dynamic (dynamic rule List.mem_cons_self) (.inr holds)

variable {definition : AuthorizationDefinition} {roles : List Role} {entity : Entity}
  {action : Action}

/-- Grants that all leave the same filters: the action is granted, with these filters. -/
theorem RoleAcl.can_of_dynamic (acl : RoleAcl)
    (granted : definition.rules roles entity action ≠ [])
    (dynamic : ∀ rule ∈ definition.rules roles entity action,
      rule.condition.bind Condition.dynamic? = some (filters, asserts)) :
    (acl.can definition roles entity action {}).granted = true ∧
      (acl.can definition roles entity action {}).context.filters = filters ∧
      (acl.can definition roles entity action {}).context.asserts = asserts := by
  have met : ∀ rule ∈ definition.rules roles entity action,
      rule.holds conditions {} = true := by
    rintro ⟨_ | ⟨_, _, _⟩ | _ | _, attributes⟩ mem
    · cases dynamic _ mem
    · rfl
    · cases dynamic _ mem
    · cases dynamic _ mem
  have answer : (acl.can definition roles entity action {}).granted = true := by
    obtain ⟨rule, mem⟩ := List.exists_mem_of_ne_nil _ granted
    exact (acl.granted_iff _ _ _ _ _).mpr ⟨rule, mem, met rule mem⟩
  obtain ⟨evaluated, mem, context, some⟩ := acl.evaluates definition roles entity action {}
  obtain ⟨rule, evaluates, _⟩ := some answer
  have holds : (evaluated.foldl (Rule.write conditions) {}).Holds filters asserts := by
    obtain _ | ⟨rule, rules⟩ := evaluated
    · cases evaluates
    · apply foldl_write_of_holds fun rule evaluates =>
        dynamic rule (mem rule (List.mem_cons_of_mem _ evaluates))
      exact write_of_dynamic (dynamic rule (mem rule List.mem_cons_self)) (.inl ⟨rfl, rfl⟩)
  rw [context]
  exact ⟨answer, holds.1, holds.2.2.1⟩

/-- Without grants an action is not granted. -/
theorem RoleAcl.can_of_nil (acl : RoleAcl) {context : AuthorizationContext}
    (none : definition.rules roles entity action = []) :
    (acl.can definition roles entity action context).granted = false := by
  rw [← Bool.not_eq_true, acl.granted_iff, none]
  simp

end Answers

end EvServer.Authorization
