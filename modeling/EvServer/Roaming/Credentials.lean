import EvServer.Lib.Documents
import EvServer.Lib.KeyedList
import EvServer.Lib.Runs

/-!
# Registration of OCPI endpoints

Two tenants that roam with each other keep an endpoint each.  An endpoint has the token that the
tenant accepts from the other one (`localToken`) and the token that it shows (`token`).  To
register, a tenant generates a new token and posts it with the one it has been showing so far; the
other tenant saves it, generates a new token in its turn and answers with that.  The client has
saved nothing before the answer comes.

The tokens name their tenants, so a request finds the endpoint it is for by its token alone.  The
endpoints of all tenants are one collection here.  A request is under way in several steps: the
endpoint is read when it begins and saved as it was read, with the changes, when it ends, so that
requests of different users and of both tenants interleave.  A request that fails, or an answer that
is lost, is a request that goes no further.
-/

namespace EvServer

namespace Roaming

namespace Credentials

/-! ## Documents -/

/-- `OCPIRegistrationStatus`. -/
inductive OCPIRegistrationStatus
  | new
  | registered
  | unregistered
  deriving DecidableEq

/-- `OCPIRole`. -/
inductive OCPIRole
  | cpo
  | emsp
  deriving DecidableEq

/-- `role.toLowerCase()`. -/
def OCPIRole.toLowerCase : OCPIRole → String
  | .cpo => "cpo"
  | .emsp => "emsp"

/-- A token that an installation has generated: the subdomain of the tenant between two random
numbers. -/
structure LocalToken where
  ak : ℕ
  tid : String
  zk : ℕ
  deriving DecidableEq

/-- `OcpiBusinessDetails`. -/
structure OcpiBusinessDetails where
  name : String
  website : String
  deriving DecidableEq

/-- `OCPIEndpoint`, with the tenant in whose collection it is. -/
structure OCPIEndpoint where
  tenant : String
  id : String
  role : OCPIRole
  status : OCPIRegistrationStatus := .new
  baseUrl : String
  localToken : LocalToken
  token : Option LocalToken
  countryCode : String := ""
  partyId : String := ""
  backgroundPatchJob : Bool := false
  version : Option String := none
  versionUrl : Option String := none
  businessDetails : Option OcpiBusinessDetails := none
  availableEndpoints : Option (List (String × String)) := none
  deriving DecidableEq

/-- The tenant and the ID of an endpoint. -/
def OCPIEndpoint.key (endpoint : OCPIEndpoint) : String × String := (endpoint.tenant, endpoint.id)

/-- `OCPICredential`. -/
structure OCPICredential where
  url : String
  token : Option LocalToken
  party_id : String
  country_code : String
  business_details : Option OcpiBusinessDetails
  deriving DecidableEq

/-- `OCPIVersion`. -/
structure OCPIVersion where
  version : String
  url : String
  deriving DecidableEq

/-- `OCPIEndpointVersion`. -/
structure OCPIEndpointVersion where
  identifier : String
  url : String
  deriving DecidableEq

/-- `OcpiIdentifier`. -/
structure OcpiIdentifier where
  countryCode : String
  partyID : String
  deriving DecidableEq

/-- `OcpiSetting`. -/
structure OcpiSetting where
  cpo : OcpiIdentifier
  emsp : OcpiIdentifier
  businessDetails : Option OcpiBusinessDetails
  deriving DecidableEq

/-- What the requests find in the configuration and about the tenants. -/
structure Installation where
  /-- `Configuration.getOCPIEndpointConfig().baseUrl`. -/
  baseUrl : String
  /-- The tenants that exist and have the component. -/
  isTenantComponentActive : String → Bool
  getOCPISettings : String → Option OcpiSetting

/-! ## Reading -/

/-- `generateLocalToken`, of the two random numbers. -/
def generateLocalToken (tenantSubdomain : String) (random : ℕ × ℕ) : LocalToken :=
  ⟨random.1, tenantSubdomain, random.2⟩

/-- `getOcpiEndpointByLocalToken`: there must be one endpoint with the token. -/
def getOcpiEndpointByLocalToken (endpoints : Collection OCPIEndpoint.key) (tenant : String)
    (token : LocalToken) : Option OCPIEndpoint :=
  match endpoints.docs.filter fun endpoint =>
    endpoint.tenant = tenant ∧ endpoint.localToken = token with
  | [endpoint] => some endpoint
  | _ => none

/-- The endpoint of the token of a request (`processEndpointAction`). -/
def authenticate (installation : Installation) (endpoints : Collection OCPIEndpoint.key)
    (token : Option LocalToken) : Option OCPIEndpoint := do
  let token ← token
  guard (installation.isTenantComponentActive token.tid)
  getOcpiEndpointByLocalToken endpoints token.tid token

/-- `buildOCPICredentialObject`; without settings the credential has its URL only. -/
def buildOCPICredentialObject (installation : Installation) (tenant : String) (token : LocalToken)
    (role : OCPIRole) (versionUrl : Option String) : OCPICredential :=
  let url := versionUrl.getD (installation.baseUrl ++ "/ocpi/" ++ role.toLowerCase ++ "/versions")
  match installation.getOCPISettings tenant with
  | some ocpi =>
      let identifier := match role with
        | .emsp => ocpi.emsp
        | .cpo => ocpi.cpo
      ⟨url, some token, identifier.partyID, identifier.countryCode, ocpi.businessDetails⟩
  | none => ⟨url, none, "", "", none⟩

/-- `convertAvailableEndpoints`. -/
def convertAvailableEndpoints (endpoints : List OCPIEndpointVersion) : List (String × String) :=
  endpoints.foldl
    (fun available endpoint =>
      KeyedList.upsert endpoint.identifier (fun _ => endpoint.url) available) []

/-- `getEndpointUrl`. -/
def OCPIEndpoint.getEndpointUrl (endpoint : OCPIEndpoint) (service : String) : Option String := do
  let available ← endpoint.availableEndpoints
  (available.lookup service).filter (· ≠ "")

/-- `isValidOCPICredential`. -/
def isValidOCPICredential (credential : OCPICredential) : Bool :=
  credential.url ≠ "" && credential.token.isSome && credential.party_id ≠ "" &&
    credential.country_code ≠ ""

/-- `getAndCheckVersions`: the first of the versions that is ours. -/
def OCPIEndpoint.getAndCheckVersions (endpoint : OCPIEndpoint) (versions : List OCPIVersion) :
    Option OCPIEndpoint := do
  let version ← versions.find? fun version => version.version = "2.1.1"
  return { endpoint with version := some version.version, versionUrl := some version.url }

/-! ## The client -/

/-- `register`, up to the request: the endpoint as it will be saved, but for what is answered. -/
def OCPIEndpoint.register (installation : Installation) (endpoint : OCPIEndpoint)
    (versions : List OCPIVersion) (endpoints : List OCPIEndpointVersion) (random : ℕ × ℕ) :
    Option (OCPIEndpoint × OCPICredential) := do
  guard (installation.isTenantComponentActive endpoint.tenant)
  guard (installation.getOCPISettings endpoint.tenant).isSome
  let endpoint ← endpoint.getAndCheckVersions versions
  let endpoint := { endpoint with
    availableEndpoints := some (convertAvailableEndpoints endpoints)
    localToken := generateLocalToken endpoint.tenant random }
  let _ ← endpoint.getEndpointUrl "credentials"
  return (endpoint, buildOCPICredentialObject installation endpoint.tenant endpoint.localToken
    endpoint.role none)

/-- What `register` stores of the answer. -/
def OCPIEndpoint.registered (endpoint : OCPIEndpoint) (credentials : OCPICredential) :
    OCPIEndpoint :=
  { endpoint with
    token := credentials.token
    countryCode := credentials.country_code
    partyId := credentials.party_id
    businessDetails := credentials.business_details
    status := .registered }

/-- `unregister`, up to the request. -/
def OCPIEndpoint.unregister (installation : Installation) (endpoint : OCPIEndpoint)
    (versions : List OCPIVersion) : Option OCPIEndpoint := do
  guard (installation.isTenantComponentActive endpoint.tenant)
  guard (installation.getOCPISettings endpoint.tenant).isSome
  let endpoint ← endpoint.getAndCheckVersions versions
  let _ ← endpoint.getEndpointUrl "credentials"
  return endpoint

/-- What `unregister` saves. -/
def OCPIEndpoint.unregistered (endpoint : OCPIEndpoint) : OCPIEndpoint :=
  { endpoint with status := .unregistered, availableEndpoints := none, businessDetails := none }

/-! ## The server -/

/-- `postCredentials`, up to its end: the endpoint with what the credential and the services of the
client say.  The last of the versions that are ours is taken. -/
def OCPIEndpoint.postCredentials (endpoint : OCPIEndpoint) (credential : OCPICredential)
    (versions : List OCPIVersion) (endpoints : List OCPIEndpointVersion) :
    Option OCPIEndpoint := do
  guard (isValidOCPICredential credential)
  let version ← versions.reverse.find? fun version => version.version = "2.1.1"
  return { endpoint with
    baseUrl := credential.url
    token := credential.token
    countryCode := credential.country_code
    partyId := credential.party_id
    businessDetails := credential.business_details
    version := some version.version
    versionUrl := some version.url
    availableEndpoints := some (convertAvailableEndpoints endpoints) }

/-- The end of `postCredentials`. -/
def OCPIEndpoint.accepted (endpoint : OCPIEndpoint) (random : ℕ × ℕ) : OCPIEndpoint :=
  { endpoint with
    localToken := generateLocalToken endpoint.tenant random
    status := .registered }

/-- `deleteCredentials`. -/
def OCPIEndpoint.deleteCredentials (endpoint : OCPIEndpoint) : Option OCPIEndpoint :=
  if endpoint.status = .unregistered then none
  else some { endpoint with status := .unregistered, backgroundPatchJob := false }

/-! ## Requests under way -/

/-- A request under way, with the endpoints that the client and the server have read. -/
inductive Exchange
  | posted (client : OCPIEndpoint) (credential : OCPICredential)
  | received (client server : OCPIEndpoint)
  | answered (client : OCPIEndpoint) (credential : OCPICredential)
  | deletePosted (client : OCPIEndpoint)
  | deleteReceived (client server : OCPIEndpoint)
  | deleteAnswered (client : OCPIEndpoint)
  deriving DecidableEq

/-- The endpoints of the tenants and the requests under way. -/
structure CredentialsState where
  endpoints : Collection OCPIEndpoint.key
  exchanges : List Exchange

/-- What happens. -/
inductive CredentialsAction
  | register (key : String × String) (versions : List OCPIVersion)
      (endpoints : List OCPIEndpointVersion) (random : ℕ × ℕ)
  | unregister (key : String × String) (versions : List OCPIVersion)
  /-- The server reads the endpoint of the request, and asks the client for its services. -/
  | receive (index : ℕ) (versions : List OCPIVersion) (endpoints : List OCPIEndpointVersion)
  /-- The server saves the endpoint and answers. -/
  | answer (index : ℕ) (random : ℕ × ℕ) (serviceUrl : String)
  /-- The client saves its endpoint. -/
  | complete (index : ℕ)
  /-- The request or its answer is lost, or one of the two fails. -/
  | lose (index : ℕ)
  /-- `handleDeleteOcpiEndpoint`. -/
  | delete (key : String × String)
  deriving DecidableEq

namespace CredentialsState

/-- The request at an index goes on. -/
def goOn (s : CredentialsState) (index : ℕ) (exchange : Exchange) : CredentialsState :=
  { s with exchanges := exchange :: s.exchanges.eraseIdx index }

/-- An endpoint is saved. -/
def saveOcpiEndpoint (s : CredentialsState) (endpoint : OCPIEndpoint) : CredentialsState :=
  { s with endpoints := s.endpoints.save endpoint }

variable (installation : Installation)

/-- The server takes the request. -/
def receive (s : CredentialsState) (index : ℕ) (versions : List OCPIVersion)
    (endpoints : List OCPIEndpointVersion) : Option CredentialsState :=
  match s.exchanges[index]? with
  | some (.posted client credential) => do
      let found ← authenticate installation s.endpoints client.token
      let server ← found.postCredentials credential versions endpoints
      return s.goOn index (.received client server)
  | some (.deletePosted client) => do
      let found ← authenticate installation s.endpoints client.token
      let server ← found.deleteCredentials
      return s.goOn index (.deleteReceived client server)
  | _ => none

/-- The server answers the request. -/
def answer (s : CredentialsState) (index : ℕ) (random : ℕ × ℕ) (serviceUrl : String) :
    Option CredentialsState :=
  match s.exchanges[index]? with
  | some (.received client server) =>
      let server := server.accepted random
      let credential := buildOCPICredentialObject installation server.tenant server.localToken
        server.role (some (serviceUrl ++ "/versions"))
      some ((s.saveOcpiEndpoint server).goOn index (.answered client credential))
  | some (.deleteReceived client server) =>
      some ((s.saveOcpiEndpoint server).goOn index (.deleteAnswered client))
  | _ => none

/-- The client takes the answer. -/
def complete (s : CredentialsState) (index : ℕ) : Option CredentialsState :=
  match s.exchanges[index]? with
  | some (.answered client credential) =>
      some { s.saveOcpiEndpoint (client.registered credential) with
        exchanges := s.exchanges.eraseIdx index }
  | some (.deleteAnswered client) =>
      some { s.saveOcpiEndpoint client.unregistered with
        exchanges := s.exchanges.eraseIdx index }
  | _ => none

/-- A step. -/
def next (s : CredentialsState) : CredentialsAction → Option CredentialsState
  | .register key versions endpoints random => do
      let endpoint ← s.endpoints.find key
      let (endpoint, credential) ← endpoint.register installation versions endpoints random
      return { s with exchanges := .posted endpoint credential :: s.exchanges }
  | .unregister key versions => do
      let endpoint ← s.endpoints.find key
      let endpoint ← endpoint.unregister installation versions
      return { s with exchanges := .deletePosted endpoint :: s.exchanges }
  | .receive index versions endpoints => s.receive installation index versions endpoints
  | .answer index random serviceUrl => s.answer installation index random serviceUrl
  | .complete index => s.complete index
  | .lose index => some { s with exchanges := s.exchanges.eraseIdx index }
  | .delete key => some { s with endpoints := s.endpoints.delete key }

/-- The steps of the state. -/
def Step (s : CredentialsState) (action : CredentialsAction) (t : CredentialsState) : Prop :=
  s.next installation action = some t

end CredentialsState

end Credentials

end Roaming

end EvServer
