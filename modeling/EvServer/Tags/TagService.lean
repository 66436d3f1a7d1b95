import EvServer.Rest.TransactionService
import EvServer.Tags.TagStorage

/-!
# Operations on badges (`TagService`)

Every operation looks for the badge and checks the request before it writes anything.  A badge
that a user gets is made his default badge when that is asked for, or when he has none; a user
who loses his default badge gets another one of his active badges instead.  In the end the
roaming platform is told.
-/

namespace EvServer

/-! ## Tokens of the roaming platform -/

/-- `OCPITokenType`. -/
inductive OCPITokenType
  | rfid
  | other
  deriving DecidableEq, Repr

/-- `OCPIToken`; the issuer is the tenant, and the whitelist always `ALLOWED_OFFLINE`. -/
structure OCPIToken where
  uid : String
  type : OCPITokenType
  auth_id : Option String
  visual_number : Option String
  valid : Bool
  last_updated : Timestamp
  deriving DecidableEq, Repr

/-- `OCPIUtils.getOCPITokenTypeFromID`. -/
def OCPIUtils.getOCPITokenTypeFromID (tagID : String) : OCPITokenType :=
  if tagID.length % 8 = 0 then .rfid else .other

/-- The badges and the users of a tenant, and the tokens that the platform has accepted. -/
structure TagStore where
  tags : Tags
  users : List String
  pushed : List OCPIToken := []
  deriving DecidableEq

/-- Who makes a request, and what other components answer. -/
structure TagContext where
  loggedUserID : String
  /-- The role is granted the operation. -/
  authorized : Bool := true
  /-- `canPerformAction`, on the badge that is found. -/
  canPerformAction : Tag → Bool := fun _ => true
  /-- `Action.READ` of a user. -/
  canReadUser : String → Bool := fun _ => true
  /-- The component is active, there is a client for the platform, and it takes the token. -/
  pushes : Bool := true
  now : Timestamp := 0
  toUpperCase : String → String := String.toUpper

/-- The body of a request to create or to update a badge; an empty description is not set. -/
structure HttpTagRequest where
  id : String
  visualID : String
  description : Option String := none
  active : Option Bool := none
  default : Bool := false
  userID : Option String := none
  deriving DecidableEq, Repr

/-- The body of a request to assign a badge. -/
structure HttpTagAssignRequest where
  visualID : String
  description : String := ""
  default : Bool := false
  userID : String
  deriving DecidableEq, Repr

/-- The body of a request to update a badge by its visual ID. -/
structure HttpTagVisualIDRequest where
  visualID : String
  description : String := ""
  default : Bool := false
  userID : Option String := none
  deriving DecidableEq, Repr

/-! ## Checks -/

namespace UtilsService

/-- `checkIfUserTagIsValid`: whether the badge is to be active. -/
def checkIfUserTagIsValid (tag : HttpTagRequest) : Except String Bool :=
  if tag.id = "" then .error "Tag ID is mandatory"
  else if tag.visualID = "" then .error "Tag visual ID is mandatory"
  else
    match tag.active with
    | none => .error "Tag Active property is mandatory"
    | some active => .ok active

/-- `checkAndGetUserAuthorization`. -/
def checkAndGetUserAuthorization (context : TagContext) (store : TagStore) (userID : String) :
    Except String Unit :=
  if context.canReadUser userID = false then .error "FORBIDDEN"
  else if userID ∈ store.users then .ok ()
  else .error s!"User ID '{userID}' does not exist"

/-- The user of a request, if it has one. -/
def checkAndGetRequestUserAuthorization (context : TagContext) (store : TagStore) :
    Option String → Except String Unit
  | none => .ok ()
  | some userID => checkAndGetUserAuthorization context store userID

/-- `checkAndGetTagByXXXAuthorization`, with the badge that the filters let through. -/
def checkAndGetTagByXXXAuthorization (context : TagContext) (asserts : Bool) (id : String)
    (found : Option Tag) : Except String Tag :=
  if id = "" then .error "The ID must be provided"
  else if context.authorized = false ∨ asserts = false then .error "FORBIDDEN"
  else
    match found with
    | none => .error s!"Tag ID '{id}' does not exist"
    | some tag => if context.canPerformAction tag = false then .error "FORBIDDEN" else .ok tag

/-- `checkAndGetTagAuthorization` to update or to delete: local badges only. -/
def checkAndGetTagAuthorization (context : TagContext) (store : TagStore) (tagID : String) :
    Except String Tag :=
  checkAndGetTagByXXXAuthorization context true tagID
    (TagStorage.getTag store.tags tagID { issuer := some true })

/-- `checkAndGetTagByVisualIDAuthorization` to update or to unassign: the user's own badges only,
and `OwnUser` asserts that an update is about himself. -/
def checkAndGetOwnTagAuthorization (context : TagContext) (store : TagStore) (asserts : Bool)
    (visualID : String) : Except String Tag :=
  checkAndGetTagByXXXAuthorization context asserts visualID
    (TagStorage.getTagByVisualID store.tags visualID
      { userID := some (some context.loggedUserID) })

/-- `checkAndGetTagByVisualIDAuthorization` to assign: local badges only. -/
def checkAndGetTagToAssignAuthorization (context : TagContext) (store : TagStore)
    (visualID : String) : Except String Tag :=
  checkAndGetTagByXXXAuthorization context true visualID
    (TagStorage.getTagByVisualID store.tags visualID { issuer := some true })

end UtilsService

namespace TagService

/-! ## Default badges and the platform -/

/-- The default flag of a badge for a user: another default badge gives way when the flag is
asked for; when it is not, the user is looked up for a default badge. -/
def chooseDefault (tags : Tags) (userID : String) (asked : Bool) : Tags × Bool :=
  if asked then (TagStorage.clearDefaultUserTag tags (some userID), true)
  else (tags, (TagStorage.getDefaultUserTag tags userID).isNone)

/-- The default flag for the user of a request; a badge for nobody is given another one. -/
def chooseRequestDefault (tags : Tags) (userID : Option String) (asked otherwise : Bool) :
    Tags × Bool :=
  match userID with
  | none => (tags, otherwise)
  | some userID => chooseDefault tags userID asked

/-- `setDefaultTagForUser`. -/
def setDefaultTagForUser (tags : Tags) (userID : Option String) : Tags :=
  let tags := TagStorage.clearDefaultUserTag tags userID
  match TagStorage.getFirstActiveUserTag tags userID with
  | none => tags
  | some firstActiveTag => TagStorage.saveTag tags { firstActiveTag with default := true }

/-- `EmspOCPIClient.pushToken`. -/
def pushToken (context : TagContext) (token : OCPIToken) (store : TagStore) : TagStore :=
  if context.pushes then { store with pushed := store.pushed ++ [token] } else store

/-- The token of a badge. -/
def tokenOf (context : TagContext) (tag : Tag) (valid : Bool) : OCPIToken :=
  { uid := tag.id
    type := OCPIUtils.getOCPITokenTypeFromID tag.id
    auth_id := tag.userID
    visual_number := some tag.visualID
    valid := valid
    last_updated := context.now }

/-- `checkAndDeleteTagOCPI`. -/
def checkAndDeleteTagOCPI (context : TagContext) (tag : Tag) (store : TagStore) : TagStore :=
  pushToken context (tokenOf context tag false) store

/-- `updateTagOCPI`. -/
def updateTagOCPI (context : TagContext) (tag : Tag) (store : TagStore) : TagStore :=
  pushToken context (tokenOf context tag true) store

/-! ## Creation -/

/-- The checks of `handleCreateTag`. -/
def checkCreateTag (context : TagContext) (store : TagStore) (filteredRequest : HttpTagRequest) :
    Except String Bool := do
  let active ← UtilsService.checkIfUserTagIsValid filteredRequest
  if context.authorized = false then .error "FORBIDDEN"
  else if (TagStorage.getTag store.tags (context.toUpperCase filteredRequest.id) {}).isSome then
    .error s!"Tag with ID '{filteredRequest.id}' already exists"
  else if (TagStorage.getTagByVisualID store.tags filteredRequest.visualID {}).isSome then
    .error s!"Tag with visual ID '{filteredRequest.visualID}' already exists"
  else do
    UtilsService.checkAndGetRequestUserAuthorization context store filteredRequest.userID
    return active

/-- The badge that is created. -/
def createdTag (context : TagContext) (filteredRequest : HttpTagRequest) (active default : Bool) :
    Tag :=
  { id := context.toUpperCase filteredRequest.id
    description := filteredRequest.description.getD s!"Tag ID '{filteredRequest.id}'"
    issuer := true
    active := active
    createdOn := context.now
    userID := filteredRequest.userID
    default := default
    visualID := filteredRequest.visualID }

/-- `handleCreateTag`. -/
def handleCreateTag (context : TagContext) (filteredRequest : HttpTagRequest) (store : TagStore) :
    Except String TagStore := do
  let active ← checkCreateTag context store filteredRequest
  let chosen := chooseRequestDefault store.tags filteredRequest.userID filteredRequest.default
    filteredRequest.default
  let newTag := createdTag context filteredRequest active chosen.2
  return updateTagOCPI context newTag { store with tags := TagStorage.saveTag chosen.1 newTag }

/-! ## Assignment -/

/-- The checks of `handleAssignTag`. -/
def checkAssignTag (context : TagContext) (store : TagStore)
    (filteredRequest : HttpTagAssignRequest) : Except String Tag := do
  let tag ← UtilsService.checkAndGetTagToAssignAuthorization context store
    filteredRequest.visualID
  if tag.active = false then
    .error s!"Tag with visual ID '{filteredRequest.visualID}' is not active and cannot be assigned"
  else if tag.userID.any (· ∈ store.users) then
    -- The request has no `id`.
    .error "Tag with ID 'undefined' already exists and assigned to another user"
  else do
    UtilsService.checkAndGetUserAuthorization context store filteredRequest.userID
    return tag

/-- The badge that is assigned. -/
def assignedTag (context : TagContext) (filteredRequest : HttpTagAssignRequest) (tag : Tag)
    (default : Bool) : Tag :=
  { tag with
    default := default
    userID := some filteredRequest.userID
    description := filteredRequest.description
    lastChangedOn := some context.now }

/-- `handleAssignTag`. -/
def handleAssignTag (context : TagContext) (filteredRequest : HttpTagAssignRequest)
    (store : TagStore) : Except String TagStore := do
  let tag ← checkAssignTag context store filteredRequest
  let chosen := chooseDefault store.tags filteredRequest.userID filteredRequest.default
  let tag := assignedTag context filteredRequest tag chosen.2
  return updateTagOCPI context tag { store with tags := TagStorage.saveTag chosen.1 tag }

/-! ## Updates -/

/-- The checks of `handleUpdateTagByVisualID`. -/
def checkUpdateTagByVisualID (context : TagContext) (store : TagStore)
    (filteredRequest : HttpTagVisualIDRequest) : Except String Tag :=
  UtilsService.checkAndGetOwnTagAuthorization context store
    (filteredRequest.userID = some context.loggedUserID) filteredRequest.visualID

/-- The badges before the update: another default badge gives way to this one. -/
def clearForUpdateByVisualID (tags : Tags) (filteredRequest : HttpTagVisualIDRequest) (tag : Tag) :
    Tags :=
  if filteredRequest.default ∧ tag.default ≠ filteredRequest.default then
    TagStorage.clearDefaultUserTag tags filteredRequest.userID
  else tags

/-- The badge that is updated. -/
def updatedTagByVisualID (context : TagContext) (filteredRequest : HttpTagVisualIDRequest)
    (tag : Tag) (default : Bool) : Tag :=
  { tag with
    description := filteredRequest.description
    default := default
    lastChangedOn := some context.now }

/-- `handleUpdateTagByVisualID`; the user of the request is the one who is logged in. -/
def handleUpdateTagByVisualID (context : TagContext) (filteredRequest : HttpTagVisualIDRequest)
    (store : TagStore) : Except String TagStore := do
  let tag ← checkUpdateTagByVisualID context store filteredRequest
  let tags := clearForUpdateByVisualID store.tags filteredRequest tag
  let default := filteredRequest.default ||
    (TagStorage.getDefaultUserTag tags context.loggedUserID).isNone
  let tag := updatedTagByVisualID context filteredRequest tag default
  return updateTagOCPI context tag { store with tags := TagStorage.saveTag tags tag }

/-- The checks of `handleUpdateTag`. -/
def checkUpdateTag (context : TagContext) (store : TagStore) (filteredRequest : HttpTagRequest) :
    Except String (Bool × Tag) := do
  let active ← UtilsService.checkIfUserTagIsValid filteredRequest
  let tag ← UtilsService.checkAndGetTagAuthorization context store filteredRequest.id
  UtilsService.checkAndGetRequestUserAuthorization context store filteredRequest.userID
  if tag.visualID ≠ filteredRequest.visualID ∧
      (TagStorage.getTagByVisualID store.tags filteredRequest.visualID {}).isSome then
    .error s!"Tag with Visual ID '{filteredRequest.id}' already exists"
  else return (active, tag)

/-- The badge that is updated. -/
def updatedTag (context : TagContext) (filteredRequest : HttpTagRequest) (tag : Tag)
    (active default : Bool) : Tag :=
  { tag with
    visualID := filteredRequest.visualID
    description := filteredRequest.description.getD s!"Tag ID '{filteredRequest.id}'"
    active := active
    userID := filteredRequest.userID
    default := default
    lastChangedOn := some context.now }

/-- `handleUpdateTag`. -/
def handleUpdateTag (context : TagContext) (filteredRequest : HttpTagRequest) (store : TagStore) :
    Except String TagStore := do
  let checked ← checkUpdateTag context store filteredRequest
  let former := checked.2
  let chosen := chooseRequestDefault store.tags filteredRequest.userID filteredRequest.default false
  let tag := updatedTag context filteredRequest former checked.1 chosen.2
  let tags := TagStorage.saveTag chosen.1 tag
  -- Ensure former User has a default Tag
  let tags :=
    if former.userID ≠ filteredRequest.userID ∧ former.userID.isSome ∧ former.default then
      setDefaultTagForUser tags former.userID
    else tags
  return updateTagOCPI context tag { store with tags := tags }

/-! ## Deletion -/

/-- One turn of a loop over badges; a badge that fails is counted, and changes nothing. -/
def nextTag (step : String → TagStore → Except String TagStore)
    (outcome : ActionsResponse × TagStore) (id : String) : ActionsResponse × TagStore :=
  match step id outcome.2 with
  | .ok store => ({ outcome.1 with inSuccess := outcome.1.inSuccess + 1 }, store)
  | .error _ => ({ outcome.1 with inError := outcome.1.inError + 1 }, outcome.2)

/-- The loop over badges. -/
def forEachTag (step : String → TagStore → Except String TagStore) (ids : List String)
    (store : TagStore) : ActionsResponse × TagStore :=
  ids.foldl (nextTag step) ({}, store)

/-- One turn of `deleteTags`. -/
def deleteTag (context : TagContext) (tagID : String) (store : TagStore) :
    Except String TagStore := do
  let tag ← UtilsService.checkAndGetTagAuthorization context store tagID
  let store := checkAndDeleteTagOCPI context tag store
  let tags := TagStorage.deleteTag store.tags tag.id
  -- Ensure User has a default Tag
  return { store with tags := if tag.default then setDefaultTagForUser tags tag.userID else tags }

/-- `deleteTags`. -/
def deleteTags (context : TagContext) (tagsIDs : List String) (store : TagStore) :
    ActionsResponse × TagStore :=
  forEachTag (deleteTag context) tagsIDs store

/-- One turn of `unassignTags`. -/
def unassignTag (context : TagContext) (visualID : String) (store : TagStore) :
    Except String TagStore := do
  let tag ← UtilsService.checkAndGetOwnTagAuthorization context store true visualID
  let store := checkAndDeleteTagOCPI context tag store
  let tags := TagStorage.saveTag store.tags { tag with userID := none, active := false }
  -- Ensure User has a default Tag
  return { store with tags := if tag.default then setDefaultTagForUser tags tag.userID else tags }

/-- `unassignTags`. -/
def unassignTags (context : TagContext) (visualIDs : List String) (store : TagStore) :
    ActionsResponse × TagStore :=
  forEachTag (unassignTag context) visualIDs store

variable {context : TagContext} {store store' : TagStore}

/-- What each turn of the loop keeps. -/
theorem forEachTag_invariant {I : TagStore → Prop}
    {step : String → TagStore → Except String TagStore} {ids : List String}
    (keeps : ∀ id ∈ ids, ∀ store store', I store → step id store = .ok store' → I store')
    (init : I store) : I (forEachTag step ids store).2 := by
  have turns : ∀ outcome : ActionsResponse × TagStore, I outcome.2 →
      I (ids.foldl (nextTag step) outcome).2 := by
    induction ids with
    | nil => exact fun _ init => init
    | cons id rest ih =>
        intro outcome init
        refine ih (fun other mem => keeps other (List.mem_cons_of_mem _ mem)) _ ?_
        unfold nextTag
        split
        · rename_i store hstep
          exact keeps id List.mem_cons_self outcome.2 store init hstep
        · exact init
  exact turns _ init

end TagService

/-! ## Operations -/

/-- A request about badges; to delete or to unassign one badge is to do so with a list of one. -/
inductive TagOperation
  | create (context : TagContext) (filteredRequest : HttpTagRequest)
  | assign (context : TagContext) (filteredRequest : HttpTagAssignRequest)
  | update (context : TagContext) (filteredRequest : HttpTagRequest)
  | updateByVisualID (context : TagContext) (filteredRequest : HttpTagVisualIDRequest)
  | unassign (context : TagContext) (visualIDs : List String)
  | delete (context : TagContext) (tagsIDs : List String)

namespace TagOperation

open TagService

/-- The answers that the request is made with. -/
def context : TagOperation → TagContext
  | create context _ | assign context _ | update context _ | updateByVisualID context _
  | unassign context _ | delete context _ => context

/-- What an operation leaves; one that throws has written nothing. -/
def run (store : TagStore) : TagOperation → TagStore
  | create context filteredRequest =>
      (handleCreateTag context filteredRequest store).toOption.getD store
  | assign context filteredRequest =>
      (handleAssignTag context filteredRequest store).toOption.getD store
  | update context filteredRequest =>
      (handleUpdateTag context filteredRequest store).toOption.getD store
  | updateByVisualID context filteredRequest =>
      (handleUpdateTagByVisualID context filteredRequest store).toOption.getD store
  | unassign context visualIDs => (unassignTags context visualIDs store).2
  | delete context tagsIDs => (deleteTags context tagsIDs store).2

end TagOperation

end EvServer
