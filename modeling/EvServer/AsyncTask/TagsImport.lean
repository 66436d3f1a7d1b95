import EvServer.Authorization.Organization
import EvServer.Lib.Draining
import EvServer.Lib.UniqueIndex
import EvServer.Tags.TagStorage
import Mathlib.Data.Prod.Lex
import Mathlib.Data.String.Basic

/-!
# The import of badges (`TagsImportAsyncTask`, `ImportHelper`)

The rows of a file wait in a collection of their own.  The import reads the rows that are
`READY`, page by page: a row that has been imported is deleted, any other one is kept as an
`ERROR` with the reason.  A row may name a user, who is updated or created and is assigned to
sites; the badge is then his default badge.

What the database refuses here are the values of its unique indexes, which are those of the
visual IDs and of the e-mail addresses.  Nothing that is written before is taken back.
-/

namespace EvServer.TagsImport

open Authorization (UserRole UserSite)

/-- `ImportStatus`. -/
inductive ImportStatus
  | ready
  | error
  deriving DecidableEq

/-- `ImportedUser`; the sites are the IDs of a string, split at `|`. -/
structure ImportedUser where
  name : String
  firstName : String
  email : String
  importedOn : Timestamp
  siteIDs : Option (List String)
  deriving DecidableEq

/-- `ImportedTag`: a row of the file. -/
structure ImportedTag where
  id : String
  visualID : Option String := none
  description : String := ""
  importedOn : Timestamp := 0
  status : ImportStatus := .ready
  errorDescription : Option String := none
  name : Option String := none
  firstName : Option String := none
  email : Option String := none
  /-- `importedData?.autoActivateTagAtImport`. -/
  autoActivateTagAtImport : Bool := false
  siteIDs : Option (List String) := none
  deriving DecidableEq

/-- `User`, up to what the import does not look at. -/
structure User where
  id : String
  issuer : Bool := true
  name : String
  firstName : String
  email : String
  role : Option UserRole := none
  status : Option UserStatus := none
  createdOn : Timestamp := 0
  passwordResetHash : Option String := none
  verificationToken : Option String := none
  deriving DecidableEq

/-- The user and the site of an assignment. -/
def siteUserKey (userSite : UserSite) : String × String := (userSite.userID, userSite.siteID)

/-- The collections that the import reads and writes. -/
structure ImportStore where
  importedTags : Collection ImportedTag.id
  tags : Tags
  users : Collection User.id
  siteUsers : Collection siteUserKey
  deriving DecidableEq

/-- What the import is given besides. -/
structure ImportContext where
  /-- `Utils.isTenantComponentActive` of the organisation. -/
  organizationActive : Bool
  /-- The IDs of the sites. -/
  existingSites : List String
  /-- The transactions of a badge. -/
  transactionsCount : String → ℕ
  /-- `new ObjectId()`. -/
  newObjectID : ImportStore → String
  toLowerCase : String → String
  /-- The exception of a unique index, with the value that is there. -/
  duplicateKey : String → String
  generateUUID : User → String
  generateToken : String → String

/-- A computation on the collections, with the message of its exception. -/
abbrev Import (α : Type) : Type := Handler ImportStore String α

/-! ## Storage -/

namespace TagStorage

/-- A row whose name is missing comes first. -/
def importOrder (importedTag : ImportedTag) : Lex (WithBot String × WithBot String) :=
  toLex (importedTag.name, importedTag.firstName)

/-- `TagStorage.getImportedTags` of a status, before the limit. -/
def getImportedTags (importedTags : Collection ImportedTag.id) (status : ImportStatus) :
    List ImportedTag :=
  importedTags.query (fun importedTag => importedTag.status = status) importOrder

/-- The badge as it is saved; without visual ID it gets a new one. -/
def savedTag (context : ImportContext) (store : ImportStore) (tag : Tag)
    (visualID : Option String) : Tag :=
  { tag with visualID := visualID.getD (context.newObjectID store) }

/-- `TagStorage.saveTag`. -/
def saveTag (context : ImportContext) (tag : Tag) (visualID : Option String) : Import Unit := do
  let tagMDB ← Handler.read fun store => .ok (savedTag context store tag visualID)
  Handler.read fun store =>
    if store.tags.Clashes Tag.visualID tagMDB then .error (context.duplicateKey tagMDB.visualID)
    else .ok ()
  Handler.write (.ok ()) fun store => { store with tags := store.tags.save tagMDB }

/-- `TagStorage.clearDefaultUserTag`. -/
def clearDefaultUserTag (userID : String) : Import Unit :=
  Handler.write (.ok ()) fun store =>
    { store with tags := EvServer.TagStorage.clearDefaultUserTag store.tags (some userID) }

end TagStorage

namespace UserStorage

/-- `UserStorage.getUserByEmail`: the only user with the address. -/
def getUserByEmail (users : Collection User.id) (email : String) : Option User :=
  match users.docs.filter fun user => user.email = email with
  | [user] => some user
  | _ => none

/-- `UserStorage.saveUser`: the address is saved in lower case. -/
def saveUser (context : ImportContext) (user : User) : Import Unit := do
  let userMDB := { user with email := context.toLowerCase user.email }
  Handler.read fun store =>
    if store.users.Clashes User.email userMDB then .error (context.duplicateKey userMDB.email)
    else .ok ()
  Handler.write (.ok ()) fun store => { store with users := store.users.save userMDB }

/-- `findOneAndUpdate` of the user with the ID. -/
def updateUser (userID : String) (set : User → User) : Import Unit :=
  Handler.write (.ok ()) fun store =>
    match store.users.find userID with
    | none => store
    | some user => { store with users := store.users.save (set user) }

/-- `UserStorage.saveUserRole`. -/
def saveUserRole (userID : String) (role : UserRole) : Import Unit :=
  updateUser userID fun user => { user with role := some role }

/-- `UserStorage.saveUserStatus`. -/
def saveUserStatus (userID : String) (status : UserStatus) : Import Unit :=
  updateUser userID fun user => { user with status := some status }

/-- `UserStorage.saveUserPassword`, of a hash to reset it. -/
def saveUserPassword (userID passwordResetHash : String) : Import Unit :=
  updateUser userID fun user => { user with passwordResetHash := some passwordResetHash }

/-- `UserStorage.saveUserAccountVerification`, of a token. -/
def saveUserAccountVerification (userID verificationToken : String) : Import Unit :=
  updateUser userID fun user => { user with verificationToken := some verificationToken }

/-- The assignment as `UserStorage.addSiteToUser` writes it: the user does not administrate the
site any more, but may still own it. -/
def addedSite (siteUsers : Collection siteUserKey) (userID siteID : String) : UserSite :=
  match siteUsers.find (userID, siteID) with
  | none => { userID := userID, siteID := siteID }
  | some userSite => { userSite with siteAdmin := false }

/-- `UserStorage.addSiteToUser`. -/
def addSiteToUser (userID siteID : String) : Import Unit :=
  Handler.write (.ok ()) fun store =>
    { store with siteUsers := store.siteUsers.save (addedSite store.siteUsers userID siteID) }

end UserStorage

/-! ## Rows -/

namespace ImportHelper

/-- The user of a row, if it has a name, a first name and an address. -/
def importedUser (importedTag : ImportedTag) : Option ImportedUser :=
  match importedTag.email, importedTag.name, importedTag.firstName with
  | some email, some name, some firstName =>
      if email = "" ∨ name = "" ∨ firstName = "" then none
      else some {
        name := name
        firstName := firstName
        email := email
        importedOn := importedTag.importedOn
        siteIDs := importedTag.siteIDs }
  | _, _, _ => none

/-- The badge with the ID of a row, else the one with its visual ID. -/
def findTag (tags : Tags) (importedTag : ImportedTag) : Option Tag :=
  match EvServer.TagStorage.getTag tags importedTag.id {} with
  | some tag => some tag
  | none =>
      match importedTag.visualID with
      | none => none
      | some visualID =>
          if visualID = "" then none
          else EvServer.TagStorage.getTagByVisualID tags visualID {}

/-- The checks of `updateTag`. -/
def checkUpdateTag (context : ImportContext) (tag : Tag) (importedTag : ImportedTag) :
    Except String Unit :=
  if tag.issuer = false then .error "Tag is not local to the organization"
  else if tag.userID.isSome then .error "Tag is already assigned to a user"
  else if tag.active then .error "Tag is already active"
  else if 0 < context.transactionsCount tag.id then
    .error s!"Tag is already used in {context.transactionsCount tag.id} transaction(s)"
  else if tag.id ≠ importedTag.id then
    .error "Tag Visual ID is already assigned to another tag"
  else .ok ()

/-- `updateTag`, up to the visual ID, which the row may not have. -/
def updateTag (context : ImportContext) (tag : Tag) (importedTag : ImportedTag) :
    Except String Tag := do
  checkUpdateTag context tag importedTag
  return { tag with
    active := importedTag.autoActivateTagAtImport
    description := importedTag.description }

/-- `createTag`, up to the visual ID. -/
def createTag (importedTag : ImportedTag) : Tag :=
  { id := importedTag.id
    visualID := ""
    description := importedTag.description
    issuer := true
    active := importedTag.autoActivateTagAtImport
    createdOn := importedTag.importedOn }

/-- The badge of a row before it is assigned. -/
def unassignedTag (context : ImportContext) (importedTag : ImportedTag) (tags : Tags) :
    Except String Tag :=
  match findTag tags importedTag with
  | some tag => updateTag context tag importedTag
  | none => .ok (createTag importedTag)

/-- `updateUser`. -/
def updateUser (context : ImportContext) (user : User) (importedUser : ImportedUser) :
    Import User := do
  Handler.ofExcept (if user.issuer then .ok () else .error "User is not local to the organization")
  let user := { user with name := importedUser.name, firstName := importedUser.firstName }
  UserStorage.saveUser context user
  return user

/-- `sendNotifications`, up to the message to the user. -/
def sendNotifications (context : ImportContext) (user : User) : Import Unit := do
  UserStorage.saveUserPassword user.id (context.generateUUID user)
  UserStorage.saveUserAccountVerification user.id (context.generateToken user.email)

/-- `createUser`. -/
def createUser (context : ImportContext) (importedUser : ImportedUser) : Import User := do
  let newUser : User ← Handler.read fun store => .ok {
    id := context.newObjectID store
    firstName := importedUser.firstName
    name := importedUser.name
    email := importedUser.email
    createdOn := importedUser.importedOn }
  UserStorage.saveUser context newUser
  UserStorage.saveUserRole newUser.id .basic
  UserStorage.saveUserStatus newUser.id .pending
  sendNotifications context newUser
  return newUser

/-- The sites in the list; what is not a site is logged. -/
def assignSites (context : ImportContext) (userID : String) : List String → Import Unit
  | [] => return
  | siteID :: siteIDs => do
      if siteID ∈ context.existingSites then UserStorage.addSiteToUser userID siteID
      assignSites context userID siteIDs

/-- `processSiteAssignment`, when there are sites and the organisation is active. -/
def processSiteAssignment (context : ImportContext) (user : User) (importedUser : ImportedUser) :
    Import Unit :=
  if context.organizationActive then
    assignSites context user.id (importedUser.siteIDs.getD [])
  else return

/-- The user of a row, updated or created. -/
def saveImportedUser (context : ImportContext) (importedUser : ImportedUser) : Import User := do
  let found ← Handler.read fun store =>
    .ok (UserStorage.getUserByEmail store.users importedUser.email)
  match found with
  | some user => updateUser context user importedUser
  | none => createUser context importedUser

/-- `processImportedUser`. -/
def processImportedUser (context : ImportContext) (importedUser : ImportedUser) : Import User := do
  let user ← saveImportedUser context importedUser
  processSiteAssignment context user importedUser
  return user

/-- The badge becomes the default badge of the user of the row. -/
def assignTag (context : ImportContext) (importedTag : ImportedTag) (tag : Tag) : Import Tag :=
  match importedUser importedTag with
  | none => return tag
  | some importedUser => do
      let user ← processImportedUser context importedUser
      TagStorage.clearDefaultUserTag user.id
      return { tag with userID := some user.id, default := true }

/-- `processImportedTag`. -/
def processImportedTag (context : ImportContext) (importedTag : ImportedTag) : Import Unit := do
  let unassigned ← Handler.read fun store => unassignedTag context importedTag store.tags
  let tag ← assignTag context importedTag unassigned
  TagStorage.saveTag context tag importedTag.visualID

end ImportHelper

/-! ## The task -/

namespace TagsImportAsyncTask

/-- `Constants.IMPORT_PAGE_SIZE`. -/
def IMPORT_PAGE_SIZE : ℕ := 1000

/-- The collections, and the result so far. -/
structure ImportState where
  store : ImportStore
  inSuccess : ℕ := 0
  inError : ℕ := 0
  deriving DecidableEq

/-- The rows that wait. -/
def ImportState.readyTags (s : ImportState) : List ImportedTag :=
  TagStorage.getImportedTags s.store.importedTags .ready

/-- A row of a page: it is deleted, or kept with the reason. -/
def importRow (context : ImportContext) (s : ImportState) (importedTag : ImportedTag) :
    ImportState :=
  match ImportHelper.processImportedTag context importedTag s.store with
  | (.ok _, store) =>
      { s with
        store := { store with importedTags := store.importedTags.delete importedTag.id }
        inSuccess := s.inSuccess + 1 }
  | (.error message, store) =>
      { s with
        store := { store with
          importedTags := store.importedTags.save
            { importedTag with status := .error, errorDescription := some message } }
        inError := s.inError + 1 }

/-- The pages, up to an empty one. -/
def importPages (context : ImportContext) : ℕ → ImportState → ImportState
  | 0, s => s
  | fuel + 1, s =>
      let importedTags := s.readyTags.take IMPORT_PAGE_SIZE
      if importedTags.isEmpty then s
      else importPages context fuel (importedTags.foldl (importRow context) s)

/-- `executeAsyncTask`, with the lock: there are not more pages than rows. -/
def executeAsyncTask (context : ImportContext) (store : ImportStore) : ImportState :=
  importPages context (store.importedTags.docs.length + 1) { store := store }

end TagsImportAsyncTask

end EvServer.TagsImport
