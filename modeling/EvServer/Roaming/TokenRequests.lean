import EvServer.Lib.Documents
import EvServer.Lib.Outcome
import EvServer.Lib.Properties
import EvServer.Utils

/-!
# Tokens that are put and patched

An eMSP keeps its tokens up to date at the charge point operator: a PUT replaces the token of a
badge (`putTokenRequest`), a PATCH changes fields of it (`patchTokenRequest`).  The PUT derives
the badge from the token, in `updateToken`; the PATCH changes the badge itself, and takes over
the fields that it finds to be true.

`patchAgrees_iff` says when a PATCH leaves the badges as the PUT of the patched token would.
-/

namespace EvServer

namespace CPOTokensEndpoint

/-- `OCPIToken`.  The body of a request is not checked: any of the fields may be missing or
`null`, and an enumeration may be any text. -/
@[ext] structure OCPIToken where
  uid : Property String := .absent
  type : Property String := .absent
  auth_id : Property String := .absent
  visual_number : Property String := .absent
  issuer : Property String := .absent
  valid : Property Bool := .absent
  whitelist : Property String := .absent
  language : Property String := .absent
  last_updated : Property String := .absent
  deriving DecidableEq, Repr

/-- `importedData`. -/
structure ImportedData where
  autoActivateUserAtImport : Bool
  autoActivateTagAtImport : Bool
  deriving DecidableEq, Repr

/-- A document of the collection `tags`; a field that is not set is `null`. -/
@[ext] structure TagMDB where
  id : String
  userID : Option String := none
  issuer : Bool := false
  active : Bool := false
  default : Bool := false
  visualID : Option String := none
  ocpiToken : Option OCPIToken := none
  description : Option String := none
  importedData : Option ImportedData := none
  createdBy : Option String := none
  createdOn : Option Timestamp := none
  lastChangedBy : Option String := none
  lastChangedOn : Option Timestamp := none
  deriving DecidableEq, Repr

/-- `User`, with the fields that are read. -/
structure TokenUser where
  id : String
  name : String
  issuer : Bool
  deriving DecidableEq, Repr

/-- `Tag`, with its user. -/
structure TokenTag extends TagMDB where
  user : Option TokenUser := none

/-- The badges and the users of a tenant. -/
structure TokenStore where
  tags : Collection TagMDB.id
  users : Collection TokenUser.id
  deriving DecidableEq

/-- What a request does not decide itself. -/
structure TokenContext where
  /-- `new Date(text)` -/
  newDate : String → Timestamp
  /-- `new ObjectId().toString()` -/
  newObjectId : String

/-! ## Storage -/

/-- `TagStorage.getTag`, with the user. The users who created and changed the badge are looked
up, too. -/
def getTag (store : TokenStore) (id : String) : Option TokenTag :=
  (store.tags.find id).map fun tagMDB =>
    { tagMDB with
      createdBy := tagMDB.createdBy.filter fun id => (store.users.find id).isSome
      lastChangedBy := tagMDB.lastChangedBy.filter fun id => (store.users.find id).isSome
      user := tagMDB.userID.bind store.users.find }

/-- What `saveTag` sets in the document of the badge.  `addLastChangedCreatedProps` leaves a date
as it is when there is nothing to write. -/
def tagMDB (context : TokenContext) (tag : TokenTag) (stored : Option TagMDB) : TagMDB :=
  { id := tag.id
    userID := tag.userID
    issuer := tag.issuer
    active := tag.active
    default := tag.default
    visualID := some (tag.visualID.getD context.newObjectId)
    ocpiToken := tag.ocpiToken
    description := tag.description
    importedData := tag.importedData
    createdBy := tag.createdBy
    createdOn :=
      if tag.createdBy.isSome ∨ tag.createdOn.isSome then tag.createdOn
      else stored.bind (·.createdOn)
    lastChangedBy := tag.lastChangedBy
    lastChangedOn :=
      if tag.lastChangedBy.isSome ∨ tag.lastChangedOn.isSome then tag.lastChangedOn
      else stored.bind (·.lastChangedOn) }

/-- `TagStorage.saveTag`. -/
def saveTag (context : TokenContext) (store : TokenStore) (tag : TokenTag) : TokenStore :=
  { store with tags := store.tags.save (tagMDB context tag (store.tags.find tag.id)) }

/-! ## PUT -/

/-- A text is true unless it is empty. -/
def isText (text : String) : Bool := text ≠ ""

/-- `OCPIUtilsService.validateToken`. -/
def validateToken (token : OCPIToken) : Bool :=
  token.uid.passes isText && token.auth_id.passes isText && token.type.passes isText &&
    token.issuer.passes isText && token.whitelist.passes isText &&
    token.last_updated.passes isText

/-- `tagToSave`, of a valid token; the text of its date is converted here. -/
def tagToSave (context : TokenContext) (token : OCPIToken) (emspUser : TokenUser) : TokenTag where
  id := token.uid.toOption.getD ""
  issuer := false
  userID := some emspUser.id
  active := token.valid = .value true
  description := token.visual_number.toOption
  lastChangedOn := token.last_updated.toOption.map context.newDate
  ocpiToken := some token

/-- `OCPIUtilsService.updateToken`. -/
def updateToken (context : TokenContext) (store : TokenStore) (token : OCPIToken)
    (tag : Option TokenTag) (emspUser : Option TokenUser) : Except String TokenStore := do
  Outcome.refuse (validateToken token = false) "Token object is invalid"
  match emspUser with
  | none => throw "eMSP User is mandatory"
  | some emspUser =>
      Outcome.refuse (emspUser.issuer = true) "Token already assigned to an internal user"
      Outcome.refuse (tag.any (·.issuer) = true) "Token already exists in the current organization"
      -- Save Tag
      if tag.bind (·.ocpiToken) = some token then return store
      else return saveTag context store (tagToSave context token emspUser)

/-- `OCPIUtils.buildOperatorName`. -/
def buildOperatorName (countryCode partyId : String) : String := s!"{countryCode}*{partyId}"

/-- `putTokenRequest`. -/
def putTokenRequest (context : TokenContext) (store : TokenStore)
    (countryCode partyId tokenId : String) (body : Option OCPIToken) :
    Except String TokenStore := do
  Outcome.refuse (tokenId = "") "Token ID is not provided"
  match body with
  | none => throw s!"Missing content to put Token ID '{tokenId}'"
  | some token =>
      -- Retrieve token
      match getTag store tokenId with
      | none => throw s!"Token ID '{tokenId}' not found"
      | some tag =>
          Outcome.refuse (tag.issuer = true) s!"Token ID '{tokenId}' is local to the tenant"
          Outcome.refuse (tag.user.any (·.issuer) = true)
            s!"User found for Token ID '{tokenId}' is local to the tenant"
          let operator := buildOperatorName countryCode partyId
          match tag.user with
          | none => throw "TypeError: Cannot read properties of undefined (reading 'name')"
          | some user =>
              Outcome.refuse (user.name ≠ operator)
                s!"{operator} is not the owner of the Token ID '{tokenId}'"
              updateToken context store token tag user

/-! ## PATCH -/

/-- One of the fields is taken over. -/
def patched (token : OCPIToken) : Bool :=
  token.valid.passes id || token.whitelist.passes isText || token.type.passes isText ||
    token.auth_id.passes isText || token.visual_number.passes isText ||
    token.last_updated.passes isText

/-- The stored token, with the fields that are taken over. -/
def patchToken (token ocpiToken : OCPIToken) : OCPIToken :=
  { ocpiToken with
    valid := token.valid.laidOverIf id ocpiToken.valid
    whitelist := token.whitelist.laidOverIf isText ocpiToken.whitelist
    type := token.type.laidOverIf isText ocpiToken.type
    auth_id := token.auth_id.laidOverIf isText ocpiToken.auth_id
    visual_number := token.visual_number.laidOverIf isText ocpiToken.visual_number
    last_updated := token.last_updated.laidOverIf isText ocpiToken.last_updated }

/-- `patchTokenRequest`. -/
def patchTokenRequest (context : TokenContext) (store : TokenStore)
    (countryCode partyId tokenId : String) (body : Option OCPIToken) :
    Except String TokenStore := do
  match body with
  | none => throw s!"Missing content to patch Token ID '{tokenId}'"
  | some token =>
      -- Retrieve token
      let found := getTag store tokenId
      match found.filter (!·.issuer), found.bind (·.ocpiToken) with
      | some tag, some ocpiToken =>
          match tag.user with
          | none => throw s!"Token ID '{tokenId}' is not assigned to a user"
          | some user =>
              Outcome.refuse (user.issuer = true)
                s!"Token ID '{tokenId}' is assigned to a user that belongs to the local tenant"
              let operator := buildOperatorName countryCode partyId
              Outcome.refuse (user.name ≠ operator)
                s!"{operator} is not the owner of the Token ID '{tokenId}'"
              Outcome.refuse (patched token = false)
                s!"Missing or invalid content to patch Token ID '{tokenId}'"
              return saveTag context store
                { tag with
                  active := token.valid.passes id || tag.active
                  ocpiToken := some (patchToken token ocpiToken)
                  userID := some user.id }
      | _, _ => throw s!"Token ID '{tokenId}' is local to the tenant"

/-! ## What is left -/

/-- What a request leaves; one that throws has not written anything. -/
def storeAfter (store : TokenStore) (outcome : Except String TokenStore) : TokenStore :=
  outcome.toOption.getD store

/-- The badge comes from outside, and its user is the operator. -/
def OwnedBy (store : TokenStore) (tag : TagMDB) (operator : String) : Prop :=
  tag.issuer = false ∧
    (tag.userID.bind store.users.find).any (fun user => !user.issuer && user.name = operator) = true

instance (store : TokenStore) (tag : TagMDB) (operator : String) :
    Decidable (OwnedBy store tag operator) := inferInstanceAs (Decidable (_ ∧ _))

/-- A PUT of a token replaces the stored one. -/
def Replaces (tag : TagMDB) (token : OCPIToken) : Prop :=
  tag.id ≠ "" ∧ validateToken token = true ∧ tag.ocpiToken ≠ some token

instance (tag : TagMDB) (token : OCPIToken) : Decidable (Replaces tag token) :=
  inferInstanceAs (Decidable (_ ∧ _))

/-- The document that a PUT writes. -/
def putTag (context : TokenContext) (store : TokenStore) (tag : TagMDB) (token : OCPIToken) :
    TagMDB :=
  { id := token.uid.toOption.getD ""
    userID := tag.userID
    active := token.valid = .value true
    visualID := some context.newObjectId
    ocpiToken := some token
    description := token.visual_number.toOption
    createdOn := (store.tags.find (token.uid.toOption.getD "")).bind (·.createdOn)
    lastChangedOn := token.last_updated.toOption.map context.newDate }

/-- The document that a PATCH writes. -/
def patchTag (context : TokenContext) (store : TokenStore) (tag : TagMDB)
    (patch stored : OCPIToken) : TagMDB :=
  { tag with
    active := patch.valid.passes id || tag.active
    visualID := some (tag.visualID.getD context.newObjectId)
    ocpiToken := some (patchToken patch stored)
    createdBy := tag.createdBy.filter fun id => (store.users.find id).isSome
    lastChangedBy := tag.lastChangedBy.filter fun id => (store.users.find id).isSome }

variable {context : TokenContext} {store : TokenStore} {countryCode partyId : String}
  {tag : TagMDB} {stored token patch : OCPIToken}

theorem getTag_of_find (found : store.tags.find tag.id = some tag) : getTag store tag.id = some
    { tag with
      createdBy := tag.createdBy.filter fun id => (store.users.find id).isSome
      lastChangedBy := tag.lastChangedBy.filter fun id => (store.users.find id).isSome
      user := tag.userID.bind store.users.find } := by
  rw [getTag, found]
  rfl

theorem userID_of_bind {user : TokenUser} (h : tag.userID.bind store.users.find = some user) :
    tag.userID = some user.id := by
  obtain ⟨id, hid, found⟩ := Option.bind_eq_some_iff.mp h
  rw [hid, Collection.key_of_find found]

theorem ownedBy_iff {operator : String} : OwnedBy store tag operator ↔
    tag.issuer = false ∧ ∃ user, tag.userID.bind store.users.find = some user ∧
      user.issuer = false ∧ user.name = operator := by
  rw [OwnedBy, Option.any_eq_true]
  simp

/-- A request that is refused leaves the store. -/
theorem storeAfter_refuse_bind {condition : Prop} [Decidable condition] {error : String}
    {f : PUnit → Except String TokenStore} :
    storeAfter store (Outcome.refuse condition error >>= f) =
      if condition then store else storeAfter store (f ⟨⟩) := by
  by_cases h : condition
  · rw [Outcome.refuse, if_pos h, if_pos h]
    rfl
  · rw [Outcome.refuse_of_not h, Outcome.ok_bind, if_neg h]

/-- A valid token has a date. -/
theorem isSome_last_updated (valid : validateToken token = true) :
    token.last_updated.toOption.isSome = true := by
  simp only [validateToken, Bool.and_eq_true] at valid
  obtain ⟨text, h, _⟩ := Property.passes_iff.mp valid.2
  rw [h]
  rfl

/-- What `updateToken` leaves, when badge and user are from outside. -/
theorem storeAfter_updateToken {read : TokenTag} {user : TokenUser} (outside : read.issuer = false)
    (external : user.issuer = false) (userID : tag.userID = some user.id)
    (same : read.ocpiToken = tag.ocpiToken) :
    storeAfter store (updateToken context store token read user) =
      if validateToken token = true ∧ tag.ocpiToken ≠ some token then
        { store with tags := store.tags.save (putTag context store tag token) }
      else store := by
  rw [updateToken, storeAfter_refuse_bind]
  by_cases valid : validateToken token = true
  · rw [if_neg (by simp [valid]), storeAfter_refuse_bind, if_neg (by simp [external]),
      storeAfter_refuse_bind, if_neg (by simp [outside]), Option.bind_some, same]
    by_cases unchanged : tag.ocpiToken = some token
    · rw [if_pos unchanged, if_neg fun h => h.2 unchanged]
      rfl
    · rw [if_neg unchanged, if_pos ⟨valid, unchanged⟩]
      have written : tagMDB context (tagToSave context token user)
          (store.tags.find (tagToSave context token user).id) = putTag context store tag token := by
        simp [tagMDB, tagToSave, putTag, isSome_last_updated valid, userID]
      rw [← written]
      rfl
  · rw [if_pos (by simpa using valid), if_neg fun h => valid h.1]

/-- **What a PUT leaves.** -/
theorem storeAfter_putTokenRequest (found : store.tags.find tag.id = some tag) :
    storeAfter store (putTokenRequest context store countryCode partyId tag.id (some token)) =
      if OwnedBy store tag (buildOperatorName countryCode partyId) ∧ Replaces tag token then
        { store with tags := store.tags.save (putTag context store tag token) }
      else store := by
  rw [putTokenRequest, storeAfter_refuse_bind, getTag_of_find found]
  dsimp only
  rw [storeAfter_refuse_bind, storeAfter_refuse_bind]
  by_cases owned : OwnedBy store tag (buildOperatorName countryCode partyId)
  · obtain ⟨outside, user, huser, external, owner⟩ := ownedBy_iff.mp owned
    rw [if_neg (c := tag.issuer = true) (by simp [outside]), huser,
      if_neg (c := Option.any _ _ = true) (by simp [external])]
    dsimp only
    rw [storeAfter_refuse_bind, if_neg (c := user.name ≠ _) (by simp [owner]),
      storeAfter_updateToken outside external (userID_of_bind huser) rfl]
    by_cases named : tag.id = ""
    · rw [if_pos named, if_neg fun h => h.2.1 named]
    · rw [if_neg named]
      exact if_congr ⟨fun h => ⟨owned, named, h⟩, fun h => h.2.2⟩ rfl rfl
  · rw [if_neg (c := OwnedBy _ _ _ ∧ _) fun h => owned h.1]
    split_ifs with named issuer external
    · rfl
    · rfl
    · rfl
    · cases huser : tag.userID.bind store.users.find with
      | none => rfl
      | some user =>
          rw [huser] at external
          dsimp only
          rw [storeAfter_refuse_bind, if_pos]
          intro owner
          exact owned (ownedBy_iff.mpr
            ⟨by simpa using issuer, user, huser, by simpa using external, owner⟩)

/-- **What a PATCH leaves.** -/
theorem storeAfter_patchTokenRequest (found : store.tags.find tag.id = some tag)
    (roaming : tag.ocpiToken = some stored) :
    storeAfter store (patchTokenRequest context store countryCode partyId tag.id (some patch)) =
      if OwnedBy store tag (buildOperatorName countryCode partyId) ∧ patched patch = true then
        { store with tags := store.tags.save (patchTag context store tag patch stored) }
      else store := by
  rw [patchTokenRequest, getTag_of_find found]
  dsimp only
  rw [Option.filter_some, Option.bind_some, roaming]
  by_cases outside : tag.issuer = false
  swap
  · rw [if_neg (by simpa using outside), if_neg fun h => outside h.1.1]
    rfl
  rw [if_pos (by simp [outside])]
  dsimp only
  cases huser : tag.userID.bind store.users.find with
  | none =>
      rw [if_neg fun h => by simp [OwnedBy, huser] at h]
      rfl
  | some user =>
      dsimp only
      rw [storeAfter_refuse_bind, storeAfter_refuse_bind, storeAfter_refuse_bind]
      by_cases owned : OwnedBy store tag (buildOperatorName countryCode partyId)
      · obtain ⟨_, _, huser', external, owner⟩ := ownedBy_iff.mp owned
        obtain rfl := Option.some.inj (huser.symm.trans huser')
        rw [if_neg (by simp [external]), if_neg (by simp [owner])]
        by_cases takes : patched patch = true
        · rw [if_neg (by simp [takes]), if_pos ⟨owned, takes⟩]
          have written : tagMDB context
              { tag with
                createdBy := tag.createdBy.filter fun id => (store.users.find id).isSome
                lastChangedBy := tag.lastChangedBy.filter fun id => (store.users.find id).isSome
                active := patch.valid.passes id || tag.active
                ocpiToken := some (patchToken patch stored)
                userID := some user.id
                user := some user } (store.tags.find tag.id) =
              patchTag context store tag patch stored := by
            rw [found]
            simp [tagMDB, patchTag, userID_of_bind huser]
          rw [← written]
          rfl
        · rw [if_pos (by simpa using takes), if_neg fun h => takes h.2]
      · rw [if_neg (c := OwnedBy _ _ _ ∧ _) fun h => owned h.1]
        by_cases external : user.issuer = true
        · rw [if_pos external]
        · rw [if_neg external, if_pos]
          intro owner
          exact owned (ownedBy_iff.mpr ⟨outside, user, huser, by simpa using external, owner⟩)

/-! ## When the two agree -/

/-- The stored token, with the fields of a partial token in the place of its own. -/
def OCPIToken.laidOver (patch stored : OCPIToken) : OCPIToken where
  uid := patch.uid.laidOver stored.uid
  type := patch.type.laidOver stored.type
  auth_id := patch.auth_id.laidOver stored.auth_id
  visual_number := patch.visual_number.laidOver stored.visual_number
  issuer := patch.issuer.laidOver stored.issuer
  valid := patch.valid.laidOver stored.valid
  whitelist := patch.whitelist.laidOver stored.whitelist
  language := patch.language.laidOver stored.language
  last_updated := patch.last_updated.laidOver stored.last_updated

/-- A PATCH leaves the badges as a PUT of the patched token does, and one that makes the token
invalid leaves the badge inactive. -/
def PatchAgrees (context : TokenContext) (store : TokenStore) (countryCode partyId : String)
    (tag : TagMDB) (stored patch : OCPIToken) : Prop :=
  let afterPatch := storeAfter store
    (patchTokenRequest context store countryCode partyId tag.id (some patch))
  afterPatch = storeAfter store
      (putTokenRequest context store countryCode partyId tag.id (some (patch.laidOver stored))) ∧
    (OwnedBy store tag (buildOperatorName countryCode partyId) → patch.valid = .value false →
      (afterPatch.tags.find tag.id).all (!·.active) = true)

/-- A PATCH takes over each of the fields that it is given. -/
structure TakenOver (patch stored : OCPIToken) : Prop where
  uid : patch.uid = .absent ∨ patch.uid = stored.uid
  type : patch.type = .absent ∨ patch.type.passes isText = true ∨ patch.type = stored.type
  auth_id : patch.auth_id = .absent ∨ patch.auth_id.passes isText = true ∨
    patch.auth_id = stored.auth_id
  visual_number : patch.visual_number = .absent ∨ patch.visual_number.passes isText = true ∨
    patch.visual_number = stored.visual_number
  issuer : patch.issuer = .absent ∨ patch.issuer = stored.issuer
  valid : patch.valid = .absent ∨ patch.valid.passes id = true ∨ patch.valid = stored.valid
  whitelist : patch.whitelist = .absent ∨ patch.whitelist.passes isText = true ∨
    patch.whitelist = stored.whitelist
  language : patch.language = .absent ∨ patch.language = stored.language
  last_updated : patch.last_updated = .absent ∨ patch.last_updated.passes isText = true ∨
    patch.last_updated = stored.last_updated

/-- The fields that a PATCH takes over are stored already. -/
structure StoredAlready (patch stored : OCPIToken) : Prop where
  type : patch.type.passes isText = true → patch.type = stored.type
  auth_id : patch.auth_id.passes isText = true → patch.auth_id = stored.auth_id
  visual_number : patch.visual_number.passes isText = true →
    patch.visual_number = stored.visual_number
  valid : patch.valid.passes id = true → patch.valid = stored.valid
  whitelist : patch.whitelist.passes isText = true → patch.whitelist = stored.whitelist
  last_updated : patch.last_updated.passes isText = true →
    patch.last_updated = stored.last_updated

/-- A PATCH that takes something over writes what is there already. -/
structure PatchKeeps (store : TokenStore) (tag : TagMDB) (patch stored : OCPIToken) : Prop where
  token : StoredAlready patch stored
  active : patch.valid = .value true → tag.active = true
  visualID : tag.visualID.isSome = true
  createdBy : ∀ id ∈ tag.createdBy, (store.users.find id).isSome = true
  lastChangedBy : ∀ id ∈ tag.lastChangedBy, (store.users.find id).isSome = true

/-- A badge is as a PUT of a token writes it. -/
structure AsPut (context : TokenContext) (userID : Option String) (token : OCPIToken)
    (tag : TagMDB) : Prop where
  userID : tag.userID = userID
  issuer : tag.issuer = false
  active : tag.active = true ↔ token.valid = .value true
  default : tag.default = false
  visualID : tag.visualID = some context.newObjectId
  ocpiToken : tag.ocpiToken = some token
  description : tag.description = token.visual_number.toOption
  importedData : tag.importedData = none
  createdBy : tag.createdBy = none
  lastChangedBy : tag.lastChangedBy = none
  lastChangedOn : tag.lastChangedOn = token.last_updated.toOption.map context.newDate

/-- A PATCH writes what a PUT of the patched token writes. -/
structure SameBadge (context : TokenContext) (store : TokenStore) (tag : TagMDB)
    (patch stored : OCPIToken) : Prop where
  token : TakenOver patch stored
  uid : (patch.laidOver stored).uid.toOption.getD "" = tag.id
  active : patch.valid = .value true ∨ tag.active = true ↔
    (patch.laidOver stored).valid = .value true
  default : tag.default = false
  visualID : ∀ visualID ∈ tag.visualID, visualID = context.newObjectId
  description : tag.description = (patch.laidOver stored).visual_number.toOption
  importedData : tag.importedData = none
  createdBy : ∀ id ∈ tag.createdBy, store.users.find id = none
  lastChangedBy : ∀ id ∈ tag.lastChangedBy, store.users.find id = none
  lastChangedOn : tag.lastChangedOn =
    (patch.laidOver stored).last_updated.toOption.map context.newDate

/-- The condition, for the owner of the badge. -/
structure PatchedLikePut (context : TokenContext) (store : TokenStore) (tag : TagMDB)
    (patch stored : OCPIToken) : Prop where
  inactive : patch.valid = .value false → tag.active = false
  same : ((patched patch = true → PatchKeeps store tag patch stored) ∧
      (Replaces tag (patch.laidOver stored) →
        ∃ other, store.tags.find ((patch.laidOver stored).uid.toOption.getD "") = some other ∧
          AsPut context tag.userID (patch.laidOver stored) other)) ∨
    patched patch = true ∧ Replaces tag (patch.laidOver stored) ∧
      SameBadge context store tag patch stored

theorem patchToken_eq_laidOver_iff : patchToken patch stored = patch.laidOver stored ↔
    TakenOver patch stored := by
  rw [OCPIToken.ext_iff]
  simp only [patchToken, OCPIToken.laidOver, Property.laidOverIf_eq_laidOver_iff,
    Property.eq_laidOver_iff]
  constructor
  · rintro ⟨uid, type, auth_id, visual_number, issuer, valid, whitelist, language, last_updated⟩
    exact ⟨uid, type, auth_id, visual_number, issuer, valid, whitelist, language, last_updated⟩
  · rintro ⟨uid, type, auth_id, visual_number, issuer, valid, whitelist, language, last_updated⟩
    exact ⟨uid, type, auth_id, visual_number, issuer, valid, whitelist, language, last_updated⟩

theorem patchToken_eq_stored_iff : patchToken patch stored = stored ↔
    StoredAlready patch stored := by
  rw [OCPIToken.ext_iff]
  simp only [patchToken, Property.laidOverIf_eq_iff, true_and]
  constructor
  · rintro ⟨type, auth_id, visual_number, valid, whitelist, last_updated⟩
    exact ⟨type, auth_id, visual_number, valid, whitelist, last_updated⟩
  · rintro ⟨type, auth_id, visual_number, valid, whitelist, last_updated⟩
    exact ⟨type, auth_id, visual_number, valid, whitelist, last_updated⟩

theorem passes_id_iff {valid : Property Bool} : valid.passes id = true ↔ valid = .value true := by
  rw [Property.passes_iff]
  simp

/-- The users who created and changed a badge stay when they are found. -/
theorem filter_isSome_eq_self_iff {userID : Option String} :
    (userID.filter fun id => (store.users.find id).isSome) = userID ↔
      ∀ id ∈ userID, (store.users.find id).isSome = true := by
  cases userID <;> simp [Option.filter_some, Option.isSome_iff_ne_none]

theorem filter_isSome_eq_none_iff {userID : Option String} :
    (userID.filter fun id => (store.users.find id).isSome) = none ↔
      ∀ id ∈ userID, store.users.find id = none := by
  cases userID <;> simp [Option.filter_some]

/-- When a PATCH writes what is there already. -/
theorem patchTag_eq_self_iff (roaming : tag.ocpiToken = some stored) :
    patchTag context store tag patch stored = tag ↔ PatchKeeps store tag patch stored := by
  have token : some (patchToken patch stored) = tag.ocpiToken ↔ StoredAlready patch stored := by
    rw [roaming, Option.some.injEq, patchToken_eq_stored_iff]
  have active : (patch.valid.passes id || tag.active) = tag.active ↔
      (patch.valid = .value true → tag.active = true) := by
    rw [← passes_id_iff]
    cases patch.valid.passes id <;> simp
  have visualID : some (tag.visualID.getD context.newObjectId) = tag.visualID ↔
      tag.visualID.isSome = true := by
    cases tag.visualID <;> simp
  rw [TagMDB.ext_iff]
  simp only [patchTag, token, active, visualID, filter_isSome_eq_self_iff, true_and, and_true]
  constructor
  · rintro ⟨active, visualID, token, createdBy, lastChangedBy⟩
    exact ⟨token, active, visualID, createdBy, lastChangedBy⟩
  · rintro ⟨token, active, visualID, createdBy, lastChangedBy⟩
    exact ⟨active, visualID, token, createdBy, lastChangedBy⟩

/-- When a PUT writes what is there already: only another badge can hold the new token. -/
theorem find_putTag_iff :
    store.tags.find (putTag context store tag token).id = some (putTag context store tag token) ↔
      ∃ other, store.tags.find (token.uid.toOption.getD "") = some other ∧
        AsPut context tag.userID token other := by
  constructor
  · intro found
    exact ⟨_, found, rfl, rfl, by simp [putTag], rfl, rfl, rfl, rfl, rfl, rfl, rfl, rfl⟩
  · rintro ⟨other, found, asPut⟩
    change store.tags.find (token.uid.toOption.getD "") = _
    rw [found, Option.some.injEq]
    have active : other.active = decide (token.valid = .value true) := by
      rw [Bool.eq_iff_iff, asPut.active, decide_eq_true_eq]
    ext1
    · exact Collection.key_of_find found
    · exact asPut.userID
    · exact asPut.issuer
    · exact active
    · exact asPut.default
    · exact asPut.visualID
    · exact asPut.ocpiToken
    · exact asPut.description
    · exact asPut.importedData
    · exact asPut.createdBy
    · rw [putTag, found]
      rfl
    · exact asPut.lastChangedBy
    · exact asPut.lastChangedOn

/-- When both write the same document. -/
theorem patchTag_eq_putTag_iff (found : store.tags.find tag.id = some tag)
    (outside : tag.issuer = false) :
    patchTag context store tag patch stored = putTag context store tag (patch.laidOver stored) ↔
      SameBadge context store tag patch stored := by
  have token : some (patchToken patch stored) = some (patch.laidOver stored) ↔
      TakenOver patch stored := by
    rw [Option.some.injEq, patchToken_eq_laidOver_iff]
  have active : (patch.valid.passes id || tag.active) =
        decide ((patch.laidOver stored).valid = .value true) ↔
      (patch.valid = .value true ∨ tag.active = true ↔
        (patch.laidOver stored).valid = .value true) := by
    rw [Bool.eq_iff_iff, Bool.or_eq_true, decide_eq_true_eq, passes_id_iff]
  have visualID : some (tag.visualID.getD context.newObjectId) = some context.newObjectId ↔
      ∀ visualID ∈ tag.visualID, visualID = context.newObjectId := by
    cases tag.visualID <;> simp
  rw [TagMDB.ext_iff]
  simp only [patchTag, putTag, token, active, visualID, outside, filter_isSome_eq_none_iff,
    true_and]
  constructor
  · rintro ⟨uid, active, default, visualID, token, description, importedData, createdBy, -,
      lastChangedBy, lastChangedOn⟩
    exact ⟨token, uid.symm, active, default, visualID, description, importedData, createdBy,
      lastChangedBy, lastChangedOn⟩
  · rintro ⟨token, uid, active, default, visualID, description, importedData, createdBy,
      lastChangedBy, lastChangedOn⟩
    refine ⟨uid.symm, active, default, visualID, token, description, importedData, createdBy, ?_,
      lastChangedBy, lastChangedOn⟩
    rw [uid, found]
    rfl

theorem save_eq_store_iff {doc : TagMDB} :
    ({ store with tags := store.tags.save doc } : TokenStore) = store ↔
      store.tags.find doc.id = some doc := by
  rw [← Collection.save_eq_self_iff]
  constructor
  · exact congrArg TokenStore.tags
  · intro same
    rw [same]

/-- A PATCH does not make a badge inactive. -/
theorem all_inactive_storeAfter_patch_iff (found : store.tags.find tag.id = some tag)
    (roaming : tag.ocpiToken = some stored) (invalid : patch.valid = .value false) :
    ((storeAfter store (patchTokenRequest context store countryCode partyId tag.id
      (some patch))).tags.find tag.id).all (!·.active) = true ↔ tag.active = false := by
  rw [storeAfter_patchTokenRequest found roaming]
  split_ifs
  · have stays : (store.tags.save (patchTag context store tag patch stored)).find tag.id =
        some (patchTag context store tag patch stored) := Collection.find_save_self
    rw [stays]
    simp [patchTag, invalid, Property.passes]
  · rw [found]
    simp

/-- Two requests that may save a document leave the same when neither changes anything or both
save the same. -/
theorem saves_agree_iff {P Q : Prop} [Decidable P] [Decidable Q] {doc other : TagMDB} :
    (if P then { store with tags := store.tags.save doc } else store) =
        (if Q then { store with tags := store.tags.save other } else store) ↔
      ((P → store.tags.find doc.id = some doc) ∧ (Q → store.tags.find other.id = some other)) ∨
        P ∧ Q ∧ doc = other := by
  by_cases p : P
  · by_cases q : Q
    · have tags : ({ store with tags := store.tags.save doc } : TokenStore) =
          { store with tags := store.tags.save other } ↔
          store.tags.save doc = store.tags.save other :=
        ⟨congrArg TokenStore.tags, fun same => by rw [same]⟩
      rw [if_pos p, if_pos q, tags, Collection.save_eq_save_iff]
      simp only [p, q, true_implies, true_and]
      exact or_comm
    · rw [if_pos p, if_neg q, save_eq_store_iff]
      simp [p, q]
  · by_cases q : Q
    · rw [if_neg p, if_pos q, eq_comm, save_eq_store_iff]
      simp [p, q]
    · rw [if_neg p, if_neg q]
      simp [p, q]

/-- **A PATCH leaves the badges as the PUT of the patched token would** just when the badge is
not the operator's or it is patched like it would be put. -/
theorem patchAgrees_iff (found : store.tags.find tag.id = some tag)
    (roaming : tag.ocpiToken = some stored) :
    PatchAgrees context store countryCode partyId tag stored patch ↔
      (OwnedBy store tag (buildOperatorName countryCode partyId) →
        PatchedLikePut context store tag patch stored) := by
  unfold PatchAgrees
  extract_lets afterPatch
  by_cases owned : OwnedBy store tag (buildOperatorName countryCode partyId)
  swap
  · have left : afterPatch = store := by
      change storeAfter store _ = store
      rw [storeAfter_patchTokenRequest found roaming, if_neg fun h => owned h.1]
    rw [left, storeAfter_putTokenRequest found, if_neg fun h => owned h.1]
    simp [owned]
  have inactive : (patch.valid = .value false →
      (afterPatch.tags.find tag.id).all (!·.active) = true) ↔
      (patch.valid = .value false → tag.active = false) :=
    forall_congr' fun invalid => all_inactive_storeAfter_patch_iff found roaming invalid
  have keeps : store.tags.find (patchTag context store tag patch stored).id =
        some (patchTag context store tag patch stored) ↔ PatchKeeps store tag patch stored := by
    change store.tags.find tag.id = _ ↔ _
    rw [found, Option.some.injEq, eq_comm, patchTag_eq_self_iff roaming]
  have same : afterPatch = storeAfter store
        (putTokenRequest context store countryCode partyId tag.id (some (patch.laidOver stored))) ↔
      ((patched patch = true → PatchKeeps store tag patch stored) ∧
        (Replaces tag (patch.laidOver stored) →
          ∃ other, store.tags.find ((patch.laidOver stored).uid.toOption.getD "") = some other ∧
            AsPut context tag.userID (patch.laidOver stored) other)) ∨
      patched patch = true ∧ Replaces tag (patch.laidOver stored) ∧
        SameBadge context store tag patch stored := by
    change storeAfter store _ = _ ↔ _
    rw [storeAfter_patchTokenRequest found roaming, storeAfter_putTokenRequest found,
      saves_agree_iff, keeps, find_putTag_iff, patchTag_eq_putTag_iff found owned.1]
    simp only [owned, true_and]
  rw [same]
  simp only [owned, true_implies, inactive]
  exact ⟨fun h => ⟨h.2, h.1⟩, fun h => ⟨h.same, h.inactive⟩⟩

/-- The operator of the example. -/
private def emspUser : TokenUser where
  id := "U1"
  name := "FR*ABC"
  issuer := false

/-- A valid token, and the badge that a PUT has made of it. -/
private def validToken : OCPIToken where
  uid := .value "T1"
  type := .value "RFID"
  auth_id := .value "A1"
  issuer := .value "ABC"
  valid := .value true
  whitelist := .value "ALLOWED"
  last_updated := .value "2021-01-01T00:00:00Z"

private def activeTag : TagMDB where
  id := "T1"
  userID := some "U1"
  active := true
  visualID := some "V1"
  ocpiToken := some validToken
  lastChangedOn := some 0

private def activeStore : TokenStore where
  tags := ⟨[activeTag], by decide⟩
  users := ⟨[emspUser], by decide⟩

private def someContext : TokenContext where
  newDate _ := 0
  newObjectId := "V2"

/-- A token that is patched to be invalid stays valid, and the badge active. -/
theorem not_patchAgrees_invalid :
    ¬ PatchAgrees someContext activeStore "FR" "ABC" activeTag validToken
      { valid := .value false } := by
  rintro ⟨-, inactive⟩
  have deactivated := inactive (by decide) rfl
  revert deactivated
  decide

/-- The date that is stored already. -/
theorem patchAgrees_sameDate :
    PatchAgrees someContext activeStore "FR" "ABC" activeTag validToken
      { last_updated := .value "2021-01-01T00:00:00Z" } := by
  refine (patchAgrees_iff rfl rfl).mpr fun _ => ⟨by decide, .inl ⟨fun _ => ?_, ?_⟩⟩
  · exact ⟨⟨by decide, by decide, by decide, by decide, by decide, by decide⟩, by decide,
      by decide, by decide, by decide⟩
  · intro replaces
    exact absurd replaces (by decide)

end CPOTokensEndpoint

end EvServer
