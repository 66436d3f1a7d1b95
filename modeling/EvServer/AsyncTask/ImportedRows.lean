import EvServer.AsyncTask.TagsImport
import EvServer.Tags.DefaultTags

/-!
# The import of a row

The import of a row comes in four parts: the badge is checked, its user is saved, he is
assigned to his sites, and the badge is saved as his default badge.  A lemma for each part
says all that it can do; `processImportedTag_cases` puts them together.
-/

namespace EvServer.TagsImport

open EvServer.TagStorage (clearDefault clearDefaultUserTag getTag getTagByVisualID)

/-- `new ObjectId()` is new, and what is in lower case stays so. -/
structure ImportContext.Sound (context : ImportContext) : Prop where
  newUserID : ∀ store, ∀ user ∈ store.users.docs, user.id ≠ context.newObjectID store
  newVisualID : ∀ store, ∀ tag ∈ store.tags.docs, tag.visualID ≠ context.newObjectID store
  toLowerCase : ∀ s, context.toLowerCase (context.toLowerCase s) = context.toLowerCase s

variable {context : ImportContext} {row : ImportedTag} {s t : ImportStore}

/-! ## Users -/

/-- The local user with an address, up to its case. -/
structure HasAddress (context : ImportContext) (email : String) (user : User) : Prop where
  issuer : user.issuer = true
  email : context.toLowerCase user.email = context.toLowerCase email

/-- The users stay, with their addresses up to the case, and the addresses stay unique. -/
structure UsersStay (context : ImportContext) (before after : Collection User.id) : Prop where
  stay : ∀ user ∈ before.docs, ∃ user' ∈ after.docs, user'.id = user.id ∧
    user'.issuer = user.issuer ∧ context.toLowerCase user'.email = context.toLowerCase user.email
  unique : before.Unique User.email → after.Unique User.email

namespace UsersStay

variable {users users' users'' : Collection User.id} {user : User} {email : String}

theorem refl (users : Collection User.id) : UsersStay context users users where
  stay user mem := ⟨user, mem, rfl, rfl, rfl⟩
  unique := id

theorem trans (first : UsersStay context users users') (second : UsersStay context users' users'') :
    UsersStay context users users'' where
  stay user mem := by
    obtain ⟨user', mem', id', issuer', email'⟩ := first.stay user mem
    obtain ⟨user'', mem'', id'', issuer'', email''⟩ := second.stay user' mem'
    exact ⟨user'', mem'', id''.trans id', issuer''.trans issuer', email''.trans email'⟩
  unique := second.unique ∘ first.unique

/-- A user is saved, who is new or has the issuer and the address of his earlier version. -/
theorem save (same : ∀ old ∈ users.docs, old.id = user.id → user.issuer = old.issuer ∧
      context.toLowerCase user.email = context.toLowerCase old.email)
    (free : users.Unique User.email → ¬ users.Clashes User.email user) :
    UsersStay context users (users.save user) where
  stay other mem := by
    by_cases here : other.id = user.id
    · exact ⟨user, Collection.mem_save_iff.mpr (.inl rfl), here.symm, same other mem here⟩
    · exact ⟨other, Collection.mem_save_iff.mpr (.inr ⟨mem, here⟩), rfl, rfl, rfl⟩
  unique unique := unique.save (free unique)

/-- The user with an address is still there. -/
theorem hasAddress (later : UsersStay context users users') (mem : user ∈ users.docs)
    (address : HasAddress context email user) :
    ∃ user' ∈ users'.docs, user'.id = user.id ∧ HasAddress context email user' := by
  obtain ⟨user', mem', sameID, issuer, sameEmail⟩ := later.stay user mem
  exact ⟨user', mem', sameID, issuer.trans address.issuer, sameEmail.trans address.email⟩

end UsersStay

namespace UserStorage

variable {user : User}

/-- A user is saved, unless another one has his address. -/
theorem saveUser_cases (context : ImportContext) (user : User) (s : ImportStore) :
    saveUser context user s = (.error (context.duplicateKey (context.toLowerCase user.email)), s) ∨
      ¬ s.users.Clashes User.email { user with email := context.toLowerCase user.email } ∧
        saveUser context user s = (.ok (), { s with
          users := s.users.save { user with email := context.toLowerCase user.email } }) := by
  unfold saveUser
  by_cases clashes :
      s.users.Clashes User.email { user with email := context.toLowerCase user.email }
  · refine .inl (Handler.bind_apply_error ?_)
    rw [Handler.read_apply, if_pos clashes]
  · refine .inr ⟨clashes, (Handler.bind_apply_ok (a := ()) (t := s) ?_).trans rfl⟩
    rw [Handler.read_apply, if_neg clashes]

/-- A change of other properties leaves ID, issuer and address alone. -/
theorem updateUser_stays (context : ImportContext) (userID : String) (set : User → User)
    (same : ∀ user, (set user).id = user.id ∧ (set user).issuer = user.issuer ∧
      (set user).email = user.email) (s : ImportStore) :
    ∃ users, updateUser userID set s = (.ok (), { s with users := users }) ∧
      UsersStay context s.users users := by
  rcases found : s.users.find userID with _ | user
  · refine ⟨s.users, ?_, .refl _⟩
    show (Except.ok (), _) = _
    simp only [found]
  · obtain ⟨sameID, issuer, email⟩ := same user
    have mem := Collection.mem_of_find found
    refine ⟨s.users.save (set user), ?_, .save (fun old hold here => ?_) fun unique => ?_⟩
    · show (Except.ok (), _) = _
      simp only [found]
    · obtain rfl := Collection.eq_of_key_eq hold mem (here.trans sameID)
      exact ⟨issuer, congrArg context.toLowerCase email⟩
    · rintro ⟨other, stored, apart, equal⟩
      rw [sameID] at apart
      rw [email] at equal
      exact apart (unique other stored user mem equal)

theorem siteUserKey_addedSite (siteUsers : Collection siteUserKey) (userID siteID : String) :
    siteUserKey (addedSite siteUsers userID siteID) = (userID, siteID) := by
  unfold addedSite
  rcases found : siteUsers.find (userID, siteID) with _ | userSite
  · rfl
  · show siteUserKey userSite = _
    exact Collection.key_of_find found

theorem mem_of_getUserByEmail {users : Collection User.id} {email : String}
    (found : getUserByEmail users email = some user) : user ∈ users.docs ∧ user.email = email := by
  unfold getUserByEmail at found
  split at found
  · rename_i only equal
    obtain rfl := Option.some.inj found
    have mem : only ∈ users.docs.filter fun user => user.email = email := by
      rw [equal]
      exact List.mem_singleton_self only
    simpa using mem
  · cases found

end UserStorage

namespace ImportHelper

theorem sendNotifications_stays (context : ImportContext) (user : User) (s : ImportStore) :
    ∃ users, sendNotifications context user s = (.ok (), { s with users := users }) ∧
      UsersStay context s.users users := by
  obtain ⟨users₁, first, stay₁⟩ := UserStorage.updateUser_stays context user.id
    (fun stored => { stored with passwordResetHash := some (context.generateUUID user) })
    (fun _ => ⟨rfl, rfl, rfl⟩) s
  obtain ⟨users₂, second, stay₂⟩ := UserStorage.updateUser_stays context user.id
    (fun stored => { stored with
      verificationToken := some (context.generateToken user.email) })
    (fun _ => ⟨rfl, rfl, rfl⟩) { s with users := users₁ }
  exact ⟨users₂, (Handler.bind_apply_ok first).trans second, stay₁.trans stay₂⟩

/-- The user that is returned is stored, with the address of the row. -/
structure SavedUser (context : ImportContext) (importedUser : ImportedUser)
    (before after : Collection User.id) (user : User) : Prop where
  later : UsersStay context before after
  stored : ∃ stored ∈ after.docs, stored.id = user.id ∧
    HasAddress context importedUser.email stored

theorem createUser_cases (sound : context.Sound) (importedUser : ImportedUser) (s : ImportStore) :
    (∃ message, createUser context importedUser s = (.error message, s)) ∨
      ∃ user users, createUser context importedUser s = (.ok user, { s with users := users }) ∧
        SavedUser context importedUser s.users users user := by
  unfold createUser
  rw [Handler.read_bind_apply]
  set newUser : User := {
    id := context.newObjectID s
    firstName := importedUser.firstName
    name := importedUser.name
    email := importedUser.email
    createdOn := importedUser.importedOn } with hnew
  rcases UserStorage.saveUser_cases context newUser s with refused | ⟨free, saved⟩
  · exact .inl ⟨_, Handler.bind_apply_error refused⟩
  · obtain ⟨users₁, first, stay₁⟩ := UserStorage.updateUser_stays context newUser.id
      (fun user => { user with role := some .basic }) (fun _ => ⟨rfl, rfl, rfl⟩)
      { s with users := s.users.save { newUser with
          email := context.toLowerCase newUser.email } }
    obtain ⟨users₂, second, stay₂⟩ := UserStorage.updateUser_stays context newUser.id
      (fun user => { user with status := some .pending }) (fun _ => ⟨rfl, rfl, rfl⟩)
      { s with users := users₁ }
    obtain ⟨users₃, third, stay₃⟩ :=
      sendNotifications_stays context newUser { s with users := users₂ }
    have later := (stay₁.trans stay₂).trans stay₃
    have address : HasAddress context importedUser.email
        { newUser with email := context.toLowerCase newUser.email } :=
      ⟨rfl, sound.toLowerCase importedUser.email⟩
    have stored := later.hasAddress (Collection.mem_save_iff.mpr (.inl rfl)) address
    refine .inr ⟨newUser, users₃, ?_, (UsersStay.save (fun old mem here => ?_)
      fun _ => free).trans later, stored⟩
    · rw [Handler.bind_apply_ok saved, UserStorage.saveUserRole, Handler.bind_apply_ok first,
        UserStorage.saveUserStatus, Handler.bind_apply_ok second, Handler.bind_apply_ok third]
      rfl
    · exact absurd here (sound.newUserID s old mem)

theorem updateUser_cases (sound : context.Sound) {user : User} (importedUser : ImportedUser)
    (mem : user ∈ s.users.docs) (address : user.email = importedUser.email) :
    (∃ message, updateUser context user importedUser s = (.error message, s)) ∨
      ∃ user' users, updateUser context user importedUser s =
          (.ok user', { s with users := users }) ∧
        SavedUser context importedUser s.users users user' := by
  unfold updateUser
  by_cases issuer : user.issuer = true
  · rw [if_pos issuer, Handler.ofExcept_ok_bind]
    set renamed : User :=
      { user with name := importedUser.name, firstName := importedUser.firstName } with hrenamed
    rcases UserStorage.saveUser_cases context renamed s with refused | ⟨free, saved⟩
    · exact .inl ⟨_, Handler.bind_apply_error refused⟩
    · have same : context.toLowerCase (context.toLowerCase renamed.email) =
          context.toLowerCase user.email := sound.toLowerCase _
      have stays : UsersStay context s.users (s.users.save { renamed with
          email := context.toLowerCase renamed.email }) := by
        refine .save (fun old hold here => ?_) fun _ => free
        obtain rfl := Collection.eq_of_key_eq hold mem here
        exact ⟨rfl, same⟩
      refine .inr ⟨renamed, _, ?_, stays, _, Collection.mem_save_iff.mpr (.inl rfl), rfl, issuer,
        same.trans (congrArg context.toLowerCase address)⟩
      rw [Handler.bind_apply_ok saved]
      rfl
  · rw [if_neg issuer]
    exact .inl ⟨_, Handler.ofExcept_error_bind⟩

/-- The user of a row is refused, or he is stored with the address of the row. -/
theorem saveImportedUser_cases (sound : context.Sound) (importedUser : ImportedUser)
    (s : ImportStore) :
    (∃ message, saveImportedUser context importedUser s = (.error message, s)) ∨
      ∃ user users, saveImportedUser context importedUser s =
          (.ok user, { s with users := users }) ∧
        SavedUser context importedUser s.users users user := by
  unfold saveImportedUser
  rw [Handler.read_bind_apply]
  rcases found : UserStorage.getUserByEmail s.users importedUser.email with _ | user
  · exact createUser_cases sound importedUser s
  · obtain ⟨mem, address⟩ := UserStorage.mem_of_getUserByEmail found
    exact updateUser_cases sound importedUser mem address

/-- The user is assigned to the sites that exist, and nobody is taken off a site. -/
theorem assignSites_stays (context : ImportContext) (userID : String) (siteIDs : List String)
    (s : ImportStore) :
    ∃ siteUsers, assignSites context userID siteIDs s =
        (.ok (), { s with siteUsers := siteUsers }) ∧
      (∀ key, (s.siteUsers.find key).isSome → (siteUsers.find key).isSome) ∧
      ∀ siteID ∈ siteIDs, siteID ∈ context.existingSites →
        (siteUsers.find (userID, siteID)).isSome := by
  induction siteIDs generalizing s with
  | nil => exact ⟨s.siteUsers, rfl, fun _ h => h, fun _ mem => nomatch mem⟩
  | cons siteID siteIDs ih =>
      by_cases exist : siteID ∈ context.existingSites
      · set added := UserStorage.addedSite s.siteUsers userID siteID with hadded
        have key : siteUserKey added = (userID, siteID) :=
          UserStorage.siteUserKey_addedSite s.siteUsers userID siteID
        obtain ⟨siteUsers, eq, stay, assigned⟩ :=
          ih { s with siteUsers := s.siteUsers.save added }
        have saved : ((s.siteUsers.save added).find (userID, siteID)).isSome := by
          rw [← key, Collection.find_save_self]
          rfl
        refine ⟨siteUsers, ?_, fun other there => stay other ?_, ?_⟩
        · rw [assignSites, if_pos exist]
          exact eq
        · by_cases same : other = (userID, siteID)
          · exact same ▸ saved
          · show ((s.siteUsers.save added).find other).isSome
            rwa [Collection.find_save_of_ne (by rwa [key])]
        · rintro other mem hother
          rcases List.mem_cons.mp mem with rfl | mem
          · exact stay _ saved
          · exact assigned other mem hother
      · obtain ⟨siteUsers, eq, stay, assigned⟩ := ih s
        refine ⟨siteUsers, ?_, stay, ?_⟩
        · rw [assignSites, if_neg exist]
          exact eq
        · rintro other mem hother
          rcases List.mem_cons.mp mem with rfl | mem
          · exact absurd hother exist
          · exact assigned other mem hother

/-! ## Badges -/

/-- The badge of a user with the address of the row. -/
def IsUserOf (context : ImportContext) (row : ImportedTag) (store : ImportStore)
    (userID : String) : Prop :=
  ∃ importedUser, ImportHelper.importedUser row = some importedUser ∧
    ∃ user ∈ store.users.docs, user.id = userID ∧ HasAddress context importedUser.email user

/-- Somebody is assigned to the sites of the row, up to those that do not exist. -/
def OnSitesOf (context : ImportContext) (row : ImportedTag) (store : ImportStore)
    (userID : String) : Prop :=
  ∀ importedUser, ImportHelper.importedUser row = some importedUser →
    context.organizationActive = true → ∀ siteID ∈ importedUser.siteIDs.getD [],
      siteID ∈ context.existingSites → (store.siteUsers.find (userID, siteID)).isSome

/-- The users and their assignments stay. -/
structure Stays (context : ImportContext) (s t : ImportStore) : Prop where
  users : UsersStay context s.users t.users
  siteUsers : ∀ key, (s.siteUsers.find key).isSome → (t.siteUsers.find key).isSome

variable {user : ImportedUser}

theorem Stays.refl (s : ImportStore) : Stays context s s := ⟨.refl _, fun _ h => h⟩

/-- What has become of the badge and of the collections before the badge is saved. -/
inductive Assigned (context : ImportContext) (row : ImportedTag) (s : ImportStore)
    (unassigned : Tag) : Tag → ImportStore → Prop
  | nobody (noUser : importedUser row = none) :
      Assigned context row s unassigned unassigned s
  | user {userID : String} {t : ImportStore} (stays : Stays context s t)
      (rows : t.importedTags = s.importedTags)
      (tags : t.tags = clearDefaultUserTag s.tags (some userID))
      (isUser : IsUserOf context row t userID)
      (onSites : OnSitesOf context row t userID) :
      Assigned context row s unassigned
        { unassigned with userID := some userID, default := true } t

/-- The user of the row is refused, or he is stored and on his sites. -/
theorem processImportedUser_cases (sound : context.Sound)
    (named : importedUser row = some user) (s : ImportStore) :
    (∃ message, processImportedUser context user s = (.error message, s)) ∨
      ∃ stored t, processImportedUser context user s = (.ok stored, t) ∧ Stays context s t ∧
        t.importedTags = s.importedTags ∧ t.tags = s.tags ∧
        IsUserOf context row t stored.id ∧ OnSitesOf context row t stored.id := by
  unfold processImportedUser
  rcases saveImportedUser_cases sound user s with ⟨message, refused⟩ |
    ⟨stored, users, saved, later, address⟩
  · exact .inl ⟨message, Handler.bind_apply_error refused⟩
  · rw [Handler.bind_apply_ok saved]
    unfold processSiteAssignment
    by_cases active : context.organizationActive = true
    · rw [if_pos active]
      obtain ⟨siteUsers, eq, stay, assigned⟩ := assignSites_stays context stored.id
        (user.siteIDs.getD []) { s with users := users }
      refine .inr ⟨stored, _, Handler.bind_apply_ok eq, ⟨later, stay⟩, rfl, rfl,
        ⟨user, named, address⟩, fun other hother _ => ?_⟩
      obtain rfl := Option.some.inj (named.symm.trans hother)
      exact assigned
    · rw [if_neg active]
      exact .inr ⟨stored, { s with users := users }, rfl, ⟨later, fun _ h => h⟩, rfl, rfl,
        ⟨user, named, address⟩, fun _ _ h => absurd h active⟩

/-- The user of the row is refused, or the badge is his default badge. -/
theorem assignTag_cases (sound : context.Sound) (row : ImportedTag) (unassigned : Tag)
    (s : ImportStore) :
    (∃ message, assignTag context row unassigned s = (.error message, s)) ∨
      ∃ tag t, assignTag context row unassigned s = (.ok tag, t) ∧
        Assigned context row s unassigned tag t := by
  unfold assignTag
  rcases named : importedUser row with _ | user
  · exact .inr ⟨unassigned, s, rfl, .nobody named⟩
  · rcases processImportedUser_cases sound named s with ⟨message, refused⟩ |
      ⟨stored, t, eq, stays, rows, tags, isUser, onSites⟩
    · exact .inl ⟨message, Handler.bind_apply_error refused⟩
    · refine .inr ⟨_, _, Handler.bind_apply_ok eq,
        .user ⟨stays.users, stays.siteUsers⟩ rows ?_ isUser onSites⟩
      rw [← tags]

end ImportHelper

namespace TagStorage

/-- A badge is saved, unless another one has its visual ID. -/
theorem saveTag_cases (context : ImportContext) (tag : Tag) (visualID : Option String)
    (s : ImportStore) :
    let tagMDB := savedTag context s tag visualID
    (s.tags.Clashes Tag.visualID tagMDB ∧
        saveTag context tag visualID s = (.error (context.duplicateKey tagMDB.visualID), s)) ∨
      ¬ s.tags.Clashes Tag.visualID tagMDB ∧
        saveTag context tag visualID s = (.ok (), { s with tags := s.tags.save tagMDB }) := by
  unfold saveTag
  rw [Handler.read_bind_apply]
  by_cases clashes : s.tags.Clashes Tag.visualID (savedTag context s tag visualID)
  · refine .inl ⟨clashes, Handler.bind_apply_error ?_⟩
    rw [Handler.read_apply, if_pos clashes]
  · refine .inr ⟨clashes, (Handler.bind_apply_ok (a := ()) (t := s) ?_).trans rfl⟩
    rw [Handler.read_apply, if_neg clashes]

end TagStorage

namespace ImportHelper

variable {tags : Tags} {tag unassigned : Tag}

/-- A badge that no row may change. -/
def InUse (context : ImportContext) (tag : Tag) : Prop :=
  tag.issuer = false ∨ tag.userID.isSome ∨ tag.active = true ∨
    0 < context.transactionsCount tag.id

theorem updateTag_eq_ok (h : updateTag context tag row = .ok unassigned) :
    ¬ InUse context tag ∧ tag.id = row.id ∧ unassigned = { tag with
      active := row.autoActivateTagAtImport, description := row.description } := by
  unfold updateTag checkUpdateTag at h
  split_ifs at h with issuer user active used other
  · cases h
  · cases h
  · cases h
  · cases h
  · cases h
  · refine ⟨?_, not_not.mp other, (Except.ok.inj h).symm⟩
    rintro (h | h | h | h)
    · exact issuer h
    · exact user h
    · exact active h
    · exact used h

/-- The badge of a row before it is assigned has its properties, up to the visual ID. -/
structure Unassigned (row : ImportedTag) (unassigned : Tag) : Prop where
  id : unassigned.id = row.id
  issuer : unassigned.issuer = true
  userID : unassigned.userID = none
  active : unassigned.active = row.autoActivateTagAtImport
  description : unassigned.description = row.description

theorem unassigned_of_ok (h : unassignedTag context row tags = .ok unassigned) :
    Unassigned row unassigned := by
  unfold unassignedTag at h
  split at h
  · obtain ⟨notInUse, id, rfl⟩ := updateTag_eq_ok h
    simp only [InUse, not_or, Bool.not_eq_false, Option.not_isSome_iff_eq_none] at notInUse
    exact ⟨id, notInUse.1, notInUse.2.1, rfl, rfl⟩
  · obtain rfl := Except.ok.inj h
    exact ⟨rfl, rfl, rfl, rfl, rfl⟩

/-- The badge with the ID of the row is the one that is found. -/
theorem findTag_of_mem (mem : tag ∈ tags.docs) (same : tag.id = row.id) :
    findTag tags row = some tag := by
  have found : getTag tags row.id {} = some tag := by
    rw [getTag, ← same, Collection.find_of_mem mem]
    rfl
  rw [findTag, found]

/-- A row that goes for a badge in use is refused. -/
theorem not_ok_of_inUse (mem : tag ∈ tags.docs) (same : tag.id = row.id)
    (inUse : InUse context tag) : unassignedTag context row tags ≠ .ok unassigned := by
  intro h
  rw [unassignedTag, findTag_of_mem mem same] at h
  exact (updateTag_eq_ok h).1 inUse

/-- **What a row can do.**  It is refused and nothing is written; or its badge is assigned, and
is then saved or has the visual ID of another one. -/
theorem processImportedTag_cases (sound : context.Sound) (row : ImportedTag)
    (s : ImportStore) :
    (∃ message, processImportedTag context row s = (.error message, s)) ∨
      ∃ unassigned tag t, unassignedTag context row s.tags = .ok unassigned ∧
        Assigned context row s unassigned tag t ∧
        let tagMDB := TagStorage.savedTag context t tag row.visualID
        (t.tags.Clashes Tag.visualID tagMDB ∧ processImportedTag context row s =
            (.error (context.duplicateKey tagMDB.visualID), t)) ∨
          ¬ t.tags.Clashes Tag.visualID tagMDB ∧ processImportedTag context row s =
            (.ok (), { t with tags := t.tags.save tagMDB }) := by
  unfold processImportedTag
  rcases h : unassignedTag context row s.tags with message | unassigned
  · exact .inl ⟨message, Handler.bind_apply_error (by rw [Handler.read_apply, h])⟩
  rw [Handler.bind_apply_ok (a := unassigned) (t := s) (by rw [Handler.read_apply, h])]
  rcases assignTag_cases sound row unassigned s with ⟨message, refused⟩ |
    ⟨tag, t, eq, assigned⟩
  · exact .inl ⟨message, Handler.bind_apply_error refused⟩
  · rw [Handler.bind_apply_ok eq]
    exact .inr ⟨unassigned, tag, t, rfl, assigned,
      TagStorage.saveTag_cases context tag row.visualID t⟩

end ImportHelper

/-! ## One row -/

open ImportHelper

/-- What a badge has of the row that it comes from; the flag may go to another badge later. -/
structure Carries (context : ImportContext) (row : ImportedTag) (store : ImportStore)
    (tag : Tag) : Prop where
  id : tag.id = row.id
  issuer : tag.issuer = true
  active : tag.active = row.autoActivateTagAtImport
  description : tag.description = row.description
  visualID : ∀ visualID, row.visualID = some visualID → tag.visualID = visualID
  nobody : importedUser row = none → tag.userID = none
  user : importedUser row ≠ none → ∃ userID, tag.userID = some userID ∧
    IsUserOf context row store userID ∧ OnSitesOf context row store userID

/-- A badge stays, but may give its flag to another badge of its user. -/
def Gives (gaveWay : String → Prop) (tag tag' : Tag) : Prop :=
  tag' = tag ∨ tag' = { tag with default := false } ∧
    ∃ userID, tag.userID = some userID ∧ gaveWay userID

theorem Gives.eq {gaveWay : String → Prop} {tag tag' : Tag} (gives : Gives gaveWay tag tag') :
    tag' = { tag with default := tag'.default } := by
  rcases gives with rfl | ⟨rfl, -⟩ <;> rfl

theorem Gives.mono {gaveWay gaveWay' : String → Prop} {tag tag' : Tag}
    (gives : Gives gaveWay tag tag') (sub : ∀ userID, gaveWay userID → gaveWay' userID) :
    Gives gaveWay' tag tag' :=
  gives.imp_right fun ⟨eq, userID, owner, h⟩ => ⟨eq, userID, owner, sub userID h⟩

theorem Gives.trans {gaveWay : String → Prop} {tag tag' tag'' : Tag}
    (first : Gives gaveWay tag tag') (second : Gives gaveWay tag' tag'') :
    Gives gaveWay tag tag'' := by
  rcases first with rfl | ⟨rfl, owns⟩
  · exact second
  · rcases second with rfl | ⟨rfl, -⟩
    · exact .inr ⟨rfl, owns⟩
    · exact .inr ⟨rfl, owns⟩

theorem gives_clearDefault (userID : String) (tag : Tag) :
    Gives (· = userID) tag (clearDefault (some userID) tag) := by
  unfold clearDefault
  split
  · rename_i owns
    exact .inr ⟨rfl, userID, owns.1, rfl⟩
  · exact .inl rfl

/-- A user has one default badge at most. -/
def AtMostOneDefault (tags : Tags) : Prop :=
  ∀ userID, ∀ tag ∈ badgesOf userID tags, ∀ tag' ∈ badgesOf userID tags,
    tag.default = true → tag'.default = true → tag = tag'

/-- What a row leaves of the collections, whether it is imported or not. -/
structure Leaves (context : ImportContext) (row : ImportedTag) (s t : ImportStore) :
    Prop where
  stays : Stays context s t
  /-- The other badges, and those in use. -/
  tags : ∀ tag ∈ s.tags.docs, tag.id ≠ row.id ∨ InUse context tag →
    ∃ tag' ∈ t.tags.docs, Gives (IsUserOf context row t) tag tag'
  unique : s.tags.Unique Tag.visualID → t.tags.Unique Tag.visualID
  oneDefault : AtMostOneDefault s.tags → AtMostOneDefault t.tags

variable {context : ImportContext} {row : ImportedTag} {s t : ImportStore}
variable {unassigned tag : Tag}

theorem Leaves.refl (row : ImportedTag) (s : ImportStore) :
    Leaves context row s s :=
  ⟨.refl s, fun tag mem _ => ⟨tag, mem, .inl rfl⟩, id, id⟩

theorem visualID_clearDefault (user : Option String) (tag : Tag) :
    (clearDefault user tag).visualID = tag.visualID := by
  unfold clearDefault
  split <;> rfl

theorem AtMostOneDefault.clearDefaultUserTag {tags : Tags} (one : AtMostOneDefault tags)
    (userID : String) :
    AtMostOneDefault (clearDefaultUserTag tags (some userID)) := by
  intro other first hfirst second hsecond firstDefault secondDefault
  rcases eq_or_ne userID other with rfl | apart
  · rw [EvServer.TagStorage.default_of_mem_clearDefaultUserTag hfirst] at firstDefault
    cases firstDefault
  · rw [EvServer.TagStorage.badgesOf_clearDefaultUserTag_of_ne fun same =>
      apart (Option.some.inj same)] at hfirst hsecond
    exact one other first hfirst second hsecond firstDefault secondDefault

namespace ImportHelper.Assigned

theorem leaves (assigned : Assigned context row s unassigned tag t) :
    Stays context s t ∧ t.importedTags = s.importedTags ∧
      ∀ old ∈ s.tags.docs, ∃ tag' ∈ t.tags.docs, Gives (IsUserOf context row t) old tag' := by
  cases assigned with
  | nobody _ => exact ⟨.refl s, rfl, fun old mem => ⟨old, mem, .inl rfl⟩⟩
  | @user userID t stays rows tags isUser _ =>
      refine ⟨stays, rows, fun old mem => ⟨clearDefault (some userID) old, ?_,
        (gives_clearDefault userID old).mono ?_⟩⟩
      · rw [tags]
        exact Collection.mem_updateMany.mpr ⟨old, mem, rfl⟩
      · rintro _ rfl
        exact isUser

/-- The badge has what the row says, as soon as it has the visual ID. -/
theorem carries (assigned : Assigned context row s unassigned tag t)
    (fresh : Unassigned row unassigned) (tags : Tags) :
    Carries context row { t with tags := tags }
      (TagStorage.savedTag context t tag row.visualID) := by
  have visualID (tag : Tag) (visualID : String) (h : row.visualID = some visualID) :
      (TagStorage.savedTag context t tag row.visualID).visualID = visualID := by
    rw [TagStorage.savedTag, h, Option.getD_some]
  cases assigned with
  | nobody noUser =>
      exact ⟨fresh.id, fresh.issuer, fresh.active, fresh.description, visualID _,
        fun _ => fresh.userID, fun some => absurd noUser some⟩
  | @user userID _ _ _ _ isUser onSites =>
      refine ⟨fresh.id, fresh.issuer, fresh.active, fresh.description, visualID _, fun none => ?_,
        fun _ => ⟨userID, rfl, isUser, onSites⟩⟩
      obtain ⟨importedUser, named, -⟩ := isUser
      rw [none] at named
      cases named

theorem unique (assigned : Assigned context row s unassigned tag t)
    (unique : s.tags.Unique Tag.visualID) : t.tags.Unique Tag.visualID := by
  cases assigned with
  | nobody _ => exact unique
  | user _ _ tags _ _ =>
      rw [tags]
      exact unique.updateMany _ (visualID_clearDefault _)

theorem oneDefault (assigned : Assigned context row s unassigned tag t)
    (one : AtMostOneDefault s.tags) : AtMostOneDefault t.tags := by
  cases assigned with
  | nobody _ => exact one
  | user _ _ tags _ _ =>
      rw [tags]
      exact one.clearDefaultUserTag _

/-- The user of the badge has no default badge when it is saved. -/
theorem default_eq_false (assigned : Assigned context row s unassigned tag t)
    (fresh : Unassigned row unassigned) {userID : String} {other : Tag}
    (owner : tag.userID = some userID) (badge : other ∈ badgesOf userID t.tags) :
    other.default = false := by
  cases assigned with
  | nobody _ =>
      rw [fresh.userID] at owner
      cases owner
  | user _ _ tags _ _ =>
      obtain rfl := Option.some.inj owner
      rw [tags] at badge
      exact EvServer.TagStorage.default_of_mem_clearDefaultUserTag badge

theorem oneDefault_save (assigned : Assigned context row s unassigned tag t)
    (fresh : Unassigned row unassigned) (visualID : Option String)
    (one : AtMostOneDefault s.tags) :
    AtMostOneDefault (t.tags.save (TagStorage.savedTag context t tag visualID)) := by
  intro userID first hfirst second hsecond firstDefault secondDefault
  rcases EvServer.TagStorage.mem_badgesOf_saveTag.mp hfirst with ⟨rfl, badge⟩ | ⟨old, -⟩ <;>
    rcases EvServer.TagStorage.mem_badgesOf_saveTag.mp hsecond with ⟨rfl, badge'⟩ | ⟨old', -⟩
  · rfl
  · rw [assigned.default_eq_false fresh badge.2 old'] at secondDefault
    cases secondDefault
  · rw [assigned.default_eq_false fresh badge'.2 old] at firstDefault
    cases firstDefault
  · exact assigned.oneDefault one userID first old second old' firstDefault secondDefault

theorem id_eq (assigned : Assigned context row s unassigned tag t) :
    tag.id = unassigned.id := by
  cases assigned <;> rfl

end ImportHelper.Assigned

/-- **What a row leaves.**  It is imported and its badge carries it, or there is a message; the
other badges stay. -/
theorem processImportedTag_leaves (sound : context.Sound) (row : ImportedTag)
    (s : ImportStore) :
    ∃ t, t.importedTags = s.importedTags ∧ Leaves context row s t ∧
      ((∃ message, processImportedTag context row s = (.error message, t)) ∨
        processImportedTag context row s = (.ok (), t) ∧
          ∃ tag ∈ t.tags.docs, Carries context row t tag) := by
  rcases processImportedTag_cases sound row s with ⟨message, refused⟩ |
    ⟨unassigned, tag, t, checked, assigned, ⟨-, refused⟩ | ⟨free, saved⟩⟩
  · exact ⟨s, rfl, .refl row s, .inl ⟨message, refused⟩⟩
  · obtain ⟨stays, rows, given⟩ := assigned.leaves
    exact ⟨t, rows, ⟨stays, fun old mem _ => given old mem, assigned.unique, assigned.oneDefault⟩,
      .inl ⟨_, refused⟩⟩
  · obtain ⟨stays, rows, given⟩ := assigned.leaves
    have fresh := unassigned_of_ok checked
    set tagMDB := TagStorage.savedTag context t tag row.visualID with htagMDB
    have stored : tagMDB ∈ (t.tags.save tagMDB).docs := Collection.mem_save_iff.mpr (.inl rfl)
    refine ⟨{ t with tags := t.tags.save tagMDB }, rows, ⟨⟨stays.users, stays.siteUsers⟩, ?_,
        fun unique => (assigned.unique unique).save free, assigned.oneDefault_save fresh _⟩,
      .inr ⟨saved, tagMDB, stored, assigned.carries fresh _⟩⟩
    intro old mem kept
    have apart : old.id ≠ row.id := by
      rcases kept with apart | inUse
      · exact apart
      · exact fun same => not_ok_of_inUse mem same inUse checked
    obtain ⟨tag', mem', gives⟩ := given old mem
    refine ⟨tag', Collection.mem_save_iff.mpr (.inr ⟨mem', ?_⟩), gives⟩
    rw [gives.eq]
    show old.id ≠ tag.id
    rwa [assigned.id_eq, fresh.id]

/-! ## An import -/

/-- A string that is longer than any of the others. -/
def longerThan (used : List String) : String :=
  String.ofList (List.replicate ((used.map String.length).sum + 1) '0')

theorem longerThan_ne {used : List String} {id : String} (mem : id ∈ used) :
    id ≠ longerThan used := by
  intro same
  have shorter := List.le_sum_of_mem (List.mem_map_of_mem (f := String.length) mem)
  have length : id.length = (used.map String.length).sum + 1 := by
    rw [same, longerThan, String.length_ofList, List.length_replicate]
  omega

/-- The server of the example; the badge `U` is used in transactions. -/
def exampleImport : ImportContext where
  organizationActive := true
  existingSites := ["site"]
  transactionsCount id := if id = "U" then 3 else 0
  newObjectID store := longerThan (store.users.docs.map User.id ++ store.tags.docs.map Tag.visualID)
  toLowerCase email := if email = "X@y" then "x@y" else email
  duplicateKey value := "E11000 duplicate key: " ++ value
  generateUUID user := user.id
  generateToken email := email

theorem exampleImport_sound : exampleImport.Sound where
  newUserID _ _ mem := longerThan_ne (List.mem_append_left _ (List.mem_map_of_mem mem))
  newVisualID _ _ mem := longerThan_ne (List.mem_append_right _ (List.mem_map_of_mem mem))
  toLowerCase email := by
    by_cases upper : email = "X@y"
    · rw [upper]
      rfl
    · simp [exampleImport, upper]

/-- A row for the badge `C` with the visual ID of `D`. -/
def exampleRow : ImportedTag where
  id := "C"
  visualID := some "vd"
  name := some "N"
  firstName := some "F"
  email := some "x@y"

/-- The first two rows have the same visual ID, and the last one is for a badge in use. -/
def exampleRows : ImportStore where
  importedTags := Collection.empty.saveAll [
    { id := "A", visualID := some "va", name := some "N", firstName := some "F",
      email := some "X@y", siteIDs := some ["site", "elsewhere"] },
    { id := "B", visualID := some "va" },
    exampleRow, { id := "U" }]
  tags := Collection.empty.saveAll [
    { id := "C", visualID := "vc", active := false },
    { id := "D", visualID := "vd", active := true },
    { id := "U", visualID := "vu", active := false }]
  users := Collection.empty
  siteUsers := Collection.empty

/-! ## A row that fails after it has written -/

namespace ImportHelper

variable {tags : Tags}

/-- The badge with a visual ID is found. -/
theorem getTagByVisualID_of_mem (unique : tags.Unique Tag.visualID) (mem : tag ∈ tags.docs) :
    getTagByVisualID tags tag.visualID {} = some tag := by
  have passes : EvServer.TagStorage.GetTagsParams.passes { visualID := some tag.visualID } =
      fun other => decide (other.visualID = tag.visualID) := by
    funext other
    simp [EvServer.TagStorage.GetTagsParams.passes, eq_comm]
  rw [getTagByVisualID, EvServer.TagStorage.getTags, Collection.query, passes,
    unique.filter_eq mem]
  rfl

/-- When another badge has the visual ID of a row that is not refused for it, the row goes for
the badge with its own ID, or its visual ID is empty. -/
theorem exists_tag_of_clash (unique : tags.Unique Tag.visualID) {visualID : String}
    (named : row.visualID = some visualID) {other : Tag} (mem : other ∈ tags.docs)
    (apart : other.id ≠ row.id) (same : other.visualID = visualID)
    (checked : unassignedTag context row tags = .ok unassigned) :
    (∃ tag ∈ tags.docs, tag.id = row.id ∧ ¬ InUse context tag) ∨ visualID = "" := by
  rcases found : getTag tags row.id {} with _ | tag
  · refine .inr (by_contra fun nonempty => apart ?_)
    have byVisualID : findTag tags row = some other := by
      simp only [findTag, found, named, if_neg nonempty]
      rw [← same, getTagByVisualID_of_mem unique mem]
    rw [unassignedTag, byVisualID] at checked
    exact (updateTag_eq_ok checked).2.1
  · obtain ⟨stored, sameID, -⟩ := EvServer.TagStorage.mem_of_getTag found
    exact .inl ⟨tag, stored, sameID, fun inUse => not_ok_of_inUse stored sameID inUse checked⟩

/-- What a row leaves that has written something before it fails. -/
structure FailedLate (context : ImportContext) (row : ImportedTag) (message : String)
    (s t : ImportStore) : Prop where
  /-- Another badge has the visual ID, and the row has not been refused for it. -/
  clash : ∃ visualID, row.visualID = some visualID ∧
    message = context.duplicateKey visualID ∧
    (∃ other ∈ s.tags.docs, other.id ≠ row.id ∧ other.visualID = visualID) ∧
    ((∃ tag ∈ s.tags.docs, tag.id = row.id ∧ ¬ InUse context tag) ∨ visualID = "")
  /-- The user is saved, and none of his badges is the default one any more. -/
  user : ∃ userID, IsUserOf context row t userID ∧
    t.tags = clearDefaultUserTag s.tags (some userID)
  importedTags : t.importedTags = s.importedTags

/-- **A row that fails has written nothing**, unless the badge with its ID could be changed and
another badge has its visual ID: then its user has lost his default badge. -/
theorem processImportedTag_error (sound : context.Sound) (unique : s.tags.Unique Tag.visualID)
    {message : String} (refused : processImportedTag context row s = (.error message, t))
    (written : t ≠ s) : FailedLate context row message s t := by
  rcases processImportedTag_cases sound row s with ⟨message', eq⟩ |
    ⟨unassigned, tag, t', checked, assigned, ⟨clashes, eq⟩ | ⟨-, eq⟩⟩
  · rw [eq] at refused
    exact absurd (Prod.mk.inj refused).2.symm written
  · rw [eq, Prod.mk.injEq, Except.error.injEq] at refused
    obtain ⟨rfl, rfl⟩ := refused
    cases assigned with
    | nobody _ => exact absurd rfl written
    | @user userID _ _ rows tags isUser _ =>
        refine ⟨?_, ⟨userID, isUser, tags⟩, rows⟩
        obtain ⟨other, mem, apart, same⟩ := clashes
        rw [tags] at mem
        obtain ⟨old, stored, rfl⟩ := Collection.mem_updateMany.mp mem
        have apart' : old.id ≠ row.id := by
          rw [← EvServer.TagStorage.id_clearDefault (some userID) old,
            ← (unassigned_of_ok checked).id]
          exact apart
        rw [visualID_clearDefault] at same
        rcases named : row.visualID with _ | visualID
        · -- The visual ID is a new one.
          have new := sound.newVisualID t' (clearDefault (some userID) old) (by rwa [tags])
          rw [visualID_clearDefault, same, TagStorage.savedTag, named] at new
          exact absurd rfl new
        · rw [TagStorage.savedTag, named] at same
          exact ⟨visualID, rfl, rfl, ⟨old, stored, apart', same⟩,
            exists_tag_of_clash unique named stored apart' same checked⟩
  · rw [eq] at refused
    cases (Prod.mk.inj refused).1

/-- The badge `C` is there, and `D` has the visual ID. -/
theorem processImportedTag_error_exampleRow :
    FailedLate exampleImport exampleRow "E11000 duplicate key: vd" exampleRows
      (processImportedTag exampleImport exampleRow exampleRows).2 :=
  processImportedTag_error exampleImport_sound (by unfold Collection.Unique; decide)
    (Prod.ext (by decide +kernel) rfl) (by decide +kernel)

end ImportHelper

end EvServer.TagsImport
