import EvServer.Tags.RoamingTokens
import EvServer.Tags.TagChecks

/-!
# The badges that the platform takes for valid

A change of a badge pushes a token for that badge, and a synchronisation pushes one for every
local badge of a user.  The platform knows which badges can be used if every token says so
(`publishesValidity_append`); a token that is pushed for a change always says that the badge is
valid, and the synchronisation asks for the user instead of the badge.
-/

namespace EvServer

/-! ## What the platform knows -/

/-- The last token of a badge. -/
def lastPushed (pushed : List OCPIToken) (uid : String) : Option OCPIToken :=
  (pushed.filter (·.uid = uid)).getLast?

/-- The badge is stored, active and assigned. -/
def IsUsable (uid : String) (tags : Tags) : Prop :=
  ∃ tag ∈ tags.docs, tag.id = uid ∧ tag.active = true ∧ tag.userID.isSome

/-- **The platform takes a badge for valid** just when it can be used. -/
def TagStore.PublishesValidity (store : TagStore) : Prop :=
  ∀ uid token, lastPushed store.pushed uid = some token →
    (token.valid = true ↔ IsUsable uid store.tags)

theorem lastPushed_append (first second : List OCPIToken) (uid : String) :
    lastPushed (first ++ second) uid = (lastPushed second uid).or (lastPushed first uid) := by
  rw [lastPushed, List.filter_append, List.getLast?_append]
  rfl

theorem mem_of_lastPushed {pushed : List OCPIToken} {uid : String} {token : OCPIToken}
    (h : lastPushed pushed uid = some token) : token ∈ pushed ∧ token.uid = uid := by
  obtain ⟨mem, same⟩ := List.mem_filter.mp (List.mem_of_getLast? h)
  exact ⟨mem, of_decide_eq_true same⟩

theorem lastPushed_eq_none {pushed : List OCPIToken} {uid : String}
    (h : uid ∉ pushed.map OCPIToken.uid) : lastPushed pushed uid = none := by
  rw [lastPushed, List.getLast?_eq_none_iff, List.filter_eq_nil_iff]
  intro token mem same
  exact h (List.mem_map.mpr ⟨token, mem, of_decide_eq_true same⟩)

/-- One token for each badge is the last one. -/
theorem lastPushed_of_mem {pushed : List OCPIToken} {token : OCPIToken}
    (nodup : (pushed.map OCPIToken.uid).Nodup) (mem : token ∈ pushed) :
    lastPushed pushed token.uid = some token := by
  cases h : lastPushed pushed token.uid with
  | none =>
      rw [lastPushed, List.getLast?_eq_none_iff, List.filter_eq_nil_iff] at h
      exact absurd (decide_eq_true rfl) (h token mem)
  | some last =>
      obtain ⟨hlast, same⟩ := mem_of_lastPushed h
      rw [List.inj_on_of_nodup_map nodup hlast mem same]

/-- **Tokens are pushed**, one for every badge that may have changed. -/
theorem publishesValidity_append {store : TagStore} {tags : Tags} {tokens : List OCPIToken}
    (publishes : store.PublishesValidity) (nodup : (tokens.map OCPIToken.uid).Nodup)
    (others : ∀ uid ∉ tokens.map OCPIToken.uid, IsUsable uid tags ↔ IsUsable uid store.tags) :
    { store with tags := tags, pushed := store.pushed ++ tokens }.PublishesValidity ↔
      ∀ token ∈ tokens, (token.valid = true ↔ IsUsable token.uid tags) := by
  constructor
  · intro publishes' token mem
    refine publishes' token.uid token ?_
    show lastPushed (store.pushed ++ tokens) token.uid = some token
    rw [lastPushed_append, lastPushed_of_mem nodup mem]
    rfl
  · intro valid uid token h
    change lastPushed (store.pushed ++ tokens) uid = some token at h
    rw [lastPushed_append] at h
    by_cases mem : uid ∈ tokens.map OCPIToken.uid
    · obtain ⟨pushed, hpushed, rfl⟩ := List.mem_map.mp mem
      rw [lastPushed_of_mem nodup hpushed, Option.some_or] at h
      obtain rfl := Option.some.inj h
      exact valid pushed hpushed
    · rw [lastPushed_eq_none mem, Option.none_or] at h
      exact (publishes uid token h).trans (others uid mem).symm

/-! ## Badges that can be used -/

namespace TagStorage

variable {tags : Tags} {tag : Tag} {uid : String}

theorem isUsable_saveTag : IsUsable uid (saveTag tags tag) ↔
    tag.id = uid ∧ tag.active = true ∧ tag.userID.isSome ∨ tag.id ≠ uid ∧ IsUsable uid tags := by
  constructor
  · rintro ⟨stored, mem, same, usable⟩
    rcases Collection.mem_save_iff.mp mem with rfl | ⟨old, other⟩
    · exact .inl ⟨same, usable⟩
    · exact .inr ⟨fun same' => other (same.trans same'.symm), stored, old, same, usable⟩
  · rintro (⟨same, usable⟩ | ⟨other, stored, mem, same, usable⟩)
    · exact ⟨tag, Collection.mem_save_iff.mpr (.inl rfl), same, usable⟩
    · refine ⟨stored, Collection.mem_save_iff.mpr (.inr ⟨mem, fun same' => ?_⟩), same, usable⟩
      exact other (same'.symm.trans same)

theorem isUsable_deleteTag {tagID : String} :
    IsUsable uid (deleteTag tags tagID) ↔ tagID ≠ uid ∧ IsUsable uid tags := by
  constructor
  · rintro ⟨stored, mem, same, usable⟩
    obtain ⟨old, other⟩ := Collection.mem_delete.mp mem
    exact ⟨fun same' => other (same.trans same'.symm), stored, old, same, usable⟩
  · rintro ⟨other, stored, mem, same, usable⟩
    refine ⟨stored, Collection.mem_delete.mpr ⟨mem, fun same' => ?_⟩, same, usable⟩
    exact other (same'.symm.trans same)

/-- Whether a badge can be used has nothing to do with the default badge. -/
theorem ignoresDefault_isUsable (uid : String) :
    IgnoresDefault fun tag => tag.id = uid ∧ tag.active = true ∧ tag.userID.isSome :=
  fun _ _ => Iff.rfl

theorem isUsable_clearDefaultUserTag (user : Option String) :
    IsUsable uid (clearDefaultUserTag tags user) ↔ IsUsable uid tags :=
  exists_clearDefaultUserTag (ignoresDefault_isUsable uid) user

end TagStorage

namespace TagService

open TagStorage

variable {context : TagContext} {store store' : TagStore} {tags : Tags} {tag : Tag} {uid : String}

theorem isUsable_setDefaultTagForUser (user : Option String) :
    IsUsable uid (setDefaultTagForUser tags user) ↔ IsUsable uid tags :=
  exists_setDefaultTagForUser (ignoresDefault_isUsable uid) user

theorem isUsable_chooseDefault (userID : String) (asked : Bool) :
    IsUsable uid (chooseDefault tags userID asked).1 ↔ IsUsable uid tags := by
  unfold chooseDefault
  split
  · exact isUsable_clearDefaultUserTag (some userID)
  · exact Iff.rfl

theorem isUsable_chooseRequestDefault (user : Option String) (asked otherwise : Bool) :
    IsUsable uid (chooseRequestDefault tags user asked otherwise).1 ↔ IsUsable uid tags := by
  cases user with
  | none => exact Iff.rfl
  | some userID => exact isUsable_chooseDefault userID asked

theorem isUsable_clearForUpdateByVisualID (filteredRequest : HttpTagVisualIDRequest) (tag : Tag) :
    IsUsable uid (clearForUpdateByVisualID tags filteredRequest tag) ↔ IsUsable uid tags := by
  unfold clearForUpdateByVisualID
  split
  · exact isUsable_clearDefaultUserTag filteredRequest.userID
  · exact Iff.rfl

/-! ## One token -/

/-- A token is pushed for the one badge that has changed. -/
theorem publishesValidity_pushToken {token : OCPIToken} (publishes : store.PublishesValidity)
    (pushes : context.pushes = true)
    (others : ∀ uid, token.uid ≠ uid → (IsUsable uid tags ↔ IsUsable uid store.tags)) :
    (pushToken context token { store with tags := tags }).PublishesValidity ↔
      (token.valid = true ↔ IsUsable token.uid tags) := by
  rw [pushToken, if_pos pushes]
  have nodup : ([token].map OCPIToken.uid).Nodup := List.nodup_singleton _
  refine (publishesValidity_append publishes nodup fun uid new => others uid fun same => new ?_).trans
    List.forall_mem_singleton
  exact List.mem_singleton.mpr same.symm

/-- The token of a badge that is saved says that it is valid. -/
theorem publishesValidity_updateTagOCPI (publishes : store.PublishesValidity)
    (pushes : context.pushes = true)
    (saved : ∀ uid, IsUsable uid tags ↔ IsUsable uid (saveTag store.tags tag)) :
    (updateTagOCPI context tag { store with tags := tags }).PublishesValidity ↔
      tag.active = true ∧ tag.userID.isSome := by
  refine (publishesValidity_pushToken publishes pushes fun uid other => ?_).trans ?_
  · rw [saved, isUsable_saveTag]
    exact ⟨fun h => h.elim (fun same => absurd same.1 other) And.right, fun h => .inr ⟨other, h⟩⟩
  · rw [saved, isUsable_saveTag]
    show (true = true ↔ tag.id = tag.id ∧ _ ∨ tag.id ≠ tag.id ∧ _) ↔ _
    simp

/-- The token of a badge that nobody can use any longer says so. -/
theorem publishesValidity_checkAndDeleteTagOCPI (publishes : store.PublishesValidity)
    (pushes : context.pushes = true) (unusable : ¬ IsUsable tag.id tags)
    (others : ∀ uid, tag.id ≠ uid → (IsUsable uid tags ↔ IsUsable uid store.tags)) :
    { checkAndDeleteTagOCPI context tag store with tags := tags }.PublishesValidity := by
  have pushed : { checkAndDeleteTagOCPI context tag store with tags := tags } =
      pushToken context (tokenOf context tag false) { store with tags := tags } := by
    rw [checkAndDeleteTagOCPI, pushToken, pushToken, if_pos pushes, if_pos pushes]
  rw [pushed, publishesValidity_pushToken publishes pushes others]
  exact iff_of_false Bool.false_ne_true unusable

/-! ## One operation -/

theorem publishesValidity_handleCreateTag {filteredRequest : HttpTagRequest} {active : Bool}
    (publishes : store.PublishesValidity) (pushes : context.pushes = true)
    (hcheck : checkCreateTag context store filteredRequest = .ok active)
    (h : handleCreateTag context filteredRequest store = .ok store') :
    store'.PublishesValidity ↔ active = true ∧ filteredRequest.userID.isSome := by
  obtain rfl := Outcome.eq_of_bind_pure hcheck h
  refine publishesValidity_updateTagOCPI publishes pushes fun uid => ?_
  rw [isUsable_saveTag, isUsable_saveTag, isUsable_chooseRequestDefault]

/-- A badge that is assigned is active. -/
theorem publishesValidity_handleAssignTag {filteredRequest : HttpTagAssignRequest}
    (publishes : store.PublishesValidity) (pushes : context.pushes = true)
    (h : handleAssignTag context filteredRequest store = .ok store') :
    store'.PublishesValidity := by
  obtain ⟨tag, hcheck, h⟩ := Outcome.bind_eq_ok.mp h
  obtain rfl := Outcome.pure_eq_ok_iff.mp h
  obtain ⟨-, -, active, -⟩ := mem_of_checkAssignTag hcheck
  refine (publishesValidity_updateTagOCPI publishes pushes fun uid => ?_).mpr ⟨active, rfl⟩
  rw [isUsable_saveTag, isUsable_saveTag, isUsable_chooseDefault]

theorem publishesValidity_handleUpdateTag {filteredRequest : HttpTagRequest}
    {checked : Bool × Tag} (publishes : store.PublishesValidity) (pushes : context.pushes = true)
    (hcheck : checkUpdateTag context store filteredRequest = .ok checked)
    (h : handleUpdateTag context filteredRequest store = .ok store') :
    store'.PublishesValidity ↔ checked.1 = true ∧ filteredRequest.userID.isSome := by
  obtain rfl := Outcome.eq_of_bind_pure hcheck h
  refine publishesValidity_updateTagOCPI publishes pushes fun uid => ?_
  split
  · rw [isUsable_setDefaultTagForUser, isUsable_saveTag, isUsable_saveTag,
      isUsable_chooseRequestDefault]
  · rw [isUsable_saveTag, isUsable_saveTag, isUsable_chooseRequestDefault]

/-- A user updates a badge of his own. -/
theorem publishesValidity_handleUpdateTagByVisualID {filteredRequest : HttpTagVisualIDRequest}
    (publishes : store.PublishesValidity) (pushes : context.pushes = true)
    (hcheck : checkUpdateTagByVisualID context store filteredRequest = .ok tag)
    (h : handleUpdateTagByVisualID context filteredRequest store = .ok store') :
    store'.PublishesValidity ↔ tag.active = true := by
  obtain rfl := Outcome.eq_of_bind_pure hcheck h
  obtain ⟨-, owner, -⟩ := UtilsService.mem_of_checkAndGetOwnTagAuthorization hcheck
  have assigned : tag.userID.isSome := owner ▸ rfl
  refine (publishesValidity_updateTagOCPI publishes pushes fun uid => ?_).trans
    (and_iff_left assigned)
  rw [isUsable_saveTag, isUsable_saveTag, isUsable_clearForUpdateByVisualID]

theorem publishesValidity_deleteTag {tagID : String} (publishes : store.PublishesValidity)
    (pushes : context.pushes = true) (h : deleteTag context tagID store = .ok store') :
    store'.PublishesValidity := by
  obtain ⟨tag, -, h⟩ := Outcome.bind_eq_ok.mp h
  obtain rfl := Outcome.pure_eq_ok_iff.mp h
  have usable (uid : String) : IsUsable uid
      (if tag.default then
        setDefaultTagForUser
          (TagStorage.deleteTag (checkAndDeleteTagOCPI context tag store).tags tag.id) tag.userID
      else TagStorage.deleteTag (checkAndDeleteTagOCPI context tag store).tags tag.id) ↔
        tag.id ≠ uid ∧ IsUsable uid store.tags := by
    rw [tags_checkAndDeleteTagOCPI]
    split
    · rw [isUsable_setDefaultTagForUser, isUsable_deleteTag]
    · exact isUsable_deleteTag
  refine publishesValidity_checkAndDeleteTagOCPI publishes pushes ?_ fun uid other => ?_
  · exact fun deleted => ((usable tag.id).mp deleted).1 rfl
  · exact (usable uid).trans (and_iff_right other)

theorem publishesValidity_unassignTag {visualID : String} (publishes : store.PublishesValidity)
    (pushes : context.pushes = true) (h : unassignTag context visualID store = .ok store') :
    store'.PublishesValidity := by
  obtain ⟨tag, -, h⟩ := Outcome.bind_eq_ok.mp h
  obtain rfl := Outcome.pure_eq_ok_iff.mp h
  have saved (uid : String) : IsUsable uid
      (saveTag store.tags { tag with userID := none, active := false }) ↔
        tag.id ≠ uid ∧ IsUsable uid store.tags := by
    rw [isUsable_saveTag]
    exact or_iff_right fun inactive => Bool.false_ne_true inactive.2.1
  have usable (uid : String) : IsUsable uid
      (if tag.default then
        setDefaultTagForUser (saveTag (checkAndDeleteTagOCPI context tag store).tags
          { tag with userID := none, active := false }) tag.userID
      else saveTag (checkAndDeleteTagOCPI context tag store).tags
          { tag with userID := none, active := false }) ↔
        tag.id ≠ uid ∧ IsUsable uid store.tags := by
    rw [tags_checkAndDeleteTagOCPI]
    split
    · rw [isUsable_setDefaultTagForUser, saved]
    · exact saved uid
  refine publishesValidity_checkAndDeleteTagOCPI publishes pushes ?_ fun uid other => ?_
  · exact fun unassigned => ((usable tag.id).mp unassigned).1 rfl
  · exact (usable uid).trans (and_iff_right other)

end TagService

/-! ## Synchronisation -/

/-- A badge has a token just when it is a local badge of a user. -/
theorem EmspOCPIClient.mem_allTokens {context : TagContext} {store : TagStore}
    {token : OCPIToken} : token ∈ allTokens context store ↔
      ∃ tag ∈ store.tags.docs, (tag.issuer = true ∧ tag.userID.isSome) ∧
        OCPIUtilsService.tokenOf context store tag = token := by
  rw [allTokens, List.mem_map]
  refine exists_congr fun tag => ?_
  rw [TagStorage.mem_getTags, and_assoc]
  refine and_congr_right fun _ => and_congr_left fun _ => ?_
  simp [TagStorage.GetTagsParams.passes, OCPIUtilsService.localUserTags]

theorem publishesValidity_pushTokens_iff {context : TagContext} {store : TagStore}
    (publishes : store.PublishesValidity) (pushes : context.pushes = true) :
    (EmspOCPIClient.pushTokens context store).2.PublishesValidity ↔
      ∀ tag ∈ store.tags.docs, tag.issuer = true → ∀ userID, tag.userID = some userID →
        (userID ∈ store.users ↔ tag.active = true) := by
  have nodup : ((EmspOCPIClient.allTokens context store).map OCPIToken.uid).Nodup := by
    rw [EmspOCPIClient.allTokens, List.map_map]
    exact Collection.nodup_query store.tags _ _
  rw [EmspOCPIClient.pushTokens_eq pushes]
  refine (publishesValidity_append publishes nodup fun _ _ => Iff.rfl).trans ?_
  have usable (tag : Tag) (mem : tag ∈ store.tags.docs) (userID : String)
      (owner : tag.userID = some userID) :
      ((OCPIUtilsService.tokenOf context store tag).valid = true ↔ IsUsable tag.id store.tags) ↔
        (userID ∈ store.users ↔ tag.active = true) := by
    refine iff_congr ?_ ?_
    · simp [OCPIUtilsService.tokenOf, owner]
    · constructor
      · rintro ⟨stored, hstored, same, active, -⟩
        obtain rfl := Collection.eq_of_key_eq hstored mem same
        exact active
      · exact fun active => ⟨tag, mem, rfl, active, owner ▸ rfl⟩
  constructor
  · intro valid tag mem issuer userID owner
    refine (usable tag mem userID owner).mp (valid _ ?_)
    exact EmspOCPIClient.mem_allTokens.mpr ⟨tag, mem, ⟨issuer, owner ▸ rfl⟩, rfl⟩
  · intro known token htoken
    obtain ⟨tag, mem, ⟨issuer, assigned⟩, rfl⟩ := EmspOCPIClient.mem_allTokens.mp htoken
    obtain ⟨userID, owner⟩ := Option.isSome_iff_exists.mp assigned
    exact (usable tag mem userID owner).mpr (known tag mem issuer userID owner)

/-! ## Runs of operations and synchronisations -/

/-- A request about badges, or a synchronisation of all the tokens. -/
inductive TokenOperation
  | change (operation : TagOperation)
  | pushTokens (context : TagContext)

namespace TokenOperation

/-- The answers that the operation gets. -/
def context : TokenOperation → TagContext
  | change operation => operation.context
  | pushTokens context => context

/-- What an operation leaves. -/
def run (store : TagStore) : TokenOperation → TagStore
  | change operation => operation.run store
  | pushTokens context => (EmspOCPIClient.pushTokens context store).2

end TokenOperation

namespace TagStore

open TagService

/-- An operation whose pushes all succeed. -/
def Pushes (store : TagStore) (operation : TokenOperation) (store' : TagStore) : Prop :=
  operation.context.pushes = true ∧ store' = operation.run store

/-- A badge that is created or updated can be used afterwards, and when the badges are
synchronised those of known users are the active ones. -/
def PublishesUsable (store : TagStore) : TokenOperation → Prop
  | .change (.create context filteredRequest) => ∀ active,
      checkCreateTag context store filteredRequest = .ok active →
        active = true ∧ filteredRequest.userID.isSome
  | .change (.update context filteredRequest) => ∀ checked,
      checkUpdateTag context store filteredRequest = .ok checked →
        checked.1 = true ∧ filteredRequest.userID.isSome
  | .change (.updateByVisualID context filteredRequest) => ∀ tag,
      checkUpdateTagByVisualID context store filteredRequest = .ok tag → tag.active = true
  | .change _ => True
  | .pushTokens _ => ∀ tag ∈ store.tags.docs, tag.issuer = true → ∀ userID,
      tag.userID = some userID → (userID ∈ store.users ↔ tag.active = true)

variable {store store' : TagStore} {operations : List TokenOperation} {operation : TokenOperation}

/-- **What one operation preserves.** -/
theorem publishesValidity_iff_of_pushes (publishes : store.PublishesValidity)
    (pushes : store.Pushes operation store') :
    store'.PublishesValidity ↔ store.PublishesUsable operation := by
  obtain ⟨pushes, rfl⟩ := pushes
  cases operation with
  | pushTokens context => exact publishesValidity_pushTokens_iff publishes pushes
  | change operation =>
      cases operation with
      | create context filteredRequest =>
          exact TagOperation.iff_of_check publishes ⟨_, rfl⟩ fun _ _ hcheck h =>
            publishesValidity_handleCreateTag publishes pushes hcheck h
      | assign context filteredRequest =>
          refine (TagOperation.iff_of_check publishes ⟨_, rfl⟩ fun _ _ _ h => ?_).trans
            (iff_of_true (fun _ _ => trivial) trivial)
          exact iff_true_intro (publishesValidity_handleAssignTag publishes pushes h)
      | update context filteredRequest =>
          exact TagOperation.iff_of_check publishes ⟨_, rfl⟩ fun _ _ hcheck h =>
            publishesValidity_handleUpdateTag publishes pushes hcheck h
      | updateByVisualID context filteredRequest =>
          exact TagOperation.iff_of_check publishes ⟨_, rfl⟩ fun _ _ hcheck h =>
            publishesValidity_handleUpdateTagByVisualID publishes pushes hcheck h
      | unassign context visualIDs =>
          exact iff_of_true (forEachTag_invariant (fun _ _ _ _ publishes h =>
            publishesValidity_unassignTag publishes pushes h) publishes) trivial
      | delete context tagsIDs =>
          exact iff_of_true (forEachTag_invariant (fun _ _ _ _ publishes h =>
            publishesValidity_deleteTag publishes pushes h) publishes) trivial

/-- **The platform knows the badges that can be used** after every run of operations and
synchronisations that meet the condition; and after the next one it does so just when that one
meets it, too. -/
theorem publishesValidity_iff_of_run (publishes : store.PublishesValidity)
    (run : Transition.Run (Transition.guarded PublishesUsable Pushes) store operations store') :
    store'.PublishesValidity ∧ ∀ operation next, store'.Pushes operation next →
      (next.PublishesValidity ↔ store'.PublishesUsable operation) := by
  have publishes' : store'.PublishesValidity :=
    run.invariant publishes fun _ _ _ publishes step =>
      (publishesValidity_iff_of_pushes publishes step.2).mpr step.1
  exact ⟨publishes', fun _ _ pushes => publishesValidity_iff_of_pushes publishes' pushes⟩

/-- A tenant without badges. -/
def withoutTags (users : List String) : TagStore := { tags := .empty, users := users }

/-- Nothing has been pushed yet. -/
theorem publishesValidity_of_nothing_pushed (nothing : store.pushed = []) :
    store.PublishesValidity := by
  intro uid token h
  rw [nothing] at h
  cases h

/-- A user who manages his own badges. -/
def cardholder : TagContext := { loggedUserID := "cardholder", toUpperCase := id }

/-- An active badge is created for him. -/
def createActive : TokenOperation :=
  .change (.create cardholder
    { id := "A", visualID := "VA", active := some true, userID := some "cardholder" })

/-- All the badges are synchronised. -/
def pushAll : TokenOperation := .pushTokens cardholder

/-- The badge is unassigned. -/
def unassign : TokenOperation := .change (.unassign cardholder ["VA"])

/-- The badge is deactivated. -/
def deactivate : TokenOperation :=
  .change (.update cardholder
    { id := "A", visualID := "VA", active := some false, userID := some "cardholder" })

/-- The badge has been synchronised, and is unassigned. -/
def unassigned : TagStore :=
  [createActive, pushAll, unassign].foldl TokenOperation.run (withoutTags ["cardholder"])

theorem publishesValidity_iff_of_run_unassigned :
    (lastPushed unassigned.pushed "A").map OCPIToken.valid = some false ∧
      unassigned.PublishesValidity := by
  have checks : checkCreateTag cardholder (withoutTags ["cardholder"])
      { id := "A", visualID := "VA", active := some true, userID := some "cardholder" } =
        .ok true := by rfl
  have owned : ∀ tag ∈ (createActive.run (withoutTags ["cardholder"])).tags.docs,
      tag.userID = some "cardholder" ∧ tag.active = true := by decide +kernel
  have first : Transition.Run (Transition.guarded PublishesUsable Pushes)
      (withoutTags ["cardholder"]) [createActive] _ :=
    .single ⟨fun active checked => ⟨Except.ok.inj (checked.symm.trans checks), rfl⟩, rfl, rfl⟩
  have synchronised : PublishesUsable (createActive.run (withoutTags ["cardholder"])) pushAll := by
    intro tag mem _ userID owner
    obtain ⟨own, active⟩ := owned tag mem
    rw [own] at owner
    obtain rfl := Option.some.inj owner
    exact iff_of_true (List.mem_singleton_self _) active
  have second := first.snoc (a := pushAll) ⟨synchronised, rfl, rfl⟩
  have last := second.snoc (a := unassign) ⟨trivial, rfl, rfl⟩
  exact ⟨by decide +kernel,
    (publishesValidity_iff_of_run (publishesValidity_of_nothing_pushed rfl) last).1⟩

/-- **The platform takes a badge for valid** that has been deactivated. -/
theorem publishes_deactivated : ∃ operations store',
    Transition.Run Pushes (withoutTags ["cardholder"]) operations store' ∧
      (lastPushed store'.pushed "A").map OCPIToken.valid = some true ∧
        ∀ tag ∈ store'.tags.docs, tag.active = false := by
  have first : Transition.Run Pushes (withoutTags ["cardholder"]) [createActive] _ :=
    .single ⟨rfl, rfl⟩
  have second := first.snoc (a := deactivate) ⟨rfl, rfl⟩
  exact ⟨_, _, second, by decide +kernel, by decide +kernel⟩

end TagStore

end EvServer
