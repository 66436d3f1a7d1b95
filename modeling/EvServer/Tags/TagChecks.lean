import EvServer.Tags.TagService

/-!
# The badge that a request is about

A request that passes its checks is about a badge that is stored; which badge that can be is
decided by the filters it is looked up with.  To push a token changes no badge.
-/

namespace EvServer

namespace UtilsService

variable {context : TagContext} {store : TagStore} {tag : Tag}

/-- The badge that has been checked is the one that was found. -/
theorem found_of_check {asserts : Bool} {id : String} {found : Option Tag}
    (h : checkAndGetTagByXXXAuthorization context asserts id found = .ok tag) :
    found = some tag ∧ asserts = true := by
  unfold checkAndGetTagByXXXAuthorization at h
  split at h
  · cases h
  · split at h
    · cases h
    · rename_i granted
      cases found with
      | none => cases h
      | some other =>
          dsimp only at h
          split at h
          · cases h
          · cases h
            exact ⟨rfl, Bool.eq_true_of_not_eq_false fun refused => granted (.inr refused)⟩

/-- A badge to update or to delete is a local one. -/
theorem mem_of_checkAndGetTagAuthorization {tagID : String}
    (h : checkAndGetTagAuthorization context store tagID = .ok tag) :
    tag ∈ store.tags.docs ∧ tag.issuer = true := by
  obtain ⟨mem, -, passes⟩ := TagStorage.mem_of_getTag (found_of_check h).1
  exact ⟨mem, TagStorage.GetTagsParams.issuer_eq passes rfl⟩

/-- A badge to assign is a local one, too. -/
theorem mem_of_checkAndGetTagToAssignAuthorization {visualID : String}
    (h : checkAndGetTagToAssignAuthorization context store visualID = .ok tag) :
    tag ∈ store.tags.docs ∧ tag.issuer = true := by
  obtain ⟨mem, passes⟩ := TagStorage.mem_of_getTagByVisualID (found_of_check h).1
  exact ⟨mem, TagStorage.GetTagsParams.issuer_eq passes rfl⟩

/-- The badge of the user who is logged in. -/
theorem mem_of_checkAndGetOwnTagAuthorization {asserts : Bool} {visualID : String}
    (h : checkAndGetOwnTagAuthorization context store asserts visualID = .ok tag) :
    tag ∈ store.tags.docs ∧ tag.userID = some context.loggedUserID ∧ tag.visualID = visualID := by
  obtain ⟨mem, passes⟩ := TagStorage.mem_of_getTagByVisualID (found_of_check h).1
  exact ⟨mem, TagStorage.GetTagsParams.userID_eq passes rfl,
    TagStorage.GetTagsParams.visualID_eq passes rfl⟩

end UtilsService

namespace TagService

open TagStorage

variable {context : TagContext} {store : TagStore} {tag : Tag}

/-- No badge has the `_id` of one that is created. -/
theorem not_stored_of_checkCreateTag {filteredRequest : HttpTagRequest} {active : Bool}
    (h : checkCreateTag context store filteredRequest = .ok active) :
    ∀ stored ∈ store.tags.docs, stored.id ≠ context.toUpperCase filteredRequest.id := by
  obtain ⟨_, -, h⟩ := Outcome.bind_eq_ok.mp h
  split at h
  · cases h
  · split at h
    · cases h
    · rename_i notFound
      refine Collection.not_mem_keys_of_find ?_
      unfold getTag at notFound
      cases found : store.tags.find (context.toUpperCase filteredRequest.id) with
      | none => rfl
      | some stored =>
          rw [found] at notFound
          exact absurd rfl notFound

/-- A badge that is assigned is active, and no user of the tenant owns it. -/
theorem mem_of_checkAssignTag {filteredRequest : HttpTagAssignRequest}
    (h : checkAssignTag context store filteredRequest = .ok tag) :
    tag ∈ store.tags.docs ∧ tag.issuer = true ∧ tag.active = true ∧
      ∀ userID ∈ store.users, tag.userID ≠ some userID := by
  obtain ⟨found, hfound, h⟩ := Outcome.bind_eq_ok.mp h
  obtain ⟨mem, issuer⟩ := UtilsService.mem_of_checkAndGetTagToAssignAuthorization hfound
  split at h
  · cases h
  · rename_i active
    split at h
    · cases h
    · rename_i free
      obtain ⟨_, -, h⟩ := Outcome.bind_eq_ok.mp h
      obtain rfl := Outcome.pure_eq_ok_iff.mp h
      refine ⟨mem, issuer, Bool.eq_true_of_not_eq_false active, fun userID known owner => free ?_⟩
      rw [owner]
      simpa using known

/-- The badge that an update has checked, and the flags that the request sets. -/
theorem mem_of_checkUpdateTag {filteredRequest : HttpTagRequest} {checked : Bool × Tag}
    (h : checkUpdateTag context store filteredRequest = .ok checked) :
    checked.2 ∈ store.tags.docs ∧ checked.2.issuer = true := by
  obtain ⟨active, -, h⟩ := Outcome.bind_eq_ok.mp h
  obtain ⟨tag, found, h⟩ := Outcome.bind_eq_ok.mp h
  obtain ⟨_, -, h⟩ := Outcome.bind_eq_ok.mp h
  split at h
  · cases h
  · obtain rfl := Outcome.pure_eq_ok_iff.mp h
    exact UtilsService.mem_of_checkAndGetTagAuthorization found

/-! ## Tokens change no badge -/

@[simp] theorem tags_pushToken (context : TagContext) (token : OCPIToken) (store : TagStore) :
    (pushToken context token store).tags = store.tags := by
  unfold pushToken
  split <;> rfl

@[simp] theorem users_pushToken (context : TagContext) (token : OCPIToken) (store : TagStore) :
    (pushToken context token store).users = store.users := by
  unfold pushToken
  split <;> rfl

@[simp] theorem tags_updateTagOCPI (context : TagContext) (tag : Tag) (store : TagStore) :
    (updateTagOCPI context tag store).tags = store.tags := tags_pushToken _ _ _

@[simp] theorem users_updateTagOCPI (context : TagContext) (tag : Tag) (store : TagStore) :
    (updateTagOCPI context tag store).users = store.users := users_pushToken _ _ _

@[simp] theorem tags_checkAndDeleteTagOCPI (context : TagContext) (tag : Tag) (store : TagStore) :
    (checkAndDeleteTagOCPI context tag store).tags = store.tags := tags_pushToken _ _ _

@[simp] theorem users_checkAndDeleteTagOCPI (context : TagContext) (tag : Tag) (store : TagStore) :
    (checkAndDeleteTagOCPI context tag store).users = store.users := users_pushToken _ _ _

end TagService

/-- **An operation that is refused** leaves everything as it is; what one that is accepted leaves
depends on what has been checked. -/
theorem TagOperation.iff_of_check {α : Type} {I : TagStore → Prop} {keeps : α → Prop}
    {check : Except String α} {result : Except String TagStore} {store : TagStore} (init : I store)
    (bind : ∃ next : α → TagStore, result = check >>= fun checked => .ok (next checked))
    (accepted : ∀ checked store', check = .ok checked → result = .ok store' →
      (I store' ↔ keeps checked)) :
    I (result.toOption.getD store) ↔ ∀ checked, check = .ok checked → keeps checked := by
  obtain ⟨next, rfl⟩ := bind
  cases check with
  | error message =>
      refine iff_of_true init fun checked h => ?_
      cases h
  | ok checked =>
      refine (accepted checked (next checked) rfl rfl).trans
        ⟨fun holds other same => ?_, fun holds => holds checked rfl⟩
      obtain rfl := Except.ok.inj same
      exact holds

end EvServer
