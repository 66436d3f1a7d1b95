import EvServer.Tags.DefaultTags
import EvServer.Tags.TagChecks

/-!
# Operations keep one default badge

A run of operations keeps one default badge for every user as long as no update takes the flag
from his default badge (`oneDefault_iff_of_run`).
-/

namespace EvServer

namespace TagService

open TagStorage

variable {context : TagContext} {store store' : TagStore} {tag : Tag} {userID : String}

/-! ## One operation -/

theorem oneDefault_handleCreateTag {filteredRequest : HttpTagRequest} (one : store.OneDefault)
    (h : handleCreateTag context filteredRequest store = .ok store') : store'.OneDefault := by
  obtain ⟨active, hcheck, h⟩ := Outcome.bind_eq_ok.mp h
  obtain rfl := Outcome.pure_eq_ok_iff.mp h
  intro userID mem
  rw [users_updateTagOCPI] at mem
  rw [tags_updateTagOCPI]
  refine hasDefault_save_of_apart (one userID mem) rfl rfl fun stored hstored => ?_
  exact not_stored_of_checkCreateTag hcheck stored hstored.1

theorem oneDefault_handleAssignTag {filteredRequest : HttpTagAssignRequest}
    (one : store.OneDefault)
    (h : handleAssignTag context filteredRequest store = .ok store') : store'.OneDefault := by
  obtain ⟨tag, hcheck, h⟩ := Outcome.bind_eq_ok.mp h
  obtain rfl := Outcome.pure_eq_ok_iff.mp h
  obtain ⟨stored, issuer, -, free⟩ := mem_of_checkAssignTag hcheck
  intro userID mem
  rw [users_updateTagOCPI] at mem
  rw [tags_updateTagOCPI]
  refine @hasDefault_save_of_apart _ _ _ _ false (one userID mem) issuer rfl
    fun other hother same => ?_
  obtain rfl := Collection.eq_of_key_eq hother.1 stored same
  exact free userID mem hother.2.2

/-- An update of a badge changes the badges of its former user, and of the user it gets. -/
theorem hasDefault_handleUpdateTag {filteredRequest : HttpTagRequest} {checked : Bool × Tag}
    (one : HasDefault (badgesOf userID store.tags))
    (hcheck : checkUpdateTag context store filteredRequest = .ok checked)
    (h : handleUpdateTag context filteredRequest store = .ok store') :
    HasDefault (badgesOf userID store'.tags) ↔
      (filteredRequest.userID = some userID →
        ¬ LosesDefault userID store.tags checked.2.id checked.1 filteredRequest.default) := by
  obtain rfl := Outcome.eq_of_bind_pure hcheck h
  obtain ⟨stored, issuer⟩ := mem_of_checkUpdateTag hcheck
  rw [tags_updateTagOCPI]
  dsimp only
  rcases eq_or_ne checked.2.userID (some userID) with owner | other
  · rcases eq_or_ne filteredRequest.userID (some userID) with stays | moved
    · -- The badge stays with its user.
      rw [if_neg fun lost => lost.1 (owner.trans stays.symm), stays]
      refine Iff.trans (hasDefault_save_chooseDefault one ⟨issuer, stays⟩ ?_) ?_
      · rfl
      · exact ⟨fun keeps _ => keeps, fun keeps => keeps rfl⟩
    · refine iff_of_true (hasDefault_withdraw one stored issuer ?_ ?_) fun stays => absurd stays moved
      · intro tag
        rw [mem_badgesOf_saveTag, badgesOf_chooseRequestDefault_of_ne moved]
        constructor
        · rintro (⟨-, badge⟩ | kept)
          · exact absurd badge.2 moved
          · exact kept
        · exact .inr
      · intro _ isDefault
        refine ⟨fun same => moved (same.symm.trans owner), ?_, isDefault⟩
        rw [owner]
        rfl
  · -- The badge is none of the user's so far.
    have apart : ∀ tag ∈ badgesOf userID store.tags, tag.id ≠ checked.2.id := by
      intro tag mem same
      obtain rfl := Collection.eq_of_key_eq mem.1 stored same
      exact other mem.2.2
    refine iff_of_true ?_ ?_
    · have kept := @hasDefault_save_of_apart store.tags
        (updatedTag context filteredRequest checked.2 checked.1
          (chooseRequestDefault store.tags filteredRequest.userID filteredRequest.default false).2)
        userID filteredRequest.default false one issuer rfl apart
      split
      · rw [badgesOf_setDefaultTagForUser_of_ne other]
        exact kept
      · exact kept
    · rintro - ⟨-, ⟨tag, mem, same, -⟩, -⟩
      exact apart tag mem same

theorem users_handleUpdateTag {filteredRequest : HttpTagRequest}
    (h : handleUpdateTag context filteredRequest store = .ok store') :
    store'.users = store.users := by
  obtain ⟨_, -, h⟩ := Outcome.bind_eq_ok.mp h
  obtain rfl := Outcome.pure_eq_ok_iff.mp h
  exact users_updateTagOCPI _ _ _

theorem users_handleUpdateTagByVisualID {filteredRequest : HttpTagVisualIDRequest}
    (h : handleUpdateTagByVisualID context filteredRequest store = .ok store') :
    store'.users = store.users := by
  obtain ⟨_, -, h⟩ := Outcome.bind_eq_ok.mp h
  obtain rfl := Outcome.pure_eq_ok_iff.mp h
  exact users_updateTagOCPI _ _ _

/-- An update of the user's own badge changes his badges only. -/
theorem hasDefault_handleUpdateTagByVisualID {filteredRequest : HttpTagVisualIDRequest}
    (one : HasDefault (badgesOf userID store.tags))
    (hcheck : checkUpdateTagByVisualID context store filteredRequest = .ok tag)
    (issuer : tag.issuer = true)
    (h : handleUpdateTagByVisualID context filteredRequest store = .ok store') :
    HasDefault (badgesOf userID store'.tags) ↔
      (context.loggedUserID = userID →
        ¬ LosesDefault userID store.tags tag.id tag.active filteredRequest.default) := by
  obtain rfl := Outcome.eq_of_bind_pure hcheck h
  obtain ⟨stored, owner, -⟩ := UtilsService.mem_of_checkAndGetOwnTagAuthorization hcheck
  have himself : filteredRequest.userID = some context.loggedUserID :=
    of_decide_eq_true (UtilsService.found_of_check hcheck).2
  rw [tags_updateTagOCPI]
  dsimp only
  unfold clearForUpdateByVisualID
  rw [himself]
  rcases eq_or_ne context.loggedUserID userID with rfl | other
  · refine Iff.trans ?_ ⟨fun keeps _ => keeps, fun keeps => keeps rfl⟩
    rcases hasked : filteredRequest.default
    · rw [if_neg fun asks => Bool.false_ne_true asks.1, Bool.false_or]
      exact @hasDefault_save_chooseDefault store.tags _ context.loggedUserID false one
        ⟨issuer, owner⟩ rfl
    · rw [Bool.true_or]
      rcases hdefault : tag.default
      · rw [if_pos ⟨rfl, Bool.false_ne_true⟩]
        exact @hasDefault_save_chooseDefault store.tags _ context.loggedUserID true one
          ⟨issuer, owner⟩ rfl
      · -- His default badge keeps the flag.
        rw [if_neg fun asks => asks.2 rfl]
        refine iff_of_true ?_ fun loses => Bool.false_ne_true loses.1.symm
        refine .of_unique (mem_badgesOf_saveTag.mpr (.inl ⟨rfl, issuer, owner⟩)) rfl ?_
        intro tag' mem isDefault
        rcases mem_badgesOf_saveTag.mp mem with ⟨rfl, -⟩ | ⟨old, ne⟩
        · rfl
        · exact absurd (congrArg Tag.id
            (one.atMostOne tag' old tag ⟨stored, issuer, owner⟩ isDefault hdefault)) ne
  · refine iff_of_true ?_ fun same => absurd same other
    have notOwner : some context.loggedUserID ≠ some userID := fun same =>
      other (Option.some.inj same)
    have apart : ∀ stored ∈ badgesOf userID store.tags, stored.id ≠ tag.id := by
      intro other mem same
      obtain rfl := Collection.eq_of_key_eq mem.1 stored same
      exact notOwner (owner.symm.trans mem.2.2)
    split
    · have same := @badgesOf_clearDefaultUserTag_of_ne store.tags userID _ notOwner
      rw [badgesOf_saveTag_of_apart, same]
      · exact one
      · exact fun badge => notOwner (owner.symm.trans badge.2)
      · rwa [same]
    · rw [badgesOf_saveTag_of_apart]
      · exact one
      · exact fun badge => notOwner (owner.symm.trans badge.2)
      · exact apart

/-- A badge that is deleted is not missed. -/
theorem oneDefault_deleteTag {tagID : String} (one : store.OneDefault)
    (h : deleteTag context tagID store = .ok store') : store'.OneDefault := by
  obtain ⟨tag, hcheck, h⟩ := Outcome.bind_eq_ok.mp h
  obtain rfl := Outcome.pure_eq_ok_iff.mp h
  obtain ⟨stored, issuer⟩ := UtilsService.mem_of_checkAndGetTagAuthorization hcheck
  intro userID mem
  change userID ∈ (checkAndDeleteTagOCPI context tag store).users at mem
  rw [users_checkAndDeleteTagOCPI] at mem
  rw [tags_checkAndDeleteTagOCPI]
  exact hasDefault_withdraw (one userID mem) stored issuer (fun _ => mem_badgesOf_deleteTag)
    fun _ isDefault => isDefault

theorem oneDefault_deleteTags (tagsIDs : List String) (one : store.OneDefault) :
    (deleteTags context tagsIDs store).2.OneDefault :=
  forEachTag_invariant (fun _ _ _ _ one h => oneDefault_deleteTag one h) one

/-- The badges of a user with these visual IDs are local ones. -/
def OwnsLocally (userID : String) (visualIDs : List String) (tags : Tags) : Prop :=
  ¬ ∃ tag ∈ tags.docs, tag.userID = some userID ∧ tag.visualID ∈ visualIDs ∧ tag.issuer = false

/-- A badge that is unassigned is not missed, either. -/
theorem oneDefault_unassignTag {visualID : String} {visualIDs : List String}
    (listed : visualID ∈ visualIDs)
    (inv : store.OneDefault ∧ OwnsLocally context.loggedUserID visualIDs store.tags)
    (h : unassignTag context visualID store = .ok store') :
    store'.OneDefault ∧ OwnsLocally context.loggedUserID visualIDs store'.tags := by
  obtain ⟨one, locally⟩ := inv
  obtain ⟨tag, hcheck, h⟩ := Outcome.bind_eq_ok.mp h
  obtain rfl := Outcome.pure_eq_ok_iff.mp h
  obtain ⟨stored, owner, same⟩ := UtilsService.mem_of_checkAndGetOwnTagAuthorization hcheck
  have issuer : tag.issuer = true :=
    Bool.eq_true_of_not_eq_false fun remote =>
      locally ⟨tag, stored, owner, same ▸ listed, remote⟩
  constructor
  · intro userID mem
    change userID ∈ (checkAndDeleteTagOCPI context tag store).users at mem
    rw [users_checkAndDeleteTagOCPI] at mem
    rw [tags_checkAndDeleteTagOCPI]
    refine hasDefault_withdraw (one userID mem) stored issuer (fun other => ?_)
      fun _ isDefault => isDefault
    rw [mem_badgesOf_saveTag]
    constructor
    · rintro (⟨-, -, nobody⟩ | kept)
      · cases nobody
      · exact kept
    · exact .inr
  · have ignores : IgnoresDefault fun tag =>
        tag.userID = some context.loggedUserID ∧ tag.visualID ∈ visualIDs ∧ tag.issuer = false :=
      fun _ _ => Iff.rfl
    have kept : OwnsLocally context.loggedUserID visualIDs
        (saveTag (checkAndDeleteTagOCPI context tag store).tags
          { tag with userID := none, active := false }) := by
      rw [tags_checkAndDeleteTagOCPI]
      rintro ⟨other, mem, owns, rest⟩
      rcases Collection.mem_save_iff.mp mem with rfl | ⟨old, -⟩
      · cases owns
      · exact locally ⟨other, old, owns, rest⟩
    dsimp only
    split
    · exact fun remote => kept ((exists_setDefaultTagForUser ignores _).mp remote)
    · exact kept

theorem oneDefault_unassignTags {visualIDs : List String} (one : store.OneDefault)
    (locally : OwnsLocally context.loggedUserID visualIDs store.tags) :
    (unassignTags context visualIDs store).2.OneDefault :=
  (forEachTag_invariant (I := fun store =>
      store.OneDefault ∧ OwnsLocally context.loggedUserID visualIDs store.tags)
    (fun _ listed _ _ inv h => oneDefault_unassignTag listed inv h) ⟨one, locally⟩).1

end TagService

/-! ## Runs of operations -/

namespace TagStore

open TagService

/-- The operation is about local badges: the badges that a user changes himself are his local
ones, and the other operations look for local badges only. -/
def OnLocalBadges (store : TagStore) : TagOperation → Prop
  | .updateByVisualID context filteredRequest =>
      OwnsLocally context.loggedUserID [filteredRequest.visualID] store.tags
  | .unassign context visualIDs => OwnsLocally context.loggedUserID visualIDs store.tags
  | _ => True

/-- An operation on local badges. -/
def Operates (store : TagStore) (operation : TagOperation) (store' : TagStore) : Prop :=
  store.OnLocalBadges operation ∧ store' = operation.run store

/-- No update that is accepted takes the flag from the default badge of a user. -/
def KeepsDefault (store : TagStore) : TagOperation → Prop
  | .update context filteredRequest => ∀ checked,
      checkUpdateTag context store filteredRequest = .ok checked →
        ∀ userID ∈ store.users, filteredRequest.userID = some userID →
          ¬ LosesDefault userID store.tags checked.2.id checked.1 filteredRequest.default
  | .updateByVisualID context filteredRequest => ∀ tag,
      checkUpdateTagByVisualID context store filteredRequest = .ok tag →
        context.loggedUserID ∈ store.users →
          ¬ LosesDefault context.loggedUserID store.tags tag.id tag.active filteredRequest.default
  | _ => True

variable {store store' : TagStore} {context : TagContext} {operations : List TagOperation}
  {operation : TagOperation}

theorem oneDefault_update_iff {filteredRequest : HttpTagRequest} (one : store.OneDefault) :
    (TagOperation.run store (.update context filteredRequest)).OneDefault ↔
      store.KeepsDefault (.update context filteredRequest) := by
  refine TagOperation.iff_of_check one ⟨_, rfl⟩ fun checked store' hcheck h => ?_
  rw [OneDefault, users_handleUpdateTag h]
  exact forall₂_congr fun userID mem => hasDefault_handleUpdateTag (one userID mem) hcheck h

theorem oneDefault_updateByVisualID_iff {filteredRequest : HttpTagVisualIDRequest}
    (one : store.OneDefault)
    (locally : OwnsLocally context.loggedUserID [filteredRequest.visualID] store.tags) :
    (TagOperation.run store (.updateByVisualID context filteredRequest)).OneDefault ↔
      store.KeepsDefault (.updateByVisualID context filteredRequest) := by
  refine TagOperation.iff_of_check one ⟨_, rfl⟩ fun tag store' hcheck h => ?_
  obtain ⟨stored, owner, same⟩ := UtilsService.mem_of_checkAndGetOwnTagAuthorization hcheck
  have issuer : tag.issuer = true :=
    Bool.eq_true_of_not_eq_false fun remote =>
      locally ⟨tag, stored, owner, List.mem_singleton.mpr same, remote⟩
  rw [OneDefault, users_handleUpdateTagByVisualID h]
  refine (forall₂_congr fun userID mem =>
    hasDefault_handleUpdateTagByVisualID (one userID mem) hcheck issuer h).trans ?_
  constructor
  · exact fun keeps mem => keeps _ mem rfl
  · rintro keeps userID mem rfl
    exact keeps mem

/-- **What one operation preserves.** -/
theorem oneDefault_iff_of_operates (one : store.OneDefault)
    (operates : store.Operates operation store') :
    store'.OneDefault ↔ store.KeepsDefault operation := by
  obtain ⟨onLocal, rfl⟩ := operates
  cases operation with
  | create context filteredRequest =>
      refine (TagOperation.iff_of_check one ⟨_, rfl⟩ fun _ _ _ h => ?_).trans
        (iff_of_true (fun _ _ => trivial) trivial)
      exact iff_true_intro (oneDefault_handleCreateTag one h)
  | assign context filteredRequest =>
      refine (TagOperation.iff_of_check one ⟨_, rfl⟩ fun _ _ _ h => ?_).trans
        (iff_of_true (fun _ _ => trivial) trivial)
      exact iff_true_intro (oneDefault_handleAssignTag one h)
  | update context filteredRequest => exact oneDefault_update_iff one
  | updateByVisualID context filteredRequest => exact oneDefault_updateByVisualID_iff one onLocal
  | unassign context visualIDs => exact iff_of_true (oneDefault_unassignTags one onLocal) trivial
  | delete context tagsIDs => exact iff_of_true (oneDefault_deleteTags tagsIDs one) trivial

/-- **One default badge** for every user after every run of operations on local badges that take
no flag from a default badge; and the next operation keeps it so just when it takes none. -/
theorem oneDefault_iff_of_run (one : store.OneDefault)
    (run : Transition.Run (Transition.guarded KeepsDefault Operates) store operations store') :
    store'.OneDefault ∧ ∀ operation next, store'.Operates operation next →
      (next.OneDefault ↔ store'.KeepsDefault operation) := by
  have one' : store'.OneDefault :=
    run.invariant one fun _ _ _ one step => (oneDefault_iff_of_operates one step.2).mpr step.1
  exact ⟨one', fun _ _ operates => oneDefault_iff_of_operates one' operates⟩

/-- A tenant that has users, and no badges yet. -/
def withUsers (users : List String) : TagStore := { tags := .empty, users := users }

theorem oneDefault_withUsers (users : List String) : (withUsers users).OneDefault := by
  intro userID _
  refine ⟨fun tag mem => ?_, ?_⟩
  · exact absurd mem.1 List.not_mem_nil
  · rintro ⟨tag, mem, -⟩
    exact absurd mem.1 List.not_mem_nil

/-- A user who manages his own badges. -/
def driverContext : TagContext := { loggedUserID := "driver", toUpperCase := id }

/-- His first badge, which becomes his default badge. -/
def createFirst : TagOperation :=
  .create driverContext { id := "A", visualID := "VA", active := some true, userID := some "driver" }

/-- His second badge. -/
def createSecond : TagOperation :=
  .create driverContext { id := "B", visualID := "VB", active := some true, userID := some "driver" }

/-- His second badge is to be the default one. -/
def chooseSecond : TagOperation :=
  .updateByVisualID driverContext { visualID := "VB", default := true, userID := some "driver" }

/-- His second badge is deleted. -/
def deleteSecond : TagOperation := .delete driverContext ["B"]

/-- His first badge is updated, and nothing is said about the default. -/
def describeFirst : TagOperation :=
  .updateByVisualID driverContext
    { visualID := "VA", description := "car", userID := some "driver" }

/-- The second badge has taken over, and is deleted. -/
def takenOver : TagStore :=
  [createFirst, createSecond, chooseSecond, deleteSecond].foldl TagOperation.run
    (withUsers ["driver"])

theorem oneDefault_iff_of_run_takenOver :
    (TagStorage.getDefaultUserTag takenOver.tags "driver").map Tag.id = some "A" ∧
      takenOver.OneDefault := by
  have first : Transition.Run (Transition.guarded KeepsDefault Operates) (withUsers ["driver"])
      [createFirst] _ := .single ⟨trivial, trivial, rfl⟩
  have second := first.snoc (a := createSecond) ⟨trivial, trivial, rfl⟩
  have third := second.snoc (a := chooseSecond) ⟨fun _ _ _ loses => Bool.false_ne_true loses.1.symm,
    show ¬ _ by decide +kernel, rfl⟩
  have last := third.snoc (a := deleteSecond) ⟨trivial, trivial, rfl⟩
  exact ⟨by decide +kernel, (oneDefault_iff_of_run (oneDefault_withUsers ["driver"]) last).1⟩

/-- The badge that the update leaves. -/
def describedTag : Tag :=
  { id := "A", visualID := "VA", description := "car", active := true, userID := some "driver"
    lastChangedOn := some 0 }

/-- **No default badge**: the update of the only badge does not ask for the flag, and the default
badge that is found is the one that loses it. -/
theorem loses_only_default : ∃ operations store',
    Transition.Run Operates (withUsers ["driver"]) operations store' ∧
      store'.tags.docs = [describedTag] ∧ ¬ store'.OneDefault := by
  have first : Transition.Run Operates (withUsers ["driver"]) [createFirst] _ :=
    .single ⟨trivial, rfl⟩
  have second := first.snoc (a := describeFirst) ⟨show ¬ _ by decide +kernel, rfl⟩
  have docs : (describeFirst.run (createFirst.run (withUsers ["driver"]))).tags.docs =
      [describedTag] := by decide +kernel
  refine ⟨_, _, second, docs, fun one => ?_⟩
  obtain ⟨tag, ⟨hmem, -⟩, isDefault⟩ := (one "driver" (by decide +kernel)).exists_default
    ⟨describedTag, ⟨docs ▸ List.mem_singleton_self _, rfl, rfl⟩, rfl⟩
  rw [docs] at hmem
  obtain rfl := List.mem_singleton.mp hmem
  cases isDefault

end TagStore

end EvServer
