import EvServer.Lib.Query
import EvServer.Utils

/-!
# The badges of a tenant (`TagStorage`)

A badge is a document of its own; whose badge it is, and whether it is the default badge of
that user, is written in the badge.  Badges with an `issuer` are those of the tenant, the
others come from the roaming platform.
-/

namespace EvServer

/-- `Tag`; a badge that is not assigned has no `userID`. -/
structure Tag where
  id : String
  visualID : String
  description : String := ""
  issuer : Bool := true
  active : Bool
  default : Bool := false
  userID : Option String := none
  createdOn : Timestamp := 0
  lastChangedOn : Option Timestamp := none
  deriving DecidableEq, Repr

/-- The collection `tags`. -/
abbrev Tags := Collection Tag.id

namespace TagStorage

/-- The parameters of `getTags`; one that is not set does not filter. -/
structure GetTagsParams where
  visualID : Option String := none
  userID : Option (Option String) := none
  defaultTag : Bool := false
  issuer : Option Bool := none
  withUsersOnly : Bool := false
  active : Option Bool := none

/-- The filters of `getTags`. -/
def GetTagsParams.passes (params : GetTagsParams) (tag : Tag) : Bool :=
  params.visualID.all (· = tag.visualID) && params.userID.all (· = tag.userID) &&
    (!params.defaultTag || tag.default) && params.issuer.all (· = tag.issuer) &&
    (!params.withUsersOnly || tag.userID.isSome) && params.active.all (· = tag.active)

/-- `TagStorage.getTags`: the newest badges come first. -/
def getTags (tags : Tags) (params : GetTagsParams) : List Tag :=
  tags.query params.passes fun tag => -tag.createdOn

/-- The only record, if there is one only. -/
def single : List Tag → Option Tag
  | [tag] => some tag
  | _ => none

/-- `TagStorage.getTag`; the `_id` of a badge is unique. -/
def getTag (tags : Tags) (id : String) (params : GetTagsParams) : Option Tag :=
  (tags.find id).filter params.passes

/-- `TagStorage.getTagByVisualID`. -/
def getTagByVisualID (tags : Tags) (visualID : String) (params : GetTagsParams) : Option Tag :=
  single (getTags tags { params with visualID := some visualID })

/-- The active badges of a user, or of nobody. -/
def activeUserTags (userID : Option String) : GetTagsParams :=
  { userID := some userID, issuer := some true, active := some true }

/-- `TagStorage.getFirstActiveUserTag`. -/
def getFirstActiveUserTag (tags : Tags) (userID : Option String) : Option Tag :=
  (getTags tags (activeUserTags userID)).head?

/-- The default badges of a user. -/
def defaultUserTags (userID : String) : GetTagsParams :=
  { userID := some (some userID), issuer := some true, defaultTag := true }

/-- `TagStorage.getDefaultUserTag`. -/
def getDefaultUserTag (tags : Tags) (userID : String) : Option Tag :=
  single (getTags tags (defaultUserTags userID))

/-- `TagStorage.saveTag`. -/
def saveTag (tags : Tags) (tag : Tag) : Tags := tags.save tag

/-- `TagStorage.deleteTag`. -/
def deleteTag (tags : Tags) (tagID : String) : Tags := tags.delete tagID

/-- The badge without the flag, when it is a default badge of the user. -/
def clearDefault (userID : Option String) (tag : Tag) : Tag :=
  if tag.userID = userID ∧ tag.default then { tag with default := false } else tag

theorem id_clearDefault (userID : Option String) (tag : Tag) :
    (clearDefault userID tag).id = tag.id := by
  unfold clearDefault
  split <;> rfl

/-- `TagStorage.clearDefaultUserTag`; no user stands for the badges without one. -/
def clearDefaultUserTag (tags : Tags) (userID : Option String) : Tags :=
  tags.updateMany (clearDefault userID) (id_clearDefault userID)

variable {tags : Tags} {tag : Tag} {params : GetTagsParams}

theorem mem_getTags : tag ∈ getTags tags params ↔ tag ∈ tags.docs ∧ params.passes tag :=
  Collection.mem_query

theorem GetTagsParams.issuer_eq {issuer : Bool} (passes : params.passes tag)
    (filters : params.issuer = some issuer) : tag.issuer = issuer := by
  simp only [GetTagsParams.passes, Bool.and_eq_true, filters, Option.all_some,
    decide_eq_true_eq] at passes
  exact passes.1.1.2.symm

theorem GetTagsParams.userID_eq {userID : Option String} (passes : params.passes tag)
    (filters : params.userID = some userID) : tag.userID = userID := by
  simp only [GetTagsParams.passes, Bool.and_eq_true, filters, Option.all_some,
    decide_eq_true_eq] at passes
  exact passes.1.1.1.1.2.symm

theorem GetTagsParams.visualID_eq {visualID : String} (passes : params.passes tag)
    (filters : params.visualID = some visualID) : tag.visualID = visualID := by
  simp only [GetTagsParams.passes, Bool.and_eq_true, filters, Option.all_some,
    decide_eq_true_eq] at passes
  exact passes.1.1.1.1.1.symm

theorem single_eq_some {records : List Tag} : single records = some tag ↔ records = [tag] := by
  rcases records with _ | ⟨other, _ | ⟨_, _⟩⟩ <;> simp [single]

/-- The badge that is found is stored, and passes the filters. -/
theorem mem_of_getTag {id : String} (h : getTag tags id params = some tag) :
    tag ∈ tags.docs ∧ tag.id = id ∧ params.passes tag := by
  obtain ⟨found, passes⟩ := Option.filter_eq_some_iff.mp h
  exact ⟨Collection.mem_of_find found, Collection.key_of_find found, passes⟩

theorem mem_of_getTagByVisualID {visualID : String}
    (h : getTagByVisualID tags visualID params = some tag) :
    tag ∈ tags.docs ∧ GetTagsParams.passes { params with visualID := some visualID } tag := by
  have records := single_eq_some.mp h
  refine mem_getTags.mp ?_
  rw [records]
  exact List.mem_singleton_self tag

end TagStorage

end EvServer
