import EvServer.Tags.DefaultTags

/-!
# Badges at the roaming platform

The platform keeps the last token that it has got for a badge.  A token is pushed when a badge
is changed (`updateTagOCPI`), when it is deleted or unassigned (`checkAndDeleteTagOCPI`), and for
every badge of a user when all of them are synchronised (`pushTokens`).
-/

namespace EvServer

/-! ## Synchronisation -/

/-- `OCPIResult`, without the texts of the errors. -/
structure OCPIResult where
  success : Nat := 0
  failure : Nat := 0
  total : Nat := 0
  objectIDsInFailure : List String := []
  deriving DecidableEq, Repr

namespace OCPIUtilsService

/-- The badges that `getTokens` reads. -/
def localUserTags : TagStorage.GetTagsParams := { issuer := some true, withUsersOnly := true }

/-- The token of a badge; the visual ID is not among the fields that are read, and a user who is
not found is no user. -/
def tokenOf (context : TagContext) (store : TagStore) (tag : Tag) : OCPIToken :=
  { uid := tag.id
    type := OCPIUtils.getOCPITokenTypeFromID tag.id
    auth_id := tag.userID
    visual_number := none
    valid := tag.userID.any (· ∈ store.users)
    last_updated := tag.lastChangedOn.getD context.now }

/-- `getTokens`. -/
def getTokens (context : TagContext) (store : TagStore) (limit skip : Nat) : List OCPIToken :=
  (((TagStorage.getTags store.tags localUserTags).drop skip).take limit).map (tokenOf context store)

end OCPIUtilsService

namespace EmspOCPIClient

/-- `DB_RECORD_COUNT_DEFAULT`. -/
def recordCountDefault : Nat := 100

/-- One token of `pushTokens`. -/
def nextToken (context : TagContext) (outcome : OCPIResult × TagStore) (token : OCPIToken) :
    OCPIResult × TagStore :=
  let result := { outcome.1 with total := outcome.1.total + 1 }
  if context.pushes then
    ({ result with success := result.success + 1 }, TagService.pushToken context token outcome.2)
  else
    ({ result with
        failure := result.failure + 1
        objectIDsInFailure := result.objectIDsInFailure ++ [token.uid] }, outcome.2)

/-- The loop of `pushTokens`, for so many pages at most. -/
def pushPages (context : TagContext) : Nat → Nat → OCPIResult × TagStore → OCPIResult × TagStore
  | 0, _, outcome => outcome
  | pages + 1, currentSkip, outcome =>
      let tokens := OCPIUtilsService.getTokens context outcome.2 recordCountDefault currentSkip
      if tokens = [] then outcome
      else pushPages context pages (currentSkip + recordCountDefault)
        (tokens.foldl (nextToken context) outcome)

/-- `pushTokens`; there are no more pages than badges (`pushTokens_eq`). -/
def pushTokens (context : TagContext) (store : TagStore) : OCPIResult × TagStore :=
  pushPages context store.tags.docs.length 0 ({}, store)

/-- The tokens of all the pages. -/
def allTokens (context : TagContext) (store : TagStore) : List OCPIToken :=
  (TagStorage.getTags store.tags OCPIUtilsService.localUserTags).map
    (OCPIUtilsService.tokenOf context store)

variable {context : TagContext} {store : TagStore} {outcome : OCPIResult × TagStore}

theorem getTokens_eq (limit skip : Nat) : OCPIUtilsService.getTokens context store limit skip =
    ((allTokens context store).drop skip).take limit := by
  rw [OCPIUtilsService.getTokens, allTokens, List.map_take, List.map_drop]

/-- Pushing does not change what is read. -/
theorem allTokens_foldl_nextToken (tokens : List OCPIToken) :
    allTokens context (tokens.foldl (nextToken context) outcome).2 =
      allTokens context outcome.2 := by
  induction tokens generalizing outcome with
  | nil => rfl
  | cons token rest ih =>
      rw [List.foldl_cons, ih]
      unfold nextToken TagService.pushToken
      split <;> rfl

/-- The pages make up all the tokens. -/
theorem pushPages_eq (pages currentSkip : Nat) (outcome : OCPIResult × TagStore)
    (enough : (allTokens context outcome.2).length ≤ currentSkip + pages * recordCountDefault) :
    pushPages context pages currentSkip outcome =
      ((allTokens context outcome.2).drop currentSkip).foldl (nextToken context) outcome := by
  induction pages generalizing currentSkip outcome with
  | zero =>
      rw [List.drop_eq_nil_of_le (by omega)]
      rfl
  | succ pages ih =>
      rw [Nat.succ_mul] at enough
      unfold pushPages
      dsimp only
      rw [getTokens_eq]
      split
      · rename_i nothing
        rcases List.take_eq_nil_iff.mp nothing with zero | rest
        · cases zero
        · rw [rest]
          rfl
      · rw [ih _ _ (by rw [allTokens_foldl_nextToken]; omega), allTokens_foldl_nextToken,
          ← List.foldl_append, ← List.drop_drop, List.take_append_drop]

/-- What the platform has got when it has taken everything. -/
theorem foldl_nextToken_of_pushes (pushes : context.pushes = true) (tokens : List OCPIToken) :
    (tokens.foldl (nextToken context) outcome).2 =
      { outcome.2 with pushed := outcome.2.pushed ++ tokens } := by
  induction tokens generalizing outcome with
  | nil => rw [List.foldl_nil, List.append_nil]
  | cons token rest ih =>
      rw [List.foldl_cons, ih]
      unfold nextToken TagService.pushToken
      rw [if_pos pushes, if_pos pushes]
      show { outcome.2 with pushed := outcome.2.pushed ++ [token] ++ rest } = _
      rw [List.append_assoc]
      rfl

/-- **Every token** is pushed. -/
theorem pushTokens_eq (pushes : context.pushes = true) : (pushTokens context store).2 =
    { store with pushed := store.pushed ++ allTokens context store } := by
  have count : (allTokens context store).length ≤ store.tags.docs.length := by
    rw [allTokens, List.length_map, TagStorage.getTags, Collection.query,
      List.length_insertionSort]
    exact List.length_filter_le _ _
  rw [pushTokens, pushPages_eq, List.drop_zero, foldl_nextToken_of_pushes pushes]
  refine count.trans ?_
  show _ ≤ 0 + store.tags.docs.length * 100
  omega

end EmspOCPIClient

end EvServer
