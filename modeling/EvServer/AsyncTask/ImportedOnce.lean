import EvServer.AsyncTask.ImportedRows

/-!
# A row is imported once, or it says why not

A row that has been handled is not `READY` any more, so the pages follow the order of the rows
that were ready in the beginning, and the task ends.  What handling a row establishes is kept
when the others are handled: their badges have other IDs, and users and assignments stay.
-/

namespace EvServer.TagsImport

open ImportHelper

variable {context : ImportContext} {row other : ImportedTag} {store t : ImportStore}
variable {tag : Tag}

/-! ## What stays of a row -/

theorem ImportHelper.IsUserOf.stay {userID : String}
    (isUser : IsUserOf context row store userID)
    (stays : Stays context store t) : IsUserOf context row t userID := by
  obtain ⟨importedUser, named, user, mem, rfl, address⟩ := isUser
  exact ⟨importedUser, named, stays.users.hasAddress mem address⟩

theorem ImportHelper.OnSitesOf.stay {userID : String}
    (onSites : OnSitesOf context row store userID)
    (stays : Stays context store t) : OnSitesOf context row t userID :=
  fun importedUser named active siteID mem exist =>
    stays.siteUsers _ (onSites importedUser named active siteID mem exist)

theorem Leaves.withRows (leaves : Leaves context row store t)
    (rows : Collection ImportedTag.id) :
    Leaves context row store { t with importedTags := rows } :=
  ⟨⟨leaves.stays.users, leaves.stays.siteUsers⟩, leaves.tags, leaves.unique, leaves.oneDefault⟩

theorem Carries.stay (carries : Carries context row store tag)
    (stays : Stays context store t) : Carries context row t tag where
  id := carries.id
  issuer := carries.issuer
  active := carries.active
  description := carries.description
  visualID := carries.visualID
  nobody := carries.nobody
  user named := by
    obtain ⟨userID, owner, isUser, onSites⟩ := carries.user named
    exact ⟨userID, owner, isUser.stay stays, onSites.stay stays⟩

/-- The flag of the badge does not matter. -/
theorem Carries.gives {gaveWay : String → Prop} {tag' : Tag}
    (carries : Carries context row store tag) (gives : Gives gaveWay tag tag') :
    Carries context row store tag' := by
  rw [gives.eq]
  exact ⟨carries.id, carries.issuer, carries.active, carries.description, carries.visualID,
    carries.nobody, carries.user⟩

namespace TagsImportAsyncTask

variable {s s' : ImportState} {rows : List ImportedTag}

/-! ## One row -/

/-- The row is gone and a badge carries it, or it is an error with a message. -/
def Outcome (context : ImportContext) (row : ImportedTag) (store : ImportStore) : Prop :=
  (store.importedTags.find row.id = none ∧
      ∃ tag ∈ store.tags.docs, Carries context row store tag) ∨
    ∃ message, store.importedTags.find row.id =
      some { row with status := .error, errorDescription := some message }

/-- What handling a row does to the task. -/
structure Handled (context : ImportContext) (row : ImportedTag) (s s' : ImportState) : Prop where
  leaves : Leaves context row s.store s'.store
  outcome : Outcome context row s'.store
  others : ∀ id ≠ row.id,
    s'.store.importedTags.find id = s.store.importedTags.find id
  inSuccess : s'.inSuccess = s.inSuccess +
    if (s'.store.importedTags.find row.id).isNone then 1 else 0
  inError : s'.inError = s.inError +
    if (s'.store.importedTags.find row.id).isSome then 1 else 0

theorem importRow_ok (processed : processImportedTag context row s.store = (.ok (), t)) :
    importRow context s row =
      { s with
        store := { t with importedTags := t.importedTags.delete row.id }
        inSuccess := s.inSuccess + 1 } := by
  rw [importRow, processed]

theorem importRow_error {message : String}
    (processed : processImportedTag context row s.store = (.error message, t)) :
    importRow context s row =
      { s with
        store := { t with
          importedTags := t.importedTags.save
            { row with status := .error, errorDescription := some message } }
        inError := s.inError + 1 } := by
  rw [importRow, processed]

theorem handled_importRow (sound : context.Sound) (s : ImportState) (row : ImportedTag) :
    Handled context row s (importRow context s row) := by
  obtain ⟨t, rows, leaves, processed⟩ := processImportedTag_leaves sound row s.store
  rcases processed with ⟨message, refused⟩ | ⟨imported, tag, mem, carries⟩
  · set failed : ImportedTag :=
      { row with status := .error, errorDescription := some message } with hfailed
    have found : (t.importedTags.save failed).find row.id = some failed :=
      Collection.find_save_self
    rw [importRow_error refused]
    refine ⟨leaves.withRows _, .inr ⟨message, found⟩, fun id apart => ?_, ?_, ?_⟩
    · have other : id ≠ failed.id := apart
      show (t.importedTags.save failed).find id = _
      rw [Collection.find_save_of_ne other, rows]
    · show s.inSuccess = _ + if ((t.importedTags.save failed).find _).isNone then 1 else 0
      rw [found]
      rfl
    · show s.inError + 1 = _ + if ((t.importedTags.save failed).find _).isSome then 1 else 0
      rw [found]
      rfl
  · have gone : (t.importedTags.delete row.id).find row.id = none := by
      rw [Collection.find_delete, if_pos rfl]
    rw [importRow_ok imported]
    refine ⟨leaves.withRows _, .inl ⟨gone, tag, mem, carries.stay ⟨.refl _, fun _ h => h⟩⟩,
      fun id apart => ?_, ?_, ?_⟩
    · show (t.importedTags.delete row.id).find id = _
      rw [Collection.find_delete, if_neg apart, rows]
    · show s.inSuccess + 1 = _ + if ((t.importedTags.delete _).find _).isNone then 1 else 0
      rw [gone]
      rfl
    · show s.inError = _ + if ((t.importedTags.delete _).find _).isSome then 1 else 0
      rw [gone]
      rfl

/-- The outcome of a row is kept when another one is handled. -/
theorem Handled.outcome_of_ne (handled : Handled context other s s')
    (apart : row.id ≠ other.id) (outcome : Outcome context row s.store) :
    Outcome context row s'.store := by
  unfold Outcome
  rw [handled.others row.id apart]
  rcases outcome with ⟨gone, tag, mem, carries⟩ | failed
  · obtain ⟨tag', mem', gives⟩ := handled.leaves.tags tag mem (.inl (carries.id.trans_ne apart))
    exact .inl ⟨gone, tag', mem', (carries.stay handled.leaves.stays).gives gives⟩
  · exact .inr failed

/-! ## The pages -/

/-- A row that has been handled does not wait any more. -/
theorem serves (sound : context.Sound) :
    Draining.Serves ImportState.readyTags (importRow context) := by
  intro s row rest first
  obtain ⟨t, rows, leaves, processed⟩ := processImportedTag_leaves sound row s.store
  have query : t.importedTags.query (fun row => row.status = .ready) TagStorage.importOrder =
      [] ++ row :: rest := by
    rw [rows]
    exact first
  rcases processed with ⟨message, refused⟩ | ⟨imported, -⟩
  · rw [importRow_error refused]
    exact Collection.query_save_leaving query rfl (by simp)
  · rw [importRow_ok imported]
    exact Collection.query_delete_at query

theorem importPages_eq_drain (context : ImportContext) (fuel : ℕ) (s : ImportState) :
    importPages context fuel s =
      Draining.drain ImportState.readyTags (importRow context) IMPORT_PAGE_SIZE fuel s := by
  induction fuel generalizing s with
  | zero => rfl
  | succ fuel ih =>
      show (if _ then _ else _) = if _ then _ else _
      rw [ih]

theorem length_readyTags_lt (store : ImportStore) :
    (ImportState.readyTags { store := store }).length < store.importedTags.docs.length + 1 := by
  refine Nat.lt_succ_of_le ?_
  show (List.insertionSort _ (store.importedTags.docs.filter _)).length ≤ _
  rw [List.length_insertionSort]
  exact List.length_filter_le _ _

/-- The task handles the rows that are ready, one after the other. -/
theorem executeAsyncTask_eq_foldl (sound : context.Sound) (store : ImportStore) :
    executeAsyncTask context store =
      (TagStorage.getImportedTags store.importedTags .ready).foldl (importRow context)
        { store := store } := by
  rw [executeAsyncTask, importPages_eq_drain,
    Draining.drain_eq_foldl (serves sound) (by decide) (length_readyTags_lt store)]
  rfl

/-! ## The task -/

theorem nodup_readyTags (store : ImportStore) :
    ((TagStorage.getImportedTags store.importedTags .ready).map ImportedTag.id).Nodup :=
  Collection.nodup_query _ _ _

theorem apart_readyTags (store : ImportStore) :
    (TagStorage.getImportedTags store.importedTags .ready).Pairwise fun row other =>
      row.id ≠ other.id :=
  List.pairwise_map.mp (nodup_readyTags store)

/-- The rows with other IDs stay as they are. -/
theorem find_foldl_importRow (sound : context.Sound) {id : String}
    (apart : ∀ row ∈ rows, id ≠ row.id) (s : ImportState) :
    (rows.foldl (importRow context) s).store.importedTags.find id =
      s.store.importedTags.find id := by
  refine Draining.foldl_invariant (I := fun t : ImportState =>
    t.store.importedTags.find id = s.store.importedTags.find id) ?_ rfl
  intro t row mem same
  rw [(handled_importRow sound t row).others id (apart row mem), same]

/-- The result counts the rows that are gone, and those that are still there. -/
theorem counts_foldl_importRow (sound : context.Sound) (nodup : (rows.map ImportedTag.id).Nodup)
    (s : ImportState) :
    (rows.foldl (importRow context) s).inSuccess = s.inSuccess + rows.countP (fun row =>
        ((rows.foldl (importRow context) s).store.importedTags.find row.id).isNone) ∧
      (rows.foldl (importRow context) s).inError = s.inError + rows.countP (fun row =>
        ((rows.foldl (importRow context) s).store.importedTags.find row.id).isSome) := by
  induction rows generalizing s with
  | nil => exact ⟨rfl, rfl⟩
  | cons row rest ih =>
      rw [List.map_cons, List.nodup_cons] at nodup
      have handled := handled_importRow sound s row
      obtain ⟨inSuccess, inError⟩ := ih nodup.2 (importRow context s row)
      have apart : ∀ other ∈ rest, row.id ≠ other.id := by
        intro other mem same
        exact nodup.1 (same ▸ List.mem_map_of_mem mem)
      have found := find_foldl_importRow sound apart (importRow context s row)
      rw [List.foldl_cons, List.countP_cons, List.countP_cons, found, inSuccess, inError,
        handled.inSuccess, handled.inError]
      constructor <;> omega

/-- **What the task has done of the rows.** -/
structure ImportedAll (context : ImportContext) (store : ImportStore) (after : ImportState) :
    Prop where
  readyTags : after.readyTags = []
  /-- Every row that was ready is imported, or an error with a message. -/
  outcome : ∀ row ∈ TagStorage.getImportedTags store.importedTags .ready,
    Outcome context row after.store
  /-- The other rows stay. -/
  others : ∀ row ∈ store.importedTags.docs, row.status ≠ .ready →
    after.store.importedTags.find row.id = some row
  inSuccess : after.inSuccess = (TagStorage.getImportedTags store.importedTags .ready).countP
    fun row => (after.store.importedTags.find row.id).isNone
  inError : after.inError = (TagStorage.getImportedTags store.importedTags .ready).countP
    fun row => (after.store.importedTags.find row.id).isSome

/-- A badge in use stays in use without the flag. -/
theorem inUse_of_gives {gaveWay : String → Prop} {tag' : Tag} (gives : Gives gaveWay tag tag')
    (inUse : InUse context tag) : InUse context tag' := by
  rw [gives.eq]
  exact inUse

/-- **What the task has done to the badges.** -/
structure KeptBadges (context : ImportContext) (store : ImportStore) (after : ImportStore) :
    Prop where
  /-- A badge in use stays as it is, or gives its flag to a badge of a row with its user. -/
  inUse : ∀ tag ∈ store.tags.docs, InUse context tag → ∃ tag' ∈ after.tags.docs,
    Gives (fun userID => ∃ row ∈ TagStorage.getImportedTags store.importedTags .ready,
      IsUserOf context row after userID) tag tag'
  oneDefault : AtMostOneDefault store.tags → AtMostOneDefault after.tags
  visualIDs : store.tags.Unique Tag.visualID → after.tags.Unique Tag.visualID
  addresses : store.users.Unique User.email → after.users.Unique User.email

/-- **No row changes a badge in use.** -/
theorem executeAsyncTask_keepsBadges (sound : context.Sound) (store : ImportStore) :
    KeptBadges context store (executeAsyncTask context store).store := by
  rw [executeAsyncTask_eq_foldl sound store]
  set rows := TagStorage.getImportedTags store.importedTags .ready with hrows
  refine ⟨fun tag mem inUse => ?_, fun one => ?_, fun unique => ?_, fun unique => ?_⟩
  · refine Draining.foldl_invariant (I := fun s : ImportState => ∃ tag' ∈ s.store.tags.docs,
      Gives (fun userID => ∃ row ∈ rows, IsUserOf context row s.store userID) tag tag')
      ?_ ⟨tag, mem, .inl rfl⟩
    rintro s row hrow ⟨tag', mem', gives⟩
    have leaves := (handled_importRow sound s row).leaves
    obtain ⟨tag'', mem'', gives'⟩ := leaves.tags tag' mem' (.inr (inUse_of_gives gives inUse))
    refine ⟨tag'', mem'', Gives.trans (gives.mono ?_) (gives'.mono ?_)⟩
    · rintro userID ⟨other, hother, isUser⟩
      exact ⟨other, hother, isUser.stay leaves.stays⟩
    · intro userID isUser
      exact ⟨row, hrow, isUser⟩
  · refine Draining.foldl_invariant (I := fun s : ImportState => AtMostOneDefault s.store.tags)
      (fun s row _ => (handled_importRow sound s row).leaves.oneDefault) ?_
    exact one
  · refine Draining.foldl_invariant (I := fun s : ImportState => s.store.tags.Unique Tag.visualID)
      (fun s row _ => (handled_importRow sound s row).leaves.unique) ?_
    exact unique
  · refine Draining.foldl_invariant (I := fun s : ImportState => s.store.users.Unique User.email)
      (fun s row _ => (handled_importRow sound s row).leaves.stays.users.unique) ?_
    exact unique

theorem executeAsyncTask_keepsBadges_exampleRows :
    KeptBadges exampleImport exampleRows (executeAsyncTask exampleImport exampleRows).store :=
  executeAsyncTask_keepsBadges exampleImport_sound exampleRows

end TagsImportAsyncTask

end EvServer.TagsImport
