import EvServer.Lib.Paging
import EvServer.Tags.RoamingTokens
import Mathlib.Data.String.Basic

/-!
# Locations and tokens by pages

A partner reads the locations of a charge point operator and the tokens of an eMSP page by page.
Each answer has the link to the next page, while the offset and the limit leave records
(`OCPIUtils.buildNextUrl`); the number of records is computed apart from the page.

`pages_cover_iff` says for which requests the partner gets to the end, with each record in the
window of the request and behind its offset once.
-/

namespace EvServer

/-! ## Queries -/

/-- A date in a query.  In the text of a link a `+` stands for a blank, so that a date with an
offset such as `+02:00` is no date any more. -/
structure QueryDate where
  instant : Timestamp
  plusOffset : Bool := false
  deriving DecidableEq, Repr

/-- The query of a request for a page; a text that is not of the kind is read like none. -/
structure PageQuery where
  offset : Option ℤ := none
  limit : Option ℤ := none
  date_from : Option QueryDate := none
  date_to : Option QueryDate := none
  deriving DecidableEq, Repr

/-- The query in the text of a link, as it is read again. -/
def PageQuery.linked (query : PageQuery) (offset limit : ℤ) : PageQuery where
  offset := some offset
  limit := some limit
  date_from := query.date_from.filter fun date => !date.plusOffset
  date_to := query.date_to.filter fun date => !date.plusOffset

/-- `OCPIUtils.buildNextUrl`. -/
def OCPIUtils.buildNextUrl (query : PageQuery) (offset limit total : ℤ) : Option PageQuery :=
  if offset + limit < total then some (query.linked (offset + limit) limit) else none

/-- The first record that is asked for. -/
def PageQuery.start (query : PageQuery) : ℤ := query.offset.getD 0

/-- Whether a record is in the window that the dates of a query ask for. -/
def PageQuery.window (query : PageQuery) (lastUpdated : Option Timestamp) : Bool :=
  query.date_from.all (fun date => lastUpdated.any (date.instant ≤ ·)) &&
    query.date_to.all (fun date => lastUpdated.any (· ≤ date.instant))

theorem PageQuery.linked_linked (query : PageQuery) (offset limit offset' limit' : ℤ) :
    (query.linked offset limit).linked offset' limit' = query.linked offset' limit' := by
  unfold PageQuery.linked
  simp only [Option.filter_filter, Bool.and_self]

/-! ## Pages of the database -/

/-- `Number.MAX_SAFE_INTEGER`. -/
def Constants.maxSafeInteger : ℤ := 2 ^ 53 - 1

/-- `OCPI_RECORDS_LIMIT`. -/
def Constants.ocpiRecordsLimit : ℤ := 25

/-- `DB_RECORD_COUNT_CEIL`. -/
def Constants.dbRecordCountCeil : ℕ := 500

/-- `Utils.checkRecordLimit`, of a number. -/
def Utils.checkedRecordLimit (recordLimit : ℤ) : ℤ :=
  min (if recordLimit ≤ 0 then 100 else recordLimit) Constants.maxSafeInteger

/-- `Utils.checkRecordSkip`, of a number. -/
def Utils.checkRecordSkip (recordSkip : ℤ) : ℤ := if recordSkip < 0 then 0 else recordSkip

/-- `DataResult`. -/
structure DataResult (α : Type) where
  count : ℤ
  result : List α

/-- `DatabaseUtils.getCountFromDatabaseCount`. -/
def DatabaseUtils.getCountFromDatabaseCount (count : ℕ) : ℤ :=
  if count = Constants.dbRecordCountCeil then -1 else count

namespace DataResult

variable {α : Type} {found : List α}

/-- A page of what a query has found, with the count that `getSites` and `getTags` give up at
`DB_RECORD_COUNT_CEIL`. -/
def page (found : List α) (limit skip : ℤ) : DataResult α where
  count := DatabaseUtils.getCountFromDatabaseCount
    (found.take Constants.dbRecordCountCeil).length
  result := Paging.read (Utils.checkedRecordLimit limit).toNat (Utils.checkRecordSkip skip).toNat
    found

/-- The count, by a query of its own where it is not determined. -/
def total (found : List α) (records : DataResult α) : ℤ :=
  if records.count = -1 then found.length else records.count

theorem total_page (limit skip : ℤ) : total found (page found limit skip) = found.length := by
  unfold total page DatabaseUtils.getCountFromDatabaseCount Constants.dbRecordCountCeil
  dsimp only
  rw [List.length_take]
  by_cases ceil : min 500 found.length = 500
  · rw [if_pos ceil, if_pos rfl]
  · rw [if_neg ceil, if_neg (by omega)]
    omega

theorem result_page {limit : ℤ} (skip : ℤ) (pos : 0 < limit)
    (enough : limit ≤ Constants.maxSafeInteger ∨
      (found.length : ℤ) ≤ Constants.maxSafeInteger) :
    (page found limit skip).result = Paging.read limit.toNat skip.toNat found := by
  have skipped : (Utils.checkRecordSkip skip).toNat = skip.toNat := by
    unfold Utils.checkRecordSkip
    split <;> omega
  have limited : Utils.checkedRecordLimit limit = min limit Constants.maxSafeInteger := by
    rw [Utils.checkedRecordLimit, if_neg (by omega)]
  show Paging.read (Utils.checkedRecordLimit limit).toNat (Utils.checkRecordSkip skip).toNat
    found = Paging.read limit.toNat skip.toNat found
  rw [skipped, limited, Paging.read, Paging.read]
  by_cases small : limit ≤ Constants.maxSafeInteger
  · rw [min_eq_left small]
  · have countable := enough.resolve_left small
    rw [min_eq_right (by omega), List.take_of_length_le (by rw [List.length_drop]; omega),
      List.take_of_length_le (by rw [List.length_drop]; omega)]

end DataResult

/-! ## Locations -/

namespace CPOLocationsEndpoint

/-- `Site`, with the fields that a location is made of or that a query looks at. -/
structure Site where
  id : String
  name : String := ""
  issuer : Bool := true
  isPublic : Bool := true
  createdOn : Timestamp := 0
  lastChangedOn : Option Timestamp := none
  deriving DecidableEq, Repr

variable {Details : Type}

/-- `OCPILocation`. -/
structure OCPILocation (Details : Type) where
  id : String
  name : String
  last_updated : Timestamp
  /-- The address and the EVSEs. -/
  details : Details
  deriving DecidableEq

/-- `last_updated` of the location of a site. -/
def Site.lastUpdated (site : Site) : Timestamp := site.lastChangedOn.getD site.createdOn

/-- `OCPIUtilsService.convertCPOSite2Location`, which also reads the address and the charging
stations of the site. -/
def convertCPOSite2Location (details : Site → Except String Details) (site : Site) :
    Except String (OCPILocation Details) := do
  let read ← details site
  return { id := site.id, name := site.name, last_updated := site.lastUpdated, details := read }

/-- The sites of `SiteStorage.getSites`, by name. -/
def getSites (sites : Collection Site.id) : List Site :=
  sites.query (fun site => site.issuer && site.isPublic) Site.name

/-- `OCPIUtilsService.getAllLocations`. -/
def getAllLocations (details : Site → Except String Details) (sites : Collection Site.id)
    (limit skip : ℤ) : Except String (DataResult (OCPILocation Details)) := do
  let found := if limit = 0 then DataResult.page (getSites sites) Constants.maxSafeInteger 0
    else DataResult.page (getSites sites) limit skip
  let locations ← found.result.mapM (convertCPOSite2Location details)
  return { count := found.total (getSites sites), result := locations }

/-- The limit of a request for locations. -/
def limitOf (query : PageQuery) : ℤ :=
  (query.limit.filter (· < Constants.ocpiRecordsLimit)).getD Constants.ocpiRecordsLimit

/-- `getLocationsRequest`, without an ID. -/
def getLocationsRequest (details : Site → Except String Details) (sites : Collection Site.id)
    (query : PageQuery) : Except String (List (OCPILocation Details) × Option PageQuery) := do
  let locations ← getAllLocations details sites (limitOf query) query.start
  return (locations.result,
    OCPIUtils.buildNextUrl query query.start (limitOf query) locations.count)

/-! ### The pages -/

variable {details : Site → Except String Details} {sites : Collection Site.id}
variable {query : PageQuery}

theorem limitOf_le (query : PageQuery) : limitOf query ≤ Constants.ocpiRecordsLimit := by
  unfold limitOf
  cases given : query.limit.filter (· < Constants.ocpiRecordsLimit) with
  | none => exact le_rfl
  | some limit => exact (of_decide_eq_true (Option.filter_eq_some_iff.mp given).2).le

/-- The limit of a link is read again as it is. -/
theorem limitOf_linked (query : PageQuery) {limit : ℤ}
    (le : limit ≤ Constants.ocpiRecordsLimit) (offset : ℤ) :
    limitOf (query.linked offset limit) = limit := by
  unfold limitOf PageQuery.linked
  by_cases lt : limit < Constants.ocpiRecordsLimit
  · rw [Option.filter_some_pos (by simpa using lt), Option.getD_some]
  · rw [Option.filter_some_neg (by simpa using lt), Option.getD_none]
    exact le_antisymm (not_lt.mp lt) le

/-- The sites on the page of a request. -/
def pageOf (sites : Collection Site.id) (query : PageQuery) : List Site :=
  (if limitOf query = 0 then DataResult.page (getSites sites) Constants.maxSafeInteger 0
    else DataResult.page (getSites sites) (limitOf query) query.start).result

/-- An answer, by what it is made of. -/
theorem getLocationsRequest_eq (query : PageQuery) :
    getLocationsRequest details sites query =
      (pageOf sites query).mapM (convertCPOSite2Location details) >>= fun locations =>
        return (locations, OCPIUtils.buildNextUrl query query.start (limitOf query)
          (getSites sites).length) := by
  have total : DataResult.total (getSites sites)
      (if limitOf query = 0 then DataResult.page (getSites sites) Constants.maxSafeInteger 0
        else DataResult.page (getSites sites) (limitOf query) query.start) =
      (getSites sites).length := by
    split <;> exact DataResult.total_page _ _
  simp only [getLocationsRequest, getAllLocations, bind_assoc, pure_bind, total, pageOf]

/-- Every answer has the link to the next page. -/
theorem link_of_getLocationsRequest {items : List (OCPILocation Details)}
    {next : Option PageQuery}
    (answer : getLocationsRequest details sites query = .ok (items, next)) :
    next = OCPIUtils.buildNextUrl query query.start (limitOf query) (getSites sites).length := by
  rw [getLocationsRequest_eq] at answer
  obtain ⟨locations, -, same⟩ := Outcome.bind_eq_ok.mp answer
  exact (Prod.mk.inj (Outcome.pure_eq_ok_iff.mp same)).2.symm

theorem getLocationsRequest_of_pos (pos : 0 < limitOf query) :
    getLocationsRequest details sites query =
      Paging.answer (convertCPOSite2Location details) (query.linked · (limitOf query))
        (limitOf query) (getSites sites) query.start := by
  have small : limitOf query ≤ Constants.maxSafeInteger :=
    (limitOf_le query).trans (by decide)
  rw [getLocationsRequest_eq, pageOf, if_neg pos.ne', DataResult.result_page _ pos (.inl small),
    Paging.answer]
  rfl

theorem getLocationsRequest_linked (pos : 0 < limitOf query) (offset : ℤ) :
    getLocationsRequest details sites (query.linked offset (limitOf query)) =
      Paging.answer (convertCPOSite2Location details) (query.linked · (limitOf query))
        (limitOf query) (getSites sites) offset := by
  have limit := limitOf_linked query (limitOf_le query) offset
  rw [getLocationsRequest_of_pos (by rwa [limit]), limit]
  simp only [PageQuery.linked_linked]
  rfl

/-- The sites in the window of a request, from its offset on. -/
def wantedSites (sites : Collection Site.id) (query : PageQuery) : List Site :=
  ((getSites sites).filter fun site => query.window (some site.lastUpdated)).drop
    query.start.toNat

/-- When the pages of locations cover the window. -/
def LocationsCover (sites : Collection Site.id) (query : PageQuery) : Prop :=
  if limitOf query = 0 then getSites sites = [] ∧ 0 ≤ query.start
  else if limitOf query < 0 then (getSites sites).length ≤ query.start + limitOf query
  else Paging.LinksCover (limitOf query) query.start
    (fun site => query.window (some site.lastUpdated)) (getSites sites) (getSites sites)

theorem nodup_getSites (sites : Collection Site.id) : ((getSites sites).map Site.id).Nodup :=
  sites.nodup_query _ _

theorem id_convertCPOSite2Location (site : Site) (location : OCPILocation Details)
    (converts : convertCPOSite2Location details site = .ok location) : location.id = site.id := by
  obtain ⟨read, -, same⟩ := Outcome.bind_eq_ok.mp converts
  rw [← Outcome.pure_eq_ok_iff.mp same]

theorem exists_convertCPOSite2Location_iff {site : Site} :
    (∃ location, convertCPOSite2Location details site = .ok location) ↔
      ∃ read, details site = .ok read := by
  rw [convertCPOSite2Location]
  cases details site with
  | error error => simp [bind, Except.bind]
  | ok read => simp [bind, Except.bind, pure, Except.pure]

theorem collectsAll_iff_of_pos (pos : 0 < limitOf query) :
    Paging.CollectsAll (getLocationsRequest details sites) query
        (convertCPOSite2Location details) (wantedSites sites query) ↔
      LocationsCover sites query ∧
        ∀ site ∈ wantedSites sites query, ∃ read, details site = .ok read := by
  have nodup : (getSites sites).Nodup := (nodup_getSites sites).of_map _
  have wanted (site : Site) (mem : site ∈ wantedSites sites query) : site ∈ getSites sites :=
    List.mem_of_mem_filter (List.mem_of_mem_drop mem)
  have once : (wantedSites sites query).Nodup :=
    (nodup.filter _).sublist (List.drop_sublist _ _)
  rw [Paging.collectsAll_iff pos id_convertCPOSite2Location (nodup_getSites sites)
    (fun _ mem => mem) (fun _ mem => mem) wanted once (getLocationsRequest_of_pos pos)
    (getLocationsRequest_linked pos), wantedSites, Paging.recordsFrom_perm_iff pos rfl nodup,
    LocationsCover, if_neg pos.ne', if_neg (not_lt.mpr pos.le)]
  simp only [exists_convertCPOSite2Location_iff]

/-- With a limit that is not positive the links do not lead on. -/
theorem not_collects_of_nonpos {found : List (OCPILocation Details)} (nonpos : limitOf query ≤ 0)
    (more : query.start + limitOf query < (getSites sites).length) :
    ¬ Paging.Collects (getLocationsRequest details sites) query found := by
  refine Paging.not_collects_of_forever
    (I := fun query => limitOf query ≤ 0 ∧
      query.start + limitOf query < (getSites sites).length) ?_ ?_ ⟨nonpos, more⟩
  · rintro query ⟨-, more⟩ items answer
    have := link_of_getLocationsRequest answer
    rw [OCPIUtils.buildNextUrl, if_pos more] at this
    cases this
  · rintro query items next ⟨nonpos, more⟩ answer
    have := link_of_getLocationsRequest answer
    rw [OCPIUtils.buildNextUrl, if_pos more, Option.some.injEq] at this
    subst this
    have limit := limitOf_linked query (limitOf_le query)
      (query.start + limitOf query)
    have start : (query.linked (query.start + limitOf query) (limitOf query)).start =
        query.start + limitOf query := rfl
    rw [limit, start]
    exact ⟨nonpos, by omega⟩

/-- The last answer. -/
theorem collects_of_last (last : (getSites sites).length ≤ query.start + limitOf query)
    {found : List (OCPILocation Details)} :
    Paging.Collects (getLocationsRequest details sites) query found ↔
      (pageOf sites query).mapM (convertCPOSite2Location details) = .ok found := by
  have link : OCPIUtils.buildNextUrl query query.start (limitOf query)
      (getSites sites).length = none := if_neg (by omega)
  exact Paging.collects_of_no_link (by rw [getLocationsRequest_eq, link])

theorem wantedSites_eq_nil (beyond : (getSites sites).length ≤ query.start) :
    wantedSites sites query = [] := by
  refine List.drop_eq_nil_of_le ?_
  have fewer := List.length_filter_le
    (fun site : Site => query.window (some site.lastUpdated)) (getSites sites)
  omega

/-- With a limit of zero every answer has all the locations. -/
theorem collectsAll_iff_of_zero (zero : limitOf query = 0) :
    Paging.CollectsAll (getLocationsRequest details sites) query
        (convertCPOSite2Location details) (wantedSites sites query) ↔
      getSites sites = [] ∧ 0 ≤ query.start := by
  by_cases last : (getSites sites).length ≤ query.start + limitOf query
  · have beyond : (getSites sites).length ≤ query.start := by omega
    rw [wantedSites_eq_nil beyond, Paging.collectsAll_nil_iff, collects_of_last last, pageOf,
      if_pos zero, Outcome.mapM_eq_ok_nil, DataResult.result_page _ (by decide) (.inl le_rfl),
      Paging.read, List.take_eq_nil_iff]
    constructor
    · rintro (none | empty)
      · exact absurd none (by decide)
      · exact ⟨empty, by omega⟩
    · rintro ⟨empty, -⟩
      exact .inr empty
  · refine iff_of_false ?_ ?_
    · rintro ⟨found, items, collects, -, -⟩
      exact not_collects_of_nonpos zero.le (by omega) collects
    · rintro ⟨empty, nonneg⟩
      rw [empty, List.length_nil] at last
      omega

/-- With a negative limit only an answer behind the locations is the last one. -/
theorem collectsAll_iff_of_neg (neg : limitOf query < 0) :
    Paging.CollectsAll (getLocationsRequest details sites) query
        (convertCPOSite2Location details) (wantedSites sites query) ↔
      (getSites sites).length ≤ query.start + limitOf query := by
  by_cases last : (getSites sites).length ≤ query.start + limitOf query
  · have beyond : (getSites sites).length ≤ query.start := by omega
    have skip : Utils.checkRecordSkip query.start = query.start := if_neg (by omega)
    have empty : (DataResult.page (getSites sites) (limitOf query) query.start).result = [] := by
      show Paging.read _ (Utils.checkRecordSkip query.start).toNat (getSites sites) = []
      rw [skip, Paging.read, List.drop_eq_nil_of_le (by omega), List.take_nil]
    rw [wantedSites_eq_nil beyond, Paging.collectsAll_nil_iff, collects_of_last last, pageOf,
      if_neg neg.ne, empty]
    exact iff_of_true rfl last
  · refine iff_of_false ?_ last
    rintro ⟨found, items, collects, -, -⟩
    exact not_collects_of_nonpos neg.le (by omega) collects

/-- **When a partner gets all the locations** of a window. -/
theorem collectsAll_iff (query : PageQuery) :
    Paging.CollectsAll (getLocationsRequest details sites) query
        (convertCPOSite2Location details) (wantedSites sites query) ↔
      LocationsCover sites query ∧
        ∀ site ∈ wantedSites sites query, ∃ read, details site = .ok read := by
  rcases lt_trichotomy (limitOf query) 0 with neg | zero | pos
  · rw [collectsAll_iff_of_neg neg, LocationsCover, if_neg neg.ne, if_pos neg, iff_self_and]
    intro last
    rw [wantedSites_eq_nil (by omega)]
    exact List.forall_mem_nil _
  · rw [collectsAll_iff_of_zero zero, LocationsCover, if_pos zero, iff_self_and]
    rintro ⟨empty, nonneg⟩
    rw [wantedSites_eq_nil (by rwa [empty])]
    exact List.forall_mem_nil _
  · exact collectsAll_iff_of_pos pos

end CPOLocationsEndpoint

/-! ## Tokens -/

/-- The badges of a tenant, whose number is a number. -/
structure CountedTags extends TagStore where
  countable : (tags.docs.length : ℤ) ≤ Constants.maxSafeInteger := by decide

namespace EMSPTokensEndpoint

/-- The filter of `getTags` on `lastChangedOn`; the second date takes the place of the first. -/
def changedWithin (dateFrom dateTo lastChangedOn : Option Timestamp) : Bool :=
  match dateTo, dateFrom with
  | some dateTo, _ => lastChangedOn.any (· ≤ dateTo)
  | none, some dateFrom => lastChangedOn.any (dateFrom ≤ ·)
  | none, none => true

/-- `TagStorage.getTags`, with dates. -/
def getTags (tags : Tags) (dateFrom dateTo : Option Timestamp) : List Tag :=
  tags.query
    (fun tag => OCPIUtilsService.localUserTags.passes tag &&
      changedWithin dateFrom dateTo tag.lastChangedOn)
    fun tag => -tag.createdOn

/-- `OCPIUtilsService.getTokens`, with dates. -/
def getTokens (context : TagContext) (store : TagStore) (limit skip : ℤ)
    (dateFrom dateTo : Option Timestamp) : DataResult OCPIToken :=
  let tags := DataResult.page (getTags store.tags dateFrom dateTo) limit skip
  { count := tags.total (getTags store.tags dateFrom dateTo)
    result := tags.result.map (OCPIUtilsService.tokenOf context store) }

/-- The limit of a request for tokens. -/
def limitOf (query : PageQuery) : ℤ :=
  (query.limit.filter (0 < ·)).getD Constants.maxSafeInteger

/-- `getTokensRequest`. -/
def getTokensRequest (context : TagContext) (store : TagStore) (query : PageQuery) :
    Except String (List OCPIToken × Option PageQuery) :=
  let tokens := getTokens context store (limitOf query) query.start
    (query.date_from.map (·.instant)) (query.date_to.map (·.instant))
  .ok (tokens.result,
    OCPIUtils.buildNextUrl query query.start (limitOf query) tokens.count)

/-! ### The pages -/

/-- The badges that a request is about. -/
def tagsOf (store : TagStore) (query : PageQuery) : List Tag :=
  getTags store.tags (query.date_from.map (·.instant)) (query.date_to.map (·.instant))

variable {context : TagContext} {store : CountedTags} {query : PageQuery}

theorem limitOf_pos (query : PageQuery) : 0 < limitOf query := by
  unfold limitOf
  cases given : query.limit.filter (0 < ·) with
  | none => exact by decide
  | some limit => exact of_decide_eq_true (Option.filter_eq_some_iff.mp given).2

theorem limitOf_linked (query : PageQuery) {limit : ℤ} (pos : 0 < limit) (offset : ℤ) :
    limitOf (query.linked offset limit) = limit := by
  unfold limitOf PageQuery.linked
  rw [Option.filter_some_pos (by simpa using pos), Option.getD_some]

theorem length_tagsOf_le (store : CountedTags) (query : PageQuery) :
    ((tagsOf store.toTagStore query).length : ℤ) ≤ Constants.maxSafeInteger := by
  refine le_trans ?_ store.countable
  rw [tagsOf, getTags, Collection.query, List.length_insertionSort]
  exact_mod_cast List.length_filter_le _ _

theorem getTokensRequest_eq (query : PageQuery) :
    getTokensRequest context store.toTagStore query =
      Paging.answer (fun tag => pure (OCPIUtilsService.tokenOf context store.toTagStore tag))
        (query.linked · (limitOf query)) (limitOf query) (tagsOf store.toTagStore query)
        query.start := by
  have page := DataResult.result_page query.start (limitOf_pos query)
    (.inr (length_tagsOf_le store query))
  rw [Paging.answer, List.mapM_pure, pure_bind, ← page]
  show Except.ok (_, OCPIUtils.buildNextUrl query query.start (limitOf query)
    (DataResult.total _ _)) = _
  rw [DataResult.total_page]
  rfl

/-- The badges that a linked request is about; it has the dates that can be read again. -/
def linkedTags (store : TagStore) (query : PageQuery) : List Tag :=
  tagsOf store (query.linked query.start (limitOf query))

theorem getTokensRequest_linked (query : PageQuery) (offset : ℤ) :
    getTokensRequest context store.toTagStore (query.linked offset (limitOf query)) =
      Paging.answer (fun tag => pure (OCPIUtilsService.tokenOf context store.toTagStore tag))
        (query.linked · (limitOf query)) (limitOf query) (linkedTags store.toTagStore query)
        offset := by
  have limit := limitOf_linked query (limitOf_pos query) offset
  rw [getTokensRequest_eq, limit]
  simp only [PageQuery.linked_linked]
  rfl

/-- A badge in the window passes the filters of fewer dates. -/
theorem changedWithin_of_window {dateFrom dateTo : Option QueryDate}
    {lastChangedOn : Option Timestamp} (inside : query.window lastChangedOn)
    (ofFrom : ∀ date ∈ dateFrom, date ∈ query.date_from)
    (ofTo : ∀ date ∈ dateTo, date ∈ query.date_to) :
    changedWithin (dateFrom.map (·.instant)) (dateTo.map (·.instant)) lastChangedOn := by
  rw [PageQuery.window, Bool.and_eq_true, Option.all_eq_true, Option.all_eq_true] at inside
  cases dateTo with
  | some date => exact inside.2 date (ofTo date rfl)
  | none =>
      cases dateFrom with
      | some date => exact inside.1 date (ofFrom date rfl)
      | none => rfl

/-- The badges in the window of a request. -/
def windowTags (store : TagStore) (query : PageQuery) : List Tag :=
  (TagStorage.getTags store.tags OCPIUtilsService.localUserTags).filter
    fun tag => query.window tag.lastChangedOn

theorem filter_window_getTags {dateFrom dateTo : Option QueryDate}
    (ofFrom : ∀ date ∈ dateFrom, date ∈ query.date_from)
    (ofTo : ∀ date ∈ dateTo, date ∈ query.date_to) :
    (getTags store.tags (dateFrom.map (·.instant)) (dateTo.map (·.instant))).filter
        (fun tag => query.window tag.lastChangedOn) = windowTags store.toTagStore query := by
  rw [windowTags, getTags, TagStorage.getTags, Collection.query, Collection.query,
    List.filter_insertionSort, List.filter_insertionSort, List.filter_filter, List.filter_filter]
  congr 1
  refine List.filter_congr fun tag _ => ?_
  cases inside : query.window tag.lastChangedOn with
  | false => rfl
  | true => rw [changedWithin_of_window inside ofFrom ofTo, Bool.and_true]

theorem filter_window_tagsOf :
    (tagsOf store.toTagStore query).filter (fun tag => query.window tag.lastChangedOn) =
      windowTags store.toTagStore query :=
  filter_window_getTags (fun _ mem => mem) fun _ mem => mem

theorem filter_window_linkedTags :
    (linkedTags store.toTagStore query).filter (fun tag => query.window tag.lastChangedOn) =
      windowTags store.toTagStore query :=
  filter_window_getTags (fun _ mem => (Option.filter_eq_some_iff.mp mem).1)
    fun _ mem => (Option.filter_eq_some_iff.mp mem).1

/-- **When a partner gets all the tokens** of a window. -/
theorem collectsAll_iff (query : PageQuery) :
    Paging.CollectsAll (getTokensRequest context store.toTagStore) query
        (fun tag => pure (OCPIUtilsService.tokenOf context store.toTagStore tag))
        ((windowTags store.toTagStore query).drop query.start.toNat) ↔
      Paging.LinksCover (limitOf query) query.start (fun tag => query.window tag.lastChangedOn)
        (tagsOf store.toTagStore query) (linkedTags store.toTagStore query) := by
  have nodup : ((tagsOf store.toTagStore query).map Tag.id).Nodup :=
    store.tags.nodup_query _ _
  have stored {dateFrom dateTo : Option Timestamp} {tag : Tag}
      (mem : tag ∈ getTags store.tags dateFrom dateTo) : tag ∈ store.tags.docs :=
    (Collection.mem_query.mp mem).1
  have wanted (tag : Tag) (mem : tag ∈ (windowTags store.toTagStore query).drop
      query.start.toNat) : tag ∈ store.tags.docs :=
    (TagStorage.mem_getTags.mp (List.mem_of_mem_filter (List.mem_of_mem_drop mem))).1
  have once : ((windowTags store.toTagStore query).drop query.start.toNat).Nodup := by
    rw [← filter_window_tagsOf]
    exact ((nodup.of_map _).filter _).sublist (List.drop_sublist _ _)
  have keyed (tag : Tag) (token : OCPIToken)
      (converts : (pure (OCPIUtilsService.tokenOf context store.toTagStore tag) :
        Except String OCPIToken) = .ok token) : token.uid = tag.id := by
    rw [← Outcome.pure_eq_ok_iff.mp converts]
    rfl
  rw [Paging.collectsAll_iff (limitOf_pos query) keyed store.tags.nodup (fun _ => stored)
    (fun _ => stored) wanted once (getTokensRequest_eq query) (getTokensRequest_linked query),
    ← Paging.recordsFrom_perm_iff (limitOf_pos query)
      (filter_window_tagsOf.trans filter_window_linkedTags.symm) (nodup.of_map _),
    filter_window_tagsOf]
  exact and_iff_left fun tag _ => ⟨_, rfl⟩

end EMSPTokensEndpoint

/-- **When the pages cover the window** of a request, at either endpoint. -/
theorem pages_cover_iff {Details : Type}
    (details : CPOLocationsEndpoint.Site → Except String Details)
    (sites : Collection CPOLocationsEndpoint.Site.id) (context : TagContext) (store : CountedTags)
    (query : PageQuery) :
    (Paging.CollectsAll (CPOLocationsEndpoint.getLocationsRequest details sites) query
        (CPOLocationsEndpoint.convertCPOSite2Location details)
        (CPOLocationsEndpoint.wantedSites sites query) ↔
      CPOLocationsEndpoint.LocationsCover sites query ∧
        ∀ site ∈ CPOLocationsEndpoint.wantedSites sites query, ∃ read, details site = .ok read) ∧
    (Paging.CollectsAll (EMSPTokensEndpoint.getTokensRequest context store.toTagStore) query
        (fun tag => pure (OCPIUtilsService.tokenOf context store.toTagStore tag))
        ((EMSPTokensEndpoint.windowTags store.toTagStore query).drop query.start.toNat) ↔
      Paging.LinksCover (EMSPTokensEndpoint.limitOf query) query.start
        (fun tag => query.window tag.lastChangedOn)
        (EMSPTokensEndpoint.tagsOf store.toTagStore query)
        (EMSPTokensEndpoint.linkedTags store.toTagStore query)) :=
  ⟨CPOLocationsEndpoint.collectsAll_iff query, EMSPTokensEndpoint.collectsAll_iff query⟩

/-- A site that is read again and again with a limit of zero, and a badge that has changed before
both dates of a window. -/
theorem not_pages_cover :
    (let sites : Collection CPOLocationsEndpoint.Site.id := ⟨[{ id := "here" }], by decide⟩
      let query : PageQuery := { limit := some 0 }
      ¬ Paging.CollectsAll (CPOLocationsEndpoint.getLocationsRequest (fun _ => .ok ()) sites) query
        (CPOLocationsEndpoint.convertCPOSite2Location fun _ => .ok ())
        (CPOLocationsEndpoint.wantedSites sites query)) ∧
    (let badge : Tag :=
        { id := "badge", visualID := "badge", active := true, userID := some "user"
          lastChangedOn := some 5 }
      let store : TagStore := { tags := ⟨[badge], by decide⟩, users := ["user"] }
      let query : PageQuery := { date_from := some ⟨10, false⟩, date_to := some ⟨20, false⟩ }
      ¬ Paging.CollectsAll (EMSPTokensEndpoint.getTokensRequest { loggedUserID := "user" } store)
        query (fun tag => pure (OCPIUtilsService.tokenOf { loggedUserID := "user" } store tag))
        ((EMSPTokensEndpoint.windowTags store query).drop query.start.toNat)) := by
  constructor
  · intro sites query collects
    have cover := (CPOLocationsEndpoint.collectsAll_iff_of_zero rfl).mp collects
    exact absurd cover.1 (by decide)
  · intro badge store query collects
    have cover := (@EMSPTokensEndpoint.collectsAll_iff _ { store with } query).mp collects
    rw [Paging.LinksCover, if_pos (by decide)] at cover
    revert cover
    decide

end EvServer
