import EvServer.Authorization.TransactionList

/-!
# Which filters are kept

Whatever is asked for, somebody with role basic is shown his own transactions and those on sites
that he administers or owns.  What he asks for besides is kept, unless one of the filters is lost
that the list drops or the statistics replace; then it depends on the transactions that are
stored.
-/

namespace EvServer.Authorization

open AccessControl

variable {acl : RoleAcl} {organization : Organization} {userToken : UserToken}
  {request : HttpTransactionsRequest} {transaction : Transaction}

/-- The transaction took place on one of the sites. -/
def Transaction.IsOn (transaction : Transaction) (siteIDs : List String) : Prop :=
  ∃ siteID ∈ siteIDs, transaction.siteID = some siteID

/-- The transaction is the user's own, or on a site that the user administers or owns, as it is
stored or as it was when the token was made. -/
def Transaction.IsVisible (organization : Organization) (userToken : UserToken)
    (transaction : Transaction) : Prop :=
  transaction.userID = some userToken.id ∨
    transaction.IsOn (Authorizations.siteAdminAndOwnerIDs organization userToken) ∨
    isIn transaction.siteID userToken.sitesAdmin = true

/-- A filter that is a list holds, if it is asked for. -/
def IsRequested (ids : List String) (holds : List String → Bool) : Prop := ids ≠ [] → holds ids

theorem all_nonEmptyArray_iff {ids : List String} {holds : List String → Bool} :
    (Utils.nonEmptyArray (some ids)).all holds = true ↔ IsRequested ids holds := by
  by_cases empty : ids = [] <;> simp [IsRequested, empty]

theorem IsRequested.imp {ids : List String} {holds holds' : List String → Bool}
    (requested : IsRequested ids holds) (imp : holds ids → holds' ids) : IsRequested ids holds' :=
  fun asked => imp (requested asked)

section Sites

variable {siteIDs siteIDs' : List String} {siteID : Option String}

theorem isIn_iff : isIn siteID siteIDs ↔ ∃ id ∈ siteIDs, convertToObjectID id = siteID := by
  simp [isIn]

theorem isIn_mono (h : isIn siteID siteIDs) (sub : siteIDs ⊆ siteIDs') : isIn siteID siteIDs' := by
  obtain ⟨id, mem, same⟩ := isIn_iff.mp h
  exact isIn_iff.mpr ⟨id, sub mem, same⟩

/-- The sites that a user administers or owns are stored. -/
theorem ne_empty_of_mem_siteAdminAndOwnerIDs {id : String}
    (mem : id ∈ Authorizations.siteAdminAndOwnerIDs organization userToken) : id ≠ "" := by
  rw [Authorizations.siteAdminAndOwnerIDs, List.mem_eraseDups, List.mem_append] at mem
  have stored : (organization.sites.find id).isSome := by
    rcases mem with mem | mem
    · obtain ⟨userSite, ofUser, _, rfl⟩ :=
        DynamicAuthorizationFactory.mem_getSitesAdminSiteIDs.mp mem
      exact (DynamicAuthorizationFactory.mem_getUserSites.mp ofUser).2.2
    · obtain ⟨userSite, ofUser, _, rfl⟩ :=
        DynamicAuthorizationFactory.mem_getSitesOwnerSiteIDs.mp mem
      exact (DynamicAuthorizationFactory.mem_getUserSites.mp ofUser).2.2
  obtain ⟨site, found⟩ := Option.isSome_iff_exists.mp stored
  rw [← Collection.key_of_find found]
  exact site.ne_id.symm

theorem isIn_siteAdminAndOwnerIDs :
    isIn transaction.siteID (Authorizations.siteAdminAndOwnerIDs organization userToken) ↔
      transaction.IsOn (Authorizations.siteAdminAndOwnerIDs organization userToken) := by
  rw [isIn_iff]
  apply exists_congr
  intro id
  apply and_congr_right
  intro mem
  rw [convertToObjectID, if_neg (ne_empty_of_mem_siteAdminAndOwnerIDs mem)]
  exact eq_comm

end Sites

/-! ## The list -/

/-- What the list should hold to, for one transaction. -/
structure HttpTransactionsRequest.Asked (organization : Organization) (userToken : UserToken)
    (request : HttpTransactionsRequest) (transaction : Transaction) : Prop where
  visible : transaction.IsVisible organization userToken
  station : IsRequested request.chargingStationID (transaction.chargeBoxID ∈ ·)
  user : IsRequested request.userID (isIn transaction.userID ·)
  badge : IsRequested request.tagID (transaction.tagID ∈ ·)
  /-- The badge has one of the visual IDs. -/
  visualBadge : IsRequested request.visualTagID fun visualIDs =>
    transaction.tagID ∈ TagStorage.getTagIDs organization visualIDs
  siteArea : IsRequested request.siteAreaID (isIn transaction.siteAreaID ·)
  site : IsRequested request.siteID (isIn transaction.siteID ·)
  dates : isWithin request.startDateTime request.endDateTime transaction.timestamp = true
  others : request.others transaction = true

/-- What the list does hold to: the badges with the visual IDs replace those that are asked for,
unless there are none, and the sites count if the component is active. -/
structure HttpTransactionsRequest.Kept (organization : Organization) (userToken : UserToken)
    (request : HttpTransactionsRequest) (transaction : Transaction) : Prop where
  visible : transaction.userID = some userToken.id ∨
    Utils.isComponentActiveFromToken userToken .organization = true ∧
      transaction.IsOn (Authorizations.siteAdminAndOwnerIDs organization userToken)
  station : IsRequested request.chargingStationID (transaction.chargeBoxID ∈ ·)
  user : IsRequested request.userID (isIn transaction.userID ·)
  badge : TagStorage.getTagIDs organization request.visualTagID = [] →
    IsRequested request.tagID (transaction.tagID ∈ ·)
  visualBadge : IsRequested (TagStorage.getTagIDs organization request.visualTagID)
    (transaction.tagID ∈ ·)
  siteArea : IsRequested request.siteAreaID (isIn transaction.siteAreaID ·)
  site : Utils.isComponentActiveFromToken userToken .organization = true →
    IsRequested request.siteID fun siteIDs => isIn transaction.siteID
      (siteIDs.filter (· ∈ Authorizations.siteAdminAndOwnerIDs organization userToken))
  dates : isWithin request.startDateTime request.endDateTime transaction.timestamp = true
  others : request.others transaction = true

theorem requestedTagIDs_eq :
    TransactionService.requestedTagIDs organization request =
      if TagStorage.getTagIDs organization request.visualTagID = [] then request.tagID
      else TagStorage.getTagIDs organization request.visualTagID := by
  by_cases asked : request.visualTagID = []
  · simp [TransactionService.requestedTagIDs, TagStorage.getTagIDs, asked]
  · simp [TransactionService.requestedTagIDs, asked]

/-- The filters of the query are those that are kept. -/
theorem passes_iff_kept (basic : userToken.role = .basic) :
    TransactionStorage.passes (TransactionService.params organization userToken request)
        transaction ↔ request.Kept organization userToken transaction := by
  have visible : TransactionStorage.ownerMatch (some userToken.id)
      (Authorizations.getAuthorizedSiteAdminIDs organization userToken none) transaction = true ↔
        transaction.userID = some userToken.id ∨
          Utils.isComponentActiveFromToken userToken .organization = true ∧
            transaction.IsOn (Authorizations.siteAdminAndOwnerIDs organization userToken) := by
    rw [← isIn_siteAdminAndOwnerIDs]
    by_cases active : Utils.isComponentActiveFromToken userToken .organization = true <;>
      simp [TransactionStorage.ownerMatch, Authorizations.getAuthorizedSiteAdminIDs, active, basic]
  have badge : (Utils.nonEmptyArray
        (some (TransactionService.requestedTagIDs organization request))).all
        (transaction.tagID ∈ ·) = true ↔
      (TagStorage.getTagIDs organization request.visualTagID = [] →
        IsRequested request.tagID (transaction.tagID ∈ ·)) ∧
      IsRequested (TagStorage.getTagIDs organization request.visualTagID)
        (transaction.tagID ∈ ·) := by
    rw [all_nonEmptyArray_iff, requestedTagIDs_eq]
    by_cases found : TagStorage.getTagIDs organization request.visualTagID = [] <;>
      simp [found, IsRequested]
  have site : (TransactionService.params organization userToken request).siteIDs.all
        (isIn transaction.siteID ·) = true ↔
      (Utils.isComponentActiveFromToken userToken .organization = true →
        IsRequested request.siteID fun siteIDs => isIn transaction.siteID
          (siteIDs.filter (· ∈ Authorizations.siteAdminAndOwnerIDs organization userToken))) := by
    by_cases asked : request.siteID = []
    · simp [TransactionService.params, asked, IsRequested]
    · by_cases active : Utils.isComponentActiveFromToken userToken .organization = true <;>
        simp [TransactionService.params, Authorizations.getAuthorizedSiteAdminIDs, asked, active,
          basic, IsRequested]
  have owner : (TransactionService.params organization userToken request).ownerID =
      some userToken.id := if_pos basic
  simp only [TransactionStorage.passes, Bool.and_eq_true, owner, site]
  constructor
  · rintro ⟨⟨⟨⟨⟨⟨⟨matched, others⟩, user⟩, station⟩, badges⟩, dates⟩, siteArea⟩, site⟩
    obtain ⟨byID, byVisualID⟩ := badge.mp badges
    exact
      { visible := visible.mp matched
        station := all_nonEmptyArray_iff.mp station
        user := all_nonEmptyArray_iff.mp user
        badge := byID
        visualBadge := byVisualID
        siteArea := all_nonEmptyArray_iff.mp siteArea
        site := site
        dates := dates
        others := others }
  · intro kept
    exact ⟨⟨⟨⟨⟨⟨⟨visible.mpr kept.visible, kept.others⟩, all_nonEmptyArray_iff.mpr kept.user⟩,
      all_nonEmptyArray_iff.mpr kept.station⟩, badge.mpr ⟨kept.badge, kept.visualBadge⟩⟩,
      kept.dates⟩, all_nonEmptyArray_iff.mpr kept.siteArea⟩, kept.site⟩

/-- The list, for a user with role basic. -/
theorem exists_mem_getTransactions_iff (acl : RoleAcl) (basic : userToken.role = .basic)
    (roles : userToken.HasRoles) :
    (∃ dbParams transactions, TransactionService.getTransactions acl AUTHORIZATION_DEFINITION
        organization userToken request dbParams = .ok transactions ∧ transaction ∈ transactions) ↔
      transaction ∈ organization.transactions.docs ∧
        request.Kept organization userToken transaction := by
  have granted : ((AUTHORIZATION_DEFINITION.rules userToken.rolesACL .transaction .list).any
      fun rule => rule.condition.isNone) = true := by
    rcases roles.basic_cases basic with same | same | same | same <;> rw [same] <;> decide
  have permitted : Authorizations.canListTransactions acl AUTHORIZATION_DEFINITION userToken =
      true := canPerformAction_of_unconditional granted
  simp only [TransactionService.getTransactions, permitted, Bool.true_eq_false,
    Outcome.refuse_of_not not_false, Outcome.ok_bind, Outcome.pure_eq_ok_iff, exists_eq_left']
  rw [← passes_iff_kept basic]
  constructor
  · rintro ⟨dbParams, onPage⟩
    exact List.mem_filter.mp (mem_of_mem_page onPage)
  · rintro ⟨mem, passes⟩
    exact ⟨_, page_all (List.mem_filter.mpr ⟨mem, passes⟩)⟩

theorem getTransactions_asked_iff (acl : RoleAcl) (basic : userToken.role = .basic)
    (roles : userToken.HasRoles) :
    (∀ dbParams transactions, TransactionService.getTransactions acl AUTHORIZATION_DEFINITION
        organization userToken request dbParams = .ok transactions →
      ∀ transaction ∈ transactions, request.Asked organization userToken transaction) ↔
    ∀ transaction ∈ organization.transactions.docs,
      request.Kept organization userToken transaction →
        (Utils.isComponentActiveFromToken userToken .organization = false →
          IsRequested request.siteID (isIn transaction.siteID ·)) ∧
        (request.visualTagID ≠ [] →
          TagStorage.getTagIDs organization request.visualTagID ≠ [] ∧
            IsRequested request.tagID (transaction.tagID ∈ ·)) := by
  constructor
  · intro asked transaction mem kept
    obtain ⟨dbParams, transactions, listed, shown⟩ :=
      (exists_mem_getTransactions_iff acl basic roles).mpr ⟨mem, kept⟩
    have asked := asked dbParams transactions listed transaction shown
    refine ⟨fun _ => asked.site, fun byVisualID => ⟨?_, asked.badge⟩⟩
    exact List.ne_nil_of_mem (of_decide_eq_true (asked.visualBadge byVisualID))
  · intro condition dbParams transactions listed transaction shown
    obtain ⟨mem, kept⟩ :=
      (exists_mem_getTransactions_iff acl basic roles).mp ⟨dbParams, transactions, listed, shown⟩
    obtain ⟨sites, badges⟩ := condition transaction mem kept
    exact
      { visible := kept.visible.imp_right fun visible => .inl visible.2
        station := kept.station
        user := kept.user
        badge := by
          by_cases byVisualID : request.visualTagID = []
          · apply kept.badge
            rw [byVisualID]
            simp [TagStorage.getTagIDs]
          · exact (badges byVisualID).2
        visualBadge := fun byVisualID => kept.visualBadge (badges byVisualID).1
        siteArea := kept.siteArea
        site := by
          by_cases active : Utils.isComponentActiveFromToken userToken .organization = true
          · exact (kept.site active).imp fun within => isIn_mono within (List.filter_subset_self _)
          · exact sites (Bool.eq_false_of_not_eq_true active)
        dates := kept.dates
        others := kept.others }

/-! ## The statistics -/

section Statistics

variable {calendar : Calendar} {filteredRequest : HttpStatisticsRequest}

/-- What the statistics should hold to, for one transaction. -/
structure HttpStatisticsRequest.Asked (calendar : Calendar) (organization : Organization)
    (userToken : UserToken) (filteredRequest : HttpStatisticsRequest)
    (transaction : Transaction) : Prop where
  visible : transaction.IsVisible organization userToken
  site : IsRequested filteredRequest.siteID (isIn transaction.siteID ·)
  siteArea : IsRequested filteredRequest.siteAreaID (isIn transaction.siteAreaID ·)
  station : IsRequested filteredRequest.chargingStationID (transaction.chargeBoxID ∈ ·)
  user : IsRequested filteredRequest.userID (isIn transaction.userID ·)
  dates : isWithin filteredRequest.startDateTime filteredRequest.endDateTime
    transaction.timestamp = true
  year : 0 < filteredRequest.year →
    isWithin (some (calendar.startOfYear filteredRequest.year))
      (some (calendar.endOfYear filteredRequest.year)) transaction.timestamp = true

/-- What the statistics do hold to: the sites of a site admin replace those that are asked for,
the dates replace the year, and the user is only looked at to show his own transactions. -/
structure HttpStatisticsRequest.Kept (calendar : Calendar) (userToken : UserToken)
    (filteredRequest : HttpStatisticsRequest) (transaction : Transaction) : Prop where
  siteAdmin : userToken.sitesAdmin ≠ [] → isIn transaction.siteID userToken.sitesAdmin = true
  own : userToken.sitesAdmin = [] → transaction.userID = some userToken.id ∧
    IsRequested filteredRequest.siteID (isIn transaction.siteID ·)
  siteArea : IsRequested filteredRequest.siteAreaID (isIn transaction.siteAreaID ·)
  station : IsRequested filteredRequest.chargingStationID (transaction.chargeBoxID ∈ ·)
  dates : isWithin filteredRequest.startDateTime filteredRequest.endDateTime
    transaction.timestamp = true
  startOfYear : 0 < filteredRequest.year → filteredRequest.startDateTime = none →
    calendar.startOfYear filteredRequest.year ≤ transaction.timestamp
  endOfYear : 0 < filteredRequest.year → filteredRequest.endDateTime = none →
    transaction.timestamp ≤ calendar.endOfYear filteredRequest.year

/-- The dates that the statistics are restricted to. -/
theorem isWithin_year_iff {startDateTime endDateTime : Option Timestamp}
    {start finish timestamp : Timestamp} {asked : Prop} [Decidable asked] :
    isWithin (startDateTime <|> if asked then some start else none)
        (endDateTime <|> if asked then some finish else none) timestamp = true ↔
      isWithin startDateTime endDateTime timestamp = true ∧
        (asked → startDateTime = none → start ≤ timestamp) ∧
        (asked → endDateTime = none → timestamp ≤ finish) := by
  by_cases h : asked <;> rcases startDateTime with _ | startDateTime <;>
    rcases endDateTime with _ | endDateTime <;> simp [isWithin, h]
  exact and_comm

/-- The filter of a user with role basic. -/
theorem buildFilter_basic (basic : userToken.role = .basic) :
    StatisticService.buildFilter calendar filteredRequest userToken =
      { startDateTime := filteredRequest.startDateTime <|>
          if 0 < filteredRequest.year then some (calendar.startOfYear filteredRequest.year)
          else none
        endDateTime := filteredRequest.endDateTime <|>
          if 0 < filteredRequest.year then some (calendar.endOfYear filteredRequest.year) else none
        siteIDs := if userToken.sitesAdmin = [] then filteredRequest.siteID
          else userToken.sitesAdmin
        siteAreaIDs := filteredRequest.siteAreaID
        chargeBoxIDs := filteredRequest.chargingStationID
        userIDs := if userToken.sitesAdmin = [] then [userToken.id] else [] } := by
  by_cases siteAdmin : userToken.sitesAdmin = [] <;>
    simp [StatisticService.buildFilter, Authorizations.isSiteAdmin, basic, siteAdmin]

theorem mem_counted_iff (basic : userToken.role = .basic) :
    transaction ∈ StatisticsStorage.counted organization
        (StatisticService.buildFilter calendar filteredRequest userToken) ↔
      (transaction ∈ organization.transactions.docs ∧ transaction.stopped = true) ∧
        filteredRequest.Kept calendar userToken transaction := by
  have user : isIn transaction.userID [userToken.id] = true ↔
      transaction.userID = some userToken.id := by
    simp [isIn, convertToObjectID, userToken.ne_id.symm, eq_comm]
  rw [buildFilter_basic basic, StatisticsStorage.counted, List.mem_filter, and_assoc]
  simp only [Bool.and_eq_true, isWithin_year_iff, all_nonEmptyArray_iff]
  apply and_congr_right
  intro _
  constructor
  · rintro ⟨⟨⟨⟨⟨stopped, dates, startOfYear, endOfYear⟩, sites⟩, siteArea⟩, station⟩, users⟩
    refine ⟨stopped, ?_⟩
    exact
      { siteAdmin := fun siteAdmin => by simpa [siteAdmin, IsRequested] using sites
        own := fun none => by
          simp only [none, if_true] at sites users
          exact ⟨user.mp (users (List.cons_ne_nil _ _)), sites⟩
        siteArea := siteArea
        station := station
        dates := dates
        startOfYear := startOfYear
        endOfYear := endOfYear }
  · rintro ⟨stopped, kept⟩
    refine ⟨⟨⟨⟨⟨stopped, kept.dates, kept.startOfYear, kept.endOfYear⟩, ?_⟩, kept.siteArea⟩,
      kept.station⟩, ?_⟩
    · by_cases siteAdmin : userToken.sitesAdmin = []
      · rw [if_pos siteAdmin]
        exact (kept.own siteAdmin).2
      · rw [if_neg siteAdmin]
        exact kept.siteAdmin
    · by_cases siteAdmin : userToken.sitesAdmin = []
      · rw [if_pos siteAdmin]
        exact fun _ => user.mpr (kept.own siteAdmin).1
      · rw [if_neg siteAdmin]
        exact fun some => absurd rfl some

theorem counted_asked_iff (calendar : Calendar) (organization : Organization)
    (filteredRequest : HttpStatisticsRequest) (basic : userToken.role = .basic) :
    (∀ transaction ∈ StatisticsStorage.counted organization
        (StatisticService.buildFilter calendar filteredRequest userToken),
      filteredRequest.Asked calendar organization userToken transaction) ↔
    ∀ transaction ∈ organization.transactions.docs, transaction.stopped = true →
      filteredRequest.Kept calendar userToken transaction →
        (userToken.sitesAdmin ≠ [] →
          IsRequested filteredRequest.siteID (isIn transaction.siteID ·)) ∧
        IsRequested filteredRequest.userID (isIn transaction.userID ·) ∧
        (0 < filteredRequest.year →
          isWithin (some (calendar.startOfYear filteredRequest.year))
            (some (calendar.endOfYear filteredRequest.year)) transaction.timestamp = true) := by
  constructor
  · intro asked transaction mem stopped kept
    have asked := asked transaction ((mem_counted_iff basic).mpr ⟨⟨mem, stopped⟩, kept⟩)
    exact ⟨fun _ => asked.site, asked.user, asked.year⟩
  · intro condition transaction counted
    obtain ⟨⟨mem, stopped⟩, kept⟩ := (mem_counted_iff basic).mp counted
    obtain ⟨sites, user, year⟩ := condition transaction mem stopped kept
    have visible : transaction.IsVisible organization userToken := by
      by_cases siteAdmin : userToken.sitesAdmin = []
      · exact .inl (kept.own siteAdmin).1
      · exact .inr (.inr (kept.siteAdmin siteAdmin))
    exact
      { visible := visible
        site := by
          by_cases siteAdmin : userToken.sitesAdmin = []
          · exact (kept.own siteAdmin).2
          · exact sites siteAdmin
        siteArea := kept.siteArea
        station := kept.station
        user := user
        dates := kept.dates
        year := year }

end Statistics

/-- A session of somebody else, on a site that a user administers, and one of the user. -/
def sessions : Organization where
  transactions := ⟨[{ id := 1, tagID := "t", userID := some "gina", chargeBoxID := "c"
                      siteID := some "q", stopped := true },
    { id := 2, tagID := "s", userID := some "finn", chargeBoxID := "d", siteID := some "p" }],
    by decide⟩
  sites := ⟨[{ id := "p" }, { id := "q" }], by decide⟩
  users := ⟨[{ id := "finn", role := .basic }, { id := "gina", role := .basic }], by decide⟩
  userSites := [{ userID := "finn", siteID := "q", siteAdmin := true }]

/-- The token of a user with role basic, for a tenant with these components. -/
def sessionToken (tenant : Tenant) (user : User) : UserToken :=
  Authorizations.buildUserToken tenant sessions user []

/-- Years of 100 moments. -/
def shortYears : Calendar := ⟨fun year => 100 * year, fun year => 100 * year + 99⟩

end EvServer.Authorization
