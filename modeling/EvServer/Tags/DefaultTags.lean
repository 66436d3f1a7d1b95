import EvServer.Tags.TagService

/-!
# One default badge for every user

A user with active badges is to have one default badge.  Every operation that gives a user a
badge looks for the default badge he has, and every one that takes the default badge away makes
another one the default (`hasDefault_save_chooseDefault`, `hasDefault_withdraw`).

An update that does not ask for the flag is the exception: the default badge that it looks for
may be the badge that it changes.  The flag is then cleared, and nobody else gets it.
-/

namespace EvServer

/-! ## The badges of a user -/

/-- A local badge of a user. -/
def Tag.IsBadgeOf (userID : String) (tag : Tag) : Prop :=
  tag.issuer = true ∧ tag.userID = some userID

/-- The local badges of a user. -/
def badgesOf (userID : String) (tags : Tags) : Set Tag :=
  {tag | tag ∈ tags.docs ∧ tag.IsBadgeOf userID}

/-- At most one of the badges is the default one, and one is as soon as one is active. -/
structure HasDefault (badges : Set Tag) : Prop where
  atMostOne : ∀ tag ∈ badges, ∀ tag' ∈ badges,
    tag.default = true → tag'.default = true → tag = tag'
  exists_default : (∃ tag ∈ badges, tag.active = true) → ∃ tag ∈ badges, tag.default = true

namespace HasDefault

variable {badges badges' : Set Tag} {tag : Tag}

theorem of_unique (mem : tag ∈ badges) (isDefault : tag.default = true)
    (unique : ∀ tag' ∈ badges, tag'.default = true → tag' = tag) : HasDefault badges where
  atMostOne first hfirst second hsecond firstDefault secondDefault :=
    (unique first hfirst firstDefault).trans (unique second hsecond secondDefault).symm
  exists_default _ := ⟨tag, mem, isDefault⟩

/-- Without a default badge none may be active. -/
theorem iff_of_no_default (none : ∀ tag ∈ badges, tag.default = false) :
    HasDefault badges ↔ ∀ tag ∈ badges, tag.active = false := by
  constructor
  · intro one tag mem
    by_contra active
    obtain ⟨found, hfound, isDefault⟩ :=
      one.exists_default ⟨tag, mem, Bool.eq_true_of_not_eq_false active⟩
    rw [none found hfound] at isDefault
    cases isDefault
  · intro inactive
    refine ⟨fun first hfirst _ _ isDefault _ => ?_, ?_⟩
    · rw [none first hfirst] at isDefault
      cases isDefault
    · rintro ⟨tag, mem, active⟩
      rw [inactive tag mem] at active
      cases active

/-- Badges that are not the default one may go. -/
theorem subset (one : HasDefault badges) (sub : badges' ⊆ badges)
    (keeps : ∀ tag ∈ badges, tag.default = true → tag ∈ badges') : HasDefault badges' where
  atMostOne first hfirst second hsecond := one.atMostOne first (sub hfirst) second (sub hsecond)
  exists_default := by
    rintro ⟨tag, mem, active⟩
    obtain ⟨found, hfound, isDefault⟩ := one.exists_default ⟨tag, sub mem, active⟩
    exact ⟨found, keeps found hfound isDefault, isDefault⟩

end HasDefault

/-- **Every user has one default badge**, if he owns an active one. -/
def TagStore.OneDefault (store : TagStore) : Prop :=
  ∀ userID ∈ store.users, HasDefault (badgesOf userID store.tags)

namespace TagStorage

variable {tags : Tags} {tag tag' : Tag} {userID userID' : String}

/-! ## What the storage does to the badges of a user -/

theorem mem_badgesOf_saveTag : tag' ∈ badgesOf userID (saveTag tags tag) ↔
    tag' = tag ∧ tag.IsBadgeOf userID ∨ tag' ∈ badgesOf userID tags ∧ tag'.id ≠ tag.id := by
  show tag' ∈ (tags.save tag).docs ∧ _ ↔ _
  rw [Collection.mem_save_iff]
  constructor
  · rintro ⟨rfl | ⟨mem, other⟩, badge⟩
    · exact .inl ⟨rfl, badge⟩
    · exact .inr ⟨⟨mem, badge⟩, other⟩
  · rintro (⟨rfl, badge⟩ | ⟨⟨mem, badge⟩, other⟩)
    · exact ⟨.inl rfl, badge⟩
    · exact ⟨.inr ⟨mem, other⟩, badge⟩

theorem mem_badgesOf_deleteTag {tagID : String} : tag ∈ badgesOf userID (deleteTag tags tagID) ↔
    tag ∈ badgesOf userID tags ∧ tag.id ≠ tagID := by
  show tag ∈ (tags.delete tagID).docs ∧ _ ↔ _
  rw [Collection.mem_delete, and_right_comm]
  rfl

theorem clearDefault_of_ne {user : Option String} (other : user ≠ tag.userID) :
    clearDefault user tag = tag :=
  if_neg fun owns => other owns.1.symm

/-- Clearing changes the flag only. -/
theorem userID_clearDefault (user : Option String) (tag : Tag) :
    (clearDefault user tag).userID = tag.userID ∧ (clearDefault user tag).issuer = tag.issuer := by
  unfold clearDefault
  split <;> exact ⟨rfl, rfl⟩

theorem badgesOf_clearDefaultUserTag_of_ne {user : Option String} (other : user ≠ some userID) :
    badgesOf userID (clearDefaultUserTag tags user) = badgesOf userID tags := by
  ext tag
  constructor
  · rintro ⟨mem, badge⟩
    obtain ⟨old, hold, rfl⟩ := Collection.mem_updateMany.mp mem
    have same : clearDefault user old = old := by
      refine clearDefault_of_ne ?_
      rw [← (userID_clearDefault user old).1, badge.2]
      exact other
    rw [same] at badge ⊢
    exact ⟨hold, badge⟩
  · rintro ⟨mem, badge⟩
    refine ⟨Collection.mem_updateMany.mpr ⟨tag, mem, clearDefault_of_ne ?_⟩, badge⟩
    rw [badge.2]
    exact other

theorem default_of_mem_clearDefaultUserTag
    (mem : tag ∈ badgesOf userID (clearDefaultUserTag tags (some userID))) :
    tag.default = false := by
  obtain ⟨mem, badge⟩ := mem
  obtain ⟨old, -, rfl⟩ := Collection.mem_updateMany.mp mem
  have owner : old.userID = some userID := by
    rw [← (userID_clearDefault (some userID) old).1, badge.2]
  unfold clearDefault
  split
  · rfl
  · rename_i notDefault
    exact Bool.eq_false_of_not_eq_true fun isDefault => notDefault ⟨owner, isDefault⟩

/-- A badge of somebody else does not change the badges of a user. -/
theorem badgesOf_saveTag_of_apart (notOwner : ¬ tag.IsBadgeOf userID)
    (apart : ∀ stored ∈ badgesOf userID tags, stored.id ≠ tag.id) :
    badgesOf userID (saveTag tags tag) = badgesOf userID tags := by
  ext tag'
  rw [mem_badgesOf_saveTag]
  constructor
  · rintro (⟨-, badge⟩ | ⟨mem, -⟩)
    · exact absurd badge notOwner
    · exact mem
  · intro mem
    exact .inr ⟨mem, apart tag' mem⟩

/-! ## The flag is all that changes -/

/-- A property of badges that does not look at the flag. -/
def IgnoresDefault (P : Tag → Prop) : Prop :=
  ∀ tag flag, P { tag with default := flag } ↔ P tag

variable {P : Tag → Prop}

theorem exists_clearDefaultUserTag (ignores : IgnoresDefault P) (user : Option String) :
    (∃ tag ∈ (clearDefaultUserTag tags user).docs, P tag) ↔ ∃ tag ∈ tags.docs, P tag := by
  have cleared (tag : Tag) : P (clearDefault user tag) ↔ P tag := by
    unfold clearDefault
    split
    · exact ignores tag false
    · exact Iff.rfl
  constructor
  · rintro ⟨tag, mem, holds⟩
    obtain ⟨old, hold, rfl⟩ := Collection.mem_updateMany.mp mem
    exact ⟨old, hold, (cleared old).mp holds⟩
  · rintro ⟨tag, mem, holds⟩
    exact ⟨clearDefault user tag, Collection.mem_updateMany.mpr ⟨tag, mem, rfl⟩,
      (cleared tag).mpr holds⟩

theorem exists_saveTag_default (ignores : IgnoresDefault P) (stored : tag ∈ tags.docs)
    (flag : Bool) :
    (∃ tag' ∈ (saveTag tags { tag with default := flag }).docs, P tag') ↔
      ∃ tag ∈ tags.docs, P tag := by
  constructor
  · rintro ⟨tag', mem, holds⟩
    rcases Collection.mem_save_iff.mp mem with rfl | ⟨old, -⟩
    · exact ⟨tag, stored, (ignores tag flag).mp holds⟩
    · exact ⟨tag', old, holds⟩
  · rintro ⟨tag', mem, holds⟩
    rcases eq_or_ne tag'.id tag.id with same | other
    · obtain rfl := Collection.eq_of_key_eq mem stored same
      exact ⟨_, Collection.mem_save_iff.mpr (.inl rfl), (ignores tag' flag).mpr holds⟩
    · exact ⟨tag', Collection.mem_save_iff.mpr (.inr ⟨mem, other⟩), holds⟩

/-- The user's default badge is found when he has at most one. -/
theorem getDefaultUserTag_cases (one : HasDefault (badgesOf userID tags)) :
    (getDefaultUserTag tags userID = none ∧ ∀ tag ∈ badgesOf userID tags, tag.default = false) ∨
      ∃ tag ∈ badgesOf userID tags, tag.default = true ∧
        getDefaultUserTag tags userID = some tag := by
  have mem_iff (tag : Tag) : tag ∈ getTags tags (defaultUserTags userID) ↔
      tag ∈ badgesOf userID tags ∧ tag.default = true := by
    rw [mem_getTags]
    simp only [GetTagsParams.passes, defaultUserTags, Option.all_none, Option.all_some,
      Bool.true_and, Bool.and_true, Bool.not_true, Bool.false_or, Bool.not_false, Bool.true_or,
      Bool.and_eq_true, decide_eq_true_eq]
    constructor
    · rintro ⟨mem, ⟨owner, isDefault⟩, issuer⟩
      exact ⟨⟨mem, issuer.symm, owner.symm⟩, isDefault⟩
    · rintro ⟨⟨mem, issuer, owner⟩, isDefault⟩
      exact ⟨mem, ⟨owner.symm, isDefault⟩, issuer.symm⟩
  have nodup : ((getTags tags (defaultUserTags userID)).map Tag.id).Nodup :=
    Collection.nodup_query tags _ _
  unfold getDefaultUserTag
  rcases hrecords : getTags tags (defaultUserTags userID) with _ | ⟨first, _ | ⟨second, rest⟩⟩
  · refine .inl ⟨rfl, fun tag mem => Bool.eq_false_of_not_eq_true fun isDefault => ?_⟩
    have found := (mem_iff tag).mpr ⟨mem, isDefault⟩
    rw [hrecords] at found
    cases found
  · have found := (mem_iff first).mp (by rw [hrecords]; exact List.mem_singleton_self first)
    exact .inr ⟨first, found.1, found.2, rfl⟩
  · -- Two default badges would be the same, but have different ids.
    have hfirst := (mem_iff first).mp (by rw [hrecords]; exact List.mem_cons_self)
    have hsecond := (mem_iff second).mp
      (by rw [hrecords]; exact List.mem_cons_of_mem _ List.mem_cons_self)
    have same := one.atMostOne first hfirst.1 second hsecond.1 hfirst.2 hsecond.2
    rw [hrecords, same, List.map_cons, List.map_cons, List.nodup_cons] at nodup
    exact absurd List.mem_cons_self nodup.1

/-- The first active badge, if any. -/
theorem getFirstActiveUserTag_cases (tags : Tags) (user : Option String) :
    (getFirstActiveUserTag tags user = none ∧
        ∀ tag ∈ tags.docs, tag.issuer = true → tag.userID = user → tag.active = false) ∨
      ∃ tag ∈ tags.docs, tag.issuer = true ∧ tag.userID = user ∧
        getFirstActiveUserTag tags user = some tag := by
  have mem_iff (tag : Tag) : tag ∈ getTags tags (activeUserTags user) ↔
      tag ∈ tags.docs ∧ tag.issuer = true ∧ tag.userID = user ∧ tag.active = true := by
    rw [mem_getTags]
    simp only [GetTagsParams.passes, activeUserTags, Option.all_none, Option.all_some,
      Bool.true_and, Bool.and_true, Bool.not_false, Bool.true_or, Bool.and_eq_true,
      decide_eq_true_eq]
    constructor
    · rintro ⟨mem, ⟨owner, issuer⟩, active⟩
      exact ⟨mem, issuer.symm, owner.symm, active.symm⟩
    · rintro ⟨mem, issuer, owner, active⟩
      exact ⟨mem, ⟨owner.symm, issuer.symm⟩, active.symm⟩
  unfold getFirstActiveUserTag
  rcases hrecords : getTags tags (activeUserTags user) with _ | ⟨first, rest⟩
  · refine .inl ⟨rfl, fun tag mem issuer owner => Bool.eq_false_of_not_eq_true fun active => ?_⟩
    have found := (mem_iff tag).mpr ⟨mem, issuer, owner, active⟩
    rw [hrecords] at found
    cases found
  · obtain ⟨mem, issuer, owner, -⟩ :=
      (mem_iff first).mp (by rw [hrecords]; exact List.mem_cons_self)
    exact .inr ⟨first, mem, issuer, owner, rfl⟩

end TagStorage

namespace TagService

open TagStorage

variable {tags tags' : Tags} {tag former : Tag} {userID userID' : String} {asked : Bool}

/-! ## What the service does to the badges of a user -/

theorem exists_setDefaultTagForUser {P : Tag → Prop} (ignores : IgnoresDefault P)
    (user : Option String) :
    (∃ tag ∈ (setDefaultTagForUser tags user).docs, P tag) ↔ ∃ tag ∈ tags.docs, P tag := by
  refine Iff.trans ?_ (exists_clearDefaultUserTag ignores user)
  unfold setDefaultTagForUser
  rcases getFirstActiveUserTag_cases (clearDefaultUserTag tags user) user with
    ⟨nothing, -⟩ | ⟨first, mem, -, -, found⟩
  · dsimp only
    rw [nothing]
  · dsimp only
    rw [found]
    exact exists_saveTag_default ignores mem true

/-- The user whose default is set has one. -/
theorem hasDefault_setDefaultTagForUser (tags : Tags) (userID : String) :
    HasDefault (badgesOf userID (setDefaultTagForUser tags (some userID))) := by
  have cleared (tag : Tag)
      (mem : tag ∈ badgesOf userID (clearDefaultUserTag tags (some userID))) :=
    default_of_mem_clearDefaultUserTag mem
  unfold setDefaultTagForUser
  rcases getFirstActiveUserTag_cases (clearDefaultUserTag tags (some userID)) (some userID) with
    ⟨nothing, inactive⟩ | ⟨first, -, issuer, owner, found⟩
  · dsimp only
    rw [nothing]
    refine (HasDefault.iff_of_no_default cleared).mpr fun tag mem => ?_
    exact inactive tag mem.1 mem.2.1 mem.2.2
  · dsimp only
    rw [found]
    refine .of_unique (mem_badgesOf_saveTag.mpr (.inl ⟨rfl, issuer, owner⟩)) rfl ?_
    intro tag mem isDefault
    rcases mem_badgesOf_saveTag.mp mem with ⟨rfl, -⟩ | ⟨old, -⟩
    · rfl
    · rw [cleared tag old] at isDefault
      cases isDefault

/-- The badges of the others stay. -/
theorem badgesOf_setDefaultTagForUser_of_ne {user : Option String} (other : user ≠ some userID) :
    badgesOf userID (setDefaultTagForUser tags user) = badgesOf userID tags := by
  refine Eq.trans ?_ (badgesOf_clearDefaultUserTag_of_ne other)
  unfold setDefaultTagForUser
  rcases getFirstActiveUserTag_cases (clearDefaultUserTag tags user) user with
    ⟨nothing, -⟩ | ⟨first, mem, issuer, owner, found⟩
  · dsimp only
    rw [nothing]
  · dsimp only
    rw [found]
    have notOwner : ¬ first.IsBadgeOf userID := fun badge => other (owner.symm.trans badge.2)
    refine badgesOf_saveTag_of_apart notOwner fun stored hstored same => ?_
    obtain rfl := Collection.eq_of_key_eq hstored.1 mem same
    exact notOwner hstored.2

theorem badgesOf_chooseRequestDefault_of_ne {user : Option String} {otherwise : Bool}
    (other : user ≠ some userID) :
    badgesOf userID (chooseRequestDefault tags user asked otherwise).1 = badgesOf userID tags := by
  cases user with
  | none => rfl
  | some owner =>
      show badgesOf userID (chooseDefault tags owner asked).1 = badgesOf userID tags
      unfold chooseDefault
      cases asked with
      | true => exact badgesOf_clearDefaultUserTag_of_ne other
      | false => rfl

/-- The badge of a user is about to lose the flag of his default badge, which is not asked for,
although he will own an active badge: this one or another. -/
def LosesDefault (userID : String) (tags : Tags) (tagID : String) (active asked : Bool) : Prop :=
  asked = false ∧ (∃ stored ∈ badgesOf userID tags, stored.id = tagID ∧ stored.default = true) ∧
    (active = true ∨ ∃ other ∈ badgesOf userID tags, other.id ≠ tagID ∧ other.active = true)

/-- **A badge that a user gets or keeps** leaves him with one default badge, unless it loses the
flag. -/
theorem hasDefault_save_chooseDefault (one : HasDefault (badgesOf userID tags))
    (badge : tag.IsBadgeOf userID) (chosen : tag.default = (chooseDefault tags userID asked).2) :
    HasDefault (badgesOf userID (saveTag (chooseDefault tags userID asked).1 tag)) ↔
      ¬ LosesDefault userID tags tag.id tag.active asked := by
  cases asked with
  | true =>
      have loses : ¬ LosesDefault userID tags tag.id tag.active true := by
        rintro ⟨asked, -⟩
        cases asked
      refine iff_of_true ?_ loses
      refine .of_unique (mem_badgesOf_saveTag.mpr (.inl ⟨rfl, badge⟩)) chosen ?_
      intro tag' mem isDefault
      rcases mem_badgesOf_saveTag.mp mem with ⟨rfl, -⟩ | ⟨old, -⟩
      · rfl
      · rw [default_of_mem_clearDefaultUserTag old] at isDefault
        cases isDefault
  | false =>
      change tag.default = (getDefaultUserTag tags userID).isNone at chosen
      change HasDefault (badgesOf userID (saveTag tags tag)) ↔ _
      rcases getDefaultUserTag_cases one with ⟨nothing, none⟩ | ⟨found, mem, isDefault, hfound⟩
      · -- There is no default badge, and this one gets the flag.
        rw [nothing] at chosen
        have loses : ¬ LosesDefault userID tags tag.id tag.active false := by
          rintro ⟨-, ⟨stored, hstored, -, isDefault⟩, -⟩
          rw [none stored hstored] at isDefault
          cases isDefault
        refine iff_of_true ?_ loses
        refine .of_unique (mem_badgesOf_saveTag.mpr (.inl ⟨rfl, badge⟩)) chosen ?_
        intro tag' mem isDefault
        rcases mem_badgesOf_saveTag.mp mem with ⟨rfl, -⟩ | ⟨old, -⟩
        · rfl
        · rw [none tag' old] at isDefault
          cases isDefault
      · rw [hfound] at chosen
        change tag.default = false at chosen
        rcases eq_or_ne found.id tag.id with same | other
        · -- The default badge is the badge that is saved.
          have none : ∀ tag' ∈ badgesOf userID (saveTag tags tag), tag'.default = false := by
            intro tag' mem'
            rcases mem_badgesOf_saveTag.mp mem' with ⟨rfl, -⟩ | ⟨old, ne⟩
            · exact chosen
            · refine Bool.eq_false_of_not_eq_true fun isDefault' => ne ?_
              rw [one.atMostOne tag' old found mem isDefault' isDefault, same]
          rw [HasDefault.iff_of_no_default none]
          constructor
          · rintro inactive ⟨-, -, active | ⟨other, hother, ne, active⟩⟩
            · rw [inactive tag (mem_badgesOf_saveTag.mpr (.inl ⟨rfl, badge⟩))] at active
              cases active
            · rw [inactive other (mem_badgesOf_saveTag.mpr (.inr ⟨hother, ne⟩))] at active
              cases active
          · intro keeps tag' mem'
            refine Bool.eq_false_of_not_eq_true fun active => keeps ?_
            refine ⟨rfl, ⟨found, mem, same, isDefault⟩, ?_⟩
            rcases mem_badgesOf_saveTag.mp mem' with ⟨rfl, -⟩ | ⟨old, ne⟩
            · exact .inl active
            · exact .inr ⟨tag', old, ne, active⟩
        · -- Another badge is the default one.
          have loses : ¬ LosesDefault userID tags tag.id tag.active false := by
            rintro ⟨-, ⟨stored, hstored, same, isDefault'⟩, -⟩
            rw [one.atMostOne stored hstored found mem isDefault' isDefault] at same
            exact other same
          refine iff_of_true ?_ loses
          refine .of_unique (mem_badgesOf_saveTag.mpr (.inr ⟨mem, other⟩)) isDefault ?_
          intro tag' mem' isDefault'
          rcases mem_badgesOf_saveTag.mp mem' with ⟨rfl, -⟩ | ⟨old, -⟩
          · rw [chosen] at isDefault'
            cases isDefault'
          · exact one.atMostOne tag' old found mem isDefault' isDefault

/-- A badge that is none of a user's, before, may become one of his, or not. -/
theorem hasDefault_save_of_apart {otherwise : Bool} (one : HasDefault (badgesOf userID tags))
    (issuer : tag.issuer = true)
    (chosen : tag.default = (chooseRequestDefault tags tag.userID asked otherwise).2)
    (apart : ∀ stored ∈ badgesOf userID tags, stored.id ≠ tag.id) :
    HasDefault (badgesOf userID
      (saveTag (chooseRequestDefault tags tag.userID asked otherwise).1 tag)) := by
  rcases eq_or_ne tag.userID (some userID) with owner | other
  · rw [owner] at chosen ⊢
    refine (hasDefault_save_chooseDefault one ⟨issuer, owner⟩ chosen).mpr ?_
    rintro ⟨-, ⟨stored, mem, same, -⟩, -⟩
    exact apart stored mem same
  · have same := @badgesOf_chooseRequestDefault_of_ne tags userID asked _ otherwise other
    rw [badgesOf_saveTag_of_apart (fun badge => other badge.2), same]
    · exact one
    · rwa [same]

/-- **A badge that a user loses**: another one gets the flag, if it was his default badge. -/
theorem hasDefault_withdraw {gets : Prop} [Decidable gets]
    (one : HasDefault (badgesOf userID tags)) (stored : former ∈ tags.docs)
    (issuer : former.issuer = true)
    (without : ∀ tag, tag ∈ badgesOf userID tags' ↔ tag ∈ badgesOf userID tags ∧ tag.id ≠ former.id)
    (flag : former.userID = some userID → former.default = true → gets) :
    HasDefault (badgesOf userID
      (if gets then setDefaultTagForUser tags' former.userID else tags')) := by
  have keeps (notLost : former.userID = some userID → former.default = true → False) :
      HasDefault (badgesOf userID tags') := by
    refine one.subset (fun tag mem => ((without tag).mp mem).1) fun tag mem isDefault => ?_
    refine (without tag).mpr ⟨mem, fun same => ?_⟩
    obtain rfl := Collection.eq_of_key_eq mem.1 stored same
    exact notLost mem.2.2 isDefault
  split
  · rcases eq_or_ne former.userID (some userID) with owner | other
    · rw [owner]
      exact hasDefault_setDefaultTagForUser tags' userID
    · rw [badgesOf_setDefaultTagForUser_of_ne other]
      exact keeps fun owner _ => other owner
  · rename_i notGets
    exact keeps fun owner isDefault => notGets (flag owner isDefault)

end TagService

end EvServer
