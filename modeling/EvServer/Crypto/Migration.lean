import EvServer.Crypto.Cypher

/-!
# What a resumed migration leaves

The listed properties of a setting are decrypted and encrypted one after the other, and
the order does not matter, so what has been encrypted decrypts to what it was.  A setting
that has a backup has been migrated, and one that has none is as it was before the
migration: this is how a resumed migration tells them apart, as long as no backup has been
deleted.
-/

namespace EvServer

namespace Cypher

variable {IV : Type} {crypto : NodeCrypto IV} {key : CryptoKey}
variable {property other : String} {sensitiveData : List String}
variable {data data' between : SettingProperties}

/-! ## One property after the other -/

/-- What is decrypted of a property. -/
def decryptValue (crypto : NodeCrypto IV) (key : CryptoKey) :
    Option String → Except String (Option String)
  | some value => if value ≠ "" then (decrypt crypto key value).map some else .ok (some value)
  | none => .ok none

theorem decryptProperty_eq : decryptProperty crypto key property data =
    (decryptValue crypto key (data property)).map (Function.update data property) := by
  unfold decryptProperty decryptValue
  cases read : data property with
  | none =>
      change Except.ok data = Except.ok (Function.update data property none)
      rw [← read, Function.update_eq_self]
  | some value =>
      dsimp only
      split
      · cases decrypt crypto key value <;> rfl
      · change Except.ok data = Except.ok (Function.update data property (some value))
        rw [← read, Function.update_eq_self]

theorem decryptProperty_eq_ok : decryptProperty crypto key property data = .ok data' ↔
    ∃ value, decryptValue crypto key (data property) = .ok value ∧
      Function.update data property value = data' := by
  rw [decryptProperty_eq, Outcome.map_eq_ok]

/-- Two properties can be decrypted in either order. -/
theorem decryptProperty_comm (first : decryptProperty crypto key property data = .ok between)
    (second : decryptProperty crypto key other between = .ok data') :
    ∃ between', decryptProperty crypto key other data = .ok between' ∧
      decryptProperty crypto key property between' = .ok data' := by
  rcases eq_or_ne other property with rfl | ne
  · exact ⟨between, first, second⟩
  · obtain ⟨value, hvalue, rfl⟩ := decryptProperty_eq_ok.mp first
    obtain ⟨value', hvalue', rfl⟩ := decryptProperty_eq_ok.mp second
    rw [Function.update_of_ne ne] at hvalue'
    refine ⟨_, decryptProperty_eq_ok.mpr ⟨value', hvalue', rfl⟩,
      decryptProperty_eq_ok.mpr ⟨value, ?_, Function.update_comm ne ..⟩⟩
    rw [Function.update_of_ne ne.symm]
    exact hvalue

theorem decryptSensitiveDataInJSON_cons_eq_ok :
    decryptSensitiveDataInJSON crypto key (property :: sensitiveData) data = .ok data' ↔
      ∃ between, decryptProperty crypto key property data = .ok between ∧
        decryptSensitiveDataInJSON crypto key sensitiveData between = .ok data' :=
  Outcome.bind_eq_ok

/-- The property that is decrypted last could have been the first. -/
theorem decryptSensitiveDataInJSON_cons_of_last
    (others : decryptSensitiveDataInJSON crypto key sensitiveData data = .ok between)
    (last : decryptProperty crypto key property between = .ok data') :
    decryptSensitiveDataInJSON crypto key (property :: sensitiveData) data = .ok data' := by
  induction sensitiveData generalizing data with
  | nil =>
      cases others
      exact decryptSensitiveDataInJSON_cons_eq_ok.mpr ⟨data', last, rfl⟩
  | cons next rest ih =>
      obtain ⟨after, first, others⟩ := decryptSensitiveDataInJSON_cons_eq_ok.mp others
      obtain ⟨after', second, others'⟩ := decryptSensitiveDataInJSON_cons_eq_ok.mp (ih others)
      obtain ⟨before, first', second'⟩ := decryptProperty_comm first second
      exact decryptSensitiveDataInJSON_cons_eq_ok.mpr ⟨before, first',
        decryptSensitiveDataInJSON_cons_eq_ok.mpr ⟨after', second', others'⟩⟩

/-! ## Encryption is undone -/

/-- Decryption undoes encryption under the same key. -/
def Undoes (crypto : NodeCrypto IV) : Prop :=
  ∀ key iv data, decrypt crypto key (encrypt crypto key iv data) = .ok data

theorem encrypt_ne_empty {iv : IV} {value : String} : encrypt crypto key iv value ≠ "" := by
  intro empty
  have chars := congrArg String.toList empty
  simp [encrypt] at chars

theorem decryptProperty_encryptProperty (undoes : Undoes crypto) (iv : IV) :
    decryptProperty crypto key property (encryptProperty crypto key iv property data) =
      .ok data := by
  unfold encryptProperty
  cases read : data property with
  | none => simp only [decryptProperty, read]
  | some value =>
      dsimp only
      split
      · rw [decryptProperty_eq, Function.update_self, decryptValue, if_pos encrypt_ne_empty,
          undoes]
        change Except.ok (Function.update (Function.update data property _) property _) = _
        rw [Function.update_idem, ← read, Function.update_eq_self]
      · rename_i empty
        simp only [decryptProperty, read, if_neg empty]

/-- **What has been encrypted decrypts to what it was.** -/
theorem decryptSensitiveDataInJSON_encryptSensitiveDataInJSON (undoes : Undoes crypto)
    (sensitiveData : List String) (randomBytes : ℕ → IV) (data : SettingProperties) :
    decryptSensitiveDataInJSON crypto key sensitiveData
      (encryptSensitiveDataInJSON crypto key randomBytes sensitiveData data) = .ok data := by
  induction sensitiveData generalizing randomBytes data with
  | nil => rfl
  | cons property rest ih =>
      exact decryptSensitiveDataInJSON_cons_of_last (ih _ _)
        (decryptProperty_encryptProperty undoes _)

/-! ## The stages of a setting -/

/-- A setting without sensitive values. -/
def Bare (sensitiveData : List String) (data : SettingProperties) : Prop :=
  ∀ property ∈ sensitiveData, ∀ value, data property = some value → value = ""

theorem decryptSensitiveDataInJSON_of_bare (bare : Bare sensitiveData data) :
    decryptSensitiveDataInJSON crypto key sensitiveData data = .ok data := by
  induction sensitiveData with
  | nil => rfl
  | cons property rest ih =>
      refine decryptSensitiveDataInJSON_cons_eq_ok.mpr
        ⟨data, ?_, ih fun property mem => bare property (List.mem_cons_of_mem _ mem)⟩
      have empty := bare property List.mem_cons_self
      unfold decryptProperty
      cases read : data property with
      | none => rfl
      | some value => exact if_neg (not_not_intro (empty value read))

theorem encryptSensitiveDataInJSON_of_bare (bare : Bare sensitiveData data)
    (randomBytes : ℕ → IV) :
    encryptSensitiveDataInJSON crypto key randomBytes sensitiveData data = data := by
  induction sensitiveData generalizing randomBytes with
  | nil => rfl
  | cons property rest ih =>
      have empty := bare property List.mem_cons_self
      have same : encryptProperty crypto key (randomBytes 0) property data = data := by
        unfold encryptProperty
        cases read : data property with
        | none => rfl
        | some value => exact if_neg (not_not_intro (empty value read))
      rw [encryptSensitiveDataInJSON, same]
      exact ih (fun property mem => bare property (List.mem_cons_of_mem _ mem)) _

/-- A backup is empty when there is nothing to back up. -/
theorem bare_of_prepareBackup {setting : SettingDB}
    (empty : (prepareBackupSensitiveData setting).isEmpty) :
    Bare setting.sensitiveData setting.properties := by
  intro property mem value read
  by_contra nonempty
  have backup := List.filterMap_eq_nil_iff.mp (List.isEmpty_iff.mp empty) property mem
  rw [read, Option.filter_some, if_pos (by simpa using nonempty)] at backup
  cases backup

/-- The setting holds the data of the original one. -/
def Unchanged (original setting : SettingDB) : Prop := setting.properties = original.properties

/-- What the original setting decrypts to under the former key, the setting decrypts to
under the current one. -/
def Migrated (crypto : NodeCrypto IV) (cryptoSetting : CryptoSetting)
    (original setting : SettingDB) : Prop :=
  ∀ former ∈ cryptoSetting.former, ∀ plain,
    decryptSensitiveDataInJSON crypto former original.sensitiveData original.properties =
        .ok plain →
      decryptSensitiveDataInJSON crypto cryptoSetting.current setting.sensitiveData
        setting.properties = .ok plain

/-- A setting whose backup tells its stage. -/
def BackedUp (crypto : NodeCrypto IV) (cryptoSetting : CryptoSetting)
    (original setting : SettingDB) : Prop :=
  if isEmptyBackup setting then Unchanged original setting
  else Migrated crypto cryptoSetting original setting

variable {cryptoSetting : CryptoSetting} {original setting migrated : SettingDB}

/-- A setting without sensitive values needs no migration. -/
theorem Unchanged.migrated_of_bare (unchanged : Unchanged original setting)
    (same : setting.sensitiveData = original.sensitiveData)
    (bare : Bare setting.sensitiveData setting.properties) :
    Migrated crypto cryptoSetting original setting := by
  intro former _ plain h
  rw [decryptSensitiveDataInJSON_of_bare bare]
  rw [← same, ← unchanged, decryptSensitiveDataInJSON_of_bare bare] at h
  exact h

/-- **What the migration of one setting does.** -/
theorem migrateSetting_spec (undoes : Undoes crypto) {randomBytes : ℕ → IV}
    (unchanged : Unchanged original setting)
    (same : setting.sensitiveData = original.sensitiveData)
    (h : migrateSetting crypto cryptoSetting randomBytes setting = .ok migrated) :
    migrated.id = setting.id ∧ migrated.sensitiveData = setting.sensitiveData ∧
      Migrated crypto cryptoSetting original migrated ∧
      BackedUp crypto cryptoSetting original migrated := by
  unfold migrateSetting at h
  cases hformer : cryptoSetting.former with
  | none =>
      rw [hformer] at h
      cases h
  | some former =>
      rw [hformer] at h
      obtain ⟨properties, decrypted, rfl⟩ := Outcome.map_eq_ok.mp h
      have isMigrated : Migrated crypto cryptoSetting original
          { setting with
            properties := encryptSensitiveDataInJSON crypto cryptoSetting.current randomBytes
              setting.sensitiveData properties
            backupSensitiveData := some (prepareBackupSensitiveData setting) } := by
        intro former' is plain decrypted'
        rw [hformer] at is
        cases is
        rw [← same, ← unchanged, decrypted] at decrypted'
        cases decrypted'
        exact decryptSensitiveDataInJSON_encryptSensitiveDataInJSON undoes _ _ _
      refine ⟨rfl, rfl, isMigrated, ?_⟩
      unfold BackedUp
      split
      · rename_i empty
        -- Nothing has been backed up, so nothing was to be encrypted.
        have bare := bare_of_prepareBackup empty
        rw [decryptSensitiveDataInJSON_of_bare bare] at decrypted
        cases decrypted
        exact (encryptSensitiveDataInJSON_of_bare bare _).trans unchanged
      · exact isMigrated

end Cypher

/-! ## The runs of the migration -/

namespace MigrationState

open Cypher

variable {IV : Type} {crypto : NodeCrypto IV} {settings : Settings} {cryptoSetting : CryptoSetting}
variable {s s' : MigrationState} {event : MigrationEvent IV}

/-- Every original setting is stored, and stands in the relation to what is stored. -/
def Stands (settings : Settings) (s : MigrationState) (relation : SettingDB → SettingDB → Prop) :
    Prop :=
  ∀ original ∈ settings.docs, ∃ setting, s.settings.find original.id = some setting ∧
    setting.sensitiveData = original.sensitiveData ∧ relation original setting

/-- The keys of the migration. -/
def SameKeys (cryptoSetting cryptoSetting' : CryptoSetting) : Prop :=
  cryptoSetting'.current = cryptoSetting.current ∧ cryptoSetting'.former = cryptoSetting.former

/-- The invariant, for the settings and the keys that the migration starts with. -/
structure Consistent (crypto : NodeCrypto IV) (settings : Settings) (cryptoSetting : CryptoSetting)
    (s : MigrationState) : Prop where
  keys : SameKeys cryptoSetting s.crypto
  /-- As long as no backup has been deleted, the backups tell the stages. -/
  backedUp : s.cleaned = false → s.Stands settings (BackedUp crypto cryptoSetting)
  copies : ∀ copy ∈ s.pc.copies, s.settings.find copy.id = some copy
  distinct : (s.pc.copies.map SettingDB.id).Nodup
  migrating : ∀ cryptoSetting' rest, s.pc = .migrating cryptoSetting' rest →
    SameKeys cryptoSetting cryptoSetting' ∧ s.cleaned = false ∧
      s.Stands settings fun original setting =>
        original.id ∈ rest.map SettingDB.id ∨ Migrated crypto cryptoSetting original setting
  cleaning : ∀ cryptoSetting' rest, s.pc = .cleaning cryptoSetting' rest →
    SameKeys cryptoSetting cryptoSetting' ∧ s.Stands settings (Migrated crypto cryptoSetting)
  done : s.crypto.migrationToBeDone = false →
    s.pc = .idle ∧ s.Stands settings (Migrated crypto cryptoSetting)

theorem Stands.mono {relation relation' : SettingDB → SettingDB → Prop}
    (stands : s.Stands settings relation)
    (implies : ∀ original setting, s.settings.find original.id = some setting →
      setting.sensitiveData = original.sensitiveData → relation original setting →
        relation' original setting) : s.Stands settings relation' := by
  intro original mem
  obtain ⟨setting, found, same, related⟩ := stands original mem
  exact ⟨setting, found, same, implies original setting found same related⟩

/-- One setting is saved. -/
theorem Stands.save {relation relation' : SettingDB → SettingDB → Prop} {setting saved : SettingDB}
    (stands : s.Stands settings relation) (found : s.settings.find setting.id = some setting)
    (sameID : saved.id = setting.id) (same : saved.sensitiveData = setting.sensitiveData)
    (store : s'.settings = s.settings.save saved)
    (here : ∀ original, setting.sensitiveData = original.sensitiveData →
      relation original setting → relation' original saved)
    (elsewhere : ∀ original setting', original.id ≠ setting.id →
      s.settings.find original.id = some setting' →
      setting'.sensitiveData = original.sensitiveData → relation original setting' →
        relation' original setting') : s'.Stands settings relation' := by
  intro original mem
  obtain ⟨setting', found', same', related⟩ := stands original mem
  rw [store]
  rcases eq_or_ne original.id setting.id with equal | other
  · rw [equal, found] at found'
    cases found'
    refine ⟨saved, ?_, same.trans same', here original same' related⟩
    rw [equal, ← sameID]
    exact @Collection.find_save_self _ _ SettingDB.id _ _ _
  · refine ⟨setting', ?_, same', elsewhere original setting' other found' same' related⟩
    rw [← found']
    exact Collection.find_save_of_ne (sameID ▸ other)

/-- The condition: the migration is started and resumed while no backup has been deleted. -/
def ResumesBackedUp (s : MigrationState) : MigrationEvent IV → Prop
  | .start => s.cleaned = false
  | _ => True

/-- The next copy is stored, and the copies that are left have IDs of their own. -/
theorem Consistent.copies_cons (inv : Consistent crypto settings cryptoSetting s)
    {setting : SettingDB} {rest : List SettingDB} (copies : s.pc.copies = setting :: rest) :
    s.settings.find setting.id = some setting ∧ (rest.map SettingDB.id).Nodup := by
  have distinct := inv.distinct
  rw [copies] at distinct
  exact ⟨inv.copies setting (copies ▸ List.mem_cons_self), (List.nodup_cons.mp distinct).2⟩

/-- The copies that are left are still stored. -/
theorem Consistent.copies_tail (inv : Consistent crypto settings cryptoSetting s)
    {setting saved : SettingDB} {rest : List SettingDB} (copies : s.pc.copies = setting :: rest)
    (sameID : saved.id = setting.id) :
    ∀ copy ∈ rest, (s.settings.save saved).find copy.id = some copy := by
  intro copy mem
  have distinct := inv.distinct
  rw [copies, List.map_cons, List.nodup_cons] at distinct
  rw [Collection.find_save_of_ne]
  · exact inv.copies copy (copies ▸ List.mem_cons_of_mem _ mem)
  · rw [sameID]
    intro same
    exact distinct.1 (same ▸ List.mem_map_of_mem mem)

/-- The migration ends early, and what is stored stays. -/
theorem Consistent.idle (inv : Consistent crypto settings cryptoSetting s) :
    Consistent crypto settings cryptoSetting { s with pc := .idle } where
  keys := inv.keys
  backedUp := inv.backedUp
  copies := by rintro _ ⟨⟩
  distinct := List.nodup_nil
  migrating := by rintro _ _ ⟨⟩
  cleaning := by rintro _ _ ⟨⟩
  done flagged := ⟨rfl, (inv.done flagged).2⟩

/-- The settings are read, to be migrated. -/
theorem Consistent.start (inv : Consistent crypto settings cryptoSetting s)
    (toBeDone : s.crypto.migrationToBeDone = true) (backups : s.cleaned = false) :
    Consistent crypto settings cryptoSetting
      { s with pc := .migrating s.crypto (getSettingsWithSensitiveData s.settings) } where
  keys := inv.keys
  backedUp := inv.backedUp
  copies copy mem := Collection.find_of_mem (Collection.mem_query.mp mem).1
  distinct := Collection.nodup_query _ _ _
  migrating := by
    rintro _ _ ⟨⟩
    refine ⟨inv.keys, backups,
      (inv.backedUp backups).mono fun original setting found same stage => ?_⟩
    cases empty : setting.sensitiveData.isEmpty with
    | false =>
        refine .inl ?_
        rw [← Collection.key_of_find found]
        refine List.mem_map_of_mem (Collection.mem_query.mpr ⟨Collection.mem_of_find found, ?_⟩)
        rw [empty]
        rfl
    | true =>
        refine .inr ?_
        unfold BackedUp at stage
        split at stage
        · refine stage.migrated_of_bare same fun property mem => ?_
          rw [List.isEmpty_iff.mp empty] at mem
          cases mem
        · exact stage
  cleaning := by rintro _ _ ⟨⟩
  done flagged := by
    rw [toBeDone] at flagged
    cases flagged

section Migrating

variable {cryptoSetting' : CryptoSetting} {setting saved : SettingDB} {rest : List SettingDB}

/-- A setting has been migrated, or had been before. -/
theorem Consistent.migrated (inv : Consistent crypto settings cryptoSetting s)
    (pc : s.pc = .migrating cryptoSetting' (setting :: rest))
    (sameID : saved.id = setting.id) (same : saved.sensitiveData = setting.sensitiveData)
    (stages : ∀ original, setting.sensitiveData = original.sensitiveData →
      BackedUp crypto cryptoSetting original setting →
        Migrated crypto cryptoSetting original saved ∧
          BackedUp crypto cryptoSetting original saved) :
    Consistent crypto settings cryptoSetting
      { s with settings := s.settings.save saved, pc := .migrating cryptoSetting' rest } := by
  obtain ⟨keys, backups, stands⟩ := inv.migrating _ _ pc
  have copies : s.pc.copies = setting :: rest := by
    rw [pc]
    rfl
  obtain ⟨found, distinct⟩ := inv.copies_cons copies
  refine ⟨inv.keys, fun _ => ?_, inv.copies_tail copies sameID, distinct,
    ?_, by rintro _ _ ⟨⟩, fun flagged => ?_⟩
  · exact (inv.backedUp backups).save found sameID same rfl
      (fun original equal stage => (stages original equal stage).2) fun _ _ _ _ _ stage => stage
  · rintro _ _ ⟨⟩
    refine ⟨keys, backups, ?_⟩
    have both : s.Stands settings fun original setting' =>
        BackedUp crypto cryptoSetting original setting' ∧
          (original.id ∈ (setting :: rest).map SettingDB.id ∨
            Migrated crypto cryptoSetting original setting') := by
      intro original mem
      obtain ⟨setting', found', same', stage⟩ := inv.backedUp backups original mem
      obtain ⟨setting'', found'', -, reached⟩ := stands original mem
      rw [found'] at found''
      cases found''
      exact ⟨setting', found', same', stage, reached⟩
    refine both.save found sameID same rfl
      (fun original equal stage => .inr (stages original equal stage.1).1)
      fun original setting' other _ _ stage => stage.2.imp_left fun mem => ?_
    rw [List.map_cons, List.mem_cons] at mem
    exact mem.resolve_left other
  · have idle := (inv.done flagged).1
    rw [pc] at idle
    cases idle

/-- A backup has been deleted, or there was none. -/
theorem Consistent.cleanedUp (inv : Consistent crypto settings cryptoSetting s)
    (pc : s.pc = .cleaning cryptoSetting' (setting :: rest)) :
    Consistent crypto settings cryptoSetting
      { s with
        settings := s.settings.save { setting with backupSensitiveData := none }
        pc := .cleaning cryptoSetting' rest
        cleaned := s.cleaned || !isEmptyBackup setting } := by
  obtain ⟨keys, stands⟩ := inv.cleaning _ _ pc
  have copies : s.pc.copies = setting :: rest := by
    rw [pc]
    rfl
  obtain ⟨found, distinct⟩ := inv.copies_cons copies
  have sameID : ({ setting with backupSensitiveData := none } : SettingDB).id = setting.id := rfl
  refine ⟨inv.keys, fun kept => ?_, inv.copies_tail copies sameID, distinct,
    by rintro _ _ ⟨⟩, ?_, fun flagged => ?_⟩
  · obtain ⟨before, empty⟩ := Bool.or_eq_false_iff.mp kept
    refine (inv.backedUp before).save found sameID rfl rfl (fun original _ stage => ?_)
      fun _ _ _ _ _ stage => stage
    unfold BackedUp at stage
    rw [if_pos (by simpa using empty)] at stage
    exact stage
  · rintro _ _ ⟨⟩
    exact ⟨keys, stands.save found sameID rfl rfl (fun _ _ isMigrated => isMigrated)
      fun _ _ _ _ _ isMigrated => isMigrated⟩
  · have idle := (inv.done flagged).1
    rw [pc] at idle
    cases idle

end Migrating

/-- The copies go on, and what is stored stays. -/
theorem Consistent.setPc (inv : Consistent crypto settings cryptoSetting s) {pc : MigrationPc}
    (running : s.pc ≠ .idle)
    (copies : ∀ copy ∈ pc.copies, s.settings.find copy.id = some copy)
    (distinct : (pc.copies.map SettingDB.id).Nodup)
    (migrating : ∀ cryptoSetting' rest, pc = .migrating cryptoSetting' rest →
      SameKeys cryptoSetting cryptoSetting' ∧ s.cleaned = false ∧
        s.Stands settings fun original setting =>
          original.id ∈ rest.map SettingDB.id ∨ Migrated crypto cryptoSetting original setting)
    (cleaning : ∀ cryptoSetting' rest, pc = .cleaning cryptoSetting' rest →
      SameKeys cryptoSetting cryptoSetting' ∧ s.Stands settings (Migrated crypto cryptoSetting)) :
    Consistent crypto settings cryptoSetting { s with pc := pc } :=
  ⟨inv.keys, inv.backedUp, copies, distinct, migrating, cleaning,
    fun flagged => absurd (inv.done flagged).1 running⟩

/-- **A step keeps the invariant**, if no backup has been deleted when it starts the
migration. -/
theorem Consistent.step (undoes : Undoes crypto)
    (inv : Consistent crypto settings cryptoSetting s) (backups : s.ResumesBackedUp event)
    (step : s.Step crypto event s') : Consistent crypto settings cryptoSetting s' := by
  unfold Step at step
  cases event with
  | start =>
      simp only [next] at step
      split at step
      · obtain ⟨toBeDone, step⟩ := Option.ite_none_right_eq_some.mp step
        cases step
        exact inv.start toBeDone backups
      · cases step
  | migrateSetting randomBytes =>
      simp only [next] at step
      split at step
      · rename_i cryptoSetting' setting rest pc
        obtain ⟨keys, backups, stands⟩ := inv.migrating _ _ pc
        split at step
        · rename_i empty
          split at step
          · rename_i saved done
            cases step
            obtain ⟨sameID, same, -⟩ := migrateSetting_spec undoes rfl rfl done
            refine inv.migrated pc sameID same fun original equal stage => ?_
            rw [BackedUp, if_pos empty] at stage
            have spec := (migrateSetting_spec undoes stage equal done).2.2
            unfold BackedUp Migrated at spec ⊢
            rw [keys.1, keys.2] at spec
            exact spec
          · cases step
            exact inv.idle
        · rename_i backup
          cases step
          have copies : s.pc.copies = setting :: rest := by
            rw [pc]
            rfl
          obtain ⟨found, distinct⟩ := inv.copies_cons copies
          refine inv.setPc (by rw [pc]; rintro ⟨⟩)
            (fun copy mem => inv.copies copy (copies ▸ List.mem_cons_of_mem _ mem))
            distinct ?_ (by rintro _ _ ⟨⟩)
          rintro _ _ ⟨⟩
          refine ⟨keys, backups, fun original mem => ?_⟩
          obtain ⟨setting', found', same', reached⟩ := stands original mem
          refine ⟨setting', found', same', ?_⟩
          rw [List.map_cons, List.mem_cons, or_assoc] at reached
          refine reached.elim (fun equal => .inr ?_) id
          -- A setting with a backup has been migrated.
          obtain ⟨setting'', found'', -, stage⟩ := inv.backedUp backups original mem
          rw [equal, found] at found' found''
          cases found'
          cases found''
          rw [BackedUp, if_neg backup] at stage
          exact stage
      · cases step
  | startCleanup =>
      simp only [next] at step
      split at step
      · rename_i cryptoSetting' pc
        cases step
        obtain ⟨keys, -, stands⟩ := inv.migrating _ _ pc
        refine inv.setPc (by rw [pc]; rintro ⟨⟩)
          (fun copy mem => Collection.find_of_mem (Collection.mem_query.mp mem).1)
          (Collection.nodup_query _ _ _) (by rintro _ _ ⟨⟩) ?_
        rintro _ _ ⟨⟩
        exact ⟨keys, stands.mono fun _ _ _ _ reached => reached.resolve_left (by rintro ⟨⟩)⟩
      · cases step
  | cleanupSetting =>
      simp only [next] at step
      split at step
      · rename_i cryptoSetting' setting rest pc
        split at step
        · cases step
          exact inv.cleanedUp pc
        · cases step
          obtain ⟨keys, stands⟩ := inv.cleaning _ _ pc
          have copies : s.pc.copies = setting :: rest := by
            rw [pc]
            rfl
          obtain ⟨-, distinct⟩ := inv.copies_cons copies
          refine inv.setPc (by rw [pc]; rintro ⟨⟩)
            (fun copy mem => inv.copies copy (copies ▸ List.mem_cons_of_mem _ mem))
            distinct (by rintro _ _ ⟨⟩) ?_
          rintro _ _ ⟨⟩
          exact ⟨keys, stands⟩
      · cases step
  | flagDone =>
      simp only [next] at step
      split at step
      · rename_i cryptoSetting' pc
        cases step
        obtain ⟨keys, stands⟩ := inv.cleaning _ _ pc
        exact ⟨keys, inv.backedUp, by rintro _ ⟨⟩, List.nodup_nil, by rintro _ _ ⟨⟩,
          by rintro _ _ ⟨⟩, fun _ => ⟨rfl, stands⟩⟩
      · cases step
  | crash =>
      cases step
      exact inv.idle

/-- **The migration keeps the plaintext.**  In every run, with any number of crashes and
resumptions, in which the migration is only resumed while no backup has been deleted: once
it is flagged as done, every setting decrypts under the current key to what it decrypted to
under the former one. -/
theorem decrypts_of_run (undoes : Undoes crypto) {current former : CryptoKey}
    (notBackedUp : ∀ original ∈ settings.docs, original.backupSensitiveData = none)
    {events : List (MigrationEvent IV)}
    (run : Transition.Run (Transition.guarded ResumesBackedUp (Step crypto))
      { settings, crypto := ⟨current, some former, true⟩ } events s)
    (done : s.crypto.migrationToBeDone = false) :
    ∀ original ∈ settings.docs, ∃ setting, s.settings.find original.id = some setting ∧
      setting.sensitiveData = original.sensitiveData ∧
      ∀ plain, decryptSensitiveDataInJSON crypto former original.sensitiveData
            original.properties = .ok plain →
        decryptSensitiveDataInJSON crypto current setting.sensitiveData setting.properties =
          .ok plain := by
  have start : Consistent crypto settings ⟨current, some former, true⟩
      { settings, crypto := ⟨current, some former, true⟩ } := by
    refine ⟨⟨rfl, rfl⟩, fun _ original mem => ?_, by rintro _ ⟨⟩, List.nodup_nil,
      by rintro _ _ ⟨⟩, by rintro _ _ ⟨⟩, by rintro ⟨⟩⟩
    refine ⟨original, Collection.find_of_mem mem, rfl, ?_⟩
    rw [BackedUp, isEmptyBackup, notBackedUp original mem]
    exact rfl
  have inv := run.invariant start fun _ _ _ inv step => inv.step undoes step.1 step.2
  intro original mem
  obtain ⟨setting, found, same, isMigrated⟩ := (inv.done done).2 original mem
  exact ⟨setting, found, same, isMigrated former rfl⟩

/-! ## A change of the key -/

/-- A cipher of a mode without authentication: to decipher with another key gives something
else. -/
def exampleCrypto : NodeCrypto Unit :=
  { toHex := fun _ => "00"
    cipher := fun key _ data => key.key ++ data
    decipher := fun key data => .ok (String.ofList (data.toList.drop (3 + key.key.toList.length))) }

theorem undoes_exampleCrypto : Undoes exampleCrypto := by
  intro key iv data
  have chars : (encrypt exampleCrypto key iv data).toList =
      ['0', '0', ':'] ++ key.key.toList ++ data.toList := by
    simp [encrypt, exampleCrypto]
  change Except.ok (String.ofList (_ : List Char)) = _
  have length : (['0', '0', ':'] ++ key.key.toList).length = 3 + key.key.toList.length := by
    simp only [List.length_append, List.length_cons, List.length_nil]
  rw [chars, ← length, List.drop_left, String.ofList_toList]

def exampleKey (key : String) : CryptoKey := ⟨key, ⟨"aes", 8 * key.length, "ctr"⟩⟩

/-- The path of the sensitive property. -/
def examplePath : String := "content.concur.clientSecret"

/-- A setting whose secret is encrypted with the former key. -/
def exampleSetting : SettingDB :=
  { id := "S"
    identifier := "refund"
    sensitiveData := [examplePath]
    properties := Function.update (fun _ => none) examplePath
      (some (encrypt exampleCrypto (exampleKey "former") () "secret")) }

def exampleMigration : MigrationState :=
  { settings := Collection.empty.save exampleSetting
    crypto := ⟨exampleKey "current", some (exampleKey "former"), true⟩ }

/-- What the stored setting decrypts to. -/
def exampleSecret (key : CryptoKey) (s : MigrationState) : Option String :=
  (s.settings.find "S").bind fun setting =>
    (decryptSensitiveDataInJSON exampleCrypto key setting.sensitiveData
      setting.properties).toOption.bind (· examplePath)

/-- The migration from where the settings are read to the done flag. -/
def exampleEnd : List (MigrationEvent Unit) :=
  [.startCleanup, .cleanupSetting, .flagDone]

instance : DecidableRel (@ResumesBackedUp Unit) := fun s event =>
  match event with
  | .start => inferInstanceAs (Decidable (s.cleaned = false))
  | .migrateSetting _ | .startCleanup | .cleanupSetting | .flagDone | .crash => isTrue trivial

/-- A crash before the clean-up: the setting has been migrated, and is not migrated again. -/
theorem decrypts_of_run_resumed :
    ∃ (s : MigrationState) (setting : SettingDB) (plain : SettingProperties),
      Transition.Run (Transition.guarded ResumesBackedUp (Step exampleCrypto)) exampleMigration
        ([.start, .migrateSetting fun _ => (), .crash, .start, .migrateSetting fun _ => ()] ++
          exampleEnd) s ∧
      plain examplePath = some "secret" ∧ s.settings.find "S" = some setting ∧
      decryptSensitiveDataInJSON exampleCrypto (exampleKey "current") setting.sensitiveData
        setting.properties = .ok plain := by
  have reached : (Transition.follow (next exampleCrypto) (fun s event _ => s.ResumesBackedUp event)
      exampleMigration
      ([.start, .migrateSetting fun _ => (), .crash, .start, .migrateSetting fun _ => ()] ++
        exampleEnd)).map (fun s => s.crypto.migrationToBeDone) = some false := by
    decide +kernel
  obtain ⟨s, hs, done⟩ := Option.map_eq_some_iff.mp reached
  have run : Transition.Run (Transition.guarded ResumesBackedUp (Step exampleCrypto))
      exampleMigration _ s :=
    .of_follow (fun _ _ _ computed backups => ⟨backups, computed⟩) hs
  have decrypted : (decryptSensitiveDataInJSON exampleCrypto (exampleKey "former")
      exampleSetting.sensitiveData exampleSetting.properties).toOption.bind (· examplePath) =
        some "secret" := by
    decide +kernel
  obtain ⟨plain, hplain, secret⟩ := Option.bind_eq_some_iff.mp decrypted
  have mem : exampleSetting ∈ exampleMigration.settings.docs := List.mem_singleton_self _
  obtain ⟨setting, found, -, same⟩ := decrypts_of_run undoes_exampleCrypto
    (fun original mem => by rw [List.mem_singleton.mp mem]; rfl) run done exampleSetting mem
  exact ⟨s, setting, plain, run, secret, found,
    same plain (Outcome.toOption_eq_some.mp hplain)⟩

/-- A crash after the clean-up, before the done flag: the resumed migration decrypts with the
former key what is encrypted with the current one. -/
theorem not_decrypts_after_cleanup :
    ∃ s : MigrationState,
      Transition.Run (Step exampleCrypto) exampleMigration
        ([.start, .migrateSetting fun _ => (), .startCleanup, .cleanupSetting, .crash, .start,
          .migrateSetting fun _ => ()] ++ exampleEnd) s ∧
      s.crypto.migrationToBeDone = false ∧
      exampleSecret (exampleKey "former") exampleMigration = some "secret" ∧
      exampleSecret (exampleKey "current") s = some "tsecret" := by
  have reached : (Transition.follow (next exampleCrypto) (fun _ _ _ => True) exampleMigration
      ([.start, .migrateSetting fun _ => (), .startCleanup, .cleanupSetting, .crash, .start,
        .migrateSetting fun _ => ()] ++ exampleEnd)).map
          (fun s => (s.crypto.migrationToBeDone, exampleSecret (exampleKey "current") s)) =
            some (false, some "tsecret") := by
    decide +kernel
  obtain ⟨s, hs, outcome⟩ := Option.map_eq_some_iff.mp reached
  rw [Prod.mk.injEq] at outcome
  exact ⟨s, .of_follow (fun _ _ _ computed _ => computed) hs, outcome.1, by decide +kernel,
    outcome.2⟩

end MigrationState

end EvServer
