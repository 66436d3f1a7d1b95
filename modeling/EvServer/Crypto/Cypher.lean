import EvServer.Lib.Outcome
import EvServer.Lib.Query
import EvServer.Lib.Runs
import Mathlib.Data.String.Basic

/-!
# Sensitive data and the migration of its key (`Cypher`)

The settings of a tenant list the paths of their sensitive properties, which are stored
encrypted.  When the key changes, the migration decrypts them with the former key and
encrypts them with the new one, setting by setting; a setting keeps its former values as a
backup meanwhile, and is left alone when it has one.  Then the backups are deleted, and
last the migration is flagged as done.  Until that it is resumed whenever it has ended
early.

The ciphers are those of Node's `crypto`, for which the model has two functions.  Of the
properties of a setting only the strings are modelled, by their paths; the code skips all
others.
-/

namespace EvServer

structure CryptoKeyProperties where
  blockCypher : String
  blockSize : ℕ
  operationMode : String
  deriving DecidableEq, Repr

/-- A key with its properties. -/
structure CryptoKey where
  key : String
  keyProperties : CryptoKeyProperties
  deriving DecidableEq, Repr

structure CryptoSetting where
  current : CryptoKey
  former : Option CryptoKey := none
  migrationToBeDone : Bool := false
  deriving DecidableEq, Repr

/-- Node's `crypto`, with initialization vectors in `IV`. -/
structure NodeCrypto (IV : Type) where
  /-- The vector in hexadecimal digits. -/
  toHex : IV → String
  /-- The encrypted data in hexadecimal digits, with the tag of an authenticated mode. -/
  cipher : CryptoKey → IV → String → String
  /-- The data of a vector, encrypted data and tag, separated by colons. -/
  decipher : CryptoKey → String → Except String String

/-- The string properties of a setting, by their paths. -/
abbrev SettingProperties := String → Option String

structure SettingDB where
  id : String
  identifier : String
  sensitiveData : List String
  properties : SettingProperties
  /-- A backup that is deleted is stored as `null`, like one that has never been. -/
  backupSensitiveData : Option (List (String × String)) := none

namespace Cypher

variable {IV : Type}

/-- `Cypher.encrypt`, with the random bytes it draws. -/
def encrypt (crypto : NodeCrypto IV) (key : CryptoKey) (iv : IV) (data : String) : String :=
  crypto.toHex iv ++ ":" ++ crypto.cipher key iv data

/-- `Cypher.decrypt`. -/
def decrypt (crypto : NodeCrypto IV) (key : CryptoKey) (data : String) : Except String String :=
  crypto.decipher key data

/-- One turn of `encryptSensitiveDataInJSON`; a missing or an empty property is skipped. -/
def encryptProperty (crypto : NodeCrypto IV) (key : CryptoKey) (iv : IV) (property : String)
    (data : SettingProperties) : SettingProperties :=
  match data property with
  | some value =>
      if value ≠ "" then Function.update data property (some (encrypt crypto key iv value)) else data
  | none => data

/-- One turn of `decryptSensitiveDataInJSON`. -/
def decryptProperty (crypto : NodeCrypto IV) (key : CryptoKey) (property : String)
    (data : SettingProperties) : Except String SettingProperties :=
  match data property with
  | some value =>
      if value ≠ "" then
        (decrypt crypto key value).map fun value => Function.update data property (some value)
      else .ok data
  | none => .ok data

/-- `encryptSensitiveDataInJSON`, with the random bytes it draws one after the other. -/
def encryptSensitiveDataInJSON (crypto : NodeCrypto IV) (key : CryptoKey) :
    (ℕ → IV) → List String → SettingProperties → SettingProperties
  | _, [], data => data
  | randomBytes, property :: sensitiveData, data =>
      encryptSensitiveDataInJSON crypto key (fun n => randomBytes (n + 1)) sensitiveData
        (encryptProperty crypto key (randomBytes 0) property data)

/-- `decryptSensitiveDataInJSON`. -/
def decryptSensitiveDataInJSON (crypto : NodeCrypto IV) (key : CryptoKey) :
    List String → SettingProperties → Except String SettingProperties
  | [], data => .ok data
  | property :: sensitiveData, data => do
      let data ← decryptProperty crypto key property data
      decryptSensitiveDataInJSON crypto key sensitiveData data

/-- `prepareBackupSensitiveData`. -/
def prepareBackupSensitiveData (setting : SettingDB) : List (String × String) :=
  setting.sensitiveData.filterMap fun property =>
    ((setting.properties property).filter (· ≠ "")).map fun value => (property, value)

/-- `Utils.isEmptyJSon` of the backup. -/
def isEmptyBackup (setting : SettingDB) : Bool :=
  setting.backupSensitiveData.all List.isEmpty

/-- The turn of `migrateSettings` for a setting without a backup. -/
def migrateSetting (crypto : NodeCrypto IV) (cryptoSetting : CryptoSetting) (randomBytes : ℕ → IV)
    (setting : SettingDB) : Except String SettingDB :=
  match cryptoSetting.former with
  | none => .error "TypeError: Cannot read properties of undefined"
  | some former =>
      (decryptSensitiveDataInJSON crypto former setting.sensitiveData setting.properties).map
        fun properties =>
          { setting with
            properties := encryptSensitiveDataInJSON crypto cryptoSetting.current randomBytes
              setting.sensitiveData properties
            backupSensitiveData := some (prepareBackupSensitiveData setting) }

/-- The settings of a tenant. -/
abbrev Settings := Collection SettingDB.id

/-- `getSettingsWithSensitiveData`. -/
def getSettingsWithSensitiveData (settings : Settings) : List SettingDB :=
  settings.query (fun setting => !setting.sensitiveData.isEmpty) SettingDB.identifier

end Cypher

/-! ## The migration -/

/-- Where `handleCryptoSettingsChange` is, with the crypto setting that it has read and the
settings that it has read and still has to deal with. -/
inductive MigrationPc
  | idle
  | migrating (cryptoSetting : CryptoSetting) (settingsToMigrate : List SettingDB)
  | cleaning (cryptoSetting : CryptoSetting) (settingsToCleanup : List SettingDB)

/-- The settings that it has read and still has to deal with. -/
def MigrationPc.copies : MigrationPc → List SettingDB
  | .idle => []
  | .migrating _ settingsToMigrate => settingsToMigrate
  | .cleaning _ settingsToCleanup => settingsToCleanup

/-- A step of the migration. -/
inductive MigrationEvent (IV : Type)
  /-- After the change of the key, or by the task that resumes the migration. -/
  | start
  | migrateSetting (randomBytes : ℕ → IV)
  /-- All settings have been migrated, and are read again. -/
  | startCleanup
  | cleanupSetting
  | flagDone
  /-- The process crashes, or an access to the database throws. -/
  | crash

structure MigrationState where
  settings : Cypher.Settings
  crypto : CryptoSetting
  pc : MigrationPc := .idle
  /-- Whether a backup has been deleted.  No step depends on it. -/
  cleaned : Bool := false

namespace MigrationState

variable {IV : Type}

/-- The state after an event; `none` when it cannot happen. -/
def next (crypto : NodeCrypto IV) (s : MigrationState) : MigrationEvent IV → Option MigrationState
  | .start =>
      match s.pc with
      | .idle =>
          if s.crypto.migrationToBeDone then
            some { s with
              pc := .migrating s.crypto (Cypher.getSettingsWithSensitiveData s.settings) }
          else none
      | _ => none
  | .migrateSetting randomBytes =>
      match s.pc with
      | .migrating cryptoSetting (setting :: rest) =>
          -- Migration already done?
          if Cypher.isEmptyBackup setting then
            match Cypher.migrateSetting crypto cryptoSetting randomBytes setting with
            | .ok migrated =>
                some { s with
                  settings := s.settings.save migrated
                  pc := .migrating cryptoSetting rest }
            | .error _ => some { s with pc := .idle }
          else some { s with pc := .migrating cryptoSetting rest }
      | _ => none
  | .startCleanup =>
      match s.pc with
      | .migrating cryptoSetting [] =>
          some { s with
            pc := .cleaning cryptoSetting (Cypher.getSettingsWithSensitiveData s.settings) }
      | _ => none
  | .cleanupSetting =>
      match s.pc with
      | .cleaning cryptoSetting (setting :: rest) =>
          if setting.backupSensitiveData.isSome then
            some { s with
              settings := s.settings.save { setting with backupSensitiveData := none }
              pc := .cleaning cryptoSetting rest
              cleaned := s.cleaned || !Cypher.isEmptyBackup setting }
          else some { s with pc := .cleaning cryptoSetting rest }
      | _ => none
  | .flagDone =>
      match s.pc with
      | .cleaning cryptoSetting [] =>
          some { s with crypto := { cryptoSetting with migrationToBeDone := false }, pc := .idle }
      | _ => none
  | .crash => some { s with pc := .idle }

/-- A step of the migration. -/
def Step (crypto : NodeCrypto IV) (s : MigrationState) (event : MigrationEvent IV)
    (s' : MigrationState) : Prop :=
  s.next crypto event = some s'

end MigrationState

end EvServer
