import LipaLightning.Recovery.SymmetricEncryption
import Mathlib.Logic.Function.Basic

set_option autoImplicit false

/-! # Recovery of the local db

`BackupManager` (`backup.rs`) sends the encrypted local backup file to the remote storage and
fetches it again; `recover_lightning_node` (`recovery.rs`) writes it to the db path, if nothing is
there yet. A write that fails after it has created the file leaves the file behind, and the next
recovery refuses to run because of it. `recovery_safe_iff` shows that this is the only way in which
a failed recovery leaves a file.
-/

namespace LipaLightning

def dbFilename : String := "db2.db3"

def backupDbFilenameSuffix : String := ".backup"

/-- `SCHEMA_NAME` of `backup.rs`. -/
def backupSchemaName : String := "COMPLETE_DB"

/-- `SCHEMA_VERSION` of `backup.rs`. -/
def backupSchemaVersion : String := "0"

/-! ## The filesystem -/

/-- The contents of the file at each path. -/
abbrev Filesystem := String → Option (List UInt8)

/-- Why a write fails: the file cannot be created, or nothing more can be written after so many
bytes. -/
inductive WriteFailure where
  | create
  | write (written : Nat)
  deriving DecidableEq, Repr

namespace Filesystem

/-- `fs::read`. -/
def read (files : Filesystem) (path : String) : Except Unit (List UInt8) :=
  match files path with
  | some contents => .ok contents
  | none => .error ()

/-- `fs::write`: creates or truncates the file, then writes the contents. -/
def write (files : Filesystem) (failure : Option WriteFailure) (path : String)
    (contents : List UInt8) : Except Unit Unit × Filesystem :=
  match failure with
  | none => (.ok (), Function.update files path (some contents))
  | some .create => (.error (), files)
  | some (.write written) =>
      if written < contents.length then
        (.error (), Function.update files path (some (contents.take written)))
      else (.ok (), Function.update files path (some contents))

theorem read_eq_ok {files : Filesystem} {path : String} {contents : List UInt8} :
    files.read path = .ok contents ↔ files path = some contents := by
  unfold read
  cases files path with
  | none => simp
  | some contents' => simp

/-- Only the file at the path is written. -/
theorem write_apply_of_ne (files : Filesystem) (failure : Option WriteFailure) {path path' : String}
    (contents : List UInt8) (h : path' ≠ path) :
    (files.write failure path contents).2 path' = files path' := by
  rcases failure with _ | _ | written
  · exact Function.update_of_ne h _ files
  · rfl
  · unfold write
    dsimp only
    split
    · exact Function.update_of_ne h _ files
    · exact Function.update_of_ne h _ files

/-- A write that succeeds leaves exactly the contents. -/
theorem write_of_ok {files : Filesystem} {failure : Option WriteFailure} {path : String}
    {contents : List UInt8} (h : (files.write failure path contents).1 = .ok ()) :
    (files.write failure path contents).2 = Function.update files path (some contents) := by
  unfold write at h ⊢
  rcases failure with _ | _ | written
  · rfl
  · cases h
  · by_cases hshort : written < contents.length
    · simp [hshort] at h
    · simp [hshort]

/-- A write that fails leaves a file exactly if it was cut short. -/
theorem write_of_error {files : Filesystem} {failure : Option WriteFailure} {path : String}
    {contents : List UInt8} {e : Unit} (h : (files.write failure path contents).1 = .error e)
    (hnone : files path = none) :
    (files.write failure path contents).2 path = none ↔
      ¬ ∃ written, failure = some (.write written) ∧ written < contents.length := by
  unfold write at h ⊢
  rcases failure with _ | _ | written
  · cases h
  · simp [hnone]
  · by_cases hshort : written < contents.length
    · simp [hshort]
    · simp [hshort] at h

end Filesystem

/-! ## The backup manager -/

/-- `squirrel::Backup`. -/
structure RemoteBackup where
  encryptedBackup : List UInt8
  schemaName : String
  schemaVersion : String
  deriving DecidableEq, Repr

/-- The codes of the `graphql` crate, of which the library tells one from the others. -/
inductive GraphQlRuntimeErrorCode where
  | objectNotFound
  | other (name : String)
  deriving DecidableEq, Repr

/-- `squirrel::RemoteBackupClient`; `σ` is the state of the remote storage. -/
structure RemoteBackupClient (σ : Type) where
  createBackup : RemoteBackup → σ → Except (Error GraphQlRuntimeErrorCode) Unit × σ
  recoverBackup : String → σ → Except (Error GraphQlRuntimeErrorCode) RemoteBackup

structure BackupManager (σ : Type) where
  remoteBackupClient : RemoteBackupClient σ
  localDbPath : String
  localBackupDbPath : String
  encryptionKey : Bytes 32

namespace BackupManager

variable {σ : Type} (self : BackupManager σ) (aes : Aes256Gcm)

def new (remoteBackupClient : RemoteBackupClient σ) (localDbPath : String)
    (encryptionKey : Bytes 32) : BackupManager σ :=
  ⟨remoteBackupClient, localDbPath, localDbPath ++ backupDbFilenameSuffix, encryptionKey⟩

/-- The backup that is sent to the remote storage. -/
def encryptedLocalDb (randomBytes : Except String (Bytes nonceLength)) (files : Filesystem) :
    Result RemoteBackup := do
  let localDb ← mapToPermanentFailure (files.read self.localBackupDbPath)
    "Failed to read db file from local filesystem"
  let encryptedBackup ← encrypt aes randomBytes localDb self.encryptionKey
  return ⟨encryptedBackup, backupSchemaName, backupSchemaVersion⟩

def backup (randomBytes : Except String (Bytes nonceLength)) (files : Filesystem) (remote : σ) :
    Result Unit × σ :=
  match self.encryptedLocalDb aes randomBytes files with
  | .error e => (.error e, remote)
  | .ok backup =>
      let (created, remote) := self.remoteBackupClient.createBackup backup remote
      (mapToPermanentFailure created "Failed to perform backup of local db", remote)

/-- What has been stored remotely once a backup has succeeded. -/
theorem backup_eq_ok {self : BackupManager σ} {aes : Aes256Gcm}
    {randomBytes : Except String (Bytes nonceLength)} {files : Filesystem} {remote remote' : σ}
    (h : self.backup aes randomBytes files remote = (.ok (), remote')) :
    ∃ localDb encryptedBackup, files self.localBackupDbPath = some localDb ∧
      encrypt aes randomBytes localDb self.encryptionKey = .ok encryptedBackup ∧
      self.remoteBackupClient.createBackup
        ⟨encryptedBackup, backupSchemaName, backupSchemaVersion⟩ remote = (.ok (), remote') := by
  unfold backup at h
  cases hencrypted : self.encryptedLocalDb aes randomBytes files with
  | error e => simp [hencrypted] at h
  | ok backup =>
      simp only [hencrypted, Prod.mk.injEq, mapToPermanentFailure_eq_ok] at h
      simp only [encryptedLocalDb, bind_eq_ok, mapToPermanentFailure_eq_ok] at hencrypted
      obtain ⟨localDb, hread, encryptedBackup, hencrypt, hbackup⟩ := hencrypted
      obtain rfl := Except.ok.inj hbackup
      refine ⟨localDb, encryptedBackup, Filesystem.read_eq_ok.mp hread, hencrypt, ?_⟩
      exact Prod.ext h.1 h.2

/-- What `recover` returns when the remote storage does not answer with a backup. -/
def withoutBackup (allowExternalRecovery : Bool) : Error GraphQlRuntimeErrorCode → Result Unit
  | .runtimeError .objectNotFound _ =>
      if allowExternalRecovery then .ok ()
      else .error (.runtimeError .backupNotFound
        ("No backup was found in remote, this must be an external wallet. Failing " ++
          "because allow_external_recovery is false."))
  | _ => .error (.runtimeError .backupServiceUnavailable "Failed to fetch db backup from remote")

def recover (remote : σ) (failure : Option WriteFailure) (allowExternalRecovery : Bool)
    (files : Filesystem) : Result Unit × Filesystem :=
  match self.remoteBackupClient.recoverBackup backupSchemaName remote with
  | .error e => (withoutBackup allowExternalRecovery e, files)
  | .ok backup =>
      match decrypt aes backup.encryptedBackup self.encryptionKey with
      | .error e => (.error e, files)
      | .ok localDb =>
          let (written, files) := files.write failure self.localDbPath localDb
          (mapToPermanentFailure written "Failed to write recovered db to filesystem", files)

end BackupManager

/-! ## The recovery of a node -/

/-- `log::Level`. -/
inductive LogLevel where
  | error
  | warn
  | info
  | debug
  | trace
  deriving DecidableEq, Repr

/-- `sanitize_input::strong_type_seed`. -/
def strongTypeSeed (seed : List UInt8) : Result (Bytes 64) :=
  if h : seed.length = 64 then .ok ⟨seed, h⟩
  else .error (.invalidInput "Seed must be 64 bytes long")

@[simp] theorem strongTypeSeed_val (seed : Bytes 64) : strongTypeSeed seed.val = .ok seed := by
  simp [strongTypeSeed, seed.property]

/-- The crates that recovery rests on. `σ` is the state of the remote storage; a client is made
with the keys of the seed and a key pair of the session. -/
structure RecoveryCrates (σ Auth KeyPair : Type) where
  aes : Aes256Gcm
  /-- The secret key that `derive_key_pair` returns. -/
  deriveKeyPair : Bytes 64 → String → Result (Bytes 32)
  buildAsyncAuth : KeyPair → Bytes 64 → String → Result Auth
  remoteBackupClient : String → Auth → RemoteBackupClient σ

/-- What can go one way or the other while a node is recovered. -/
structure RecoveryEnv (KeyPair : Type) where
  /-- What `init_logger_once` returns. -/
  initLoggerOnce : LogLevel → Result Unit
  /-- What `generate_keypair` returns. -/
  sessionKeyPair : KeyPair
  /-- What `AsyncRuntime::new` returns. -/
  asyncRuntime : Result Unit
  /-- How writing the db fails, if it does. -/
  failure : Option WriteFailure

/-- Logging to a file is optional. -/
def RecoveryEnv.initLogger {KeyPair : Type} (env : RecoveryEnv KeyPair) :
    Option LogLevel → Result Unit
  | some level => env.initLoggerOnce level
  | none => .ok ()

/-- The path of the db in a local persistence path. -/
def dbPath (localPersistencePath : String) : String := s!"{localPersistencePath}/{dbFilename}"

namespace RecoveryCrates

variable {σ Auth KeyPair : Type} (crates : RecoveryCrates σ Auth KeyPair)

def derivePersistenceEncryptionKey (seed : Bytes 64) : Result (Bytes 32) :=
  crates.deriveKeyPair seed "m/76738065'/0'/1"

/-- The backup manager of `recover_lightning_node`, if nothing keeps it from recovering. -/
def recoveryManager (env : RecoveryEnv KeyPair) (backendUrl : String) (seed : List UInt8)
    (localPersistencePath : String) (fileLoggingLevel : Option LogLevel) (files : Filesystem) :
    Result (BackupManager σ) := do
  env.initLogger fileLoggingLevel
  ensure (files (dbPath localPersistencePath) = none) (.permanentFailure
    "Trying to recover when existing wallet data is present in local persistence path")
  let strongTypedSeed ← strongTypeSeed seed
  let auth ← crates.buildAsyncAuth env.sessionKeyPair strongTypedSeed backendUrl
  let key ← crates.derivePersistenceEncryptionKey strongTypedSeed
  env.asyncRuntime
  return .new (crates.remoteBackupClient backendUrl auth) (dbPath localPersistencePath) key

def recoverLightningNode (env : RecoveryEnv KeyPair) (remote : σ) (files : Filesystem)
    (backendUrl : String) (seed : List UInt8) (localPersistencePath : String)
    (fileLoggingLevel : Option LogLevel) (allowExternalRecovery : Bool) :
    Result Unit × Filesystem :=
  match crates.recoveryManager env backendUrl seed localPersistencePath fileLoggingLevel files with
  | .error e => (.error e, files)
  | .ok manager => manager.recover crates.aes remote env.failure allowExternalRecovery files

/-! ## What recovery promises -/

/-- The cipher is lawful, and what one client of a seed has stored, another one recovers. -/
structure Lawful : Prop where
  aes : crates.aes.Lawful
  recoversStored : ∀ session session' seed backendUrl auth auth' backup remote remote',
    crates.buildAsyncAuth session seed backendUrl = .ok auth →
    crates.buildAsyncAuth session' seed backendUrl = .ok auth' →
    (crates.remoteBackupClient backendUrl auth).createBackup backup remote = (.ok (), remote') →
    (crates.remoteBackupClient backendUrl auth').recoverBackup backup.schemaName remote'
      = .ok backup

/-- After a wallet has backed its db up, recovery with the seed of the wallet writes exactly this
db, unless one of the steps before fails. -/
def RoundTrips : Prop :=
  ∀ (seed : Bytes 64) (backendUrl : String) (key : Bytes 32) (session : KeyPair) (auth : Auth)
    (walletPath : String) (randomBytes : Except String (Bytes nonceLength))
    (walletFiles : Filesystem) (localDb : List UInt8) (remote remote' : σ)
    (env : RecoveryEnv KeyPair) (files : Filesystem) (localPersistencePath : String)
    (fileLoggingLevel : Option LogLevel) (allowExternalRecovery : Bool),
    crates.buildAsyncAuth session seed backendUrl = .ok auth →
    crates.derivePersistenceEncryptionKey seed = .ok key →
    walletFiles (walletPath ++ backupDbFilenameSuffix) = some localDb →
    (BackupManager.new (crates.remoteBackupClient backendUrl auth) walletPath key).backup
      crates.aes randomBytes walletFiles remote = (.ok (), remote') →
    files (dbPath localPersistencePath) = none →
    ((crates.recoverLightningNode env remote' files backendUrl seed.val localPersistencePath
        fileLoggingLevel allowExternalRecovery).1 = .ok () →
      (crates.recoverLightningNode env remote' files backendUrl seed.val localPersistencePath
        fileLoggingLevel allowExternalRecovery).2
        = Function.update files (dbPath localPersistencePath) (some localDb)) ∧
    ((∀ level, env.initLoggerOnce level = .ok ()) → env.asyncRuntime = .ok () →
      succeeded (crates.buildAsyncAuth env.sessionKeyPair seed backendUrl) = true →
      env.failure = none →
      (crates.recoverLightningNode env remote' files backendUrl seed.val localPersistencePath
        fileLoggingLevel allowExternalRecovery).1 = .ok ())

section

variable (env : RecoveryEnv KeyPair) (remote : σ) (files : Filesystem) (backendUrl : String)
  (seed : List UInt8) (localPersistencePath : String) (fileLoggingLevel : Option LogLevel)

/-- An existing db stays as it is, and a recovery that fails leaves no file at the db path. -/
structure FailsSafely (allowExternalRecovery : Bool) : Prop where
  existing : ∀ db, files (dbPath localPersistencePath) = some db →
    (crates.recoverLightningNode env remote files backendUrl seed localPersistencePath
      fileLoggingLevel allowExternalRecovery).2 (dbPath localPersistencePath) = some db
  noFile : ∀ e, files (dbPath localPersistencePath) = none →
    (crates.recoverLightningNode env remote files backendUrl seed localPersistencePath
      fileLoggingLevel allowExternalRecovery).1 = .error e →
    (crates.recoverLightningNode env remote files backendUrl seed localPersistencePath
      fileLoggingLevel allowExternalRecovery).2 (dbPath localPersistencePath) = none

/-- Nothing keeps the node from recovering, and the remote storage answers with a backup of
`localDb` under the key of the seed. -/
def Fetches (localDb : List UInt8) : Prop :=
  ∃ manager backup,
    crates.recoveryManager env backendUrl seed localPersistencePath fileLoggingLevel files
      = .ok manager ∧
    manager.remoteBackupClient.recoverBackup backupSchemaName remote = .ok backup ∧
    decrypt crates.aes backup.encryptedBackup manager.encryptionKey = .ok localDb

/-- The db that is fetched is cut short: the file is created, but not all of the db can be
written. -/
def CutShort : Prop :=
  ∃ localDb written,
    crates.Fetches env remote files backendUrl seed localPersistencePath fileLoggingLevel localDb ∧
    env.failure = some (.write written) ∧ written < localDb.length

end

/-! ## Recovery, step by step -/

variable {crates} {env : RecoveryEnv KeyPair} {remote : σ} {files : Filesystem}
  {backendUrl : String} {seed : List UInt8} {localPersistencePath : String}
  {fileLoggingLevel : Option LogLevel} {manager : BackupManager σ}

/-- A manager is made only where there is no db. -/
theorem recoveryManager_eq_ok
    (h : crates.recoveryManager env backendUrl seed localPersistencePath fileLoggingLevel files
      = .ok manager) :
    files (dbPath localPersistencePath) = none ∧
    ∃ strongTypedSeed auth key, strongTypeSeed seed = .ok strongTypedSeed ∧
      crates.buildAsyncAuth env.sessionKeyPair strongTypedSeed backendUrl = .ok auth ∧
      crates.derivePersistenceEncryptionKey strongTypedSeed = .ok key ∧
      manager = .new (crates.remoteBackupClient backendUrl auth) (dbPath localPersistencePath)
        key := by
  unfold recoveryManager at h
  simp only [bind_eq_ok, ensure_eq_ok] at h
  obtain ⟨_, _, _, hnone, strongTypedSeed, hseed, auth, hauth, key, hkey, _, _, h⟩ := h
  exact ⟨hnone, strongTypedSeed, auth, key, hseed, hauth, hkey, (Except.ok.inj h).symm⟩

/-- At most one db is fetched. -/
theorem Fetches.eq {localDb localDb' : List UInt8}
    (h : crates.Fetches env remote files backendUrl seed localPersistencePath fileLoggingLevel
      localDb)
    (h' : crates.Fetches env remote files backendUrl seed localPersistencePath fileLoggingLevel
      localDb') : localDb = localDb' := by
  obtain ⟨manager, backup, hmanager, hbackup, hdecrypt⟩ := h
  obtain ⟨manager', backup', hmanager', hbackup', hdecrypt'⟩ := h'
  obtain rfl : manager = manager' := Except.ok.inj (hmanager.symm.trans hmanager')
  obtain rfl : backup = backup' := Except.ok.inj (hbackup.symm.trans hbackup')
  exact Except.ok.inj (hdecrypt.symm.trans hdecrypt')

/-- What is fetched is written to the db path. -/
theorem recoverLightningNode_of_fetches {localDb : List UInt8} (allowExternalRecovery : Bool)
    (h : crates.Fetches env remote files backendUrl seed localPersistencePath fileLoggingLevel
      localDb) :
    crates.recoverLightningNode env remote files backendUrl seed localPersistencePath
        fileLoggingLevel allowExternalRecovery
      = (mapToPermanentFailure
          (files.write env.failure (dbPath localPersistencePath) localDb).1
          "Failed to write recovered db to filesystem",
        (files.write env.failure (dbPath localPersistencePath) localDb).2) := by
  obtain ⟨manager, backup, hmanager, hbackup, hdecrypt⟩ := h
  obtain ⟨-, _, _, _, -, -, -, hnew⟩ := recoveryManager_eq_ok hmanager
  have hpath : manager.localDbPath = dbPath localPersistencePath := by rw [hnew]; rfl
  simp only [recoverLightningNode, hmanager, BackupManager.recover, hbackup, hdecrypt, hpath]

/-- Where nothing is fetched, nothing is written. -/
theorem recoverLightningNode_of_not_fetches (allowExternalRecovery : Bool)
    (h : ∀ localDb, ¬ crates.Fetches env remote files backendUrl seed localPersistencePath
      fileLoggingLevel localDb) :
    (crates.recoverLightningNode env remote files backendUrl seed localPersistencePath
      fileLoggingLevel allowExternalRecovery).2 = files := by
  unfold recoverLightningNode
  cases hmanager : crates.recoveryManager env backendUrl seed localPersistencePath
      fileLoggingLevel files with
  | error e => rfl
  | ok manager =>
      unfold BackupManager.recover
      dsimp only
      cases hbackup : manager.remoteBackupClient.recoverBackup backupSchemaName remote with
      | error e => rfl
      | ok backup =>
          dsimp only
          cases hdecrypt : decrypt crates.aes backup.encryptedBackup manager.encryptionKey with
          | error e => rfl
          | ok localDb => exact absurd ⟨manager, backup, hmanager, hbackup, hdecrypt⟩ (h localDb)

/-- Only the file at the db path is ever written. -/
theorem recoverLightningNode_apply_of_ne {path : String} (allowExternalRecovery : Bool)
    (h : path ≠ dbPath localPersistencePath) :
    (crates.recoverLightningNode env remote files backendUrl seed localPersistencePath
      fileLoggingLevel allowExternalRecovery).2 path = files path := by
  by_cases hfetches : ∃ localDb, crates.Fetches env remote files backendUrl seed
      localPersistencePath fileLoggingLevel localDb
  · obtain ⟨localDb, hfetches⟩ := hfetches
    rw [recoverLightningNode_of_fetches allowExternalRecovery hfetches]
    exact files.write_apply_of_ne env.failure localDb h
  · rw [recoverLightningNode_of_not_fetches allowExternalRecovery (not_exists.mp hfetches)]

/-- While there is a file at the db path, be it a db or what a failed recovery has left, every
recovery fails. -/
theorem recoverLightningNode_of_existing {db : List UInt8} (allowExternalRecovery : Bool)
    (h : files (dbPath localPersistencePath) = some db) :
    ∃ e, crates.recoverLightningNode env remote files backendUrl seed localPersistencePath
      fileLoggingLevel allowExternalRecovery = (.error e, files) := by
  unfold recoverLightningNode
  cases hmanager : crates.recoveryManager env backendUrl seed localPersistencePath
      fileLoggingLevel files with
  | error e => exact ⟨e, rfl⟩
  | ok manager =>
      have hnone := (recoveryManager_eq_ok hmanager).1
      rw [h] at hnone
      cases hnone

/-- A recovery fails safely exactly if the db it writes is not cut short. -/
theorem failsSafely_iff (allowExternalRecovery : Bool) :
    crates.FailsSafely env remote files backendUrl seed localPersistencePath fileLoggingLevel
        allowExternalRecovery ↔
      ¬ crates.CutShort env remote files backendUrl seed localPersistencePath
        fileLoggingLevel := by
  by_cases hfetches : ∃ localDb, crates.Fetches env remote files backendUrl seed
      localPersistencePath fileLoggingLevel localDb
  · obtain ⟨localDb, hfetches⟩ := hfetches
    have hrecover := recoverLightningNode_of_fetches allowExternalRecovery hfetches
    have hnone : files (dbPath localPersistencePath) = none := by
      obtain ⟨manager, _, hmanager, -⟩ := hfetches
      exact (recoveryManager_eq_ok hmanager).1
    have hcut : crates.CutShort env remote files backendUrl seed localPersistencePath
        fileLoggingLevel ↔
          ∃ written, env.failure = some (.write written) ∧ written < localDb.length := by
      constructor
      · rintro ⟨localDb', written, hfetches', hfailure, hlt⟩
        obtain rfl := hfetches.eq hfetches'
        exact ⟨written, hfailure, hlt⟩
      · rintro ⟨written, hfailure, hlt⟩
        exact ⟨localDb, written, hfetches, hfailure, hlt⟩
    rw [hcut]
    cases hwritten : (files.write env.failure (dbPath localPersistencePath) localDb).1 with
    | error e =>
        rw [← Filesystem.write_of_error hwritten hnone]
        constructor
        · intro h
          have hfile := h.noFile (.permanentFailure "Failed to write recovered db to filesystem")
            hnone (by rw [hrecover, hwritten]; rfl)
          rwa [hrecover] at hfile
        · intro hfile
          refine ⟨fun db hdb => ?_, fun e _ _ => ?_⟩
          · rw [hnone] at hdb
            cases hdb
          · rw [hrecover]
            exact hfile
    | ok u =>
        -- the write succeeds, so it has not been cut short
        refine iff_of_true ⟨fun db hdb => ?_, fun e _ he => ?_⟩ ?_
        · rw [hnone] at hdb
          cases hdb
        · rw [hrecover, hwritten] at he
          cases he
        · rintro ⟨written, hfailure, hlt⟩
          rw [hfailure] at hwritten
          simp [Filesystem.write, hlt] at hwritten
  · have hrecover :=
      recoverLightningNode_of_not_fetches allowExternalRecovery (not_exists.mp hfetches)
    refine iff_of_true ⟨fun db hdb => ?_, fun e hnone _ => ?_⟩ ?_
    · rw [hrecover]
      exact hdb
    · rw [hrecover]
      exact hnone
    · rintro ⟨localDb, _, hfetches', -⟩
      exact hfetches ⟨localDb, hfetches'⟩

/-- A node that nothing keeps from recovering fetches the backup that the clients of the seed
recover. -/
theorem fetches_of_recoveryManager {seed : Bytes 64} {key : Bytes 32} {backup : RemoteBackup}
    {localDb : List UInt8} (hkey : crates.derivePersistenceEncryptionKey seed = .ok key)
    (hstored : ∀ auth, crates.buildAsyncAuth env.sessionKeyPair seed backendUrl = .ok auth →
      (crates.remoteBackupClient backendUrl auth).recoverBackup backupSchemaName remote
        = .ok backup)
    (hdecrypt : decrypt crates.aes backup.encryptedBackup key = .ok localDb)
    (hmanager : crates.recoveryManager env backendUrl seed.val localPersistencePath
      fileLoggingLevel files = .ok manager) :
    crates.Fetches env remote files backendUrl seed.val localPersistencePath fileLoggingLevel
      localDb := by
  obtain ⟨-, strongTypedSeed, auth, key', hseed, hauth, hkey', rfl⟩ :=
    recoveryManager_eq_ok hmanager
  rw [strongTypeSeed_val] at hseed
  obtain rfl := Except.ok.inj hseed
  obtain rfl : key = key' := Except.ok.inj (hkey.symm.trans hkey')
  exact ⟨_, backup, hmanager, hstored auth hauth, hdecrypt⟩

/-- A manager is made if nothing fails. -/
theorem exists_recoveryManager {seed : Bytes 64} {key : Bytes 32}
    (fileLoggingLevel : Option LogLevel)
    (hlogger : ∀ level, env.initLoggerOnce level = .ok ())
    (hnone : files (dbPath localPersistencePath) = none)
    (hauth : succeeded (crates.buildAsyncAuth env.sessionKeyPair seed backendUrl) = true)
    (hkey : crates.derivePersistenceEncryptionKey seed = .ok key)
    (hruntime : env.asyncRuntime = .ok ()) :
    ∃ manager, crates.recoveryManager env backendUrl seed.val localPersistencePath
      fileLoggingLevel files = .ok manager := by
  have hinit : env.initLogger fileLoggingLevel = .ok () := by
    cases fileLoggingLevel with
    | none => rfl
    | some level => exact hlogger level
  obtain ⟨auth, hauth⟩ := (succeeded_iff _).mp hauth
  refine ⟨.new (crates.remoteBackupClient backendUrl auth) (dbPath localPersistencePath) key, ?_⟩
  unfold recoveryManager
  simp only [bind_eq_ok, ensure_eq_ok, strongTypeSeed_val]
  exact ⟨(), hinit, (), hnone, seed, rfl, auth, hauth, key, hkey, (), hruntime, rfl⟩

theorem Lawful.roundTrips (h : crates.Lawful) : crates.RoundTrips := by
  intro seed backendUrl key session auth walletPath randomBytes walletFiles localDb remote remote'
    env files localPersistencePath fileLoggingLevel allowExternalRecovery hauth hkey hlocal hbackup
    hnone
  obtain ⟨localDb', encryptedBackup, hlocal', hencrypt, hcreate⟩ :=
    BackupManager.backup_eq_ok hbackup
  obtain rfl : localDb = localDb' := Option.some.inj (hlocal.symm.trans hlocal')
  have hdecrypt := decrypt_encrypt h.aes hencrypt
  have hstored : ∀ auth', crates.buildAsyncAuth env.sessionKeyPair seed backendUrl = .ok auth' →
      (crates.remoteBackupClient backendUrl auth').recoverBackup backupSchemaName remote'
        = .ok ⟨encryptedBackup, backupSchemaName, backupSchemaVersion⟩ :=
    fun auth' hauth' => h.recoversStored _ _ _ _ _ _ _ _ _ hauth hauth' hcreate
  constructor
  · intro hok
    cases hmanager : crates.recoveryManager env backendUrl seed.val localPersistencePath
        fileLoggingLevel files with
    | error e => simp [recoverLightningNode, hmanager] at hok
    | ok manager =>
        have hfetches := fetches_of_recoveryManager hkey hstored hdecrypt hmanager
        rw [recoverLightningNode_of_fetches allowExternalRecovery hfetches] at hok ⊢
        exact Filesystem.write_of_ok ((mapToPermanentFailure_eq_ok _ _ _).mp hok)
  · intro hlogger hruntime hauth' hfailure
    obtain ⟨manager, hmanager⟩ :=
      exists_recoveryManager fileLoggingLevel hlogger hnone hauth' hkey hruntime
    have hfetches := fetches_of_recoveryManager hkey hstored hdecrypt hmanager
    rw [recoverLightningNode_of_fetches allowExternalRecovery hfetches, hfailure]
    rfl

/-- **Backup and recovery.** Recovery after a backup with the same seed writes exactly the db that
was backed up. Whatever the remote storage answers and whatever fails, an existing db stays as it
is, and a failed recovery leaves no file at the db path exactly if the db it fetched is not cut
short while it is written. -/
theorem recovery_safe_iff (crates : RecoveryCrates σ Auth KeyPair) (hcrates : crates.Lawful) :
    crates.RoundTrips ∧
    ∀ (env : RecoveryEnv KeyPair) (remote : σ) (files : Filesystem) (backendUrl : String)
      (seed : List UInt8) (localPersistencePath : String) (fileLoggingLevel : Option LogLevel)
      (allowExternalRecovery : Bool),
      crates.FailsSafely env remote files backendUrl seed localPersistencePath fileLoggingLevel
          allowExternalRecovery ↔
        ¬ crates.CutShort env remote files backendUrl seed localPersistencePath
          fileLoggingLevel :=
  ⟨hcrates.roundTrips, fun _ _ _ _ _ _ _ allowExternalRecovery =>
    failsSafely_iff allowExternalRecovery⟩

end RecoveryCrates

/-! ## A backup of the header of a db -/

namespace HeaderBackup

/-- The seed of the tests in `key_derivation.rs`. -/
def seed : Bytes 64 :=
  ⟨[120, 27, 253, 59, 44, 106, 92, 250, 158, 209, 85, 19, 3, 250, 32, 237, 241, 43, 170, 88, 100,
    82, 30, 119, 130, 212, 42, 27, 177, 92, 42, 68, 79, 123, 129, 120, 95, 83, 123, 236, 110, 56,
    165, 51, 208, 220, 136, 226, 167, 239, 250, 215, 185, 117, 221, 124, 155, 202, 31, 158, 113,
    23, 150, 109], rfl⟩

/-- The encryption key that is derived from it. -/
def key : Bytes 32 :=
  ⟨[181, 28, 218, 72, 137, 17, 1, 241, 231, 183, 126, 81, 232, 18, 218, 81, 217, 193, 184, 183,
    136, 213, 158, 38, 232, 175, 131, 209, 89, 245, 162, 72], rfl⟩

/-- The nonce of the tests in `symmetric_encryption.rs`. -/
def nonce : Bytes nonceLength := ⟨[109, 111, 99, 107, 117, 112, 32, 110, 111, 110, 99, 101], rfl⟩

/-- The first 16 bytes of an SQLite db. -/
def header : List UInt8 := [83, 81, 76, 105, 116, 101, 32, 102, 111, 114, 109, 97, 116, 32, 51, 0]

/-- Its encryption with AES-256-GCM under the key and the nonce. -/
def ciphertext : List UInt8 :=
  [106, 14, 151, 5, 160, 193, 178, 199, 185, 210, 202, 207, 10, 191, 237, 229, 59, 178, 213, 64,
    221, 98, 97, 214, 90, 55, 151, 18, 233, 157, 42, 106]

def stored : RemoteBackup := ⟨ciphertext ++ nonce.val, backupSchemaName, backupSchemaVersion⟩

/-- The storage of one user, which keeps the last backup. -/
def client : RemoteBackupClient (Option RemoteBackup) where
  createBackup backup _ := (.ok (), some backup)
  recoverBackup schemaName
    | some backup =>
        if backup.schemaName = schemaName then .ok backup
        else .error (.runtimeError .objectNotFound "No backup found with the provided schema name")
    | none =>
        .error (.runtimeError .objectNotFound "No backup found with the provided schema name")

def crates : RecoveryCrates (Option RemoteBackup) Unit Unit where
  aes.encrypt k n data :=
    if k = key ∧ n = nonce ∧ data = header then .ok ciphertext else .error ()
  aes.decrypt k n data :=
    if k = key ∧ n = nonce ∧ data = ciphertext then .ok header else .error ()
  deriveKeyPair _ _ := .ok key
  buildAsyncAuth _ _ _ := .ok ()
  remoteBackupClient _ _ := client

/-- Nothing fails but the write, if it does. -/
def env (failure : Option WriteFailure) : RecoveryEnv Unit := ⟨fun _ => .ok (), (), .ok (), failure⟩

theorem crates_lawful : crates.Lawful where
  aes := by
    constructor
    · intro k n data ciphertext'
      simp only [crates]
      constructor
      · intro h
        split at h
        · next heq =>
            obtain ⟨rfl, rfl, rfl⟩ := heq
            obtain rfl := Except.ok.inj h
            rfl
        · cases h
      · intro h
        split at h
        · next heq =>
            obtain ⟨rfl, rfl, rfl⟩ := heq
            obtain rfl := Except.ok.inj h
            rfl
        · cases h
    · intro k n data ciphertext' h
      simp only [crates] at h
      split at h
      · next heq =>
          obtain ⟨-, -, rfl⟩ := heq
          obtain rfl := Except.ok.inj h
          rfl
      · cases h
  recoversStored _ _ _ _ _ _ backup _ _ _ _ h := by
    obtain rfl := (Prod.mk.inj h).2
    show (if backup.schemaName = backup.schemaName then Except.ok backup else _) = .ok backup
    rw [if_pos rfl]

end HeaderBackup

namespace RecoveryCrates

/-- The header is backed up and recovered on another device. -/
theorem recovery_safe_iff_header :
    HeaderBackup.crates.recoverLightningNode (HeaderBackup.env none) (some HeaderBackup.stored)
      (fun _ => none) "https://api" HeaderBackup.seed.val "new" none false
      = (.ok (), Function.update (fun _ => none) (dbPath "new") (some HeaderBackup.header)) := by
  obtain ⟨hwritten, hok⟩ := (recovery_safe_iff HeaderBackup.crates HeaderBackup.crates_lawful).1
    HeaderBackup.seed "https://api" HeaderBackup.key () () (dbPath "old") (.ok HeaderBackup.nonce)
    (fun _ => some HeaderBackup.header) HeaderBackup.header none (some HeaderBackup.stored)
    (HeaderBackup.env none) (fun _ => none) "new" none false rfl rfl rfl rfl rfl
  have hresult := hok (fun _ => rfl) rfl rfl rfl
  exact Prod.ext hresult (hwritten hresult)

/-- The disk is full once the db file is created: the recovery fails and leaves an empty file. -/
theorem db_cut_short_left :
    ¬ ∀ (σ Auth KeyPair : Type) (crates : RecoveryCrates σ Auth KeyPair), crates.Lawful →
      crates.RoundTrips ∧
      ∀ env remote files backendUrl seed localPersistencePath fileLoggingLevel
        allowExternalRecovery,
        crates.FailsSafely env remote files backendUrl seed localPersistencePath fileLoggingLevel
          allowExternalRecovery := by
  intro h
  have hsafe := (h _ _ _ HeaderBackup.crates HeaderBackup.crates_lawful).2
    (HeaderBackup.env (some (.write 0))) (some HeaderBackup.stored) (fun _ => none) "https://api"
    HeaderBackup.seed.val "new" none false
  have hleft := hsafe.noFile (.permanentFailure "Failed to write recovered db to filesystem") rfl
    rfl
  have hfile : (HeaderBackup.crates.recoverLightningNode (HeaderBackup.env (some (.write 0)))
      (some HeaderBackup.stored) (fun _ => none) "https://api" HeaderBackup.seed.val "new" none
      false).2 (dbPath "new") = some [] := by
    decide +kernel
  rw [hfile] at hleft
  cases hleft

end RecoveryCrates

end LipaLightning
