import LipaLightning.Backup
import LipaLightning.DataStore.Integrity

set_option autoImplicit false

/-! # The life of a wallet

The db of a wallet outlives the processes and the devices it is on. While a node runs, its
operations and the iterations of the backup task are interleaved. A process can end at any time; its
uploads may still reach the remote storage. A new process opens the files it finds. On a device
without a db, the wallet is recovered from the remote backup, or starts anew. A recovery whose write
is cut short is left out: `Recovery.Recovery` is about the part of a file that it leaves.

`wallet_life` says that in all of this the db stays intact, and that every copy of it that could be
recovered some day is intact and was the content of the db once.
-/

namespace LipaLightning

open Runs

/-- No operation reads anything of the data store but the db. -/
theorem after_conn (env : Env) (self : DataStore) (op : Operation) :
    (op.after env self).conn = (⟨op, env⟩ : Call).step self.conn := by
  cases op with
  | storeFiatTopupInfo info =>
      simp only [Call.step, Operation.after, Operation.call, DataStore.storeFiatTopupInfo,
        DataStore.new]
      split <;> rfl
  | clearFiatTopupInfo =>
      simp only [Call.step, Operation.after, Operation.call, DataStore.clearFiatTopupInfo,
        DataStore.new]
      split <;> rfl
  | storeLightningAddress address =>
      simp only [Call.step, Operation.after, Operation.call, DataStore.storeLightningAddress,
        DataStore.new]
      split <;> rfl
  | updateLightningAddress address status =>
      simp only [Call.step, Operation.after, Operation.call, DataStore.updateLightningAddress,
        DataStore.new]
      split <;> rfl
  | updatePersonalNote hash note =>
      simp only [Call.step, Operation.after, Operation.call, DataStore.updatePersonalNote_conn,
        DataStore.new]
  | _ =>
      simp only [Call.step, Operation.after, Operation.call, DataStore.storePaymentInfo,
        DataStore.storeCreatedInvoice, DataStore.updateExchangeRate,
        DataStore.appendAnalyticsConfig,
        DataStore.storeHiddenChannelCloseOnchainFundsAmountSat,
        DataStore.storeHiddenUnresolvedFailedSwap, DataStore.storeSelectedFiatCurrency,
        DataStore.new, DataStore.waitThen_conn]

structure Wallet where
  backup : BackupSystem
  /-- The uploads of processes that have ended. -/
  landing : List Db

inductive WalletAction where
  | operation (op : Operation) (env : Env)
  | tick
  | iterate (i : ℕ) (succeeds : Bool)
  | restart
  | land (i : ℕ)
  | recover
  | reinstall

namespace Wallet

def uploads (iterations : List IterationPhase) : List Db :=
  iterations.filterMap fun
    | .uploading content => some content
    | _ => none

def conn (s : Wallet) : Db := s.backup.dataStore.conn

/-- The process has ended, and another one starts on the files at hand. -/
def opened (s : Wallet) (db : Db) (file : Option Db) : Wallet where
  backup := .start db file s.backup.remote
  landing := s.landing ++ uploads s.backup.iterations

/-- A recovery writes the whole db: one whose write is cut short is not among the actions. -/
def step (s : Wallet) : WalletAction → Wallet
  | .operation op env =>
      { s with backup := { s.backup with dataStore := op.after env s.backup.dataStore } }
  | .tick => { s with backup := s.backup.step .tick }
  | .iterate i succeeds => { s with backup := s.backup.step (.iterate i succeeds) }
  | .restart => s.opened s.conn s.backup.dataStore.backupConn
  | .land i =>
      match s.landing[i]? with
      | some content =>
          ⟨{ s.backup with remote := some content }, s.landing.eraseIdx i⟩
      | none => s
  | .recover =>
      match s.backup.remote with
      | some content => s.opened content none
      -- without a backup, recovery ends without a db, if it is allowed to
      | none => s.opened .migrated none
  | .reinstall => s.opened .migrated none

/-- A new wallet. -/
def fresh : Wallet := ⟨.start .migrated none none, []⟩

/-- A copy of the db: the local backup, the remote one, or one that is on its way there. -/
def IsCopy (s : Wallet) (content : Db) : Prop :=
  s.backup.dataStore.backupConn = some content ∨ s.backup.remote = some content
    ∨ .uploading content ∈ s.backup.iterations ∨ content ∈ s.landing

/-- The content was that of the db at some time in the run. -/
def Had (as : List WalletAction) (content : Db) : Prop :=
  ∃ before after, as = before ++ after ∧ (run step fresh before).conn = content

/-! ## One step -/

section

variable {s : Wallet} {content : Db}

theorem uploading_mem {iterations : List IterationPhase} :
    content ∈ uploads iterations ↔ .uploading content ∈ iterations := by
  constructor
  · intro h
    obtain ⟨phase, hphase, hcontent⟩ := List.mem_filterMap.mp h
    split at hcontent
    · rwa [← Option.some.inj hcontent]
    · cases hcontent
  · intro h
    exact List.mem_filterMap.mpr ⟨_, h, rfl⟩

/-- A process that starts anew leaves the remote backup and the uploads as they are. -/
theorem isCopy_opened {db : Db} {file : Option Db} (h : (s.opened db file).IsCopy content)
    (hfile : file = some content → s.IsCopy content) : s.IsCopy content := by
  rcases h with h | h | h | h
  · exact hfile h
  · exact .inr (.inl h)
  · exact absurd h List.not_mem_nil
  · rcases List.mem_append.mp h with h | h
    · exact .inr (.inr (.inr h))
    · exact .inr (.inr (.inl (uploading_mem.mp h)))

/-- What a step of an iteration can do: back up the content of the db, read the local backup, or
have the remote storage store what it has sent. -/
structure Iterated (s : BackupSystem) (phase : IterationPhase) (s' : BackupSystem) : Prop where
  conn_eq : s'.dataStore.conn = s.dataStore.conn
  file : s'.dataStore.backupConn = s.dataStore.backupConn
    ∨ s'.dataStore.backupConn = some s.dataStore.conn
  remote : s'.remote = s.remote ∨ ∃ sent, phase = .uploading sent ∧ s'.remote = some sent
  uploads : ∀ content, .uploading content ∈ s'.iterations →
    .uploading content ∈ s.iterations ∨ s.dataStore.backupConn = some content

/-- An iteration that moves on to a phase without an upload adds none. -/
theorem uploads_set {iterations : List IterationPhase} {i : ℕ} {next : IterationPhase}
    {content : Db} (hnext : .uploading content ≠ next)
    (h : .uploading content ∈ iterations.set i next) : .uploading content ∈ iterations :=
  (List.mem_or_eq_of_mem_set h).resolve_right hnext

theorem iterated (s : BackupSystem) (i : ℕ) (succeeds : Bool) (phase : IterationPhase) :
    Iterated s phase (s.iterate i succeeds phase) := by
  cases phase with
  | started =>
      cases hstatus : s.dataStore.backupStatus with
      | complete =>
          simp only [BackupSystem.iterate, hstatus]
          exact ⟨rfl, .inl rfl, .inl rfl, fun c h => .inl (uploads_set (by rintro ⟨⟩) h)⟩
      | waitingForBackup =>
          simp only [BackupSystem.iterate, hstatus]
          exact ⟨rfl, .inl rfl, .inl rfl, fun c h => .inl (uploads_set (by rintro ⟨⟩) h)⟩
  | needsBackup =>
      cases succeeds with
      | false => exact ⟨rfl, .inl rfl, .inl rfl, fun c h => .inl (uploads_set (by rintro ⟨⟩) h)⟩
      | true => exact ⟨rfl, .inr rfl, .inl rfl, fun c h => .inl (uploads_set (by rintro ⟨⟩) h)⟩
  | localBackupDone =>
      simp only [BackupSystem.iterate]
      split
      · next file hfile =>
        refine ⟨rfl, .inl rfl, .inl rfl, fun c h => ?_⟩
        rcases List.mem_or_eq_of_mem_set h with h | h
        · exact .inl h
        · exact .inr (hfile.trans (congrArg some (IterationPhase.uploading.inj h).symm))
      · exact ⟨rfl, .inl rfl, .inl rfl, fun c h => .inl (uploads_set (by rintro ⟨⟩) h)⟩
  | uploading sent =>
      cases succeeds with
      | false => exact ⟨rfl, .inl rfl, .inl rfl, fun c h => .inl (uploads_set (by rintro ⟨⟩) h)⟩
      | true =>
          refine ⟨rfl, .inl rfl, .inr ⟨sent, rfl, rfl⟩, fun c h => ?_⟩
          exact .inl (uploads_set (by rintro ⟨⟩) h)
  | stored =>
      cases succeeds with
      | false => exact ⟨rfl, .inl rfl, .inl rfl, fun c h => .inl (uploads_set (by rintro ⟨⟩) h)⟩
      | true => exact ⟨rfl, .inl rfl, .inl rfl, fun c h => .inl (uploads_set (by rintro ⟨⟩) h)⟩
  | finished => exact ⟨rfl, .inl rfl, .inl rfl, fun c h => .inl h⟩

/-- An iteration backs up the content of the db, or passes on a copy that it has. -/
theorem isCopy_iterate {i : ℕ} {succeeds : Bool}
    (h : (s.step (.iterate i succeeds)).IsCopy content) :
    s.IsCopy content ∨ content = s.conn := by
  cases hphase : s.backup.iterations[i]? with
  | none =>
      simp only [step, BackupSystem.step, hphase] at h
      exact .inl h
  | some phase =>
      have hmem : phase ∈ s.backup.iterations := List.mem_of_getElem? hphase
      have hiterated := iterated s.backup i succeeds phase
      simp only [step, BackupSystem.step, hphase] at h
      rcases h with h | h | h | h
      · rcases hiterated.file with hsame | hbackup
        · exact .inl (.inl (hsame ▸ h))
        · exact .inr (Option.some.inj (h.symm.trans hbackup))
      · rcases hiterated.remote with hsame | ⟨sent, rfl, hsent⟩
        · exact .inl (.inr (.inl (hsame ▸ h)))
        · obtain rfl := Option.some.inj (h.symm.trans hsent)
          exact .inl (.inr (.inr (.inl hmem)))
      · rcases hiterated.uploads content h with hbefore | hfile
        · exact .inl (.inr (.inr (.inl hbefore)))
        · exact .inl (.inl hfile)
      · exact .inl (.inr (.inr (.inr h)))

/-- No step makes a copy of anything but the content of the db. -/
theorem isCopy_step {a : WalletAction} (h : (s.step a).IsCopy content) :
    s.IsCopy content ∨ content = s.conn := by
  cases a with
  | operation op env =>
      rcases h with h | h
      · rw [show (s.step (.operation op env)).backup.dataStore.backupConn
          = s.backup.dataStore.backupConn from BackupSystem.after_backupConn ..] at h
        exact .inl (.inl h)
      · exact .inl (.inr h)
  | tick =>
      rcases h with h | h | h | h
      · exact .inl (.inl h)
      · exact .inl (.inr (.inl h))
      · rcases List.mem_append.mp h with h | h
        · exact .inl (.inr (.inr (.inl h)))
        · exact nomatch List.mem_singleton.mp h
      · exact .inl (.inr (.inr (.inr h)))
  | iterate i succeeds => exact isCopy_iterate h
  | restart => exact .inl (isCopy_opened h .inl)
  | land i =>
      cases hlanding : s.landing[i]? with
      | none =>
          simp only [step, hlanding] at h
          exact .inl h
      | some sent =>
          simp only [step, hlanding] at h
          rcases h with h | h | h | h
          · exact .inl (.inl h)
          · obtain rfl := Option.some.inj h
            exact .inl (.inr (.inr (.inr (List.mem_of_getElem? hlanding))))
          · exact .inl (.inr (.inr (.inl h)))
          · exact .inl (.inr (.inr (.inr (List.mem_of_mem_eraseIdx h))))
  | recover =>
      cases hremote : s.backup.remote with
      | none =>
          simp only [step, hremote] at h
          exact .inl (isCopy_opened h nofun)
      | some content =>
          simp only [step, hremote] at h
          exact .inl (isCopy_opened h nofun)
  | reinstall => exact .inl (isCopy_opened h nofun)

/-- The content of the db changes by a call, or is that of a copy or of a new wallet. -/
theorem conn_step (s : Wallet) (a : WalletAction) :
    (s.step a).conn = s.conn ∨ (∃ call : Call, (s.step a).conn = call.step s.conn)
      ∨ s.IsCopy (s.step a).conn ∨ (s.step a).conn = .migrated := by
  cases a with
  | operation op env => exact .inr (.inl ⟨⟨op, env⟩, after_conn env s.backup.dataStore op⟩)
  | tick => exact .inl rfl
  | iterate i succeeds =>
      cases hphase : s.backup.iterations[i]? with
      | none =>
          refine .inl ?_
          simp only [step, BackupSystem.step, hphase]
      | some phase =>
          simp only [step, BackupSystem.step, hphase]
          exact .inl (iterated s.backup i succeeds phase).conn_eq
  | restart => exact .inl rfl
  | land i =>
      cases hlanding : s.landing[i]? with
      | none =>
          refine .inl ?_
          simp only [step, hlanding]
      | some sent =>
          simp only [step, hlanding]
          exact .inl rfl
  | recover =>
      cases hremote : s.backup.remote with
      | none =>
          simp only [step, hremote]
          exact .inr (.inr (.inr rfl))
      | some content =>
          simp only [step, hremote]
          exact .inr (.inr (.inl (.inr (.inl hremote))))
  | reinstall => exact .inr (.inr (.inr rfl))

end

/-! ## The whole life -/

section

variable {as : List WalletAction} {content : Db}

theorem had_append (h : Had as content) (bs : List WalletAction) : Had (as ++ bs) content := by
  obtain ⟨before, after, rfl, hconn⟩ := h
  exact ⟨before, after ++ bs, List.append_assoc .., hconn⟩

/-- Every copy was the content of the db once. -/
theorem had_of_isCopy (h : (run step fresh as).IsCopy content) : Had as content := by
  induction as using List.reverseRecOn with
  | nil =>
      rcases h with h | h | h | h
      · cases h
      · cases h
      · exact absurd h List.not_mem_nil
      · exact absurd h List.not_mem_nil
  | append_singleton as a ih =>
      rw [run_append] at h
      rcases isCopy_step h with h | h
      · exact had_append (ih h) [a]
      · exact ⟨as, [a], rfl, h.symm⟩

/-- What the operations keep, and what holds of a new wallet, holds of the db of any wallet and of
every copy. -/
theorem holds_run {P : Db → Prop} (hnew : P .migrated)
    (hcall : ∀ db (call : Call), P db → P (call.step db)) (as : List WalletAction) :
    P (run step fresh as).conn ∧ ∀ content, (run step fresh as).IsCopy content → P content := by
  suffices hconn : ∀ before, P (run step fresh before).conn by
    refine ⟨hconn as, fun content h => ?_⟩
    obtain ⟨before, -, -, rfl⟩ := had_of_isCopy h
    exact hconn before
  intro before
  -- a copy that is recovered was the content of the db earlier in the run
  induction hn : before.length using Nat.strong_induction_on generalizing before with
  | _ n ih =>
      cases before using List.reverseRecOn with
      | nil => exact hnew
      | append_singleton before a =>
          have hlast : P (run step fresh before).conn :=
            ih before.length (by simp at hn; omega) before rfl
          rw [run_append]
          rcases conn_step (run step fresh before) a with h | ⟨call, h⟩ | h | h
          · exact h ▸ hlast
          · exact h ▸ hcall _ call hlast
          · obtain ⟨earlier, later, rfl, hearlier⟩ := had_of_isCopy h
            have hshorter : earlier.length < n := by
              simp at hn
              omega
            have := ih earlier.length hshorter earlier rfl
            rwa [hearlier] at this
          · exact h ▸ hnew

/-- **The life of a wallet.** After any interleaving of operations, whichever of their statements
fail, with the steps of backup iterations, ends and starts of processes, uploads that arrive late,
recoveries and new starts: the db is intact and its reads succeed, and every copy of it, the one
that a recovery writes included, was the content of the db once, is intact, and is read as well. -/
theorem wallet_life (as : List WalletAction) :
    (Integrity (run step fresh as).conn ∧ Reads (run step fresh as).backup.dataStore)
      ∧ ∀ content, (run step fresh as).IsCopy content →
          Had as content ∧ Integrity content ∧ Reads (.new content none) := by
  obtain ⟨hconn, hcopies⟩ := holds_run integrity_migrated
    (fun db call h => integrity_step h call) as
  refine ⟨⟨hconn, hconn.reads⟩, fun content h => ⟨had_of_isCopy h, hcopies content h, ?_⟩⟩
  have hintact : Integrity (DataStore.new content none).conn := hcopies content h
  exact hintact.reads

end

end Wallet

end LipaLightning
