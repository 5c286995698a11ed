import LipaLightning.DataStore.BackupStatus

set_option autoImplicit false

/-! # The backup of the local db

The task `start_backup_local_db` (`task_manager.rs`) runs one iteration after another; since
`restart` only asks the old task to stop, the iterations of several tasks can overlap. An
iteration touches the shared state in separate steps, between which other iterations and
the operations of the data store run:

* it reads the backup status,
* `DataStore::backup_db` copies the db into the local backup file,
* `BackupManager::backup` reads the file and sends it off,
* the remote storage stores it,
* it sets the backup status to `Complete`.

An operation that changes the db between the second and the last step is lost to the
backup: its status `WaitingForBackup` is overwritten. `undisturbed_backup` shows that this
is the only way to a status `Complete` without a backup of the current content.
-/

namespace LipaLightning

/-- Where an iteration of the backup task stands. -/
inductive IterationPhase where
  | started
  /-- The status read was `WaitingForBackup`. -/
  | needsBackup
  /-- `backup_db` has returned `Ok`. -/
  | localBackupDone
  /-- The local backup file was read as `content`, which is on its way. -/
  | uploading (content : Db)
  /-- The remote storage has stored the backup. -/
  | stored
  | finished

/-- The operations that set the status to `WaitingForBackup`. -/
abbrev WaitingOperation := { op : Operation // op.setsWaitingForBackup = true }

structure BackupSystem where
  dataStore : DataStore
  remote : Option Db
  iterations : List IterationPhase

/-- An atomic step of the system. The step of an iteration says whether what the step calls
succeeds. -/
inductive BackupAction where
  | operation (op : WaitingOperation) (env : Env)
  | tick
  | iterate (i : Nat) (succeeds : Bool)

namespace BackupSystem

/-- One step of the iteration `i`, which stands at `phase`. -/
def iterate (s : BackupSystem) (i : Nat) (succeeds : Bool) : IterationPhase → BackupSystem
  | .started =>
      match s.dataStore.backupStatus with
      | .complete => { s with iterations := s.iterations.set i .finished }
      | .waitingForBackup => { s with iterations := s.iterations.set i .needsBackup }
  | .needsBackup =>
      match s.dataStore.backupDb !succeeds with
      | (.ok (), dataStore) =>
          { s with dataStore := dataStore, iterations := s.iterations.set i .localBackupDone }
      | (.error _, dataStore) =>
          { s with dataStore := dataStore, iterations := s.iterations.set i .finished }
  | .localBackupDone =>
      match s.dataStore.backupConn, succeeds with
      | some content, true => { s with iterations := s.iterations.set i (.uploading content) }
      | _, _ => { s with iterations := s.iterations.set i .finished }
  | .uploading content =>
      if succeeds then
        { s with remote := some content, iterations := s.iterations.set i .stored }
      else { s with iterations := s.iterations.set i .finished }
  | .stored =>
      if succeeds then
        { s with
          dataStore := { s.dataStore with backupStatus := .complete }
          iterations := s.iterations.set i .finished }
      else { s with iterations := s.iterations.set i .finished }
  | .finished => s

def step (s : BackupSystem) : BackupAction → BackupSystem
  | .operation op env => { s with dataStore := op.val.after env s.dataStore }
  | .tick => { s with iterations := s.iterations ++ [.started] }
  | .iterate i succeeds =>
      match s.iterations[i]? with
      | some phase => s.iterate i succeeds phase
      | none => s

/-- The system when the node starts: a new data store on the files at hand. -/
def start (db : Db) (file remote : Option Db) : BackupSystem := ⟨.new db file, remote, []⟩

/-- While the status is `Complete` the remote backup has the current content of the db. -/
def RemoteCurrent (s : BackupSystem) : Prop :=
  s.dataStore.backupStatus = .complete → s.remote = some s.dataStore.conn

end BackupSystem

namespace IterationPhase

/-- The iteration is between its local backup and its end. -/
def pastLocalBackup : IterationPhase → Prop
  | .localBackupDone => True
  | .uploading _ => True
  | .stored => True
  | _ => False

/-- What the iteration is about to back up is the current content. -/
def Current (s : BackupSystem) : IterationPhase → Prop
  | .localBackupDone => s.dataStore.backupConn = some s.dataStore.conn
  | .uploading content => content = s.dataStore.conn
  | .stored => s.remote = some s.dataStore.conn
  | _ => True

end IterationPhase

namespace BackupSystem

/-- No operation changes the db while an iteration is between its local backup and its
end. -/
def Undisturbed (s : BackupSystem) : BackupAction → Prop
  | .operation op env =>
      (op.val.after env s.dataStore).conn ≠ s.dataStore.conn →
        ∀ phase ∈ s.iterations, ¬ phase.pastLocalBackup
  | _ => True

/-! ## The invariant -/

/-- What every iteration is about to back up is current, and so is the remote backup while
the status is `Complete`. -/
structure Inv (s : BackupSystem) : Prop where
  remoteCurrent : s.RemoteCurrent
  iterationsCurrent : ∀ phase ∈ s.iterations, phase.Current s

/-- Replacing one phase by a current one keeps the others. -/
theorem forall_mem_set {P : IterationPhase → Prop} {l : List IterationPhase} {i : Nat}
    {phase : IterationPhase} (hl : ∀ p ∈ l, P p) (hphase : P phase) :
    ∀ p ∈ l.set i phase, P p := by
  intro p hp
  rcases List.mem_or_eq_of_mem_set hp with h | rfl
  · exact hl p h
  · exact hphase

theorem iterate_inv {s : BackupSystem} (h : s.Inv) (i : Nat) (succeeds : Bool)
    {phase : IterationPhase} (hphase : phase.Current s) : (s.iterate i succeeds phase).Inv := by
  cases phase with
  | started =>
      unfold iterate
      cases s.dataStore.backupStatus with
      | complete => exact ⟨h.remoteCurrent, forall_mem_set h.iterationsCurrent trivial⟩
      | waitingForBackup => exact ⟨h.remoteCurrent, forall_mem_set h.iterationsCurrent trivial⟩
  | needsBackup =>
      cases succeeds with
      | false => exact ⟨h.remoteCurrent, forall_mem_set h.iterationsCurrent trivial⟩
      | true =>
          -- the local file now has the current content, also for iterations that read it next
          refine ⟨h.remoteCurrent, forall_mem_set ?_ rfl⟩
          intro p hp
          have hcur := h.iterationsCurrent p hp
          cases p with
          | localBackupDone => rfl
          | _ => exact hcur
  | localBackupDone =>
      have hfile : s.dataStore.backupConn = some s.dataStore.conn := hphase
      cases succeeds with
      | false =>
          simp only [iterate, hfile]
          exact ⟨h.remoteCurrent, forall_mem_set h.iterationsCurrent trivial⟩
      | true =>
          simp only [iterate, hfile]
          exact ⟨h.remoteCurrent, forall_mem_set h.iterationsCurrent rfl⟩
  | uploading content =>
      obtain rfl : content = s.dataStore.conn := hphase
      cases succeeds with
      | false => exact ⟨h.remoteCurrent, forall_mem_set h.iterationsCurrent trivial⟩
      | true =>
          -- the upload is current, also where it replaces what another iteration has stored
          refine ⟨fun _ => rfl, forall_mem_set ?_ rfl⟩
          intro p hp
          have hcur := h.iterationsCurrent p hp
          cases p with
          | stored => rfl
          | _ => exact hcur
  | stored =>
      cases succeeds with
      | false => exact ⟨h.remoteCurrent, forall_mem_set h.iterationsCurrent trivial⟩
      | true => exact ⟨fun _ => hphase, forall_mem_set h.iterationsCurrent trivial⟩
  | finished => exact h

/-- No operation writes to the local backup file. -/
theorem after_backupConn (env : Env) (self : DataStore) (op : Operation) :
    (op.after env self).backupConn = self.backupConn := by
  cases op with
  | storeFiatTopupInfo info =>
      simp only [Operation.after, Operation.call, DataStore.storeFiatTopupInfo]
      split <;> rfl
  | clearFiatTopupInfo =>
      simp only [Operation.after, Operation.call, DataStore.clearFiatTopupInfo]
      split <;> rfl
  | storeLightningAddress address =>
      simp only [Operation.after, Operation.call, DataStore.storeLightningAddress]
      split <;> rfl
  | updateLightningAddress address status =>
      simp only [Operation.after, Operation.call, DataStore.updateLightningAddress]
      split <;> rfl
  | _ =>
      simp only [Operation.after, Operation.call, DataStore.storePaymentInfo,
        DataStore.storeCreatedInvoice, DataStore.updatePersonalNote,
        DataStore.updateExchangeRate, DataStore.appendAnalyticsConfig,
        DataStore.storeHiddenChannelCloseOnchainFundsAmountSat,
        DataStore.storeHiddenUnresolvedFailedSwap, DataStore.storeSelectedFiatCurrency,
        DataStore.waitThen_backupConn]

theorem step_inv (s : BackupSystem) (a : BackupAction) (h : s.Inv) (ha : s.Undisturbed a) :
    (s.step a).Inv := by
  cases a with
  | tick =>
      refine ⟨h.remoteCurrent, ?_⟩
      intro p hp
      rcases List.mem_append.mp hp with hp | hp
      · exact h.iterationsCurrent p hp
      · obtain rfl := List.mem_singleton.mp hp
        exact trivial
  | iterate i succeeds =>
      simp only [step]
      split
      · next phase hi =>
        exact iterate_inv h i succeeds (h.iterationsCurrent phase (List.mem_of_getElem? hi))
      · exact h
  | operation op env =>
      have hfile := after_backupConn env s.dataStore op.val
      by_cases hconn : (op.val.after env s.dataStore).conn = s.dataStore.conn
      · -- the content is the same, so everything that was current still is
        constructor
        · intro hcomplete
          show s.remote = some (op.val.after env s.dataStore).conn
          rw [hconn]
          rcases after_of_setsWaitingForBackup env s.dataStore op.property with heq | heq
          · exact h.remoteCurrent (by rw [← heq]; exact hcomplete)
          · exact absurd (heq.symm.trans hcomplete) (by decide)
        · intro p hp
          have hcur := h.iterationsCurrent p hp
          cases p with
          | localBackupDone => exact (hfile.trans hcur).trans (congrArg some hconn.symm)
          | uploading content => exact Eq.trans hcur hconn.symm
          | stored => exact Eq.trans hcur (congrArg some hconn.symm)
          | _ => trivial
      · -- the content changes: the status is `WaitingForBackup` and nothing is on its way
        have hquiet := ha hconn
        have hwait : (op.val.after env s.dataStore).backupStatus = .waitingForBackup :=
          (after_of_setsWaitingForBackup env s.dataStore op.property).resolve_left
            (fun heq => hconn (congrArg DataStore.conn heq))
        constructor
        · intro hcomplete
          exact absurd (hwait.symm.trans hcomplete) (by decide)
        · intro p hp
          have hout := hquiet p hp
          cases p with
          | localBackupDone => exact absurd trivial hout
          | uploading content => exact absurd trivial hout
          | stored => exact absurd trivial hout
          | _ => trivial

theorem start_inv (db : Db) (file remote : Option Db) : (start db file remote).Inv := by
  constructor
  · intro h
    cases h
  · intro p hp
    cases hp

/-! ## Every disturbance can lose a backup -/

/-- An iteration that is past its local backup and carries `content` on, while the db has
another content, ends with the status `Complete` and a remote backup that is not current. -/
theorem exists_lost_backup {s : BackupSystem} {i : Nat} {phase : IterationPhase} {content : Db}
    (hi : s.iterations[i]? = some phase) (hpast : phase.pastLocalBackup)
    (hcontent : match phase with
      | .localBackupDone => s.dataStore.backupConn = some content
      | .uploading c => c = content
      | .stored => s.remote = some content
      | _ => True)
    (hne : content ≠ s.dataStore.conn) :
    ∃ as, ¬ (Runs.run step s as).RemoteCurrent := by
  have hlt : i < s.iterations.length := (List.getElem?_eq_some_iff.mp hi).1
  -- once an iteration has stored its content, its last step sets `Complete`
  have hstored : ∀ s' : BackupSystem, s'.iterations[i]? = some .stored →
      s'.remote = some content → content ≠ s'.dataStore.conn →
      ¬ (Runs.run step s' [.iterate i true]).RemoteCurrent := by
    intro s' hi' hremote hne' hcur
    have hrem := hcur (by simp [step, hi', iterate])
    simp only [Runs.run_cons, Runs.run_nil, step, hi', iterate, if_true] at hrem
    exact hne' (Option.some.inj (hremote.symm.trans hrem))
  cases phase with
  | stored => exact ⟨_, hstored s hi hcontent hne⟩
  | uploading c =>
      have hc : c = content := hcontent
      refine ⟨.iterate i true :: [.iterate i true], ?_⟩
      have hstep : s.step (.iterate i true)
          = { s with remote := some c, iterations := s.iterations.set i .stored } := by
        simp [step, hi, iterate]
      rw [Runs.run_cons, hstep]
      exact hstored _ (by simp [hlt]) (congrArg some hc) hne
  | localBackupDone =>
      have hfile : s.dataStore.backupConn = some content := hcontent
      refine ⟨.iterate i true :: .iterate i true :: [.iterate i true], ?_⟩
      have hstep : s.step (.iterate i true)
          = { s with iterations := s.iterations.set i (.uploading content) } := by
        simp [step, hi, iterate, hfile]
      -- the file is read before the operation's content gets into it
      have hstep2 : (s.step (.iterate i true)).step (.iterate i true)
          = { s with
              remote := some content
              iterations := (s.iterations.set i (.uploading content)).set i .stored } := by
        rw [hstep]
        simp [step, hlt, iterate]
      rw [Runs.run_cons, Runs.run_cons, hstep2]
      exact hstored _ (by simp [hlt]) rfl hne
  | _ => exact absurd hpast (by simp [IterationPhase.pastLocalBackup])

/-- From a state that satisfies the invariant, an operation that disturbs an iteration can
be followed by steps that lose the backup of what it changed. -/
theorem exists_lost_backup_of_disturbed {s : BackupSystem} (h : s.Inv) {a : BackupAction}
    (ha : ¬ s.Undisturbed a) : ∃ as, ¬ (Runs.run step (s.step a) as).RemoteCurrent := by
  cases a with
  | tick => exact absurd trivial ha
  | iterate i succeeds => exact absurd trivial ha
  | operation op env =>
      simp only [Undisturbed, Classical.not_imp, not_forall, not_not] at ha
      obtain ⟨hne, phase, hmem, hpast⟩ := ha
      obtain ⟨i, hi⟩ := List.mem_iff_getElem?.mp hmem
      refine exists_lost_backup (s := s.step (.operation op env)) hi hpast ?_ (Ne.symm hne)
      have hcur := h.iterationsCurrent phase hmem
      cases phase with
      | localBackupDone => exact (after_backupConn env s.dataStore op.val).trans hcur
      | uploading c => exact hcur
      | stored => exact hcur
      | _ => trivial

/-- **Backup completeness.** In a run in which no operation changes the db while an
iteration is between its local backup and its end, the remote backup is current whenever
the status is `Complete`. And the condition cannot be weakened: the first operation of a run
that breaks it can be followed by steps that end in a status `Complete` without a current
remote backup. -/
theorem undisturbed_backup (db : Db) (file remote : Option Db) (as : List BackupAction)
    (has : Runs.AllSteps step Undisturbed (start db file remote) as) :
    Runs.Throughout step RemoteCurrent (start db file remote) as ∧
    ∀ a, ¬ (Runs.run step (start db file remote) as).Undisturbed a →
      ∃ bs, ¬ (Runs.run step (start db file remote) (as ++ a :: bs)).RemoteCurrent := by
  have hinv : Runs.Throughout step Inv (start db file remote) as :=
    Runs.throughout_of_allSteps step step_inv as _ (start_inv db file remote) has
  refine ⟨Runs.Throughout.imp step (fun _ h => h.remoteCurrent) as _ hinv, fun a ha => ?_⟩
  obtain ⟨bs, hbs⟩ := exists_lost_backup_of_disturbed (Runs.Throughout.last step as _ hinv) ha
  refine ⟨bs, ?_⟩
  rw [Runs.run_append, Runs.run_cons]
  exact hbs

/-- A run with two overlapping iterations and an operation before they copy the db. -/
theorem undisturbed_backup_overlapping :
    Runs.Throughout step RemoteCurrent (start .migrated none none)
      [.tick, .tick, .iterate 0 true, .iterate 1 true,
        .operation ⟨.appendAnalyticsConfig .disabled, rfl⟩ ⟨0, fun _ => false⟩,
        .iterate 0 true, .iterate 1 true, .iterate 0 true, .iterate 0 true, .iterate 0 true,
        .iterate 1 true, .iterate 1 true, .iterate 1 true] :=
  (undisturbed_backup .migrated none none _ (by
    simp [Runs.AllSteps, Undisturbed, start, step, iterate, DataStore.new,
      IterationPhase.pastLocalBackup])).1

/-- An analytics setting stored while the backup is on its way is never backed up: the
iteration sets the status to `Complete` when its upload returns. -/
theorem operation_during_upload_lost :
    ¬ ∀ as, (Runs.run step (start .migrated none none) as).RemoteCurrent := by
  intro h
  have hlast := h [.tick, .iterate 0 true, .iterate 0 true, .iterate 0 true,
    .operation ⟨.appendAnalyticsConfig .disabled, rfl⟩ ⟨0, fun _ => false⟩,
    .iterate 0 true, .iterate 0 true] rfl
  have hrows := congrArg Db.analyticsConfig (Option.some.inj hlast)
  exact absurd hrows (by decide)

end BackupSystem

end LipaLightning
