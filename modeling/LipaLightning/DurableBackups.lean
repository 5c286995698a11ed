import LipaLightning.WalletLife

set_option autoImplicit false

/-! # Durable backups

Which changes of a wallet survive the loss of its device. The status of the backup lives in the
process; the remote backup, and uploads that are on their way to it, outlive the process. A change
of the db is safe if it sets the status and nothing older is on its way: then a status `Complete`
stands for a backup of the current content, for the whole life of the wallet, and one iteration of
the backup task that succeeds is enough for a recovery to restore the content of the db.

Any other change can be lost by steps of the backup alone: they end with the status `Complete`, and
no iteration backs the change up until another one sets the status.
-/

namespace LipaLightning

open Runs

namespace BackupSystem

variable {s s' : BackupSystem} {i : ℕ} {phase : IterationPhase} {content : Db}

/-! ## One iteration -/

/-- The content that an iteration past its local backup carries on. -/
def Carries (s : BackupSystem) (content : Db) : IterationPhase → Prop
  | .localBackupDone => s.dataStore.backupConn = some content
  | .uploading sent => sent = content
  | .stored => s.remote = some content
  | _ => False

/-- The backup has ended with the content, whatever is in the db. -/
structure Ended (s s' : BackupSystem) (content : Db) : Prop where
  status : s'.dataStore.backupStatus = .complete
  remote : s'.remote = some content
  conn : s'.dataStore.conn = s.dataStore.conn

theorem step_iterate (hi : s.iterations[i]? = some phase) (succeeds : Bool) :
    s.step (.iterate i succeeds) = s.iterate i succeeds phase := by
  simp only [step, hi]

/-- The iteration has gone on to its next phase. -/
def proceed (s : BackupSystem) (i : ℕ) (next : IterationPhase) : BackupSystem :=
  { s with iterations := s.iterations.set i next }

theorem proceed_getElem? (hi : s.iterations[i]? = some phase) (next : IterationPhase) :
    (s.proceed i next).iterations[i]? = some next :=
  List.getElem?_set_self (List.getElem?_eq_some_iff.mp hi).1

/-- The next steps of an iteration, none of which fails. -/
def steps (i n : ℕ) : List BackupAction := List.replicate n (.iterate i true)

theorem run_steps (hi : s.iterations[i]? = some phase) (n : ℕ) :
    run step s (steps i (n + 1)) = run step (s.iterate i true phase) (steps i n) := by
  rw [steps, List.replicate_succ, run_cons, step_iterate hi]
  rfl

/-- An iteration that has ended does nothing. -/
theorem run_steps_finished (hi : s.iterations[i]? = some .finished) (n : ℕ) :
    run step s (steps i n) = s := by
  induction n with
  | zero => rfl
  | succ n ih =>
      rw [run_steps hi]
      exact ih

theorem ended_stored (hi : s.iterations[i]? = some .stored) (hremote : s.remote = some content)
    (n : ℕ) : Ended s (run step s (steps i (n + 1))) content := by
  have hnext : (s.iterate i true .stored).iterations[i]? = some .finished :=
    proceed_getElem? hi .finished
  rw [run_steps hi, run_steps_finished hnext]
  exact ⟨rfl, hremote, rfl⟩

theorem ended_uploading (hi : s.iterations[i]? = some (.uploading content)) (n : ℕ) :
    Ended s (run step s (steps i (n + 2))) content := by
  have hnext : (s.iterate i true (.uploading content)).iterations[i]? = some .stored :=
    proceed_getElem? hi .stored
  rw [run_steps hi]
  obtain ⟨hstatus, hremote, hconn⟩ := ended_stored hnext rfl n
  exact ⟨hstatus, hremote, hconn⟩

theorem ended_localBackupDone (hi : s.iterations[i]? = some .localBackupDone)
    (hfile : s.dataStore.backupConn = some content) (n : ℕ) :
    Ended s (run step s (steps i (n + 3))) content := by
  have hread : s.iterate i true .localBackupDone = s.proceed i (.uploading content) := by
    simp only [iterate, hfile]
    rfl
  rw [run_steps hi, hread]
  obtain ⟨hstatus, hremote, hconn⟩ := ended_uploading (proceed_getElem? hi _) n
  exact ⟨hstatus, hremote, hconn⟩

/-- An iteration past its local backup can end with what it carries. -/
theorem ended_of_carries (hi : s.iterations[i]? = some phase) (hcarries : Carries s content phase) :
    Ended s (run step s (steps i 3)) content := by
  cases phase with
  | localBackupDone => exact ended_localBackupDone hi hcarries 0
  | uploading sent =>
      obtain rfl : sent = content := hcarries
      exact ended_uploading hi 1
  | stored => exact ended_stored hi hcarries 2
  | started | needsBackup | finished => exact hcarries.elim

/-- An iteration that has only started ends with the content of the db. -/
theorem ended_started (h : s.Inv) (hi : s.iterations[i]? = some .started) :
    Ended s (run step s (steps i 5)) s.dataStore.conn := by
  rw [run_steps hi]
  cases hstatus : s.dataStore.backupStatus with
  | complete =>
      have hread : s.iterate i true .started = s.proceed i .finished := by
        simp only [iterate, hstatus]
        rfl
      rw [hread, run_steps_finished (proceed_getElem? hi .finished)]
      exact ⟨hstatus, h.remoteCurrent hstatus, rfl⟩
  | waitingForBackup =>
      have hread : s.iterate i true .started = s.proceed i .needsBackup := by
        simp only [iterate, hstatus]
        rfl
      have hnext := proceed_getElem? hi .needsBackup
      rw [hread, run_steps hnext]
      have hdone : ((s.proceed i .needsBackup).iterate i true .needsBackup).iterations[i]?
          = some .localBackupDone := proceed_getElem? hnext .localBackupDone
      obtain ⟨hstatus, hremote, hconn⟩ := ended_localBackupDone hdone rfl 0
      exact ⟨hstatus, hremote, hconn⟩

/-- An iteration that nothing fails in. -/
def round (s : BackupSystem) : List BackupAction := .tick :: steps s.iterations.length 5

theorem ended_round (h : s.Inv) : Ended s (run step s s.round) s.dataStore.conn := by
  have hstarted : (s.step .tick).iterations[s.iterations.length]? = some .started :=
    List.getElem?_concat_length
  obtain ⟨hstatus, hremote, hconn⟩ := ended_started (step_inv s .tick h trivial) hstarted
  exact ⟨hstatus, hremote, hconn⟩

/-! ## One operation -/

/-- What is on its way stays current if the content of the db does. -/
theorem current_congr (hconn : s'.dataStore.conn = s.dataStore.conn)
    (hfile : s'.dataStore.backupConn = s.dataStore.backupConn) (hremote : s'.remote = s.remote)
    (phase : IterationPhase) : phase.Current s' ↔ phase.Current s := by
  cases phase with
  | localBackupDone | uploading content | stored =>
      simp only [IterationPhase.Current, hconn, hfile, hremote]
  | started | needsBackup | finished => rfl

/-- An operation keeps the backups current if a change that it makes sets the status and nothing is
on its way. -/
theorem inv_after (h : s.Inv) (env : Env) (op : Operation)
    (hop : (op.after env s.dataStore).conn ≠ s.dataStore.conn →
      (op.after env s.dataStore).backupStatus = .waitingForBackup ∧
        ∀ phase ∈ s.iterations, ¬ phase.pastLocalBackup) :
    ({ s with dataStore := op.after env s.dataStore } : BackupSystem).Inv := by
  have hfile := after_backupConn env s.dataStore op
  by_cases hconn : (op.after env s.dataStore).conn = s.dataStore.conn
  · constructor
    · intro hcomplete
      have hbefore : s.dataStore.backupStatus = .complete := by
        by_contra hne
        rw [after_waiting env s.dataStore op (status_ne_complete.mp hne)] at hcomplete
        cases hcomplete
      show s.remote = some (op.after env s.dataStore).conn
      rw [hconn]
      exact h.remoteCurrent hbefore
    · have hsame : ∀ phase : IterationPhase,
          phase.Current ⟨op.after env s.dataStore, s.remote, s.iterations⟩ ↔ phase.Current s :=
        current_congr hconn hfile rfl
      intro phase hphase
      exact (hsame phase).mpr (h.iterationsCurrent phase hphase)
  · obtain ⟨hwaiting, hquiet⟩ := hop hconn
    constructor
    · intro hcomplete
      exact absurd (hwaiting.symm.trans hcomplete) (by decide)
    · intro phase hphase
      have hout := hquiet phase hphase
      cases phase with
      | localBackupDone | uploading content | stored => exact absurd trivial hout
      | started | needsBackup | finished => trivial

/-- What an iteration past its local backup carries is the content of the db. -/
theorem Inv.carries (h : s.Inv) (hphase : phase ∈ s.iterations) (hpast : phase.pastLocalBackup) :
    Carries s s.dataStore.conn phase := by
  have hcurrent := h.iterationsCurrent phase hphase
  cases phase with
  | localBackupDone | uploading content | stored => exact hcurrent
  | started | needsBackup | finished => exact hpast.elim

end BackupSystem

/-! ## The life of a wallet -/

namespace Wallet

variable {s : Wallet} {a : WalletAction} {content : Db}

/-- What a recovery starts with. -/
def recovered (s : Wallet) : Db := s.backup.remote.getD .migrated

/-- The uploads that reach the remote storage even if the process ends. -/
def onTheirWay (s : Wallet) : List Db := s.landing ++ uploads s.backup.iterations

theorem step_recover (s : Wallet) : s.step .recover = s.opened s.recovered none := by
  unfold recovered
  cases hremote : s.backup.remote with
  | some content => simp only [step, hremote, Option.getD_some]
  | none => simp only [step, hremote, Option.getD_none]

/-- A change of the db sets the status while nothing of the db is on its way. A db that replaces
the one at hand does so while no upload is on its way. -/
def KeepsDurable (s : Wallet) : WalletAction → Prop
  | .operation op env =>
      (op.after env s.backup.dataStore).conn ≠ s.conn →
        (op.after env s.backup.dataStore).backupStatus = .waitingForBackup ∧
        (∀ phase ∈ s.backup.iterations, ¬ phase.pastLocalBackup) ∧ s.landing = []
  | .recover => s.recovered ≠ s.conn → s.onTheirWay = []
  | .reinstall => .migrated ≠ s.conn → s.onTheirWay = []
  | _ => True

/-- Everything that is on its way, from this process or an earlier one, is the content of the
db. -/
structure Durable (s : Wallet) : Prop where
  backup : s.backup.Inv
  landing : ∀ content ∈ s.landing, content = s.conn

theorem Durable.onTheirWay (h : s.Durable) : ∀ content ∈ s.onTheirWay, content = s.conn := by
  intro content hcontent
  rcases List.mem_append.mp hcontent with hlanding | hupload
  · exact h.landing content hlanding
  · exact h.backup.iterationsCurrent _ (uploading_mem.mp hupload)

theorem durable_opened {db : Db} {file : Option Db} (h : ∀ content ∈ s.onTheirWay, content = db) :
    (s.opened db file).Durable :=
  ⟨BackupSystem.start_inv db file s.backup.remote, h⟩

/-- A wallet whose db is replaced. -/
theorem Durable.opened {db : Db} {file : Option Db} (h : s.Durable)
    (hdb : db ≠ s.conn → s.onTheirWay = []) : (s.opened db file).Durable := by
  apply durable_opened
  intro content hcontent
  by_cases hsame : db = s.conn
  · rw [hsame]
    exact h.onTheirWay content hcontent
  · rw [hdb hsame] at hcontent
    cases hcontent

theorem durable_step (s : Wallet) (a : WalletAction) (h : s.Durable) (ha : s.KeepsDurable a) :
    (s.step a).Durable := by
  cases a with
  | operation op env =>
      refine ⟨BackupSystem.inv_after h.backup env op fun hne => ⟨(ha hne).1, (ha hne).2.1⟩, ?_⟩
      intro content hcontent
      by_cases hsame : (op.after env s.backup.dataStore).conn = s.conn
      · exact (h.landing content hcontent).trans hsame.symm
      · have hnil : s.landing = [] := (ha hsame).2.2
        have hmem : content ∈ s.landing := hcontent
        rw [hnil] at hmem
        cases hmem
  | tick => exact ⟨BackupSystem.step_inv s.backup .tick h.backup trivial, h.landing⟩
  | iterate i succeeds =>
      have hconn : (s.step (.iterate i succeeds)).conn = s.conn := by
        cases hphase : s.backup.iterations[i]? with
        | none => simp only [step, BackupSystem.step, hphase]
        | some phase =>
            simp only [step, BackupSystem.step, hphase]
            exact (iterated s.backup i succeeds phase).conn_eq
      refine ⟨BackupSystem.step_inv s.backup (.iterate i succeeds) h.backup trivial, ?_⟩
      intro content hcontent
      rw [hconn]
      exact h.landing content hcontent
  | restart => exact durable_opened h.onTheirWay
  | land i =>
      cases hlanding : s.landing[i]? with
      | none =>
          simp only [step, hlanding]
          exact h
      | some sent =>
          have hsent : sent = s.conn := h.landing sent (List.mem_of_getElem? hlanding)
          simp only [step, hlanding]
          refine ⟨⟨fun _ => congrArg some hsent, fun phase hphase => ?_⟩, fun _ hcontent => ?_⟩
          · have hcurrent := h.backup.iterationsCurrent phase hphase
            cases phase with
            | stored => exact congrArg some hsent
            | started | needsBackup | localBackupDone | uploading _ | finished =>
                exact hcurrent
          · exact h.landing _ (List.mem_of_mem_eraseIdx hcontent)
  | recover =>
      rw [step_recover]
      exact h.opened ha
  | reinstall => exact h.opened ha

theorem durable_fresh : fresh.Durable :=
  ⟨BackupSystem.start_inv .migrated none none, fun _ h => absurd h List.not_mem_nil⟩

/-! ## What the backup makes of it -/

def ofBackup : BackupAction → WalletAction
  | .operation op env => .operation op.val env
  | .tick => .tick
  | .iterate i succeeds => .iterate i succeeds

theorem run_ofBackup (s : Wallet) (bs : List BackupAction) :
    run step s (bs.map ofBackup) = { s with backup := run BackupSystem.step s.backup bs } := by
  induction bs generalizing s with
  | nil => rfl
  | cons b bs ih =>
      have hstep : s.step (ofBackup b) = { s with backup := s.backup.step b } := by
        cases b <;> rfl
      rw [List.map_cons, run_cons, hstep, ih]
      rfl

/-- The step is one of the backup: of an iteration, or of an upload. -/
def isOfBackup : WalletAction → Bool
  | .tick | .iterate _ _ | .land _ => true
  | _ => false

theorem isOfBackup_steps (i n : ℕ) :
    ∀ b ∈ (BackupSystem.steps i n).map ofBackup, isOfBackup b = true := by
  intro b hb
  obtain ⟨c, hc, rfl⟩ := List.mem_map.mp hb
  rw [List.eq_of_mem_replicate hc]
  rfl

/-- An iteration of the backup task that nothing fails in. -/
def round (s : Wallet) : List WalletAction := s.backup.round.map ofBackup

theorem isOfBackup_round (s : Wallet) : ∀ b ∈ s.round, isOfBackup b = true := by
  intro b hb
  rcases List.mem_cons.mp hb with rfl | hb
  · rfl
  · exact isOfBackup_steps s.backup.iterations.length 5 b hb

/-- After an iteration that nothing fails in, a recovery restores the content of the db. -/
theorem recovered_round (h : s.backup.Inv) :
    (run step s s.round).conn = s.conn ∧ (run step s s.round).recovered = s.conn ∧
      (run step s s.round).backup.dataStore.backupStatus = .complete := by
  obtain ⟨hstatus, hremote, hconn⟩ := BackupSystem.ended_round h
  rw [round, run_ofBackup]
  exact ⟨hconn, congrArg (fun remote : Option Db => remote.getD .migrated) hremote, hstatus⟩

/-- The change is lost: steps of the backup alone lead to a status `Complete` without a backup of
the current content. -/
def CanBeLost (s : Wallet) : Prop :=
  ∃ bs, (∀ b ∈ bs, isOfBackup b = true) ∧ ¬ (run step s bs).backup.RemoteCurrent

/-- An iteration that carries another content on. -/
theorem canBeLost_of_iteration {phase : IterationPhase} (hphase : phase ∈ s.backup.iterations)
    (hcarries : BackupSystem.Carries s.backup content phase) (hne : content ≠ s.conn) :
    s.CanBeLost := by
  obtain ⟨i, hi⟩ := List.mem_iff_getElem?.mp hphase
  obtain ⟨hstatus, hremote, hconn⟩ := BackupSystem.ended_of_carries hi hcarries
  refine ⟨(BackupSystem.steps i 3).map ofBackup, isOfBackup_steps i 3, fun hcurrent => hne ?_⟩
  rw [run_ofBackup] at hcurrent
  have hdb := hremote.symm.trans (hcurrent hstatus)
  rw [hconn] at hdb
  exact Option.some.inj hdb

/-- An upload of another content that an earlier process has left. -/
theorem canBeLost_of_landing (h : s.backup.Inv) (hcontent : content ∈ s.landing)
    (hne : content ≠ s.conn) : s.CanBeLost := by
  obtain ⟨i, hi⟩ := List.mem_iff_getElem?.mp hcontent
  obtain ⟨hconn, -, hstatus⟩ := recovered_round h
  refine ⟨s.round ++ [.land i], ?_, fun hcurrent => hne ?_⟩
  · intro b hb
    rcases List.mem_append.mp hb with hb | hb
    · exact s.isOfBackup_round b hb
    · rw [List.mem_singleton.mp hb]
      rfl
  · have hlanding : (run step s s.round).landing = s.landing := by rw [round, run_ofBackup]
    have hland : (run step s s.round).step (.land i) =
        ⟨{ (run step s s.round).backup with remote := some content },
          (run step s s.round).landing.eraseIdx i⟩ := by
      simp only [step, hlanding, hi]
    rw [run_append, run_cons, run_nil, hland] at hcurrent
    exact (Option.some.inj (hcurrent hstatus)).trans hconn

/-- A db that replaces the one at hand while an upload of the latter is on its way. -/
theorem canBeLost_opened (h : s.Durable) {db : Db} {file : Option Db}
    (hbreaks : ¬ (db ≠ s.conn → s.onTheirWay = [])) : (s.opened db file).CanBeLost := by
  obtain ⟨hne, huploads⟩ := Classical.not_imp.mp hbreaks
  obtain ⟨content, hcontent⟩ := List.exists_mem_of_ne_nil _ huploads
  have hsame := h.onTheirWay content hcontent
  exact canBeLost_of_landing (BackupSystem.start_inv db file s.backup.remote) hcontent
    fun hdb => hne (hdb.symm.trans hsame)

theorem canBeLost_of_breaks (h : s.Durable) (ha : ¬ s.KeepsDurable a) : (s.step a).CanBeLost := by
  cases a with
  | operation op env =>
      obtain ⟨hne, hbreaks⟩ := Classical.not_imp.mp ha
      by_cases hstatus : (op.after env s.backup.dataStore).backupStatus = .complete
      · -- the change does not set the status
        refine ⟨[], fun b hb => absurd hb List.not_mem_nil, fun hcurrent => hne ?_⟩
        have hbefore : s.backup.dataStore.backupStatus = .complete := by
          by_contra hwaiting
          rw [after_waiting env _ op (status_ne_complete.mp hwaiting)] at hstatus
          cases hstatus
        have hremote := h.backup.remoteCurrent hbefore
        exact Option.some.inj ((hcurrent hstatus).symm.trans hremote)
      have hwaiting := status_ne_complete.mp hstatus
      by_cases hquiet : ∀ phase ∈ s.backup.iterations, ¬ phase.pastLocalBackup
      · -- an earlier process has left an upload
        have hlanding : s.landing ≠ [] := fun hnil => hbreaks ⟨hwaiting, hquiet, hnil⟩
        obtain ⟨content, hcontent⟩ := List.exists_mem_of_ne_nil _ hlanding
        have hinv := BackupSystem.inv_after h.backup env op fun _ => ⟨hwaiting, hquiet⟩
        exact canBeLost_of_landing hinv hcontent
          fun hdb => hne (hdb.symm.trans (h.landing content hcontent))
      · -- an iteration is past its local backup
        push Not at hquiet
        obtain ⟨phase, hphase, hpast⟩ := hquiet
        have hcarries := h.backup.carries hphase hpast
        have hafter : BackupSystem.Carries (s.step (.operation op env)).backup s.conn phase := by
          cases phase with
          | localBackupDone =>
              exact (BackupSystem.after_backupConn env s.backup.dataStore op).trans hcarries
          | uploading sent | stored => exact hcarries
          | started | needsBackup | finished => exact hpast.elim
        exact canBeLost_of_iteration hphase hafter (Ne.symm hne)
  | recover =>
      rw [step_recover]
      exact canBeLost_opened h ha
  | reinstall => exact canBeLost_opened h ha
  | tick | iterate i succeeds | restart | land i => exact absurd trivial ha

/-! ## Durable lives -/

/-- **Durable backups.** In every life of a wallet whose changes set the status while nothing of the
db is on its way, the remote backup is current whenever the status is `Complete`, and after one
iteration that nothing fails in a recovery restores the content of the db. The condition cannot be
weakened: the first step that breaks it can be followed by steps of the backup alone that lose the
change. -/
theorem wallet_durable {as : List WalletAction} (h : AllSteps step KeepsDurable fresh as) :
    Throughout step (fun s => s.backup.RemoteCurrent) fresh as ∧
      (let s := run step fresh as
       (run step s s.round).conn = s.conn ∧
        (run step s (s.round ++ [.recover])).conn = s.conn ∧
        ∀ a, ¬ s.KeepsDurable a → (s.step a).CanBeLost) := by
  have hdurable := throughout_of_allSteps step durable_step as fresh durable_fresh h
  have hlast : (run step fresh as).Durable := hdurable.last step as fresh
  refine ⟨hdurable.imp step (fun s hs => hs.backup.remoteCurrent) as fresh, ?_, ?_, ?_⟩
  · exact (recovered_round hlast.backup).1
  · rw [run_append, run_cons, run_nil, step_recover]
    exact (recovered_round hlast.backup).2.1
  · exact fun a ha => canBeLost_of_breaks hlast ha

/-- A setting, its backup, a restart and another setting. -/
def settled : List WalletAction :=
  [.operation (.appendAnalyticsConfig .disabled) ⟨0, fun _ => false⟩, .tick, .iterate 0 true,
    .iterate 0 true, .iterate 0 true, .iterate 0 true, .iterate 0 true, .restart,
    .operation (.storeSelectedFiatCurrency "CHF") ⟨0, fun _ => false⟩]

theorem wallet_durable_settled :
    (run step (run step fresh settled) ((run step fresh settled).round ++ [.recover])).conn
      = (run step fresh settled).conn := by
  have hkeeps : AllSteps step KeepsDurable fresh settled :=
    ⟨fun _ => ⟨rfl, fun phase h => absurd h List.not_mem_nil, rfl⟩, trivial, trivial, trivial,
      trivial, trivial, trivial, trivial,
      fun _ => ⟨rfl, fun phase h => absurd h List.not_mem_nil, rfl⟩, trivial⟩
  exact (wallet_durable hkeeps).2.2.1

end Wallet

end LipaLightning
