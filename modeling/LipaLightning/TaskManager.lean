import LipaLightning.AsyncRuntime
import LipaLightning.Basic.Interleaving
import Mathlib.Algebra.GroupWithZero.Nat

set_option autoImplicit false

/-! # The tasks of the task manager

`TaskManager::restart` and `request_shutdown_all` (`task_manager.rs`) among the tasks they start
and stop. The manager is behind a lock, so that one call is in progress at most. It takes its
handles one by one: it sends the message to stop, which may have to wait for room in the channel,
and drops the handle. Then it starts the tasks of the new mode. Between any two of its steps the
tasks run, those that were asked to stop included.
-/

namespace LipaLightning

open Transitions RepeatingTask

/-! ## Periods -/

/-- The periods of the tasks in seconds. -/
structure TaskPeriods where
  updateExchangeRates : Option ℕ
  syncBreez : Option ℕ
  updateLspFee : Option ℕ
  backup : Option ℕ
  healthStatusCheck : Option ℕ
  deriving DecidableEq, Repr

def foregroundPeriods : TaskPeriods where
  updateExchangeRates := some 60
  syncBreez := some (10 * 60)
  updateLspFee := some (10 * 60)
  backup := some 30
  healthStatusCheck := some 70

def backgroundPeriods : TaskPeriods where
  updateExchangeRates := none
  syncBreez := some (30 * 60)
  updateLspFee := none
  backup := none
  healthStatusCheck := none

/-- `parse::<u64>`. -/
def parseU64 (s : String) : Option ℕ :=
  let digits : List Char := match s.toList with
    | '+' :: cs => cs
    | cs => cs
  let value : ℕ := digits.foldl (fun n c => 10 * n + (c.toNat - '0'.toNat)) 0
  if digits ≠ [] ∧ digits.all Char.isDigit ∧ value < 2 ^ 64 then some value else none

/-- The periods of the foreground, which the variable `TESTING_TASK_PERIODS` replaces. A value of
it that is no number panics. -/
def getForegroundPeriods (testingTaskPeriods : Option String) : Option TaskPeriods :=
  match testingTaskPeriods with
  | none => some foregroundPeriods
  | some value => (parseU64 value).map fun period =>
      { updateExchangeRates := some period
        syncBreez := some period
        updateLspFee := some period
        backup := some period
        healthStatusCheck := some period }

inductive TaskKind where
  | exchangeRateUpdate
  | breezSync
  | lspFeeUpdate
  | backupLocalDb
  | healthStatusCheck
  deriving DecidableEq, Repr

/-- The tasks that `restart` starts, in its order. -/
def TaskPeriods.toStart (periods : TaskPeriods) : List (TaskKind × ℕ) :=
  (periods.updateExchangeRates.map (TaskKind.exchangeRateUpdate, ·)).toList
    ++ (periods.syncBreez.map (TaskKind.breezSync, ·)).toList
    ++ (periods.updateLspFee.map (TaskKind.lspFeeUpdate, ·)).toList
    ++ (periods.backup.map (TaskKind.backupLocalDb, ·)).toList
    ++ (periods.healthStatusCheck.map (TaskKind.healthStatusCheck, ·)).toList

/-! ## States and events -/

/-- The calls that take the manager: the last is that of its `drop`. -/
inductive ManagerCall where
  | foreground (testingTaskPeriods : Option String)
  | background
  | drop
  deriving DecidableEq, Repr

/-- What a call starts after it has stopped the others, unless it panics. -/
def ManagerCall.toStart : ManagerCall → Option (List (TaskKind × ℕ))
  | .foreground testingTaskPeriods =>
      (getForegroundPeriods testingTaskPeriods).map TaskPeriods.toStart
  | .background => some backgroundPeriods.toStart
  | .drop => some []

/-- Where the call in progress is. Its handles are the indices of their tasks. -/
inductive Doing where
  | idle
  | draining (left : List ℕ) (toStart : List (TaskKind × ℕ))
  | sending (handle : ℕ) (left : List ℕ) (toStart : List (TaskKind × ℕ))
  | dropping (handle : ℕ) (left : List ℕ) (toStart : List (TaskKind × ℕ))
  deriving DecidableEq, Repr

structure ManagedTasks where
  /-- Every task that was ever started. -/
  tasks : List (RepeatingTask Unit)
  /-- Which task that is, with its period. -/
  started : List (TaskKind × ℕ)
  taskHandles : List ℕ
  doing : Doing
  /-- A call has panicked with the lock taken. -/
  poisoned : Bool
  dropped : Bool

inductive ManagerEvent where
  | call (managerCall : ManagerCall)
  | panics
  | start (kind : TaskKind) (period : ℕ)
  | returns
  | task (i : ℕ) (e : Event Unit)
  deriving DecidableEq, Repr

/-- The event is one of the handle of a task, and not of the task itself. -/
def isOfHandle : Event Unit → Bool
  | .call _ _ | .sendReturns _ | .joinReturns _ | .dropHandle => true
  | _ => false

/-- The event is a step of the call in progress. -/
def ManagerEvent.isOfCall : ManagerEvent → Bool
  | .start _ _ | .returns => true
  | .task _ e => isOfHandle e
  | _ => false

/-- How far the manager is with the handle of a task. -/
inductive HandleStage where
  | held
  | sending
  | sent
  | dropped
  deriving DecidableEq, Repr

/-- What has happened to the handle. -/
def HandleStage.events : HandleStage → List (Event Unit)
  | .held => []
  | .sending => [.call () .requestShutdown]
  | .sent => [.call () .requestShutdown, .sendReturns ()]
  | .dropped => [.call () .requestShutdown, .sendReturns (), .dropHandle]

/-- What the stage says about the task. Until the message is sent the channel is empty and the
task does not leave its loop, unless it panics. -/
def HandleStage.Holds (t : RepeatingTask Unit) : HandleStage → Prop
  | .held =>
      t.handleAlive = true ∧ t.stopMessage = false ∧ t.phase ≠ .stopped ∧ t.callers () = .idle
  | .sending =>
      t.handleAlive = true ∧ t.stopMessage = false ∧ t.phase ≠ .stopped ∧
        t.callers () = .sending false
  | .sent => t.handleAlive = true ∧ t.IsToStop ∧ t.callers () = .idle
  | .dropped => t.handleAlive = false ∧ t.IsToStop

/-- The handles the call in progress has taken and not dropped. -/
def Doing.taken : Doing → List ℕ
  | .idle => []
  | .draining left _ => left
  | .sending i left _ | .dropping i left _ => i :: left

/-- What the call in progress has still to start. -/
def Doing.toStart : Doing → List (TaskKind × ℕ)
  | .idle => []
  | .draining _ toStart | .sending _ _ toStart | .dropping _ _ toStart => toStart

/-- The steps the call in progress has still to take: three for each handle, one for each task to
start, and its return. -/
def Doing.remaining : Doing → ℕ
  | .idle => 0
  | .draining left toStart => 3 * left.length + toStart.length + 1
  | .sending _ left toStart => 3 * left.length + toStart.length + 3
  | .dropping _ left toStart => 3 * left.length + toStart.length + 2

/-- The stage of a handle that is not among those of the manager. -/
def Doing.stage : Doing → ℕ → HandleStage
  | .idle, _ => .dropped
  | .draining left _, i => if i ∈ left then .held else .dropped
  | .sending j left _, i => if i = j then .sending else if i ∈ left then .held else .dropped
  | .dropping j left _, i => if i = j then .sent else if i ∈ left then .held else .dropped

namespace ManagedTasks

def new : ManagedTasks where
  tasks := []
  started := []
  taskHandles := []
  doing := .idle
  poisoned := false
  dropped := false

inductive Step : ManagedTasks → ManagerEvent → ManagedTasks → Prop
  -- `drain(..)` empties the handles at once
  | call (s : ManagedTasks) (managerCall : ManagerCall) (toStart : List (TaskKind × ℕ))
      (idle : s.doing = .idle) (alive : s.dropped = false)
      (lock : s.poisoned = false ∨ managerCall = .drop)
      (starts : managerCall.toStart = some toStart) :
      Step s (.call managerCall)
        { s with
          taskHandles := []
          doing := .draining s.taskHandles toStart
          dropped := managerCall = .drop }
  -- the periods are read before anything is stopped
  | panics (s : ManagedTasks) (managerCall : ManagerCall) (idle : s.doing = .idle)
      (alive : s.dropped = false) (lock : s.poisoned = false)
      (panic : managerCall.toStart = none) : Step s .panics { s with poisoned := true }
  | requestShutdown (s : ManagedTasks) (i : ℕ) (left : List ℕ) (toStart : List (TaskKind × ℕ))
      (t t' : RepeatingTask Unit) (next : s.doing = .draining (i :: left) toStart)
      (here : s.tasks[i]? = some t)
      (step : RepeatingTask.Step t (.call () .requestShutdown) t') :
      Step s (.task i (.call () .requestShutdown))
        { s with tasks := s.tasks.set i t', doing := .sending i left toStart }
  | sendReturns (s : ManagedTasks) (i : ℕ) (left : List ℕ) (toStart : List (TaskKind × ℕ))
      (t t' : RepeatingTask Unit) (next : s.doing = .sending i left toStart)
      (here : s.tasks[i]? = some t) (step : RepeatingTask.Step t (.sendReturns ()) t') :
      Step s (.task i (.sendReturns ()))
        { s with tasks := s.tasks.set i t', doing := .dropping i left toStart }
  | dropHandle (s : ManagedTasks) (i : ℕ) (left : List ℕ) (toStart : List (TaskKind × ℕ))
      (t t' : RepeatingTask Unit) (next : s.doing = .dropping i left toStart)
      (here : s.tasks[i]? = some t) (step : RepeatingTask.Step t .dropHandle t') :
      Step s (.task i .dropHandle)
        { s with tasks := s.tasks.set i t', doing := .draining left toStart }
  | start (s : ManagedTasks) (kind : TaskKind) (period : ℕ) (toStart : List (TaskKind × ℕ))
      (next : s.doing = .draining [] ((kind, period) :: toStart)) :
      Step s (.start kind period)
        { s with
          tasks := s.tasks ++ [RepeatingTask.spawned period]
          started := s.started ++ [(kind, period)]
          taskHandles := s.taskHandles ++ [s.tasks.length]
          doing := .draining [] toStart }
  | returns (s : ManagedTasks) (next : s.doing = .draining [] []) :
      Step s .returns { s with doing := .idle }
  -- whatever the manager does, a task takes its own steps
  | own (s : ManagedTasks) (i : ℕ) (e : Event Unit) (t t' : RepeatingTask Unit)
      (own : isOfHandle e = false) (here : s.tasks[i]? = some t)
      (step : RepeatingTask.Step t e t') :
      Step s (.task i e) { s with tasks := s.tasks.set i t' }

/-! ## One task and its handle -/

section

variable {t t' : RepeatingTask Unit} {e : Event Unit} {stage : HandleStage}

/-- The steps of the task itself leave its handle alone. -/
theorem own_step (step : RepeatingTask.Step t e t') (own : isOfHandle e = false) :
    t'.handleAlive = t.handleAlive ∧ t'.callers = t.callers ∧
      (t.handleAlive = true → t.stopMessage = false → t.phase ≠ .stopped →
        t'.stopMessage = false ∧ t'.phase ≠ .stopped) := by
  cases step with
  | tick => exact ⟨rfl, rfl, fun _ hmessage hphase => ⟨hmessage, hphase⟩⟩
  | startIteration length selecting ticked =>
      exact ⟨rfl, rfl, fun _ hmessage _ => ⟨hmessage, Phase.noConfusion⟩⟩
  | receiveStop selecting ready =>
      refine ⟨rfl, rfl, fun halive hmessage _ => ?_⟩
      rcases ready with ready | ready
      · exact absurd (hmessage.symm.trans ready) Bool.false_ne_true
      · exact absurd (ready.symm.trans halive) Bool.false_ne_true
  | resumeIteration left running =>
      exact ⟨rfl, rfl, fun _ hmessage _ => ⟨hmessage, Phase.noConfusion⟩⟩
  | endIteration running =>
      exact ⟨rfl, rfl, fun _ hmessage _ => ⟨hmessage, Phase.noConfusion⟩⟩
  | panic left running =>
      exact ⟨rfl, rfl, fun _ hmessage _ => ⟨hmessage, Phase.noConfusion⟩⟩
  | dropStatusSender ended => exact ⟨rfl, rfl, fun _ hmessage hphase => ⟨hmessage, hphase⟩⟩
  | dropStopReceiver ended => exact ⟨rfl, rfl, fun _ hmessage hphase => ⟨hmessage, hphase⟩⟩
  | call caller handleCall alive idle => exact absurd own Bool.noConfusion
  | send caller andJoin sending alive room => exact absurd own Bool.noConfusion
  | sendFails caller andJoin sending dropped => exact absurd own Bool.noConfusion
  | joinReturns caller joining closed => exact absurd own Bool.noConfusion
  | dropHandle alive idle => exact absurd own Bool.noConfusion

theorem holds_own (h : stage.Holds t) (step : RepeatingTask.Step t e t')
    (own : isOfHandle e = false) : stage.Holds t' := by
  obtain ⟨halive, hcallers, hloop⟩ := own_step step own
  cases stage with
  | held =>
      obtain ⟨hmessage, hphase⟩ := hloop h.1 h.2.1 h.2.2.1
      exact ⟨halive.trans h.1, hmessage, hphase, hcallers ▸ h.2.2.2⟩
  | sending =>
      obtain ⟨hmessage, hphase⟩ := hloop h.1 h.2.1 h.2.2.1
      exact ⟨halive.trans h.1, hmessage, hphase, hcallers ▸ h.2.2.2⟩
  | sent => exact ⟨halive.trans h.1, isToStop_step h.2.1 step, hcallers ▸ h.2.2⟩
  | dropped => exact ⟨halive.trans h.1, isToStop_step h.2 step⟩

theorem holds_requestShutdown (h : HandleStage.held.Holds t)
    (step : RepeatingTask.Step t (.call () .requestShutdown) t') :
    HandleStage.sending.Holds t' := by
  obtain ⟨halive, hmessage, hphase, -⟩ := h
  cases step with
  | call caller handleCall alive idle =>
      exact ⟨halive, hmessage, hphase, rfl⟩

theorem holds_sendReturns (h : HandleStage.sending.Holds t) (hreceives : t.ReceivesInLoop)
    (step : RepeatingTask.Step t (.sendReturns ()) t') : HandleStage.sent.Holds t' := by
  obtain ⟨halive, -, -, hsending⟩ := h
  cases step with
  | send caller andJoin sending alive room =>
      obtain rfl : andJoin = false := (Caller.sending.inj (hsending.symm.trans sending)).symm
      exact ⟨halive, .inl rfl, rfl⟩
  | sendFails caller andJoin sending dropped =>
      obtain rfl : andJoin = false := (Caller.sending.inj (hsending.symm.trans sending)).symm
      exact ⟨halive, .inr (hreceives dropped), rfl⟩

theorem holds_dropHandle (h : HandleStage.sent.Holds t)
    (step : RepeatingTask.Step t .dropHandle t') : HandleStage.dropped.Holds t' := by
  cases step with
  | dropHandle alive idle => exact ⟨rfl, h.2.1⟩

/-- The events of the handle tell the stage it is in, and with it the state of the task. -/
theorem holds_of_run {period : ℕ} {es : List (Event Unit)}
    (h : Run RepeatingTask.Step (spawned period) es t)
    (hevents : es.filter isOfHandle = stage.events) : stage.Holds t := by
  let I : RepeatingTask Unit → List (Event Unit) → Prop := fun t es =>
    t.ReceivesInLoop ∧ ∀ stage : HandleStage, es.filter isOfHandle = stage.events → stage.Holds t
  suffices hI : I t es from hI.2 stage hevents
  refine Run.invariant (I := I) ?_ h ?_
  · rintro es t e t' ⟨hreceives, hholds⟩ step
    refine ⟨receivesInLoop_step hreceives step, fun stage hstage => ?_⟩
    rw [List.filter_append] at hstage
    cases hown : isOfHandle e with
    | false =>
        rw [List.filter_cons_of_neg (by rw [hown]; exact Bool.false_ne_true),
          List.filter_nil, List.append_nil] at hstage
        exact holds_own (hholds stage hstage) step hown
    | true =>
        rw [List.filter_cons_of_pos hown, List.filter_nil] at hstage
        -- the events before this one are those of the stage before
        cases stage with
        | held => exact absurd hstage (List.append_ne_nil_of_right_ne_nil _ (by simp))
        | sending =>
            have hsplit : es.filter isOfHandle ++ [e]
                = HandleStage.held.events ++ [.call () .requestShutdown] := hstage
            obtain ⟨hbefore, hlast⟩ := List.append_inj' hsplit rfl
            cases hlast
            exact holds_requestShutdown (hholds .held hbefore) step
        | sent =>
            have hsplit : es.filter isOfHandle ++ [e]
                = HandleStage.sending.events ++ [.sendReturns ()] := hstage
            obtain ⟨hbefore, hlast⟩ := List.append_inj' hsplit rfl
            cases hlast
            exact holds_sendReturns (hholds .sending hbefore) hreceives step
        | dropped =>
            have hsplit : es.filter isOfHandle ++ [e]
                = HandleStage.sent.events ++ [.dropHandle] := hstage
            obtain ⟨hbefore, hlast⟩ := List.append_inj' hsplit rfl
            cases hlast
            exact holds_dropHandle (hholds .sent hbefore) step
  · refine ⟨(fun hdropped => nomatch hdropped), fun stage hstage => ?_⟩
    cases stage with
    | held =>
        refine ⟨rfl, rfl, ?_, rfl⟩
        show (if period = 0 then Phase.panicked else .selecting) ≠ .stopped
        split <;> exact Phase.noConfusion
    | _ => cases hstage

end

/-! ## The tasks as a pool -/

/-- What an event is to the pool of the tasks. -/
def ofPool : ManagerEvent → Option (PoolEvent (RepeatingTask Unit) (Event Unit))
  | .start _ period => some (.spawn (spawned period))
  | .task i e => some (.act i e)
  | _ => none

/-- What has happened to the task with the index `i` and to its handle. -/
def taskEvents (i : ℕ) (es : List ManagerEvent) : List (Event Unit) :=
  eventsOf i (es.filterMap ofPool)

variable {s s' : ManagedTasks} {es : List ManagerEvent} {me : ManagerEvent}

/-- The manager only moves the pool of its tasks. -/
theorem run_pool (h : Run Step new es s) :
    Run (Pool RepeatingTask.Step) [] (es.filterMap ofPool) s.tasks := by
  refine Run.simulate tasks ofPool ?_ ?_ h
  · intro s e s' step hhidden
    cases step with
    | call | panics | returns => rfl
    | _ => cases hhidden
  · intro s e s' d step hvisible
    cases step with
    | call | panics | returns => cases hvisible
    | start kind period toStart next =>
        cases hvisible
        exact .spawn _ _
    | requestShutdown i left toStart t t' next here step =>
        cases hvisible
        exact .act _ _ _ _ _ here step
    | sendReturns i left toStart t t' next here step =>
        cases hvisible
        exact .act _ _ _ _ _ here step
    | dropHandle i left toStart t t' next here step =>
        cases hvisible
        exact .act _ _ _ _ _ here step
    | own i e t t' own here step =>
        cases hvisible
        exact .act _ _ _ _ _ here step

/-- What was started is what the pool has added. -/
theorem added_of_run (h : Run Step new es s) :
    added (es.filterMap ofPool) = s.started.map fun start => spawned start.2 := by
  refine Run.invariant
    (I := fun s es => added (es.filterMap ofPool) = s.started.map fun start => spawned start.2)
    ?_ h rfl
  intro es s e s' hadded step
  rw [List.filterMap_append, added_append, hadded]
  cases step with
  | start kind period toStart next =>
      rw [List.map_append]
      rfl
  | _ => exact List.append_nil _

/-- Each task runs from its start by its own events, whatever becomes of the others. -/
theorem task_run (h : Run Step new es s) {i : ℕ} {t : RepeatingTask Unit}
    (hi : s.tasks[i]? = some t) :
    ∃ kind period, s.started[i]? = some (kind, period) ∧
      Run RepeatingTask.Step (spawned period) (taskEvents i es) t := by
  obtain ⟨t₀, hadded, hrun⟩ := pool_run (run_pool h) hi
  rw [added_of_run h, List.getElem?_map] at hadded
  obtain ⟨⟨kind, period⟩, hstarted, rfl⟩ := Option.map_eq_some_iff.mp hadded
  exact ⟨kind, period, hstarted, hrun⟩

/-! ## Every handle in its stage -/

/-- The stage of the handle of a task. A task that is not yet started is counted with those whose
handle nothing has happened to. -/
def stageOf (s : ManagedTasks) (i : ℕ) : HandleStage :=
  if i ∈ s.taskHandles ∨ s.tasks.length ≤ i then .held else s.doing.stage i

/-- What the last call was to start. -/
def lastStarts (es : List ManagerEvent) : List (TaskKind × ℕ) :=
  es.foldl (fun last e => match e with
    | .call managerCall => managerCall.toStart.getD []
    | _ => last) []

structure InStages (s : ManagedTasks) (es : List ManagerEvent) : Prop where
  nodup : (s.taskHandles ++ s.doing.taken).Nodup
  bounded : ∀ i ∈ s.taskHandles ++ s.doing.taken, i < s.tasks.length
  stage_eq : ∀ i, (taskEvents i es).filter isOfHandle = (s.stageOf i).events
  length_eq : s.started.length = s.tasks.length
  last_eq : s.taskHandles.map (s.started[·]?) ++ (s.doing.toStart).map some
    = (lastStarts es).map some

theorem inStages_new : InStages new [] where
  nodup := List.nodup_nil
  bounded _ hi := absurd hi List.not_mem_nil
  stage_eq i := by
    show [] = (stageOf new i).events
    rw [stageOf, if_pos (.inr (Nat.zero_le i))]
    rfl
  length_eq := rfl
  last_eq := rfl

theorem taskEvents_append (i : ℕ) (es fs : List ManagerEvent) :
    taskEvents i (es ++ fs) = taskEvents i es ++ taskEvents i fs := by
  unfold taskEvents
  rw [List.filterMap_append, eventsOf_append]

theorem taskEvents_task (i : ℕ) (e : Event Unit) : taskEvents i [.task i e] = [e] := by
  simp [taskEvents, ofPool, eventsOf, PoolEvent.ofComponent]

theorem taskEvents_task_ne {i j : ℕ} (h : j ≠ i) (e : Event Unit) :
    taskEvents i [.task j e] = [] := by
  simp [taskEvents, ofPool, eventsOf, PoolEvent.ofComponent, h]

theorem lastStarts_append (es : List ManagerEvent) (me : ManagerEvent) :
    lastStarts (es ++ [me]) = match me with
      | .call managerCall => managerCall.toStart.getD []
      | _ => lastStarts es := by
  unfold lastStarts
  rw [List.foldl_append]
  rfl

/-- An event that is none of a handle moves no handle to another stage. -/
theorem stage_eq_of_silent
    (h : ∀ i, (taskEvents i es).filter isOfHandle = (s.stageOf i).events)
    (hsilent : ∀ i, (taskEvents i [me]).filter isOfHandle = [])
    (hsame : ∀ i, s'.stageOf i = s.stageOf i) (i : ℕ) :
    (taskEvents i (es ++ [me])).filter isOfHandle = (s'.stageOf i).events := by
  rw [taskEvents_append, List.filter_append, hsilent, List.append_nil, hsame]
  exact h i

/-- An event of one handle moves this one to its next stage. -/
theorem stage_eq_of_handle {j : ℕ} {e : Event Unit}
    (h : ∀ i, (taskEvents i es).filter isOfHandle = (s.stageOf i).events)
    (handle : isOfHandle e = true)
    (hnext : (s'.stageOf j).events = (s.stageOf j).events ++ [e])
    (hsame : ∀ i, i ≠ j → s'.stageOf i = s.stageOf i) (i : ℕ) :
    (taskEvents i (es ++ [.task j e])).filter isOfHandle = (s'.stageOf i).events := by
  rw [taskEvents_append, List.filter_append, h i]
  by_cases hij : i = j
  · subst hij
    rw [taskEvents_task, List.filter_cons_of_pos handle, hnext]
    rfl
  · rw [taskEvents_task_ne (Ne.symm hij), hsame i hij]
    exact List.append_nil _

/-- The handle that is being shut down is none of the others, and its task exists. -/
theorem current_apart {handles left : List ℕ} {i n : ℕ} (hnodup : (handles ++ i :: left).Nodup)
    (hbounded : ∀ k ∈ handles ++ i :: left, k < n) : i ∉ handles ∧ i ∉ left ∧ ¬ n ≤ i := by
  have hlt : i < n := hbounded i (List.mem_append_right _ List.mem_cons_self)
  obtain ⟨-, hrest, hdisjoint⟩ := List.nodup_append.mp hnodup
  exact ⟨fun hi => hdisjoint i hi i List.mem_cons_self rfl, (List.nodup_cons.mp hrest).1,
    Nat.not_le.mpr hlt⟩

theorem inStages_step (h : InStages s es) (step : Step s me s') : InStages s' (es ++ [me]) := by
  obtain ⟨hnodup, hbounded, hstage, hlength, hlast⟩ := h
  cases step with
  | call managerCall toStart idle alive lock starts =>
      rw [idle] at hnodup hbounded hlast
      have htaken : s.taskHandles ++ Doing.idle.taken = s.taskHandles := List.append_nil _
      rw [htaken] at hnodup hbounded
      refine ⟨hnodup, hbounded, ?_, hlength, ?_⟩
      · apply stage_eq_of_silent hstage (fun _ => rfl)
        intro i
        simp only [stageOf, idle, Doing.stage, List.not_mem_nil, false_or]
        by_cases hi : s.tasks.length ≤ i
        · simp [hi]
        · simp [hi]
      · rw [lastStarts_append]
        show toStart.map some = (managerCall.toStart.getD []).map some
        rw [starts]
        rfl
  | panics managerCall idle alive lock panic =>
      refine ⟨hnodup, hbounded, ?_, hlength, ?_⟩
      · exact stage_eq_of_silent hstage (fun _ => rfl) (fun _ => rfl)
      · rw [lastStarts_append]
        exact hlast
  | requestShutdown i left toStart t t' next here step =>
      rw [next] at hnodup hbounded hlast
      obtain ⟨hnotHeld, -, hlt⟩ := current_apart hnodup hbounded
      refine ⟨hnodup, ?_, ?_, ?_, ?_⟩
      · intro k hk
        rw [List.length_set]
        exact hbounded k hk
      · apply stage_eq_of_handle hstage rfl
        · simp [stageOf, next, Doing.stage, hnotHeld, hlt, HandleStage.events]
        · intro k hk
          simp [stageOf, next, Doing.stage, hk]
      · rw [List.length_set]
        exact hlength
      · rw [lastStarts_append]
        exact hlast
  | sendReturns i left toStart t t' next here step =>
      rw [next] at hnodup hbounded hlast
      obtain ⟨hnotHeld, -, hlt⟩ := current_apart hnodup hbounded
      refine ⟨hnodup, ?_, ?_, ?_, ?_⟩
      · intro k hk
        rw [List.length_set]
        exact hbounded k hk
      · apply stage_eq_of_handle hstage rfl
        · simp [stageOf, next, Doing.stage, hnotHeld, hlt, HandleStage.events]
        · intro k hk
          simp [stageOf, next, Doing.stage, hk]
      · rw [List.length_set]
        exact hlength
      · rw [lastStarts_append]
        exact hlast
  | dropHandle i left toStart t t' next here step =>
      rw [next] at hnodup hbounded hlast
      obtain ⟨hnotHeld, hnotLeft, hlt⟩ := current_apart hnodup hbounded
      have hsub : List.Sublist (s.taskHandles ++ left) (s.taskHandles ++ i :: left) :=
        (List.sublist_cons_self i left).append_left _
      refine ⟨hnodup.sublist hsub, ?_, ?_, ?_, ?_⟩
      · intro k hk
        rw [List.length_set]
        exact hbounded k (hsub.mem hk)
      · apply stage_eq_of_handle hstage rfl
        · simp [stageOf, next, Doing.stage, hnotHeld, hlt, hnotLeft, HandleStage.events]
        · intro k hk
          simp [stageOf, next, Doing.stage, hk]
      · rw [List.length_set]
        exact hlength
      · rw [lastStarts_append]
        exact hlast
  | start kind period toStart next =>
      rw [next] at hnodup hbounded hlast
      have htaken : s.taskHandles ++ (Doing.draining [] ((kind, period) :: toStart)).taken
          = s.taskHandles := List.append_nil _
      rw [htaken] at hnodup hbounded
      have hfresh : s.tasks.length ∉ s.taskHandles := fun hi =>
        Nat.lt_irrefl _ (hbounded _ hi)
      refine ⟨?_, ?_, ?_, ?_, ?_⟩
      · show (s.taskHandles ++ [s.tasks.length] ++ []).Nodup
        rw [List.append_nil]
        refine List.nodup_append.mpr ⟨hnodup, List.pairwise_singleton .., fun k hk l hl hkl => ?_⟩
        rw [hkl, List.mem_singleton.mp hl] at hk
        exact hfresh hk
      · intro k hk
        rw [List.length_append]
        show k < s.tasks.length + 1
        rcases List.mem_append.mp hk with hk | hk
        · rcases List.mem_append.mp hk with hk | hk
          · exact Nat.lt_succ_of_lt (hbounded k hk)
          · rw [List.mem_singleton.mp hk]
            exact Nat.lt_succ_self _
        · exact absurd hk List.not_mem_nil
      · apply stage_eq_of_silent hstage (fun _ => rfl)
        intro k
        rcases Nat.lt_trichotomy k s.tasks.length with hk | rfl | hk
        · have hle : ¬ s.tasks.length ≤ k := Nat.not_le.mpr hk
          have hle' : ¬ s.tasks.length + 1 ≤ k := by omega
          have hne : k ≠ s.tasks.length := Nat.ne_of_lt hk
          simp [stageOf, next, Doing.stage, hle, hle', hne]
        · simp [stageOf]
        · have hle : s.tasks.length ≤ k := Nat.le_of_lt hk
          have hle' : s.tasks.length + 1 ≤ k := hk
          simp [stageOf, hle, hle']
      · rw [List.length_append, List.length_append, hlength]
        rfl
      · rw [lastStarts_append]
        show (s.taskHandles ++ [s.tasks.length]).map ((s.started ++ [(kind, period)])[·]?)
          ++ toStart.map some = (lastStarts es).map some
        rw [← hlast, List.map_append]
        have hkept : s.taskHandles.map ((s.started ++ [(kind, period)])[·]?)
            = s.taskHandles.map (s.started[·]?) := by
          apply List.map_congr_left
          intro k hk
          exact List.getElem?_append_left (hlength ▸ hbounded k hk)
        have hnew : (s.started ++ [(kind, period)])[s.tasks.length]? = some (kind, period) := by
          rw [← hlength]
          exact List.getElem?_concat_length
        rw [hkept, List.map_singleton, hnew, List.append_assoc]
        rfl
  | returns next =>
      rw [next] at hnodup hbounded hlast
      refine ⟨hnodup, hbounded, ?_, hlength, ?_⟩
      · apply stage_eq_of_silent hstage (fun _ => rfl)
        intro k
        simp [stageOf, next, Doing.stage]
      · rw [lastStarts_append]
        exact hlast
  | own i e t t' own here step =>
      refine ⟨hnodup, ?_, ?_, ?_, ?_⟩
      · intro k hk
        rw [List.length_set]
        exact hbounded k hk
      · apply stage_eq_of_silent hstage
        · intro k
          by_cases hik : i = k
          · subst hik
            rw [taskEvents_task, List.filter_cons_of_neg (by rw [own]; exact Bool.false_ne_true)]
            rfl
          · rw [taskEvents_task_ne hik]
            rfl
        · intro k
          simp [stageOf]
      · rw [List.length_set]
        exact hlength
      · rw [lastStarts_append]
        exact hlast

/-! ## Runs -/

/-- How often a task was sent the message to stop. -/
def stopsSent (i : ℕ) (es : List ManagerEvent) : ℕ := (taskEvents i es).count (.sendReturns ())

theorem inStages_of_run (h : Run Step new es s) : InStages s es :=
  Run.invariant (I := InStages) (fun _ _ _ _ => inStages_step) h inStages_new

theorem holds_stageOf (h : Run Step new es s) {i : ℕ} {t : RepeatingTask Unit}
    (hi : s.tasks[i]? = some t) : (s.stageOf i).Holds t := by
  obtain ⟨kind, period, -, hrun⟩ := task_run h hi
  exact holds_of_run hrun ((inStages_of_run h).stage_eq i)

theorem stopsSent_eq (h : Run Step new es s) (i : ℕ) :
    stopsSent i es = (s.stageOf i).events.count (.sendReturns ()) := by
  rw [← (inStages_of_run h).stage_eq i]
  exact (List.count_filter (p := isOfHandle) rfl).symm

/-- No task can hold up a call: a message to stop is sent once to each, so that there is room for
it in the channel. -/
theorem call_not_blocked (h : Run Step new es s) (hdoing : s.doing ≠ .idle) :
    ∃ me s', me.isOfCall = true ∧ Step s me s' := by
  have hstages := inStages_of_run h
  obtain ⟨-, hbounded, -, -, -⟩ := id hstages
  have htask : ∀ i, i ∈ s.doing.taken → ∃ t, s.tasks[i]? = some t := fun i hi =>
    ⟨_, List.getElem?_eq_getElem (hbounded i (List.mem_append_right _ hi))⟩
  cases hd : s.doing with
  | idle => exact absurd hd hdoing
  | draining left toStart =>
      cases left with
      | nil =>
          cases toStart with
          | nil => exact ⟨_, _, rfl, .returns s hd⟩
          | cons start toStart => exact ⟨_, _, rfl, .start s start.1 start.2 toStart hd⟩
      | cons i left =>
          obtain ⟨t, hi⟩ := htask i (by rw [hd]; exact List.mem_cons_self)
          have hheld := holds_stageOf h hi
          obtain ⟨hnotHeld, -, hlt⟩ := current_apart (hd ▸ hstages.nodup) (hd ▸ hbounded)
          simp only [stageOf, hnotHeld, hlt, hd, Doing.stage, or_self, if_false,
            List.mem_cons_self, if_true] at hheld
          exact ⟨_, _, rfl, .requestShutdown s i left toStart t _ hd hi
            (.call t () .requestShutdown hheld.1 hheld.2.2.2)⟩
  | sending i left toStart =>
      obtain ⟨t, hi⟩ := htask i (by rw [hd]; exact List.mem_cons_self)
      have hsending := holds_stageOf h hi
      obtain ⟨hnotHeld, -, hlt⟩ := current_apart (hd ▸ hstages.nodup) (hd ▸ hbounded)
      simp only [stageOf, hnotHeld, hlt, hd, Doing.stage, or_self, if_false, if_true] at hsending
      obtain ⟨-, hmessage, -, hcaller⟩ := hsending
      cases hreceiver : t.stopReceiverAlive with
      | true => exact ⟨_, _, rfl, .sendReturns s i left toStart t _ hd hi
          (.send t () false hcaller hreceiver hmessage)⟩
      | false => exact ⟨_, _, rfl, .sendReturns s i left toStart t _ hd hi
          (.sendFails t () false hcaller hreceiver)⟩
  | dropping i left toStart =>
      obtain ⟨t, hi⟩ := htask i (by rw [hd]; exact List.mem_cons_self)
      have hsent := holds_stageOf h hi
      obtain ⟨hnotHeld, -, hlt⟩ := current_apart (hd ▸ hstages.nodup) (hd ▸ hbounded)
      simp only [stageOf, hnotHeld, hlt, hd, Doing.stage, or_self, if_false, if_true] at hsent
      exact ⟨_, _, rfl, .dropHandle s i left toStart t _ hd hi
        (.dropHandle t hsent.1 fun _ => hsent.2.2)⟩

/-- Each step of the call in progress brings it nearer to its end, and no other step changes
what it has still to do. -/
theorem remaining_step (step : Step s me s') (hdoing : s.doing ≠ .idle) :
    s'.doing.remaining + (if me.isOfCall then 1 else 0) = s.doing.remaining := by
  cases step with
  | call managerCall toStart idle alive lock starts => exact absurd idle hdoing
  | panics managerCall idle alive lock panic => exact absurd idle hdoing
  | requestShutdown i left toStart t t' next here step =>
      rw [next]
      show 3 * left.length + toStart.length + 3 + 1 = 3 * (i :: left).length + toStart.length + 1
      rw [List.length_cons]
      omega
  | sendReturns i left toStart t t' next here step =>
      rw [next]
      rfl
  | dropHandle i left toStart t t' next here step =>
      rw [next]
      rfl
  | start kind period toStart next =>
      rw [next]
      rfl
  | returns next =>
      rw [next]
      rfl
  | own i e t t' own here step =>
      show s.doing.remaining + (if isOfHandle e then 1 else 0) = s.doing.remaining
      rw [own]
      rfl

/-- **The task manager keeps one set of tasks and stops all others.** In every run, whatever the
tasks do in between: a task whose handle is kept was not asked to stop and has not stopped; when
no call is in progress, the kept tasks are those of the last call, in its order, and every other
task was sent one message to stop, which it still has before it unless it has ended; a call in
progress is never held up by a task, so that it returns after the steps it has left; and no call
cuts an iteration short. -/
theorem taskManager_runs (h : Run Step new es s) :
    (∀ i t, s.tasks[i]? = some t → i ∈ s.taskHandles →
      stopsSent i es = 0 ∧ t.handleAlive = true ∧ t.phase ≠ .stopped) ∧
    (s.doing = .idle →
      s.taskHandles.Nodup ∧ s.taskHandles.map (s.started[·]?) = (lastStarts es).map some ∧
      ∀ i t, s.tasks[i]? = some t → i ∉ s.taskHandles →
        stopsSent i es = 1 ∧ t.handleAlive = false ∧ t.IsToStop) ∧
    (s.doing ≠ .idle →
      (∃ me s', me.isOfCall = true ∧ Step s me s') ∧
      ∀ me s', Step s me s' →
        s'.doing.remaining + (if me.isOfCall then 1 else 0) = s.doing.remaining) ∧
    ∀ i t, s.tasks[i]? = some t → ∀ pre length post,
      taskEvents i es = pre ++ .startIteration length :: post →
        Continues length t (history post) := by
  have hstages := inStages_of_run h
  refine ⟨?_, ?_, ?_, ?_⟩
  · intro i t hi hkept
    have hstage : s.stageOf i = .held := if_pos (.inl hkept)
    have hholds := holds_stageOf h hi
    rw [hstage] at hholds
    refine ⟨?_, hholds.1, hholds.2.2.1⟩
    rw [stopsSent_eq h, hstage]
    rfl
  · intro hidle
    have hnodup := hstages.nodup
    have hlast := hstages.last_eq
    rw [hidle] at hnodup hlast
    refine ⟨hnodup.sublist (List.sublist_append_left _ _), ?_, ?_⟩
    · rw [← hlast]
      exact (List.append_nil _).symm
    · intro i t hi hkept
      have hlt : ¬ s.tasks.length ≤ i := Nat.not_le.mpr (List.getElem?_eq_some_iff.mp hi).1
      have hstage : s.stageOf i = .dropped := by
        rw [stageOf, if_neg (not_or.mpr ⟨hkept, hlt⟩), hidle]
        rfl
      have hholds := holds_stageOf h hi
      rw [hstage] at hholds
      refine ⟨?_, hholds.1, hholds.2⟩
      rw [stopsSent_eq h, hstage]
      rfl
  · intro hdoing
    exact ⟨call_not_blocked h hdoing, fun _ _ step => remaining_step step hdoing⟩
  · intro i t hi pre length post hevents
    obtain ⟨kind, period, -, hrun⟩ := task_run h hi
    rw [hevents] at hrun
    obtain ⟨t₁, t₂, -, step, hpost⟩ := hrun.split_at
    cases step with
    | startIteration length selecting ticked => exact run_continues hpost rfl

/-- The library goes to the background and is dropped while its task is in an iteration. -/
theorem taskManager_runs_drop :
    ∃ s : ManagedTasks, Run Step new
        [.call .background, .start .breezSync 1800, .returns, .task 0 .tick,
          .task 0 (.startIteration (some 0)), .call .drop, .task 0 (.call () .requestShutdown),
          .task 0 (.sendReturns ()), .task 0 .dropHandle, .returns, .task 0 .endIteration] s ∧
      s.taskHandles = [] ∧
      ∀ t, s.tasks[0]? = some t → t.IsToStop ∧ Continues (some 0) t [.endIteration] := by
  have hrun := Run.cons (Step.call new .background _ rfl rfl (.inl rfl) rfl) <|
    .cons (Step.start _ .breezSync 1800 [] rfl) <|
    .cons (Step.returns _ rfl) <|
    .cons (Step.own _ 0 .tick _ _ rfl rfl (.tick _)) <|
    .cons (Step.own _ 0 (.startIteration (some 0)) _ _ rfl rfl
      (.startIteration _ (some 0) rfl rfl)) <|
    .cons (Step.call _ .drop [] rfl rfl (.inr rfl) rfl) <|
    .cons (Step.requestShutdown _ 0 [] [] _ _ rfl rfl (.call _ () .requestShutdown rfl rfl)) <|
    .cons (Step.sendReturns _ 0 [] [] _ _ rfl rfl (.send _ () false rfl rfl rfl)) <|
    .cons (Step.dropHandle _ 0 [] [] _ _ rfl rfl (.dropHandle _ rfl fun _ => rfl)) <|
    .cons (Step.returns _ rfl) <|
    .cons (Step.own _ 0 .endIteration _ _ rfl rfl (.endIteration _ rfl)) <|
    .nil _
  obtain ⟨-, hidle, -, hiterations⟩ := taskManager_runs hrun
  refine ⟨_, hrun, rfl, fun t ht => ⟨?_, ?_⟩⟩
  · exact ((hidle rfl).2.2 0 t ht List.not_mem_nil).2.2
  · exact hiterations 0 t ht [.tick] (some 0)
      [.call () .requestShutdown, .sendReturns (), .dropHandle, .endIteration] rfl

end ManagedTasks

end LipaLightning
