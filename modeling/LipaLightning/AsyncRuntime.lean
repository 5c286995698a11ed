import LipaLightning.Basic.Transitions
import Mathlib.Data.List.Count
import Mathlib.Logic.Function.Basic

set_option autoImplicit false

/-! # Repeating tasks

`Handle::spawn_repeating_task` and `RepeatingTaskHandle` (`async_runtime.rs`) as a step relation.
The task waits for the next tick of its interval or for a message to stop, whichever it takes
first, and runs one iteration after each tick. Callers of the handle send the message and wait
until the task drops its end of the status channel. An iteration is resumed a number of times
before it ends, or again and again, so that everything else can happen in its midst. The runtime
stays alive.
-/

namespace LipaLightning

open Transitions

/-! ## States and events -/

/-- Where the task is in its loop. An iteration that is running has still to be resumed a number
of times; it never ends if there is no such number. -/
inductive Phase where
  | selecting
  | running (left : Option ℕ)
  | stopped
  | panicked
  deriving DecidableEq, Repr

/-- The calls of a handle that wait. -/
inductive HandleCall where
  | requestShutdown
  | join
  | blockingShutdown
  deriving DecidableEq, Repr

/-- What a thread that uses the handle is doing: it sends the message to stop, and goes on to
join the task or does not, or it waits for the task to end. -/
inductive Caller where
  | idle
  | sending (andJoin : Bool)
  | joining
  deriving DecidableEq, Repr

def HandleCall.caller : HandleCall → Caller
  | .requestShutdown => .sending false
  | .join => .joining
  | .blockingShutdown => .sending true

/-- The caller after `blocking_send` has returned. -/
def Caller.sent (andJoin : Bool) : Caller := if andJoin then .joining else .idle

structure RepeatingTask (ι : Type) where
  phase : Phase
  /-- The interval has ticked. Ticks that are missed are skipped. -/
  ticked : Bool
  /-- The message in the stop channel, which has room for one. -/
  stopMessage : Bool
  stopReceiverAlive : Bool
  statusSenderAlive : Bool
  /-- The handle, with its ends of the channels, is not dropped. -/
  handleAlive : Bool
  callers : ι → Caller

inductive Event (ι : Type) where
  | tick
  | startIteration (length : Option ℕ)
  | resumeIteration
  | endIteration
  | panic
  | receiveStop
  | dropStatusSender
  | dropStopReceiver
  | call (caller : ι) (handleCall : HandleCall)
  | sendReturns (caller : ι)
  | joinReturns (caller : ι)
  | dropHandle
  deriving DecidableEq, Repr

namespace RepeatingTask

variable {ι : Type}

/-- The task that was spawned. `time::interval` panics for a period of zero. -/
def spawned (interval : ℕ) : RepeatingTask ι where
  phase := if interval = 0 then .panicked else .selecting
  ticked := false
  stopMessage := false
  stopReceiverAlive := true
  statusSenderAlive := true
  handleAlive := true
  callers _ := .idle

inductive Step [DecidableEq ι] : RepeatingTask ι → Event ι → RepeatingTask ι → Prop
  | tick (s : RepeatingTask ι) : Step s .tick { s with ticked := true }
  -- the select takes any of its branches that is ready
  | startIteration (s : RepeatingTask ι) (length : Option ℕ) (selecting : s.phase = .selecting)
      (ticked : s.ticked = true) :
      Step s (.startIteration length) { s with phase := .running length, ticked := false }
  | receiveStop (s : RepeatingTask ι) (selecting : s.phase = .selecting)
      (ready : s.stopMessage = true ∨ s.handleAlive = false) :
      Step s .receiveStop { s with phase := .stopped, stopMessage := false }
  | resumeIteration (s : RepeatingTask ι) (left : Option ℕ)
      (running : s.phase = .running (left.map (· + 1))) :
      Step s .resumeIteration { s with phase := .running left }
  | endIteration (s : RepeatingTask ι) (running : s.phase = .running (some 0)) :
      Step s .endIteration { s with phase := .selecting }
  -- the future of the iteration panics, which ends the task
  | panic (s : RepeatingTask ι) (left : Option ℕ) (running : s.phase = .running left) :
      Step s .panic { s with phase := .panicked }
  | dropStatusSender (s : RepeatingTask ι) (ended : s.phase = .stopped ∨ s.phase = .panicked) :
      Step s .dropStatusSender { s with statusSenderAlive := false }
  -- a panic drops both ends of the channels, in any order
  | dropStopReceiver (s : RepeatingTask ι)
      (ended : s.phase = .stopped ∧ s.statusSenderAlive = false ∨ s.phase = .panicked) :
      Step s .dropStopReceiver { s with stopReceiverAlive := false }
  | call (s : RepeatingTask ι) (caller : ι) (handleCall : HandleCall)
      (alive : s.handleAlive = true) (idle : s.callers caller = .idle) :
      Step s (.call caller handleCall)
        { s with callers := Function.update s.callers caller handleCall.caller }
  | send (s : RepeatingTask ι) (caller : ι) (andJoin : Bool)
      (sending : s.callers caller = .sending andJoin) (alive : s.stopReceiverAlive = true)
      (room : s.stopMessage = false) :
      Step s (.sendReturns caller)
        { s with
          stopMessage := true
          callers := Function.update s.callers caller (.sent andJoin) }
  -- the receiver was dropped, and the error is ignored
  | sendFails (s : RepeatingTask ι) (caller : ι) (andJoin : Bool)
      (sending : s.callers caller = .sending andJoin) (dropped : s.stopReceiverAlive = false) :
      Step s (.sendReturns caller)
        { s with callers := Function.update s.callers caller (.sent andJoin) }
  -- no status is ever sent, so that the status channel is closed when its sender is dropped
  | joinReturns (s : RepeatingTask ι) (caller : ι) (joining : s.callers caller = .joining)
      (closed : s.statusSenderAlive = false) :
      Step s (.joinReturns caller)
        { s with callers := Function.update s.callers caller .idle }
  | dropHandle (s : RepeatingTask ι) (alive : s.handleAlive = true)
      (idle : ∀ caller, s.callers caller = .idle) :
      Step s .dropHandle { s with handleAlive := false }

/-! ## Histories -/

/-- The event belongs to the loop of the task. -/
def isOfLoop : Event ι → Bool
  | .startIteration _ | .resumeIteration | .endIteration | .panic | .receiveStop => true
  | _ => false

/-- What the loop of the task has done. -/
def history (es : List (Event ι)) : List (Event ι) := es.filter isOfLoop

def isStart : Event ι → Bool
  | .startIteration _ => true
  | _ => false

/-- An iteration is over when it ends or panics. -/
def isEnd : Event ι → Bool
  | .endIteration | .panic => true
  | _ => false

def starts (es : List (Event ι)) : ℕ := es.countP isStart

def ends (es : List (Event ι)) : ℕ := es.countP isEnd

/-- What the loop does after an iteration of that length has started: the iteration is resumed as
often as it takes and ends, unless it panics or is still running. -/
inductive Continues (length : Option ℕ) (s : RepeatingTask ι) : List (Event ι) → Prop
  | running (left : Option ℕ) (k : ℕ) (phase : s.phase = .running left)
      (length_eq : length = left.map (· + k)) :
      Continues length s (List.replicate k .resumeIteration)
  | ends (k : ℕ) (rest : List (Event ι)) (length_eq : length = some k) :
      Continues length s (List.replicate k .resumeIteration ++ .endIteration :: rest)
  | panics (k : ℕ) : Continues length s (List.replicate k .resumeIteration ++ [.panic])

/-- The number of iterations that are running. -/
def Phase.open : Phase → ℕ
  | .running _ => 1
  | _ => 0

/-- Of the iterations that have started, all but the running ones are over. -/
def Balanced (s : RepeatingTask ι) (es : List (Event ι)) : Prop :=
  starts es = ends es + Phase.open s.phase

/-- The task has left its loop. -/
def HasEnded (s : RepeatingTask ι) : Prop := s.phase = .stopped ∨ s.phase = .panicked

variable {s s' : RepeatingTask ι} {e : Event ι} {es : List (Event ι)} {length : Option ℕ}

theorem balanced_spawned (interval : ℕ) : (spawned interval : RepeatingTask ι).Balanced [] := by
  show 0 = 0 + Phase.open (if interval = 0 then .panicked else .selecting)
  split <;> rfl

theorem Continues.resume (h : Continues length s es) :
    Continues (length.map (· + 1)) s (.resumeIteration :: es) := by
  cases h with
  | running left k phase length_eq =>
      rw [← List.replicate_succ]
      refine .running left (k + 1) phase ?_
      rw [length_eq, Option.map_map]
      rfl
  | ends k rest length_eq =>
      rw [← List.cons_append, ← List.replicate_succ]
      refine .ends (k + 1) rest ?_
      rw [length_eq]
      rfl
  | panics k =>
      rw [← List.cons_append, ← List.replicate_succ]
      exact .panics (k + 1)

/-! ## One step -/

variable [DecidableEq ι]

/-- A task that has left its loop does not return to it. -/
theorem hasEnded_step (h : s.HasEnded) (step : Step s e s') :
    s'.HasEnded ∧ isOfLoop e = false := by
  have hselecting : s.phase ≠ .selecting := by
    rintro hphase
    rcases h with h | h <;> cases hphase.symm.trans h
  have hrunning : ∀ left, s.phase ≠ .running left := by
    rintro left hphase
    rcases h with h | h <;> cases hphase.symm.trans h
  cases step with
  | startIteration length selecting ticked => exact absurd selecting hselecting
  | receiveStop selecting ready => exact absurd selecting hselecting
  | resumeIteration left running => exact absurd running (hrunning _)
  | endIteration running => exact absurd running (hrunning _)
  | panic left running => exact absurd running (hrunning _)
  | tick => exact ⟨h, rfl⟩
  | dropStatusSender ended => exact ⟨h, rfl⟩
  | dropStopReceiver ended => exact ⟨h, rfl⟩
  | call caller handleCall alive idle => exact ⟨h, rfl⟩
  | send caller andJoin sending alive room => exact ⟨h, rfl⟩
  | sendFails caller andJoin sending dropped => exact ⟨h, rfl⟩
  | joinReturns caller joining closed => exact ⟨h, rfl⟩
  | dropHandle alive idle => exact ⟨h, rfl⟩

/-- The status sender is dropped after the loop only. -/
def DropsAfterLoop (s : RepeatingTask ι) : Prop := s.statusSenderAlive = false → s.HasEnded

theorem dropsAfterLoop_step (h : s.DropsAfterLoop) (step : Step s e s') : s'.DropsAfterLoop := by
  intro hdropped
  by_cases halive : s.statusSenderAlive = false
  · exact (hasEnded_step (h halive) step).1
  · cases step with
    | dropStatusSender ended => exact ended
    | _ => exact absurd hdropped halive

theorem balanced_step (h : s.Balanced es) (step : Step s e s') : s'.Balanced (es ++ [e]) := by
  unfold Balanced starts ends at h ⊢
  rw [List.countP_append, List.countP_append, h]
  cases step with
  | startIteration length selecting ticked =>
      rw [selecting]
      rfl
  | receiveStop selecting ready =>
      rw [selecting]
      rfl
  | resumeIteration left running =>
      rw [running]
      rfl
  | endIteration running =>
      rw [running]
      rfl
  | panic left running =>
      rw [running]
      rfl
  | _ => rfl

/-! ## Runs -/

/-- After its loop a task does nothing of it. -/
theorem run_ended (h : Run Step s es s') (hended : s.HasEnded) :
    s'.HasEnded ∧ history es = [] := by
  obtain ⟨hended', hevents⟩ := Run.closed (fun _ _ _ => hasEnded_step) h hended
  refine ⟨hended', List.filter_eq_nil_iff.mpr fun e he => ?_⟩
  rw [hevents e he]
  exact Bool.false_ne_true

/-- The events after an iteration has started. The induction is on the run; only events of the
loop change what is left of the iteration. -/
theorem run_continues (h : Run Step s es s') (hrunning : s.phase = .running length) :
    Continues length s' (history es) := by
  induction h generalizing length with
  | nil s => exact .running length 0 hrunning (by cases length <;> rfl)
  | cons step run ih =>
      cases step with
      | startIteration length' selecting ticked => cases selecting.symm.trans hrunning
      | receiveStop selecting ready => cases selecting.symm.trans hrunning
      | resumeIteration left running =>
          obtain rfl := Phase.running.inj (hrunning.symm.trans running)
          exact (ih rfl).resume
      | endIteration running =>
          obtain rfl := Phase.running.inj (hrunning.symm.trans running)
          exact .ends 0 _ rfl
      | panic left running =>
          have hrest := (run_ended run (.inr rfl)).2
          rw [history, List.filter_cons_of_pos rfl]
          show Continues length _ (.panic :: history _)
          rw [hrest]
          exact .panics 0
      | tick => exact ih hrunning
      | dropStatusSender ended => exact ih hrunning
      | dropStopReceiver ended => exact ih hrunning
      | call caller handleCall alive idle => exact ih hrunning
      | send caller andJoin sending alive room => exact ih hrunning
      | sendFails caller andJoin sending dropped => exact ih hrunning
      | joinReturns caller joining closed => exact ih hrunning
      | dropHandle alive idle => exact ih hrunning

/-- A message to stop waits in the channel, or the task has left its loop. -/
def IsToStop (s : RepeatingTask ι) : Prop := s.stopMessage = true ∨ s.HasEnded

theorem isToStop_step (h : s.IsToStop) (step : Step s e s') : s'.IsToStop := by
  rcases h with hmessage | hended
  · cases step with
    | receiveStop selecting ready => exact .inr (.inl rfl)
    | send caller andJoin sending alive room => exact .inl rfl
    | panic left running => exact .inr (.inr rfl)
    | _ => exact .inl hmessage
  · exact .inr (hasEnded_step hended step).1

/-- The stop receiver is dropped after the loop only. -/
def ReceivesInLoop (s : RepeatingTask ι) : Prop := s.stopReceiverAlive = false → s.HasEnded

theorem receivesInLoop_step (h : s.ReceivesInLoop) (step : Step s e s') :
    s'.ReceivesInLoop := by
  intro hdropped
  by_cases halive : s.stopReceiverAlive = false
  · exact (hasEnded_step (h halive) step).1
  · cases step with
    | dropStopReceiver ended => exact ended.imp And.left id
    | _ => exact absurd hdropped halive

/-- **No request to stop is lost.** After a send has returned, the message waits until the task
takes it. -/
theorem sendReturns_isToStop {interval : ℕ} {pre post : List (Event ι)} {caller : ι}
    (h : Run Step (spawned interval) (pre ++ .sendReturns caller :: post) s) : s.IsToStop := by
  obtain ⟨s₁, s₂, hpre, step, hpost⟩ := h.split_at
  have hreceives : s₁.ReceivesInLoop :=
    Run.invariant (I := fun s _ => s.ReceivesInLoop) (fun _ _ _ _ => receivesInLoop_step) hpre
      (fun hdropped => nomatch hdropped)
  have hsent : s₂.IsToStop := by
    cases step with
    | send caller andJoin sending alive room => exact .inl rfl
    | sendFails caller andJoin sending dropped => exact .inr (hreceives dropped)
  exact Run.invariant (I := fun s _ => s.IsToStop) (fun _ _ _ _ => isToStop_step) hpost hsent

/-- **A repeating task runs whole iterations and stops for good.** In every run at most one
iteration is running; an iteration that has started is resumed as often as it takes and ends, or
panics, or is still running; and when a join has returned, the task has left its loop and does
nothing of it any more. -/
theorem repeatingTask_runs {interval : ℕ} (h : Run Step (spawned interval) es s) :
    (∀ pre post, es = pre ++ post → ends pre ≤ starts pre ∧ starts pre ≤ ends pre + 1) ∧
    (∀ pre length post, es = pre ++ .startIteration length :: post →
      Continues length s (history post)) ∧
    ∀ pre caller post, es = pre ++ .joinReturns caller :: post →
      starts pre = ends pre ∧ s.HasEnded ∧ history post = [] := by
  have hbalanced : ∀ {pre : List (Event ι)} {s₁ : RepeatingTask ι},
      Run Step (spawned interval) pre s₁ → s₁.Balanced pre :=
    fun hpre => Run.invariant (fun _ _ _ _ => balanced_step) hpre (balanced_spawned interval)
  refine ⟨?_, ?_, ?_⟩
  · rintro pre post rfl
    obtain ⟨s₁, hpre, -⟩ := h.split
    have hopen : Phase.open s₁.phase ≤ 1 := by
      cases s₁.phase with
      | running left => exact Nat.le_refl 1
      | _ => exact Nat.zero_le 1
    have heq := hbalanced hpre
    unfold Balanced at heq
    omega
  · rintro pre length post rfl
    obtain ⟨s₁, s₂, -, step, hpost⟩ := h.split_at
    cases step with
    | startIteration length selecting ticked => exact run_continues hpost rfl
  · rintro pre caller post rfl
    obtain ⟨s₁, s₂, hpre, step, hpost⟩ := h.split_at
    have hdrops : s₁.DropsAfterLoop :=
      Run.invariant (I := fun s _ => s.DropsAfterLoop) (fun _ _ _ _ => dropsAfterLoop_step) hpre
        (fun hdropped => nomatch hdropped)
    have hended : s₁.HasEnded := by
      cases step with
      | joinReturns caller joining closed => exact hdrops closed
    have hopen : Phase.open s₁.phase = 0 := by
      rcases hended with hphase | hphase <;> rw [hphase] <;> rfl
    obtain ⟨hended', hhistory⟩ := run_ended hpost (hasEnded_step hended step).1
    have heq := hbalanced hpre
    unfold Balanced at heq
    rw [hopen] at heq
    exact ⟨heq, hended', hhistory⟩

/-- A caller shuts the task down in the midst of an iteration. The next tick has passed before the
iteration ends, and the task stops all the same. -/
theorem repeatingTask_runs_shutdown :
    ∃ s : RepeatingTask Unit, Run Step (spawned 60)
        [.tick, .startIteration (some 1), .call () .blockingShutdown, .tick, .sendReturns (),
          .resumeIteration, .endIteration, .receiveStop, .dropStatusSender, .joinReturns ()] s ∧
      Continues (some 1) s [.resumeIteration, .endIteration, .receiveStop] ∧ s.HasEnded := by
  have hrun := Run.cons (Step.tick (spawned 60 : RepeatingTask Unit)) <|
    .cons (Step.startIteration _ (some 1) rfl rfl) <|
    .cons (Step.call _ () .blockingShutdown rfl rfl) <|
    .cons (Step.tick _) <|
    .cons (Step.send _ () true rfl rfl rfl) <|
    .cons (Step.resumeIteration _ (some 0) rfl) <|
    .cons (Step.endIteration _ rfl) <|
    .cons (Step.receiveStop _ rfl (.inl rfl)) <|
    .cons (Step.dropStatusSender _ (.inl rfl)) <|
    .cons (Step.joinReturns _ () rfl rfl) <|
    .nil _
  obtain ⟨-, hcontinues, hstops⟩ := repeatingTask_runs hrun
  have hjoined := hstops
    [.tick, .startIteration (some 1), .call () .blockingShutdown, .tick, .sendReturns (),
      .resumeIteration, .endIteration, .receiveStop, .dropStatusSender] () [] rfl
  exact ⟨_, hrun, hcontinues [.tick] (some 1) _ rfl, hjoined.2.1⟩

end RepeatingTask

end LipaLightning
