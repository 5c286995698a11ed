import LipaLightning.Basic.Runs
import Mathlib.Data.List.Chain

set_option autoImplicit false

/-! # Health notifications

The task `start_health_status_check` (`task_manager.rs`) asks for the status of the Breez
services and tells the user when it has changed. Since `restart` only asks the old task to stop,
the iterations of several tasks can overlap. An iteration touches the shared state in separate
steps, between which other iterations run:

* it waits for the answer of the health check,
* it compares the answer with the stored status,
* if they differ, it stores the answer,
* it calls `breez_health_status_changed_to`.

Two iterations that are both past their comparison can notify the same status twice, or in an
order other than the one in which they store it. `exclusive_follows` shows that this is the only
way to notifications that do not follow the stored status.
-/

namespace LipaLightning

inductive BreezHealthCheckStatus where
  | operational
  | maintenance
  | serviceDisruption
  deriving DecidableEq, Repr

/-- The stored status, the statuses the callbacks were called with, and the iterations that
stand before each of their steps, with the answer they carry. -/
structure HealthSystem where
  breezHealthStatus : Option BreezHealthCheckStatus
  callbacks : List BreezHealthCheckStatus
  /-- How many iterations wait for an answer. -/
  waiting : Nat
  answered : List BreezHealthCheckStatus
  changing : List BreezHealthCheckStatus
  stored : List BreezHealthCheckStatus

/-- An atomic step: a new iteration, or the next step of one. A health check that fails has no
answer. -/
inductive HealthAction where
  | tick
  | answer (status : Option BreezHealthCheckStatus)
  | compare (i : Nat)
  | store (i : Nat)
  | notify (i : Nat)

namespace HealthSystem

def start : HealthSystem := ⟨none, [], 0, [], [], []⟩

def answer (s : HealthSystem) (status : Option BreezHealthCheckStatus) : HealthSystem :=
  match s.waiting with
  | 0 => s
  | n + 1 => { s with waiting := n, answered := s.answered ++ status.toList }

/-- The status is locked for the comparison only. -/
def compare (s : HealthSystem) (i : Nat) : HealthSystem :=
  match s.answered[i]? with
  | none => s
  | some newStatus =>
      if s.breezHealthStatus ≠ some newStatus then
        { s with answered := s.answered.eraseIdx i, changing := s.changing ++ [newStatus] }
      else { s with answered := s.answered.eraseIdx i }

/-- The status is locked again to store the answer. -/
def store (s : HealthSystem) (i : Nat) : HealthSystem :=
  match s.changing[i]? with
  | none => s
  | some newStatus =>
      { s with
        breezHealthStatus := some newStatus
        changing := s.changing.eraseIdx i
        stored := s.stored ++ [newStatus] }

def notify (s : HealthSystem) (i : Nat) : HealthSystem :=
  match s.stored[i]? with
  | none => s
  | some newStatus =>
      { s with
        callbacks := s.callbacks ++ [newStatus]
        stored := s.stored.eraseIdx i }

def step (s : HealthSystem) : HealthAction → HealthSystem
  | .tick => { s with waiting := s.waiting + 1 }
  | .answer status => s.answer status
  | .compare i => s.compare i
  | .store i => s.store i
  | .notify i => s.notify i

/-- No iteration is in progress. -/
def Idle (s : HealthSystem) : Prop :=
  s.waiting = 0 ∧ s.answered = [] ∧ s.changing = [] ∧ s.stored = []

/-- No status is notified twice in a row, and the last one that was notified is the stored one
whenever no iteration is in progress. -/
structure FollowsStatus (s : HealthSystem) : Prop where
  noRepeats : s.callbacks.IsChain (· ≠ ·)
  last : s.Idle → s.callbacks ≠ [] → s.callbacks.getLast? = s.breezHealthStatus

/-- An iteration whose answer differs from the stored status does not compare it while another
one is between its comparison and its callback. -/
def Exclusive (s : HealthSystem) : HealthAction → Prop
  | .compare i => ∀ newStatus, s.answered[i]? = some newStatus →
      s.breezHealthStatus ≠ some newStatus → s.changing = [] ∧ s.stored = []
  | _ => True

/-! ## The invariant -/

/-- At most one iteration is between its comparison and its callback; it notifies another status
than the last one. Without one the last status that was notified is the stored one. -/
inductive Notified : HealthSystem → Prop where
  | quiet {s : HealthSystem} (hchanging : s.changing = []) (hstored : s.stored = [])
      (hlast : s.callbacks.getLast? = s.breezHealthStatus) : Notified s
  | changing {s : HealthSystem} (newStatus : BreezHealthCheckStatus)
      (hchanging : s.changing = [newStatus]) (hstored : s.stored = [])
      (hlast : s.callbacks.getLast? = s.breezHealthStatus)
      (hnew : s.breezHealthStatus ≠ some newStatus) : Notified s
  | stored {s : HealthSystem} (newStatus : BreezHealthCheckStatus)
      (hchanging : s.changing = []) (hstored : s.stored = [newStatus])
      (hlast : s.callbacks.getLast? ≠ some newStatus)
      (hnew : s.breezHealthStatus = some newStatus) : Notified s

structure Inv (s : HealthSystem) : Prop where
  noRepeats : s.callbacks.IsChain (· ≠ ·)
  notified : s.Notified

theorem Inv.followsStatus {s : HealthSystem} (h : s.Inv) : s.FollowsStatus := by
  refine ⟨h.noRepeats, ?_⟩
  rintro ⟨-, -, hchanging, hstored⟩ -
  cases h.notified with
  | quiet _ _ hlast => exact hlast
  | changing newStatus h => rw [hchanging] at h; cases h
  | stored newStatus _ h => rw [hstored] at h; cases h

theorem start_inv : start.Inv := ⟨.nil, .quiet rfl rfl rfl⟩

/-- Steps before the comparison change nothing that is compared, stored or notified. -/
theorem Inv.of_eq {s s' : HealthSystem} (h : s.Inv)
    (hstatus : s'.breezHealthStatus = s.breezHealthStatus) (hcallbacks : s'.callbacks = s.callbacks)
    (hchanging : s'.changing = s.changing) (hstored : s'.stored = s.stored) : s'.Inv := by
  obtain ⟨hrepeats, hnotified⟩ := h
  rw [← hcallbacks] at hrepeats
  refine ⟨hrepeats, ?_⟩
  cases hnotified with
  | quiet h1 h2 h3 =>
      exact .quiet (hchanging.trans h1) (hstored.trans h2) (by rw [hcallbacks, hstatus]; exact h3)
  | changing newStatus h1 h2 h3 h4 =>
      exact .changing newStatus (hchanging.trans h1) (hstored.trans h2)
        (by rw [hcallbacks, hstatus]; exact h3) (by rw [hstatus]; exact h4)
  | stored newStatus h1 h2 h3 h4 =>
      exact .stored newStatus (hchanging.trans h1) (hstored.trans h2)
        (by rw [hcallbacks]; exact h3) (by rw [hstatus]; exact h4)

theorem compare_inv {s : HealthSystem} (h : s.Inv) {i : Nat} (ha : s.Exclusive (.compare i)) :
    (s.compare i).Inv := by
  unfold compare
  cases hi : s.answered[i]? with
  | none => exact h
  | some newStatus =>
      by_cases hdiffers : s.breezHealthStatus ≠ some newStatus
      · -- no other iteration is past its comparison, so the last notification is the status
        obtain ⟨hchanging, hstored⟩ := ha newStatus hi hdiffers
        simp only [if_pos hdiffers]
        refine ⟨h.noRepeats, .changing newStatus ?_ hstored ?_ hdiffers⟩
        · show s.changing ++ [newStatus] = [newStatus]
          rw [hchanging, List.nil_append]
        · cases h.notified with
          | quiet _ _ hlast => exact hlast
          | changing _ h => rw [hchanging] at h; cases h
          | stored _ _ h => rw [hstored] at h; cases h
      · simp only [if_neg hdiffers]
        exact h.of_eq rfl rfl rfl rfl

theorem store_inv {s : HealthSystem} (h : s.Inv) (i : Nat) : (s.store i).Inv := by
  unfold store
  cases hi : s.changing[i]? with
  | none => exact h
  | some newStatus =>
      cases h.notified with
      | quiet hchanging => simp [hchanging] at hi
      | stored _ hchanging => simp [hchanging] at hi
      | changing newStatus' hchanging hstored hlast hnew =>
          have hmem : newStatus ∈ s.changing := List.mem_of_getElem? hi
          rw [hchanging, List.mem_singleton] at hmem
          subst hmem
          obtain rfl : i = 0 := by
            have hlt := (List.getElem?_eq_some_iff.mp hi).1
            rw [hchanging, List.length_singleton] at hlt
            omega
          refine ⟨h.noRepeats, .stored newStatus ?_ ?_ ?_ rfl⟩
          · show s.changing.eraseIdx 0 = []
            rw [hchanging]
            rfl
          · show s.stored ++ [newStatus] = [newStatus]
            rw [hstored, List.nil_append]
          · show s.callbacks.getLast? ≠ some newStatus
            rw [hlast]
            exact hnew

theorem notify_inv {s : HealthSystem} (h : s.Inv) (i : Nat) : (s.notify i).Inv := by
  unfold notify
  cases hi : s.stored[i]? with
  | none => exact h
  | some newStatus =>
      cases h.notified with
      | quiet _ hstored => simp [hstored] at hi
      | changing _ _ hstored => simp [hstored] at hi
      | stored newStatus' hchanging hstored hlast hnew =>
          have hmem : newStatus ∈ s.stored := List.mem_of_getElem? hi
          rw [hstored, List.mem_singleton] at hmem
          subst hmem
          obtain rfl : i = 0 := by
            have hlt := (List.getElem?_eq_some_iff.mp hi).1
            rw [hstored, List.length_singleton] at hlt
            omega
          refine ⟨?_, .quiet hchanging ?_ ?_⟩
          · refine h.noRepeats.append (.singleton newStatus) fun x hx y hy => ?_
            obtain rfl : newStatus = y := by simpa using hy
            rintro rfl
            exact hlast hx
          · show s.stored.eraseIdx 0 = []
            rw [hstored]
            rfl
          · show (s.callbacks ++ [newStatus]).getLast? = s.breezHealthStatus
            rw [hnew, List.getLast?_append]
            rfl

theorem step_inv (s : HealthSystem) (a : HealthAction) (h : s.Inv) (ha : s.Exclusive a) :
    (s.step a).Inv := by
  cases a with
  | tick => exact h.of_eq rfl rfl rfl rfl
  | answer status =>
      unfold step answer
      cases s.waiting with
      | zero => exact h
      | succ n => exact h.of_eq rfl rfl rfl rfl
  | compare i => exact compare_inv h ha
  | store i => exact store_inv h i
  | notify i => exact notify_inv h i

/-! ## Overlapping comparisons break the notifications -/

/-- The last of the iterations that stand before a step takes it. -/
theorem eraseIdx_append_length {α : Type} (l : List α) (a : α) :
    (l ++ [a]).eraseIdx l.length = l := by
  rw [List.eraseIdx_append_of_length_le (Nat.le_refl _), Nat.sub_self, List.eraseIdx_cons_zero,
    List.append_nil]

/-- The first iteration that has an answer can end before the others take a step. -/
theorem exists_ended {s : HealthSystem} {newStatus : BreezHealthCheckStatus}
    {rest : List BreezHealthCheckStatus} (h : s.answered = newStatus :: rest) :
    ∃ as, (Runs.run step s as).waiting = s.waiting ∧ (Runs.run step s as).answered = rest ∧
      (Runs.run step s as).changing = s.changing ∧ (Runs.run step s as).stored = s.stored := by
  have hi : s.answered[0]? = some newStatus := by rw [h]; rfl
  have herase : s.answered.eraseIdx 0 = rest := by rw [h]; rfl
  by_cases hdiffers : s.breezHealthStatus ≠ some newStatus
  · refine ⟨[.compare 0, .store s.changing.length, .notify s.stored.length], ?_⟩
    simp [step, compare, hi, hdiffers, store, eraseIdx_append_length, notify, herase]
  · refine ⟨[.compare 0], ?_⟩
    simp [step, compare, hi, hdiffers, herase]

/-- All iterations that have not compared their answer can end. -/
theorem exists_drained (s : HealthSystem) :
    ∃ as, (Runs.run step s as).waiting = 0 ∧ (Runs.run step s as).answered = [] ∧
      (Runs.run step s as).changing = s.changing ∧ (Runs.run step s as).stored = s.stored := by
  have hanswered : ∀ (n : List BreezHealthCheckStatus) (s : HealthSystem), s.answered = n →
      ∃ as, (Runs.run step s as).waiting = s.waiting ∧ (Runs.run step s as).answered = [] ∧
        (Runs.run step s as).changing = s.changing ∧ (Runs.run step s as).stored = s.stored := by
    intro l
    induction l with
    | nil => exact fun s h => ⟨[], rfl, h, rfl, rfl⟩
    | cons newStatus rest ih =>
        intro s h
        obtain ⟨as, hwaiting, hanswered, hchanging, hstored⟩ := exists_ended h
        obtain ⟨bs, hwaiting', hanswered', hchanging', hstored'⟩ := ih _ hanswered
        refine ⟨as ++ bs, ?_⟩
        rw [Runs.run_append]
        exact ⟨hwaiting'.trans hwaiting, hanswered', hchanging'.trans hchanging,
          hstored'.trans hstored⟩
  -- first the health checks fail that wait for an answer
  have hwaiting : ∀ (n : Nat) (s : HealthSystem), s.waiting = n →
      ∃ as, (Runs.run step s as).waiting = 0 ∧ (Runs.run step s as).changing = s.changing ∧
        (Runs.run step s as).stored = s.stored := by
    intro n
    induction n with
    | zero => exact fun s h => ⟨[], h, rfl, rfl⟩
    | succ n ih =>
        intro s h
        have hstep : (s.step (.answer none)).waiting = n ∧
            (s.step (.answer none)).changing = s.changing ∧
            (s.step (.answer none)).stored = s.stored := by
          simp [step, answer, h]
        obtain ⟨as, has, hchanging, hstored⟩ := ih _ hstep.1
        exact ⟨.answer none :: as, has, hchanging.trans hstep.2.1, hstored.trans hstep.2.2⟩
  obtain ⟨as, has, hchanging, hstored⟩ := hwaiting _ s rfl
  obtain ⟨bs, hwaiting', hanswered', hchanging', hstored'⟩ := hanswered _ (Runs.run step s as) rfl
  refine ⟨as ++ bs, ?_⟩
  rw [Runs.run_append]
  exact ⟨hwaiting'.trans has, hanswered', hchanging'.trans hchanging, hstored'.trans hstored⟩

/-- Two iterations that are past their comparison with the same answer notify it twice. -/
theorem exists_repeat {s : HealthSystem} {status : BreezHealthCheckStatus}
    (hchanging : s.changing = [status, status]) (hstored : s.stored = []) :
    ∃ as, ¬ (Runs.run step s as).FollowsStatus := by
  refine ⟨[.store 0, .notify 0, .store 0, .notify 0], fun h => ?_⟩
  have hcallbacks : (Runs.run step s [.store 0, .notify 0, .store 0, .notify 0]).callbacks
      = s.callbacks ++ [status, status] := by
    simp [step, store, notify, hchanging, hstored]
  have hchain := h.noRepeats
  rw [hcallbacks, List.isChain_append] at hchain
  simp at hchain

/-- An iteration that has stored its answer can notify it after another one has stored and
notified a different answer. -/
theorem exists_outdated {s : HealthSystem} {status status' : BreezHealthCheckStatus}
    (hidle : s.waiting = 0 ∧ s.answered = []) (hchanging : s.changing = [status])
    (hstored : s.stored = [status']) (hne : status ≠ status') :
    ∃ as, ¬ (Runs.run step s as).FollowsStatus := by
  refine ⟨[.store 0, .notify 1, .notify 0], fun h => ?_⟩
  have hrun : (Runs.run step s [.store 0, .notify 1, .notify 0]).Idle ∧
      (Runs.run step s [.store 0, .notify 1, .notify 0]).callbacks
        = s.callbacks ++ [status, status'] ∧
      (Runs.run step s [.store 0, .notify 1, .notify 0]).breezHealthStatus = some status := by
    simp [step, store, notify, hchanging, hstored, Idle, hidle]
  have hlast := h.last hrun.1 (by rw [hrun.2.1]; simp)
  rw [hrun.2.1, hrun.2.2, List.getLast?_append] at hlast
  exact hne (Option.some.inj hlast).symm

/-- An iteration that compares its answer while another one is past its comparison can lead to
notifications that do not follow the status. -/
theorem exists_broken {s : HealthSystem} (h : s.Inv) {a : HealthAction} (ha : ¬ s.Exclusive a) :
    ∃ as, ¬ (Runs.run step (s.step a) as).FollowsStatus := by
  cases a with
  | tick => exact absurd trivial ha
  | answer => exact absurd trivial ha
  | store => exact absurd trivial ha
  | notify => exact absurd trivial ha
  | compare i =>
      simp only [Exclusive, not_forall] at ha
      obtain ⟨newStatus, hi, hdiffers, hbusy⟩ := ha
      -- the iterations that have not compared their answer end first
      obtain ⟨as, hwaiting, hanswered, hchanging, hstored⟩ :=
        exists_drained (s.step (.compare i))
      have hchanges : (s.step (.compare i)).changing = s.changing ++ [newStatus] := by
        simp [step, compare, hi, hdiffers]
      have hstores : (s.step (.compare i)).stored = s.stored := by
        simp [step, compare, hi, hdiffers]
      rw [hchanges] at hchanging
      rw [hstores] at hstored
      generalize hs' : Runs.run step (s.step (.compare i)) as = s' at *
      suffices hlast : ∃ bs, ¬ (Runs.run step s' bs).FollowsStatus by
        obtain ⟨bs, hbs⟩ := hlast
        exact ⟨as ++ bs, by rw [Runs.run_append, hs']; exact hbs⟩
      cases h.notified with
      | quiet h1 h2 => exact absurd ⟨h1, h2⟩ hbusy
      | stored other h1 h2 _ hnew =>
          rw [h1, List.nil_append] at hchanging
          rw [h2] at hstored
          refine exists_outdated ⟨hwaiting, hanswered⟩ hchanging hstored ?_
          rintro rfl
          exact hdiffers hnew
      | changing other h1 h2 =>
          rw [h1] at hchanging
          rw [h2] at hstored
          by_cases hsame : other = newStatus
          · subst hsame
            exact exists_repeat hchanging hstored
          · have hstep : (s'.step (.store 0)).waiting = 0 ∧ (s'.step (.store 0)).answered = [] ∧
                (s'.step (.store 0)).changing = [newStatus] ∧
                (s'.step (.store 0)).stored = [other] := by
              simp [step, store, hchanging, hstored, hwaiting, hanswered]
            obtain ⟨bs, hbs⟩ := exists_outdated ⟨hstep.1, hstep.2.1⟩ hstep.2.2.1 hstep.2.2.2
              (Ne.symm hsame)
            exact ⟨.store 0 :: bs, hbs⟩

/-- **Health notifications follow the stored status.** They do in a run in which no iteration
compares an answer that differs from the stored status while another one is between its comparison
and its callback. And the condition cannot be weakened: the first step of a run that breaks it can
be followed by steps that lead to notifications that do not follow the status. -/
theorem exclusive_follows (as : List HealthAction) (has : Runs.AllSteps step Exclusive start as) :
    Runs.Throughout step FollowsStatus start as ∧
    ∀ a, ¬ (Runs.run step start as).Exclusive a →
      ∃ bs, ¬ (Runs.run step start (as ++ a :: bs)).FollowsStatus := by
  have hinv : Runs.Throughout step Inv start as :=
    Runs.throughout_of_allSteps step step_inv as _ start_inv has
  refine ⟨Runs.Throughout.imp step (fun _ h => h.followsStatus) as _ hinv, fun a ha => ?_⟩
  obtain ⟨bs, hbs⟩ := exists_broken (Runs.Throughout.last step as _ hinv) ha
  refine ⟨bs, ?_⟩
  rw [Runs.run_append, Runs.run_cons]
  exact hbs

/-- Two iterations that overlap: the second one compares its answer after the first one has called
the callback. -/
theorem exclusive_follows_overlapping :
    Runs.Throughout step FollowsStatus start
      [.tick, .tick, .answer (some .operational), .answer (some .maintenance), .compare 0, .store 0,
        .notify 0, .compare 0, .store 0, .notify 0] :=
  (exclusive_follows
    [.tick, .tick, .answer (some .operational), .answer (some .maintenance), .compare 0, .store 0,
      .notify 0, .compare 0, .store 0, .notify 0]
    ⟨trivial, trivial, trivial, trivial, fun _ _ _ => ⟨rfl, rfl⟩, trivial, trivial,
      fun _ _ _ => ⟨rfl, rfl⟩, trivial, trivial, trivial⟩).1

/-- Two iterations compare the same answer with the status before either of them stores it: both
notify it. -/
theorem status_notified_twice :
    ¬ ∀ as : List HealthAction, Runs.Throughout step FollowsStatus start as := by
  intro h
  have hlast := Runs.Throughout.last step _ _ (h
    [.tick, .tick, .answer (some .operational), .answer (some .operational), .compare 0, .compare 0,
      .store 0, .store 0, .notify 0, .notify 0])
  exact absurd hlast.noRepeats (by decide)

end HealthSystem

end LipaLightning
