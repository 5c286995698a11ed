import LipaLightning.Basic.InFlight
import LipaLightning.Basic.Transitions
import LipaLightning.Onchain.Resolving
import LipaLightning.ReceiveLimits

set_option autoImplicit false

/-! # The cached LSP fees

The task that updates the LSP fees (`start_lsp_fee_update` in `task_manager.rs`) keeps two of the
LSP's offers in memory: the cheapest one, for invoices, and one that is valid for 48 hours, for
swaps. An iteration asks the LSP and then replaces the one and the other. A task that was asked to
stop still ends its iteration, so that iterations can overlap when the task manager has started its
tasks anew.

Whatever iterations overlap, each offer is stored once and the one that was stored last is cached.
If none do, it is the one the LSP has made last. A fee that is shown is that of the cached offer.
-/

namespace LipaLightning

open Transitions InFlight List

/-- `breez_sdk_core::OpeningFeeParamsMenu`: what the SDK takes from the offers of an LSP. -/
structure OpeningFeeParamsMenu where
  getCheapestOpeningFeeParams : Except String OpeningFeeParams
  get48hOpeningFeeParams : Except String OpeningFeeParams

/-! ## The task -/

/-- Where an iteration is. -/
inductive LspFeeIteration where
  | asking
  | answered (menu : OpeningFeeParamsMenu)
  | updatedCheaper (menu : OpeningFeeParamsMenu)
  | ended

structure LspFeeTask where
  taskManager : TaskManager
  /-- All iterations, in the order in which they were started. -/
  iterations : List LspFeeIteration

inductive LspFeeEvent where
  | start
  | answer (i : ℕ) (answer : Except String OpeningFeeParamsMenu)
  /-- An offer is stored, or that there is none is logged. -/
  | updateCheaper (i : ℕ) (offer : Except String OpeningFeeParams)
  | updateLongerValid (i : ℕ) (offer : Except String OpeningFeeParams)
  /-- What another task stores. -/
  | updateExchangeRates (rates : List ExchangeRate)

/-- What is cached after an offer was retrieved, or not. -/
def storeOffer (offer : Except String OpeningFeeParams) (cached : Option OpeningFeeParams) :
    Option OpeningFeeParams :=
  match offer with
  | .ok params => some params
  | .error _ => cached

namespace LspFeeTask

def new (rates : List ExchangeRate) : LspFeeTask := ⟨⟨rates, none, none⟩, []⟩

def proceed (s : LspFeeTask) (i : ℕ) (iteration : LspFeeIteration) : LspFeeTask :=
  { s with iterations := s.iterations.set i iteration }

inductive Step : LspFeeTask → LspFeeEvent → LspFeeTask → Prop
  | start (s : LspFeeTask) : Step s .start { s with iterations := s.iterations ++ [.asking] }
  | answer (s : LspFeeTask) (i : ℕ) (menu : OpeningFeeParamsMenu)
      (here : s.iterations[i]? = some .asking) :
      Step s (.answer i (.ok menu)) (s.proceed i (.answered menu))
  | fail (s : LspFeeTask) (i : ℕ) (e : String) (here : s.iterations[i]? = some .asking) :
      Step s (.answer i (.error e)) (s.proceed i .ended)
  | updateCheaper (s : LspFeeTask) (i : ℕ) (menu : OpeningFeeParamsMenu)
      (here : s.iterations[i]? = some (.answered menu)) :
      Step s (.updateCheaper i menu.getCheapestOpeningFeeParams)
        { s.proceed i (.updatedCheaper menu) with
          taskManager := { s.taskManager with
            lspFeeCheaper :=
              storeOffer menu.getCheapestOpeningFeeParams s.taskManager.lspFeeCheaper } }
  | updateLongerValid (s : LspFeeTask) (i : ℕ) (menu : OpeningFeeParamsMenu)
      (here : s.iterations[i]? = some (.updatedCheaper menu)) :
      Step s (.updateLongerValid i menu.get48hOpeningFeeParams)
        { s.proceed i .ended with
          taskManager := { s.taskManager with
            lspFeeLongerValid :=
              storeOffer menu.get48hOpeningFeeParams s.taskManager.lspFeeLongerValid } }
  | updateExchangeRates (s : LspFeeTask) (rates : List ExchangeRate) :
      Step s (.updateExchangeRates rates)
        { s with taskManager := { s.taskManager with exchangeRates := rates } }

/-- No iteration is in progress. -/
def Idle (s : LspFeeTask) : Prop := ∀ iteration ∈ s.iterations, iteration = .ended

/-- No iteration starts before the others have ended. -/
def SequentialStep (s : LspFeeTask) (e : LspFeeEvent) (s' : LspFeeTask) : Prop :=
  Step s e s' ∧ (e = .start → s.Idle)

end LspFeeTask

/-! ## The two offers -/

inductive CachedOffer where
  | cheaper
  | longerValid
  deriving DecidableEq, Repr

namespace CachedOffer

/-- What an iteration takes from a menu. -/
def retrieve : CachedOffer → OpeningFeeParamsMenu → Except String OpeningFeeParams
  | cheaper, menu => menu.getCheapestOpeningFeeParams
  | longerValid, menu => menu.get48hOpeningFeeParams

def cached : CachedOffer → TaskManager → Option OpeningFeeParams
  | cheaper, taskManager => taskManager.lspFeeCheaper
  | longerValid, taskManager => taskManager.lspFeeLongerValid

/-- The offer that the LSP makes in the event. -/
def made (kind : CachedOffer) : LspFeeEvent → Option OpeningFeeParams
  | .answer _ (.ok menu) => (kind.retrieve menu).toOption
  | _ => none

/-- The offer that an iteration stores in the event. -/
def stored : CachedOffer → LspFeeEvent → Option OpeningFeeParams
  | cheaper, .updateCheaper _ offer => offer.toOption
  | longerValid, .updateLongerValid _ offer => offer.toOption
  | _, _ => none

/-- The offer that an iteration has still to store. -/
def pending : CachedOffer → LspFeeIteration → Option OpeningFeeParams
  | kind, .answered menu => (kind.retrieve menu).toOption
  | longerValid, .updatedCheaper menu => menu.get48hOpeningFeeParams.toOption
  | _, _ => none

def madeOffers (kind : CachedOffer) (es : List LspFeeEvent) : List OpeningFeeParams :=
  es.filterMap kind.made

def storedOffers (kind : CachedOffer) (es : List LspFeeEvent) : List OpeningFeeParams :=
  es.filterMap kind.stored

/-- An offer that was made is one of an answer. -/
theorem mem_madeOffers {kind : CachedOffer} {es : List LspFeeEvent} {params : OpeningFeeParams}
    (h : params ∈ kind.madeOffers es) :
    ∃ i menu, .answer i (.ok menu) ∈ es ∧ kind.retrieve menu = .ok params := by
  obtain ⟨e, he, hmade⟩ := List.mem_filterMap.mp h
  cases e with
  | answer i answer =>
      cases answer with
      | ok menu =>
          refine ⟨i, menu, he, ?_⟩
          have hoption : (kind.retrieve menu).toOption = some params := hmade
          cases hretrieve : kind.retrieve menu with
          | ok params' =>
              rw [hretrieve] at hoption
              exact congrArg Except.ok (Option.some.inj hoption)
          | error error =>
              rw [hretrieve] at hoption
              cases hoption
      | error error => cases hmade
  | start | updateCheaper i offer | updateLongerValid i offer | updateExchangeRates rates =>
      cases hmade

/-- The getters of the task manager return what is cached. -/
theorem getCheaperLspFee_eq_ok {taskManager : TaskManager} {params : OpeningFeeParams} :
    taskManager.getCheaperLspFee = .ok params ↔ cheaper.cached taskManager = some params := by
  obtain ⟨rates, lspFeeCheaper, lspFeeLongerValid⟩ := taskManager
  cases lspFeeCheaper <;> simp [TaskManager.getCheaperLspFee, cached]

theorem getLongerValidLspFee_eq_ok {taskManager : TaskManager} {params : OpeningFeeParams} :
    taskManager.getLongerValidLspFee = .ok params ↔
      longerValid.cached taskManager = some params := by
  obtain ⟨rates, lspFeeCheaper, lspFeeLongerValid⟩ := taskManager
  cases lspFeeLongerValid <;> simp [TaskManager.getLongerValidLspFee, cached]

end CachedOffer

/-! ## Steps -/

namespace LspFeeTask

variable {s s' : LspFeeTask} {es : List LspFeeEvent} {e : LspFeeEvent}

theorem storeOffer_eq_or (offer : Except String OpeningFeeParams)
    (cached : Option OpeningFeeParams) :
    storeOffer offer cached = offer.toOption.or cached := by
  cases offer <;> rfl

/-- What a step caches. -/
theorem step_cached (step : Step s e s') (kind : CachedOffer) :
    kind.cached s'.taskManager = (kind.stored e).or (kind.cached s.taskManager) := by
  cases step with
  | start | answer i menu here | fail i error here | updateExchangeRates rates =>
      cases kind <;> rfl
  | updateCheaper i menu here =>
      cases kind with
      | cheaper => exact storeOffer_eq_or _ _
      | longerValid => rfl
  | updateLongerValid i menu here =>
      cases kind with
      | cheaper => rfl
      | longerValid => exact storeOffer_eq_or _ _

/-- A step of an iteration takes an offer from the LSP or hands it to the cache. -/
structure Moves (e : LspFeeEvent) (x y : LspFeeIteration) : Prop where
  active : x ≠ .ended
  moves : ∀ kind : CachedOffer, (kind.stored e).toList ++ (kind.pending y).toList =
    (kind.pending x).toList ++ (kind.made e).toList

/-- Only the iterations change, if at all. -/
inductive StepOfIterations (s : LspFeeTask) : LspFeeEvent → LspFeeTask → Prop
  | start {s' : LspFeeTask} (h : s'.iterations = s.iterations ++ [.asking]) :
      StepOfIterations s .start s'
  | proceed {s' : LspFeeTask} {e : LspFeeEvent} {i : ℕ} {x y : LspFeeIteration}
      (here : s.iterations[i]? = some x) (hset : s'.iterations = s.iterations.set i y)
      (moves : Moves e x y) : StepOfIterations s e s'
  | other {s' : LspFeeTask} (rates : List ExchangeRate) (h : s'.iterations = s.iterations) :
      StepOfIterations s (.updateExchangeRates rates) s'

theorem step_iterations (step : Step s e s') : StepOfIterations s e s' := by
  cases step with
  | start => exact .start rfl
  | updateExchangeRates rates => exact .other rates rfl
  | answer i menu here =>
      refine .proceed here rfl ⟨LspFeeIteration.noConfusion, fun kind => ?_⟩
      cases kind <;> rfl
  | fail i error here =>
      refine .proceed here rfl ⟨LspFeeIteration.noConfusion, fun kind => ?_⟩
      cases kind <;> rfl
  | updateCheaper i menu here =>
      refine .proceed here rfl ⟨LspFeeIteration.noConfusion, fun kind => ?_⟩
      cases kind with
      | cheaper => rfl
      | longerValid => exact (List.append_nil _).symm
  | updateLongerValid i menu here =>
      refine .proceed here rfl ⟨LspFeeIteration.noConfusion, fun kind => ?_⟩
      cases kind <;> rfl

/-! ## Runs -/

theorem storedOffers_concat (kind : CachedOffer) (es : List LspFeeEvent) (e : LspFeeEvent) :
    kind.storedOffers (es ++ [e]) = kind.storedOffers es ++ (kind.stored e).toList :=
  filterMap_concat kind.stored es e

theorem madeOffers_concat (kind : CachedOffer) (es : List LspFeeEvent) (e : LspFeeEvent) :
    kind.madeOffers (es ++ [e]) = kind.madeOffers es ++ (kind.made e).toList :=
  filterMap_concat kind.made es e

/-- What is cached was stored last. -/
theorem cachesLast_step {kind : CachedOffer}
    (h : kind.cached s.taskManager = (kind.storedOffers es).getLast?) (step : Step s e s') :
    kind.cached s'.taskManager = (kind.storedOffers (es ++ [e])).getLast? := by
  rw [step_cached step kind, h, storedOffers_concat, List.getLast?_append]
  cases kind.stored e <;> rfl

/-- Of the offers that were made, some are stored and the others are in the iterations. -/
def StoredOnce (kind : CachedOffer) (es : List LspFeeEvent) (s : LspFeeTask) : Prop :=
  kind.storedOffers es ++ carried kind.pending s.iterations ~ kind.madeOffers es

theorem storedOnce_step {kind : CachedOffer} (h : StoredOnce kind es s) (step : Step s e s') :
    StoredOnce kind (es ++ [e]) s' := by
  unfold StoredOnce at h ⊢
  rw [storedOffers_concat, madeOffers_concat]
  cases step_iterations step with
  | start hs =>
      rw [hs, carried_concat kind.pending s.iterations rfl]
      simpa [CachedOffer.stored, CachedOffer.made] using h
  | proceed here hset moves =>
      rw [hset]
      exact perm_set kind.pending here h (.of_eq (moves.moves kind))
  | other rates hs =>
      rw [hs]
      cases kind <;> simpa [CachedOffer.stored, CachedOffer.made] using h

/-- Only the last iteration is in progress, and the offers are stored as they are made. -/
structure InSequence (es : List LspFeeEvent) (s : LspFeeTask) : Prop where
  last : ∀ i x, s.iterations[i]? = some x → x ≠ .ended → i + 1 = s.iterations.length
  inOrder : ∀ kind : CachedOffer,
    kind.storedOffers es ++ carried kind.pending s.iterations = kind.madeOffers es

theorem inSequence_step (h : InSequence es s) (step : SequentialStep s e s') :
    InSequence (es ++ [e]) s' := by
  cases step_iterations step.1 with
  | start hs =>
      constructor
      · intro i x hi hx
        rw [hs] at hi ⊢
        rw [List.length_append, List.length_singleton]
        rcases Nat.lt_or_ge i s.iterations.length with hlt | hge
        · rw [List.getElem?_append_left hlt] at hi
          exact absurd (step.2 rfl x (List.mem_of_getElem? hi)) hx
        · have hlt := (List.getElem?_eq_some_iff.mp hi).1
          rw [List.length_append, List.length_singleton] at hlt
          omega
      · intro kind
        rw [storedOffers_concat, madeOffers_concat, hs, carried_concat kind.pending _ rfl]
        simpa [CachedOffer.stored, CachedOffer.made] using h.inOrder kind
  | @proceed _ _ i x y here hset moves =>
      have hlast : i + 1 = s.iterations.length := h.last i x here moves.active
      constructor
      · intro j z hj hz
        rw [hset] at hj ⊢
        rw [List.length_set]
        by_cases hij : i = j
        · omega
        · rw [List.getElem?_set_ne hij] at hj
          exact h.last j z hj hz
      · intro kind
        rw [storedOffers_concat, madeOffers_concat, hset]
        refine eq_set kind.pending here ?_ (h.inOrder kind) (moves.moves kind)
        intro j z hj hij
        have hz : z = .ended := by
          by_contra hz
          have := h.last j z hj hz
          omega
        rw [hz]
        cases kind <;> rfl
  | other rates hs =>
      constructor
      · rw [hs]
        exact h.last
      · intro kind
        have horder := h.inOrder kind
        rw [storedOffers_concat, madeOffers_concat, hs]
        cases kind <;> simpa [CachedOffer.stored, CachedOffer.made] using horder

/-- A run without overlaps is a run. -/
theorem run_of_sequential (h : Run SequentialStep s es s') : Run Step s es s' := by
  induction h with
  | nil s => exact .nil s
  | cons step run ih => exact .cons step.1 ih

variable {rates : List ExchangeRate}

theorem cached_run (h : Run Step (new rates) es s) (kind : CachedOffer) :
    kind.cached s.taskManager = (kind.storedOffers es).getLast? :=
  h.invariant (I := fun s es => kind.cached s.taskManager = (kind.storedOffers es).getLast?)
    (fun _ _ _ _ => cachesLast_step) (by cases kind <;> rfl)

theorem storedOnce_run (h : Run Step (new rates) es s) (kind : CachedOffer) :
    StoredOnce kind es s :=
  h.invariant (I := fun s es => StoredOnce kind es s) (fun _ _ _ _ => storedOnce_step)
    (.refl _)

theorem inSequence_run (h : Run SequentialStep (new rates) es s) : InSequence es s :=
  h.invariant (I := fun s es => InSequence es s) (fun _ _ _ _ => inSequence_step)
    ⟨fun i x hi => absurd hi (by simp [new]), fun kind => rfl⟩

theorem Idle.carried_pending (h : s.Idle) (kind : CachedOffer) :
    carried kind.pending s.iterations = [] := by
  refine carried_eq_nil kind.pending fun iteration hiteration => ?_
  rw [h iteration hiteration]
  cases kind <;> rfl

/-! ## Fees -/

/-- A fee that is shown is that of the offer that was stored last, one of the LSP's offers. -/
structure Shown (kind : CachedOffer) (es : List LspFeeEvent) (nodeState : Except String NodeState)
    (amountSat : UInt64) (fee : CalculateLspFeeResponseV2) : Prop where
  last : (kind.storedOffers es).getLast? = some fee.lspFeeParams
  offered : ∃ i menu, .answer i (.ok menu) ∈ es ∧ kind.retrieve menu = .ok fee.lspFeeParams
  sats : ∃ state, nodeState = .ok state ∧
    fee.lspFee.sats = Support.lspFeeSats state fee.lspFeeParams amountSat

theorem shown_of_ok {kind : CachedOffer} (h : Run Step (new rates) es s) {support : Support}
    {nodeState : Except String NodeState} {amountSat : UInt64} {params : OpeningFeeParams}
    {fee : CalculateLspFeeResponseV2} (hcached : kind.cached s.taskManager = some params)
    (hfee : support.calculateLspFeeForAmount nodeState amountSat params = .ok fee) :
    Shown kind es nodeState amountSat fee := by
  obtain ⟨state, hstate, hsats, hparams⟩ := Support.calculateLspFeeForAmount_ok hfee
  have hlast : (kind.storedOffers es).getLast? = some fee.lspFeeParams := by
    rw [← cached_run h kind, hcached, hparams]
  have hmade : fee.lspFeeParams ∈ kind.madeOffers es :=
    (storedOnce_run h kind).mem_iff.mp
      (List.mem_append_left _ (List.mem_of_getLast? hlast))
  exact ⟨hlast, CachedOffer.mem_madeOffers hmade, state, hstate, hparams ▸ hsats⟩

/-- A fee is known as soon as an offer is stored, and for good. -/
theorem exists_fee_iff {support : Support} {nodeState : NodeState} {amountSat : UInt64}
    {offer : Result OpeningFeeParams} :
    (∃ fee, (do support.calculateLspFeeForAmount (.ok nodeState) amountSat (← offer)) = .ok fee) ↔
      ∃ params, offer = .ok params := by
  cases offer with
  | ok params =>
      obtain ⟨fee, hfee, -⟩ := support.calculateLspFeeForAmount_node nodeState amountSat params
      exact ⟨fun _ => ⟨params, rfl⟩, fun _ => ⟨fee, hfee⟩⟩
  | error e =>
      constructor
      · rintro ⟨fee, hfee⟩
        cases hfee
      · rintro ⟨params, hparams⟩
        cases hparams

/-- A menu with an offer for 4 % and one with an offer for 1 %. -/
def oldMenu : OpeningFeeParamsMenu :=
  ⟨.ok ⟨2000000, 40000, "2024-01-02", 4320, 432, "old"⟩, .error "no offer is valid for 48 hours"⟩

def newMenu : OpeningFeeParamsMenu :=
  ⟨.ok ⟨2000000, 10000, "2024-01-09", 4320, 432, "new"⟩,
    .ok ⟨2000000, 10000, "2024-01-09", 4320, 432, "new"⟩⟩

/-- What an iteration does that is not disturbed. -/
def undisturbed (i : ℕ) (menu : OpeningFeeParamsMenu) : List LspFeeEvent :=
  [.start, .answer i (.ok menu), .updateCheaper i menu.getCheapestOpeningFeeParams,
    .updateLongerValid i menu.get48hOpeningFeeParams]

/-- An iteration may be disturbed by one that has an older answer and stores it later. -/
example : ∃ es s, Run Step (new []) es s ∧ s.Idle ∧
    CachedOffer.cheaper.cached s.taskManager ≠ (CachedOffer.cheaper.madeOffers es).getLast? := by
  refine ⟨_, _, .cons (.start _) <| .cons (.answer _ 0 oldMenu rfl) <| .cons (.start _) <|
    .cons (.answer _ 1 newMenu rfl) <| .cons (.updateCheaper _ 1 newMenu rfl) <|
    .cons (.updateLongerValid _ 1 newMenu rfl) <| .cons (.updateCheaper _ 0 oldMenu rfl) <|
    .cons (.updateLongerValid _ 0 oldMenu rfl) <| .nil _, ?_, ?_⟩
  · intro iteration hiteration
    simpa [proceed, new] using hiteration
  · decide

theorem undisturbed_run : Run SequentialStep (new []) (undisturbed 0 newMenu)
    ⟨⟨[], newMenu.getCheapestOpeningFeeParams.toOption, newMenu.get48hOpeningFeeParams.toOption⟩,
      [.ended]⟩ :=
  .cons ⟨.start _, fun _ _ h => absurd h List.not_mem_nil⟩ <|
  .cons ⟨.answer _ 0 newMenu rfl, LspFeeEvent.noConfusion⟩ <|
  .cons ⟨.updateCheaper _ 0 newMenu rfl, LspFeeEvent.noConfusion⟩ <|
  .cons ⟨.updateLongerValid _ 0 newMenu rfl, LspFeeEvent.noConfusion⟩ <| .nil _

end LspFeeTask

end LipaLightning
