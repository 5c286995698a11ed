import LipaLightning.Basic.Runs
import LipaLightning.Support

set_option autoImplicit false

/-! # Exchange rates across restarts

The exchange-rate task (`task_manager.rs`) keeps the rates of the latest response in memory and
in the table that they are loaded from at the next start. In the table it updates the rates of
the response one by one; then it replaces the list in memory as a whole. Updates of two tasks
can overlap: each of them persists its rates under the lock of the data store and publishes
them afterwards.
-/

namespace LipaLightning

/-- The rates in memory after a start (`TaskManager::new`). -/
def TaskManager.new (dataStore : DataStore) : TaskManager :=
  ⟨dataStore.getAllExchangeRates, none, none⟩

/-- The currencies the user can choose from (`Config::list_currencies`). -/
def listCurrencies (taskManager : TaskManager) : List String :=
  taskManager.exchangeRates.map ExchangeRate.currencyCode

/-- A response of the provider, with at most one rate for each currency. -/
structure RateList where
  rates : List ExchangeRate
  distinct : (rates.map ExchangeRate.currencyCode).Nodup

/-- Update the rates in the table. Errors are logged; `envs` is what each statement meets. -/
def persistExchangeRates (envs : ExchangeRate → Env) (dataStore : DataStore)
    (rates : List ExchangeRate) : DataStore :=
  rates.foldl (fun dataStore rate => (dataStore.updateExchangeRate (envs rate) rate.currencyCode
    rate.rate rate.updatedAt).2) dataStore

/-- The table has exactly the entries of a list. -/
def SameEntries (dataStore : DataStore) (rates : List ExchangeRate) : Prop :=
  ∀ rate, rate ∈ dataStore.getAllExchangeRates ↔ rate ∈ rates

/-! ## Persisting a response -/

/-- The statement that stores the rate fails. -/
def PersistFails (envs : ExchangeRate → Env) (rate : ExchangeRate) : Prop :=
  (envs rate).faults .replaceExchangeRate = true

theorem mem_updateExchangeRate (env : Env) (dataStore : DataStore) (rate rate' : ExchangeRate) :
    rate' ∈ (dataStore.updateExchangeRate env rate.currencyCode rate.rate
        rate.updatedAt).2.getAllExchangeRates ↔
      if env.faults .replaceExchangeRate = true then rate' ∈ dataStore.getAllExchangeRates
      else rate' = rate ∨
        (rate' ∈ dataStore.getAllExchangeRates ∧ rate'.currencyCode ≠ rate.currencyCode) := by
  unfold DataStore.updateExchangeRate DataStore.getAllExchangeRates execute
  by_cases hfault : env.faults .replaceExchangeRate = true
  · rw [if_pos hfault, if_pos hfault]
    rfl
  · rw [if_neg hfault, if_neg hfault]
    exact KeyedTable.mem_insertReplace dataStore.conn.exchangeRates rate rate'

/-- After an update the table has the rates that were stored, and the rows of the other
currencies. -/
theorem mem_persistExchangeRates {envs : ExchangeRate → Env} {rates : List ExchangeRate}
    (hdistinct : (rates.map ExchangeRate.currencyCode).Nodup) (dataStore : DataStore)
    (rate : ExchangeRate) :
    rate ∈ (persistExchangeRates envs dataStore rates).getAllExchangeRates ↔
      (rate ∈ rates ∧ ¬ PersistFails envs rate) ∨
      (rate ∈ dataStore.getAllExchangeRates ∧
        ∀ stored ∈ rates, ¬ PersistFails envs stored →
          stored.currencyCode ≠ rate.currencyCode) := by
  induction rates generalizing dataStore with
  | nil => simp [persistExchangeRates]
  | cons first rates ih =>
      rw [List.map_cons, List.nodup_cons] at hdistinct
      have hne : ∀ stored ∈ rates, stored.currencyCode ≠ first.currencyCode := by
        intro stored hstored heq
        exact hdistinct.1 (heq ▸ List.mem_map_of_mem hstored)
      have hpersist : persistExchangeRates envs dataStore (first :: rates)
          = persistExchangeRates envs (dataStore.updateExchangeRate (envs first)
              first.currencyCode first.rate first.updatedAt).2 rates := rfl
      rw [hpersist, ih hdistinct.2, mem_updateExchangeRate]
      by_cases hfails : (envs first).faults .replaceExchangeRate = true
      · rw [if_pos hfails]
        have hfirst : PersistFails envs first := hfails
        grind
      · rw [if_neg hfails]
        have hfirst : ¬ PersistFails envs first := hfails
        grind

/-- **What an update leaves in the table.** It has the entries of the response exactly if the
response has all currencies that the table had, and no statement fails to change a row. -/
theorem sameEntries_persist_iff {envs : ExchangeRate → Env} {rates : List ExchangeRate}
    (hdistinct : (rates.map ExchangeRate.currencyCode).Nodup) (dataStore : DataStore) :
    SameEntries (persistExchangeRates envs dataStore rates) rates ↔
      (∀ rate ∈ dataStore.getAllExchangeRates,
        rate.currencyCode ∈ rates.map ExchangeRate.currencyCode) ∧
      ∀ rate ∈ rates, PersistFails envs rate → rate ∈ dataStore.getAllExchangeRates := by
  have hmem : ∀ rate, rate ∈ (persistExchangeRates envs dataStore rates).getAllExchangeRates ↔ _ :=
    mem_persistExchangeRates hdistinct dataStore
  constructor
  · intro h
    constructor
    · intro rate hrate
      by_contra hnot
      -- a currency that the response does not have keeps its row
      have hkept : rate ∈ (persistExchangeRates envs dataStore rates).getAllExchangeRates := by
        rw [hmem]
        refine .inr ⟨hrate, fun stored hstored _ heq => hnot ?_⟩
        exact heq ▸ List.mem_map_of_mem hstored
      exact hnot (List.mem_map_of_mem ((h rate).mp hkept))
    · intro rate hrate hfails
      rcases (hmem rate).mp ((h rate).mpr hrate) with ⟨-, hstored⟩ | ⟨hbefore, -⟩
      · exact absurd hfails hstored
      · exact hbefore
  · rintro ⟨hcurrencies, hunchanged⟩ rate
    rw [hmem]
    constructor
    · rintro (⟨hrate, -⟩ | ⟨hbefore, hkept⟩)
      · exact hrate
      · obtain ⟨rate', hrate', hcode⟩ := List.mem_map.mp (hcurrencies rate hbefore)
        have hfails : PersistFails envs rate' :=
          Classical.byContradiction fun hstored => hkept rate' hrate' hstored hcode
        have heq : rate' = rate := List.inj_on_of_nodup_map dataStore.conn.exchangeRates.unique
          (hunchanged rate' hrate' hfails) hbefore hcode
        exact heq ▸ hrate'
    · intro hrate
      by_cases hfails : PersistFails envs rate
      · refine .inr ⟨hunchanged rate hrate hfails, fun stored hstored hstores hcode => ?_⟩
        obtain rfl := List.inj_on_of_nodup_map hdistinct hstored hrate hcode
        exact hstores hfails
      · exact .inl ⟨hrate, hfails⟩

/-! ## The task -/

/-- The data store, what the task manager has in memory, and the responses that are persisted
and not yet published, in the order in which they were persisted. -/
structure ExchangeRateTask where
  dataStore : DataStore
  taskManager : TaskManager
  inProgress : List RateList

inductive ExchangeRateAction where
  | persist (rates : RateList) (envs : ExchangeRate → Env)
  | publish (i : Nat)
  | restart

namespace ExchangeRateTask

/-- A node that was just started. -/
def start (dataStore : DataStore) : ExchangeRateTask := ⟨dataStore, .new dataStore, []⟩

def publish (s : ExchangeRateTask) (i : Nat) : ExchangeRateTask :=
  match s.inProgress[i]? with
  | none => s
  | some response =>
      { s with
        taskManager := { s.taskManager with exchangeRates := response.rates }
        inProgress := s.inProgress.eraseIdx i }

/-- One step of a task. A restart ends the updates that are in progress. -/
def step (s : ExchangeRateTask) : ExchangeRateAction → ExchangeRateTask
  | .persist response envs =>
      { s with
        dataStore := persistExchangeRates envs s.dataStore response.rates
        inProgress := s.inProgress ++ [response] }
  | .publish i => s.publish i
  | .restart => start s.dataStore

/-- What is loaded after a restart: the same entries, so the same rate for every currency and
the same currencies to choose from. -/
structure RatesSurvive (s : ExchangeRateTask) : Prop where
  entries : SameEntries s.dataStore s.taskManager.exchangeRates
  getExchangeRate : ∀ support : Support,
    { support with taskManager := TaskManager.new s.dataStore }.getExchangeRate
      = { support with taskManager := s.taskManager }.getExchangeRate
  listCurrencies : ∀ code,
    code ∈ listCurrencies (.new s.dataStore) ↔ code ∈ listCurrencies s.taskManager

/-- The rates survive a restart whenever no update is in progress. -/
def SurvivesRestart (s : ExchangeRateTask) : Prop := s.inProgress = [] → s.RatesSurvive

/-- A response is persisted if it has all currencies that the table has, and only a statement
that would not change its row fails. Of the updates in progress, the one that persisted last is
published before another one only if that has the same entries. -/
def Aligned (s : ExchangeRateTask) : ExchangeRateAction → Prop
  | .persist response envs =>
      (∀ rate ∈ s.dataStore.getAllExchangeRates,
        rate.currencyCode ∈ response.rates.map ExchangeRate.currencyCode) ∧
      ∀ rate ∈ response.rates, PersistFails envs rate → rate ∈ s.dataStore.getAllExchangeRates
  | .publish i => i + 1 = s.inProgress.length →
      ∀ response, s.inProgress[i]? = some response → ∀ other ∈ s.inProgress, ∀ rate,
        rate ∈ response.rates ↔ rate ∈ other.rates
  | .restart => True

/-! ## The invariant -/

/-- The table has the entries of the response that was persisted last, and those in memory when
that one is published. -/
structure Inv (s : ExchangeRateTask) : Prop where
  distinct : (s.taskManager.exchangeRates.map ExchangeRate.currencyCode).Nodup
  table : SameEntries s.dataStore
    ((s.inProgress.getLast?.map RateList.rates).getD s.taskManager.exchangeRates)

/-- Two lists of rates with the same entries have the same rate for a currency. -/
theorem find?_congr {rates rates' : List ExchangeRate}
    (h : (rates.map ExchangeRate.currencyCode).Nodup)
    (h' : (rates'.map ExchangeRate.currencyCode).Nodup)
    (hsame : ∀ rate, rate ∈ rates ↔ rate ∈ rates') (code : String) :
    rates.find? (fun r => r.currencyCode = code)
      = rates'.find? (fun r => r.currencyCode = code) := by
  let table : KeyedTable ExchangeRate.currencyCode := ⟨rates, h⟩
  let table' : KeyedTable ExchangeRate.currencyCode := ⟨rates', h'⟩
  show table.lookup code = table'.lookup code
  cases hlookup : table.lookup code with
  | some rate =>
      have hmem : rate ∈ rates' := (hsame rate).mp (KeyedTable.mem_of_lookup hlookup)
      rw [← KeyedTable.lookup_key hlookup]
      exact (KeyedTable.lookup_of_mem (t := table') hmem).symm
  | none =>
      rw [KeyedTable.lookup_eq_none] at hlookup
      symm
      rw [KeyedTable.lookup_eq_none]
      intro hcode
      obtain ⟨rate, hmem, rfl⟩ := List.mem_map.mp hcode
      exact hlookup (List.mem_map_of_mem ((hsame rate).mpr hmem))

theorem ratesSurvive_of_entries {s : ExchangeRateTask}
    (hdistinct : (s.taskManager.exchangeRates.map ExchangeRate.currencyCode).Nodup)
    (h : SameEntries s.dataStore s.taskManager.exchangeRates) : s.RatesSurvive := by
  refine ⟨h, fun support => ?_, fun code => ?_⟩
  · exact find?_congr s.dataStore.conn.exchangeRates.unique hdistinct h _
  · unfold LipaLightning.listCurrencies
    rw [List.mem_map, List.mem_map]
    exact exists_congr fun rate => and_congr_left fun _ => h rate

theorem Inv.survivesRestart {s : ExchangeRateTask} (h : s.Inv) : s.SurvivesRestart := by
  intro hidle
  have htable := h.table
  rw [hidle] at htable
  exact ratesSurvive_of_entries h.distinct htable

theorem start_inv (dataStore : DataStore) : (start dataStore).Inv :=
  ⟨dataStore.conn.exchangeRates.unique, fun _ => Iff.rfl⟩

theorem publish_eq {s : ExchangeRateTask} {i : Nat} {response : RateList}
    (hi : s.inProgress[i]? = some response) :
    s.publish i =
      { s with
        taskManager := { s.taskManager with exchangeRates := response.rates }
        inProgress := s.inProgress.eraseIdx i } := by
  rw [publish, hi]

theorem Inv.table_last {s : ExchangeRateTask} (h : s.Inv) {i : Nat} {response : RateList}
    (hi : s.inProgress[i]? = some response) (hlast : i + 1 = s.inProgress.length) :
    SameEntries s.dataStore response.rates := by
  have hgetLast : s.inProgress.getLast? = some response := by
    rw [List.getLast?_eq_getElem?, ← hi]
    congr 1
    omega
  simpa [hgetLast] using h.table

/-- Removing an element that is not the last one keeps the last one. -/
theorem getLast?_eraseIdx {α : Type} {l : List α} {i : Nat} (hi : i + 1 < l.length) :
    (l.eraseIdx i).getLast? = l.getLast? := by
  rw [List.getLast?_eq_getElem?, List.getLast?_eq_getElem?, List.length_eraseIdx,
    if_pos (by omega), List.getElem?_eraseIdx, if_neg (by omega)]
  congr 1
  omega

theorem publish_inv {s : ExchangeRateTask} {i : Nat} (h : s.Inv) (ha : s.Aligned (.publish i)) :
    (s.publish i).Inv := by
  cases hi : s.inProgress[i]? with
  | none =>
      rw [publish, hi]
      exact h
  | some response =>
      rw [publish_eq hi]
      refine ⟨response.distinct, ?_⟩
      obtain ⟨hlt, hget⟩ := List.getElem?_eq_some_iff.mp hi
      by_cases hlast : i + 1 = s.inProgress.length
      · -- the table has the entries of this response, and so have the others in progress
        have htable := h.table_last hi hlast
        cases hrest : (s.inProgress.eraseIdx i).getLast? with
        | none => simpa [hrest] using htable
        | some other =>
            have hother : other ∈ s.inProgress :=
              List.mem_of_mem_eraseIdx (List.mem_of_getLast? hrest)
            intro rate
            simpa [hrest] using
              (htable rate).trans (ha hlast response hi other hother rate)
      · -- the response that was persisted last is still in progress
        have hkept := getLast?_eraseIdx (l := s.inProgress) (i := i) (by omega)
        have hne : s.inProgress ≠ [] := List.ne_nil_of_length_pos (by omega)
        have hnewest := List.getLast?_eq_some_getLast hne
        have htable := h.table
        rw [hnewest] at htable
        show SameEntries s.dataStore
          (((s.inProgress.eraseIdx i).getLast?.map RateList.rates).getD _)
        rw [hkept, hnewest]
        exact htable

theorem step_inv (s : ExchangeRateTask) (a : ExchangeRateAction) (h : s.Inv) (ha : s.Aligned a) :
    (s.step a).Inv := by
  cases a with
  | persist response envs =>
      refine ⟨h.distinct, ?_⟩
      show SameEntries _ (((s.inProgress ++ [response]).getLast?.map RateList.rates).getD _)
      rw [List.getLast?_append]
      exact (sameEntries_persist_iff response.distinct s.dataStore).mpr ha
  | publish i => exact publish_inv h ha
  | restart => exact start_inv s.dataStore

/-! ## Every step that is not aligned can lose the rates -/

/-- The updates in progress can end such that a given one of them is published last. -/
theorem exists_published {s : ExchangeRateTask} {response : RateList}
    (h : response ∈ s.inProgress) :
    ∃ as, (Runs.run step s as).inProgress = [] ∧
      (Runs.run step s as).dataStore = s.dataStore ∧
      (Runs.run step s as).taskManager.exchangeRates = response.rates := by
  induction hn : s.inProgress.length generalizing s with
  | zero =>
      rw [List.length_eq_zero_iff.mp hn] at h
      cases h
  | succ n ih =>
      -- another update is published first, as long as there is one
      have hfirst : ∀ i, i < s.inProgress.length → response ∈ s.inProgress.eraseIdx i →
          ∃ as, (Runs.run step s as).inProgress = [] ∧
            (Runs.run step s as).dataStore = s.dataStore ∧
            (Runs.run step s as).taskManager.exchangeRates = response.rates := by
        intro i hi hmem
        have hpublish := publish_eq (List.getElem?_eq_getElem hi)
        have hlength : (s.publish i).inProgress.length = n := by
          rw [hpublish]
          show (s.inProgress.eraseIdx i).length = n
          rw [List.length_eraseIdx, if_pos hi, hn]
          rfl
        obtain ⟨as, hidle, hstore, hrates⟩ := ih (s := s.publish i) (by rwa [hpublish]) hlength
        refine ⟨.publish i :: as, hidle, hstore.trans ?_, hrates⟩
        rw [hpublish]
      cases hl : s.inProgress with
      | nil => rw [hl] at h; cases h
      | cons first l =>
          rw [hl] at h hfirst
          cases l with
          | nil =>
              obtain rfl := List.mem_singleton.mp h
              have hi : s.inProgress[0]? = some response := by rw [hl]; rfl
              refine ⟨[.publish 0], ?_⟩
              rw [Runs.run_cons, Runs.run_nil]
              show (s.publish 0).inProgress = [] ∧ _
              simp [step, publish_eq hi, hl]
          | cons second l =>
              rcases List.mem_cons.mp h with rfl | hmem
              · exact hfirst 1 (by simp) (by simp)
              · exact hfirst 0 (by simp) hmem

/-- From a state that satisfies the invariant, a step that is not aligned can be followed by
steps after which no update is in progress and the rates do not survive a restart. -/
theorem exists_lost_rates {s : ExchangeRateTask} (h : s.Inv) {a : ExchangeRateAction}
    (ha : ¬ s.Aligned a) : ∃ as, ¬ (Runs.run step (s.step a) as).SurvivesRestart := by
  -- the table does not have the entries of an update that is in progress after the step
  suffices hsuff : ∃ response ∈ (s.step a).inProgress,
      ¬ SameEntries (s.step a).dataStore response.rates by
    obtain ⟨response, hmem, hne⟩ := hsuff
    obtain ⟨as, hidle, hstore, hrates⟩ := exists_published hmem
    refine ⟨as, fun hsurvives => hne ?_⟩
    have hentries := (hsurvives hidle).entries
    rwa [hstore, hrates] at hentries
  cases a with
  | persist response envs =>
      refine ⟨response, List.mem_append_right _ (List.mem_singleton_self _), fun hsame => ha ?_⟩
      exact (sameEntries_persist_iff response.distinct s.dataStore).mp hsame
  | publish i =>
      simp only [Aligned, Classical.not_imp, not_forall] at ha
      obtain ⟨hlast, response, hi, other, hother, rate, hdiffers⟩ := ha
      have htable := h.table_last hi hlast
      refine ⟨other, ?_, fun hsame => hdiffers ((htable rate).symm.trans ?_)⟩
      · show other ∈ (s.publish i).inProgress
        rw [publish_eq hi]
        obtain ⟨j, hj⟩ := List.mem_iff_getElem?.mp hother
        refine List.mem_eraseIdx_iff_getElem?.mpr ⟨j, ?_, hj⟩
        rintro rfl
        obtain rfl := Option.some.inj (hi.symm.trans hj)
        exact hdiffers Iff.rfl
      · have hstore : (s.step (.publish i)).dataStore = s.dataStore := by
          rw [step, publish_eq hi]
        rw [hstore] at hsame
        exact hsame rate
  | restart => exact absurd trivial ha

/-- **Exchange rates survive restarts.** They do in a run in which every response has all
currencies of the table and is stored completely, and of overlapping updates the one that
persisted last is published last. And the condition cannot be weakened: the first step of a run
that breaks it can be followed by steps after which no update is in progress and the rates do not
survive a restart. -/
theorem aligned_rates_survive (dataStore : DataStore) (as : List ExchangeRateAction)
    (has : Runs.AllSteps step Aligned (start dataStore) as) :
    Runs.Throughout step SurvivesRestart (start dataStore) as ∧
    ∀ a, ¬ (Runs.run step (start dataStore) as).Aligned a →
      ∃ bs, ¬ (Runs.run step (start dataStore) (as ++ a :: bs)).SurvivesRestart := by
  have hinv : Runs.Throughout step Inv (start dataStore) as :=
    Runs.throughout_of_allSteps step step_inv as _ (start_inv dataStore) has
  refine ⟨Runs.Throughout.imp step (fun _ h => h.survivesRestart) as _ hinv, fun a ha => ?_⟩
  obtain ⟨bs, hbs⟩ := exists_lost_rates (Runs.Throughout.last step as _ hinv) ha
  refine ⟨bs, ?_⟩
  rw [Runs.run_append, Runs.run_cons]
  exact hbs

/-- Two overlapping updates of two currencies, and a restart. -/
theorem aligned_rates_survive_overlapping :
    Runs.Throughout step SurvivesRestart (start (.new .migrated none))
      [.persist ⟨[⟨"CHF", 2000, 0⟩, ⟨"EUR", 1900, 0⟩], by decide⟩ fun _ => ⟨0, fun _ => false⟩,
        .persist ⟨[⟨"EUR", 1950, 60⟩, ⟨"CHF", 2050, 60⟩], by decide⟩ fun _ => ⟨60, fun _ => false⟩,
        .publish 0, .publish 0, .restart] :=
  (aligned_rates_survive (.new .migrated none)
    [.persist ⟨[⟨"CHF", 2000, 0⟩, ⟨"EUR", 1900, 0⟩], by decide⟩ fun _ => ⟨0, fun _ => false⟩,
      .persist ⟨[⟨"EUR", 1950, 60⟩, ⟨"CHF", 2050, 60⟩], by decide⟩ fun _ => ⟨60, fun _ => false⟩,
      .publish 0, .publish 0, .restart]
    ⟨⟨by decide, by simp [PersistFails]⟩, ⟨by decide, by simp [PersistFails]⟩,
      by simp [Aligned, step, start], by simp [Aligned, step, start, publish], trivial, trivial⟩).1

/-- The provider drops a currency: its rate is no longer in memory, but it is loaded again after
a restart. -/
theorem dropped_currency_returns :
    ¬ ∀ (dataStore : DataStore) (as : List ExchangeRateAction),
      Runs.Throughout step SurvivesRestart (start dataStore) as := by
  intro h
  have hlast := Runs.Throughout.last step _ _ (h (.new .migrated none)
    [.persist ⟨[⟨"CHF", 2000, 0⟩, ⟨"EUR", 1900, 0⟩], by decide⟩ fun _ => ⟨0, fun _ => false⟩,
      .publish 0,
      .persist ⟨[⟨"CHF", 2050, 60⟩], by decide⟩ fun _ => ⟨60, fun _ => false⟩, .publish 0])
  have hentry := (hlast rfl).entries ⟨"EUR", 1900, 0⟩
  exact absurd hentry (by decide)

end ExchangeRateTask

end LipaLightning
