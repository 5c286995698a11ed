import LipaLightning.Basic.Runs
import LipaLightning.Config.Analytics
import LipaLightning.DataStore.Payments

set_option autoImplicit false

/-! # Preferences in memory and in the db

The analytics config and the fiat currency are kept twice: in memory, where the interceptor
and the rest of the node read them, and in the db, which the getter and the next start of the
node read. `set_fiat_currency` (`config.rs`) writes the db first and the memory only if this
succeeded. `set_analytics_config` writes the memory first, so when the db fails the new config
is in force until the node is restarted, although the call returned an error.

`preferencesAgree_iff` is the exact condition for a run: `set_analytics_config` only fails when
it sets the config that is in memory already.
-/

namespace LipaLightning

/-! ## Setters and start -/

namespace Config

def setFiatCurrency (memory : AnalyticsInterceptor) (dataStore : DataStore) (env : Env)
    (fiatCurrency : String) : Result Unit × AnalyticsInterceptor × DataStore :=
  match dataStore.storeSelectedFiatCurrency env fiatCurrency with
  | (.error e, dataStore) => (.error e, memory, dataStore)
  | (.ok (), dataStore) => (.ok (), { memory with fiatCurrency := fiatCurrency }, dataStore)

/-- This can be used to completely prevent any analytics data from being reported. -/
def setAnalyticsConfig (memory : AnalyticsInterceptor) (dataStore : DataStore) (env : Env)
    (config : AnalyticsConfig) : Result Unit × AnalyticsInterceptor × DataStore :=
  -- the memory is set before the db, also if the db fails
  let memory := { memory with config := config }
  let (result, dataStore) := dataStore.appendAnalyticsConfig env config
  (result, memory, dataStore)

def getAnalyticsConfig (dataStore : DataStore) (env : Env) : Result AnalyticsConfig :=
  dataStore.retrieveAnalyticsConfig env

end Config

/-- What a start of the node depends on besides the db: the configured default, the
environments of its calls to the data store, and whether its other parts can be started. -/
structure StartEnv where
  defaultFiatCurrency : String
  openDataStore : Result Unit
  selectFiatCurrency : Env
  insertFiatCurrency : Env
  selectAnalyticsConfig : Env
  startRest : Result Unit

/-- The last fiat currency that was set, or the default, which is stored then. -/
def initialFiatCurrency (dataStore : DataStore) (env : StartEnv) : Result String × DataStore :=
  match dataStore.retrieveLastSetFiatCurrency env.selectFiatCurrency with
  | .error e => (.error e, dataStore)
  | .ok (some c) => (.ok c, dataStore)
  | .ok none =>
      match dataStore.storeSelectedFiatCurrency env.insertFiatCurrency env.defaultFiatCurrency with
      | (.error e, dataStore) => (.error e, dataStore)
      | (.ok (), dataStore) => (.ok env.defaultFiatCurrency, dataStore)

/-- `LightningNode::new`, as far as the preferences are concerned. -/
def startNode (db : Db) (backupFile : Option Db) (env : StartEnv) :
    Result AnalyticsInterceptor × DataStore :=
  match env.openDataStore with
  | .error e => (.error e, .new db backupFile)
  | .ok () =>
      match initialFiatCurrency (.new db backupFile) env with
      | (.error e, dataStore) => (.error e, dataStore)
      | (.ok fiatCurrency, dataStore) =>
          let result := do
            let config ← dataStore.retrieveAnalyticsConfig env.selectAnalyticsConfig
            env.startRest
            .ok (AnalyticsInterceptor.mk fiatCurrency config)
          -- a default that was stored stays, even if the rest of the start fails
          (result, dataStore)

/-! ## Runs -/

/-- A wallet: its data store, the memory of the node if one is started, and the config of the
last `set_analytics_config` that returned `Ok`. -/
structure ConfiguredWallet where
  dataStore : DataStore
  memory : Option AnalyticsInterceptor
  lastSet : AnalyticsConfig

inductive ConfigAction where
  | setAnalyticsConfig (env : Env) (config : AnalyticsConfig)
  | setFiatCurrency (env : Env) (fiatCurrency : String)
  | intercept (now : SystemTime) (i : Interception)
  | restart (env : StartEnv)

def ConfigAction.isRestart : ConfigAction → Bool
  | .restart _ => true
  | _ => false

namespace ConfiguredWallet

def keepMemory : Result AnalyticsInterceptor → Option AnalyticsInterceptor
  | .ok memory => some memory
  | .error _ => none

/-- Without a node only a start has an effect. -/
def step (s : ConfiguredWallet) (a : ConfigAction) : ConfiguredWallet :=
  match a, s.memory with
  | .restart env, _ =>
      let (memory, dataStore) := startNode s.dataStore.conn s.dataStore.backupConn env
      { s with memory := keepMemory memory, dataStore := dataStore }
  | .setAnalyticsConfig env config, some memory =>
      let (result, memory, dataStore) := Config.setAnalyticsConfig memory s.dataStore env config
      { dataStore := dataStore, memory := some memory,
        lastSet := if succeeded result then config else s.lastSet }
  | .setFiatCurrency env fiatCurrency, some memory =>
      let (_, memory, dataStore) := Config.setFiatCurrency memory s.dataStore env fiatCurrency
      { s with memory := some memory, dataStore := dataStore }
  | .intercept _ _, some _ => s
  | _, none => s

/-- The result of the call, if the action is a call of a setter on a node. -/
def result (s : ConfiguredWallet) (a : ConfigAction) : Option (Result Unit) :=
  match a, s.memory with
  | .setAnalyticsConfig env config, some memory =>
      some (Config.setAnalyticsConfig memory s.dataStore env config).1
  | .setFiatCurrency env fiatCurrency, some memory =>
      some (Config.setFiatCurrency memory s.dataStore env fiatCurrency).1
  | _, _ => none

/-- The analytics event that is reported in the step. -/
def reported (s : ConfiguredWallet) (a : ConfigAction) : Option AnalyticsEvent :=
  match a, s.memory with
  | .intercept now i, some memory => i.report now memory
  | _, _ => none

/-- The new wallet, whose node was not started yet. -/
def start (backupFile : Option Db) : ConfiguredWallet :=
  ⟨.new .migrated backupFile, none, .enabled⟩

/-- An environment in which reads succeed. -/
def reading : Env := ⟨0, fun _ => false⟩

/-- The config that `retrieve_analytics_config` returns. -/
def dbConfig (s : ConfiguredWallet) : Result AnalyticsConfig :=
  Config.getAnalyticsConfig s.dataStore reading

/-- The fiat currency that was stored last. -/
def dbFiatCurrency (s : ConfiguredWallet) : Result (Option String) :=
  s.dataStore.retrieveLastSetFiatCurrency reading

/-- The memory of the node has the values of the db. -/
def PreferencesAgree (s : ConfiguredWallet) : Prop :=
  ∀ memory, s.memory = some memory →
    s.dbConfig = .ok memory.config ∧ s.dbFiatCurrency = .ok (some memory.fiatCurrency)

/-- An event is only reported if the last config that was set is `Enabled`. -/
def ReportsIfEnabled (s : ConfiguredWallet) (a : ConfigAction) : Prop :=
  (s.reported a).isSome → s.lastSet = .enabled

/-- A call that returns an error changes neither copy of a preference. -/
def FailureChangesNothing (s : ConfiguredWallet) (a : ConfigAction) : Prop :=
  ∀ e, s.result a = some (.error e) →
    (s.step a).memory = s.memory ∧ (s.step a).dbConfig = s.dbConfig
      ∧ (s.step a).dbFiatCurrency = s.dbFiatCurrency

/-- `set_analytics_config` succeeds in the db or sets the config that is in memory. -/
def NoLostConfig (s : ConfiguredWallet) : ConfigAction → Prop
  | .setAnalyticsConfig env config => env.faults .insertAnalyticsConfig = true →
      ∀ memory, s.memory = some memory → memory.config = config
  | _ => True

end ConfiguredWallet

/-! ## The db under the setters and a start -/

/-- The analytics config of the db. -/
def configOf (db : Db) : Option AnalyticsConfig :=
  db.analyticsConfig.getLast?.bind AnalyticsConfig.tryFrom

/-- The fiat currency of the db. -/
def fiatCurrencyOf (db : Db) : Option String := db.fiatCurrency.getLast?

@[simp] theorem tryFrom_toU8 (config : AnalyticsConfig) :
    AnalyticsConfig.tryFrom config.toU8 = some config := by
  cases config <;> rfl

theorem retrieveAnalyticsConfig_eq_ok {dataStore : DataStore} {env : Env}
    {config : AnalyticsConfig} :
    dataStore.retrieveAnalyticsConfig env = .ok config
      ↔ env.faults .selectAnalyticsConfig = false ∧ configOf dataStore.conn = some config := by
  unfold DataStore.retrieveAnalyticsConfig configOf
  simp only [bind_eq_ok, DataStore.execute_eq_ok]
  constructor
  · rintro ⟨_, hfault, hread⟩
    refine ⟨hfault, ?_⟩
    split at hread
    · next hlast => rw [hlast, Except.ok.inj hread]
    · cases hread
  · rintro ⟨hfault, hlast⟩
    exact ⟨(), hfault, by rw [hlast]⟩

theorem retrieveLastSetFiatCurrency_eq_ok {dataStore : DataStore} {env : Env}
    {fiatCurrency : Option String} :
    dataStore.retrieveLastSetFiatCurrency env = .ok fiatCurrency
      ↔ env.faults .selectFiatCurrency = false
        ∧ fiatCurrencyOf dataStore.conn = fiatCurrency := by
  unfold DataStore.retrieveLastSetFiatCurrency fiatCurrencyOf
  simp only [bind_eq_ok, DataStore.execute_eq_ok, Except.ok.injEq]
  exact ⟨fun ⟨_, h⟩ => h, fun h => ⟨(), h⟩⟩

/-- Storing a config fails without effect or makes it the config of the db. -/
theorem appendAnalyticsConfig_cases (dataStore : DataStore) (env : Env)
    (config : AnalyticsConfig) :
    (env.faults .insertAnalyticsConfig = true
      ∧ succeeded (dataStore.appendAnalyticsConfig env config).1 = false
      ∧ (dataStore.appendAnalyticsConfig env config).2.conn = dataStore.conn)
    ∨ (env.faults .insertAnalyticsConfig = false
      ∧ succeeded (dataStore.appendAnalyticsConfig env config).1 = true
      ∧ configOf (dataStore.appendAnalyticsConfig env config).2.conn = some config
      ∧ fiatCurrencyOf (dataStore.appendAnalyticsConfig env config).2.conn
        = fiatCurrencyOf dataStore.conn) := by
  unfold DataStore.appendAnalyticsConfig execute
  cases env.faults .insertAnalyticsConfig with
  | true => exact Or.inl ⟨rfl, rfl, rfl⟩
  | false =>
      refine Or.inr ⟨rfl, rfl, ?_, rfl⟩
      simp [DataStore.waitThen, configOf, bind, Except.bind]

/-- Storing a fiat currency fails without effect or makes it the one of the db. -/
theorem storeSelectedFiatCurrency_cases (dataStore : DataStore) (env : Env)
    (fiatCurrency : String) :
    (∃ e, (dataStore.storeSelectedFiatCurrency env fiatCurrency).1 = .error e
      ∧ (dataStore.storeSelectedFiatCurrency env fiatCurrency).2.conn = dataStore.conn)
    ∨ ((dataStore.storeSelectedFiatCurrency env fiatCurrency).1 = .ok ()
      ∧ fiatCurrencyOf (dataStore.storeSelectedFiatCurrency env fiatCurrency).2.conn
        = some fiatCurrency
      ∧ configOf (dataStore.storeSelectedFiatCurrency env fiatCurrency).2.conn
        = configOf dataStore.conn) := by
  unfold DataStore.storeSelectedFiatCurrency execute
  cases env.faults .insertFiatCurrency with
  | true => exact Or.inl ⟨_, rfl, rfl⟩
  | false =>
      refine Or.inr ⟨rfl, ?_, rfl⟩
      simp [DataStore.waitThen, fiatCurrencyOf, bind, Except.bind]

/-- The start of a node keeps the config, and the fiat currency it starts with is the one of
the db. -/
theorem initialFiatCurrency_spec (dataStore : DataStore) (env : StartEnv) :
    configOf (initialFiatCurrency dataStore env).2.conn = configOf dataStore.conn
      ∧ ∀ fiatCurrency, (initialFiatCurrency dataStore env).1 = .ok fiatCurrency →
        fiatCurrencyOf (initialFiatCurrency dataStore env).2.conn = some fiatCurrency := by
  unfold initialFiatCurrency
  cases hread : dataStore.retrieveLastSetFiatCurrency env.selectFiatCurrency with
  | error e => exact ⟨rfl, fun _ h => nomatch h⟩
  | ok stored =>
      cases stored with
      | some c =>
          refine ⟨rfl, ?_⟩
          rintro fiatCurrency ⟨⟩
          exact (retrieveLastSetFiatCurrency_eq_ok.mp hread).2
      | none =>
          dsimp only
          rcases storeSelectedFiatCurrency_cases dataStore env.insertFiatCurrency
            env.defaultFiatCurrency with ⟨e, hresult, hconn⟩ | ⟨hresult, hfiat, hconfig⟩
          -- the default cannot be stored, and the start fails
          · generalize dataStore.storeSelectedFiatCurrency env.insertFiatCurrency
              env.defaultFiatCurrency = answer at hresult hconn
            obtain ⟨result, after⟩ := answer
            dsimp only at hresult hconn
            subst hresult
            exact ⟨congrArg configOf hconn, fun _ h => nomatch h⟩
          · generalize dataStore.storeSelectedFiatCurrency env.insertFiatCurrency
              env.defaultFiatCurrency = answer at hresult hfiat hconfig
            obtain ⟨result, after⟩ := answer
            dsimp only at hresult hfiat hconfig
            subst hresult
            refine ⟨hconfig, ?_⟩
            rintro fiatCurrency ⟨⟩
            exact hfiat

/-- A node that is started has the preferences of the db in memory. -/
theorem startNode_spec (db : Db) (backupFile : Option Db) (env : StartEnv) :
    configOf (startNode db backupFile env).2.conn = configOf db
      ∧ ∀ memory, (startNode db backupFile env).1 = .ok memory →
        configOf (startNode db backupFile env).2.conn = some memory.config
        ∧ fiatCurrencyOf (startNode db backupFile env).2.conn = some memory.fiatCurrency := by
  unfold startNode
  cases env.openDataStore with
  | error e => exact ⟨rfl, fun _ h => nomatch h⟩
  | ok u =>
      have hspec := initialFiatCurrency_spec (.new db backupFile) env
      dsimp only
      generalize initialFiatCurrency (.new db backupFile) env = answer at hspec
      obtain ⟨result, dataStore⟩ := answer
      cases result with
      | error e => exact ⟨hspec.1, fun _ h => nomatch h⟩
      | ok fiatCurrency =>
          refine ⟨hspec.1, fun memory h => ?_⟩
          obtain ⟨config, hconfig, h⟩ := bind_eq_ok.mp h
          obtain ⟨_, -, h⟩ := bind_eq_ok.mp h
          obtain rfl := Except.ok.inj h
          exact ⟨(retrieveAnalyticsConfig_eq_ok.mp hconfig).2, hspec.2 fiatCurrency rfl⟩

/-! ## One step -/

namespace ConfiguredWallet

/-- The db has the config that was set last. -/
def ConfigStored (s : ConfiguredWallet) : Prop :=
  configOf s.dataStore.conn = some s.lastSet

theorem preferencesAgree_iff_db {s : ConfiguredWallet} :
    s.PreferencesAgree ↔ ∀ memory, s.memory = some memory →
      configOf s.dataStore.conn = some memory.config
        ∧ fiatCurrencyOf s.dataStore.conn = some memory.fiatCurrency := by
  refine forall_congr' fun memory => imp_congr_right fun _ => ?_
  unfold dbConfig dbFiatCurrency Config.getAnalyticsConfig
  rw [retrieveAnalyticsConfig_eq_ok, retrieveLastSetFiatCurrency_eq_ok]
  simp [reading]

theorem dbConfig_congr {s s' : ConfiguredWallet}
    (h : s.dataStore.conn = s'.dataStore.conn) : s.dbConfig = s'.dbConfig := by
  unfold dbConfig Config.getAnalyticsConfig DataStore.retrieveAnalyticsConfig
  rw [h]

theorem dbFiatCurrency_congr {s s' : ConfiguredWallet}
    (h : s.dataStore.conn = s'.dataStore.conn) : s.dbFiatCurrency = s'.dbFiatCurrency := by
  unfold dbFiatCurrency DataStore.retrieveLastSetFiatCurrency
  rw [h]

/-- What `set_analytics_config` does on a node. -/
theorem step_setAnalyticsConfig {s : ConfiguredWallet} {memory : AnalyticsInterceptor}
    (hmemory : s.memory = some memory) (env : Env) (config : AnalyticsConfig) :
    (s.step (.setAnalyticsConfig env config)).memory = some { memory with config := config }
      ∧ ((env.faults .insertAnalyticsConfig = true
          ∧ (s.step (.setAnalyticsConfig env config)).dataStore.conn = s.dataStore.conn
          ∧ (s.step (.setAnalyticsConfig env config)).lastSet = s.lastSet)
        ∨ (env.faults .insertAnalyticsConfig = false
          ∧ s.result (.setAnalyticsConfig env config) = some (.ok ())
          ∧ configOf (s.step (.setAnalyticsConfig env config)).dataStore.conn = some config
          ∧ fiatCurrencyOf (s.step (.setAnalyticsConfig env config)).dataStore.conn
            = fiatCurrencyOf s.dataStore.conn
          ∧ (s.step (.setAnalyticsConfig env config)).lastSet = config)) := by
  obtain ⟨dataStore, _, lastSet⟩ := s
  subst hmemory
  refine ⟨rfl, ?_⟩
  rcases appendAnalyticsConfig_cases dataStore env config with
    ⟨hfault, hresult, hconn⟩ | ⟨hfault, hresult, hconfig, hfiat⟩
  · refine Or.inl ⟨hfault, hconn, ?_⟩
    simp only [step, Config.setAnalyticsConfig, hresult]
    rfl
  · obtain ⟨u, hok⟩ := (succeeded_iff _).mp hresult
    refine Or.inr ⟨hfault, congrArg some hok, hconfig, hfiat, ?_⟩
    simp only [step, Config.setAnalyticsConfig, hresult]
    rfl

/-- What `set_fiat_currency` does on a node. -/
theorem step_setFiatCurrency {s : ConfiguredWallet} {memory : AnalyticsInterceptor}
    (hmemory : s.memory = some memory) (env : Env) (fiatCurrency : String) :
    (s.step (.setFiatCurrency env fiatCurrency)).lastSet = s.lastSet
      ∧ (((s.step (.setFiatCurrency env fiatCurrency)).memory = s.memory
          ∧ (s.step (.setFiatCurrency env fiatCurrency)).dataStore.conn = s.dataStore.conn)
        ∨ (s.result (.setFiatCurrency env fiatCurrency) = some (.ok ())
          ∧ (s.step (.setFiatCurrency env fiatCurrency)).memory
            = some { memory with fiatCurrency := fiatCurrency }
          ∧ fiatCurrencyOf (s.step (.setFiatCurrency env fiatCurrency)).dataStore.conn
            = some fiatCurrency
          ∧ configOf (s.step (.setFiatCurrency env fiatCurrency)).dataStore.conn
            = configOf s.dataStore.conn)) := by
  obtain ⟨dataStore, _, lastSet⟩ := s
  subst hmemory
  refine ⟨rfl, ?_⟩
  simp only [step, result, Config.setFiatCurrency]
  rcases storeSelectedFiatCurrency_cases dataStore env fiatCurrency with
    ⟨e, hresult, hconn⟩ | ⟨hresult, hfiat, hconfig⟩
  · generalize dataStore.storeSelectedFiatCurrency env fiatCurrency = answer at hresult hconn
    obtain ⟨result, after⟩ := answer
    dsimp only at hresult hconn
    subst hresult
    exact Or.inl ⟨rfl, hconn⟩
  · generalize dataStore.storeSelectedFiatCurrency env fiatCurrency = answer
      at hresult hfiat hconfig
    obtain ⟨result, after⟩ := answer
    dsimp only at hresult hfiat hconfig
    subst hresult
    exact Or.inr ⟨rfl, rfl, hfiat, hconfig⟩

/-- Without a node only a start changes anything. -/
theorem step_of_no_memory {s : ConfiguredWallet} (hmemory : s.memory = none) {a : ConfigAction}
    (ha : a.isRestart = false) : s.step a = s := by
  obtain ⟨dataStore, _, lastSet⟩ := s
  subst hmemory
  cases a with
  | restart env => cases ha
  | _ => rfl

theorem step_intercept (s : ConfiguredWallet) (now : SystemTime) (i : Interception) :
    s.step (.intercept now i) = s := by
  obtain ⟨dataStore, memory, lastSet⟩ := s
  cases memory <;> rfl

theorem step_configStored (s : ConfiguredWallet) (a : ConfigAction) (h : s.ConfigStored) :
    (s.step a).ConfigStored := by
  cases a with
  | restart env =>
      exact (startNode_spec s.dataStore.conn s.dataStore.backupConn env).1.trans h
  | intercept now i =>
      rw [step_intercept]
      exact h
  | setAnalyticsConfig env config =>
      cases hmemory : s.memory with
      | none =>
          rw [step_of_no_memory hmemory rfl]
          exact h
      | some memory =>
          unfold ConfigStored at h ⊢
          rcases (step_setAnalyticsConfig hmemory env config).2 with
            ⟨-, hconn, hlast⟩ | ⟨-, -, hconfig, -, hlast⟩
          · rw [hconn, hlast, h]
          · rw [hconfig, hlast]
  | setFiatCurrency env fiatCurrency =>
      cases hmemory : s.memory with
      | none =>
          rw [step_of_no_memory hmemory rfl]
          exact h
      | some memory =>
          unfold ConfigStored at h ⊢
          obtain ⟨hlast, ⟨-, hconn⟩ | ⟨-, -, -, hconfig⟩⟩ :=
            step_setFiatCurrency hmemory env fiatCurrency
          · rw [hconn, hlast, h]
          · rw [hconfig, hlast, h]

/-- One step keeps the two copies equal exactly if it is no failing `set_analytics_config` with
another config. -/
theorem step_preferencesAgree (s : ConfiguredWallet) (a : ConfigAction)
    (h : s.PreferencesAgree) : (s.step a).PreferencesAgree ↔ s.NoLostConfig a := by
  rw [preferencesAgree_iff_db] at h ⊢
  cases a with
  | restart env =>
      refine ⟨fun _ => trivial, fun _ memory hmemory => ?_⟩
      refine (startNode_spec s.dataStore.conn s.dataStore.backupConn env).2 memory ?_
      change keepMemory (startNode s.dataStore.conn s.dataStore.backupConn env).1 = some memory
        at hmemory
      unfold keepMemory at hmemory
      split at hmemory
      · next hstart => rw [hstart, Option.some.inj hmemory]
      · cases hmemory
  | intercept now i =>
      rw [step_intercept]
      exact ⟨fun _ => trivial, fun _ => h⟩
  | setAnalyticsConfig env config =>
      cases hmemory : s.memory with
      | none =>
          rw [step_of_no_memory hmemory rfl]
          refine ⟨fun _ _ memory hm => ?_, fun _ => h⟩
          rw [hmemory] at hm
          cases hm
      | some memory =>
          obtain ⟨hconfig, hfiat⟩ := h memory hmemory
          obtain ⟨hafter, ⟨hfault, hconn, -⟩ | ⟨hfault, -, hstored, hkept, -⟩⟩ :=
            step_setAnalyticsConfig hmemory env config
          -- the db fails: the copies agree again only if memory had the config already
          · rw [hafter, hconn]
            constructor
            · rintro hagree - memory' hmemory'
              obtain rfl : memory = memory' := Option.some.inj (hmemory.symm.trans hmemory')
              have hnew := (hagree _ rfl).1
              rw [hconfig] at hnew
              exact Option.some.inj hnew
            · rintro hlost memory' ⟨⟩
              obtain rfl := hlost hfault memory hmemory
              exact ⟨hconfig, hfiat⟩
          -- the db succeeds: both have the new config
          · rw [hafter]
            refine ⟨fun _ hf => absurd (hfault.symm.trans hf) (by decide), ?_⟩
            rintro - memory' ⟨⟩
            exact ⟨hstored, hkept.trans hfiat⟩
  | setFiatCurrency env fiatCurrency =>
      refine ⟨fun _ => trivial, fun _ => ?_⟩
      cases hmemory : s.memory with
      | none =>
          rw [step_of_no_memory hmemory rfl]
          exact h
      | some memory =>
          obtain ⟨hconfig, hfiat⟩ := h memory hmemory
          obtain ⟨-, ⟨hafter, hconn⟩ | ⟨-, hafter, hstored, hkept⟩⟩ :=
            step_setFiatCurrency hmemory env fiatCurrency
          · rw [hafter, hconn]
            exact h
          · rw [hafter]
            rintro memory' ⟨⟩
            exact ⟨hkept.trans hconfig, hstored⟩

/-- While the copies agree, an event is only reported if the last config that was set is
`Enabled`. -/
theorem reportsIfEnabled_of_agree {s : ConfiguredWallet} (hs : s.ConfigStored)
    (h : s.PreferencesAgree) (a : ConfigAction) : s.ReportsIfEnabled a := by
  intro hreported
  by_contra hlast
  have hdisabled : s.lastSet = .disabled := by
    cases hset : s.lastSet with
    | enabled => exact absurd hset hlast
    | disabled => rfl
  unfold reported at hreported
  split at hreported
  · next now i memory hmemory =>
    have hconfig := (preferencesAgree_iff_db.mp h memory hmemory).1
    -- the db has `Disabled`, and the memory is the same
    have hmem : memory.config = .disabled := by
      rw [hs, hdisabled] at hconfig
      exact (Option.some.inj hconfig).symm
    rw [report_of_disabled now hmem i] at hreported
    cases hreported
  · cases hreported

/-- A call that fails where the condition holds changes nothing. -/
theorem failureChangesNothing_of_noLostConfig {s : ConfiguredWallet} {a : ConfigAction}
    (h : s.NoLostConfig a) : s.FailureChangesNothing a := by
  intro e hresult
  cases a with
  | restart => cases hresult
  | intercept => cases hresult
  | setAnalyticsConfig env config =>
      cases hmemory : s.memory with
      | none =>
          rw [step_of_no_memory hmemory rfl, hmemory]
          exact ⟨rfl, rfl, rfl⟩
      | some memory =>
          obtain ⟨hafter, ⟨hfault, hconn, -⟩ | ⟨-, hok, -⟩⟩ :=
            step_setAnalyticsConfig hmemory env config
          · obtain rfl := h hfault memory hmemory
            exact ⟨hafter, dbConfig_congr hconn, dbFiatCurrency_congr hconn⟩
          · rw [hok] at hresult
            cases hresult
  | setFiatCurrency env fiatCurrency =>
      cases hmemory : s.memory with
      | none =>
          rw [step_of_no_memory hmemory rfl, hmemory]
          exact ⟨rfl, rfl, rfl⟩
      | some memory =>
          obtain ⟨-, ⟨hafter, hconn⟩ | ⟨hok, -⟩⟩ := step_setFiatCurrency hmemory env fiatCurrency
          · rw [← hmemory]
            exact ⟨hafter, dbConfig_congr hconn, dbFiatCurrency_congr hconn⟩
          · rw [hok] at hresult
            cases hresult

/-- **When memory and db agree.** Along a run from a new wallet the memory of the node has the
preferences of the db, analytics events are only reported if the last config that was set is
`Enabled`, and a setter that fails changes nothing, exactly if `set_analytics_config` only fails
when it sets the config that is in memory already. -/
theorem preferencesAgree_iff (backupFile : Option Db) (as : List ConfigAction) :
    Runs.Throughout step PreferencesAgree (start backupFile) as
        ∧ Runs.AllSteps step ReportsIfEnabled (start backupFile) as
        ∧ Runs.AllSteps step FailureChangesNothing (start backupFile) as
      ↔ Runs.AllSteps step NoLostConfig (start backupFile) as := by
  have hstored : (start backupFile).ConfigStored := rfl
  have hagree : (start backupFile).PreferencesAgree := fun memory hmemory => nomatch hmemory
  have hiff := Runs.throughout_iff_allSteps step step_configStored
    (fun s a _ => step_preferencesAgree s a) as (start backupFile) hstored hagree
  rw [hiff]
  refine ⟨fun h => h.1, fun h => ⟨h, ?_, ?_⟩⟩
  · have hsteps := Runs.Throughout.steps step step_configStored as _ hstored (hiff.mpr h)
    exact Runs.AllSteps.imp step (fun s a hs => reportsIfEnabled_of_agree hs.1 hs.2.1 a) as _ hsteps
  · exact Runs.AllSteps.imp step (fun s a => failureChangesNothing_of_noLostConfig) as _ h

/-- After a failed attempt to enable analytics again, events are reported although they were
disabled. -/
theorem failed_enable_reports :
    ¬ ∀ (backupFile : Option Db) (as : List ConfigAction),
      Runs.Throughout step PreferencesAgree (start backupFile) as
        ∧ Runs.AllSteps step ReportsIfEnabled (start backupFile) as
        ∧ Runs.AllSteps step FailureChangesNothing (start backupFile) as := by
  intro h
  let locked : Env := ⟨0, fun _ => true⟩
  let started : ConfigAction := .restart ⟨"CHF", .ok (), reading, reading, reading, .ok ()⟩
  let disable : ConfigAction := .setAnalyticsConfig reading .disabled
  let enable : ConfigAction := .setAnalyticsConfig locked .enabled
  let paid : ConfigAction :=
    .intercept 0 (.request ⟨⟨"lnbc1", "02aa", "f0", none, none, 0, 3600⟩, none⟩ none ⟨"sat"⟩)
  have hreports := (h none [started, disable, enable, paid]).2.1.2.2.2.1
  have hreported :
      ((Runs.run step (start none) [started, disable, enable]).reported paid).isSome := by
    decide +kernel
  exact absurd (hreports hreported) (by decide +kernel)

end ConfiguredWallet

end LipaLightning
