import LipaLightning.Basic.Runs
import LipaLightning.DataStore.Store

set_option autoImplicit false

/-! # The backup status

`Operation` lists the operations that write to the db, each with its arguments. All but two
of them set the status to `WaitingForBackup` whenever they change the db. The two fiat topup
operations never touch the status, so a change they make while the status is `Complete` is
not backed up. `scheduled_iff` says exactly when an operation schedules the backup of what
it changes, and `backedUp_iff` what this means for a run: the status `Complete` stands for a
backup of the current content exactly if no step of the run is such a missed change.
-/

namespace LipaLightning

/-- An operation that writes to the db, with its arguments. -/
inductive Operation where
  | storePaymentInfo (paymentHash : String) (userPreferences : UserPreferences)
      (exchangeRates : List ExchangeRate) (offer : Option Offer)
      (receivedOn receivedLnurlComment : Option String)
  | storeCreatedInvoice (hash invoice : String) (channelOpeningFees : Option UInt64)
      (invoiceExpiryTimestamp : UInt64)
  | updatePersonalNote (paymentHash : String) (personalNote : Option String)
  | updateExchangeRate (currencyCode : String) (rate : UInt32) (updatedAt : SystemTime)
  | storeFiatTopupInfo (fiatTopupInfo : FiatTopupSetupInfo)
  | clearFiatTopupInfo
  | appendAnalyticsConfig (status : AnalyticsConfig)
  | storeLightningAddress (lightningAddress : String)
  | updateLightningAddress (lightningAddress : String) (enableStatus : EnableStatus)
  | storeHiddenChannelCloseOnchainFundsAmountSat (amountSat : UInt64)
  | storeHiddenUnresolvedFailedSwap (swapAddress : String)
  | storeSelectedFiatCurrency (fiatCurrency : String)
  deriving DecidableEq, Repr

namespace Operation

/-- The call of the operation. -/
def call (env : Env) (self : DataStore) : Operation → Result Unit × DataStore
  | .storePaymentInfo hash prefs rates offer receivedOn comment =>
      self.storePaymentInfo env hash prefs rates offer receivedOn comment
  | .storeCreatedInvoice hash invoice fees expiry =>
      self.storeCreatedInvoice env hash invoice fees expiry
  | .updatePersonalNote hash note => self.updatePersonalNote env hash note
  | .updateExchangeRate code rate updatedAt => self.updateExchangeRate env code rate updatedAt
  | .storeFiatTopupInfo info => self.storeFiatTopupInfo env info
  | .clearFiatTopupInfo => self.clearFiatTopupInfo env
  | .appendAnalyticsConfig status => self.appendAnalyticsConfig env status
  | .storeLightningAddress address => self.storeLightningAddress env address
  | .updateLightningAddress address status => self.updateLightningAddress env address status
  | .storeHiddenChannelCloseOnchainFundsAmountSat amount =>
      self.storeHiddenChannelCloseOnchainFundsAmountSat env amount
  | .storeHiddenUnresolvedFailedSwap address => self.storeHiddenUnresolvedFailedSwap env address
  | .storeSelectedFiatCurrency currency => self.storeSelectedFiatCurrency env currency

/-- The data store after the call. -/
def after (env : Env) (self : DataStore) (op : Operation) : DataStore := (op.call env self).2

/-- The operations that set the status to `WaitingForBackup`. -/
def setsWaitingForBackup : Operation → Bool
  | .storeFiatTopupInfo _ => false
  | .clearFiatTopupInfo => false
  | _ => true

end Operation

namespace DataStore

/-- An operation that sets the status once its statement has succeeded either does both or
leaves the data store as it is. -/
theorem storeLightningAddress_cases (self : DataStore) (env : Env) (address : String) :
    (self.storeLightningAddress env address).2 = self
      ∨ (self.storeLightningAddress env address).2.backupStatus = .waitingForBackup := by
  unfold storeLightningAddress
  split
  · exact Or.inl rfl
  · exact Or.inr rfl

theorem updateLightningAddress_cases (self : DataStore) (env : Env) (address : String)
    (status : EnableStatus) :
    (self.updateLightningAddress env address status).2 = self
      ∨ (self.updateLightningAddress env address status).2.backupStatus = .waitingForBackup := by
  unfold updateLightningAddress
  split
  · exact Or.inl rfl
  · exact Or.inr rfl

theorem storeFiatTopupInfo_backupStatus (self : DataStore) (env : Env)
    (info : FiatTopupSetupInfo) :
    (self.storeFiatTopupInfo env info).2.backupStatus = self.backupStatus := by
  unfold storeFiatTopupInfo
  dsimp only
  split <;> rfl

theorem clearFiatTopupInfo_backupStatus (self : DataStore) (env : Env) :
    (self.clearFiatTopupInfo env).2.backupStatus = self.backupStatus := by
  unfold clearFiatTopupInfo
  split <;> rfl

/-- Storing fiat topup info changes the db exactly if the statement succeeds: it does not
fail by itself and the order is new. -/
theorem storeFiatTopupInfo_changes (self : DataStore) (env : Env) (info : FiatTopupSetupInfo) :
    (self.storeFiatTopupInfo env info).2.conn ≠ self.conn
      ↔ env.faults .insertFiatTopupInfo = false
        ∧ self.conn.fiatTopupInfo.lookup info.orderId = none := by
  unfold storeFiatTopupInfo execute
  by_cases hfault : env.faults .insertFiatTopupInfo
  · simp [hfault]
  · simp only [hfault, Bool.false_eq_true, if_false, true_and]
    cases hins : self.conn.fiatTopupInfo.insert ⟨env.now, info⟩ with
    | none =>
        have hmem := KeyedTable.insert_eq_none.mp hins
        simp only [ne_eq, not_true_eq_false, false_iff]
        exact fun h => KeyedTable.lookup_eq_none.mp h hmem
    | some table =>
        obtain ⟨hlook, hrows⟩ := KeyedTable.insert_eq_some hins
        simp only [ne_eq]
        refine ⟨fun _ => hlook, fun _ heq => ?_⟩
        have htable : table = self.conn.fiatTopupInfo := congrArg Db.fiatTopupInfo heq
        have hlen := congrArg List.length hrows
        rw [htable] at hlen
        simp at hlen

/-- Clearing the fiat topup info changes the db exactly if the statement succeeds and there
is something to clear. -/
theorem clearFiatTopupInfo_changes (self : DataStore) (env : Env) :
    (self.clearFiatTopupInfo env).2.conn ≠ self.conn
      ↔ env.faults .deleteFiatTopupInfo = false ∧ self.conn.fiatTopupInfo.rows ≠ [] := by
  unfold clearFiatTopupInfo execute
  by_cases hfault : env.faults .deleteFiatTopupInfo
  · simp [hfault]
  · simp only [hfault, Bool.false_eq_true, if_false, true_and, ne_eq]
    rw [not_iff_not]
    constructor
    · intro heq
      have hrows := congrArg (fun db : Db => db.fiatTopupInfo.rows) heq
      exact hrows.symm
    · intro hrows
      apply Db.ext <;> try rfl
      exact KeyedTable.ext hrows.symm

end DataStore

/-! ## One operation -/

/-- An operation that sets the status leaves the data store as it is or waits for the
backup. -/
theorem after_of_setsWaitingForBackup (env : Env) (self : DataStore) {op : Operation}
    (hop : op.setsWaitingForBackup = true) :
    op.after env self = self ∨ (op.after env self).backupStatus = .waitingForBackup := by
  cases op with
  | storeFiatTopupInfo info => cases hop
  | clearFiatTopupInfo => cases hop
  | storeLightningAddress address => exact self.storeLightningAddress_cases env address
  | updateLightningAddress address status =>
      exact self.updateLightningAddress_cases env address status
  | _ =>
      refine Or.inr ?_
      simp only [Operation.after, Operation.call, DataStore.storePaymentInfo,
        DataStore.storeCreatedInvoice, DataStore.updatePersonalNote,
        DataStore.updateExchangeRate, DataStore.appendAnalyticsConfig,
        DataStore.storeHiddenChannelCloseOnchainFundsAmountSat,
        DataStore.storeHiddenUnresolvedFailedSwap, DataStore.storeSelectedFiatCurrency,
        DataStore.waitThen_backupStatus]

/-- The operation is a fiat topup operation that succeeds in changing the table while
nothing waits for a backup. -/
def MissesBackup (env : Env) (self : DataStore) (op : Operation) : Prop :=
  self.backupStatus = .complete ∧
    match op with
    | .storeFiatTopupInfo info =>
        env.faults .insertFiatTopupInfo = false
          ∧ self.conn.fiatTopupInfo.lookup info.orderId = none
    | .clearFiatTopupInfo =>
        env.faults .deleteFiatTopupInfo = false ∧ self.conn.fiatTopupInfo.rows ≠ []
    | _ => False

/-- After the operation a backup is scheduled, if it changed the db. -/
def Scheduled (env : Env) (self : DataStore) (op : Operation) : Prop :=
  (op.after env self).conn ≠ self.conn → (op.after env self).backupStatus = .waitingForBackup

theorem status_ne_complete {s : BackupStatus} : s ≠ .complete ↔ s = .waitingForBackup := by
  cases s <;> simp

/-- An operation that leaves the status alone schedules a backup exactly if it changes
nothing or a backup is scheduled already. -/
theorem scheduled_of_status_eq {env : Env} {self : DataStore} {op : Operation}
    (hstatus : (op.after env self).backupStatus = self.backupStatus) :
    Scheduled env self op
      ↔ ¬ (self.backupStatus = .complete ∧ (op.after env self).conn ≠ self.conn) := by
  rw [Scheduled, hstatus, ← status_ne_complete, not_and']

theorem scheduled_iff (env : Env) (self : DataStore) (op : Operation) :
    Scheduled env self op ↔ ¬ MissesBackup env self op := by
  by_cases hop : op.setsWaitingForBackup = true
  · have hmiss : ¬ MissesBackup env self op := by
      rintro ⟨-, hmiss⟩
      cases op with
      | storeFiatTopupInfo info => cases hop
      | clearFiatTopupInfo => cases hop
      | _ => exact hmiss
    refine ⟨fun _ => hmiss, fun _ hne => ?_⟩
    rcases after_of_setsWaitingForBackup env self hop with h | h
    · exact absurd (congrArg DataStore.conn h) hne
    · exact h
  · cases op with
    | storeFiatTopupInfo info =>
        have hstatus : (Operation.after env self (.storeFiatTopupInfo info)).backupStatus
            = self.backupStatus := self.storeFiatTopupInfo_backupStatus env info
        rw [scheduled_of_status_eq hstatus]
        exact not_congr (and_congr_right fun _ => self.storeFiatTopupInfo_changes env info)
    | clearFiatTopupInfo =>
        have hstatus : (Operation.after env self .clearFiatTopupInfo).backupStatus
            = self.backupStatus := self.clearFiatTopupInfo_backupStatus env
        rw [scheduled_of_status_eq hstatus]
        exact not_congr (and_congr_right fun _ => self.clearFiatTopupInfo_changes env)
    | _ => exact absurd rfl hop

/-- A waiting backup is not forgotten by any operation. -/
theorem after_waiting (env : Env) (self : DataStore) (op : Operation)
    (h : self.backupStatus = .waitingForBackup) :
    (op.after env self).backupStatus = .waitingForBackup := by
  by_cases hop : op.setsWaitingForBackup = true
  · rcases after_of_setsWaitingForBackup env self hop with heq | heq
    · rw [heq, h]
    · exact heq
  · cases op with
    | storeFiatTopupInfo info =>
        exact (self.storeFiatTopupInfo_backupStatus env info).trans h
    | clearFiatTopupInfo => exact (self.clearFiatTopupInfo_backupStatus env).trans h
    | _ => exact absurd rfl hop

/-! ## Runs with an undisturbed backup task -/

/-- A data store together with the content that was last backed up. -/
structure BackedStore where
  dataStore : DataStore
  lastBackup : Option Db

/-- An operation, or a whole round of the backup task with no operation in between. -/
inductive StoreAction where
  | operation (op : Operation) (env : Env)
  | backUp

namespace BackedStore

def step (s : BackedStore) : StoreAction → BackedStore
  | .operation op env => { s with dataStore := op.after env s.dataStore }
  | .backUp =>
      match s.dataStore.backupStatus with
      | .complete => s
      | .waitingForBackup =>
          { dataStore := { s.dataStore with backupStatus := .complete }
            lastBackup := some s.dataStore.conn }

/-- The status `Complete` stands for a backup of the current content. -/
def BackedUp (s : BackedStore) : Prop :=
  s.dataStore.backupStatus = .complete → s.lastBackup = some s.dataStore.conn

/-- The step is not a change that misses its backup. -/
def NoMiss (s : BackedStore) : StoreAction → Prop
  | .operation op env => ¬ MissesBackup env s.dataStore op
  | .backUp => True

theorem step_backedUp (s : BackedStore) (a : StoreAction) (h : s.BackedUp) :
    (s.step a).BackedUp ↔ s.NoMiss a := by
  cases a with
  | backUp =>
      refine ⟨fun _ => trivial, fun _ => ?_⟩
      cases hs : s.dataStore.backupStatus with
      | complete =>
          have hstep : s.step .backUp = s := by simp [step, hs]
          rw [hstep]
          exact h
      | waitingForBackup =>
          intro _
          simp [step, hs]
  | operation op env =>
      rw [NoMiss, ← scheduled_iff]
      constructor
      · intro hb hne
        by_contra hnw
        -- otherwise the status is `Complete` before and after, without a backup of the change
        have hcomplete : (op.after env s.dataStore).backupStatus = .complete := by
          by_contra hc
          exact hnw (status_ne_complete.mp hc)
        have hbefore : s.dataStore.backupStatus = .complete := by
          by_contra hc
          exact hnw (after_waiting env _ op (status_ne_complete.mp hc))
        have hnow : s.lastBackup = some (op.after env s.dataStore).conn := hb hcomplete
        rw [h hbefore] at hnow
        exact hne (Option.some.inj hnow).symm
      · intro hsch hcomplete
        show s.lastBackup = some (op.after env s.dataStore).conn
        have hbefore : s.dataStore.backupStatus = .complete := by
          by_contra hc
          have hw := after_waiting env _ op (status_ne_complete.mp hc)
          exact absurd (hw.symm.trans hcomplete) (by decide)
        have hsame : (op.after env s.dataStore).conn = s.dataStore.conn := by
          by_contra hne
          exact absurd ((hsch hne).symm.trans hcomplete) (by decide)
        rw [hsame]
        exact h hbefore

end BackedStore

/-- **When a change is scheduled for backup.** An operation schedules the backup of what it
changes exactly if it is not a fiat topup operation that changes its table while the status
is `Complete`. In a run from a new data store in which only the backup task sets `Complete`,
the status `Complete` means that the last backup has the current content exactly if no step
of the run is such a change. -/
theorem backedUp_iff (env : Env) (self : DataStore) (op : Operation) (db : Db)
    (file lastBackup : Option Db) (as : List StoreAction) :
    (Scheduled env self op ↔ ¬ MissesBackup env self op) ∧
    (Runs.Throughout BackedStore.step BackedStore.BackedUp ⟨.new db file, lastBackup⟩ as
      ↔ Runs.AllSteps BackedStore.step BackedStore.NoMiss ⟨.new db file, lastBackup⟩ as) := by
  refine ⟨scheduled_iff env self op, ?_⟩
  refine Runs.throughout_iff_allSteps BackedStore.step (I := fun _ => True)
    (fun _ _ _ => trivial) (fun s a _ => s.step_backedUp a) as _ trivial ?_
  intro h
  cases h

/-- After one round of the backup task on a fresh db, storing fiat topup info leaves the
status at `Complete`. -/
theorem storeFiatTopupInfo_not_scheduled :
    (¬ ∀ (as : List StoreAction) (env : Env) (op : Operation),
      Scheduled env (Runs.run BackedStore.step ⟨.new .migrated none, none⟩ as).dataStore op) ∧
    (¬ ∀ as : List StoreAction,
      (Runs.run BackedStore.step ⟨.new .migrated none, none⟩ as).BackedUp) := by
  let env : Env := ⟨0, fun _ => false⟩
  let info : FiatTopupSetupInfo :=
    ⟨"order", "", "", "", "", "", "", "", "", "", "", "", "", "", "", "EUR"⟩
  constructor
  · intro h
    exact (scheduled_iff _ _ _).mp (h [.backUp] env (.storeFiatTopupInfo info)) ⟨rfl, rfl, rfl⟩
  · intro h
    have hlast := h [.backUp, .operation (.storeFiatTopupInfo info) env] rfl
    have hrows := congrArg (fun db : Db => db.fiatTopupInfo.rows) (Option.some.inj hlast)
    cases hrows

end LipaLightning
