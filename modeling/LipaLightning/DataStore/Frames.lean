import LipaLightning.PaymentMetadata

set_option autoImplicit false

/-! # What a call leaves alone

Each operation of the data store writes to tables of its own. `step_frame` says which, once for
all operations, so that a property of some tables is only to be checked for those that write to
them.
-/

namespace LipaLightning

namespace Call

/-- An operation that sets the status first keeps what its SQL keeps. -/
theorem waitThen_frame {β : Type} (set : Db → β → Db) (hset : ∀ db, ∃ b, set db b = db)
    (self : DataStore) (sql : Result Db)
    (hsql : ∀ db, sql = .ok db → ∃ b, db = set self.conn b) :
    ∃ b, (self.waitThen sql).2.conn = set self.conn b := by
  rw [DataStore.waitThen_conn]
  cases h : sql with
  | ok db => exact hsql db h
  | error e =>
      obtain ⟨b, hb⟩ := hset self.conn
      exact ⟨b, hb.symm⟩

/-- The tables that a call can have written to. -/
theorem step_frame (db : Db) (call : Call) :
    match call.op with
    | .storePaymentInfo .. => ∃ payments history offers, call.step db =
        { db with payments := payments, exchangeRatesHistory := history, offers := offers }
    | .updatePersonalNote .. => ∃ payments, call.step db = { db with payments := payments }
    | .storeCreatedInvoice .. => ∃ rows, call.step db = { db with createdInvoices := rows }
    | .updateExchangeRate .. => ∃ rates, call.step db = { db with exchangeRates := rates }
    | .storeFiatTopupInfo _ | .clearFiatTopupInfo =>
        ∃ infos, call.step db = { db with fiatTopupInfo := infos }
    | .appendAnalyticsConfig _ => ∃ rows, call.step db = { db with analyticsConfig := rows }
    | .storeLightningAddress _ | .updateLightningAddress .. =>
        ∃ addresses, call.step db = { db with lightningAddresses := addresses }
    | .storeHiddenChannelCloseOnchainFundsAmountSat _ =>
        ∃ rows, call.step db = { db with hiddenChannelCloseAmount := rows }
    | .storeHiddenUnresolvedFailedSwap _ =>
        ∃ rows, call.step db = { db with hiddenFailedSwaps := rows }
    | .storeSelectedFiatCurrency _ => ∃ rows, call.step db = { db with fiatCurrency := rows } := by
  obtain ⟨op, env⟩ := call
  cases op with
  | storePaymentInfo =>
      simp only [Call.step, Operation.after, Operation.call, DataStore.storePaymentInfo_conn]
      split
      · exact ⟨_, _, _, rfl⟩
      · exact ⟨_, _, _, rfl⟩
  | updatePersonalNote =>
      simp only [Call.step, Operation.after, Operation.call, DataStore.updatePersonalNote_conn]
      split
      · unfold DataStore.recordNote
        split
        · exact ⟨_, rfl⟩
        · exact ⟨_, rfl⟩
      · exact ⟨_, rfl⟩
  | storeCreatedInvoice =>
      show ∃ rows, Call.step db _ = { db with createdInvoices := rows }
      rw [storeCreatedInvoice_step]
      split
      · exact ⟨_, rfl⟩
      · exact ⟨_, rfl⟩
  | storeFiatTopupInfo info =>
      simp only [Call.step, Operation.after, Operation.call, DataStore.storeFiatTopupInfo]
      split
      · exact ⟨_, rfl⟩
      · exact ⟨_, rfl⟩
  | clearFiatTopupInfo =>
      simp only [Call.step, Operation.after, Operation.call, DataStore.clearFiatTopupInfo]
      split
      · exact ⟨_, rfl⟩
      · exact ⟨_, rfl⟩
  | storeLightningAddress address =>
      simp only [Call.step, Operation.after, Operation.call, DataStore.storeLightningAddress]
      split
      · exact ⟨_, rfl⟩
      · exact ⟨_, rfl⟩
  | updateLightningAddress address status =>
      simp only [Call.step, Operation.after, Operation.call, DataStore.updateLightningAddress]
      split
      · exact ⟨_, rfl⟩
      · exact ⟨_, rfl⟩
  | updateExchangeRate code rate updatedAt =>
      refine waitThen_frame (fun db rates => { db with exchangeRates := rates })
        (fun db => ⟨_, rfl⟩) (.new db none) _ fun db' hdb => ?_
      simp only [bind_eq_ok, Except.ok.injEq] at hdb
      obtain ⟨_, -, rfl⟩ := hdb
      exact ⟨_, rfl⟩
  | appendAnalyticsConfig status =>
      refine waitThen_frame (fun db rows => { db with analyticsConfig := rows })
        (fun db => ⟨_, rfl⟩) (.new db none) _ fun db' hdb => ?_
      simp only [bind_eq_ok, Except.ok.injEq] at hdb
      obtain ⟨_, -, rfl⟩ := hdb
      exact ⟨_, rfl⟩
  | storeHiddenChannelCloseOnchainFundsAmountSat amount =>
      simp only [Call.step, Operation.after, Operation.call,
        DataStore.storeHiddenChannelCloseOnchainFundsAmountSat]
      refine waitThen_frame (fun db rows => { db with hiddenChannelCloseAmount := rows })
        (fun db => ⟨_, rfl⟩) (.new db none) _ fun db' hdb => ?_
      obtain ⟨_, -, hdb⟩ := bind_eq_ok.mp hdb
      obtain ⟨_, -, hdb⟩ := bind_eq_ok.mp hdb
      exact ⟨_, (Except.ok.inj hdb).symm⟩
  | storeHiddenUnresolvedFailedSwap address =>
      refine waitThen_frame (fun db rows => { db with hiddenFailedSwaps := rows })
        (fun db => ⟨_, rfl⟩) (.new db none) _ fun db' hdb => ?_
      simp only [bind_eq_ok, Except.ok.injEq] at hdb
      obtain ⟨_, -, rfl⟩ := hdb
      exact ⟨_, rfl⟩
  | storeSelectedFiatCurrency currency =>
      refine waitThen_frame (fun db rows => { db with fiatCurrency := rows })
        (fun db => ⟨_, rfl⟩) (.new db none) _ fun db' hdb => ?_
      simp only [bind_eq_ok, Except.ok.injEq] at hdb
      obtain ⟨_, -, rfl⟩ := hdb
      exact ⟨_, rfl⟩

end Call

end LipaLightning
