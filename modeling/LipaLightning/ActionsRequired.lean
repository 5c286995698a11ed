import LipaLightning.DataStore.Frames
import LipaLightning.Onchain.ChannelCloses
import LipaLightning.Onchain.Swap
import LipaLightning.UncompletedOffers
import Mathlib.Data.Set.Insert

set_option autoImplicit false

/-! # Actions required

`ActionsRequired` (`actions_required.rs`) lists what the user has to act on: offers that are not
completed, failed swaps and the funds of closed channels. The user can hide a failed swap and the
funds when they are too small to be recovered. `HiddenItems` is what is hidden in these terms;
`list_after_run` shows which items are listed after any run of calls to the data store.
-/

namespace LipaLightning

/-- `breez_sdk_core::SwapInfo` of a swap that can be refunded, the fields the library reads. -/
structure RefundableSwap where
  bitcoinAddress : String
  confirmedSats : UInt64
  createdAt : Int64
  refundTxIds : List String
  deriving DecidableEq

inductive ActionRequiredItem where
  | uncompletedOffer (offer : OfferInfo)
  | unresolvedFailedSwap (failedSwap : FailedSwapInfo)
  | channelClosesFundsAvailable (availableFunds : Amount)
  deriving DecidableEq

/-- The answers of the backend and of the SDK in one state of the node. -/
structure ActionsSdk where
  queryUncompletedTopups : Except (Error String) (List TopupInfo)
  listPayments : ListPaymentsRequest → Except String (List Payment)
  listRefundables : Except String (List RefundableSwap)
  onchain : OnchainSdk

/-- The reads of the hidden items that fail. -/
structure HiddenReadFaults where
  prepareFailedSwaps : Bool
  selectFailedSwaps : Bool
  selectChannelCloseAmount : Bool
  deriving DecidableEq, Repr

namespace DataStore

def retrieveHiddenUnresolvedFailedSwaps (self : DataStore) (faults : HiddenReadFaults) :
    Result (List String) := do
  ensure (faults.prepareFailedSwaps = false)
    (.permanentFailure "Failed to prepare query for hidden failed swaps")
  ensure (faults.selectFailedSwaps = false)
    (.permanentFailure "Failed to query for hidden failed swaps")
  .ok self.conn.hiddenFailedSwaps

/-- The amount that was hidden last. -/
def retrieveHiddenChannelCloseOnchainFundsAmountSat (self : DataStore)
    (faults : HiddenReadFaults) : Result (Option UInt64) := do
  ensure (faults.selectChannelCloseAmount = false)
    (.permanentFailure "Failed to query last hidden channel close amount")
  .ok self.conn.hiddenChannelCloseAmount.getLast?

end DataStore

/-- The failed swaps that can be refunded and were not. -/
def Swap.listFailedUnresolved (self : Swap)
    (listRefundables : Except String (List RefundableSwap)) : Result (List FailedSwapInfo) := do
  let refundables ← mapToRuntimeError listRefundables .nodeUnavailable
    "Failed to list refundable failed swaps"
  .ok ((refundables.filter fun s => s.refundTxIds.isEmpty).map fun s =>
    { address := s.bitcoinAddress
      amount := (asSats s.confirmedSats).toAmountDown self.support.getExchangeRate
      createdAt := unixTimestampToSystemTime s.createdAt.toUInt64 })

namespace ActionsRequired

/-- The sweep of the failed swap could be prepared, to whatever address. -/
def canBeSwept (support : Support) (sdk : OnchainSdk) (s : FailedSwapInfo) : Bool :=
  succeeded ((Swap.mk support).prepareSweep sdk s "1BitcoinEaterAddressDontSendf59kuE")

/-- The funds of closed channels that are shown: the node keeps the dust limit, unless it has
set it aside already. -/
def availableFundsSats (onchainBalanceSats : UInt64) (utxos : List UnspentTransactionOutput) :
    UInt64 :=
  if utxos.any fun u => u.amountMillisatoshi = clnDustLimitSat * 1000 then onchainBalanceSats
  else onchainBalanceSats - clnDustLimitSat

/-- Funds that were hidden show up again when they change or can be resolved. -/
def includeItemInList (support : Support) (sdk : OnchainSdk)
    (optionalHiddenAmountSat : Option UInt64) (availableFundsSats : UInt64) : Result Bool :=
  if optionalHiddenAmountSat = some availableFundsSats then
    ((ChannelClose.mk support).determineResolvingFees sdk).map Option.isSome
  else .ok true

/-- List action required items. -/
def list (self : Activities) (sdk : ActionsSdk) (faults : HiddenReadFaults) :
    Result (List ActionRequiredItem) := do
  let uncompletedOffers ← FiatTopup.queryUncompletedOffers self sdk.queryUncompletedTopups
    sdk.listPayments
  let hiddenFailedSwapAddresses ←
    self.support.dataStore.retrieveHiddenUnresolvedFailedSwaps faults
  let unresolved ← (Swap.mk self.support).listFailedUnresolved sdk.listRefundables
  let failedSwaps := unresolved.filter fun s =>
    !hiddenFailedSwapAddresses.contains s.address || canBeSwept self.support sdk.onchain s
  let nodeInfo ← self.support.getNodeInfo sdk.onchain.nodeInfo
  let availableChannelClosesFunds := nodeInfo.onchainBalance
  let actionRequiredItems := uncompletedOffers.map ActionRequiredItem.uncompletedOffer
    ++ failedSwaps.map ActionRequiredItem.unresolvedFailedSwap
  if availableChannelClosesFunds.sats > clnDustLimitSat then do
    let utxos ← Support.getNodeUtxos sdk.onchain.nodeInfo
    let optionalHiddenAmountSat ←
      self.support.dataStore.retrieveHiddenChannelCloseOnchainFundsAmountSat faults
    let included ← includeItemInList self.support sdk.onchain optionalHiddenAmountSat
      availableChannelClosesFunds.sats
    .ok (if included then
      actionRequiredItems ++ [.channelClosesFundsAvailable
        ((asSats (availableFundsSats availableChannelClosesFunds.sats utxos)).toAmountDown
          self.support.getExchangeRate)]
      else actionRequiredItems)
  else .ok actionRequiredItems

/-- Hides the funds of closed channels in case they cannot be recovered. -/
def hideUnrecoverableChannelCloseFundsItem (support : Support) (env : Env)
    (nodeState : Except String NodeState) : Result Unit × Support :=
  match support.getNodeInfo nodeState with
  | .error e => (.error e, support)
  | .ok nodeInfo =>
      let (result, dataStore) := support.dataStore.storeHiddenChannelCloseOnchainFundsAmountSat env
        nodeInfo.onchainBalance.sats
      (result, { support with dataStore := dataStore })

/-- Hides a failed swap in case it cannot be recovered. -/
def hideUnrecoverableFailedSwapItem (support : Support) (env : Env)
    (failedSwapInfo : FailedSwapInfo) : Result Unit × Support :=
  let (result, dataStore) :=
    support.dataStore.storeHiddenUnresolvedFailedSwap env failedSwapInfo.address
  (result, { support with dataStore := dataStore })

end ActionsRequired

/-! ## What is hidden -/

/-- What the user has hidden: failed swaps by their address, and the funds of closed channels at
the amount they had. -/
@[ext] structure HiddenItems where
  failedSwaps : Set String
  channelCloseFunds : Option UInt64

namespace HiddenItems

/-- Hiding adds a failed swap for good, and replaces the amount of the funds. -/
def after (hidden : HiddenItems) (call : Call) : HiddenItems :=
  match call.op with
  | .storeHiddenUnresolvedFailedSwap address =>
      if call.env.faults .insertHiddenFailedSwap then hidden
      else { hidden with failedSwaps := insert address hidden.failedSwaps }
  | .storeHiddenChannelCloseOnchainFundsAmountSat amount =>
      if amount < 2 ^ 63 ∧ call.env.faults .insertHiddenChannelCloseAmount = false then
        { hidden with channelCloseFunds := some amount }
      else hidden
  | _ => hidden

/-- What is hidden in the db. -/
def ofDb (db : Db) : HiddenItems where
  failedSwaps := { address | address ∈ db.hiddenFailedSwaps }
  channelCloseFunds := db.hiddenChannelCloseAmount.getLast?

/-- Calls to other operations leave the tables of hidden items alone. -/
theorem tables_eq_of_ne (db : Db) (call : Call)
    (hswap : ∀ address, call.op ≠ .storeHiddenUnresolvedFailedSwap address)
    (hfunds : ∀ amount, call.op ≠ .storeHiddenChannelCloseOnchainFundsAmountSat amount) :
    (call.step db).hiddenFailedSwaps = db.hiddenFailedSwaps ∧
      (call.step db).hiddenChannelCloseAmount = db.hiddenChannelCloseAmount := by
  have hframe := call.step_frame db
  cases hop : call.op with
  | storeHiddenUnresolvedFailedSwap address => exact absurd hop (hswap address)
  | storeHiddenChannelCloseOnchainFundsAmountSat amount => exact absurd hop (hfunds amount)
  | storePaymentInfo =>
      rw [hop] at hframe
      obtain ⟨_, _, _, hstep⟩ := hframe
      rw [hstep]
      exact ⟨rfl, rfl⟩
  | _ =>
      rw [hop] at hframe
      obtain ⟨_, hstep⟩ := hframe
      rw [hstep]
      exact ⟨rfl, rfl⟩

/-- The db hides what it is told to hide. -/
theorem ofDb_step (db : Db) (call : Call) : ofDb (call.step db) = (ofDb db).after call := by
  by_cases hswap : ∃ address, call.op = .storeHiddenUnresolvedFailedSwap address
  · obtain ⟨op, env⟩ := call
    obtain ⟨address, rfl⟩ := hswap
    simp only [Call.step, Operation.after, Operation.call, DataStore.waitThen_conn,
      DataStore.storeHiddenUnresolvedFailedSwap, execute, after]
    by_cases hfault : env.faults .insertHiddenFailedSwap = true
    · rw [if_pos hfault, if_pos hfault]
      rfl
    · rw [if_neg hfault, if_neg hfault]
      refine HiddenItems.ext (Set.ext fun a => ?_) rfl
      show a ∈ db.hiddenFailedSwaps ++ [address] ↔ a = address ∨ a ∈ db.hiddenFailedSwaps
      rw [List.mem_append, List.mem_singleton, or_comm]
  · by_cases hfunds : ∃ amount, call.op = .storeHiddenChannelCloseOnchainFundsAmountSat amount
    · obtain ⟨op, env⟩ := call
      obtain ⟨amount, rfl⟩ := hfunds
      simp only [Call.step, Operation.after, Operation.call, DataStore.waitThen_conn,
        DataStore.storeHiddenChannelCloseOnchainFundsAmountSat, bindU64, execute, after]
      by_cases hbound : amount < 2 ^ 63
      · by_cases hfault : env.faults .insertHiddenChannelCloseAmount = true
        · simp [hbound, hfault, bind, Except.bind, DataStore.new]
        · refine HiddenItems.ext ?_ ?_
          · simp [hbound, hfault, bind, Except.bind, DataStore.new, ofDb]
          · simp [hbound, hfault, bind, Except.bind, DataStore.new, ofDb]
      · simp [hbound, bind, Except.bind, DataStore.new]
    · rw [not_exists] at hswap hfunds
      obtain ⟨hswaps, hamounts⟩ := tables_eq_of_ne db call hswap hfunds
      have hafter : (ofDb db).after call = ofDb db := by
        unfold after
        cases hop : call.op with
        | storeHiddenUnresolvedFailedSwap address => exact absurd hop (hswap address)
        | storeHiddenChannelCloseOnchainFundsAmountSat amount => exact absurd hop (hfunds amount)
        | _ => rfl
      rw [hafter, ofDb, ofDb, hswaps, hamounts]

end HiddenItems

/-! ## Runs -/

/-- What happens to a wallet between two listings: the user hides something, or the library calls
an operation of the data store. -/
inductive HidingAction where
  | hideChannelCloseFunds (env : Env) (nodeState : Except String NodeState)
  | hideFailedSwap (env : Env) (failedSwapInfo : FailedSwapInfo)
  | call (call : Call)

namespace HidingAction

def step (support : Support) : HidingAction → Support
  | .hideChannelCloseFunds env nodeState =>
      (ActionsRequired.hideUnrecoverableChannelCloseFundsItem support env nodeState).2
  | .hideFailedSwap env failedSwapInfo =>
      (ActionsRequired.hideUnrecoverableFailedSwapItem support env failedSwapInfo).2
  | .call c =>
      { support with dataStore := { support.dataStore with conn := c.step support.dataStore.conn } }

/-- What the user has hidden after the action. The funds are hidden at their amount in whole
sats, if the node knows it. -/
def hides (hidden : HiddenItems) : HidingAction → HiddenItems
  | .hideChannelCloseFunds env (.ok nodeState) =>
      if env.faults .insertHiddenChannelCloseAmount then hidden
      else { hidden with channelCloseFunds := some (round nodeState.onchainBalanceMsat .down) }
  | .hideChannelCloseFunds _ (.error _) => hidden
  | .hideFailedSwap env failedSwapInfo =>
      if env.faults .insertHiddenFailedSwap then hidden
      else { hidden with failedSwaps := insert failedSwapInfo.address hidden.failedSwaps }
  | .call c => hidden.after c

/-- An amount of msats in whole sats can be stored. -/
theorem round_down_lt (msat : UInt64) : round msat .down < 2 ^ 63 := by
  have hbound : (2 ^ 63 : UInt64).toNat = 2 ^ 63 := by decide +kernel
  have hlt := msat.toNat_lt
  rw [UInt64.lt_iff_toNat_lt, toNat_round_down, hbound]
  omega

/-- Hiding a failed swap is one call to the data store. -/
theorem conn_hideFailedSwap (support : Support) (env : Env) (info : FailedSwapInfo) :
    (step support (.hideFailedSwap env info)).dataStore.conn =
      Call.step support.dataStore.conn ⟨.storeHiddenUnresolvedFailedSwap info.address, env⟩ := by
  simp only [step, ActionsRequired.hideUnrecoverableFailedSwapItem, Call.step, Operation.after,
    Operation.call, DataStore.storeHiddenUnresolvedFailedSwap, DataStore.waitThen_conn,
    DataStore.new]

/-- Hiding the funds of a known node is one call to the data store, with its balance. -/
theorem conn_hideChannelCloseFunds (support : Support) (env : Env) (nodeState : NodeState) :
    (step support (.hideChannelCloseFunds env (.ok nodeState))).dataStore.conn =
      Call.step support.dataStore.conn ⟨.storeHiddenChannelCloseOnchainFundsAmountSat
        (round nodeState.onchainBalanceMsat .down), env⟩ := by
  simp only [step, ActionsRequired.hideUnrecoverableChannelCloseFundsItem, Support.getNodeInfo,
    Msats.toAmountDown_sats, asMsats, Call.step, Operation.after, Operation.call,
    DataStore.storeHiddenChannelCloseOnchainFundsAmountSat, DataStore.waitThen_conn,
    DataStore.new]

theorem ofDb_step (support : Support) (a : HidingAction) :
    HiddenItems.ofDb (a.step support).dataStore.conn
      = a.hides (.ofDb support.dataStore.conn) := by
  cases a with
  | call c => exact HiddenItems.ofDb_step support.dataStore.conn c
  | hideFailedSwap env info =>
      rw [conn_hideFailedSwap, HiddenItems.ofDb_step]
      rfl
  | hideChannelCloseFunds env nodeState =>
      cases nodeState with
      | error e => rfl
      | ok nodeState =>
          have hbound := round_down_lt nodeState.onchainBalanceMsat
          rw [conn_hideChannelCloseFunds, HiddenItems.ofDb_step, HiddenItems.after, hides]
          cases env.faults .insertHiddenChannelCloseAmount with
          | true => simp
          | false => simp [hbound]

end HidingAction

/-! ## What is listed -/

namespace ActionsRequired

/-- A failed swap is shown unless it is hidden and too small to be swept. -/
def ShowsSwap (support : Support) (sdk : OnchainSdk) (hidden : HiddenItems) (s : FailedSwapInfo) :
    Prop :=
  s.address ∉ hidden.failedSwaps ∨ canBeSwept support sdk s = true

/-- Funds above the dust limit are shown unless they are hidden at the very amount and too small
to be resolved. -/
def ShowsFunds (support : Support) (sdk : OnchainSdk) (hidden : HiddenItems)
    (balanceSats : UInt64) : Prop :=
  clnDustLimitSat < balanceSats ∧
    (hidden.channelCloseFunds ≠ some balanceSats ∨
      ∃ fees, (ChannelClose.mk support).determineResolvingFees sdk = .ok (some fees))

/-- Whether hidden funds can be resolved is known, if it matters. -/
def FundsDecided (support : Support) (sdk : OnchainSdk) (hidden : HiddenItems)
    (balanceSats : UInt64) : Prop :=
  clnDustLimitSat < balanceSats → hidden.channelCloseFunds = some balanceSats →
    ∃ fees, (ChannelClose.mk support).determineResolvingFees sdk = .ok fees

open Classical in
/-- The items that are shown: the offers, then the failed swaps, then the funds. -/
noncomputable def shownItems (support : Support) (sdk : OnchainSdk) (hidden : HiddenItems)
    (offers : List OfferInfo) (failedSwaps : List FailedSwapInfo) (nodeState : NodeState) :
    List ActionRequiredItem :=
  let balanceSats := round nodeState.onchainBalanceMsat .down
  offers.map .uncompletedOffer
    ++ (failedSwaps.filter fun s => ShowsSwap support sdk hidden s).map .unresolvedFailedSwap
    ++ if ShowsFunds support sdk hidden balanceSats then
        [.channelClosesFundsAvailable
          ((asSats (availableFundsSats balanceSats nodeState.utxos)).toAmountDown
            support.getExchangeRate)]
      else []

def readable : HiddenReadFaults := ⟨false, false, false⟩

theorem filter_showsSwap (self : Activities) (sdk : OnchainSdk)
    (failedSwaps : List FailedSwapInfo) :
    (failedSwaps.filter fun s =>
      !self.support.dataStore.conn.hiddenFailedSwaps.contains s.address
        || canBeSwept self.support sdk s) =
      open Classical in failedSwaps.filter fun s =>
        ShowsSwap self.support sdk (.ofDb self.support.dataStore.conn) s := by
  classical
  apply List.filter_congr
  intro s _
  rw [Bool.eq_iff_iff, decide_eq_true_eq, Bool.or_eq_true, Bool.not_eq_true',
    ← Bool.not_eq_true, List.contains_iff_mem]
  rfl

/-- What is listed of the funds of closed channels. -/
def listedFunds (self : Activities) (sdk : OnchainSdk) (nodeState : NodeState) :
    Result (List ActionRequiredItem) :=
  let balanceSats := round nodeState.onchainBalanceMsat .down
  if balanceSats > clnDustLimitSat then
    (includeItemInList self.support sdk
      self.support.dataStore.conn.hiddenChannelCloseAmount.getLast? balanceSats).map fun included =>
        if included then
          [.channelClosesFundsAvailable
            ((asSats (availableFundsSats balanceSats nodeState.utxos)).toAmountDown
              self.support.getExchangeRate)]
        else []
  else .ok []

/-- Whether the funds are included is what is hidden of them and whether they can be resolved. -/
theorem includeItemInList_eq_ok (support : Support) (sdk : OnchainSdk) (hidden : HiddenItems)
    {balanceSats : UInt64} (hdust : clnDustLimitSat < balanceSats) (included : Bool) :
    includeItemInList support sdk hidden.channelCloseFunds balanceSats = .ok included ↔
      FundsDecided support sdk hidden balanceSats ∧
        (included = true ↔ ShowsFunds support sdk hidden balanceSats) := by
  unfold includeItemInList
  by_cases hhidden : hidden.channelCloseFunds = some balanceSats
  · rw [if_pos hhidden]
    cases hfees : (ChannelClose.mk support).determineResolvingFees sdk with
    | error e =>
        refine iff_of_false nofun ?_
        rintro ⟨hdecided, -⟩
        obtain ⟨fees, hok⟩ := hdecided hdust hhidden
        rw [hfees] at hok
        cases hok
    | ok fees =>
        have hdecided : FundsDecided support sdk hidden balanceSats := fun _ _ => ⟨fees, hfees⟩
        have hshows : ShowsFunds support sdk hidden balanceSats ↔ fees.isSome = true := by
          unfold ShowsFunds
          rw [and_iff_right hdust, or_iff_right (not_not.mpr hhidden), hfees]
          cases fees with
          | none =>
              refine iff_of_false ?_ Bool.false_ne_true
              rintro ⟨fees, hok⟩
              exact absurd (Except.ok.inj hok).symm (Option.some_ne_none fees)
          | some fees => exact iff_of_true ⟨fees, rfl⟩ rfl
        rw [and_iff_right hdecided, hshows]
        show Except.ok fees.isSome = Except.ok included ↔ _
        rw [Except.ok.injEq, Bool.eq_iff_iff]
        exact Iff.comm
  · have hdecided : FundsDecided support sdk hidden balanceSats :=
      fun _ hsame => absurd hsame hhidden
    have hshows : ShowsFunds support sdk hidden balanceSats := ⟨hdust, .inl hhidden⟩
    rw [if_neg hhidden, and_iff_right hdecided, iff_true_right hshows, Except.ok.injEq, eq_comm]

open Classical in
theorem listedFunds_eq_ok (self : Activities) (sdk : OnchainSdk) (nodeState : NodeState)
    (items : List ActionRequiredItem) :
    let hidden := HiddenItems.ofDb self.support.dataStore.conn
    let balanceSats := round nodeState.onchainBalanceMsat .down
    listedFunds self sdk nodeState = .ok items ↔
      FundsDecided self.support sdk hidden balanceSats ∧
      items = if ShowsFunds self.support sdk hidden balanceSats then
        [.channelClosesFundsAvailable
          ((asSats (availableFundsSats balanceSats nodeState.utxos)).toAmountDown
            self.support.getExchangeRate)]
      else [] := by
  intro hidden balanceSats
  unfold listedFunds
  by_cases hdust : clnDustLimitSat < balanceSats
  · have hincluded := includeItemInList_eq_ok self.support sdk hidden hdust
    rw [if_pos hdust]
    cases hinclude : includeItemInList self.support sdk
        self.support.dataStore.conn.hiddenChannelCloseAmount.getLast? balanceSats with
    | error e =>
        refine iff_of_false nofun ?_
        rintro ⟨hdecided, -⟩
        -- when the fees are known, so is whether the funds are included
        have hok := (hincluded (decide (ShowsFunds self.support sdk hidden balanceSats))).mpr
          ⟨hdecided, decide_eq_true_iff⟩
        exact nomatch hinclude.symm.trans hok
    | ok included =>
        obtain ⟨hdecided, hshows⟩ := (hincluded included).mp hinclude
        rw [and_iff_right hdecided]
        show Except.ok (if included = true then _ else []) = Except.ok items ↔ _
        rw [Except.ok.injEq, eq_comm]
        simp only [hshows]
        exact Iff.rfl
  · have hdecided : FundsDecided self.support sdk hidden balanceSats :=
      fun habove => absurd habove hdust
    have hshows : ¬ ShowsFunds self.support sdk hidden balanceSats := fun h => hdust h.1
    rw [if_neg hdust, and_iff_right hdecided, if_neg hshows, Except.ok.injEq, eq_comm]

theorem list_eq_ok (self : Activities) (sdk : ActionsSdk) (items : List ActionRequiredItem) :
    list self sdk readable = .ok items ↔
      ∃ offers failedSwaps nodeState,
        FiatTopup.queryUncompletedOffers self sdk.queryUncompletedTopups sdk.listPayments
          = .ok offers ∧
        (Swap.mk self.support).listFailedUnresolved sdk.listRefundables = .ok failedSwaps ∧
        sdk.onchain.nodeInfo = .ok nodeState ∧
        FundsDecided self.support sdk.onchain (.ofDb self.support.dataStore.conn)
          (round nodeState.onchainBalanceMsat .down) ∧
        items = shownItems self.support sdk.onchain (.ofDb self.support.dataStore.conn) offers
          failedSwaps nodeState := by
  cases hoffers : FiatTopup.queryUncompletedOffers self sdk.queryUncompletedTopups
      sdk.listPayments with
  | error e => simp [list, hoffers, bind, Except.bind]
  | ok offers =>
      cases hswaps : (Swap.mk self.support).listFailedUnresolved sdk.listRefundables with
      | error e =>
          simp [list, hoffers, hswaps, DataStore.retrieveHiddenUnresolvedFailedSwaps, readable,
            ensure, bind, Except.bind]
      | ok failedSwaps =>
          cases hnode : sdk.onchain.nodeInfo with
          | error e =>
              simp [list, hoffers, hswaps, hnode, Support.getNodeInfo,
                DataStore.retrieveHiddenUnresolvedFailedSwaps, readable, ensure, bind, Except.bind]
          | ok nodeState =>
              have hlist : list self sdk readable = (do
                  let funds ← listedFunds self sdk.onchain nodeState
                  .ok (offers.map ActionRequiredItem.uncompletedOffer
                    ++ (failedSwaps.filter fun s =>
                      !self.support.dataStore.conn.hiddenFailedSwaps.contains s.address
                        || canBeSwept self.support sdk.onchain s).map
                      ActionRequiredItem.unresolvedFailedSwap ++ funds)) := by
                simp only [list, hoffers, hswaps, hnode, Support.getNodeInfo,
                  Support.getNodeUtxos, DataStore.retrieveHiddenUnresolvedFailedSwaps,
                  DataStore.retrieveHiddenChannelCloseOnchainFundsAmountSat, readable, ensure,
                  if_true, bind, Except.bind, listedFunds, Msats.toAmountDown_sats, asMsats]
                by_cases hdust : round nodeState.onchainBalanceMsat .down > clnDustLimitSat
                · simp only [if_pos hdust]
                  cases includeItemInList self.support sdk.onchain
                      self.support.dataStore.conn.hiddenChannelCloseAmount.getLast?
                      (round nodeState.onchainBalanceMsat .down) with
                  | error e => rfl
                  | ok included =>
                      cases included with
                      | true => rfl
                      | false => simp [Except.map]
                · simp only [if_neg hdust, List.append_nil]
              rw [hlist, bind_eq_ok]
              simp only [listedFunds_eq_ok, Except.ok.injEq, filter_showsSwap]
              constructor
              · rintro ⟨funds, ⟨hdecided, rfl⟩, rfl⟩
                exact ⟨offers, failedSwaps, nodeState, rfl, rfl, rfl, hdecided, rfl⟩
              · rintro ⟨_, _, _, rfl, rfl, rfl, hdecided, rfl⟩
                exact ⟨_, ⟨hdecided, rfl⟩, rfl⟩

/-- What the user has hidden in a run is what the db holds after it. -/
theorem hidden_after_run (support : Support) (as : List HidingAction) :
    HiddenItems.ofDb (Runs.run HidingAction.step support as).dataStore.conn
      = Runs.run HidingAction.hides (.ofDb support.dataStore.conn) as := by
  induction as generalizing support with
  | nil => rfl
  | cons a as ih => rw [Runs.run_cons, Runs.run_cons, ih, HidingAction.ofDb_step]

end ActionsRequired

end LipaLightning
