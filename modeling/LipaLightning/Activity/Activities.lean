import LipaLightning.Activity.Activity
import LipaLightning.Basic.Latest
import LipaLightning.Support

set_option autoImplicit false

/-! # Listing activities

`Activities::list` and `Activities::get` (`activities.rs`). The payments of the SDK and the
invoices that were created locally are merged into one list; an invoice that is paid is in
both. All reads of the clock during a call return the same instant `now`.
-/

namespace LipaLightning

/-! ## The SDK -/

inductive PaymentTypeFilter where
  | sent
  | received
  | closedChannel
  deriving DecidableEq, Repr

structure ListPaymentsRequest where
  filters : Option (List PaymentTypeFilter)
  includeFailures : Option Bool
  limit : Option UInt32
  deriving DecidableEq

/-- The requests to the SDK about payments. -/
structure PaymentsSdk where
  listPayments : ListPaymentsRequest → Except String (List Payment)
  paymentByHash : String → Except String (Option Payment)
  inProgressSwap : Except String (Option SdkSwapInfo)

structure Activities where
  support : Support
  parsers : Parsers
  lipaLightningDomain : String

/-- The payout fee is what the invoice is short of the value of the topup. -/
def fillPayoutFee (offer : Offer) (requestedAmount : Msats) (rate : Option ExchangeRate) : Offer :=
  { offer with lightningPayoutFee := offer.topupValueSats.map fun v =>
      (asMsats ((asSats v).msats - requestedAmount.msats)).toAmountUp rate }

namespace Activities

/-! ## The activity of a payment -/

def activityFromBreezLnPayment (self : Activities) (breezPayment : Payment) : Result Activity :=
  match breezPayment.details with
  | .closedChannel _ => .error (.invalidInput "PaymentInfo cannot be created from channel close")
  | .ln paymentDetails =>
      let localPaymentData := self.support.dataStore.retrievePaymentInfo paymentDetails.paymentHash
      -- what was stored with the payment wins over what is current
      let exchangeRate :=
        (localPaymentData.bind LocalPaymentData.exchangeRate).or self.support.getExchangeRate
      let tzConfig := ((localPaymentData.bind LocalPaymentData.userPreferences).map
        UserPreferences.timezoneConfig).getD self.support.userPreferences.timezoneConfig
      let personalNote := localPaymentData.bind LocalPaymentData.personalNote
      let incomingPaymentInfo := IncomingPaymentInfo.new self.parsers breezPayment exchangeRate
        tzConfig personalNote (localPaymentData.bind LocalPaymentData.receivedOn)
        (localPaymentData.bind LocalPaymentData.receivedLnurlComment) self.lipaLightningDomain
      let outgoingPaymentInfo := OutgoingPaymentInfo.new self.parsers breezPayment exchangeRate
        tzConfig personalNote self.lipaLightningDomain
      -- an offer takes precedence over a swap, and a swap over a reverse swap
      match localPaymentData.bind LocalPaymentData.offer, paymentDetails.swapInfo,
          paymentDetails.reverseSwapInfo with
      | some offer, _, _ => do
          let info ← incomingPaymentInfo
          .ok (.offerClaim info
            (fillPayoutFee offer (asMsats info.requestedAmount.sats) exchangeRate))
      | none, some s, _ => do
          let swapInfo : SwapInfo :=
            { bitcoinAddress := s.bitcoinAddress
              createdAt := withTimezone (unixTimestampToSystemTime s.createdAt.toUInt64) tzConfig
              paidAmount := (asMsats s.paidMsat).toAmountDown exchangeRate }
          let info ← incomingPaymentInfo
          .ok (.swap (some info) swapInfo)
      | none, none, some s => do
          let reverseSwapInfo : ReverseSwapInfo :=
            { paidOnchainAmount := (asSats s.onchainAmountSat).toAmountUp exchangeRate
              swapFeesAmount := (asMsats (breezPayment.amountMsat
                - (asSats s.onchainAmountSat).msats)).toAmountUp exchangeRate
              claimTxid := s.claimTxid
              status := s.status }
          let info ← outgoingPaymentInfo
          .ok (.reverseSwap info reverseSwapInfo)
      | none, none, none => match breezPayment.paymentType with
          | .received => do
              let info ← incomingPaymentInfo
              .ok (.incomingPayment info)
          | .sent => do
              let info ← outgoingPaymentInfo
              .ok (.outgoingPayment info)
          | .closedChannel => .error (.permanentFailure "Unreachable code")

def activityFromBreezClosedChannelPayment (self : Activities) (breezPayment : Payment)
    (details : ClosedChannelPaymentDetails) : Result Activity :=
  let amount := (asMsats breezPayment.amountMsat).toAmountUp self.support.getExchangeRate
  let time := withTimezone (unixTimestampToSystemTime breezPayment.paymentTime.toUInt64)
    self.support.userPreferences.timezoneConfig
  let closingTxId := details.closingTxid.getD ""
  match breezPayment.status with
  | .pending => .ok (.channelClose ⟨amount, .pending, none, closingTxId⟩)
  | .complete => .ok (.channelClose ⟨amount, .confirmed, some time, closingTxId⟩)
  | .failed => .error (.permanentFailure "A channel close Breez Payment has status *Failed*")

def activityFromBreezPayment (self : Activities) (breezPayment : Payment) : Result Activity :=
  match breezPayment.details with
  | .ln _ => self.activityFromBreezLnPayment breezPayment
  | .closedChannel data => self.activityFromBreezClosedChannelPayment breezPayment data

/-! ## The activity of a created invoice -/

/-- What is shown of a parsed invoice with the data stored about its payment. -/
def paymentFromInvoice (self : Activities) (now : SystemTime) (createdInvoice : CreatedInvoice)
    (invoice : LNInvoice) (localPaymentData : LocalPaymentData) : Result IncomingPaymentInfo :=
  let paymentState :=
    if now > (InvoiceDetails.fromLnInvoice invoice none).expiryTimestamp then .invoiceExpired
    else .created
  let invoiceDetails := InvoiceDetails.fromLnInvoice invoice localPaymentData.exchangeRate
  let timezoneConfig := (localPaymentData.userPreferences.map
    UserPreferences.timezoneConfig).getD self.support.userPreferences.timezoneConfig
  let lspFees :=
    (asMsats (createdInvoice.channelOpeningFees.getD 0)).toAmountUp localPaymentData.exchangeRate
  match invoiceDetails.amount with
  | none => .error (.permanentFailure "Locally created invoice doesn't include an amount")
  | some invoiceAmount =>
      let requestedAmount := (asSats invoiceAmount.sats).toAmountDown localPaymentData.exchangeRate
      let amount :=
        (asSats (requestedAmount.sats - lspFees.sats)).toAmountDown localPaymentData.exchangeRate
      .ok
        { paymentInfo :=
            { paymentState := paymentState
              hash := invoiceDetails.paymentHash
              amount := amount
              invoiceDetails := invoiceDetails
              createdAt := withTimezone invoiceDetails.creationTimestamp timezoneConfig
              description := invoiceDetails.description
              preimage := none
              personalNote := localPaymentData.personalNote }
          requestedAmount := requestedAmount
          lspFees := lspFees
          receivedOn := none
          receivedLnurlComment := none }

def paymentFromCreatedInvoice (self : Activities) (now : SystemTime)
    (createdInvoice : CreatedInvoice) : Result IncomingPaymentInfo :=
  match self.parsers.parseInvoice createdInvoice.invoice with
  | .error _ => .error (.permanentFailure
      ("Invalid invoice obtained from local db: " ++ createdInvoice.invoice))
  | .ok invoice =>
      match self.support.dataStore.retrievePaymentInfo invoice.paymentHash with
      | none => .error (.permanentFailure
          "Locally created invoice doesn't have local payment data")
      | some localPaymentData =>
          self.paymentFromInvoice now createdInvoice invoice localPaymentData

/-! ## List and get -/

/-- Corrupted activities are logged and left out. -/
def filterOutCorrupted {α : Type} : Result α → Option α
  | .ok a => some a
  | .error _ => none

/-- The activities of the local invoices whose hash no payment of the SDK has, followed by the
activities of the SDK. -/
def multiplexActivities (self : Activities) (now : SystemTime) (breezActivities : List Activity)
    (localCreatedInvoices : List CreatedInvoice) : List Activity :=
  -- only hashes of payments in the window that could be presented
  let breezPaymentHashes := breezActivities.filterMap Activity.hash
  let activities := (localCreatedInvoices.filter fun i => i.hash ∉ breezPaymentHashes).filterMap
    fun i => (filterOutCorrupted (self.paymentFromCreatedInvoice now i)).map .incomingPayment
  activities ++ breezActivities

/-- Sort by time, the latest first; activities of the same time keep their order. -/
def sortByTime (now : SystemTime) (activities : List Activity) : List Activity :=
  Latest.latestFirst (Activity.getTime now) activities

def leewayForPendingPayments : UInt32 := 30

def listPaymentsRequest (numberOfCompletedActivities : UInt32) : ListPaymentsRequest where
  filters := some [.sent, .received, .closedChannel]
  includeFailures := some true
  limit := some (numberOfCompletedActivities + leewayForPendingPayments)

/-- Of the activities, the latest first, take the pending ones among the first
`lookForPending` and the first `n` completed ones. -/
def select (lookForPending n : Nat) (activities : List Activity) : List Activity × List Activity :=
  let tail := activities.drop lookForPending
  let head := activities.take lookForPending
  let (pending, completed) := head.partition Activity.isPending
  (pending, (completed ++ tail.filter (!·.isPending)).take n)

/-- The activity of the swap that is in progress. -/
def swapActivity (self : Activities) (swap : SdkSwapInfo) : Activity :=
  .swap none
    { bitcoinAddress := swap.bitcoinAddress
      createdAt := withTimezone (unixTimestampToSystemTime swap.createdAt.toUInt64)
        self.support.userPreferences.timezoneConfig
      paidAmount := (asSats (swap.unconfirmedSats + swap.confirmedSats)).toAmountDown
        self.support.getExchangeRate }

/-- The payments of the SDK and the created invoices in one list, the latest first. -/
def mergedActivities (self : Activities) (now : SystemTime) (payments : List Payment)
    (createdInvoices : List CreatedInvoice) : List Activity :=
  let breezActivities := payments.filterMap fun p =>
    filterOutCorrupted (self.activityFromBreezPayment p)
  sortByTime now (self.multiplexActivities now breezActivities createdInvoices)

/-- List the latest activities, at most the given number of completed ones. -/
def list (self : Activities) (sdk : PaymentsSdk) (now : SystemTime)
    (numberOfCompletedActivities : UInt32) : Result ListActivitiesResponse :=
  match sdk.listPayments (listPaymentsRequest numberOfCompletedActivities) with
  | .error _ => .error (.runtimeError .nodeUnavailable "Failed to list payments")
  | .ok payments =>
      match self.support.dataStore.retrieveCreatedInvoices now numberOfCompletedActivities with
      | .error e => .error e
      | .ok createdInvoices =>
          -- Looking only at the latest activities omits old pending ones.
          let lookForPending := leewayForPendingPayments.toNat + createdInvoices.length
          let (pending, completed) := select lookForPending numberOfCompletedActivities.toNat
            (self.mergedActivities now payments createdInvoices)
          match sdk.inProgressSwap with
          | .error _ => .error (.runtimeError .nodeUnavailable "Failed to get in-progress swap")
          | .ok swap => .ok
              { pendingActivities := sortByTime now (pending ++ (swap.map self.swapActivity).toList)
                completedActivities := completed }

/-- Get an activity by its payment hash. -/
def get (self : Activities) (sdk : PaymentsSdk) (now : SystemTime) (hash : String) :
    Result Activity :=
  match sdk.paymentByHash hash with
  | .error _ => .error (.runtimeError .nodeUnavailable "Failed to get payment by hash")
  | .ok (some p) => self.activityFromBreezPayment p
  | .ok none => match self.support.dataStore.retrieveCreatedInvoiceByHash hash with
    | some invoice => (self.paymentFromCreatedInvoice now invoice).map .incomingPayment
    | none => .error (.invalidInput "No activity with provided hash was found")

end Activities

end LipaLightning
