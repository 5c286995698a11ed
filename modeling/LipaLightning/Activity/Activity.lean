import LipaLightning.Activity.Payment

set_option autoImplicit false

/-! # Activities

The kinds of activities, the time they are listed under and whether they are pending
(`activity.rs`).
-/

namespace LipaLightning

/-- Information about a pending or successful swap. -/
structure SwapInfo where
  bitcoinAddress : String
  createdAt : TzTime
  paidAmount : Amount
  deriving DecidableEq

structure ReverseSwapInfo where
  paidOnchainAmount : Amount
  swapFeesAmount : Amount
  claimTxid : Option String
  status : ReverseSwapStatus
  deriving DecidableEq

inductive ChannelCloseState where
  | pending
  | confirmed
  deriving DecidableEq, Repr

/-- Information about a closed channel. -/
structure ChannelCloseInfo where
  amount : Amount
  state : ChannelCloseState
  closedAt : Option TzTime
  closingTxId : String
  deriving DecidableEq

inductive Activity where
  | incomingPayment (incomingPaymentInfo : IncomingPaymentInfo)
  | outgoingPayment (outgoingPaymentInfo : OutgoingPaymentInfo)
  | offerClaim (incomingPaymentInfo : IncomingPaymentInfo) (offer : Offer)
  | swap (incomingPaymentInfo : Option IncomingPaymentInfo) (swapInfo : SwapInfo)
  | reverseSwap (outgoingPaymentInfo : OutgoingPaymentInfo) (reverseSwapInfo : ReverseSwapInfo)
  | channelClose (channelCloseInfo : ChannelCloseInfo)
  deriving DecidableEq

namespace Activity

def getPaymentInfo : Activity → Option PaymentInfo
  | .incomingPayment info => some info.paymentInfo
  | .outgoingPayment info => some info.paymentInfo
  | .offerClaim info _ => some info.paymentInfo
  | .swap info _ => info.map IncomingPaymentInfo.paymentInfo
  | .reverseSwap info _ => some info.paymentInfo
  | .channelClose _ => none

/-- The payment hash of the activity, if it has one. -/
def hash (a : Activity) : Option String := a.getPaymentInfo.map PaymentInfo.hash

/-- The time an activity is listed under: `now` for a channel close that is pending. -/
def getTime (now : SystemTime) (a : Activity) : SystemTime :=
  match a.getPaymentInfo with
  | some paymentInfo => paymentInfo.createdAt.time
  | none => match a with
    | .channelClose info => match info.closedAt with
      | some time => time.time
      | none => now
    | .swap none swapInfo => swapInfo.createdAt.time
    | _ => now

def isPending (a : Activity) : Bool :=
  match a with
  | .reverseSwap _ reverseSwapInfo =>
      reverseSwapInfo.status = .initial || reverseSwapInfo.status = .inProgress
  | _ => match a.getPaymentInfo with
    | some paymentInfo => paymentInfo.paymentState.isPending
    | none => match a with
      | .channelClose info => info.state = .pending
      | .swap none _ => true
      | _ => false

end Activity

/-- Information about **all** pending and **only** requested completed activities. -/
structure ListActivitiesResponse where
  pendingActivities : List Activity
  completedActivities : List Activity
  deriving DecidableEq

end LipaLightning
