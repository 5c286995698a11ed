import LipaLightning.Errors
import LipaLightning.Invoice
import LipaLightning.Offer

set_option autoImplicit false

/-! # Payments

The payments of the SDK and the information shown about them (`payment.rs`). The parsers that
are not part of the library, of bolt11 invoices and of JSON, are the fields of `Parsers`.
-/

namespace LipaLightning

/-! ## Payments of the SDK -/

inductive PaymentType where
  | sent
  | received
  | closedChannel
  deriving DecidableEq, Repr

inductive PaymentStatus where
  | pending
  | complete
  | failed
  deriving DecidableEq, Repr

/-- `breez_sdk_core::SwapInfo`, the fields the library reads. -/
structure SdkSwapInfo where
  bitcoinAddress : String
  createdAt : Int64
  paidMsat : UInt64
  unconfirmedSats : UInt64
  confirmedSats : UInt64
  deriving DecidableEq

inductive ReverseSwapStatus where
  | initial
  | inProgress
  | cancelled
  | completedSeen
  | completedConfirmed
  deriving DecidableEq, Repr

/-- `breez_sdk_core::ReverseSwapInfo`, the fields the library reads. -/
structure SdkReverseSwapInfo where
  id : String
  claimTxid : Option String
  onchainAmountSat : UInt64
  status : ReverseSwapStatus
  deriving DecidableEq

structure LnPaymentDetails where
  paymentHash : String
  paymentPreimage : String
  bolt11 : String
  lnurlPayDomain : Option String
  lnurlPayComment : Option String
  lnurlMetadata : Option String
  lnAddress : Option String
  swapInfo : Option SdkSwapInfo
  reverseSwapInfo : Option SdkReverseSwapInfo
  deriving DecidableEq

structure ClosedChannelPaymentDetails where
  closingTxid : Option String
  deriving DecidableEq

inductive PaymentDetails where
  | ln (data : LnPaymentDetails)
  | closedChannel (data : ClosedChannelPaymentDetails)
  deriving DecidableEq

/-- `breez_sdk_core::Payment`, the fields the library reads. -/
structure Payment where
  paymentType : PaymentType
  paymentTime : Int64
  amountMsat : UInt64
  feeMsat : UInt64
  status : PaymentStatus
  details : PaymentDetails
  deriving DecidableEq

/-- The payment hash, if it is a lightning payment. -/
def Payment.hash (p : Payment) : Option String :=
  match p.details with
  | .ln data => some data.paymentHash
  | .closedChannel _ => none

/-! ## Parsers -/

/-- The parsers that are not part of the library: `breez_sdk_core::parse_invoice`, and
`serde_json` for a list of metadata items (key and value). -/
structure Parsers where
  parseInvoice : String → Except String LNInvoice
  parseMetadataItems : String → Except String (List (String × String))

/-- The short and the long description in the metadata of an LNURL-pay. -/
def parseMetadata (parsers : Parsers) (metadata : String) :
    Except String (String × Option String) :=
  match parsers.parseMetadataItems metadata with
  | .error e => .error ("Invalid metadata JSON: " ++ e)
  | .ok items =>
      let (shortDescription, longDescription) := items.foldl
        (fun (descriptions : String × Option String) item =>
          if item.1 = "text/plain" then (item.2, descriptions.2)
          else if item.1 = "text/long-desc" then (descriptions.1, some item.2)
          else descriptions)
        ("", none)
      if shortDescription.isEmpty then .error "Metadata missing short description"
      else .ok (shortDescription, longDescription)

/-- The phone number a lightning address of the domain stands for. -/
def lightningAddressToPhoneNumber (address domain : String) : Option String :=
  match address.toList with
  | '-' :: cs =>
      let suffix := domain.toList
      if suffix.isSuffixOf cs then
        let username := cs.take (cs.length - suffix.length)
        if username.all Char.isDigit then some ("+" ++ String.ofList username) else none
      else none
  | _ => none

/-! ## Payment information -/

structure TzTime where
  time : SystemTime
  timezoneId : String
  timezoneUtcOffsetSecs : Int32
  deriving DecidableEq

def withTimezone (time : SystemTime) (tzConfig : TzConfig) : TzTime :=
  ⟨time, tzConfig.timezoneId, tzConfig.timezoneUtcOffsetSecs⟩

inductive PaymentState where
  | created
  | succeeded
  | failed
  | retried
  | invoiceExpired
  deriving DecidableEq, Repr

def PaymentState.from : PaymentStatus → PaymentState
  | .pending => .created
  | .complete => .succeeded
  | .failed => .failed

def PaymentState.isPending : PaymentState → Bool
  | .created | .retried => true
  | .succeeded | .failed | .invoiceExpired => false

structure PaymentInfo where
  paymentState : PaymentState
  hash : String
  amount : Amount
  invoiceDetails : InvoiceDetails
  createdAt : TzTime
  description : String
  preimage : Option String
  personalNote : Option String
  deriving DecidableEq

/-- The time a payment is listed under: the one of the invoice for a payment that is received,
so that it does not move when the invoice is paid. -/
def paymentTime (breezPayment : Payment) (invoiceDetails : InvoiceDetails) : Result SystemTime :=
  match breezPayment.paymentType with
  | .sent => .ok (unixTimestampToSystemTime breezPayment.paymentTime.toUInt64)
  | .received => .ok invoiceDetails.creationTimestamp
  | .closedChannel => .error (.permanentFailure
      "Current interface doesn't support PaymentDetails::ClosedChannel")

def paymentAmount (breezPayment : Payment) (exchangeRate : Option ExchangeRate) : Result Amount :=
  match breezPayment.paymentType with
  | .sent =>
      .ok ((asMsats (breezPayment.amountMsat + breezPayment.feeMsat)).toAmountUp exchangeRate)
  | .received => .ok ((asMsats breezPayment.amountMsat).toAmountDown exchangeRate)
  | .closedChannel => .error (.permanentFailure
      "PaymentInfo cannot be created from channel close")

def PaymentInfo.new (parsers : Parsers) (breezPayment : Payment)
    (exchangeRate : Option ExchangeRate) (tzConfig : TzConfig) (personalNote : Option String) :
    Result PaymentInfo :=
  match breezPayment.details with
  | .closedChannel _ => .error (.permanentFailure
      "PaymentInfo cannot be created from channel close")
  | .ln paymentDetails =>
      match parsers.parseInvoice paymentDetails.bolt11 with
      | .error _ => .error (.permanentFailure
          ("Invalid invoice provided by the Breez SDK: " ++ paymentDetails.bolt11))
      | .ok invoice => do
          let invoiceDetails := InvoiceDetails.fromLnInvoice invoice exchangeRate
          let time ← paymentTime breezPayment invoiceDetails
          let amount ← paymentAmount breezPayment exchangeRate
          let description :=
            match paymentDetails.lnurlMetadata.map (parseMetadata parsers) with
            | some (.ok (shortDescription, _)) => shortDescription
            | _ => invoiceDetails.description
          let preimage := if paymentDetails.paymentPreimage.isEmpty then none
            else some paymentDetails.paymentPreimage
          .ok
            { paymentState := .from breezPayment.status
              hash := paymentDetails.paymentHash
              amount := amount
              invoiceDetails := invoiceDetails
              createdAt := withTimezone time tzConfig
              description := description
              preimage := preimage
              personalNote := personalNote }

/-- User-friendly representation of a payment's recipient. -/
inductive Recipient where
  | lightningAddress (address : String)
  | lnUrlPayDomain (domain : String)
  | phoneNumber (e164 : String)
  | unknown
  deriving DecidableEq

def Recipient.fromLightningAddress (address lipaLightningDomain : String) : Recipient :=
  match lightningAddressToPhoneNumber address lipaLightningDomain with
  | some e164 => .phoneNumber e164
  | none => .lightningAddress address

def Recipient.fromLnPaymentDetails (paymentDetails : LnPaymentDetails)
    (lipaLightningDomain : String) : Recipient :=
  match paymentDetails.lnAddress, paymentDetails.lnurlPayDomain with
  | some address, _ => .fromLightningAddress address lipaLightningDomain
  | none, some domain => .lnUrlPayDomain domain
  | none, none => .unknown

structure IncomingPaymentInfo where
  paymentInfo : PaymentInfo
  requestedAmount : Amount
  lspFees : Amount
  receivedOn : Option Recipient
  receivedLnurlComment : Option String
  deriving DecidableEq

def IncomingPaymentInfo.new (parsers : Parsers) (breezPayment : Payment)
    (exchangeRate : Option ExchangeRate) (tzConfig : TzConfig) (personalNote : Option String)
    (receivedOn receivedLnurlComment : Option String) (lipaLightningDomain : String) :
    Result IncomingPaymentInfo := do
  let lspFees := (asMsats breezPayment.feeMsat).toAmountUp exchangeRate
  let requestedAmount :=
    (asMsats (breezPayment.amountMsat + breezPayment.feeMsat)).toAmountDown exchangeRate
  let paymentInfo ← PaymentInfo.new parsers breezPayment exchangeRate tzConfig personalNote
  .ok
    { paymentInfo := paymentInfo
      requestedAmount := requestedAmount
      lspFees := lspFees
      receivedOn := receivedOn.map (Recipient.fromLightningAddress · lipaLightningDomain)
      receivedLnurlComment := receivedLnurlComment }

structure OutgoingPaymentInfo where
  paymentInfo : PaymentInfo
  networkFees : Amount
  recipient : Recipient
  commentForRecipient : Option String
  deriving DecidableEq

def OutgoingPaymentInfo.new (parsers : Parsers) (breezPayment : Payment)
    (exchangeRate : Option ExchangeRate) (tzConfig : TzConfig) (personalNote : Option String)
    (lipaLightningDomain : String) : Result OutgoingPaymentInfo :=
  match breezPayment.details with
  | .closedChannel _ => .error (.permanentFailure
      "OutgoingPaymentInfo cannot be created from channel close")
  | .ln data => do
      let networkFees := (asMsats breezPayment.feeMsat).toAmountUp exchangeRate
      let paymentInfo ← PaymentInfo.new parsers breezPayment exchangeRate tzConfig personalNote
      .ok
        { paymentInfo := paymentInfo
          networkFees := networkFees
          recipient := .fromLnPaymentDetails data lipaLightningDomain
          commentForRecipient := data.lnurlPayComment }

end LipaLightning
