import LipaLightning.Activity.Activities
import LipaLightning.CreatedInvoices

set_option autoImplicit false

/-! # Settled invoices

The amounts of a created invoice are computed from the invoice and the channel opening fee that
is stored with it (`Activities::payment_from_created_invoice`), and those of its payment from
what the SDK reports (`IncomingPaymentInfo::new`). The first computation subtracts in sats, the
second one rounds a difference of msats. They agree, because a difference of whole sats and a
fee is rounded down by rounding the fee up.
-/

namespace LipaLightning

/-! ## The amounts of a payment that is received -/

/-- The amounts of an incoming payment, in sats. -/
structure ShownSats where
  requestedAmount : UInt64
  lspFees : UInt64
  amount : UInt64
  deriving DecidableEq

def IncomingPaymentInfo.shownSats (info : IncomingPaymentInfo) : ShownSats :=
  ⟨info.requestedAmount.sats, info.lspFees.sats, info.paymentInfo.amount.sats⟩

/-- The amount and the fees are what was requested, or one more. -/
def ShownSats.AddUp (shown : ShownSats) : Prop :=
  shown.amount.toNat + shown.lspFees.toNat = shown.requestedAmount.toNat ∨
    shown.amount.toNat + shown.lspFees.toNat = shown.requestedAmount.toNat + 1

/-- The payment is received over lightning. -/
structure Payment.IsIncoming (p : Payment) (data : LnPaymentDetails) : Prop where
  paymentType : p.paymentType = .received
  details : p.details = .ln data

theorem IncomingPaymentInfo.new_received {parsers : Parsers} {p : Payment}
    {data : LnPaymentDetails} {invoice : LNInvoice} (hp : p.IsIncoming data)
    (hparse : parsers.parseInvoice data.bolt11 = .ok invoice) (exchangeRate : Option ExchangeRate)
    (tzConfig : TzConfig) (personalNote receivedOn comment : Option String) (domain : String) :
    ∃ info, IncomingPaymentInfo.new parsers p exchangeRate tzConfig personalNote receivedOn comment
        domain = .ok info ∧
      info.shownSats = ⟨round (p.amountMsat + p.feeMsat) .down, round p.feeMsat .up,
        round p.amountMsat .down⟩ := by
  unfold IncomingPaymentInfo.new PaymentInfo.new
  rw [hp.details]
  dsimp only
  rw [hparse]
  unfold paymentTime paymentAmount
  rw [hp.paymentType]
  exact ⟨_, rfl, rfl⟩

/-- What is shown of a payment that is received are its rounded msats. -/
theorem shownSats_of_received {parsers : Parsers} {p : Payment} {exchangeRate : Option ExchangeRate}
    {tzConfig : TzConfig} {personalNote receivedOn comment : Option String} {domain : String}
    {info : IncomingPaymentInfo} (hp : p.paymentType = .received)
    (h : IncomingPaymentInfo.new parsers p exchangeRate tzConfig personalNote receivedOn comment
      domain = .ok info) :
    info.shownSats = ⟨round (p.amountMsat + p.feeMsat) .down, round p.feeMsat .up,
      round p.amountMsat .down⟩ := by
  cases hdetails : p.details with
  | closedChannel data =>
      simp only [IncomingPaymentInfo.new, PaymentInfo.new, hdetails] at h
      cases h
  | ln data =>
      cases hparse : parsers.parseInvoice data.bolt11 with
      | error e =>
          simp only [IncomingPaymentInfo.new, PaymentInfo.new, hdetails, hparse] at h
          cases h
      | ok invoice =>
          obtain ⟨info', hinfo', hshown⟩ := IncomingPaymentInfo.new_received ⟨hp, hdetails⟩ hparse
            exchangeRate tzConfig personalNote receivedOn comment domain
          obtain rfl : info' = info := Except.ok.inj (hinfo'.symm.trans h)
          exact hshown

/-- Rounding both parts can give one more than rounding the sum. If only one of the two sums of
msats wraps, the difference is far off. -/
theorem addUp_iff (amountMsat feeMsat : UInt64) :
    ShownSats.AddUp ⟨round (amountMsat + feeMsat) .down, round feeMsat .up,
        round amountMsat .down⟩ ↔
      (feeMsat.toNat + 999 < 2 ^ 64 ↔ amountMsat.toNat + feeMsat.toNat < 2 ^ 64) := by
  unfold ShownSats.AddUp
  have hamount := amountMsat.toNat_lt
  have hfee := feeMsat.toNat_lt
  simp only [toNat_round_down, toNat_round_up, UInt64.toNat_add]
  by_cases hup : feeMsat.toNat + 999 < 2 ^ 64
  · rw [Nat.mod_eq_of_lt hup]
    by_cases hsum : amountMsat.toNat + feeMsat.toNat < 2 ^ 64
    · rw [Nat.mod_eq_of_lt hsum]
      omega
    · rw [add_mod_of_wraps hamount hfee hsum]
      omega
  · rw [add_mod_of_wraps hfee (by decide) hup]
    by_cases hsum : amountMsat.toNat + feeMsat.toNat < 2 ^ 64
    · rw [Nat.mod_eq_of_lt hsum]
      omega
    · rw [add_mod_of_wraps hamount hfee hsum]
      omega

/-! ## The amounts of a created invoice -/

/-- The difference of whole sats and a fee, in sats: rounding the difference down is rounding the
fee up. -/
theorem round_down_sub {amountSat feeMsat : UInt64} (hfits : amountSat.toNat * 1000 < 2 ^ 64)
    (hup : feeMsat.toNat + 999 < 2 ^ 64) (hfee : feeMsat ≤ (asSats amountSat).msats) :
    round ((asSats amountSat).msats - feeMsat) .down = amountSat - round feeMsat .up ∧
      (round feeMsat .up).toNat ≤ amountSat.toNat := by
  have hmsats : (asSats amountSat).msats.toNat = amountSat.toNat * 1000 := by
    rw [toNat_msats, Nat.mod_eq_of_lt hfits]
  have hle : feeMsat.toNat ≤ amountSat.toNat * 1000 := by
    rw [← hmsats]
    exact UInt64.le_iff_toNat_le.mp hfee
  have hround : (round feeMsat .up).toNat = (feeMsat.toNat + 999) / 1000 := by
    rw [toNat_round_up, Nat.mod_eq_of_lt hup]
  have hround_le : (round feeMsat .up).toNat ≤ amountSat.toNat := by omega
  refine ⟨UInt64.toNat_inj.mp ?_, hround_le⟩
  rw [toNat_round_down, UInt64.toNat_sub_of_le _ _ hfee, hmsats,
    UInt64.toNat_sub_of_le _ _ (UInt64.le_iff_toNat_le.mpr hround_le), hround]
  omega

/-- The invoice is read from the row. -/
structure CreatedInvoice.IsReadFrom (i : CreatedInvoice) (row : CreatedInvoiceRow) : Prop where
  invoice : i.invoice = row.invoice
  channelOpeningFees : i.channelOpeningFees = row.channelOpeningFees

theorem isReadFrom_of_createdInvoiceFromRow {row : CreatedInvoiceRow} {i : CreatedInvoice}
    (h : DataStore.createdInvoiceFromRow row = .ok i) : i.IsReadFrom row := by
  unfold DataStore.createdInvoiceFromRow at h
  split at h
  · obtain rfl := Except.ok.inj h
    exact ⟨rfl, rfl⟩
  · cases h

/-- Whatever the library reads of a created invoice is read from a row of its hash. -/
theorem isReadFrom_of_retrieveCreatedInvoiceByHash {dataStore : DataStore} {hash : String}
    {i : CreatedInvoice} (h : dataStore.retrieveCreatedInvoiceByHash hash = some i) :
    ∃ row ∈ dataStore.conn.createdInvoices, row.hash = integerAffinity hash ∧ i.IsReadFrom row := by
  obtain ⟨row, hfind, rfl⟩ := Option.map_eq_some_iff.mp h
  have hhash := List.find?_some hfind
  exact ⟨row, List.mem_of_find?_eq_some hfind, by simpa using hhash, rfl, rfl⟩

/-- The row of an invoice that was created. -/
def createdRow (response : ReceivePaymentResponse) : CreatedInvoiceRow where
  hash := integerAffinity response.lnInvoice.paymentHash
  invoice := response.lnInvoice.bolt11
  channelOpeningFees := response.openingFeeMsat
  invoiceExpiryTimestamp := response.lnInvoice.timestamp + response.lnInvoice.expiry

/-- Creating an invoice adds its row, and the fee in it is an `i64`. -/
theorem Bolt11.create_row {support : Support} {sdk : Sdk} {infoEnv invoiceEnv : Env}
    {amountSat : UInt64} {lspFeeParams : Option OpeningFeeParams} {description : String}
    {response : ReceivePaymentResponse}
    (hresponse : sdk.receivePayment ⟨(asSats amountSat).msats, description, lspFeeParams⟩
      = .ok response)
    (hcreated : succeeded (Bolt11.create support sdk infoEnv invoiceEnv amountSat lspFeeParams
      description).1 = true) :
    (Bolt11.create support sdk infoEnv invoiceEnv amountSat lspFeeParams
        description).2.dataStore.conn.createdInvoices
      = support.dataStore.conn.createdInvoices ++ [createdRow response] ∧
    (response.openingFeeMsat.getD 0).toNat < 2 ^ 63 := by
  have hcommits : DataStore.invoiceCommits invoiceEnv response.openingFeeMsat
      (response.lnInvoice.timestamp + response.lnInvoice.expiry) = true := by
    rw [← DataStore.storeCreatedInvoice_succeeded
      (support.storePaymentInfo infoEnv response.lnInvoice.paymentHash none).dataStore invoiceEnv
      response.lnInvoice.paymentHash response.lnInvoice.bolt11]
    unfold Bolt11.create at hcreated
    rw [hresponse] at hcreated
    dsimp only at hcreated
    generalize DataStore.storeCreatedInvoice _ _ _ _ _ _ = answer at hcreated ⊢
    obtain ⟨stored, dataStore⟩ := answer
    cases stored with
    | error e => cases hcreated
    | ok u => rfl
  constructor
  · have hrows := ParsedAction.createdInvoices_action support
      (.create sdk infoEnv invoiceEnv amountSat lspFeeParams description)
    simp only [LibraryAction.calls, hresponse, List.flatMap_cons, List.flatMap_nil,
      newRows_invoiceCall, if_pos hcommits, List.append_nil] at hrows
    exact hrows
  · cases hfee : response.openingFeeMsat with
    | none =>
        rw [Option.getD_none, UInt64.toNat_zero]
        exact Nat.two_pow_pos 63
    | some fee =>
        rw [hfee] at hcommits
        simp only [DataStore.invoiceCommits, Option.toList_some, List.all_cons, List.all_nil,
          Bool.and_eq_true, decide_eq_true_eq, Bool.and_true] at hcommits
        have hlt := UInt64.lt_iff_toNat_lt.mp hcommits.1.2
        have hbound : (2 ^ 63 : UInt64).toNat = 2 ^ 63 := by decide +kernel
        rw [Option.getD_some]
        omega

/-- The numbers of a created invoice before it is paid. -/
def shownBefore (amountSat feeMsat : UInt64) : ShownSats :=
  ⟨amountSat, round feeMsat .up, amountSat - round feeMsat .up⟩

/-- A created invoice is shown whenever its payment data is there. -/
theorem Activities.paymentFromCreatedInvoice_shown {self : Activities} {now : SystemTime}
    {i : CreatedInvoice} {response : ReceivePaymentResponse} {amountSat : UInt64}
    {data : LocalPaymentData} (hread : i.IsReadFrom (createdRow response))
    (hparse : self.parsers.parseInvoice response.lnInvoice.bolt11 = .ok response.lnInvoice)
    (hamount : response.lnInvoice.amountMsat = some (asSats amountSat).msats)
    (hdata : self.support.dataStore.retrievePaymentInfo response.lnInvoice.paymentHash = some data)
    (hfits : amountSat.toNat * 1000 < 2 ^ 64)
    (hfee : (round (response.openingFeeMsat.getD 0) .up).toNat ≤ amountSat.toNat) :
    ∃ info, self.paymentFromCreatedInvoice now i = .ok info ∧
      info.shownSats = shownBefore amountSat (response.openingFeeMsat.getD 0) := by
  have hinvoice : i.invoice = response.lnInvoice.bolt11 := hread.invoice
  have hfees : i.channelOpeningFees = response.openingFeeMsat := hread.channelOpeningFees
  unfold paymentFromCreatedInvoice
  rw [hinvoice, hparse]
  dsimp only
  rw [hdata]
  unfold paymentFromInvoice
  simp only [InvoiceDetails.fromLnInvoice, hamount, hfees, Option.map_some]
  refine ⟨_, rfl, ?_⟩
  have hle : (amountSat - round (response.openingFeeMsat.getD 0) .up).toNat * 1000 < 2 ^ 64 := by
    have hsub := UInt64.toNat_sub_of_le _ _ (UInt64.le_iff_toNat_le.mpr hfee)
    rw [hsub]
    exact (Nat.mul_le_mul_right 1000 (Nat.sub_le _ _)).trans_lt hfits
  simp only [IncomingPaymentInfo.shownSats, shownBefore, Msats.toAmountDown_sats,
    Msats.toAmountUp_sats, Sats.toAmountDown_sats, asMsats, round_down_msats hfits,
    round_down_msats hle]

/-! ## Before and after -/

/-- The payment of an invoice for `amountSat`: the fee is taken from the amount. -/
structure Settles (p : Payment) (response : ReceivePaymentResponse) (amountSat : UInt64) :
    Prop where
  incoming : ∃ data, p.IsIncoming data ∧ data.bolt11 = response.lnInvoice.bolt11
  feeMsat : p.feeMsat = response.openingFeeMsat.getD 0
  amountMsat : p.amountMsat = (asSats amountSat).msats - response.openingFeeMsat.getD 0

def rentInvoice : LNInvoice := ⟨"lnbc1", "02aa", "f0", none, some 21000, 1700000000, 3600⟩

/-- The answer for the invoice, with a fee of two and a half sats. -/
def rentResponse : ReceivePaymentResponse := ⟨rentInvoice, some 2500⟩

def rentParsers : Parsers where
  parseInvoice s := if s = "lnbc1" then .ok rentInvoice else .error "not an invoice"
  parseMetadataItems _ := .ok []

def rentSdk : Sdk := { offlineSdk with receivePayment := fun _ => .ok rentResponse }

def rentWallet : Support := newWallet ⟨"CHF", ⟨"Europe/Zurich", 60⟩⟩ ⟨[], none, none⟩ none

def faultless : Env := ⟨1700000000000000000, fun _ => false⟩

/-- The activities of the wallet that created the invoice. -/
def rentActivities : Activities where
  support := (Bolt11.create rentWallet rentSdk faultless faultless 21 none "rent").2
  parsers := rentParsers
  lipaLightningDomain := "@lipa.swiss"

/-- A payment that is received for the invoice. -/
def rentPayment (amountMsat feeMsat : UInt64) : Payment where
  paymentType := .received
  paymentTime := 1700000600
  amountMsat := amountMsat
  feeMsat := feeMsat
  status := .complete
  details := .ln
    { paymentHash := "f0", paymentPreimage := "", bolt11 := "lnbc1", lnurlPayDomain := none
      lnurlPayComment := none, lnurlMetadata := none, lnAddress := none, swapInfo := none
      reverseSwapInfo := none }

end LipaLightning
