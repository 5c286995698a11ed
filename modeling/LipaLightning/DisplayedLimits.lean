import LipaLightning.Activity.Payment
import LipaLightning.AmountRounding
import LipaLightning.Lightning
import LipaLightning.Onchain.Resolving

set_option autoImplicit false

/-! # The limits that are displayed

The details shown of an LNURL-pay and an LNURL-withdraw (`lightning/lnurl.rs`) and of a swap
address (`onchain/swap.rs`) have the limits of the request as amounts. A limit in msats that is
not a whole number of sats has to be rounded into the interval. The minimum is, in all three.
The maximum of the two LNURL requests is rounded up as well, so it can be too large; the one of
a swap is rounded down.
-/

namespace LipaLightning

open DirectedRounding

inductive UnsupportedDataType where
  | lnUrlAuth
  | nodeId
  | url
  | network (network : String)
  deriving DecidableEq, Repr

inductive DecodeDataError where
  | lnUrlError (msg : String)
  | unsupported (typ : UnsupportedDataType)
  | unrecognized (msg : String)
  deriving DecidableEq, Repr

/-- Information about an LNURL-pay. -/
structure LnUrlPayDetails where
  domain : String
  shortDescription : String
  longDescription : Option String
  minSendable : Amount
  maxSendable : Amount
  maxCommentLength : UInt16
  requestData : LnUrlPayRequestData
  deriving DecidableEq, Repr

def LnUrlPayDetails.fromLnurlPayRequestData (parsers : Parsers) (requestData : LnUrlPayRequestData)
    (exchangeRate : Option ExchangeRate) : Except DecodeDataError LnUrlPayDetails := do
  let (shortDescription, longDescription) ←
    (parseMetadata parsers requestData.metadataStr).mapError .lnUrlError
  .ok
    { domain := requestData.domain
      shortDescription
      longDescription
      minSendable := (asMsats requestData.minSendable).toAmountUp exchangeRate
      maxSendable := (asMsats requestData.maxSendable).toAmountUp exchangeRate
      maxCommentLength := requestData.commentAllowed
      requestData }

/-- Information about an LNURL-withdraw. -/
structure LnUrlWithdrawDetails where
  minWithdrawable : Amount
  maxWithdrawable : Amount
  requestData : LnUrlWithdrawRequestData
  deriving DecidableEq, Repr

def LnUrlWithdrawDetails.fromLnurlWithdrawRequestData (requestData : LnUrlWithdrawRequestData)
    (exchangeRate : Option ExchangeRate) : LnUrlWithdrawDetails where
  minWithdrawable := (asMsats requestData.minWithdrawable).toAmountUp exchangeRate
  maxWithdrawable := (asMsats requestData.maxWithdrawable).toAmountUp exchangeRate
  requestData

/-! ## Accepted amounts -/

/-- Every whole number of sats between the displayed limits is within the limits of the request,
whose unit is that part of a sat. -/
def DisplayedAccepted (unit : ℕ) (min max : UInt64) (displayedMin displayedMax : Amount) : Prop :=
  ∀ sats : ℕ, displayedMin.sats.toNat ≤ sats → sats ≤ displayedMax.sats.toNat →
    min.toNat ≤ unit * sats ∧ unit * sats ≤ max.toNat

/-- What is displayed of an LNURL-pay is within the limits of its request. -/
def LnUrlPayDetails.LimitsAccepted (details : LnUrlPayDetails) : Prop :=
  DisplayedAccepted 1000 details.requestData.minSendable details.requestData.maxSendable
    details.minSendable details.maxSendable

def LnUrlWithdrawDetails.LimitsAccepted (details : LnUrlWithdrawDetails) : Prop :=
  DisplayedAccepted 1000 details.requestData.minWithdrawable details.requestData.maxWithdrawable
    details.minWithdrawable details.maxWithdrawable

/-- The limits of a swap are in sats. -/
def SwapAddressInfo.LimitsAccepted (info : SwapAddressInfo) (swapInfo : BreezSwapInfo) : Prop :=
  DisplayedAccepted 1 swapInfo.minAllowedDeposit.toUInt64 swapInfo.maxAllowedDeposit.toUInt64
    info.minDeposit info.maxDeposit

/-- With both limits in msats rounded up, the displayed maximum itself is accepted only if it
was not rounded. -/
theorem displayedAccepted_up_iff {min max : UInt64} {displayedMin displayedMax : Amount}
    (hmin : displayedMin.sats = round min .up) (hmax : displayedMax.sats = round max .up)
    (hfits : max.toNat < 2 ^ 64 / 1000) (hle : min ≤ max) :
    DisplayedAccepted 1000 min max displayedMin displayedMax ↔ 1000 ∣ max.toNat := by
  rw [UInt64.le_iff_toNat_le] at hle
  have hminup := toNat_round_up_eq (m := min) (by omega)
  have hmaxup := toNat_round_up_eq (m := max) (by omega)
  have hpos : 0 < 1000 := by norm_num
  constructor
  · intro h
    -- the limits are in the right order, so the displayed maximum is between them
    have horder : displayedMin.sats.toNat ≤ displayedMax.sats.toNat := by
      rw [hmin, hmax, hminup, hmaxup, ceilDiv_le_iff_le_smul hpos]
      exact le_trans hle (le_smul_ceilDiv hpos)
    have haccepted := (h displayedMax.sats.toNat horder le_rfl).2
    rw [hmax, hmaxup] at haccepted
    have hle' : max.toNat ≤ 1000 * (max.toNat ⌈/⌉ 1000) := le_smul_ceilDiv hpos
    exact ⟨_, le_antisymm hle' haccepted⟩
  · rintro ⟨k, hk⟩ sats hlower hupper
    rw [hmin, hminup, ceilDiv_le_iff_le_smul hpos, smul_eq_mul] at hlower
    rw [hmax, hmaxup, hk, ← smul_eq_mul, smul_ceilDiv hpos] at hupper
    exact ⟨hlower, hk ▸ Nat.mul_le_mul_left 1000 hupper⟩

/-- Limits in whole sats are displayed as they are. -/
theorem displayedAccepted_sats {min max : UInt64} {displayedMin displayedMax : Amount}
    (hmin : displayedMin.sats = round (asSats min).msats .up)
    (hmax : displayedMax.sats = round (asSats max).msats .down)
    (hfits : FitsMsats max) (hle : min ≤ max) :
    DisplayedAccepted 1 min max displayedMin displayedMax := by
  intro sats hlower hupper
  rw [hmin, round_up_asSats (hfits.of_le hle)] at hlower
  rw [hmax, round_down_asSats hfits] at hupper
  omega

/-- The limits of an LNURL-pay that are displayed. -/
theorem LnUrlPayDetails.limits {parsers : Parsers} {requestData : LnUrlPayRequestData}
    {exchangeRate : Option ExchangeRate} {details : LnUrlPayDetails}
    (h : fromLnurlPayRequestData parsers requestData exchangeRate = .ok details) :
    details.requestData = requestData ∧
      details.minSendable.sats = round requestData.minSendable .up ∧
      details.maxSendable.sats = round requestData.maxSendable .up := by
  obtain ⟨descriptions, -, hdetails⟩ := bind_eq_ok.mp h
  obtain rfl := Except.ok.inj hdetails
  exact ⟨rfl, rfl, rfl⟩

/-- The limits of a swap address that are displayed are those that the SDK answered. -/
theorem Swap.create_limits {self : Swap} {sdk : OnchainSdk} {params : OpeningFeeParams}
    {swapInfo : BreezSwapInfo} {info : SwapAddressInfo}
    (hparams : self.getLspFeeParams = .ok params)
    (hswap : sdk.receiveOnchain ⟨some params⟩ = .ok swapInfo) (h : self.create sdk = .ok info) :
    info.minDeposit.sats = round (asSats swapInfo.minAllowedDeposit.toUInt64).msats .up ∧
      info.maxDeposit.sats = round (asSats swapInfo.maxAllowedDeposit.toUInt64).msats .down := by
  obtain ⟨params', hparams', h⟩ := bind_eq_ok.mp h
  obtain rfl : params = params' := by
    simpa only [mapError_eq_ok, hparams, Except.ok.injEq] using hparams'
  obtain ⟨swapInfo', hswap', hinfo⟩ := bind_eq_ok.mp h
  obtain rfl : swapInfo = swapInfo' := by simpa [hswap] using hswap'
  obtain rfl := Except.ok.inj hinfo
  exact ⟨rfl, rfl⟩

/-- **When the displayed limits are accepted.** The whole sats between the limits displayed of
an LNURL request are within its own limits exactly if its maximum is a whole number of sats.
Those of a swap address always are. -/
theorem displayedLimits_accepted_iff (parsers : Parsers) (sdk : OnchainSdk)
    (exchangeRate : Option ExchangeRate) :
    (∀ (requestData : LnUrlPayRequestData) (details : LnUrlPayDetails),
      LnUrlPayDetails.fromLnurlPayRequestData parsers requestData exchangeRate = .ok details →
      requestData.maxSendable.toNat < 2 ^ 64 / 1000 →
      requestData.minSendable ≤ requestData.maxSendable →
      (details.LimitsAccepted ↔ 1000 ∣ requestData.maxSendable.toNat)) ∧
    (∀ requestData : LnUrlWithdrawRequestData,
      requestData.maxWithdrawable.toNat < 2 ^ 64 / 1000 →
      requestData.minWithdrawable ≤ requestData.maxWithdrawable →
      ((LnUrlWithdrawDetails.fromLnurlWithdrawRequestData requestData
          exchangeRate).LimitsAccepted ↔
        1000 ∣ requestData.maxWithdrawable.toNat)) ∧
    (∀ (swap : Swap) (params : OpeningFeeParams) (swapInfo : BreezSwapInfo)
      (info : SwapAddressInfo),
      swap.getLspFeeParams = .ok params → sdk.receiveOnchain ⟨some params⟩ = .ok swapInfo →
      swap.create sdk = .ok info → FitsMsats swapInfo.maxAllowedDeposit.toUInt64 →
      swapInfo.minAllowedDeposit.toUInt64 ≤ swapInfo.maxAllowedDeposit.toUInt64 →
      info.LimitsAccepted swapInfo) := by
  refine ⟨?_, ?_, ?_⟩
  · intro requestData details h hfits hle
    obtain ⟨rfl, hmin, hmax⟩ := LnUrlPayDetails.limits h
    exact displayedAccepted_up_iff hmin hmax hfits hle
  · intro requestData hfits hle
    exact displayedAccepted_up_iff rfl rfl hfits hle
  · intro swap params swapInfo info hparams hswap h hfits hle
    obtain ⟨hmin, hmax⟩ := Swap.create_limits hparams hswap h
    exact displayedAccepted_sats hmin hmax hfits hle

/-- An LNURL-pay and an LNURL-withdraw of 1000 to 5000 msats, and a swap of 50 000 to 4 000 000
sats. -/
theorem displayedLimits_accepted_iff_whole :
    let pay : LnUrlPayRequestData := ⟨"https://a.b", 1000, 5000, "[]", 0, "a.b"⟩
    let withdraw : LnUrlWithdrawRequestData := ⟨"https://a.b", "k1", "", 1000, 5000⟩
    let swapInfo : BreezSwapInfo := ⟨"bc1qswap", 50000, 4000000⟩
    ((⟨"a.b", "coffee", none, ⟨1, none⟩, ⟨5, none⟩, 0, pay⟩ : LnUrlPayDetails).LimitsAccepted ↔
      1000 ∣ pay.maxSendable.toNat) ∧
    ((LnUrlWithdrawDetails.fromLnurlWithdrawRequestData withdraw none).LimitsAccepted ↔
      1000 ∣ withdraw.maxWithdrawable.toNat) ∧
    (⟨"bc1qswap", ⟨50000, none⟩, ⟨4000000, none⟩, ⟨0, none⟩⟩ : SwapAddressInfo).LimitsAccepted
      swapInfo := by
  intro pay withdraw swapInfo
  let params : OpeningFeeParams := ⟨2500000, 4000, "2024-01-01", 4320, 432, "promise"⟩
  let parsers : Parsers := ⟨fun _ => .error "", fun _ => .ok [("text/plain", "coffee")]⟩
  let swap : Swap := ⟨⟨"CHF", ⟨"Europe/Zurich", 60⟩⟩, ⟨[], none, some params⟩, .new .migrated none⟩
  let sdk : OnchainSdk :=
    { nodeInfo := .error ""
      receiveOnchain := fun _ => .ok swapInfo
      recommendedFees := .error ""
      prepareRefund := fun _ => .error ""
      refund := fun _ => .error ""
      prepareRedeemOnchainFunds := fun _ => .error (.generic "")
      redeemOnchainFunds := fun _ => .error (.generic "")
      errorText := fun _ => ""
      receiveOnchainErrorText := fun _ => ""
      redeemErrorFromSdkError := .generic }
  obtain ⟨hpay, hwithdraw, hswap⟩ := displayedLimits_accepted_iff parsers sdk none
  exact ⟨hpay pay _ (by decide +kernel) (by decide) (by decide),
    hwithdraw withdraw (by decide) (by decide),
    hswap swap params swapInfo _ rfl rfl (by decide +kernel) (by unfold FitsMsats; decide)
      (by decide)⟩

/-- An LNURL-withdraw of at most 1500 msats is displayed as one of at most 2 sats. -/
theorem displayed_maximum_refused :
    ¬ ((∀ (parsers : Parsers) (requestData : LnUrlPayRequestData)
        (exchangeRate : Option ExchangeRate) (details : LnUrlPayDetails),
        LnUrlPayDetails.fromLnurlPayRequestData parsers requestData exchangeRate = .ok details →
        requestData.maxSendable.toNat < 2 ^ 64 / 1000 →
        requestData.minSendable ≤ requestData.maxSendable → details.LimitsAccepted) ∧
      (∀ (requestData : LnUrlWithdrawRequestData) (exchangeRate : Option ExchangeRate),
        requestData.maxWithdrawable.toNat < 2 ^ 64 / 1000 →
        requestData.minWithdrawable ≤ requestData.maxWithdrawable →
        (LnUrlWithdrawDetails.fromLnurlWithdrawRequestData requestData
          exchangeRate).LimitsAccepted) ∧
      (∀ (swap : Swap) (sdk : OnchainSdk) (params : OpeningFeeParams) (swapInfo : BreezSwapInfo)
        (info : SwapAddressInfo),
        swap.getLspFeeParams = .ok params → sdk.receiveOnchain ⟨some params⟩ = .ok swapInfo →
        swap.create sdk = .ok info → FitsMsats swapInfo.maxAllowedDeposit.toUInt64 →
        swapInfo.minAllowedDeposit.toUInt64 ≤ swapInfo.maxAllowedDeposit.toUInt64 →
        info.LimitsAccepted swapInfo)) := by
  rintro ⟨-, hwithdraw, -⟩
  have haccepted := hwithdraw ⟨"https://a.b", "k1", "", 1000, 1500⟩ none (by decide) (by decide)
    2 (by decide) (by decide)
  exact absurd haccepted.2 (by decide)

end LipaLightning
