import LipaLightning.Basic.ReplaceFirst
import LipaLightning.Basic.Traced
import LipaLightning.Recovery.SymmetricEncryption
import LipaLightning.Text

set_option autoImplicit false

/-! # The notification webhook

`register_webhook_url` (`lib.rs`): the url the SDK calls when the wallet is to be notified carries
the encrypted id of the wallet. Who has the secret reads the id of the wallet from the url.
-/

namespace LipaLightning

open ReplaceFirst

/-! ## Hex -/

def hexValue (c : Char) : Option ℕ :=
  if 48 ≤ c.toNat ∧ c.toNat ≤ 57 then some (c.toNat - 48)
  else if 97 ≤ c.toNat ∧ c.toNat ≤ 102 then some (c.toNat - 87)
  else if 65 ≤ c.toNat ∧ c.toNat ≤ 70 then some (c.toNat - 55)
  else none

/-- `hex::decode`. -/
def hexDecode : List Char → Option (List UInt8)
  | [] => some []
  | [_] => none
  | high :: low :: cs => do
      let h ← hexValue high
      let l ← hexValue low
      let bytes ← hexDecode cs
      some (UInt8.ofNat (16 * h + l) :: bytes)

theorem hexValue_digitChar {n : ℕ} (h : n < 16) : hexValue n.digitChar = some n := by
  have hall : ∀ n : Fin 16, hexValue n.val.digitChar = some n.val := by decide
  exact hall ⟨n, h⟩

theorem hexDecode_hexEncode (bytes : List UInt8) :
    hexDecode (hexEncode bytes).toList = some bytes := by
  unfold hexEncode
  rw [String.toList_ofList]
  induction bytes with
  | nil => rfl
  | cons b bytes ih =>
      have hhigh : hexValue (b.toNat / 16).digitChar = some (b.toNat / 16) :=
        hexValue_digitChar (Nat.div_lt_of_lt_mul b.toNat_lt)
      have hlow : hexValue (b.toNat % 16).digitChar = some (b.toNat % 16) :=
        hexValue_digitChar (Nat.mod_lt _ (by decide))
      have hbyte : UInt8.ofNat (16 * (b.toNat / 16) + b.toNat % 16) = b := by
        rw [Nat.div_add_mod, UInt8.ofNat_toNat]
      show hexDecode ((b.toNat / 16).digitChar :: (b.toNat % 16).digitChar
        :: bytes.flatMap fun b => [(b.toNat / 16).digitChar, (b.toNat % 16).digitChar]) = _
      unfold hexDecode
      rw [hhigh, hlow, ih]
      exact congrArg (fun b => some (b :: bytes)) hbyte

/-! ## Registration -/

/-- `<[u8; 32]>::from_hex`. -/
def keyFromHex (s : String) : Except Unit (Bytes 32) :=
  match hexDecode s.toList with
  | none => .error ()
  | some bytes => if h : bytes.length = 32 then .ok ⟨bytes, h⟩ else .error ()

section

variable (aes : Aes256Gcm) (sha256 : List UInt8 → Bytes 32)

/-- Deterministically encrypt using a plaintext and key derived nonce. -/
def deterministicEncrypt (data : List UInt8) (key : Bytes 32) : Result (List UInt8) := do
  let dataKeyHash := sha256 (data ++ key.val)
  let nonce : Bytes nonceLength := ⟨dataKeyHash.val.take nonceLength, by
    rw [List.length_take, dataKeyHash.property]
    rfl⟩
  let ciphertext ← encryptVanilla aes data key nonce
  return ciphertext ++ nonce.val

/-- The fields of the config for remote services that the webhook depends on. -/
structure WebhookConfig where
  notificationWebhookBaseUrl : String
  notificationWebhookSecretHex : String

def idPlaceholder : List Char := ['{', 'i', 'd', '}']

def asBytes (s : String) : List UInt8 := s.toByteArray.data.toList

/-- `walletPubkeyId` is the answer of the authentication, and `registerWebhook` the one of the SDK
to each url. -/
def registerWebhookUrl (config : WebhookConfig) (walletPubkeyId : Except String String)
    (registerWebhook : String → Except String Unit) :
    Traced String (Error RuntimeErrorCode) Unit := do
  let id ← Traced.lift (mapToRuntimeError walletPubkeyId .authServiceUnavailable
    "Failed to authenticate in order to get wallet pubkey id")
  let key ← Traced.lift (mapToInvalidInput (keyFromHex config.notificationWebhookSecretHex)
    "Invalid notification_webhook_secret_hex")
  let encryptedId ← Traced.lift (mapToPermanentFailure
    (deterministicEncrypt aes sha256 (asBytes id) key) "Failed to encrypt wallet pubkey id")
  let encryptedId := hexEncode encryptedId
  let webhookUrl := String.ofList (replaceFirst idPlaceholder encryptedId.toList
    config.notificationWebhookBaseUrl.toList)
  Traced.issue webhookUrl (mapToRuntimeError (registerWebhook webhookUrl) .nodeUnavailable
    "Failed to register notification webhook")

/-- The bytes of the id in a url, for who has the secret. -/
def walletIdOf (config : WebhookConfig) (webhookUrl : String) : Option (List UInt8) := do
  let encryptedId ← readBack idPlaceholder config.notificationWebhookBaseUrl.toList
    webhookUrl.toList
  let bytes ← hexDecode encryptedId
  let key ← (keyFromHex config.notificationWebhookSecretHex).toOption
  (decrypt aes bytes key).toOption

end

/-! ## What is registered -/

/-- The base url has a place for the id. -/
def WebhookConfig.HasPlaceholder (config : WebhookConfig) : Prop :=
  idPlaceholder <:+: config.notificationWebhookBaseUrl.toList

theorem asBytes_inj {s t : String} (h : asBytes s = asBytes t) : s = t := by
  unfold asBytes at h
  exact String.toByteArray_inj.mp (ByteArray.ext (Array.toList_inj.mp h))

section

variable {aes : Aes256Gcm} {sha256 : List UInt8 → Bytes 32} {config : WebhookConfig}

theorem decrypt_deterministicEncrypt (haes : aes.Lawful) {data encrypted : List UInt8}
    {key : Bytes 32} (h : deterministicEncrypt aes sha256 data key = .ok encrypted) :
    decrypt aes encrypted key = .ok data :=
  (decrypt_iff_encrypt haes).mpr ⟨_, h⟩

/-- The registration fails before anything is sent, or hands one url to the SDK. It is the base url
with the id of the wallet in the place for it, encrypted. -/
def RegistersOneUrl (aes : Aes256Gcm) (config : WebhookConfig)
    (walletPubkeyId : Except String String) (registerWebhook : String → Except String Unit)
    (registration : Traced String (Error RuntimeErrorCode) Unit) : Prop :=
  (registration.commands = [] ∧ succeeded registration.result = false) ∨
  ∃ id url, walletPubkeyId = .ok id ∧ registration.commands = [url] ∧
    registration.result = mapToRuntimeError (registerWebhook url) .nodeUnavailable
      "Failed to register notification webhook" ∧
    (config.HasPlaceholder → walletIdOf aes config url = some (asBytes id)) ∧
    (¬ config.HasPlaceholder → url = config.notificationWebhookBaseUrl)

theorem registersOneUrl (haes : aes.Lawful) (walletPubkeyId : Except String String)
    (registerWebhook : String → Except String Unit) :
    RegistersOneUrl aes config walletPubkeyId registerWebhook
      (registerWebhookUrl aes sha256 config walletPubkeyId registerWebhook) := by
  unfold registerWebhookUrl
  refine Traced.lift_bind_elim (fun e _ => .inl ⟨rfl, rfl⟩) fun id hid => ?_
  refine Traced.lift_bind_elim (fun e _ => .inl ⟨rfl, rfl⟩) fun key hkey => ?_
  refine Traced.lift_bind_elim (fun e _ => .inl ⟨rfl, rfl⟩) fun encrypted hencrypted => ?_
  rw [mapToRuntimeError_eq_ok] at hid
  rw [mapToInvalidInput_eq_ok] at hkey
  rw [mapToPermanentFailure_eq_ok] at hencrypted
  refine .inr ⟨id, _, hid, rfl, rfl, fun hplaceholder => ?_, fun hnone => ?_⟩
  · have hread := readBack_replaceFirst hplaceholder (hexEncode encrypted).toList
    unfold walletIdOf
    rw [String.toList_ofList, hread, hkey, Option.bind_eq_bind, Option.bind_some,
      hexDecode_hexEncode]
    simp only [Option.bind_eq_bind, Option.bind_some, Except.toOption,
      decrypt_deterministicEncrypt haes hencrypted]
  · rw [replaceFirst_eq_self hnone, String.ofList_toList]

/-- Which url is registered does not depend on what the SDK answers. -/
theorem commands_registerWebhookUrl (walletPubkeyId : Except String String)
    (registerWebhook registerWebhook' : String → Except String Unit) :
    (registerWebhookUrl aes sha256 config walletPubkeyId registerWebhook).commands
      = (registerWebhookUrl aes sha256 config walletPubkeyId registerWebhook').commands := by
  unfold registerWebhookUrl
  cases mapToRuntimeError walletPubkeyId .authServiceUnavailable
      "Failed to authenticate in order to get wallet pubkey id" with
  | error e => rfl
  | ok id =>
      cases mapToInvalidInput (keyFromHex config.notificationWebhookSecretHex)
          "Invalid notification_webhook_secret_hex" with
      | error e => rfl
      | ok key =>
          simp only [Traced.lift_ok_bind]
          cases mapToPermanentFailure (deterministicEncrypt aes sha256 (asBytes id) key)
              "Failed to encrypt wallet pubkey id" with
          | error e => rfl
          | ok encrypted => rfl

/-- A registration that succeeds has registered one url. With a place for the id in the base url,
the id is read back from the url with the secret, so that two wallets register the same url only if
they are the same; without one all register the base url. -/
theorem webhookUrl_identifies_wallet (haes : aes.Lawful) (config : WebhookConfig)
    (walletPubkeyId walletPubkeyId' : Except String String)
    (registerWebhook registerWebhook' : String → Except String Unit) :
    let registration := registerWebhookUrl aes sha256 config walletPubkeyId registerWebhook
    let registration' := registerWebhookUrl aes sha256 config walletPubkeyId' registerWebhook'
    registration.commands.length ≤ 1 ∧
    (succeeded registration.result →
      ∃ url, registration.commands = [url] ∧ registerWebhook url = .ok ()) ∧
    ∀ url url', registration.commands = [url] → registration'.commands = [url'] →
      (url = url' ↔ walletPubkeyId = walletPubkeyId' ∨ ¬ config.HasPlaceholder) ∧
      (config.HasPlaceholder → ∃ id, walletPubkeyId = .ok id ∧
        walletIdOf aes config url = some (asBytes id)) := by
  intro registration registration'
  have hone : RegistersOneUrl aes config walletPubkeyId registerWebhook registration :=
    registersOneUrl haes walletPubkeyId registerWebhook
  have hone' : RegistersOneUrl aes config walletPubkeyId' registerWebhook' registration' :=
    registersOneUrl haes walletPubkeyId' registerWebhook'
  refine ⟨?_, fun hsucceeded => ?_, fun url url' hurl hurl' => ?_⟩
  · rcases hone with ⟨hnone, -⟩ | ⟨id, url, -, hcommands, -⟩
    · rw [hnone]
      exact Nat.zero_le 1
    · rw [hcommands]
      exact Nat.le_refl 1
  · rcases hone with ⟨-, hfailed⟩ | ⟨id, url, -, hcommands, hresult, -⟩
    · rw [hfailed] at hsucceeded
      cases hsucceeded
    · refine ⟨url, hcommands, ?_⟩
      obtain ⟨answer, hanswer⟩ := (succeeded_iff _).mp hsucceeded
      rw [hresult, mapToRuntimeError_eq_ok] at hanswer
      exact hanswer
  · rcases hone with ⟨hnone, -⟩ | ⟨id, _, hid, hcommands, -, hread, hbase⟩
    · rw [hnone] at hurl
      cases hurl
    rcases hone' with ⟨hnone', -⟩ | ⟨id', _, hid', hcommands', -, hread', hbase'⟩
    · rw [hnone'] at hurl'
      cases hurl'
    rw [hcommands] at hurl
    rw [hcommands'] at hurl'
    cases hurl
    cases hurl'
    refine ⟨⟨fun hsame => ?_, ?_⟩, fun hplaceholder => ⟨id, hid, hread hplaceholder⟩⟩
    · by_cases hplaceholder : config.HasPlaceholder
      · left
        -- the same url is read as the same id
        have hids := (hread hplaceholder).symm.trans
          ((congrArg (walletIdOf aes config) hsame).trans (hread' hplaceholder))
        rw [hid, hid', asBytes_inj (Option.some.inj hids)]
      · exact .inr hplaceholder
    · rintro (hsame | hnone)
      · have hcommon : registration.commands = registration'.commands := by
          show (registerWebhookUrl aes sha256 config walletPubkeyId registerWebhook).commands = _
          rw [hsame]
          exact commands_registerWebhookUrl walletPubkeyId' registerWebhook registerWebhook'
        rw [hcommands, hcommands'] at hcommon
        exact List.head_eq_of_cons_eq hcommon
      · rw [hbase hnone, hbase' hnone]

end

namespace WalletWebhook

/-- The key of the tests in `symmetric_encryption.rs`, as the secret of the webhook. -/
def config : WebhookConfig where
  notificationWebhookBaseUrl := "https://hook.lipa.swiss/{id}"
  notificationWebhookSecretHex :=
    "412033322062797465206c6f6e672c206e6f6e2d72616e646f6d206b65792e2e"

def secret : Bytes 32 :=
  ⟨[65, 32, 51, 50, 32, 98, 121, 116, 101, 32, 108, 111, 110, 103, 44, 32, 110, 111, 110, 45, 114,
    97, 110, 100, 111, 109, 32, 107, 101, 121, 46, 46], rfl⟩

/-- The hash of the id and the secret. -/
def sha256 (_ : List UInt8) : Bytes 32 :=
  ⟨[63, 208, 146, 70, 79, 19, 35, 199, 87, 57, 105, 103, 169, 237, 115, 52, 137, 182, 187, 79, 103,
    194, 97, 52, 183, 198, 63, 50, 22, 2, 160, 199], rfl⟩

def nonce : Bytes nonceLength := ⟨[63, 208, 146, 70, 79, 19, 35, 199, 87, 57, 105, 103], rfl⟩

/-- The id of the wallet, `wallet`. -/
def walletId : List UInt8 := [119, 97, 108, 108, 101, 116]

/-- Its encryption with AES-256-GCM under the secret and the nonce. -/
def ciphertext : List UInt8 :=
  [165, 11, 195, 142, 141, 69, 156, 238, 160, 131, 129, 4, 242, 238, 84, 167, 28, 93, 60, 16, 60,
    223]

def aes : Aes256Gcm where
  encrypt k n data :=
    if k = secret ∧ n = nonce ∧ data = walletId then .ok ciphertext else .error ()
  decrypt k n data :=
    if k = secret ∧ n = nonce ∧ data = ciphertext then .ok walletId else .error ()

theorem aes_lawful : aes.Lawful where
  decrypt_eq_ok k n data ciphertext' := by
    unfold aes
    dsimp only
    constructor
    · intro h
      split at h
      · next heq =>
          obtain ⟨rfl, rfl, rfl⟩ := heq
          obtain rfl := Except.ok.inj h
          rfl
      · cases h
    · intro h
      split at h
      · next heq =>
          obtain ⟨rfl, rfl, rfl⟩ := heq
          obtain rfl := Except.ok.inj h
          rfl
      · cases h
  length_encrypt k n data ciphertext' h := by
    unfold aes at h
    dsimp only at h
    split at h
    · next heq =>
        obtain ⟨-, -, rfl⟩ := heq
        obtain rfl := Except.ok.inj h
        rfl
    · cases h

theorem webhookUrl_identifies_wallet_hook :
    ∃ url, (registerWebhookUrl aes sha256 config (.ok "wallet") fun _ => .ok ()).commands = [url] ∧
      walletIdOf aes config url = some (asBytes "wallet") := by
  have hidentifies := @webhookUrl_identifies_wallet aes sha256 aes_lawful config
    (.ok "wallet") (.ok "wallet") (fun _ => .ok ()) (fun _ => .ok ())
  obtain ⟨url, hurl, -⟩ := hidentifies.2.1 (by decide +kernel)
  obtain ⟨id, hid, hread⟩ := (hidentifies.2.2 url url hurl hurl).2
    (by unfold WebhookConfig.HasPlaceholder; decide +kernel)
  cases hid
  exact ⟨url, hurl, hread⟩

end WalletWebhook

end LipaLightning
