import LipaLightning.Config.FeatureFlags
import LipaLightning.WebhookUrl

set_option autoImplicit false

/-! # Where registered addresses come from

Runs of `LightningAddress::register`, `PhoneNumber::verify` and `Config::set_feature_flag` on the
table of addresses. What `get` returns has been given out or verified by the backend in an earlier
call, and a feature that is disabled stays disabled until a call enables it.
-/

namespace LipaLightning

/-! ## Asking for a verification -/

/-- The request to the backend to send a code to a phone number. -/
structure VerificationRequest where
  e164 : String
  encryptedNumber : String
  deriving DecidableEq

namespace PhoneNumber

/-- Start the verification process for a new phone number. -/
def register (self : PhoneNumber) (aes : Aes256Gcm)
    (randomBytes : Except String (Bytes nonceLength)) (persistenceEncryptionKey : Bytes 32)
    (requestVerification : VerificationRequest → Except String Unit) (phoneNumber : String) :
    Traced VerificationRequest (Error RuntimeErrorCode) Unit := do
  let phoneNumber ← Traced.lift (mapToInvalidInput (self.parsePhoneNumber phoneNumber)
    "Invalid phone number")
  let encryptedNumber ← Traced.lift
    (encrypt aes randomBytes (asBytes phoneNumber.e164) persistenceEncryptionKey)
  let request : VerificationRequest := ⟨phoneNumber.e164, hexEncode encryptedNumber⟩
  Traced.issue request (mapToRuntimeError (requestVerification request) .authServiceUnavailable
    "Failed to register phone number")

/-- What is sent is a number of an allowed country, and the same number encrypted for the
wallet. -/
theorem register_request {self : PhoneNumber} {aes : Aes256Gcm} (haes : aes.Lawful)
    {randomBytes : Except String (Bytes nonceLength)} {key : Bytes 32}
    {requestVerification : VerificationRequest → Except String Unit} {phoneNumber : String}
    {request : VerificationRequest}
    (h : request ∈ (self.register aes randomBytes key requestVerification phoneNumber).commands) :
    ∃ recipient encrypted, self.parsePhoneNumber phoneNumber = .ok recipient ∧
      recipient.countryCode ∈ self.allowedCountries ∧ request.e164 = recipient.e164 ∧
      hexDecode request.encryptedNumber.toList = some encrypted ∧
      decrypt aes encrypted key = .ok (asBytes recipient.e164) := by
  let P : Traced VerificationRequest (Error RuntimeErrorCode) Unit → Prop := fun registration =>
    request ∈ registration.commands →
      ∃ recipient encrypted, self.parsePhoneNumber phoneNumber = .ok recipient ∧
        recipient.countryCode ∈ self.allowedCountries ∧ request.e164 = recipient.e164 ∧
        hexDecode request.encryptedNumber.toList = some encrypted ∧
        decrypt aes encrypted key = .ok (asBytes recipient.e164)
  suffices hP : P (self.register aes randomBytes key requestVerification phoneNumber) from hP h
  unfold register
  refine Traced.lift_bind_elim (fun e _ hmem => absurd hmem List.not_mem_nil) ?_
  intro recipient hparse
  rw [mapToInvalidInput_eq_ok] at hparse
  refine Traced.lift_bind_elim (fun e _ hmem => absurd hmem List.not_mem_nil) ?_
  intro encrypted hencrypted hmem
  obtain rfl := List.mem_singleton.mp hmem
  have hallowed : recipient.countryCode ∈ self.allowedCountries := by
    obtain ⟨recipient', -, hensured⟩ := bind_eq_ok.mp hparse
    obtain ⟨_, hcountry, hsame⟩ := bind_eq_ok.mp hensured
    obtain rfl := Except.ok.inj hsame
    exact (ensure_eq_ok _ _ _).mp hcountry
  exact ⟨recipient, encrypted, hparse, hallowed, rfl, hexDecode_hexEncode encrypted,
    decrypt_encrypt haes hencrypted⟩

/-! ## The calls an address comes from -/

/-- The backend has given the address out in one of the calls. -/
def Assigned (calls : List AddressCall) (address : String) : Prop :=
  ∃ env, .register env (.ok address) ∈ calls

/-- The backend has accepted the code of the number in one of the calls. -/
def Verified (self : PhoneNumber) (calls : List AddressCall)
    (recipient : PhoneNumberRecipient) : Prop :=
  ∃ env phoneNumber, .verify env phoneNumber (.ok ()) ∈ calls ∧
    self.parsePhoneNumber phoneNumber = .ok recipient

/-- The address has been given out, or is the one of a verified number. -/
def ComesFrom (self : PhoneNumber) (calls : List AddressCall) (address : String) : Prop :=
  Assigned calls address ∨
    ∃ recipient, self.Verified calls recipient ∧
      address = recipient.toLightningAddress self.lipaLightningDomain

/-- All addresses of the table come from the calls. -/
def AllComeFrom (self : PhoneNumber) (calls : List AddressCall) (dataStore : DataStore) : Prop :=
  ∀ row ∈ dataStore.conn.lightningAddresses.rows, self.ComesFrom calls row.address

variable {self : PhoneNumber} {dataStore : DataStore} {calls : List AddressCall}

theorem ComesFrom.append {address : String} (h : self.ComesFrom calls address)
    (later : List AddressCall) : self.ComesFrom (calls ++ later) address := by
  rcases h with ⟨env, hmem⟩ | ⟨recipient, ⟨env, phoneNumber, hmem, hparse⟩, haddress⟩
  · exact .inl ⟨env, List.mem_append_left later hmem⟩
  · exact .inr ⟨recipient, ⟨env, phoneNumber, List.mem_append_left later hmem, hparse⟩, haddress⟩

/-- A row after the updates is one from before, which may have the new status if its address is one
of those given. -/
theorem mem_updateAddresses {envs : String → Env} {status : EnableStatus}
    {addresses : List String} {row : LightningAddressRow}
    (hrow : row ∈ (Config.updateAddresses envs status dataStore
      addresses).2.conn.lightningAddresses.rows) :
    ∃ before ∈ dataStore.conn.lightningAddresses.rows, before.address = row.address ∧
      (before = row ∨ row.address ∈ addresses ∧ row.enableStatus = status.toU8) := by
  induction addresses generalizing dataStore with
  | nil => exact ⟨row, hrow, rfl, .inl rfl⟩
  | cons address addresses ih =>
      have hupdate : ∀ updated ∈ (dataStore.updateLightningAddress (envs address) address
            status).2.conn.lightningAddresses.rows,
          ∃ before ∈ dataStore.conn.lightningAddresses.rows, before.address = updated.address ∧
            (before = updated ∨ updated.address = address ∧
              updated.enableStatus = status.toU8) := by
        intro updated hupdated
        unfold DataStore.updateLightningAddress at hupdated
        split at hupdated
        · exact ⟨updated, hupdated, rfl, .inl rfl⟩
        · obtain ⟨before, hbefore, rfl⟩ := List.mem_map.mp hupdated
          refine ⟨before, hbefore, ?_⟩
          split
          · next haddress => exact ⟨rfl, .inr ⟨haddress, rfl⟩⟩
          · exact ⟨rfl, .inl rfl⟩
      unfold Config.updateAddresses at hrow
      cases hresult : dataStore.updateLightningAddress (envs address) address status with
      | mk result updatedStore =>
          rw [hresult] at hupdate hrow
          cases result with
          | error e =>
              obtain ⟨before, hbefore, haddress, hsame⟩ := hupdate row hrow
              refine ⟨before, hbefore, haddress, hsame.imp_right fun hset => ?_⟩
              exact ⟨List.mem_cons.mpr (.inl hset.1), hset.2⟩
          | ok u =>
              obtain ⟨updated, hupdated, haddress, hlater⟩ := ih hrow
              obtain ⟨before, hbefore, haddress', hfirst⟩ := hupdate updated hupdated
              refine ⟨before, hbefore, haddress'.trans haddress, ?_⟩
              rcases hlater with rfl | ⟨hmem, hstatus⟩
              · refine hfirst.imp_right fun hset => ?_
                exact ⟨List.mem_cons.mpr (.inl hset.1), hset.2⟩
              · exact .inr ⟨List.mem_cons_of_mem address hmem, hstatus⟩

/-- A row after a flag has been set is one from before, which may have the status of the flag if it
is of the feature. -/
theorem mem_setFeatureFlag {envs : String → Env}
    {backend : AddressRequest → Except String Unit} {feature : FeatureFlag} {flagEnabled : Bool}
    {row : LightningAddressRow}
    (hrow : row ∈ (Config.setFeatureFlag dataStore envs backend feature
      flagEnabled).dataStore.conn.lightningAddresses.rows) :
    ∃ before ∈ dataStore.conn.lightningAddresses.rows, before.address = row.address ∧
      (before = row ∨ feature.kindOfAddress row.address = true ∧
        row.enableStatus = (flagStatus flagEnabled).toU8) := by
  unfold Config.setFeatureFlag at hrow
  cases hread : dataStore.retrieveLightningAddresses with
  | error e =>
      rw [hread] at hrow
      exact ⟨row, hrow, rfl, .inl rfl⟩
  | ok addresses =>
      rw [hread] at hrow
      dsimp only at hrow
      cases hempty : (Config.addressesToChange feature flagEnabled addresses).isEmpty with
      | true =>
          rw [hempty] at hrow
          exact ⟨row, hrow, rfl, .inl rfl⟩
      | false =>
          rw [hempty] at hrow
          simp only [Bool.false_eq_true, if_false] at hrow
          split at hrow
          · exact ⟨row, hrow, rfl, .inl rfl⟩
          · obtain ⟨before, hbefore, haddress, hset⟩ := mem_updateAddresses hrow
            refine ⟨before, hbefore, haddress, hset.imp_right fun ⟨hmem, hstatus⟩ => ?_⟩
            exact ⟨(List.mem_filter.mp hmem).2, hstatus⟩

/-- A stored address is the only new one. -/
theorem AllComeFrom.store (h : self.AllComeFrom calls dataStore) {call : AddressCall} {env : Env}
    {address : String} (hstored : env.faults .insertLightningAddress = false)
    (hfrom : self.ComesFrom (calls ++ [call]) address) :
    self.AllComeFrom (calls ++ [call]) (dataStore.storeLightningAddress env address).2 := by
  intro row hrow
  rw [dataStore.storeLightningAddress_table address hstored, KeyedTable.mem_insertReplace] at hrow
  rcases hrow with rfl | ⟨hrow, -⟩
  · exact hfrom
  · exact (h row hrow).append [call]

theorem allComeFrom_step (h : self.AllComeFrom calls dataStore) (call : AddressCall) :
    self.AllComeFrom (calls ++ [call]) (self.step dataStore call) := by
  have hkept : self.AllComeFrom (calls ++ [call]) dataStore :=
    fun row hrow => (h row hrow).append [call]
  cases call with
  | register env assigned =>
      rcases register_cases dataStore env assigned with
        ⟨address, rfl, hstored, hregister⟩ | ⟨-, e, hregister⟩
      · rw [step, hregister]
        exact h.store hstored (.inl ⟨env, List.mem_append_right calls (List.mem_singleton_self _)⟩)
      · rw [step, hregister]
        exact hkept
  | verify env phoneNumber verified =>
      cases hparse : self.parsePhoneNumber phoneNumber with
      | error e =>
          rw [step, verify, hparse]
          exact hkept
      | ok recipient =>
          rcases verify_cases self dataStore env verified hparse with
            ⟨rfl, hstored, hverify⟩ | ⟨-, e, hverify⟩
          · rw [step, hverify]
            refine h.store hstored (.inr ⟨recipient, ⟨env, phoneNumber, ?_, hparse⟩, rfl⟩)
            exact List.mem_append_right calls (List.mem_singleton_self _)
          · rw [step, hverify]
            exact hkept
  | setFeatureFlag envs backend feature flagEnabled =>
      intro row hrow
      obtain ⟨before, hbefore, haddress, -⟩ := mem_setFeatureFlag hrow
      rw [← haddress]
      exact hkept before hbefore

theorem allComeFrom_run (self : PhoneNumber) (backupFile : Option Db)
    (calls : List AddressCall) :
    self.AllComeFrom calls (Runs.run self.step (.new .migrated backupFile) calls) := by
  induction calls using List.reverseRecOn with
  | nil => exact fun row hrow => absurd hrow List.not_mem_nil
  | append_singleton calls call ih =>
      rw [Runs.run_append]
      exact allComeFrom_step ih call

/-- The enabled address of a kind is one of the table. -/
theorem mem_of_getEnabled {kind : String → Bool} {address : String} (h : dataStore.Decodes)
    (hget : getEnabled kind dataStore = .ok (some address)) :
    ∃ row ∈ dataStore.conn.lightningAddresses.rows, row.address = address ∧
      DataStore.isEnabled kind row = true := by
  rw [DataStore.getEnabled_eq h] at hget
  obtain ⟨row, hrow, haddress⟩ := Option.map_eq_some_iff.mp (Except.ok.inj hget)
  obtain ⟨hmem, henabled⟩ := List.mem_filter.mp (List.mem_of_mem_head? hrow)
  exact ⟨row, Latest.mem_latestFirst.mp hmem, haddress, henabled⟩

theorem isPhoneAddress_of_verified {recipient : PhoneNumberRecipient}
    (h : self.Verified calls recipient) :
    isPhoneAddress (recipient.toLightningAddress self.lipaLightningDomain) = true := by
  obtain ⟨env, phoneNumber, -, hparse⟩ := h
  obtain ⟨digits, he164, -⟩ := e164_of_parsePhoneNumber hparse
  rw [toLightningAddress_eq he164, isPhoneAddress, String.toList_append, String.toList_ofList]
  rfl

/-! ## Features that are disabled -/

/-- The call may enable an address of the feature. -/
def MayEnable (feature : FeatureFlag) : AddressCall → Prop
  | .register _ assigned => ∃ address, assigned = .ok address ∧
      feature.kindOfAddress address = true
  | .verify _ _ verified => feature = .phoneNumber ∧ verified = .ok ()
  | .setFeatureFlag _ _ flag flagEnabled => flag = feature ∧ flagEnabled = true

/-- No address of the feature is enabled. -/
def NoneEnabled (feature : FeatureFlag) (dataStore : DataStore) : Prop :=
  ∀ row ∈ dataStore.conn.lightningAddresses.rows,
    DataStore.isEnabled feature.kindOfAddress row = false

variable {feature : FeatureFlag}

/-- Nothing is got of a feature without enabled addresses. -/
theorem getEnabled_of_noneEnabled (hdecodes : dataStore.Decodes)
    (h : NoneEnabled feature dataStore) :
    getEnabled feature.kindOfAddress dataStore = .ok none := by
  have hnone : dataStore.lightningAddressRows.filter
      (DataStore.isEnabled feature.kindOfAddress) = [] := by
    rw [List.filter_eq_nil_iff]
    intro row hrow
    rw [h row (Latest.mem_latestFirst.mp hrow)]
    exact Bool.false_ne_true
  rw [DataStore.getEnabled_eq hdecodes, hnone]
  rfl

/-- An address of another feature may be stored. -/
theorem NoneEnabled.store (h : NoneEnabled feature dataStore) {env : Env} {address : String}
    (hstored : env.faults .insertLightningAddress = false)
    (hkind : feature.kindOfAddress address = false) :
    NoneEnabled feature (dataStore.storeLightningAddress env address).2 := by
  intro row hrow
  rw [dataStore.storeLightningAddress_table address hstored, KeyedTable.mem_insertReplace] at hrow
  rcases hrow with rfl | ⟨hrow, -⟩
  · rw [DataStore.isEnabled, hkind, Bool.and_false]
  · exact h row hrow

theorem noneEnabled_step (h : NoneEnabled feature dataStore) {call : AddressCall}
    (hcall : ¬ MayEnable feature call) : NoneEnabled feature (self.step dataStore call) := by
  cases call with
  | register env assigned =>
      rcases register_cases dataStore env assigned with
        ⟨address, rfl, hstored, hregister⟩ | ⟨-, e, hregister⟩
      · rw [step, hregister]
        have hkind : feature.kindOfAddress address = false := by
          rw [← Bool.not_eq_true]
          exact fun hkind => hcall ⟨address, rfl, hkind⟩
        exact h.store hstored hkind
      · rw [step, hregister]
        exact h
  | verify env phoneNumber verified =>
      cases hparse : self.parsePhoneNumber phoneNumber with
      | error e =>
          rw [step, verify, hparse]
          exact h
      | ok recipient =>
          rcases verify_cases self dataStore env verified hparse with
            ⟨rfl, hstored, hverify⟩ | ⟨-, e, hverify⟩
          · rw [step, hverify]
            have hverified : Verified self [.verify env phoneNumber (.ok ())] recipient :=
              ⟨env, phoneNumber, List.mem_singleton_self _, hparse⟩
            have hphone := isPhoneAddress_of_verified hverified
            cases feature with
            | lightningAddress =>
                refine h.store hstored ?_
                show (!isPhoneAddress _) = false
                rw [hphone]
                rfl
            | phoneNumber => exact absurd ⟨rfl, rfl⟩ hcall
          · rw [step, hverify]
            exact h
  | setFeatureFlag envs backend flag flagEnabled =>
      intro row hrow
      obtain ⟨before, hbefore, -, rfl | ⟨hkind, hstatus⟩⟩ := mem_setFeatureFlag hrow
      · exact h before hbefore
      · by_cases hfeature : flag = feature
        · cases flagEnabled with
          | true => exact absurd ⟨hfeature, rfl⟩ hcall
          | false =>
              rw [DataStore.isEnabled, hstatus]
              rfl
        · rw [DataStore.isEnabled, Config.kindOfAddress_disjoint hfeature row.address hkind,
            Bool.and_false]

theorem noneEnabled_run (h : NoneEnabled feature dataStore) {calls : List AddressCall}
    (hcalls : ∀ call ∈ calls, ¬ MayEnable feature call) :
    NoneEnabled feature (Runs.run self.step dataStore calls) := by
  induction calls generalizing dataStore with
  | nil => exact h
  | cons call calls ih =>
      have hstep : NoneEnabled feature (self.step dataStore call) :=
        noneEnabled_step h (hcalls call List.mem_cons_self)
      exact ih hstep fun later hlater => hcalls later (List.mem_cons_of_mem call hlater)

/-- Disabling a feature leaves none of its addresses enabled. -/
theorem noneEnabled_of_disabled {envs : String → Env}
    {backend : AddressRequest → Except String Unit}
    (h : (Config.setFeatureFlag dataStore envs backend feature false).result = .ok ()) :
    NoneEnabled feature (Config.setFeatureFlag dataStore envs backend feature false).dataStore := by
  intro row hrow
  rw [Config.run_ok_conn h] at hrow
  obtain ⟨before, -, rfl⟩ := List.mem_map.mp hrow
  rw [DataStore.isEnabled, address_setStatus]
  cases hkind : feature.kindOfAddress before.address with
  | false => exact Bool.and_false _
  | true =>
      rw [setStatus_of_true hkind]
      rfl

/-! ## Runs -/

/-- What is got after the calls: always something, if only nothing; as a lightning address one that
the backend has given out, as a phone number one it has verified or given out as an address. -/
structure GetsFromCalls (self : PhoneNumber) (calls : List AddressCall)
    (dataStore : DataStore) : Prop where
  reads : succeeded (LightningAddress.get dataStore) ∧ succeeded (self.get dataStore)
  lightningAddress : ∀ address, LightningAddress.get dataStore = .ok (some address) →
    Assigned calls address ∧ isPhoneAddress address = false
  phoneNumber : ∀ number, self.get dataStore = .ok (some number) →
    (∃ recipient, self.Verified calls recipient ∧ recipient.e164 = number) ∨
      ∃ address, Assigned calls address ∧
        lightningAddressToPhoneNumber address self.lipaLightningDomain = some number

theorem decodes_run (self : PhoneNumber) (backupFile : Option Db) (calls : List AddressCall) :
    (Runs.run self.step (.new .migrated backupFile) calls).Decodes := by
  induction calls using List.reverseRecOn with
  | nil => exact fun row hrow => absurd hrow List.not_mem_nil
  | append_singleton calls call ih =>
      rw [Runs.run_append]
      exact self.step_decodes _ call ih

theorem getsFromCalls (hdecodes : dataStore.Decodes) (h : self.AllComeFrom calls dataStore) :
    self.GetsFromCalls calls dataStore where
  reads := by
    rw [LightningAddress.get, PhoneNumber.get, DataStore.getEnabled_eq hdecodes,
      DataStore.getEnabled_eq hdecodes]
    exact ⟨rfl, rfl⟩
  lightningAddress address hget := by
    have hkind := DataStore.kind_of_getEnabled hget
    have hnotPhone : isPhoneAddress address = false := by simpa using hkind
    obtain ⟨row, hrow, rfl, -⟩ := mem_of_getEnabled hdecodes hget
    rcases h row hrow with hassigned | ⟨recipient, hverified, haddress⟩
    · exact ⟨hassigned, hnotPhone⟩
    · rw [haddress, isPhoneAddress_of_verified hverified] at hnotPhone
      cases hnotPhone
  phoneNumber number hget := by
    obtain ⟨found, hfound, hread⟩ := bind_eq_ok.mp hget
    obtain ⟨address, rfl, hnumber⟩ := Option.bind_eq_some_iff.mp (Except.ok.inj hread)
    obtain ⟨row, hrow, rfl, -⟩ := mem_of_getEnabled hdecodes hfound
    rcases h row hrow with hassigned | ⟨recipient, hverified, haddress⟩
    · exact .inr ⟨row.address, hassigned, hnumber⟩
    · left
      refine ⟨recipient, hverified, ?_⟩
      obtain ⟨env, phoneNumber, -, hparse⟩ := hverified
      obtain ⟨digits, he164, hdigits⟩ := e164_of_parsePhoneNumber hparse
      have hread := (lightningAddressToPhoneNumber_eq_some_iff hdigits).mpr
        (haddress.trans (toLightningAddress_eq he164 _))
      rw [he164]
      exact Option.some.inj (hread.symm.trans hnumber)

/-- In every run from a new wallet, what is got as the address or the number of the wallet has been
given out or verified in one of the calls. After a feature has been disabled, nothing is got of it
until a call may enable it again. -/
theorem addresses_ofCalls (self : PhoneNumber) (backupFile : Option Db) :
    (∀ calls, self.GetsFromCalls calls
      (Runs.run self.step (.new .migrated backupFile) calls)) ∧
    ∀ (before after : List AddressCall) (envs : String → Env)
      (backend : AddressRequest → Except String Unit) (feature : FeatureFlag),
      let dataStore := Runs.run self.step (.new .migrated backupFile) before
      (Config.setFeatureFlag dataStore envs backend feature false).result = .ok () →
      (∀ call ∈ after, ¬ MayEnable feature call) →
      getEnabled feature.kindOfAddress (Runs.run self.step (.new .migrated backupFile)
        (before ++ .setFeatureFlag envs backend feature false :: after)) = .ok none := by
  constructor
  · intro calls
    exact getsFromCalls (self.decodes_run backupFile calls)
      (self.allComeFrom_run backupFile calls)
  · intro before after envs backend feature dataStore hdisabled hafter
    have hdecodes := self.decodes_run backupFile
      (before ++ .setFeatureFlag envs backend feature false :: after)
    refine getEnabled_of_noneEnabled hdecodes ?_
    rw [Runs.run_append, Runs.run_cons]
    exact noneEnabled_run (noneEnabled_of_disabled hdisabled) hafter

end PhoneNumber

end LipaLightning
