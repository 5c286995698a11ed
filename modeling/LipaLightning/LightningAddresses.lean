import LipaLightning.Activity.Payment
import LipaLightning.Basic.Latest
import LipaLightning.Basic.Runs
import LipaLightning.DataStore.Store

set_option autoImplicit false

/-! # Lightning addresses and phone numbers

Registering a lightning address (`lightning_address.rs`), verifying a phone number
(`phone_number.rs`) and the feature flags of both (`config.rs`). A phone number is stored as a
lightning address that starts with a dash. The first enabled address of its kind is returned, in
the order of `registered_at`; storing an address again replaces its row, with a new
`registered_at` in whole seconds.
-/

namespace LipaLightning

/-- The address is one of a phone number. -/
def isPhoneAddress (address : String) : Bool := address.toList.head? = some '-'

namespace DataStore

def lightningAddressFromRow (row : LightningAddressRow) : Result (String × EnableStatus) :=
  match EnableStatus.tryFrom row.enableStatus with
  | some enableStatus => .ok (row.address, enableStatus)
  | none => .error (.permanentFailure "Failed to query lightning addresses")

/-- The rows in the order of `registered_at`, those of one second in the order in which they were
stored. -/
def lightningAddressRows (self : DataStore) : List LightningAddressRow :=
  Latest.latestFirst (fun row => -row.registeredAt) self.conn.lightningAddresses.rows

theorem retrieveLightningAddresses_eq (self : DataStore) :
    self.retrieveLightningAddresses = self.lightningAddressRows.mapM lightningAddressFromRow := by
  have horder : (fun a b : LightningAddressRow => a.registeredAt ≤ b.registeredAt)
      = fun a b => -b.registeredAt ≤ -a.registeredAt := by
    funext a b
    simp
  unfold retrieveLightningAddresses lightningAddressRows Latest.latestFirst
  simp only [horder]
  rfl

end DataStore

def withStatus (status : EnableStatus) : String × EnableStatus → Option String :=
  fun (v, s) => if s = status then some v else none

/-- The first enabled address of a kind. -/
def getEnabled (kind : String → Bool) (dataStore : DataStore) : Result (Option String) := do
  let addresses ← dataStore.retrieveLightningAddresses
  .ok ((addresses.filterMap (withStatus .enabled)).find? kind)

namespace LightningAddress

/-- Register a human-readable lightning address or return the previously registered one.
`assigned` is the answer of the backend. -/
def register (dataStore : DataStore) (env : Env) (assigned : Except String String) :
    Result String × DataStore :=
  match mapToRuntimeError assigned .authServiceUnavailable
      "Failed to register a lightning address" with
  | .error e => (.error e, dataStore)
  | .ok address =>
      match dataStore.storeLightningAddress env address with
      | (.error e, dataStore) => (.error e, dataStore)
      | (.ok (), dataStore) => (.ok address, dataStore)

/-- Get the registered lightning address. -/
def get (dataStore : DataStore) : Result (Option String) :=
  getEnabled (fun a => !isPhoneAddress a) dataStore

end LightningAddress

/-! ## Phone numbers -/

inductive ParsePhoneNumberError where
  | parsingError
  | missingCountryCode
  | invalidCountryCode
  | invalidPhoneNumber
  | unsupportedCountry
  deriving DecidableEq, Repr

/-- `phonenumber::ParseError`, as far as the library tells the errors apart. -/
inductive PhoneNumberParseError where
  | invalidCountryCode
  | other
  deriving DecidableEq, Repr

/-- `phonenumber::PhoneNumber`: whether it is valid, its E.164 text and its country. -/
structure ParsedPhoneNumber where
  isValid : Bool
  e164 : String
  countryId : Option String
  deriving DecidableEq, Repr

/-- The `phonenumber` crate. The E.164 text of a number is a plus and the digits of the number. -/
structure PhoneNumberCrate where
  parse : String → Except PhoneNumberParseError ParsedPhoneNumber
  e164_eq : ∀ {number : String} {parsed : ParsedPhoneNumber}, parse number = .ok parsed →
    ∃ digits : List Char, parsed.e164 = "+" ++ String.ofList digits ∧
      digits.all Char.isDigit = true

structure PhoneNumberRecipient where
  e164 : String
  countryCode : String
  deriving DecidableEq, Repr

namespace PhoneNumberRecipient

def parse (phonenumber : PhoneNumberCrate) (number : String) :
    Except ParsePhoneNumberError PhoneNumberRecipient :=
  match phonenumber.parse number with
  | .error .invalidCountryCode => .error .missingCountryCode
  | .error .other => .error .parsingError
  | .ok number => do
      ensure (number.isValid = true) .invalidPhoneNumber
      match number.countryId with
      | none => .error .invalidCountryCode
      | some countryCode => .ok ⟨number.e164, countryCode⟩

/-- `str::replacen('+', "-", 1)`, on characters. -/
def replacePlus : List Char → List Char
  | [] => []
  | c :: cs => if c = '+' then '-' :: cs else c :: replacePlus cs

def toLightningAddress (self : PhoneNumberRecipient) (domain : String) : String :=
  String.ofList (replacePlus self.e164.toList) ++ domain

end PhoneNumberRecipient

structure PhoneNumber where
  phonenumber : PhoneNumberCrate
  lipaLightningDomain : String
  allowedCountries : List String

namespace PhoneNumber

def parsePhoneNumber (self : PhoneNumber) (phoneNumber : String) :
    Except ParsePhoneNumberError PhoneNumberRecipient := do
  let phoneNumberRecipient ← PhoneNumberRecipient.parse self.phonenumber phoneNumber
  ensure (phoneNumberRecipient.countryCode ∈ self.allowedCountries) .unsupportedCountry
  .ok phoneNumberRecipient

/-- Query for a previously verified phone number. -/
def get (self : PhoneNumber) (dataStore : DataStore) : Result (Option String) := do
  let address ← getEnabled isPhoneAddress dataStore
  .ok (address.bind fun a => lightningAddressToPhoneNumber a self.lipaLightningDomain)

/-- Finish the verification process for a new phone number. `verified` is the answer of the
backend to the OTP code. -/
def verify (self : PhoneNumber) (dataStore : DataStore) (env : Env) (phoneNumber : String)
    (verified : Except String Unit) : Result Unit × DataStore :=
  match self.parsePhoneNumber phoneNumber with
  | .error _ => (.error (.invalidInput "Invalid phone number"), dataStore)
  | .ok phoneNumber =>
      match mapToRuntimeError verified .authServiceUnavailable
          "Failed to submit phone number registration otp" with
      | .error e => (.error e, dataStore)
      | .ok () => dataStore.storeLightningAddress env
          (phoneNumber.toLightningAddress self.lipaLightningDomain)

end PhoneNumber

/-! ## Feature flags -/

inductive FeatureFlag where
  | lightningAddress
  | phoneNumber
  deriving DecidableEq, Repr

/-- The addresses that a feature is about. -/
def FeatureFlag.kindOfAddress : FeatureFlag → String → Bool
  | .lightningAddress => fun a => !isPhoneAddress a
  | .phoneNumber => isPhoneAddress

/-- `pigeon::enable_lightning_addresses` and `pigeon::disable_lightning_addresses`. -/
inductive AddressRequest where
  | enable (addresses : List String)
  | disable (addresses : List String)
  deriving DecidableEq, Repr

def AddressRequest.addresses : AddressRequest → List String
  | .enable addresses => addresses
  | .disable addresses => addresses

/-- A call of `set_feature_flag`: the request to the backend, if there is one, the result and the
data store after it. -/
structure FlagRun where
  sent : Option AddressRequest
  result : Result Unit
  dataStore : DataStore

def FlagRun.sentAddresses (run : FlagRun) : List String :=
  (run.sent.map AddressRequest.addresses).getD []

/-- The status the flag asks for. -/
def flagStatus (flagEnabled : Bool) : EnableStatus :=
  if flagEnabled then .enabled else .featureDisabled

namespace Config

/-- Update the status of the addresses, until a statement fails. -/
def updateAddresses (envs : String → Env) (status : EnableStatus) (dataStore : DataStore) :
    List String → Result Unit × DataStore
  | [] => (.ok (), dataStore)
  | address :: addresses =>
      match dataStore.updateLightningAddress (envs address) address status with
      | (.error e, dataStore) => (.error e, dataStore)
      | (.ok (), dataStore) => updateAddresses envs status dataStore addresses

/-- The addresses of the feature with the other status. -/
def addressesToChange (feature : FeatureFlag) (flagEnabled : Bool)
    (addresses : List (String × EnableStatus)) : List String :=
  (addresses.filterMap (withStatus (flagStatus !flagEnabled))).filter feature.kindOfAddress

/-- Set the status of a feature on the backend and in the db. -/
def setFeatureFlag (dataStore : DataStore) (envs : String → Env)
    (backend : AddressRequest → Except String Unit) (feature : FeatureFlag)
    (flagEnabled : Bool) : FlagRun :=
  match dataStore.retrieveLightningAddresses with
  | .error e => ⟨none, .error e, dataStore⟩
  | .ok addresses =>
      let addresses := addressesToChange feature flagEnabled addresses
      if addresses.isEmpty then ⟨none, .ok (), dataStore⟩
      else
        let request := if flagEnabled then .enable addresses else .disable addresses
        match mapToRuntimeError (backend request) .authServiceUnavailable
            "Failed to enable/disable a lightning address" with
        | .error e => ⟨some request, .error e, dataStore⟩
        | .ok () =>
            let (result, dataStore) :=
              updateAddresses envs (flagStatus flagEnabled) dataStore addresses
            ⟨some request, result, dataStore⟩

end Config

/-! ## Runs of calls -/

inductive AddressCall where
  | register (env : Env) (assigned : Except String String)
  | verify (env : Env) (phoneNumber : String) (verified : Except String Unit)
  | setFeatureFlag (envs : String → Env) (backend : AddressRequest → Except String Unit)
      (feature : FeatureFlag) (flagEnabled : Bool)

namespace PhoneNumber

/-- The data store after a call. -/
def step (self : PhoneNumber) (dataStore : DataStore) : AddressCall → DataStore
  | .register env assigned => (LightningAddress.register dataStore env assigned).2
  | .verify env phoneNumber verified => (self.verify dataStore env phoneNumber verified).2
  | .setFeatureFlag envs backend feature flagEnabled =>
      (Config.setFeatureFlag dataStore envs backend feature flagEnabled).dataStore

/-- What a call has registered or verified is what is got after it, and what was got before is
still got after it has been registered or verified again. -/
def GetsRegistered (self : PhoneNumber) (dataStore : DataStore) (call : AddressCall) : Prop :=
  match call with
  | .register env assigned =>
      (∀ address, (LightningAddress.register dataStore env assigned).1 = .ok address →
        isPhoneAddress address = false →
        LightningAddress.get (self.step dataStore call) = .ok (some address)) ∧
      ∀ address, assigned = .ok address → LightningAddress.get dataStore = .ok (some address) →
        LightningAddress.get (self.step dataStore call) = LightningAddress.get dataStore
  | .verify env phoneNumber verified =>
      ∀ recipient, self.parsePhoneNumber phoneNumber = .ok recipient →
        ((self.verify dataStore env phoneNumber verified).1 = .ok () →
          self.get (self.step dataStore call) = .ok (some recipient.e164)) ∧
        (self.get dataStore = .ok (some recipient.e164) →
          self.get (self.step dataStore call) = self.get dataStore)
  | .setFeatureFlag .. => True

/-- Every other enabled address of the kind was stored in a later second than the current one. -/
def OthersLater (kind : String → Bool) (dataStore : DataStore) (now : SystemTime)
    (address : String) : Prop :=
  ∀ row ∈ dataStore.conn.lightningAddresses.rows, row.address ≠ address →
    row.enableStatus = EnableStatus.enabled.toU8 → kind row.address = true →
      now / 1000000000 < row.registeredAt

/-- An address that a call stores is the first one of its kind. -/
def StoresFirst (self : PhoneNumber) (dataStore : DataStore) : AddressCall → Prop
  | .register env assigned =>
      ∀ address, assigned = .ok address → env.faults .insertLightningAddress = false →
        isPhoneAddress address = false →
        OthersLater (fun a => !isPhoneAddress a) dataStore env.now address
  | .verify env phoneNumber verified =>
      ∀ recipient, self.parsePhoneNumber phoneNumber = .ok recipient → verified = .ok () →
        env.faults .insertLightningAddress = false →
        OthersLater isPhoneAddress dataStore env.now
          (recipient.toLightningAddress self.lipaLightningDomain)
  | .setFeatureFlag .. => True

end PhoneNumber

/-! ## Reading addresses -/

namespace DataStore

/-- Every address has a known status. -/
def Decodes (self : DataStore) : Prop :=
  ∀ row ∈ self.conn.lightningAddresses.rows,
    row.enableStatus = EnableStatus.enabled.toU8 ∨
      row.enableStatus = EnableStatus.featureDisabled.toU8

/-- The row is an enabled one of a kind. -/
def isEnabled (kind : String → Bool) (row : LightningAddressRow) : Bool :=
  row.enableStatus = EnableStatus.enabled.toU8 && kind row.address

theorem find?_enabled (kind : String → Bool) (rows : List LightningAddressRow) :
    ((rows.map fun row => (row.address,
        if row.enableStatus = EnableStatus.enabled.toU8 then EnableStatus.enabled
        else .featureDisabled)).filterMap (withStatus .enabled)).find? kind =
      (rows.filter (isEnabled kind)).head?.map LightningAddressRow.address := by
  induction rows with
  | nil => rfl
  | cons row rows ih =>
      rw [List.map_cons, List.filter_cons]
      by_cases henabled : row.enableStatus = EnableStatus.enabled.toU8
      · rw [List.filterMap_cons_some (b := row.address) (by simp [withStatus, henabled]),
          List.find?_cons]
        cases hkind : kind row.address with
        | true => simp [isEnabled, henabled, hkind]
        | false => rw [if_neg (by simp [isEnabled, hkind]), ih]
      · rw [List.filterMap_cons_none (by simp [withStatus, henabled]),
          if_neg (by simp [isEnabled, henabled]), ih]

/-- The address of a row that can be read, and its status. -/
def addressWithStatus (row : LightningAddressRow) : String × EnableStatus :=
  (row.address, if row.enableStatus = EnableStatus.enabled.toU8 then .enabled else .featureDisabled)

theorem retrieveLightningAddresses_of_decodes {self : DataStore} (h : self.Decodes) :
    self.retrieveLightningAddresses = .ok (self.lightningAddressRows.map addressWithStatus) := by
  rw [retrieveLightningAddresses_eq]
  refine mapM_ok fun row hrow => ?_
  have hstatus := h row (Latest.mem_latestFirst.mp hrow)
  unfold lightningAddressFromRow addressWithStatus
  rcases hstatus with hstatus | hstatus <;> rw [hstatus] <;> rfl

/-- The first enabled address of a kind, if all rows can be read. -/
theorem getEnabled_eq {self : DataStore} (h : self.Decodes) (kind : String → Bool) :
    getEnabled kind self =
      .ok ((self.lightningAddressRows.filter (isEnabled kind)).head?.map
        LightningAddressRow.address) := by
  rw [getEnabled, retrieveLightningAddresses_of_decodes h]
  exact congrArg Except.ok (find?_enabled kind self.lightningAddressRows)

theorem storeLightningAddress_fst (self : DataStore) {env : Env} (address : String)
    (hstored : env.faults .insertLightningAddress = false) :
    (self.storeLightningAddress env address).1 = .ok () := by
  simp [storeLightningAddress, execute, hstored]

theorem storeLightningAddress_of_fault (self : DataStore) {env : Env} (address : String)
    (hfault : env.faults .insertLightningAddress = true) :
    self.storeLightningAddress env address
      = (.error (.permanentFailure "Failed to add lightning address to db"), self) := by
  simp [storeLightningAddress, execute, hfault]

/-- The table after an address has been stored. -/
theorem storeLightningAddress_table (self : DataStore) {env : Env} (address : String)
    (hstored : env.faults .insertLightningAddress = false) :
    (self.storeLightningAddress env address).2.conn.lightningAddresses
      = self.conn.lightningAddresses.insertReplace
          ⟨address, env.now / 1000000000, EnableStatus.enabled.toU8⟩ := by
  simp [storeLightningAddress, execute, hstored]

theorem Decodes.store {self : DataStore} (h : self.Decodes) {env : Env} (address : String)
    (hstored : env.faults .insertLightningAddress = false) :
    (self.storeLightningAddress env address).2.Decodes := by
  intro r hr
  rw [storeLightningAddress_table self address hstored, KeyedTable.mem_insertReplace] at hr
  rcases hr with rfl | ⟨hr, -⟩
  · exact .inl rfl
  · exact h r hr

theorem Decodes.update {self : DataStore} (h : self.Decodes) (env : Env) (address : String)
    (status : EnableStatus) : (self.updateLightningAddress env address status).2.Decodes := by
  unfold updateLightningAddress
  split
  · exact h
  · intro r hr
    obtain ⟨r', hr', rfl⟩ := List.mem_map.mp hr
    split
    · cases status with
      | enabled => exact .inl rfl
      | featureDisabled => exact .inr rfl
    · exact h r' hr'

/-- An address that is got is one of the kind. -/
theorem kind_of_getEnabled {kind : String → Bool} {self : DataStore} {address : String}
    (h : getEnabled kind self = .ok (some address)) : kind address = true := by
  obtain ⟨addresses, -, h⟩ := bind_eq_ok.mp h
  exact List.find?_some (Except.ok.inj h)

/-- An address that is stored is the first enabled one of its kind exactly if the others were
stored in a later second. -/
theorem getEnabled_store_iff {self : DataStore} (h : self.Decodes) {kind : String → Bool}
    {env : Env} {address : String} (hkind : kind address = true)
    (hstored : env.faults .insertLightningAddress = false) :
    getEnabled kind (self.storeLightningAddress env address).2 = .ok (some address) ↔
      PhoneNumber.OthersLater kind self env.now address := by
  let row : LightningAddressRow := ⟨address, env.now / 1000000000, EnableStatus.enabled.toU8⟩
  let others := (self.conn.lightningAddresses.rows.filter fun r => r.address ≠ address).filter
    (isEnabled kind)
  have hstore := storeLightningAddress_table self address hstored
  have hrow : isEnabled kind row = true := by simp [isEnabled, row, hkind]
  -- the new row is the last one of the table
  have hrows : (self.storeLightningAddress env address).2.lightningAddressRows.filter
      (isEnabled kind) = Latest.latestFirst (fun r => -r.registeredAt) (others ++ [row]) := by
    rw [lightningAddressRows, hstore, Latest.filter_latestFirst, KeyedTable.insertReplace,
      List.filter_append]
    congr 2
    rw [List.filter_cons, if_pos hrow, List.filter_nil]
  have hnot : row ∉ others := by
    simp [others, row]
  rw [getEnabled_eq (h.store address hstored), hrows]
  have hhead : (Latest.latestFirst (fun r => -r.registeredAt) (others ++ [row])).head?.map
      LightningAddressRow.address = some address ↔
      (Latest.latestFirst (fun r => -r.registeredAt) (others ++ [row])).head? = some row := by
    rw [Option.map_eq_some_iff]
    constructor
    · rintro ⟨r, hr, hr'⟩
      have hmem : r ∈ others ++ [row] := Latest.mem_latestFirst.mp (List.mem_of_mem_head? hr)
      rcases List.mem_append.mp hmem with hmem | hmem
      · simp [others, hr'] at hmem
      · rw [hr, List.mem_singleton.mp hmem]
    · intro hr
      exact ⟨row, hr, rfl⟩
  rw [Except.ok.injEq, hhead, Latest.head?_latestFirst_append hnot]
  constructor
  · intro hlater r hr hne henabled hkind'
    have hmem : r ∈ others := by simp [others, isEnabled, hr, hne, henabled, hkind']
    exact Int.neg_lt_neg_iff.mp (hlater r hmem)
  · intro hlater r hr
    simp only [others, isEnabled, List.mem_filter, Bool.and_eq_true, decide_eq_true_eq] at hr
    exact Int.neg_lt_neg (hlater r hr.1.1 hr.1.2 hr.2.1 hr.2.2)

end DataStore

namespace PhoneNumber

variable {self : PhoneNumber} {dataStore : DataStore}

/-! ## The addresses of phone numbers -/

/-- The address of a phone number stands for it, and no other address of the domain does. -/
theorem lightningAddressToPhoneNumber_eq_some_iff {address domain : String} {digits : List Char}
    (hdigits : digits.all Char.isDigit = true) :
    lightningAddressToPhoneNumber address domain = some ("+" ++ String.ofList digits) ↔
      address = String.ofList ('-' :: digits) ++ domain := by
  constructor
  · intro h
    unfold lightningAddressToPhoneNumber at h
    split at h
    · next cs hcs =>
      by_cases hsuffix : domain.toList.isSuffixOf cs = true
      · rw [if_pos hsuffix] at h
        by_cases hall : (cs.take (cs.length - domain.toList.length)).all Char.isDigit = true
        · rw [if_pos hall, Option.some_inj, String.append_right_inj] at h
          have htake : cs.take (cs.length - domain.toList.length) = digits := by
            simpa using congrArg String.toList h
          have happend := List.suffix_iff_eq_append.mp (List.isSuffixOf_iff_suffix.mp hsuffix)
          apply String.toList_injective
          rw [hcs, ← happend, htake, String.toList_append, String.toList_ofList]
          rfl
        · rw [if_neg hall] at h
          cases h
      · rw [if_neg hsuffix] at h
        cases h
    · cases h
  · rintro rfl
    have hlist : (String.ofList ('-' :: digits) ++ domain).toList
        = '-' :: (digits ++ domain.toList) := by
      rw [String.toList_append, String.toList_ofList]
      rfl
    simp only [lightningAddressToPhoneNumber, hlist]
    rw [if_pos (by simp), List.length_append, Nat.add_sub_cancel, List.take_left, if_pos hdigits]

/-- The address that a phone number is stored under. -/
theorem toLightningAddress_eq {recipient : PhoneNumberRecipient} {digits : List Char}
    (he164 : recipient.e164 = "+" ++ String.ofList digits) (domain : String) :
    recipient.toLightningAddress domain = String.ofList ('-' :: digits) ++ domain := by
  have hlist : recipient.e164.toList = '+' :: digits := by
    rw [he164, String.toList_append, String.toList_ofList, String.toList_ofList]
    rfl
  rw [PhoneNumberRecipient.toLightningAddress, hlist, PhoneNumberRecipient.replacePlus,
    if_pos rfl]

/-- A number that is parsed has an E.164 text. -/
theorem e164_of_parsePhoneNumber {phoneNumber : String} {recipient : PhoneNumberRecipient}
    (h : self.parsePhoneNumber phoneNumber = .ok recipient) :
    ∃ digits : List Char, recipient.e164 = "+" ++ String.ofList digits ∧
      digits.all Char.isDigit = true := by
  obtain ⟨recipient', hparse, h⟩ := bind_eq_ok.mp h
  obtain ⟨_, -, h⟩ := bind_eq_ok.mp h
  obtain rfl := Except.ok.inj h
  unfold PhoneNumberRecipient.parse at hparse
  split at hparse
  · cases hparse
  · cases hparse
  · next number hnumber =>
    obtain ⟨_, -, hparse⟩ := bind_eq_ok.mp hparse
    cases hcountry : number.countryId with
    | none => rw [hcountry] at hparse; cases hparse
    | some countryCode =>
        rw [hcountry] at hparse
        obtain rfl := Except.ok.inj hparse
        exact self.phonenumber.e164_eq hnumber

/-! ## One call -/

/-- What `register` does: it stores the assigned address if the backend and the statement
succeed, and changes nothing otherwise. -/
theorem register_cases (dataStore : DataStore) (env : Env) (assigned : Except String String) :
    (∃ address, assigned = .ok address ∧ env.faults .insertLightningAddress = false ∧
      LightningAddress.register dataStore env assigned
        = (.ok address, (dataStore.storeLightningAddress env address).2)) ∨
    (¬ (∃ address, assigned = .ok address ∧ env.faults .insertLightningAddress = false) ∧
      ∃ e, LightningAddress.register dataStore env assigned = (.error e, dataStore)) := by
  cases assigned with
  | error e => exact .inr ⟨nofun, _, rfl⟩
  | ok address =>
      cases hfault : env.faults .insertLightningAddress with
      | false =>
          refine .inl ⟨address, rfl, rfl, ?_⟩
          have hstored := dataStore.storeLightningAddress_fst address hfault
          unfold LightningAddress.register
          cases hstore : dataStore.storeLightningAddress env address with
          | mk result dataStore' =>
              rw [hstore] at hstored
              obtain rfl : result = .ok () := hstored
              rw [mapToRuntimeError_ok]
              simp only [hstore]
      | true =>
          refine .inr ⟨nofun, .permanentFailure "Failed to add lightning address to db", ?_⟩
          unfold LightningAddress.register
          rw [mapToRuntimeError_ok]
          simp only [dataStore.storeLightningAddress_of_fault address hfault]

/-- What `verify` does: it stores the address of the number if this is accepted, and the backend
and the statement succeed. -/
theorem verify_cases (self : PhoneNumber) (dataStore : DataStore) (env : Env)
    {phoneNumber : String} (verified : Except String Unit) {recipient : PhoneNumberRecipient}
    (hparse : self.parsePhoneNumber phoneNumber = .ok recipient) :
    (verified = .ok () ∧ env.faults .insertLightningAddress = false ∧
      self.verify dataStore env phoneNumber verified
        = (.ok (), (dataStore.storeLightningAddress env
            (recipient.toLightningAddress self.lipaLightningDomain)).2)) ∨
    (¬ (verified = .ok () ∧ env.faults .insertLightningAddress = false) ∧
      ∃ e, self.verify dataStore env phoneNumber verified = (.error e, dataStore)) := by
  unfold verify
  rw [hparse]
  cases verified with
  | error e => exact .inr ⟨nofun, _, rfl⟩
  | ok u =>
      rw [mapToRuntimeError_ok]
      let address := recipient.toLightningAddress self.lipaLightningDomain
      cases hfault : env.faults .insertLightningAddress with
      | false =>
          exact .inl ⟨rfl, rfl, Prod.ext (dataStore.storeLightningAddress_fst address hfault) rfl⟩
      | true =>
          exact .inr ⟨nofun, _, dataStore.storeLightningAddress_of_fault address hfault⟩

/-- Getting a phone number is finding its address. -/
theorem get_eq_some_iff {recipient : PhoneNumberRecipient} {digits : List Char}
    (h : dataStore.Decodes) (he164 : recipient.e164 = "+" ++ String.ofList digits)
    (hdigits : digits.all Char.isDigit = true) :
    self.get dataStore = .ok (some recipient.e164) ↔
      getEnabled isPhoneAddress dataStore
        = .ok (some (recipient.toLightningAddress self.lipaLightningDomain)) := by
  have hget := DataStore.getEnabled_eq h isPhoneAddress
  rw [PhoneNumber.get, hget]
  show Except.ok _ = Except.ok _ ↔ _
  rw [Except.ok.injEq, Except.ok.injEq, Option.bind_eq_some_iff, he164,
    toLightningAddress_eq he164]
  constructor
  · rintro ⟨address, haddress, hphone⟩
    rw [haddress, (lightningAddressToPhoneNumber_eq_some_iff hdigits).mp hphone]
  · intro haddress
    exact ⟨_, haddress, (lightningAddressToPhoneNumber_eq_some_iff hdigits).mpr rfl⟩

/-- **When a call gets what it has registered**: exactly if the address that it stores is the
first one of its kind. -/
theorem getsRegistered_iff (self : PhoneNumber) (h : dataStore.Decodes) (call : AddressCall) :
    self.GetsRegistered dataStore call ↔ self.StoresFirst dataStore call := by
  cases call with
  | register env assigned =>
      simp only [GetsRegistered, StoresFirst, step]
      rcases register_cases dataStore env assigned with
        ⟨address, rfl, hstored, hregister⟩ | ⟨hnot, e, hregister⟩
      · simp only [hregister, Except.ok.injEq, forall_eq', hstored, true_imp_iff]
        cases hphone : isPhoneAddress address with
        | true =>
            -- such an address is not got, before or after the call
            refine iff_of_true ⟨nofun, fun hget => ?_⟩ nofun
            have hkind := DataStore.kind_of_getEnabled hget
            rw [hphone] at hkind
            cases hkind
        | false =>
            have hiff : LightningAddress.get (dataStore.storeLightningAddress env address).2
                  = .ok (some address) ↔
                OthersLater (fun a => !isPhoneAddress a) dataStore env.now address :=
              DataStore.getEnabled_store_iff h (by simp [hphone]) hstored
            constructor
            · rintro ⟨hget, -⟩ -
              exact hiff.mp (hget rfl)
            · intro hlater
              have hget := hiff.mpr (hlater rfl)
              exact ⟨fun _ => hget, fun hbefore => hget.trans hbefore.symm⟩
      · rw [hregister]
        refine iff_of_true ⟨nofun, fun _ _ _ => rfl⟩ ?_
        intro address hassigned hstored
        exact absurd ⟨address, hassigned, hstored⟩ hnot
  | verify env phoneNumber verified =>
      simp only [GetsRegistered, StoresFirst, step]
      refine forall_congr' fun recipient => forall_congr' fun hparse => ?_
      obtain ⟨digits, he164, hdigits⟩ := e164_of_parsePhoneNumber hparse
      rcases verify_cases self dataStore env verified hparse with
        ⟨hverified, hstored, hverify⟩ | ⟨hnot, e, hverify⟩
      · rw [hverify]
        have hkind : isPhoneAddress (recipient.toLightningAddress self.lipaLightningDomain)
            = true := by
          rw [toLightningAddress_eq he164, isPhoneAddress, String.toList_append,
            String.toList_ofList]
          rfl
        have hiff : self.get (dataStore.storeLightningAddress env
              (recipient.toLightningAddress self.lipaLightningDomain)).2
              = .ok (some recipient.e164) ↔
            OthersLater isPhoneAddress dataStore env.now
              (recipient.toLightningAddress self.lipaLightningDomain) :=
          (get_eq_some_iff (h.store _ hstored) he164 hdigits).trans
            (DataStore.getEnabled_store_iff h hkind hstored)
        constructor
        · rintro ⟨hget, -⟩ - -
          exact hiff.mp (hget rfl)
        · intro hlater
          have hget := hiff.mpr (hlater hverified hstored)
          exact ⟨fun _ => hget, fun hbefore => hget.trans hbefore.symm⟩
      · rw [hverify]
        refine iff_of_true ⟨nofun, fun _ => rfl⟩ ?_
        intro hverified hstored
        exact absurd ⟨hverified, hstored⟩ hnot
  | setFeatureFlag envs backend feature flagEnabled => exact Iff.rfl

/-! ## Runs -/

theorem updateAddresses_decodes (envs : String → Env) (status : EnableStatus)
    (addresses : List String) (h : dataStore.Decodes) :
    (Config.updateAddresses envs status dataStore addresses).2.Decodes := by
  induction addresses generalizing dataStore with
  | nil => exact h
  | cons address addresses ih =>
      have hupdate := h.update (envs address) address status
      unfold Config.updateAddresses
      cases hresult : dataStore.updateLightningAddress (envs address) address status with
      | mk result dataStore' =>
          rw [hresult] at hupdate
          cases result with
          | error e => exact hupdate
          | ok u => exact ih hupdate

/-- Setting a feature flag only updates the status of addresses. -/
theorem setFeatureFlag_cases (dataStore : DataStore) (envs : String → Env)
    (backend : AddressRequest → Except String Unit) (feature : FeatureFlag)
    (flagEnabled : Bool) :
    (Config.setFeatureFlag dataStore envs backend feature flagEnabled).dataStore = dataStore ∨
    ∃ status addresses, (Config.setFeatureFlag dataStore envs backend feature flagEnabled).dataStore
      = (Config.updateAddresses envs status dataStore addresses).2 := by
  unfold Config.setFeatureFlag
  cases dataStore.retrieveLightningAddresses with
  | error e => exact .inl rfl
  | ok addresses =>
      dsimp only
      split
      · exact .inl rfl
      · split
        · exact .inl rfl
        · exact .inr ⟨_, _, rfl⟩

theorem step_decodes (self : PhoneNumber) (dataStore : DataStore) (call : AddressCall)
    (h : dataStore.Decodes) : (self.step dataStore call).Decodes := by
  cases call with
  | register env assigned =>
      rcases register_cases dataStore env assigned with
        ⟨address, -, hstored, hregister⟩ | ⟨-, e, hregister⟩
      · rw [step, hregister]
        exact h.store address hstored
      · rw [step, hregister]
        exact h
  | verify env phoneNumber verified =>
      cases hparse : self.parsePhoneNumber phoneNumber with
      | error e =>
          rw [step, verify, hparse]
          exact h
      | ok recipient =>
          rcases verify_cases self dataStore env verified hparse with
            ⟨-, hstored, hverify⟩ | ⟨-, e, hverify⟩
          · rw [step, hverify]
            exact h.store _ hstored
          · rw [step, hverify]
            exact h
  | setFeatureFlag envs backend feature flagEnabled =>
      rcases setFeatureFlag_cases dataStore envs backend feature flagEnabled with
        hsame | ⟨status, addresses, hupdate⟩
      · rw [step, hsame]
        exact h
      · rw [step, hupdate]
        exact updateAddresses_decodes envs status addresses h

/-- **When registered addresses are got.** In a run from a new wallet, every call gets what it
registers or verifies, and keeps getting it when it is registered again, exactly if every address
is stored while no other enabled one of its kind has been stored up to the current second. -/
theorem registered_got_iff (self : PhoneNumber) (backupFile : Option Db)
    (calls : List AddressCall) :
    Runs.AllSteps self.step self.GetsRegistered (.new .migrated backupFile) calls ↔
      Runs.AllSteps self.step self.StoresFirst (.new .migrated backupFile) calls := by
  have hstart : (DataStore.new .migrated backupFile).Decodes := nofun
  exact Runs.allSteps_congr_of_inv self.step self.step_decodes
    (fun dataStore call h => self.getsRegistered_iff h call) calls _ hstart

/-- A crate that knows two numbers. -/
def twoNumbers : PhoneNumberCrate where
  parse number :=
    if number = "+41 44 668 18 00" then .ok ⟨true, "+41446681800", some "CH"⟩
    else if number = "+41 44 668 18 01" then .ok ⟨true, "+41446681801", some "CH"⟩
    else .error .other
  e164_eq := by
    intro number parsed h
    split at h
    · obtain rfl := Except.ok.inj h
      exact ⟨"41446681800".toList, by decide, by decide⟩
    · split at h
      · obtain rfl := Except.ok.inj h
        exact ⟨"41446681801".toList, by decide, by decide⟩
      · cases h

/-- Two numbers are verified one after the other; the first one is still got. -/
theorem first_number_got :
    ¬ ∀ (self : PhoneNumber) (backupFile : Option Db) (calls : List AddressCall),
      Runs.AllSteps self.step self.GetsRegistered (.new .migrated backupFile) calls := by
  intro h
  have hcalls := h ⟨twoNumbers, "@lipa.swiss", ["CH"]⟩ none
    [.verify ⟨1700000000000000000, fun _ => false⟩ "+41 44 668 18 00" (.ok ()),
      .verify ⟨1700086400000000000, fun _ => false⟩ "+41 44 668 18 01" (.ok ())]
  have hget := (hcalls.2.1 ⟨"+41446681801", "CH"⟩ (by decide +kernel)).1 (by decide +kernel)
  exact absurd hget (by decide +kernel)

end PhoneNumber

end LipaLightning
