import LipaLightning.LightningAddresses

set_option autoImplicit false

/-! # Phone numbers as lightning addresses

A phone number in the E.164 format is written as a lightning address by replacing its plus
(`to_lightning_address` in `phone_number.rs`), and such an address is read back as the number
(`lightning_address_to_phone_number`). The reader accepts the image of the writer and one more
address of each domain: the one whose number has no digits.
-/

namespace LipaLightning

/-- A plus and one or more digits. -/
def IsE164 (e164 : String) : Prop :=
  ∃ digits : List Char, digits ≠ [] ∧ (∀ c ∈ digits, c.isDigit = true) ∧
    e164 = String.ofList ('+' :: digits)

/-- The address is a minus, one or more digits and the domain, and the number is a plus and the
same digits. -/
def IsAddressOf (domain address e164 : String) : Prop :=
  ∃ digits : List Char, digits ≠ [] ∧ (∀ c ∈ digits, c.isDigit = true) ∧
    address = String.ofList ('-' :: digits) ++ domain ∧ e164 = String.ofList ('+' :: digits)

/-- What the reader accepts: the digits may be missing. -/
theorem lightningAddressToPhoneNumber_eq_some_iff_digits (address domain e164 : String) :
    lightningAddressToPhoneNumber address domain = some e164 ↔
      ∃ digits : List Char, (∀ c ∈ digits, c.isDigit = true) ∧
        address = String.ofList ('-' :: digits) ++ domain ∧
        e164 = String.ofList ('+' :: digits) := by
  have hplus (digits : List Char) :
      "+" ++ String.ofList digits = String.ofList ('+' :: digits) := by
    apply String.toList_injective
    rw [String.toList_append, String.toList_ofList, String.toList_ofList, String.toList_ofList,
      List.singleton_append]
  constructor
  · intro h
    have hdigits : ∃ digits : List Char, digits.all Char.isDigit = true ∧
        e164 = "+" ++ String.ofList digits := by
      unfold lightningAddressToPhoneNumber at h
      split at h
      · next cs hcs =>
        dsimp only at h
        split at h
        · split at h
          · next hall => exact ⟨_, hall, (Option.some.inj h).symm⟩
          · cases h
        · cases h
      · cases h
    obtain ⟨digits, hall, rfl⟩ := hdigits
    refine ⟨digits, List.all_eq_true.mp hall, ?_, hplus digits⟩
    exact (PhoneNumber.lightningAddressToPhoneNumber_eq_some_iff hall).mp h
  · rintro ⟨digits, hdigits, haddress, rfl⟩
    rw [← hplus]
    exact (PhoneNumber.lightningAddressToPhoneNumber_eq_some_iff
      (List.all_eq_true.mpr hdigits)).mpr haddress

/-- The address of a number is the one that the writer gives it. -/
theorem isAddressOf_iff (domain address e164 : String) :
    IsAddressOf domain address e164 ↔ IsE164 e164 ∧
      ∀ recipient : PhoneNumberRecipient, recipient.e164 = e164 →
        recipient.toLightningAddress domain = address := by
  have hwritten : ∀ {digits : List Char} {recipient : PhoneNumberRecipient},
      recipient.e164 = String.ofList ('+' :: digits) →
      recipient.toLightningAddress domain = String.ofList ('-' :: digits) ++ domain := by
    intro digits recipient he164
    rw [PhoneNumberRecipient.toLightningAddress, he164, String.toList_ofList,
      PhoneNumberRecipient.replacePlus, if_pos rfl]
  constructor
  · rintro ⟨digits, hne, hdigits, rfl, rfl⟩
    exact ⟨⟨digits, hne, hdigits, rfl⟩, fun recipient he164 => hwritten he164⟩
  · rintro ⟨⟨digits, hne, hdigits, rfl⟩, hrecipient⟩
    have haddress := hrecipient ⟨String.ofList ('+' :: digits), ""⟩ rfl
    exact ⟨digits, hne, hdigits, haddress.symm.trans (hwritten rfl), rfl⟩

/-- The address is read as a phone number exactly if it is that of one, and shown as that number
only. -/
structure ReadExactly (domain address : String) : Prop where
  reads_iff : ∀ e164, lightningAddressToPhoneNumber address domain = some e164 ↔
    IsAddressOf domain address e164
  written : ∀ e164, lightningAddressToPhoneNumber address domain = some e164 →
    IsE164 e164 ∧ ∀ recipient : PhoneNumberRecipient, recipient.e164 = e164 →
      recipient.toLightningAddress domain = address
  shown_iff : ∀ e164, Recipient.fromLightningAddress address domain = .phoneNumber e164 ↔
    IsAddressOf domain address e164

theorem fromLightningAddress_eq_phoneNumber_iff (address domain e164 : String) :
    Recipient.fromLightningAddress address domain = .phoneNumber e164 ↔
      lightningAddressToPhoneNumber address domain = some e164 := by
  unfold Recipient.fromLightningAddress
  cases lightningAddressToPhoneNumber address domain <;> simp

/-- The address without digits is read as a plus. -/
theorem reads_address_without_digits (domain : String) :
    lightningAddressToPhoneNumber ("-" ++ domain) domain = some "+" :=
  (lightningAddressToPhoneNumber_eq_some_iff_digits ..).mpr ⟨[], nofun, rfl, rfl⟩

/-- A plus alone is no number. -/
theorem not_isAddressOf_plus (domain address : String) : ¬ IsAddressOf domain address "+" := by
  rintro ⟨digits, hne, -, -, hplus⟩
  have hlist : ['+'] = '+' :: digits := String.ofList_injective hplus
  exact hne (List.cons.inj hlist).2.symm

/-- **The two encodings are inverse to each other**, but for one address of each domain. A number
is read back from its address, and an address is read as the number it is written for, and shown
as no other, exactly if it is not a minus with the domain right behind it. -/
theorem phoneAddresses_inverse_iff (domain : String) :
    (∀ recipient : PhoneNumberRecipient, IsE164 recipient.e164 →
      lightningAddressToPhoneNumber (recipient.toLightningAddress domain) domain
        = some recipient.e164) ∧
    ∀ address, ReadExactly domain address ↔ address ≠ "-" ++ domain := by
  constructor
  · intro recipient he164
    obtain ⟨digits, -, hdigits, haddress, he164⟩ := (isAddressOf_iff domain _ _).mpr
      ⟨he164, fun other hother => by
        rw [PhoneNumberRecipient.toLightningAddress, hother]⟩
    exact (lightningAddressToPhoneNumber_eq_some_iff_digits ..).mpr
      ⟨digits, hdigits, haddress, he164⟩
  · intro address
    constructor
    · rintro hexact rfl
      have hreads := reads_address_without_digits domain
      exact not_isAddressOf_plus domain _ ((hexact.reads_iff "+").mp hreads)
    · intro hne
      have hreads : ∀ e164, lightningAddressToPhoneNumber address domain = some e164 ↔
          IsAddressOf domain address e164 := by
        intro e164
        rw [lightningAddressToPhoneNumber_eq_some_iff_digits]
        constructor
        · rintro ⟨digits, hdigits, haddress, he164⟩
          refine ⟨digits, ?_, hdigits, haddress, he164⟩
          rintro rfl
          exact hne haddress
        · rintro ⟨digits, -, hdigits, haddress, he164⟩
          exact ⟨digits, hdigits, haddress, he164⟩
      refine ⟨hreads, fun e164 h => ?_, fun e164 => ?_⟩
      · exact (isAddressOf_iff domain address e164).mp ((hreads e164).mp h)
      · rw [fromLightningAddress_eq_phoneNumber_iff]
        exact hreads e164

/-- The address of no number is shown as the phone number `+`. -/
theorem bare_minus_shown_as_number :
    ¬ ∀ domain address : String, ReadExactly domain address := by
  intro h
  have hreads : lightningAddressToPhoneNumber "-@lipa.swiss" "@lipa.swiss" = some "+" :=
    reads_address_without_digits "@lipa.swiss"
  exact not_isAddressOf_plus _ _ (((h "@lipa.swiss" "-@lipa.swiss").reads_iff "+").mp hreads)

end LipaLightning
