import LipaLightning.Parser.PhoneNumber

set_option autoImplicit false

/-! # Parsing the prefix of a phone number

`PhoneNumberPrefixParser` of `phone_number.rs`, which judges a phone number while it is typed:
the number may be complete enough to have an allowed country code, it may still get one, or it
may not.
-/

namespace LipaLightning

open AddressParser (len len_append)
open PhoneNumberParser

inductive ParsePhoneNumberPrefixError where
  | incomplete
  | invalidCharacter (index : UInt32)
  | unsupportedCountry
  deriving DecidableEq, Repr

structure PhoneNumberPrefixParser where
  allowedCountryCodes : List String

namespace PhoneNumberPrefixParser

/-- The country codes of the `phonenumber` crate's database are an argument. -/
def new (countryCode : String → Option UInt16) (allowedCountriesIso31661Alpha2 : List String) :
    PhoneNumberPrefixParser where
  allowedCountryCodes :=
    (allowedCountriesIso31661Alpha2.filterMap countryCode).map fun code => code.toNat.repr

/-- `str::starts_with`. -/
def startsWith (s t : String) : Bool := t.toList.isPrefixOf s.toList

def parse (parser : PhoneNumberPrefixParser) (number : String) :
    Except ParsePhoneNumberPrefixError Unit :=
  match parsePhoneNumber number with
  | .ok digits =>
      if parser.allowedCountryCodes.any fun c => startsWith digits c then .ok ()
      else if parser.allowedCountryCodes.any fun c => startsWith c digits then
        .error .incomplete
      else .error .unsupportedCountry
  | .error .incomplete => .error .incomplete
  | .error (.unexpectedCharacter index) => .error (.invalidCharacter (UInt32.ofNat index))
  | .error (.excessSuffix index) => .error (.invalidCharacter (UInt32.ofNat index))

theorem startsWith_iff (s t : String) : startsWith s t = true ↔ t.toList <+: s.toList :=
  List.isPrefixOf_iff_prefix

/-! ## Country codes -/

/-- The digits start with an allowed country code. -/
def Starts (parser : PhoneNumberPrefixParser) (digits : List Char) : Prop :=
  ∃ code ∈ parser.allowedCountryCodes, code.toList <+: digits

/-- An allowed country code starts with the digits. -/
def CanStart (parser : PhoneNumberPrefixParser) (digits : List Char) : Prop :=
  ∃ code ∈ parser.allowedCountryCodes, digits <+: code.toList

/-- There are country codes, and they consist of digits. -/
structure HasCodes (parser : PhoneNumberPrefixParser) : Prop where
  ne_nil : parser.allowedCountryCodes ≠ []
  code_ne_nil : ∀ code ∈ parser.allowedCountryCodes, code.toList ≠ []
  isDigit : ∀ code ∈ parser.allowedCountryCodes, ∀ c ∈ code.toList, c.isDigit = true

/-- A parser for countries of the database, one of them at least, has country codes. -/
theorem hasCodes_new {countryCode : String → Option UInt16} {countries : List String}
    (hcountry : ∃ country ∈ countries, countryCode country ≠ none) :
    (new countryCode countries).HasCodes := by
  have hcode : ∀ code ∈ (new countryCode countries).allowedCountryCodes,
      ∃ n : Nat, code.toList = Nat.toDigits 10 n := by
    intro code hmem
    obtain ⟨n, -, rfl⟩ := List.mem_map.mp hmem
    exact ⟨n.toNat, by rw [Nat.repr, String.toList_ofList]⟩
  refine ⟨?_, ?_, ?_⟩
  · obtain ⟨country, hmem, hsome⟩ := hcountry
    obtain ⟨code, hcode⟩ := Option.ne_none_iff_exists'.mp hsome
    exact List.ne_nil_of_mem
      (List.mem_map_of_mem (List.mem_filterMap.mpr ⟨country, hmem, hcode⟩))
  · intro code hmem
    obtain ⟨n, hn⟩ := hcode code hmem
    rw [hn]
    exact Nat.toDigits_ne_nil
  · intro code hmem c hc
    obtain ⟨n, hn⟩ := hcode code hmem
    rw [hn] at hc
    exact Nat.isDigit_of_mem_toDigits (by decide) (by decide) hc

variable {parser : PhoneNumberPrefixParser}

theorem HasCodes.not_starts_nil (hcodes : parser.HasCodes) : ¬ parser.Starts [] := by
  rintro ⟨code, hmem, hcode⟩
  exact hcodes.code_ne_nil code hmem (List.prefix_nil.mp hcode)

theorem HasCodes.canStart_nil (hcodes : parser.HasCodes) : parser.CanStart [] := by
  obtain ⟨code, hmem⟩ := List.exists_mem_of_ne_nil _ hcodes.ne_nil
  exact ⟨code, hmem, List.nil_prefix⟩

theorem any_startsWith_iff (parser : PhoneNumberPrefixParser) (digits : String) :
    (parser.allowedCountryCodes.any fun c => startsWith digits c) = true
      ↔ parser.Starts digits.toList := by
  rw [List.any_eq_true]
  exact exists_congr fun code => and_congr_right fun _ => startsWith_iff digits code

theorem any_startsWith_digits_iff (parser : PhoneNumberPrefixParser) (digits : String) :
    (parser.allowedCountryCodes.any fun c => startsWith c digits) = true
      ↔ parser.CanStart digits.toList := by
  rw [List.any_eq_true]
  exact exists_congr fun code => and_congr_right fun _ => startsWith_iff code digits

/-! ## The verdicts by the place where the scan ends -/

/-- Whether a text is read to its end, or is stuck at a character. -/
theorem run_or_stuck (s : List Char) :
    (∃ place, phoneScanner.run .before s = some place)
      ∨ ∃ read c rest place, s = read ++ c :: rest
        ∧ phoneScanner.run .before read = some place ∧ phoneStep place c = none := by
  rcases parsePhoneNumber_cases (String.ofList s) with
    ⟨place, hrun, -⟩ | ⟨read, c, rest, place, hsplit, hrun, hstep, -⟩
  · rw [String.toList_ofList] at hrun
    exact .inl ⟨place, hrun⟩
  · rw [String.toList_ofList] at hsplit
    exact .inr ⟨read, c, rest, place, hsplit, hrun, hstep⟩

/-- The verdict on a text with these digits. -/
structure Judges (parser : PhoneNumberPrefixParser) (s : String) (digits : List Char) : Prop where
  ok : parser.parse s = .ok () ↔ parser.Starts digits
  incomplete : parser.parse s = .error .incomplete
    ↔ ¬ parser.Starts digits ∧ parser.CanStart digits
  unsupportedCountry : parser.parse s = .error .unsupportedCountry
    ↔ ¬ parser.Starts digits ∧ ¬ parser.CanStart digits
  valid : ∀ index, parser.parse s ≠ .error (.invalidCharacter index)

/-- The verdict on a text that is read depends on its digits only. -/
theorem judges_of_run (hcodes : parser.HasCodes) {s : String} {place : PhonePlace}
    (hrun : phoneScanner.run .before s.toList = some place) : parser.Judges s place.digits := by
  have hparse := parsePhoneNumber_of_run hrun
  cases hdigits : place.digits with
  | nil =>
      have hverdict : parser.parse s = .error .incomplete := by
        unfold parse
        rw [hparse, outcome, hdigits]
      have hstarts := hcodes.not_starts_nil
      have hcan := hcodes.canStart_nil
      constructor <;> simp [hverdict, hstarts, hcan]
  | cons d ds =>
      have hstartsIff := any_startsWith_iff parser (String.ofList (d :: ds))
      have hcanIff := any_startsWith_digits_iff parser (String.ofList (d :: ds))
      rw [String.toList_ofList] at hstartsIff hcanIff
      unfold outcome at hparse
      rw [hdigits] at hparse
      by_cases hstarts : parser.Starts (d :: ds)
      · have hverdict : parser.parse s = .ok () := by
          unfold parse
          rw [hparse]
          exact if_pos (hstartsIff.mpr hstarts)
        constructor <;> simp [hverdict, hstarts]
      · by_cases hcan : parser.CanStart (d :: ds)
        · have hverdict : parser.parse s = .error .incomplete := by
            unfold parse
            rw [hparse]
            exact (if_neg (mt hstartsIff.mp hstarts)).trans (if_pos (hcanIff.mpr hcan))
          constructor <;> simp [hverdict, hstarts, hcan]
        · have hverdict : parser.parse s = .error .unsupportedCountry := by
            unfold parse
            rw [hparse]
            exact (if_neg (mt hstartsIff.mp hstarts)).trans (if_neg (mt hcanIff.mp hcan))
          constructor <;> simp [hverdict, hstarts, hcan]

/-- A text that is stuck has an invalid character there. -/
theorem parse_of_stuck {s : String} {read rest : List Char} {c : Char} {place : PhonePlace}
    (hsplit : s.toList = read ++ c :: rest)
    (hrun : phoneScanner.run .before read = some place) (hstep : phoneStep place c = none) :
    parser.parse s = .error (.invalidCharacter (UInt32.ofNat (len read))) := by
  rcases parsePhoneNumber_cases s with ⟨place', hrun', -⟩ | hstuck
  · have hnone : phoneScanner.run .before (read ++ c :: rest) = none :=
      Scanner.run_stuck hrun hstep rest
    rw [hsplit, hnone] at hrun'
    cases hrun'
  · obtain ⟨read', c', rest', place', hsplit', hrun', hstep', hparse⟩ := hstuck
    have hread : read = read' :=
      Scanner.eq_of_stuck (hsplit.symm.trans hsplit') hrun hstep hrun' hstep'
    rw [hread]
    unfold parse
    rcases hparse with hparse | hparse
    · rw [hparse]
    · rw [hparse]

/-- A text with any other verdict is read to its end. -/
theorem run_of_parse {s : String} {verdict : Except ParsePhoneNumberPrefixError Unit}
    (h : parser.parse s = verdict) (hvalid : ∀ index, verdict ≠ .error (.invalidCharacter index)) :
    ∃ place, phoneScanner.run .before s.toList = some place := by
  rcases run_or_stuck s.toList with hrun | ⟨read, c, rest, place, hsplit, hrun, hstep⟩
  · exact hrun
  · exact absurd (h.symm.trans (parse_of_stuck hsplit hrun hstep)) (hvalid _)

theorem parse_eq_ok_iff_run (hcodes : parser.HasCodes) (s : String) :
    parser.parse s = .ok () ↔ ∃ place, phoneScanner.run .before s.toList = some place
      ∧ parser.Starts place.digits := by
  constructor
  · intro h
    obtain ⟨place, hrun⟩ := run_of_parse h nofun
    exact ⟨place, hrun, (judges_of_run hcodes hrun).ok.mp h⟩
  · rintro ⟨place, hrun, hstarts⟩
    exact (judges_of_run hcodes hrun).ok.mpr hstarts

/-! ## The extensions of a text -/

/-- Reading on only adds digits. -/
theorem digits_prefix_of_run {place place' : PhonePlace} {more : List Char}
    (hrun : phoneScanner.run place more = some place') : place.digits <+: place'.digits := by
  cases place with
  | before => exact List.nil_prefix
  | number digits =>
      rw [run_number_eq_some hrun]
      exact List.prefix_append digits _

/-- Any digits that continue those read so far can be typed. -/
theorem exists_run_of_prefix {place : PhonePlace} {digits : List Char}
    (hread : place.digits <+: digits) (hdigits : ∀ c ∈ digits, c.isDigit = true) :
    ∃ more, phoneScanner.run place more = some (.number digits) := by
  have htyped : ∀ (start typed : List Char), (∀ c ∈ typed, c.isDigit = true) →
      phoneScanner.run (.number start) typed = some (.number (start ++ typed)) := by
    intro start typed htyped
    have hrun := run_number (fun c hc => isDigitOrSymbol_of_isDigit (htyped c hc)) start
    rw [hrun, List.filter_eq_self.mpr htyped]
  cases place with
  | before =>
      have hplus : phoneScanner.run .before ['+'] = some (.number []) := by decide
      exact ⟨['+'] ++ digits, Scanner.run_trans hplus (htyped [] digits hdigits)⟩
  | number start =>
      obtain ⟨typed, rfl⟩ := hread
      exact ⟨typed, htyped start typed fun c hc => hdigits c (List.mem_append_right start hc)⟩

/-- What can still become an accepted prefix: its digits and a country code agree as far as both
go. -/
theorem exists_ok_iff (hcodes : parser.HasCodes) (s : String) :
    (∃ more, parser.parse (s ++ more) = .ok ())
      ↔ ∃ place, phoneScanner.run .before s.toList = some place
        ∧ (parser.Starts place.digits ∨ parser.CanStart place.digits) := by
  constructor
  · rintro ⟨more, hok⟩
    obtain ⟨place', hrun, code, hmem, hcode⟩ := (parse_eq_ok_iff_run hcodes _).mp hok
    rw [String.toList_append, Scanner.run_append, Option.bind_eq_some_iff] at hrun
    obtain ⟨place, hread, hmore⟩ := hrun
    refine ⟨place, hread, ?_⟩
    have hdigits := digits_prefix_of_run hmore
    rcases List.prefix_or_prefix_of_prefix hcode hdigits with hstarts | hcan
    · exact .inl ⟨code, hmem, hstarts⟩
    · exact .inr ⟨code, hmem, hcan⟩
  · rintro ⟨place, hrun, hstarts | ⟨code, hmem, hcan⟩⟩
    · refine ⟨"", ?_⟩
      rw [String.append_empty]
      exact (parse_eq_ok_iff_run hcodes s).mpr ⟨place, hrun, hstarts⟩
    · obtain ⟨more, hmore⟩ := exists_run_of_prefix hcan (hcodes.isDigit code hmem)
      refine ⟨String.ofList more, (parse_eq_ok_iff_run hcodes _).mpr ⟨.number code.toList, ?_, ?_⟩⟩
      · rw [String.toList_append, String.toList_ofList]
        exact Scanner.run_trans hrun hmore
      · exact ⟨code, hmem, List.prefix_rfl⟩

/-! ## The guide -/

/-- What the verdict on a prefix says about the numbers that it can become. -/
structure Guides (parser : PhoneNumberPrefixParser) (s : String) : Prop where
  ok : parser.parse s = .ok () ↔ ∃ digits, parsePhoneNumber s = .ok digits
    ∧ ∃ code ∈ parser.allowedCountryCodes, code.toList <+: digits.toList
  stays_ok : parser.parse s = .ok () → ∀ more : String,
    (∀ c ∈ more.toList, c.isDigit = true ∨ isWhitespace c = true
      ∨ c ∈ ['.', '-', '/', '(', ')', '[', ']']) → parser.parse (s ++ more) = .ok ()
  incomplete : parser.parse s = .error .incomplete
    ↔ parser.parse s ≠ .ok () ∧ ∃ more, parser.parse (s ++ more) = .ok ()
  unsupportedCountry : parser.parse s = .error .unsupportedCountry
    ↔ WellFormed s ∧ ∀ more, parser.parse (s ++ more) ≠ .ok ()
  invalidCharacter : ∀ index, parser.parse s = .error (.invalidCharacter index)
    ↔ ∃ read c rest, s.toList = read ++ c :: rest ∧ len read = index.toNat
      ∧ Extendable read ∧ ¬ Extendable (read ++ [c])

theorem parse_eq_ok_iff (hcodes : parser.HasCodes) (s : String) :
    parser.parse s = .ok () ↔ ∃ digits, parsePhoneNumber s = .ok digits
      ∧ ∃ code ∈ parser.allowedCountryCodes, code.toList <+: digits.toList := by
  rw [parse_eq_ok_iff_run hcodes]
  constructor
  · rintro ⟨place, hrun, hstarts⟩
    have hne : place.digits ≠ [] := fun hnil => hcodes.not_starts_nil (hnil ▸ hstarts)
    refine ⟨String.ofList place.digits, (parsePhoneNumber_eq_ok_iff ..).mpr ?_, ?_⟩
    · rw [String.toList_ofList]
      exact ⟨hne, place, hrun, rfl⟩
    · rw [String.toList_ofList]
      exact hstarts
  · rintro ⟨digits, hparse, hstarts⟩
    obtain ⟨-, place, hrun, hdigits⟩ := (parsePhoneNumber_eq_ok_iff s digits).mp hparse
    refine ⟨place, hrun, ?_⟩
    rw [hdigits]
    exact hstarts

/-- What is typed into an accepted prefix keeps its digits. -/
theorem parse_append_ok (hcodes : parser.HasCodes) {s more : String}
    (hok : parser.parse s = .ok ()) (hmore : ∀ c ∈ more.toList, isDigitOrSymbol c = true) :
    parser.parse (s ++ more) = .ok () := by
  obtain ⟨place, hrun, code, hmem, hcode⟩ := (parse_eq_ok_iff_run hcodes s).mp hok
  cases place with
  | before => exact absurd ⟨code, hmem, hcode⟩ hcodes.not_starts_nil
  | number digits =>
      have hread := run_number hmore digits
      rw [parse_eq_ok_iff_run hcodes, String.toList_append]
      refine ⟨_, Scanner.run_trans hrun hread, code, hmem, ?_⟩
      exact hcode.trans (List.prefix_append digits _)

theorem parse_eq_incomplete_iff (hcodes : parser.HasCodes) (s : String) :
    parser.parse s = .error .incomplete
      ↔ parser.parse s ≠ .ok () ∧ ∃ more, parser.parse (s ++ more) = .ok () := by
  rw [exists_ok_iff hcodes]
  constructor
  · intro h
    obtain ⟨place, hrun⟩ := run_of_parse h nofun
    have hjudges := judges_of_run hcodes hrun
    obtain ⟨hstarts, hcan⟩ := hjudges.incomplete.mp h
    exact ⟨mt hjudges.ok.mp hstarts, place, hrun, .inr hcan⟩
  · rintro ⟨hno, place, hrun, hcould⟩
    have hjudges := judges_of_run hcodes hrun
    have hstarts : ¬ parser.Starts place.digits := mt hjudges.ok.mpr hno
    exact hjudges.incomplete.mpr ⟨hstarts, hcould.resolve_left hstarts⟩

theorem parse_eq_unsupportedCountry_iff (hcodes : parser.HasCodes) (s : String) :
    parser.parse s = .error .unsupportedCountry
      ↔ WellFormed s ∧ ∀ more, parser.parse (s ++ more) ≠ .ok () := by
  rw [← not_exists, exists_ok_iff hcodes, wellFormed_iff]
  constructor
  · intro h
    obtain ⟨place, hrun⟩ := run_of_parse h nofun
    obtain ⟨hstarts, hcan⟩ := (judges_of_run hcodes hrun).unsupportedCountry.mp h
    have haccept : place.digits ≠ [] := fun hnil => hcan (hnil ▸ hcodes.canStart_nil)
    refine ⟨⟨place, hrun, haccept⟩, ?_⟩
    rintro ⟨place', hrun', hcould⟩
    obtain rfl := Option.some.inj (hrun.symm.trans hrun')
    exact hcould.elim hstarts hcan
  · rintro ⟨⟨place, hrun, -⟩, hnever⟩
    refine (judges_of_run hcodes hrun).unsupportedCountry.mpr ⟨?_, ?_⟩
    · exact fun hstarts => hnever ⟨place, hrun, .inl hstarts⟩
    · exact fun hcan => hnever ⟨place, hrun, .inr hcan⟩

/-- The invalid character is the first one that no well-formed number has at its place. -/
theorem parse_eq_invalidCharacter_iff (hcodes : parser.HasCodes) {s : String}
    (hlen : len s.toList < 2 ^ 32) (index : UInt32) :
    parser.parse s = .error (.invalidCharacter index)
      ↔ ∃ read c rest, s.toList = read ++ c :: rest ∧ len read = index.toNat
        ∧ Extendable read ∧ ¬ Extendable (read ++ [c]) := by
  constructor
  · intro h
    rcases run_or_stuck s.toList with ⟨place, hrun⟩ | ⟨read, c, rest, place, hsplit, hrun, hstep⟩
    · exact absurd h ((judges_of_run hcodes hrun).valid index)
    · have hindex : ParsePhoneNumberPrefixError.invalidCharacter index
          = .invalidCharacter (UInt32.ofNat (len read)) :=
        Except.error.inj (h.symm.trans (parse_of_stuck hsplit hrun hstep))
      have hread : len read < 2 ^ 32 := by
        rw [hsplit, len_append] at hlen
        omega
      refine ⟨read, c, rest, hsplit, ?_, (extendable_iff read).mpr ⟨place, hrun⟩, ?_⟩
      · rw [ParsePhoneNumberPrefixError.invalidCharacter.inj hindex,
          UInt32.toNat_ofNat_of_lt' hread]
      · rw [extendable_iff]
        rintro ⟨place', hrun'⟩
        have hnone : phoneScanner.run .before (read ++ [c]) = none :=
          Scanner.run_stuck hrun hstep []
        cases hnone.symm.trans hrun'
  · rintro ⟨read, c, rest, hsplit, hindex, hread, hnext⟩
    obtain ⟨place, hrun⟩ := (extendable_iff read).mp hread
    have hstep : phoneStep place c = none := by
      cases hnext' : phoneStep place c with
      | none => rfl
      | some place' =>
          exact absurd ((extendable_iff _).mpr ⟨place', Scanner.run_snoc hrun hnext'⟩) hnext
    rw [parse_of_stuck hsplit hrun hstep, hindex, UInt32.ofNat_toNat]

theorem isDigitOrSymbol_iff (c : Char) : isDigitOrSymbol c = true
    ↔ c.isDigit = true ∨ isWhitespace c = true ∨ c ∈ ['.', '-', '/', '(', ')', '[', ']'] := by
  simp [isDigitOrSymbol, or_assoc]

/-- **The verdicts guide the typing of a number.** A prefix is accepted when its digits start
with a country code, and stays accepted; otherwise the verdict says whether it can still be
accepted, has the digits of another country, or is no prefix of a number from some character
on. -/
theorem parse_guides (parser : PhoneNumberPrefixParser)
    (hne : parser.allowedCountryCodes ≠ [])
    (hdigits : ∀ code ∈ parser.allowedCountryCodes,
      code.toList ≠ [] ∧ ∀ c ∈ code.toList, c.isDigit = true)
    (s : String) (hlen : len s.toList < 2 ^ 32) : parser.Guides s := by
  have hcodes : parser.HasCodes :=
    ⟨hne, fun code hmem => (hdigits code hmem).1, fun code hmem => (hdigits code hmem).2⟩
  refine ⟨parse_eq_ok_iff hcodes s, fun hok more hmore => ?_, parse_eq_incomplete_iff hcodes s,
    parse_eq_unsupportedCountry_iff hcodes s, parse_eq_invalidCharacter_iff hcodes hlen⟩
  exact parse_append_ok hcodes hok fun c hc => (isDigitOrSymbol_iff c).mpr (hmore c hc)

/-- The start of a Swiss number. -/
theorem parse_guides_swiss : Guides ⟨["41"]⟩ "+4" :=
  parse_guides ⟨["41"]⟩ (List.cons_ne_nil _ _)
    (fun code hmem => by
      obtain rfl := List.mem_singleton.mp hmem
      simp)
    "+4" (by decide)

end PhoneNumberPrefixParser

end LipaLightning
