import LipaLightning.Basic.Scanner
import LipaLightning.Parser.LightningAddress
import LipaLightning.Text

set_option autoImplicit false

/-! # Parsing a phone number

The parser of phone numbers (the `parser` crate: `phone_number.rs` and `parse_phone_number`), and
a scanner that stops where the parser stops. The scanner keeps the digits it has read, which are
what the parser returns.
-/

namespace LipaLightning

open Nom

namespace PhoneNumberParser

open AddressParser

def isDigitOrSymbol (c : Char) : Bool :=
  c.isDigit || isWhitespace c || ".-/()[]".toList.contains c

def phoneNumber : Parser (List Char) :=
  map (preceded (char '+') (Nom.takeWhile isDigitOrSymbol)) fun digitsAndSymbols =>
    digitsAndSymbols.filter Char.isDigit

def parsePhoneNumber (number : String) : Except ParseError String :=
  match finish (delimited space0 phoneNumber space0 number.toList) with
  | .ok ([], []) => .error .incomplete
  | .ok ([], digits) => .ok (String.ofList digits)
  | .ok (rem, _) => .error (.excessSuffix (len number.toList - len rem))
  | .error ⟨[], _⟩ => .error .incomplete
  | .error ⟨input, _⟩ => .error (.unexpectedCharacter (len number.toList - len input))

theorem isDigitOrSymbol_of_isDigit {c : Char} (h : c.isDigit = true) :
    isDigitOrSymbol c = true := by
  simp [isDigitOrSymbol, h]

theorem isDigitOrSymbol_of_isSpace {c : Char} (h : isSpace c = true) :
    isDigitOrSymbol c = true := by
  have hspace : c = ' ' ∨ c = '\t' := by simpa [isSpace] using h
  have hwhitespace : isWhitespace c = true := by rcases hspace with rfl | rfl <;> decide
  simp [isDigitOrSymbol, hwhitespace]

/-! ## The scanner -/

/-- Where in a phone number a scan is: in the spaces before it, or after the plus and some
digits. -/
inductive PhonePlace where
  | before
  | number (digits : List Char)
  deriving DecidableEq, Repr

def phoneStep : PhonePlace → Char → Option PhonePlace
  | .before, c =>
      if isSpace c then some .before else if c = '+' then some (.number []) else none
  | .number digits, c =>
      if isDigitOrSymbol c then some (.number (digits ++ [c].filter Char.isDigit)) else none

/-- The digits of a phone number that may end at the place. -/
def PhonePlace.digits : PhonePlace → List Char
  | .before => []
  | .number digits => digits

def phoneScanner : Scanner PhonePlace Char where
  start := .before
  step := phoneStep
  accept place := place.digits ≠ []

theorem step_space {c : Char} (hc : isSpace c = true) : phoneStep .before c = some .before :=
  if_pos hc

theorem step_plus : phoneStep .before '+' = some (.number []) := by decide

theorem step_digitOrSymbol {c : Char} (hc : isDigitOrSymbol c = true) (digits : List Char) :
    phoneStep (.number digits) c = some (.number (digits ++ [c].filter Char.isDigit)) :=
  if_pos hc

theorem run_spaces {s : List Char} (hs : ∀ c ∈ s, isSpace c = true) :
    phoneScanner.run .before s = some .before := by
  induction s with
  | nil => rfl
  | cons c s ih =>
      have hstep : phoneScanner.step .before c = some .before := step_space (hs c (by simp))
      rw [Scanner.run_cons, hstep]
      exact ih fun d hd => hs d (by simp [hd])

theorem run_number {s : List Char} (hs : ∀ c ∈ s, isDigitOrSymbol c = true)
    (digits : List Char) :
    phoneScanner.run (.number digits) s = some (.number (digits ++ s.filter Char.isDigit)) := by
  induction s generalizing digits with
  | nil => simp
  | cons c s ih =>
      have hstep : phoneScanner.step (.number digits) c
          = some (.number (digits ++ [c].filter Char.isDigit)) :=
        step_digitOrSymbol (hs c (by simp)) digits
      rw [Scanner.run_cons, hstep]
      have hrest := ih (fun d hd => hs d (by simp [hd])) (digits ++ [c].filter Char.isDigit)
      rw [Option.bind_some, hrest, List.append_assoc, ← List.filter_append]
      rfl

/-- In a number only digits and symbols are read, and the digits are kept. -/
theorem run_number_eq_some {digits s : List Char} {place : PhonePlace}
    (h : phoneScanner.run (.number digits) s = some place) :
    place = .number (digits ++ s.filter Char.isDigit) := by
  induction s generalizing digits with
  | nil =>
      obtain rfl := Option.some.inj h
      rw [List.filter_nil, List.append_nil]
  | cons c s ih =>
      obtain ⟨next, hnext, h⟩ := Option.bind_eq_some_iff.mp h
      have hstep : (if isDigitOrSymbol c then
          some (.number (digits ++ [c].filter Char.isDigit)) else none) = some next := hnext
      split at hstep
      · obtain rfl := Option.some.inj hstep
        rw [ih h, List.append_assoc, ← List.filter_append]
        rfl
      · cases hstep

theorem phoneScanner_trim : phoneScanner.Trim := by
  have hone : ∀ digits, phoneScanner.run (.number digits) ['1']
      = some (.number (digits ++ ['1'])) := by
    intro digits
    refine run_number (fun c hc => ?_) digits
    obtain rfl := List.mem_singleton.mp hc
    exact isDigitOrSymbol_of_isDigit rfl
  have haccept : ∀ digits, phoneScanner.accept (.number (digits ++ ['1'])) := fun digits => by
    show digits ++ ['1'] ≠ []
    simp
  intro place
  cases place with
  | before =>
      have hplus : phoneScanner.run .before ['+'] = some (.number []) := by decide
      exact ⟨['+'] ++ ['1'], _, Scanner.run_trans hplus (hone []), haccept []⟩
  | number digits => exact ⟨['1'], _, hone digits, haccept digits⟩

/-! ## The outcomes of the parser -/

/-- What the parser returns when the whole number has been read. -/
def outcome (place : PhonePlace) : Except ParseError String :=
  match place.digits with
  | [] => .error .incomplete
  | digits => .ok (String.ofList digits)

/-- The spaces after a number are read with it. -/
theorem dropWhile_isSpace (s : List Char) :
    (s.dropWhile isDigitOrSymbol).dropWhile isSpace = s.dropWhile isDigitOrSymbol := by
  have hstops := stopsAt_dropWhile isDigitOrSymbol s
  cases hrest : s.dropWhile isDigitOrSymbol with
  | nil => rfl
  | cons c rest =>
      rw [hrest] at hstops
      refine List.dropWhile_cons_of_neg fun hspace => ?_
      have hno := hstops c rfl
      rw [isDigitOrSymbol_of_isSpace hspace] at hno
      cases hno

/-- The number after the spaces in front of it. -/
theorem delimited_phoneNumber_plus {s u : List Char} (h : s.dropWhile isSpace = '+' :: u) :
    delimited space0 phoneNumber space0 s
      = .ok (u.dropWhile isDigitOrSymbol, (u.takeWhile isDigitOrSymbol).filter Char.isDigit) := by
  unfold delimited preceded space0 terminated phoneNumber
  dsimp only
  rw [h]
  simp only [map, preceded, char_cons, Nom.takeWhile, dropWhile_isSpace]

theorem delimited_phoneNumber_error {s : List Char} (h : (s.dropWhile isSpace).head? ≠ some '+') :
    delimited space0 phoneNumber space0 s = .error (.error ⟨s.dropWhile isSpace, .char⟩) := by
  unfold delimited preceded space0 terminated phoneNumber
  dsimp only
  cases hrest : s.dropWhile isSpace with
  | nil => rfl
  | cons c u =>
      have hc : c ≠ '+' := fun hc => h (by rw [hrest, hc]; rfl)
      simp only [map, preceded, char, hc, if_false]

/-- A number with a plus is read up to the first character that is no digit and no symbol. -/
theorem parsePhoneNumber_plus {number : String} {u : List Char}
    (h : number.toList.dropWhile isSpace = '+' :: u) :
    parsePhoneNumber number = match u.dropWhile isDigitOrSymbol with
      | [] => outcome (.number ((u.takeWhile isDigitOrSymbol).filter Char.isDigit))
      | c :: rest => .error (.excessSuffix (len number.toList - len (c :: rest))) := by
  unfold parsePhoneNumber
  rw [delimited_phoneNumber_plus h]
  generalize (u.takeWhile isDigitOrSymbol).filter Char.isDigit = digits
  cases u.dropWhile isDigitOrSymbol with
  | nil => cases digits <;> rfl
  | cons c rest => cases digits <;> rfl

theorem parsePhoneNumber_no_plus {number : String}
    (h : (number.toList.dropWhile isSpace).head? ≠ some '+') :
    parsePhoneNumber number = match number.toList.dropWhile isSpace with
      | [] => .error .incomplete
      | c :: rest => .error (.unexpectedCharacter (len number.toList - len (c :: rest))) := by
  unfold parsePhoneNumber
  rw [delimited_phoneNumber_error h]
  cases number.toList.dropWhile isSpace <;> rfl

/-- The parser stops where the scanner stops. -/
theorem parsePhoneNumber_cases (number : String) :
    (∃ place, phoneScanner.run .before number.toList = some place
        ∧ parsePhoneNumber number = outcome place)
      ∨ ∃ read c rest place, number.toList = read ++ c :: rest
        ∧ phoneScanner.run .before read = some place ∧ phoneStep place c = none
        ∧ (parsePhoneNumber number = .error (.excessSuffix (len read))
          ∨ parsePhoneNumber number = .error (.unexpectedCharacter (len read))) := by
  have hspaces : phoneScanner.run .before (number.toList.takeWhile isSpace) = some .before :=
    run_spaces fun c hc => List.mem_takeWhile_imp hc
  have hsplit := (List.takeWhile_append_dropWhile (p := isSpace) (l := number.toList)).symm
  generalize number.toList.takeWhile isSpace = spaces at hspaces hsplit
  by_cases hplus : (number.toList.dropWhile isSpace).head? = some '+'
  · obtain ⟨u, hu⟩ := List.head?_eq_some_iff.mp hplus
    have hread : phoneScanner.run .before (spaces ++ ['+'] ++ u.takeWhile isDigitOrSymbol)
        = some (.number ((u.takeWhile isDigitOrSymbol).filter Char.isDigit)) :=
      Scanner.run_trans (Scanner.run_snoc hspaces step_plus)
        (run_number (fun c hc => List.mem_takeWhile_imp hc) [])
    have hnumber : number.toList
        = spaces ++ ['+'] ++ u.takeWhile isDigitOrSymbol ++ u.dropWhile isDigitOrSymbol := by
      rw [List.append_assoc, List.takeWhile_append_dropWhile, List.append_assoc,
        List.singleton_append, ← hu]
      exact hsplit
    rw [parsePhoneNumber_plus hu]
    cases hrest : u.dropWhile isDigitOrSymbol with
    | nil =>
        rw [hrest, List.append_nil] at hnumber
        exact .inl ⟨_, (congrArg _ hnumber).trans hread, rfl⟩
    | cons c rest =>
        rw [hrest] at hnumber
        have hno := stopsAt_dropWhile isDigitOrSymbol u c (by rw [hrest]; rfl)
        have hlen := len_append (spaces ++ ['+'] ++ u.takeWhile isDigitOrSymbol) (c :: rest)
        refine .inr ⟨_, c, rest, _, hnumber, hread, by simp [phoneStep, hno], .inl ?_⟩
        show Except.error (ParseError.excessSuffix _) = _
        rw [hnumber, hlen, Nat.add_sub_cancel]
  · rw [parsePhoneNumber_no_plus hplus]
    cases hrest : number.toList.dropWhile isSpace with
    | nil =>
        rw [hrest, List.append_nil] at hsplit
        exact .inl ⟨.before, (congrArg _ hsplit).trans hspaces, rfl⟩
    | cons c rest =>
        rw [hrest] at hsplit hplus
        have hspace := stopsAt_dropWhile isSpace number.toList c (by rw [hrest]; rfl)
        have hc : c ≠ '+' := fun hc => hplus (by rw [hc]; rfl)
        refine .inr ⟨spaces, c, rest, .before, hsplit, hspaces, ?_, .inr ?_⟩
        · simp [phoneStep, hspace, hc]
        · show Except.error (ParseError.unexpectedCharacter _) = _
          rw [hsplit, len_append, Nat.add_sub_cancel]

/-- A text that is read has the outcome of the place where it ends. -/
theorem parsePhoneNumber_of_run {number : String} {place : PhonePlace}
    (h : phoneScanner.run .before number.toList = some place) :
    parsePhoneNumber number = outcome place := by
  rcases parsePhoneNumber_cases number with ⟨place', hrun, hparse⟩ | hstuck
  · rw [hrun] at h
    rw [hparse, Option.some.inj h]
  · obtain ⟨read, c, rest, place', hsplit, hrun, hstep, -⟩ := hstuck
    have hnone : phoneScanner.run .before (read ++ c :: rest) = none :=
      Scanner.run_stuck hrun hstep rest
    rw [hsplit, hnone] at h
    cases h

theorem outcome_eq_ok_iff (place : PhonePlace) (digits : String) :
    outcome place = .ok digits ↔ digits.toList ≠ [] ∧ place.digits = digits.toList := by
  unfold outcome
  cases hdigits : place.digits with
  | nil =>
      refine iff_of_false nofun ?_
      rintro ⟨hne, hnil⟩
      exact hne hnil.symm
  | cons d ds =>
      constructor
      · intro h
        rw [← Except.ok.inj h, String.toList_ofList]
        exact ⟨List.cons_ne_nil d ds, rfl⟩
      · rintro ⟨-, hds⟩
        show Except.ok (String.ofList (d :: ds)) = _
        rw [hds, String.ofList_toList]

/-- The numbers whose digits are returned are those the scanner accepts. -/
theorem parsePhoneNumber_eq_ok_iff (number digits : String) :
    parsePhoneNumber number = .ok digits
      ↔ digits.toList ≠ [] ∧ ∃ place, phoneScanner.run .before number.toList = some place
        ∧ place.digits = digits.toList := by
  constructor
  · intro h
    rcases parsePhoneNumber_cases number with ⟨place, hrun, hparse⟩ | ⟨_, _, _, _, -, -, -, herror⟩
    · rw [hparse, outcome_eq_ok_iff] at h
      exact ⟨h.1, place, hrun, h.2⟩
    · rcases herror with herror | herror
      · rw [herror] at h
        cases h
      · rw [herror] at h
        cases h
  · rintro ⟨hne, place, hrun, hdigits⟩
    rw [parsePhoneNumber_of_run hrun, outcome_eq_ok_iff]
    exact ⟨hne, hdigits⟩

/-- A text from which digits are returned. -/
def WellFormed (number : String) : Prop := ∃ digits, parsePhoneNumber number = .ok digits

theorem wellFormed_iff (number : String) :
    WellFormed number ↔ phoneScanner.Accepts number.toList := by
  constructor
  · rintro ⟨digits, h⟩
    obtain ⟨hne, place, hrun, hdigits⟩ := (parsePhoneNumber_eq_ok_iff number digits).mp h
    have haccept : place.digits ≠ [] := by
      rw [hdigits]
      exact hne
    exact ⟨place, hrun, haccept⟩
  · rintro ⟨place, hrun, haccept⟩
    refine ⟨String.ofList place.digits, (parsePhoneNumber_eq_ok_iff ..).mpr ?_⟩
    rw [String.toList_ofList]
    exact ⟨haccept, place, hrun, rfl⟩

/-- Some text that starts with these characters is a well-formed number. -/
def Extendable (read : List Char) : Prop := ∃ rest, WellFormed (String.ofList (read ++ rest))

theorem extendable_iff (read : List Char) :
    Extendable read ↔ ∃ place, phoneScanner.run .before read = some place := by
  have hviable : Extendable read ↔ phoneScanner.Viable read :=
    exists_congr fun rest => by rw [wellFormed_iff, String.toList_ofList]
  rw [hviable]
  constructor
  · rintro ⟨rest, place, hrun, -⟩
    rw [Scanner.run_append, Option.bind_eq_some_iff] at hrun
    obtain ⟨place', hread, -⟩ := hrun
    exact ⟨place', hread⟩
  · rintro ⟨place, hrun⟩
    exact Scanner.viable_of_run phoneScanner_trim hrun

end PhoneNumberParser

end LipaLightning
