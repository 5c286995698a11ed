import LipaLightning.Parser.Nom

set_option autoImplicit false

/-! # Parsing a lightning address

The parser of lightning addresses (the `parser` crate: `domain.rs`, `lightning_address.rs` and
`parse_lightning_address`). The number of graphemes of a string is an argument: it is computed
by the `unicode-segmentation` crate.
-/

namespace LipaLightning

open Nom

namespace AddressParser

/-- `char::is_ascii`. -/
def isAscii (c : Char) : Bool := c.toNat < 128

def isLabelChar (c : Char) : Bool := c.isAlphanum || !isAscii c

def isPunycodeChar (c : Char) : Bool := c.isAlphanum || c = '-'

inductive Label where
  | unicode (label : List Char)
  | unicodeWithHyphens
  | punycode (label : List Char)
  deriving DecidableEq, Repr

def punycodeLabel : Parser Label := map (takeWhile1 isPunycodeChar) .punycode

/-- Leading, trailing, or doubled hyphens are not allowed. -/
def unicodeLabel : Parser Label := fun s =>
  match separatedList1 (char '-') (takeWhile1 isLabelChar) s with
  | .error e => .error e
  | .ok (s, parts) =>
      if s.head? = some '-' then
        preceded (char '-') (map (takeWhile1 isLabelChar) fun _ => Label.unicodeWithHyphens) s
      else
        match parts with
        | [] => .error (.failure ⟨s, .fail⟩)
        | [part] => .ok (s, .unicode part)
        | _ => .ok (s, .unicodeWithHyphens)

/-- The prefix of a label in punycode. -/
def punycodePrefix : List Char := ['x', 'n', '-', '-']

def label : Parser Label := fun s =>
  match tagNoCase punycodePrefix s with
  | .ok (s, _) => punycodeLabel s
  | .error _ => unicodeLabel s

def isValidTopLevelDomain (graphemes : List Char → Nat) : Label → Bool
  | .unicode label => 2 ≤ graphemes label && label.all fun c => c.isAlpha || !isAscii c
  | .unicodeWithHyphens => false
  | .punycode label => 4 ≤ label.length && label.all isPunycodeChar

def domain (graphemes : List Char → Nat) : Parser Unit := fun s =>
  match separatedList1 (char '.') label s with
  | .error e => .error e
  | .ok (s, labels) =>
      if s.head? ≠ some '.' ∧ labels.length > 1 ∧
          labels.getLast?.any (isValidTopLevelDomain graphemes) then
        .ok (s, ())
      else preceded (char '.') (map label fun _ => ()) s

def isUsernameChar (c : Char) : Bool := c.isAlphanum || c = '-' || c = '_' || c = '.'

def lightningAddress (graphemes : List Char → Nat) : Parser Unit :=
  map (separatedPair (takeWhile1 isUsernameChar) (char '@') (domain graphemes)) fun _ => ()

/-- Why parsing could fail. A position is counted in the bytes of the string. -/
inductive ParseError where
  | incomplete
  | unexpectedCharacter (position : Nat)
  | excessSuffix (position : Nat)
  deriving DecidableEq, Repr

/-- `str::len`, the number of bytes in UTF-8. -/
def len (s : List Char) : Nat := (s.map Char.utf8Size).sum

def parseLightningAddress (graphemes : List Char → Nat) (address : String) :
    Except ParseError Unit :=
  match finish (delimited space0 (lightningAddress graphemes) space0 address.toList) with
  | .ok ([], ()) => .ok ()
  | .ok (rem, ()) => .error (.excessSuffix (len address.toList - len rem))
  | .error ⟨[], _⟩ => .error .incomplete
  | .error ⟨input, _⟩ => .error (.unexpectedCharacter (len address.toList - len input))

@[simp] theorem len_append (s t : List Char) : len (s ++ t) = len s + len t := by
  simp [len]

end AddressParser

end LipaLightning
