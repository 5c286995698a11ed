import Mathlib

set_option autoImplicit false

/-! # Parser combinators

The complete parsers of `nom` 8 over a `&str`, which is the list of its characters here. A
parser returns the rest of its input and a value, or the input at which it failed. `Incomplete`
belongs to streaming parsers and does not occur.
-/

namespace Nom

/-- `nom::error::ErrorKind`, the kinds that the parsers here return. -/
inductive ErrorKind where
  | tag
  | char
  | takeWhile1
  | separatedList
  | fail
  deriving DecidableEq, Repr

/-- `nom::error::Error`. -/
structure Error where
  input : List Char
  code : ErrorKind
  deriving DecidableEq, Repr

/-- `nom::Err`: an alternative may recover from an `error`, and not from a `failure`. -/
inductive Err where
  | error (e : Error)
  | failure (e : Error)
  deriving DecidableEq, Repr

abbrev IResult (α : Type) := Except Err (List Char × α)

abbrev Parser (α : Type) := List Char → IResult α

variable {α β γ : Type}

/-! ## The combinators -/

def map (parser : Parser α) (f : α → β) : Parser β := fun s =>
  match parser s with
  | .ok (rest, a) => .ok (rest, f a)
  | .error e => .error e

/-- `nom::character::complete::char`. -/
def char (c : Char) : Parser Char
  | d :: rest => if d = c then .ok (rest, c) else .error (.error ⟨d :: rest, .char⟩)
  | [] => .error (.error ⟨[], .char⟩)

/-- `nom::bytes::complete::take_while1`. -/
def takeWhile1 (p : Char → Bool) : Parser (List Char) := fun s =>
  match s.takeWhile p with
  | [] => .error (.error ⟨s, .takeWhile1⟩)
  | c :: run => .ok (s.dropWhile p, c :: run)

/-- `nom::bytes::complete::take_while`. -/
def takeWhile (p : Char → Bool) : Parser (List Char) := fun s =>
  .ok (s.dropWhile p, s.takeWhile p)

/-- `nom::bytes::complete::tag_no_case` for a tag of ASCII characters that no other character
has as its lower case. -/
def tagNoCase (tag : List Char) : Parser (List Char) := fun s =>
  if (s.take tag.length).map Char.toLower = tag then
    .ok (s.drop tag.length, s.take tag.length)
  else .error (.error ⟨s, .tag⟩)

def isSpace (c : Char) : Bool := c = ' ' || c = '\t'

/-- `nom::character::complete::space0`. -/
def space0 : Parser (List Char) := fun s => .ok (s.dropWhile isSpace, s.takeWhile isSpace)

def preceded (first : Parser α) (second : Parser β) : Parser β := fun s =>
  match first s with
  | .ok (rest, _) => second rest
  | .error e => .error e

def terminated (first : Parser α) (second : Parser β) : Parser α := fun s =>
  match first s with
  | .ok (rest, a) => map second (fun _ => a) rest
  | .error e => .error e

def delimited (first : Parser α) (second : Parser β) (third : Parser γ) : Parser β :=
  preceded first (terminated second third)

def separatedPair (first : Parser α) (separator : Parser β) (second : Parser γ) :
    Parser (α × γ) := fun s =>
  match first s with
  | .ok (rest, a) => map (preceded separator second) (fun c => (a, c)) rest
  | .error e => .error e

/-- The loop of `separated_list1`. An element that fails after its separator ends the list
before the separator. -/
def separatedListLoop (separator : Parser β) (parser : Parser α) (s : List Char) (res : List α) :
    IResult (List α) :=
  match separator s with
  | .error (.error _) => .ok (s, res)
  | .error (.failure e) => .error (.failure e)
  | .ok (s₁, _) =>
      match parser s₁ with
      | .error (.error _) => .ok (s, res)
      | .error (.failure e) => .error (.failure e)
      | .ok (s₂, a) =>
          if s₂.length < s.length then separatedListLoop separator parser s₂ (res ++ [a])
          else .error (.error ⟨s, .separatedList⟩)
termination_by s.length

/-- `nom::multi::separated_list1`. -/
def separatedList1 (separator : Parser β) (parser : Parser α) : Parser (List α) := fun s =>
  match parser s with
  | .ok (rest, a) => separatedListLoop separator parser rest [a]
  | .error e => .error e

/-- `nom::Finish::finish`. -/
def finish (result : IResult α) : Except Error (List Char × α) :=
  match result with
  | .ok r => .ok r
  | .error (.error e) => .error e
  | .error (.failure e) => .error e

/-! ## What the combinators consume -/

/-- The input is at its end, or at a character that `p` does not hold of. -/
def StopsAt (p : Char → Bool) (s : List Char) : Prop := ∀ c ∈ s.head?, p c = false

theorem stopsAt_dropWhile (p : Char → Bool) (s : List Char) : StopsAt p (s.dropWhile p) := by
  intro c hc
  have := List.head?_dropWhile_not p s
  rw [hc] at this
  simpa using this

theorem takeWhile1_ok {p : Char → Bool} {s rest run : List Char}
    (h : takeWhile1 p s = .ok (rest, run)) :
    s = run ++ rest ∧ run ≠ [] ∧ (∀ c ∈ run, p c = true) ∧ StopsAt p rest := by
  unfold takeWhile1 at h
  split at h
  · cases h
  · rename_i c run' hrun
    cases h
    refine ⟨?_, List.cons_ne_nil _ _, fun c hc => ?_, stopsAt_dropWhile p s⟩
    · rw [← hrun, List.takeWhile_append_dropWhile]
    · rw [← hrun] at hc
      exact List.mem_takeWhile_imp hc

theorem takeWhile1_error {p : Char → Bool} {s : List Char} {e : Err}
    (h : takeWhile1 p s = .error e) : e = .error ⟨s, .takeWhile1⟩ ∧ StopsAt p s := by
  unfold takeWhile1 at h
  split at h
  · rename_i hrun
    cases h
    refine ⟨rfl, ?_⟩
    cases s with
    | nil => simp [StopsAt]
    | cons c s =>
        intro d hd
        obtain rfl : c = d := by simpa using hd
        by_contra hp
        rw [List.takeWhile_cons_of_pos (by simpa using hp)] at hrun
        cases hrun
  · cases h

theorem char_ok {c d : Char} {s rest : List Char} (h : char c s = .ok (rest, d)) :
    s = c :: rest := by
  cases s with
  | nil => simp [char] at h
  | cons a s =>
      simp only [char] at h
      split at h
      · rename_i hac
        cases h
        rw [hac]
      · cases h

theorem char_error {c : Char} {s : List Char} {e : Err} (h : char c s = .error e) :
    e = .error ⟨s, .char⟩ ∧ s.head? ≠ some c := by
  cases s with
  | nil => simpa [char, eq_comm] using h
  | cons a s =>
      simp only [char] at h
      split at h
      · cases h
      · rename_i hac
        cases h
        exact ⟨rfl, by simpa using hac⟩

theorem char_cons (c : Char) (s : List Char) : char c (c :: s) = .ok (s, c) := by
  simp [char]

/-- **The rule of `separated_list1`'s loop.** Where separator and element never fail for good and
consume input, the loop returns, an invariant of its turns holds of what it returns, and there
is no separator with an element after it at the place where it stops. -/
theorem separatedListLoop_rule {separator : Parser β} {parser : Parser α}
    (Inv : List Char → List α → Prop)
    (hseparator : ∀ s e, separator s ≠ .error (.failure e))
    (hparser : ∀ s e, parser s ≠ .error (.failure e))
    (hturn : ∀ s s₁ s₂ res b a, Inv s res → separator s = .ok (s₁, b) →
      parser s₁ = .ok (s₂, a) → s₂.length < s.length ∧ Inv s₂ (res ++ [a]))
    (s : List Char) (res : List α) (hinit : Inv s res) :
    ∃ rest res', separatedListLoop separator parser s res = .ok (rest, res') ∧ Inv rest res' ∧
      ((∃ e, separator rest = .error e) ∨
        ∃ s₁ b e, separator rest = .ok (s₁, b) ∧ parser s₁ = .error e) := by
  fun_induction separatedListLoop separator parser s res with
  | case1 s res e hsep => exact ⟨s, res, rfl, hinit, .inl ⟨_, hsep⟩⟩
  | case2 s res e hsep => exact absurd hsep (hseparator s e)
  | case3 s res s₁ b hsep e hpar => exact ⟨s, res, rfl, hinit, .inr ⟨s₁, b, _, hsep, hpar⟩⟩
  | case4 s res s₁ b hsep e hpar => exact absurd hpar (hparser s₁ e)
  | case5 s res s₁ b hsep s₂ a hpar hlt ih =>
      exact ih (hturn s s₁ s₂ res b a hinit hsep hpar).2
  | case6 s res s₁ b hsep s₂ a hpar hlt =>
      exact absurd (hturn s s₁ s₂ res b a hinit hsep hpar).1 hlt

end Nom
