import LipaLightning.Parser.AddressGrammar

set_option autoImplicit false

/-! # A scanner of lightning addresses

A scanner that accepts exactly the lightning addresses. Every state can be completed, so it
stops at the first character that no address has at that place.
-/

namespace LipaLightning

namespace AddressParser

variable (graphemes : List Char → Nat)

/-- Where in an address a scan is. A `label` is in the text of a label, which follows a dot if it
is `dotted`. -/
inductive Place where
  | before
  | user
  | label (dotted : Bool) (text : List Char)
  | after
  deriving DecidableEq, Repr

/-- The address may end with this label. -/
def EndsWith (dotted : Bool) (text : List Char) : Prop :=
  dotted = true ∧ labelDone text = true ∧ IsTopLevel graphemes text

instance (dotted : Bool) (text : List Char) : Decidable (EndsWith graphemes dotted text) :=
  inferInstanceAs (Decidable (_ ∧ _ ∧ _))

def addressStep : Place → Char → Option Place
  | .before, c =>
      if Nom.isSpace c then some .before
      else if isUsernameChar c then some .user
      else none
  | .user, c =>
      if isUsernameChar c then some .user
      else if c = '@' then some (.label false [])
      else none
  | .label dotted text, c =>
      if labelStep text c then some (.label dotted (text ++ [c]))
      else if c = '.' ∧ labelDone text then some (.label true [])
      else if Nom.isSpace c ∧ EndsWith graphemes dotted text then some .after
      else none
  | .after, c => if Nom.isSpace c then some .after else none

def addressScanner : Scanner Place Char where
  start := .before
  step := addressStep graphemes
  accept
    | .label dotted text => EndsWith graphemes dotted text
    | .after => True
    | _ => False

variable {graphemes}

/-! ## Characters that end a label -/

@[simp] theorem labelStep_dot (text : List Char) : labelStep text '.' = false := by
  have hpunycode : isPunycodeChar '.' = false := by decide
  have hlabel : isLabelChar '.' = false := by decide
  simp [labelStep, hpunycode, hlabel]

theorem labelStep_space (text : List Char) {c : Char} (hc : Nom.isSpace c = true) :
    labelStep text c = false := by
  have hspace : c = ' ' ∨ c = '\t' := by simpa [Nom.isSpace] using hc
  have hpunycode : isPunycodeChar c = false := by rcases hspace with rfl | rfl <;> decide
  have hlabel : isLabelChar c = false := by rcases hspace with rfl | rfl <;> decide
  have hhyphen : c ≠ '-' := by rcases hspace with rfl | rfl <;> decide
  simp [labelStep, hpunycode, hlabel, hhyphen]

theorem isSpace_of_isUsernameChar {c : Char} (hc : isUsernameChar c = true) :
    Nom.isSpace c = false := by
  cases hspace : Nom.isSpace c with
  | false => rfl
  | true =>
      have hspace : c = ' ' ∨ c = '\t' := by simpa [Nom.isSpace] using hspace
      have hno : isUsernameChar c = false := by rcases hspace with rfl | rfl <;> decide
      rw [hc] at hno
      cases hno

/-! ## The steps of the scanner -/

@[simp] theorem addressScanner_step : (addressScanner graphemes).step = addressStep graphemes := rfl

theorem step_before_space {c : Char} (hc : Nom.isSpace c = true) :
    addressStep graphemes .before c = some .before := by
  simp [addressStep, hc]

theorem step_before_user {c : Char} (hc : isUsernameChar c = true) :
    addressStep graphemes .before c = some .user := by
  simp [addressStep, hc, isSpace_of_isUsernameChar hc]

theorem step_user {c : Char} (hc : isUsernameChar c = true) :
    addressStep graphemes .user c = some .user := by
  simp [addressStep, hc]

variable (graphemes) in
theorem step_at : addressStep graphemes .user '@' = some (.label false []) := by
  have hno : isUsernameChar '@' = false := by decide
  simp [addressStep, hno]

theorem step_label {dotted : Bool} {text : List Char} {c : Char} (hc : labelStep text c = true) :
    addressStep graphemes (.label dotted text) c = some (.label dotted (text ++ [c])) := by
  simp [addressStep, hc]

theorem step_dot {dotted : Bool} {text : List Char} (hdone : labelDone text = true) :
    addressStep graphemes (.label dotted text) '.' = some (.label true []) := by
  simp [addressStep, hdone]

theorem step_label_space {dotted : Bool} {text : List Char} {c : Char}
    (hends : EndsWith graphemes dotted text) (hc : Nom.isSpace c = true) :
    addressStep graphemes (.label dotted text) c = some .after := by
  have hdot : c ≠ '.' := by
    rintro rfl
    exact absurd hc (by decide)
  simp [addressStep, labelStep_space text hc, hc, hends, hdot]

theorem step_after {c : Char} (hc : Nom.isSpace c = true) :
    addressStep graphemes .after c = some .after := by
  simp [addressStep, hc]

/-! ## Every state can be completed -/

/-- A letter may follow every text, and makes it a whole label. -/
theorem labelDone_snoc_letter (text : List Char) :
    labelStep text 'a' = true ∧ labelDone (text ++ ['a']) = true := by
  have hletter : isLabelChar 'a' = true ∧ isPunycodeChar 'a' = true := by decide
  constructor
  · simp [labelStep, hletter]
  · unfold labelDone
    by_cases hpre : HasPunycodePrefix text
    · have := hpre.le_length
      simp [hpre.append]
      omega
    · have hpre' : ¬ HasPunycodePrefix (text ++ ['a']) := by
        rw [hasPunycodePrefix_snoc_iff hpre]
        exact fun h => absurd h.2 (by decide)
      simp [hpre']

theorem run_ending (dotted : Bool) (text : List Char) :
    (addressScanner graphemes).run (.label dotted text) ['a', '.', 'a', 'a']
      = some (.label true ['a', 'a']) := by
  obtain ⟨hletter, hdone⟩ := labelDone_snoc_letter text
  simp only [Scanner.run_cons, addressScanner_step, step_label hletter, Option.bind_some,
    step_dot hdone, step_label (labelDone_snoc_letter []).1,
    step_label (labelDone_snoc_letter ([] ++ ['a'])).1, Scanner.run_nil]
  rfl

theorem addressScanner_trim
    (hletters : ∀ s : List Char, (∀ c ∈ s, c.isAlpha = true) → graphemes s = s.length) :
    (addressScanner graphemes).Trim := by
  have hends : EndsWith graphemes true ['a', 'a'] := by
    have hall {p : Char → Prop} (h : p 'a') : ∀ c ∈ ['a', 'a'], p c := by
      intro c hc
      obtain rfl : c = 'a' := by simpa using hc
      exact h
    have htwo : graphemes ['a', 'a'] = 2 := hletters _ (hall (by decide))
    exact ⟨rfl, by decide, .inr ⟨by decide, by omega, hall (by decide)⟩⟩
  have huser : isUsernameChar 'a' = true := by decide
  intro q
  -- from every place a short ending completes the address
  cases q with
  | before =>
      refine ⟨['a', '@'] ++ ['a', '.', 'a', 'a'], .label true ['a', 'a'], ?_, hends⟩
      have huser : (addressScanner graphemes).run .before ['a', '@'] = some (.label false []) := by
        simp [step_before_user huser, step_at graphemes]
      exact Scanner.run_trans huser (run_ending _ _)
  | user =>
      refine ⟨['@'] ++ ['a', '.', 'a', 'a'], .label true ['a', 'a'], ?_, hends⟩
      have hat : (addressScanner graphemes).run .user ['@'] = some (.label false []) := by
        simp [step_at graphemes]
      exact Scanner.run_trans hat (run_ending _ _)
  | label dotted text => exact ⟨_, _, run_ending dotted text, hends⟩
  | after => exact ⟨[], .after, rfl, trivial⟩

/-! ## What the scanner accepts -/

theorem run_before {s : List Char} (hs : Spaces s) :
    (addressScanner graphemes).run .before s = some .before := by
  induction s with
  | nil => rfl
  | cons c s ih =>
      rw [Scanner.run_cons, addressScanner_step, step_before_space (hs c (by simp))]
      exact ih fun d hd => hs d (by simp [hd])

theorem run_after {s : List Char} (hs : Spaces s) :
    (addressScanner graphemes).run .after s = some .after := by
  induction s with
  | nil => rfl
  | cons c s ih =>
      rw [Scanner.run_cons, addressScanner_step, step_after (hs c (by simp))]
      exact ih fun d hd => hs d (by simp [hd])

theorem run_user {user : List Char} (huser : ∀ c ∈ user, isUsernameChar c = true) :
    (addressScanner graphemes).run .user user = some .user := by
  induction user with
  | nil => rfl
  | cons c user ih =>
      rw [Scanner.run_cons, addressScanner_step, step_user (huser c (by simp))]
      exact ih fun d hd => huser d (by simp [hd])

/-- The user name after the leading spaces. -/
theorem run_before_user {user : List Char} (hne : user ≠ [])
    (huser : ∀ c ∈ user, isUsernameChar c = true) :
    (addressScanner graphemes).run .before user = some .user := by
  obtain ⟨c, user, rfl⟩ := List.exists_cons_of_ne_nil hne
  rw [Scanner.run_cons, addressScanner_step, step_before_user (huser c (by simp))]
  exact run_user fun d hd => huser d (by simp [hd])

theorem run_label {text : List Char} (htext : LabelText text) (dotted : Bool) :
    (addressScanner graphemes).run (.label dotted []) text = some (.label dotted text) := by
  induction htext with
  | nil => rfl
  | snoc htext hc ih => exact Scanner.run_snoc ih (step_label hc)

theorem run_labels {labels : List (List Char)} (hlabels : ∀ label ∈ labels, IsLabel label)
    (dotted : Bool) :
    (addressScanner graphemes).run (.label dotted []) (labels.flatMap (· ++ ['.']))
      = some (.label (dotted || !labels.isEmpty) []) := by
  induction labels generalizing dotted with
  | nil => simp
  | cons label labels ih =>
      obtain ⟨htext, hdone⟩ := isLabel_iff.mp (hlabels label (by simp))
      have hrest := ih (fun l hl => hlabels l (by simp [hl])) true
      rw [List.flatMap_cons]
      refine Scanner.run_trans (Scanner.run_snoc (run_label htext dotted) (step_dot hdone)) ?_
      simpa using hrest

theorem accepts_of_isLightningAddress {s : List Char} (h : IsLightningAddress graphemes s) :
    (addressScanner graphemes).Accepts s := by
  obtain ⟨before, user, labels, last, after, hbefore, ⟨hne, huser⟩, hlabels, hall, ⟨hlast, htop⟩,
    hafter, rfl⟩ := h
  obtain ⟨htext, hdone⟩ := isLabel_iff.mp hlast
  have hends : EndsWith graphemes true last := ⟨rfl, hdone, htop⟩
  have hdomain : (addressScanner graphemes).run .before
      (before ++ user ++ ['@'] ++ ['.'].intercalate (labels ++ [last]))
      = some (.label true last) := by
    refine Scanner.run_trans (Scanner.run_snoc
      (Scanner.run_trans (run_before hbefore) (run_before_user hne huser)) (step_at graphemes)) ?_
    rw [intercalate_concat]
    refine Scanner.run_trans (run_labels hall false) ?_
    have hdotted : (false || !labels.isEmpty) = true := by simpa using hlabels
    rw [hdotted]
    exact run_label htext true
  -- without a space at the end the scan stops in the last label
  cases after with
  | nil =>
      rw [List.append_nil]
      exact ⟨.label true last, hdomain, hends⟩
  | cons c after =>
      refine ⟨.after, Scanner.run_trans hdomain ?_, trivial⟩
      rw [Scanner.run_cons, addressScanner_step, step_label_space hends (hafter c (by simp))]
      exact run_after fun d hd => hafter d (by simp [hd])

/-- What was read when a scan is at a place. -/
def History (graphemes : List Char → Nat) : Place → List Char → Prop
  | .before, s => Spaces s
  | .user, s => ∃ before user, Spaces before ∧ (user ≠ [] ∧ ∀ c ∈ user, isUsernameChar c = true) ∧
      s = before ++ user
  | .label dotted text, s => ∃ (before user : List Char) (labels : List (List Char)),
      Spaces before ∧ (user ≠ [] ∧ ∀ c ∈ user, isUsernameChar c = true) ∧
      (∀ label ∈ labels, IsLabel label) ∧ (dotted = true → labels ≠ []) ∧ LabelText text ∧
      s = before ++ user ++ ['@'] ++ (labels.flatMap (· ++ ['.']) ++ text)
  | .after, s => IsLightningAddress graphemes s

theorem Spaces.snoc {s : List Char} {c : Char} (hs : Spaces s) (hc : Nom.isSpace c = true) :
    Spaces (s ++ [c]) := by
  intro d hd
  rcases List.mem_append.mp hd with hd | hd
  · exact hs d hd
  · obtain rfl : d = c := by simpa using hd
    exact hc

theorem IsLightningAddress.snoc_space {s : List Char} {c : Char}
    (h : IsLightningAddress graphemes s) (hc : Nom.isSpace c = true) :
    IsLightningAddress graphemes (s ++ [c]) := by
  obtain ⟨before, user, labels, last, after, hbefore, huser, hlabels, hall, hlast, hafter, rfl⟩ := h
  exact ⟨before, user, labels, last, after ++ [c], hbefore, huser, hlabels, hall, hlast,
    hafter.snoc hc, by simp only [List.append_assoc]⟩

theorem isLightningAddress_of_endsWith {dotted : Bool} {text s : List Char}
    (h : History graphemes (.label dotted text) s) (hends : EndsWith graphemes dotted text) :
    IsLightningAddress graphemes s := by
  obtain ⟨before, user, labels, hbefore, huser, hall, hdotted, htext, rfl⟩ := h
  obtain ⟨hdot, hdone, htop⟩ := hends
  refine ⟨before, user, labels, text, [], hbefore, huser, hdotted hdot, hall,
    ⟨isLabel_iff.mpr ⟨htext, hdone⟩, htop⟩, by simp [Spaces], ?_⟩
  rw [intercalate_concat, List.append_nil]

theorem history_step {q q' : Place} {s : List Char} {c : Char} (h : History graphemes q s)
    (hstep : addressStep graphemes q c = some q') : History graphemes q' (s ++ [c]) := by
  cases q with
  | before =>
      simp only [addressStep] at hstep
      split at hstep
      · rename_i hc
        cases hstep
        -- another space, or the first character of the user name
        exact Spaces.snoc h hc
      · split at hstep
        · rename_i hc
          cases hstep
          exact ⟨s, [c], h, ⟨by simp, by simpa using hc⟩, rfl⟩
        · cases hstep
  | user =>
      obtain ⟨before, user, hbefore, ⟨hne, huser⟩, rfl⟩ := h
      simp only [addressStep] at hstep
      split at hstep
      · rename_i hc
        cases hstep
        -- another character of the user name, or the `@` after it
        refine ⟨before, user ++ [c], hbefore, ⟨by simp, fun d hd => ?_⟩, by simp⟩
        rcases List.mem_append.mp hd with hd | hd
        · exact huser d hd
        · obtain rfl : d = c := by simpa using hd
          exact hc
      · split at hstep
        · rename_i hc
          subst hc
          cases hstep
          exact ⟨before, user, [], hbefore, ⟨hne, huser⟩, by simp, by simp, .nil, by simp⟩
        · cases hstep
  | label dotted text =>
      simp only [addressStep] at hstep
      split at hstep
      · rename_i hc
        cases hstep
        -- another character of the label
        obtain ⟨before, user, labels, hbefore, huser, hall, hdotted, htext, rfl⟩ := h
        exact ⟨before, user, labels, hbefore, huser, hall, hdotted, htext.snoc hc, by simp⟩
      · split at hstep
        · rename_i hdot
          obtain ⟨rfl, hdone⟩ := hdot
          cases hstep
          -- the dot makes the text one of the finished labels
          obtain ⟨before, user, labels, hbefore, huser, hall, hdotted, htext, rfl⟩ := h
          refine ⟨before, user, labels ++ [text], hbefore, huser, fun l hl => ?_, by simp, .nil,
            by simp⟩
          rcases List.mem_append.mp hl with hl | hl
          · exact hall l hl
          · obtain rfl : l = text := by simpa using hl
            exact isLabel_iff.mpr ⟨htext, hdone⟩
        · split at hstep
          · rename_i hspace
            cases hstep
            -- a space may only follow a whole address
            exact (isLightningAddress_of_endsWith h hspace.2).snoc_space hspace.1
          · cases hstep
  | after =>
      simp only [addressStep] at hstep
      split at hstep
      · rename_i hc
        cases hstep
        exact IsLightningAddress.snoc_space h hc
      · cases hstep

/-- **The scanner accepts the lightning addresses.** -/
theorem addressScanner_accepts_iff {s : List Char} :
    (addressScanner graphemes).Accepts s ↔ IsLightningAddress graphemes s := by
  refine ⟨?_, accepts_of_isLightningAddress⟩
  rintro ⟨q, hrun, haccept⟩
  have hhistory : History graphemes q s :=
    Scanner.run_induction (P := History graphemes) (by simp [History, addressScanner, Spaces])
      (fun q s c q' h hstep => history_step h hstep) hrun
  cases q with
  | before => cases haccept
  | user => cases haccept
  | label dotted text => exact isLightningAddress_of_endsWith hhistory haccept
  | after => exact hhistory

end AddressParser

end LipaLightning
