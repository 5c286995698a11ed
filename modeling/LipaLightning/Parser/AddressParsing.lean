import LipaLightning.Parser.AddressScanner
import LipaLightning.Parser.LabelParsing

set_option autoImplicit false

/-! # The outcomes of the parser

The parser of lightning addresses stops where the scanner stops, and succeeds if the scanner
accepts there. Its outcomes are then told apart by the grammar alone: whether the string is an
address, whether it can still become one, and where it ceases to.
-/

namespace LipaLightning

namespace AddressParser

open Nom

variable {graphemes : List Char → Nat}

/-! ## Domains -/

/-- What the list of labels has read after each of its turns. -/
def ReadsLabels (graphemes : List Char → Nat) (s rest : List Char) (labels : List Label) : Prop :=
  ∃ word text l, s = word ++ rest ∧
    (addressScanner graphemes).run (.label false []) word
      = some (.label (decide (1 < labels.length)) text) ∧
    labelDone text = true ∧ StopsAt (labelStep text) rest ∧ labels.getLast? = some l ∧
    isValidTopLevelDomain graphemes l = decide (IsTopLevel graphemes text)

theorem readsLabels_first {s rest : List Char} {l : Label} (h : label s = .ok (rest, l)) :
    ReadsLabels graphemes s rest [l] := by
  obtain ⟨text, ⟨hsplit, htext, hstops⟩, hdone, hvalid⟩ := label_ok h
  exact ⟨text, text, l, hsplit, run_label htext false, hdone, hstops, rfl, hvalid⟩

theorem readsLabels_turn {s rest rest₁ rest₂ : List Char} {labels : List Label} {b : Char}
    {l : Label} (h : ReadsLabels graphemes s rest labels)
    (hseparator : char '.' rest = .ok (rest₁, b)) (hlabel : label rest₁ = .ok (rest₂, l)) :
    rest₂.length < rest.length ∧ ReadsLabels graphemes s rest₂ (labels ++ [l]) := by
  obtain ⟨word, text, l', rfl, hrun, hdone, -, hlast, -⟩ := h
  obtain rfl := char_ok hseparator
  obtain ⟨text', ⟨rfl, htext', hstops⟩, hdone', hvalid⟩ := label_ok hlabel
  have hshorter : rest₂.length < ('.' :: (text' ++ rest₂)).length := by
    rw [List.length_cons, List.length_append]
    omega
  refine ⟨hshorter, word ++ ['.'] ++ text', text', l, by simp, ?_, hdone', hstops, by simp,
    hvalid⟩
  have hpos : 1 < (labels ++ [l]).length := by
    have : labels ≠ [] := by
      rintro rfl
      cases hlast
    have := List.length_pos_iff.mpr this
    simp
    omega
  rw [decide_eq_true hpos]
  exact Scanner.run_trans (Scanner.run_snoc hrun (step_dot hdone)) (run_label htext' true)

theorem label_not_failure (s : List Char) (e : Nom.Error) : label s ≠ .error (.failure e) := by
  intro h
  obtain ⟨_, _, _, he, -⟩ := label_error h
  cases he

variable (graphemes) in
/-- Where the list of labels stops there is no dot with a label after it. -/
theorem labels_rule (s : List Char) :
    (∃ e, separatedList1 (char '.') label s = .error e ∧ label s = .error e) ∨
    ∃ rest labels, separatedList1 (char '.') label s = .ok (rest, labels) ∧
      ReadsLabels graphemes s rest labels ∧
      (rest.head? ≠ some '.' ∨ ∃ rest' e, rest = '.' :: rest' ∧ label rest' = .error e) := by
  unfold separatedList1
  cases hfirst : label s with
  | error e => exact .inl ⟨e, rfl, rfl⟩
  | ok first =>
      obtain ⟨rest, l⟩ := first
      obtain ⟨rest', labels, hloop, hinv, hend⟩ :=
        separatedListLoop_rule (ReadsLabels graphemes s)
          (fun s e h => by cases (char_error h).1) label_not_failure
          (fun _ _ _ _ _ _ h hsep hlabel => readsLabels_turn h hsep hlabel)
          rest [l] (readsLabels_first hfirst)
      refine .inr ⟨rest', labels, hloop, hinv, ?_⟩
      rcases hend with ⟨e, hsep⟩ | ⟨rest₁, b, e, hsep, hlabel⟩
      · exact .inl (char_error hsep).2
      · exact .inr ⟨rest₁, e, char_ok hsep, hlabel⟩

/-- The scanner cannot go on in a label. -/
theorem step_label_stuck {dotted : Bool} {text : List Char} {c : Char}
    (hlabel : labelStep text c = false) (hdot : c ≠ '.' ∨ labelDone text = false)
    (hends : Nom.isSpace c = false ∨ ¬ EndsWith graphemes dotted text) :
    addressStep graphemes (.label dotted text) c = none := by
  have hdot' : ¬ (c = '.' ∧ labelDone text = true) := by
    rintro ⟨rfl, hdone⟩
    rcases hdot with hdot | hdot
    · exact hdot rfl
    · rw [hdone] at hdot
      cases hdot
  have hends' : ¬ (Nom.isSpace c = true ∧ EndsWith graphemes dotted text) := by
    rintro ⟨hspace, h⟩
    rcases hends with hends | hends
    · rw [hspace] at hends
      cases hends
    · exact hends h
  simp [addressStep, hlabel, hdot', hends']

theorem domain_ok {s rest : List Char} (h : domain graphemes s = .ok (rest, ())) :
    ∃ word text, s = word ++ rest ∧
      (addressScanner graphemes).run (.label false []) word = some (.label true text) ∧
      EndsWith graphemes true text ∧ StopsAt (labelStep text) rest ∧ rest.head? ≠ some '.' := by
  unfold domain at h
  rcases labels_rule graphemes s with ⟨e, hlist, -⟩ | ⟨rest', labels, hlist,
    ⟨word, text, l, rfl, hrun, hdone, hstops, hlast, hvalid⟩, hend⟩
  · simp only [hlist] at h
    cases h
  · simp only [hlist] at h
    split at h
    · rename_i hcond
      obtain ⟨hhead, hlength, htop⟩ := hcond
      cases h
      rw [decide_eq_true hlength] at hrun
      rw [hlast, Option.any_some, hvalid, decide_eq_true_eq] at htop
      exact ⟨word, text, rfl, hrun, ⟨rfl, hdone, htop⟩, hstops, hhead⟩
    · -- a dot at the end has no label after it
      simp only [preceded] at h
      split at h
      · rename_i rest₁ c hdot
        obtain rfl := char_ok hdot
        obtain ⟨rest₂, e, heq, hlabel⟩ := hend.resolve_left (fun hno => hno rfl)
        obtain rfl : rest₁ = rest₂ := by simpa using heq
        simp only [map, hlabel] at h
        cases h
      · cases h

theorem domain_error {s : List Char} {e : Err} (h : domain graphemes s = .error e) :
    ∃ word rest code dotted text, e = .error ⟨rest, code⟩ ∧ s = word ++ rest ∧
      (addressScanner graphemes).run (.label false []) word = some (.label dotted text) ∧
      ¬ EndsWith graphemes dotted text ∧
      ∀ c ∈ rest.head?, addressStep graphemes (.label dotted text) c = none := by
  have hunfinished {dotted : Bool} {text : List Char} (hdone : labelDone text = false) :
      ¬ EndsWith graphemes dotted text := by
    rintro ⟨-, hdone', -⟩
    rw [hdone] at hdone'
    cases hdone'
  unfold domain at h
  rcases labels_rule graphemes s with ⟨e', hlist, hlabel⟩ | ⟨rest', labels, hlist,
    ⟨word, text, l, rfl, hrun, hdone, hstops, hlast, hvalid⟩, hend⟩
  -- the first label is not parsed: the error is where it stops being a label
  · simp only [hlist] at h
    cases h
    obtain ⟨text, rest, code, rfl, ⟨rfl, htext, hstops⟩, hdone⟩ := label_error hlabel
    exact ⟨text, rest, code, false, text, rfl, rfl, run_label htext false, hunfinished hdone,
      fun c hc => step_label_stuck (hstops c hc) (.inr hdone) (.inr (hunfinished hdone))⟩
  · simp only [hlist] at h
    split at h
    · cases h
    · rename_i hcond
      simp only [preceded] at h
      split at h
      · rename_i rest₁ c hdot
        obtain rfl := char_ok hdot
        obtain ⟨rest₂, e', heq, hlabel⟩ := hend.resolve_left (fun hno => hno rfl)
        obtain rfl : rest₁ = rest₂ := by simpa using heq
        simp only [map, hlabel] at h
        cases h
        -- the label after the last dot is parsed again, for its error
        obtain ⟨text', rest, code, rfl, ⟨rfl, htext', hstops'⟩, hdone'⟩ := label_error hlabel
        refine ⟨word ++ ['.'] ++ text', rest, code, true, text', rfl, by simp,
          Scanner.run_trans (Scanner.run_snoc hrun (step_dot hdone)) (run_label htext' true),
          hunfinished hdone', fun c hc => ?_⟩
        exact step_label_stuck (hstops' c hc) (.inr hdone') (.inr (hunfinished hdone'))
      · rename_i hdot
        cases h
        obtain ⟨rfl, hhead⟩ := char_error hdot
        -- the last label was read, and may not be the last one
        have hends : ¬ EndsWith graphemes (decide (1 < labels.length)) text := by
          rintro ⟨hlength, -, htop⟩
          refine hcond ⟨hhead, of_decide_eq_true hlength, ?_⟩
          rw [hlast, Option.any_some, hvalid]
          exact decide_eq_true htop
        refine ⟨word, rest', _, _, text, rfl, rfl, hrun, hends, fun c hc => ?_⟩
        refine step_label_stuck (hstops c hc) (.inl ?_) (.inr hends)
        rintro rfl
        exact hhead hc

/-! ## Addresses -/

/-- A parser's result agrees with the scanner: the scanner read what was consumed and cannot go
on, and it accepts exactly if the parser succeeded. -/
def Agrees (graphemes : List Char → Nat) (s rest : List Char) (success : Prop) : Prop :=
  ∃ word q, s = word ++ rest ∧
    (addressScanner graphemes).run .before word = some q ∧
    ((addressScanner graphemes).accept q ↔ success) ∧
    ∀ c ∈ rest.head?, addressStep graphemes q c = none

theorem spaces_takeWhile (s : List Char) : Spaces (s.takeWhile isSpace) :=
  fun _ hc => List.mem_takeWhile_imp hc

/-- Leading spaces, the user name and the `@` take the scanner to the domain. -/
theorem run_to_domain {before user : List Char} (hbefore : Spaces before) (hne : user ≠ [])
    (huser : ∀ c ∈ user, isUsernameChar c = true) :
    (addressScanner graphemes).run .before (before ++ user ++ ['@'])
      = some (.label false []) :=
  Scanner.run_snoc (Scanner.run_trans (run_before hbefore) (run_before_user hne huser))
    (step_at graphemes)

theorem lightningAddress_error {before s : List Char} {e : Err} (hbefore : Spaces before)
    (hspace : StopsAt isSpace s) (h : lightningAddress graphemes s = .error e) :
    ∃ rest code, e = .error ⟨rest, code⟩ ∧ Agrees graphemes (before ++ s) rest False := by
  simp only [lightningAddress, map, separatedPair, preceded] at h
  cases huser : takeWhile1 isUsernameChar s with
  | error e' =>
      simp only [huser] at h
      cases h
      -- no user name: the scanner has only read spaces
      obtain ⟨rfl, hstop⟩ := takeWhile1_error huser
      refine ⟨s, _, rfl, before, .before, rfl, run_before hbefore, by simp [addressScanner],
        fun c hc => ?_⟩
      simp [addressStep, hspace c hc, hstop c hc]
  | ok read =>
      obtain ⟨s₁, user⟩ := read
      obtain ⟨rfl, hne, hchars, hstop⟩ := takeWhile1_ok huser
      simp only [huser] at h
      cases hat : char '@' s₁ with
      | error e' =>
          simp only [hat] at h
          cases h
          -- no `@` after the user name
          obtain ⟨rfl, hhead⟩ := char_error hat
          refine ⟨s₁, _, rfl, before ++ user, .user, by simp,
            Scanner.run_trans (run_before hbefore) (run_before_user hne hchars),
            by simp [addressScanner], fun c hc => ?_⟩
          have hne : c ≠ '@' := by
            rintro rfl
            exact hhead hc
          simp [addressStep, hstop c hc, hne]
      | ok read =>
          obtain ⟨s₂, c⟩ := read
          obtain rfl := char_ok hat
          simp only [hat] at h
          cases hdomain : domain graphemes s₂ with
          | error e' =>
              simp only [hdomain] at h
              cases h
              -- the error is in the domain
              obtain ⟨word, rest, code, dotted, text, rfl, rfl, hrun, hends, hstuck⟩ :=
                domain_error hdomain
              exact ⟨rest, code, rfl, before ++ user ++ ['@'] ++ word, .label dotted text,
                by simp, Scanner.run_trans (run_to_domain hbefore hne hchars) hrun,
                by simpa [addressScanner] using hends, hstuck⟩
          | ok read =>
              simp only [hdomain] at h
              cases h

theorem lightningAddress_ok {before s rest : List Char} (hbefore : Spaces before)
    (h : lightningAddress graphemes s = .ok (rest, ())) :
    ∃ word text, s = word ++ rest ∧
      (addressScanner graphemes).run .before (before ++ word) = some (.label true text) ∧
      EndsWith graphemes true text ∧ StopsAt (labelStep text) rest ∧ rest.head? ≠ some '.' := by
  simp only [lightningAddress, map, separatedPair, preceded] at h
  cases huser : takeWhile1 isUsernameChar s with
  | error e =>
      simp only [huser] at h
      cases h
  | ok read =>
      obtain ⟨s₁, user⟩ := read
      obtain ⟨rfl, hne, hchars, -⟩ := takeWhile1_ok huser
      simp only [huser] at h
      cases hat : char '@' s₁ with
      | error e =>
          simp only [hat] at h
          cases h
      | ok read =>
          obtain ⟨s₂, c⟩ := read
          obtain rfl := char_ok hat
          simp only [hat] at h
          cases hdomain : domain graphemes s₂ with
          | error e =>
              simp only [hdomain] at h
              cases h
          | ok read =>
              obtain ⟨s₃, ⟨⟩⟩ := read
              simp only [hdomain] at h
              cases h
              obtain ⟨word, text, rfl, hrun, hends, hstops, hhead⟩ := domain_ok hdomain
              refine ⟨user ++ ['@'] ++ word, text, by simp, ?_, hends, hstops, hhead⟩
              have := Scanner.run_trans (run_to_domain hbefore hne hchars) hrun
              simpa using this

variable (graphemes) in
/-- **The parser stops where the scanner stops**, and succeeds if the scanner accepts there. -/
theorem delimited_agrees (s : List Char) :
    (∃ rest, delimited space0 (lightningAddress graphemes) space0 s = .ok (rest, ()) ∧
      Agrees graphemes s rest True) ∨
    ∃ rest code, delimited space0 (lightningAddress graphemes) space0 s
        = .error (.error ⟨rest, code⟩) ∧ Agrees graphemes s rest False := by
  have hsplit : s = s.takeWhile isSpace ++ s.dropWhile isSpace :=
    List.takeWhile_append_dropWhile.symm
  have hbefore := spaces_takeWhile s
  simp only [delimited, preceded, space0, terminated, map]
  cases haddress : lightningAddress graphemes (s.dropWhile isSpace) with
  | error e =>
      obtain ⟨rest, code, rfl, hagrees⟩ :=
        lightningAddress_error hbefore (stopsAt_dropWhile isSpace s) haddress
      rw [← hsplit] at hagrees
      exact .inr ⟨rest, code, rfl, hagrees⟩
  | ok read =>
      obtain ⟨rest, ⟨⟩⟩ := read
      obtain ⟨word, text, hword, hrun, hends, hstops, hhead⟩ :=
        lightningAddress_ok hbefore haddress
      rw [hword, ← List.append_assoc] at hsplit
      refine .inl ⟨rest.dropWhile isSpace, rfl, ?_⟩
      cases hafter : rest.takeWhile isSpace with
      | nil =>
          -- no spaces at the end: what stopped the domain stops the scanner
          have hrest : rest.dropWhile isSpace = rest := by
            have := List.takeWhile_append_dropWhile (p := isSpace) (l := rest)
            rwa [hafter, List.nil_append] at this
          rw [hrest]
          refine ⟨_, .label true text, hsplit, hrun, by simp [addressScanner, hends],
            fun c hc => step_label_stuck (hstops c hc) (.inl ?_) (.inl ?_)⟩
          · rintro rfl
            exact hhead hc
          · have hstop := stopsAt_dropWhile isSpace rest
            rw [hrest] at hstop
            exact hstop c hc
      | cons c after =>
          -- spaces at the end: the scanner goes on after the address until they end
          have hspaces := spaces_takeWhile rest
          rw [hafter] at hspaces
          refine ⟨s.takeWhile isSpace ++ word ++ (c :: after), .after, ?_, ?_,
            by simp [addressScanner], fun d hd => ?_⟩
          · rw [← hafter, List.append_assoc, List.takeWhile_append_dropWhile]
            exact hsplit
          · refine Scanner.run_trans hrun ?_
            rw [Scanner.run_cons, addressScanner_step,
              step_label_space hends (hspaces c (by simp))]
            exact run_after fun d hd => hspaces d (by simp [hd])
          · simp [addressStep, stopsAt_dropWhile isSpace rest d hd]

/-! ## Outcomes -/

/-- Some address starts with the string. -/
def IsAddressPrefix (graphemes : List Char → Nat) (s : List Char) : Prop :=
  ∃ rest, IsLightningAddress graphemes (s ++ rest)

/-- Addresses go on at the position up to which `taken` is read, and not with the character that
is there. -/
def BreaksAt (graphemes : List Char → Nat) (s : List Char) (position : Nat) (taken : List Char) :
    Prop :=
  ∃ c rest, s = taken ++ c :: rest ∧ position = len taken ∧
    IsAddressPrefix graphemes taken ∧ ¬ IsAddressPrefix graphemes (taken ++ [c])

theorem isAddressPrefix_iff {s : List Char} :
    IsAddressPrefix graphemes s ↔ (addressScanner graphemes).Viable s := by
  simp only [IsAddressPrefix, Scanner.Viable, addressScanner_accepts_iff]

theorem IsAddressPrefix.of_append {s rest : List Char}
    (h : IsAddressPrefix graphemes (s ++ rest)) : IsAddressPrefix graphemes s := by
  obtain ⟨rest', h⟩ := h
  exact ⟨rest ++ rest', by rwa [← List.append_assoc]⟩

/-- A string breaks at one place only. -/
theorem BreaksAt.unique {s taken taken' : List Char} {i j : Nat}
    (h : BreaksAt graphemes s i taken) (h' : BreaksAt graphemes s j taken') : taken = taken' := by
  obtain ⟨c, rest, rfl, -, hpre, hbreak⟩ := h
  obtain ⟨c', rest', heq, -, hpre', hbreak'⟩ := h'
  -- if one word were longer, it would go on where the other one breaks
  rcases List.append_eq_append_iff.mp heq with ⟨t, rfl, hrest⟩ | ⟨t, rfl, hrest⟩
  · cases t with
    | nil => simp
    | cons d t =>
        obtain ⟨rfl, -⟩ := List.cons.inj hrest
        rw [List.append_cons] at hpre'
        exact absurd hpre'.of_append hbreak
  · cases t with
    | nil => simp
    | cons d t =>
        obtain ⟨rfl, -⟩ := List.cons.inj hrest
        rw [List.append_cons] at hpre
        exact absurd hpre.of_append hbreak'

theorem BreaksAt.position_eq {s taken : List Char} {i : Nat}
    (h : BreaksAt graphemes s i taken) : i = len taken := by
  obtain ⟨c, rest, -, hi, -⟩ := h
  exact hi

theorem not_isAddressPrefix_of_breaksAt {s taken : List Char} {i : Nat}
    (h : BreaksAt graphemes s i taken) : ¬ IsAddressPrefix graphemes s := by
  obtain ⟨c, rest, rfl, -, -, hbreak⟩ := h
  intro hpre
  rw [List.append_cons] at hpre
  exact hbreak hpre.of_append

/-- What an agreeing result says about the grammar. -/
theorem Agrees.grammar (htrim : (addressScanner graphemes).Trim) {s rest : List Char}
    {success : Prop} (h : Agrees graphemes s rest success) :
    ∃ word, s = word ++ rest ∧ IsAddressPrefix graphemes word ∧
      (IsLightningAddress graphemes word ↔ success) ∧
      (rest ≠ [] → BreaksAt graphemes s (len s - len rest) word) := by
  obtain ⟨word, q, rfl, hrun, haccept, hstuck⟩ := h
  have hpre := isAddressPrefix_iff.mpr (Scanner.viable_of_run htrim hrun)
  have haddress : IsLightningAddress graphemes word ↔ success := by
    rw [← addressScanner_accepts_iff, Scanner.accepts_iff hrun]
    exact haccept
  refine ⟨word, rfl, hpre, haddress, fun hne => ?_⟩
  obtain ⟨c, rest, rfl⟩ := List.exists_cons_of_ne_nil hne
  refine ⟨c, rest, rfl, by simp, hpre, fun hviable => ?_⟩
  exact Scanner.not_viable_of_stuck hrun (hstuck c rfl) (isAddressPrefix_iff.mp hviable)

/-- The four outcomes of the parser, each with what it says about the string. -/
inductive Outcome (graphemes : List Char → Nat) (s : List Char) :
    Except ParseError Unit → Prop where
  | ok (h : IsLightningAddress graphemes s) : Outcome graphemes s (.ok ())
  | incomplete (h : ¬ IsLightningAddress graphemes s) (hpre : IsAddressPrefix graphemes s) :
      Outcome graphemes s (.error .incomplete)
  | unexpectedCharacter (i : Nat) (taken : List Char) (hbreak : BreaksAt graphemes s i taken)
      (h : ¬ IsLightningAddress graphemes taken) :
      Outcome graphemes s (.error (.unexpectedCharacter i))
  | excessSuffix (i : Nat) (taken : List Char) (hbreak : BreaksAt graphemes s i taken)
      (h : IsLightningAddress graphemes taken) :
      Outcome graphemes s (.error (.excessSuffix i))

/-- The outcomes exclude each other. -/
theorem Outcome.unique {s : List Char} {r r' : Except ParseError Unit}
    (h : Outcome graphemes s r) (h' : Outcome graphemes s r') : r = r' := by
  have hwhole (hs : IsLightningAddress graphemes s) : IsAddressPrefix graphemes s :=
    ⟨[], by rwa [List.append_nil]⟩
  cases h with
  | ok h =>
      cases h' with
      | ok => rfl
      | incomplete h' => exact absurd h h'
      | unexpectedCharacter j taken' hbreak' =>
          exact absurd (hwhole h) (not_isAddressPrefix_of_breaksAt hbreak')
      | excessSuffix j taken' hbreak' =>
          exact absurd (hwhole h) (not_isAddressPrefix_of_breaksAt hbreak')
  | incomplete h hpre =>
      cases h' with
      | ok h' => exact absurd h' h
      | incomplete => rfl
      | unexpectedCharacter j taken' hbreak' =>
          exact absurd hpre (not_isAddressPrefix_of_breaksAt hbreak')
      | excessSuffix j taken' hbreak' =>
          exact absurd hpre (not_isAddressPrefix_of_breaksAt hbreak')
  | unexpectedCharacter i taken hbreak h =>
      cases h' with
      | ok h' => exact absurd (hwhole h') (not_isAddressPrefix_of_breaksAt hbreak)
      | incomplete _ hpre => exact absurd hpre (not_isAddressPrefix_of_breaksAt hbreak)
      | unexpectedCharacter j taken' hbreak' =>
          obtain rfl := hbreak.unique hbreak'
          rw [hbreak.position_eq, hbreak'.position_eq]
      | excessSuffix j taken' hbreak' h' =>
          obtain rfl := hbreak.unique hbreak'
          exact absurd h' h
  | excessSuffix i taken hbreak h =>
      cases h' with
      | ok h' => exact absurd (hwhole h') (not_isAddressPrefix_of_breaksAt hbreak)
      | incomplete _ hpre => exact absurd hpre (not_isAddressPrefix_of_breaksAt hbreak)
      | unexpectedCharacter j taken' hbreak' h' =>
          obtain rfl := hbreak.unique hbreak'
          exact absurd h h'
      | excessSuffix j taken' hbreak' =>
          obtain rfl := hbreak.unique hbreak'
          rw [hbreak.position_eq, hbreak'.position_eq]

theorem parseLightningAddress_outcome (htrim : (addressScanner graphemes).Trim)
    (address : String) :
    Outcome graphemes address.toList (parseLightningAddress graphemes address) := by
  unfold parseLightningAddress
  rcases delimited_agrees graphemes address.toList with
    ⟨rest, hparse, hagrees⟩ | ⟨rest, code, hparse, hagrees⟩
  · obtain ⟨word, hsplit, -, haddress, hbreak⟩ := hagrees.grammar htrim
    rw [hparse]
    cases rest with
    | nil =>
        rw [List.append_nil] at hsplit
        rw [hsplit]
        exact .ok (haddress.mpr trivial)
    | cons c rest => exact .excessSuffix _ word (hbreak (by simp)) (haddress.mpr trivial)
  · obtain ⟨word, hsplit, hpre, haddress, hbreak⟩ := hagrees.grammar htrim
    rw [hparse]
    cases rest with
    | nil =>
        rw [List.append_nil] at hsplit
        rw [hsplit]
        exact .incomplete haddress.mp hpre
    | cons c rest => exact .unexpectedCharacter _ word (hbreak (by simp)) haddress.mp

/-- **Every string is classified exactly.** The result is `Ok` for the addresses, `Incomplete`
for what can still become one, and otherwise the position at which the string ceases to:
`ExcessSuffix` if it is an address up to there, `UnexpectedCharacter` if not. -/
theorem parseLightningAddress_classifies (graphemes : List Char → Nat)
    (hletters : ∀ s : List Char, (∀ c ∈ s, c.isAlpha = true) → graphemes s = s.length)
    (address : String) :
    (parseLightningAddress graphemes address = .ok () ↔
      IsLightningAddress graphemes address.toList) ∧
    (parseLightningAddress graphemes address = .error .incomplete ↔
      ¬ IsLightningAddress graphemes address.toList ∧
      ∃ rest ≠ [], IsLightningAddress graphemes (address.toList ++ rest)) ∧
    (∀ i, parseLightningAddress graphemes address = .error (.unexpectedCharacter i) ↔
      ∃ taken, BreaksAt graphemes address.toList i taken ∧
        ¬ IsLightningAddress graphemes taken) ∧
    (∀ i, parseLightningAddress graphemes address = .error (.excessSuffix i) ↔
      ∃ taken, BreaksAt graphemes address.toList i taken ∧
        IsLightningAddress graphemes taken) := by
  have houtcome := parseLightningAddress_outcome (addressScanner_trim hletters) address
  refine ⟨⟨fun h => ?_, fun h => houtcome.unique (.ok h)⟩,
    ⟨fun h => ?_, fun ⟨h, rest, _, haddress⟩ => houtcome.unique (.incomplete h ⟨rest, haddress⟩)⟩,
    fun i => ⟨fun h => ?_, fun ⟨taken, hbreak, h⟩ =>
      houtcome.unique (.unexpectedCharacter i taken hbreak h)⟩,
    fun i => ⟨fun h => ?_, fun ⟨taken, hbreak, h⟩ =>
      houtcome.unique (.excessSuffix i taken hbreak h)⟩⟩
  all_goals rw [h] at houtcome
  · cases houtcome with
    | ok h => exact h
  · cases houtcome with
    | incomplete h hpre =>
        obtain ⟨rest, haddress⟩ := hpre
        refine ⟨h, rest, ?_, haddress⟩
        rintro rfl
        rw [List.append_nil] at haddress
        exact h haddress
  · cases houtcome with
    | unexpectedCharacter i taken hbreak h => exact ⟨taken, hbreak, h⟩
  · cases houtcome with
    | excessSuffix i taken hbreak h => exact ⟨taken, hbreak, h⟩

/-- Where every character is a grapheme of its own. -/
theorem parseLightningAddress_classifies_letters :
    (parseLightningAddress List.length "ab@a.uk" = .ok () ↔
      IsLightningAddress List.length "ab@a.uk".toList) ∧
    (parseLightningAddress List.length "ab@a.uk" = .error .incomplete ↔
      ¬ IsLightningAddress List.length "ab@a.uk".toList ∧
      ∃ rest ≠ [], IsLightningAddress List.length ("ab@a.uk".toList ++ rest)) :=
  have h := parseLightningAddress_classifies List.length (fun _ _ => rfl) "ab@a.uk"
  ⟨h.1, h.2.1⟩

end AddressParser

end LipaLightning
