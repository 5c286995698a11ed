import LipaLightning.Parser.AddressGrammar

set_option autoImplicit false

/-! # Parsing a label

The parser of labels stops where the text of a label cannot go on. It succeeds if the text is a
whole label there, and the label it returns tells whether the text may be the last label.
-/

namespace LipaLightning

namespace AddressParser

open Nom

variable {graphemes : List Char → Nat}

/-- The text of a label is read off `s`, up to a place where it cannot go on. -/
structure ReadsLabel (s text rest : List Char) : Prop where
  split : s = text ++ rest
  labelText : LabelText text
  stops : StopsAt (labelStep text) rest

/-! ## Punycode -/

theorem stopsAt_punycode {text rest : List Char} (hpre : HasPunycodePrefix text)
    (hrest : StopsAt isPunycodeChar rest) : StopsAt (labelStep text) rest := by
  intro c hc
  simpa [labelStep, hpre] using hrest c hc

theorem hasPunycodePrefix_take {s : List Char} (h : HasPunycodePrefix s) :
    HasPunycodePrefix (s.take 4) := by
  have htwice : (s.take 4).take 4 = s.take 4 := by rw [List.take_take, Nat.min_self]
  unfold HasPunycodePrefix
  rwa [htwice]

theorem punycodeLabel_ok {s rest : List Char} {l : Label} (hpre : HasPunycodePrefix s)
    (h : punycodeLabel (s.drop 4) = .ok (rest, l)) :
    ∃ text, ReadsLabel s text rest ∧ labelDone text = true ∧
      isValidTopLevelDomain graphemes l = decide (IsTopLevel graphemes text) := by
  unfold punycodeLabel map at h
  split at h
  · rename_i rest' run hrun
    obtain ⟨hsplit, hne, hchars, hstop⟩ := takeWhile1_ok hrun
    cases h
    have htake := hasPunycodePrefix_take hpre
    have htext := htake.append run
    have hlength : (s.take 4).length = 4 := List.length_take_of_le hpre.le_length
    refine ⟨s.take 4 ++ run, ⟨?_, ?_, stopsAt_punycode htext hstop⟩, ?_, ?_⟩
    · rw [List.append_assoc, ← hsplit, List.take_append_drop]
    · exact (LabelText.punycodePrefix hpre).append_punycode htake hchars
    · have := List.length_pos_iff.mpr hne
      simp [labelDone, htext, hpre.le_length]
      omega
    · have hdrop : (s.take 4 ++ run).drop 4 = run := List.drop_left' hlength
      have hhyphen : '-' ∈ s.take 4 ++ run := by
        obtain ⟨x, n, -, -, -, -, heq⟩ := htext.exists_eq
        rw [heq]
        simp
      simp only [isValidTopLevelDomain, IsTopLevel, htext, hdrop, hhyphen, true_and, not_true,
        false_and, or_false]
      rw [List.all_eq_true.mpr hchars, Bool.and_true]
  · cases h

theorem punycodeLabel_error {s : List Char} {e : Err} (hpre : HasPunycodePrefix s)
    (h : punycodeLabel (s.drop 4) = .error e) :
    ∃ text rest code, e = .error ⟨rest, code⟩ ∧ ReadsLabel s text rest ∧
      labelDone text = false := by
  unfold punycodeLabel map at h
  split at h
  · cases h
  · rename_i hrun
    cases h
    obtain ⟨rfl, hstop⟩ := takeWhile1_error hrun
    have htake := hasPunycodePrefix_take hpre
    refine ⟨s.take 4, s.drop 4, _, rfl, ⟨(List.take_append_drop 4 s).symm,
      LabelText.punycodePrefix hpre, stopsAt_punycode htake hstop⟩, ?_⟩
    have hlength : ¬ 4 < (s.take 4).length := by
      rw [List.length_take]
      omega
    rw [labelDone, if_pos htake, decide_eq_false hlength]

/-! ## Runs separated by hyphens -/

theorem not_hasPunycodePrefix_of_append {text rest : List Char}
    (h : ¬ HasPunycodePrefix (text ++ rest)) : ¬ HasPunycodePrefix text :=
  fun hpre => h (hpre.append rest)

/-- What the list of runs has read after each of its turns. -/
def ReadsRuns (s rest : List Char) (parts : List (List Char)) : Prop :=
  ∃ text, s = text ++ rest ∧ LabelText text ∧ text ≠ [] ∧ text.getLast? ≠ some '-' ∧
    StopsAt isLabelChar rest ∧
    ((parts = [text] ∧ ∀ c ∈ text, isLabelChar c = true) ∨ (2 ≤ parts.length ∧ '-' ∈ text))

theorem readsRuns_turn {s rest rest₁ rest₂ : List Char} {parts : List (List Char)} {b : Char}
    {run : List Char} (hpre : ¬ HasPunycodePrefix s) (h : ReadsRuns s rest parts)
    (hseparator : char '-' rest = .ok (rest₁, b))
    (hrun : takeWhile1 isLabelChar rest₁ = .ok (rest₂, run)) :
    rest₂.length < rest.length ∧ ReadsRuns s rest₂ (parts ++ [run]) := by
  obtain ⟨text, rfl, htext, hne, hlast, -, hparts⟩ := h
  obtain rfl := char_ok hseparator
  obtain ⟨rfl, hrunne, hchars, hstop⟩ := takeWhile1_ok hrun
  have hrun' : IsRun run := ⟨hrunne, hchars⟩
  have hshorter : rest₂.length < ('-' :: (run ++ rest₂)).length := by
    rw [List.length_cons, List.length_append]
    omega
  refine ⟨hshorter, text ++ ['-'] ++ run, by simp, ?_, by simp, hrun'.getLast?_ne _, hstop,
    .inr ⟨?_, by simp⟩⟩
  · have hall : ¬ HasPunycodePrefix (text ++ ['-'] ++ run ++ rest₂) := by simpa using hpre
    have hall' := not_hasPunycodePrefix_of_append hall
    exact (htext.append_hyphen (not_hasPunycodePrefix_of_append hpre) hne hlast).append_run
      hall' hchars
  · have hpos : 0 < parts.length := by
      rcases hparts with ⟨rfl, -⟩ | ⟨htwo, -⟩
      · simp
      · omega
    simp
    omega

/-- Where the list of runs stops there is no hyphen with a run after it. -/
theorem runs_rule {s : List Char} (hpre : ¬ HasPunycodePrefix s) :
    (separatedList1 (char '-') (takeWhile1 isLabelChar) s = .error (.error ⟨s, .takeWhile1⟩) ∧
      StopsAt isLabelChar s) ∨
    ∃ rest parts, separatedList1 (char '-') (takeWhile1 isLabelChar) s = .ok (rest, parts) ∧
      ReadsRuns s rest parts ∧
      (rest.head? ≠ some '-' ∨ ∃ rest', rest = '-' :: rest' ∧ StopsAt isLabelChar rest') := by
  unfold separatedList1
  cases hfirst : takeWhile1 isLabelChar s with
  | error e =>
      obtain ⟨rfl, hstop⟩ := takeWhile1_error hfirst
      exact .inl ⟨rfl, hstop⟩
  | ok first =>
      obtain ⟨rest, run⟩ := first
      obtain ⟨rfl, hne, hchars, hstop⟩ := takeWhile1_ok hfirst
      have hinit : ReadsRuns (run ++ rest) rest [run] := by
        refine ⟨run, rfl, ?_, hne, ?_, hstop, .inl ⟨rfl, hchars⟩⟩
        · exact LabelText.nil.append_run (not_hasPunycodePrefix_of_append hpre) hchars
        · simpa using IsRun.getLast?_ne ⟨hne, hchars⟩ []
      obtain ⟨rest', parts, hloop, hinv, hend⟩ :=
        separatedListLoop_rule (ReadsRuns (run ++ rest))
          (fun s e h => by cases (char_error h).1)
          (fun s e h => by cases (takeWhile1_error h).1)
          (fun _ _ _ _ _ _ h hsep hrun => readsRuns_turn hpre h hsep hrun)
          rest [run] hinit
      refine .inr ⟨rest', parts, hloop, hinv, ?_⟩
      rcases hend with ⟨e, hsep⟩ | ⟨rest₁, b, e, hsep, hrun⟩
      · exact .inl (char_error hsep).2
      · exact .inr ⟨rest₁, char_ok hsep, (takeWhile1_error hrun).2⟩

theorem stopsAt_runs {text rest : List Char} (hpre : ¬ HasPunycodePrefix text)
    (hrest : StopsAt isLabelChar rest) (hhyphen : rest.head? ≠ some '-') :
    StopsAt (labelStep text) rest := by
  intro c hc
  have hne : c ≠ '-' := by
    rintro rfl
    exact hhyphen hc
  simp [labelStep, hpre, hrest c hc, hne]

/-- After a hyphen there is neither a run nor, outside the prefix of punycode, another hyphen. -/
theorem stopsAt_hyphen {text rest : List Char}
    (hpre : ¬ HasPunycodePrefix (text ++ ['-'] ++ rest)) (hrest : StopsAt isLabelChar rest) :
    StopsAt (labelStep (text ++ ['-'])) rest := by
  have hpre' := not_hasPunycodePrefix_of_append hpre
  cases rest with
  | nil => simp [StopsAt]
  | cons c rest =>
      intro d hd
      obtain rfl : c = d := by simpa using hd
      have hnot : ¬ HasPunycodePrefix (text ++ ['-'] ++ [c]) := by
        rw [List.append_cons] at hpre
        exact not_hasPunycodePrefix_of_append hpre
      rw [hasPunycodePrefix_snoc_iff hpre'] at hnot
      by_cases hc : c = '-'
      · have hxn : (text ++ ['-']).map Char.toLower ≠ ['x', 'n', '-'] := fun h => hnot ⟨h, hc⟩
        have hlabel : isLabelChar '-' = false := by decide
        simp only [labelStep, hpre', if_false, hc, hlabel, hxn]
        simp
      · simp [labelStep, hpre', hrest c rfl, hc]

theorem ascii_of_isDigit {c : Char} (hc : c.isDigit = true) :
    isAscii c = true ∧ c.isAlpha = false := by
  simp only [Char.isDigit, ge_iff_le, Bool.and_eq_true, decide_eq_true_eq,
    UInt32.le_iff_toNat_le] at hc
  have hc' : 48 ≤ c.toNat ∧ c.toNat ≤ 57 := hc
  constructor
  · simp only [isAscii, decide_eq_true_eq]
    omega
  · simp only [Char.isAlpha, Char.isUpper, Char.isLower, ge_iff_le, Bool.or_eq_false_iff,
      Bool.and_eq_false_iff, decide_eq_false_iff_not, UInt32.le_iff_toNat_le]
    constructor
    · change ¬ (65 ≤ c.toNat ∧ c.toNat ≤ 90)
      omega
    · refine .inl ?_
      change ¬ 97 ≤ c.toNat
      omega

theorem isValidTopLevelDomain_unicode {text : List Char} (hpre : ¬ HasPunycodePrefix text)
    (hchars : ∀ c ∈ text, isLabelChar c = true) :
    isValidTopLevelDomain graphemes (.unicode text) = decide (IsTopLevel graphemes text) := by
  have hhyphen : '-' ∉ text := fun h => ne_of_isLabelChar (hchars _ h) (by decide) rfl
  have hdigits : (text.all fun c => c.isAlpha || !isAscii c) = true ↔
      ∀ c ∈ text, c.isDigit = false := by
    rw [List.all_eq_true]
    refine forall₂_congr fun c hc => ?_
    have hlabel := hchars c hc
    simp only [isLabelChar, Char.isAlphanum, Bool.or_eq_true] at hlabel ⊢
    constructor
    · intro h
      by_contra hdigit
      obtain ⟨hascii, halpha⟩ := ascii_of_isDigit (by simpa using hdigit)
      simp [hascii, halpha] at h
    · intro h
      simpa [h] using hlabel
  rw [Bool.eq_iff_iff]
  simp only [isValidTopLevelDomain, IsTopLevel, hpre, hhyphen, false_and, false_or,
    not_false_eq_true, true_and, Bool.and_eq_true, decide_eq_true_eq, hdigits]

theorem unicodeLabel_ok {s rest : List Char} {l : Label} (hpre : ¬ HasPunycodePrefix s)
    (h : unicodeLabel s = .ok (rest, l)) :
    ∃ text, ReadsLabel s text rest ∧ labelDone text = true ∧
      isValidTopLevelDomain graphemes l = decide (IsTopLevel graphemes text) := by
  unfold unicodeLabel at h
  rcases runs_rule hpre with ⟨herror, -⟩ | ⟨rest', parts, hlist, hreads, hend⟩
  · rw [herror] at h
    cases h
  · simp only [hlist] at h
    obtain ⟨text, rfl, htext, hne, hlast, hstop, hparts⟩ := hreads
    have hpre' := not_hasPunycodePrefix_of_append hpre
    have hdone : labelDone text = true := by simp [labelDone, hpre', hne, hlast]
    split at h
    · -- a hyphen at the end has no run after it
      rename_i hhead
      obtain ⟨rest'', rfl, hstop'⟩ := hend.resolve_left (fun hno => hno hhead)
      simp only [preceded, char_cons, map] at h
      split at h
      · rename_i rest₃ run hrun
        obtain ⟨rfl, hrunne, hchars, -⟩ := takeWhile1_ok hrun
        obtain ⟨c, run, rfl⟩ := List.exists_cons_of_ne_nil hrunne
        have hno := hstop' c rfl
        rw [hchars c (by simp)] at hno
        cases hno
      · cases h
    · rename_i hhead
      have hreads : ReadsLabel (text ++ rest') text rest' :=
        ⟨rfl, htext, stopsAt_runs hpre' hstop hhead⟩
      rcases hparts with ⟨rfl, hchars⟩ | ⟨htwo, hhyphen⟩
      · cases h
        exact ⟨text, hreads, hdone, isValidTopLevelDomain_unicode hpre' hchars⟩
      · obtain ⟨first, parts, rfl⟩ := List.exists_cons_of_length_pos (Nat.zero_lt_of_lt htwo)
        obtain ⟨second, parts, rfl⟩ := List.exists_cons_of_length_pos (Nat.lt_of_succ_lt_succ htwo)
        cases h
        exact ⟨text, hreads, hdone, by
          simp [isValidTopLevelDomain, IsTopLevel, hpre', hhyphen]⟩

theorem unicodeLabel_error {s : List Char} {e : Err} (hpre : ¬ HasPunycodePrefix s)
    (h : unicodeLabel s = .error e) :
    ∃ text rest code, e = .error ⟨rest, code⟩ ∧ ReadsLabel s text rest ∧
      labelDone text = false := by
  unfold unicodeLabel at h
  rcases runs_rule hpre with ⟨herror, hstop⟩ | ⟨rest', parts, hlist, hreads, hend⟩
  · rw [herror] at h
    cases h
    refine ⟨[], s, _, rfl, ⟨rfl, .nil, fun c hc => ?_⟩, by decide⟩
    have hno : ¬ HasPunycodePrefix [] := by decide
    simp [labelStep, hno, hstop c hc]
  · simp only [hlist] at h
    obtain ⟨text, rfl, htext, hne, hlast, hstop, hparts⟩ := hreads
    have hpre' := not_hasPunycodePrefix_of_append hpre
    split at h
    · rename_i hhead
      obtain ⟨rest'', rfl, hstop'⟩ := hend.resolve_left (fun hno => hno hhead)
      rw [List.append_cons] at hpre
      have hhyphen := not_hasPunycodePrefix_of_append hpre
      simp only [preceded, char_cons, map] at h
      split at h
      · cases h
      · rename_i hrun
        cases h
        obtain ⟨rfl, -⟩ := takeWhile1_error hrun
        refine ⟨text ++ ['-'], rest'', _, rfl, ⟨by simp, htext.append_hyphen hpre' hne hlast,
          stopsAt_hyphen hpre hstop'⟩, ?_⟩
        simp [labelDone, hhyphen]
    -- one run or several are a label
    · rcases hparts with ⟨rfl, -⟩ | ⟨htwo, -⟩
      · cases h
      · obtain ⟨first, parts, rfl⟩ := List.exists_cons_of_length_pos (Nat.zero_lt_of_lt htwo)
        obtain ⟨second, parts, rfl⟩ := List.exists_cons_of_length_pos (Nat.lt_of_succ_lt_succ htwo)
        cases h

/-! ## Labels -/

theorem tagNoCase_punycode (s : List Char) :
    tagNoCase punycodePrefix s =
      if HasPunycodePrefix s then .ok (s.drop 4, s.take 4) else .error (.error ⟨s, .tag⟩) := rfl

/-- **A label that is parsed is a whole label**, and what it returns decides whether the label
may be the last one. -/
theorem label_ok {s rest : List Char} {l : Label} (h : label s = .ok (rest, l)) :
    ∃ text, ReadsLabel s text rest ∧ labelDone text = true ∧
      isValidTopLevelDomain graphemes l = decide (IsTopLevel graphemes text) := by
  unfold label at h
  rw [tagNoCase_punycode] at h
  by_cases hpre : HasPunycodePrefix s
  · simp only [hpre, if_true] at h
    exact punycodeLabel_ok hpre h
  · simp only [hpre, if_false] at h
    exact unicodeLabel_ok hpre h

/-- **A label that is not parsed** is not a whole label where the parser fails. -/
theorem label_error {s : List Char} {e : Err} (h : label s = .error e) :
    ∃ text rest code, e = .error ⟨rest, code⟩ ∧ ReadsLabel s text rest ∧
      labelDone text = false := by
  unfold label at h
  rw [tagNoCase_punycode] at h
  by_cases hpre : HasPunycodePrefix s
  · simp only [hpre, if_true] at h
    exact punycodeLabel_error hpre h
  · simp only [hpre, if_false] at h
    exact unicodeLabel_error hpre h

end AddressParser

end LipaLightning
