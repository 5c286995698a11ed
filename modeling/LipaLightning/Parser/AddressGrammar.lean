import LipaLightning.Basic.Scanner
import LipaLightning.Parser.LightningAddress

set_option autoImplicit false

/-! # The grammar of lightning addresses

The language of lightning addresses, and a scanner that accepts it. The scanner keeps the text
of the label it is in, because the rule for the last label looks at the label as a whole.
-/

namespace LipaLightning

namespace AddressParser

/-! ## The grammar -/

/-- The label starts with the prefix of punycode, in any case. -/
def HasPunycodePrefix (label : List Char) : Prop :=
  (label.take 4).map Char.toLower = punycodePrefix

instance : DecidablePred HasPunycodePrefix := fun label =>
  inferInstanceAs (Decidable ((label.take 4).map Char.toLower = punycodePrefix))

/-- The parts of a label between its hyphens. -/
def IsRun (run : List Char) : Prop := run ≠ [] ∧ ∀ c ∈ run, isLabelChar c = true

/-- The labels of a domain: punycode after its prefix, or runs separated by hyphens. -/
def IsLabel (label : List Char) : Prop :=
  (HasPunycodePrefix label ∧ label.drop 4 ≠ [] ∧ ∀ c ∈ label.drop 4, isPunycodeChar c = true) ∨
  (¬ HasPunycodePrefix label ∧
    ∃ runs : List (List Char), runs ≠ [] ∧ (∀ run ∈ runs, IsRun run) ∧
      label = ['-'].intercalate runs)

/-- The labels that may be the last one. -/
def IsTopLevel (graphemes : List Char → Nat) (label : List Char) : Prop :=
  (HasPunycodePrefix label ∧ 4 ≤ (label.drop 4).length) ∨
  ('-' ∉ label ∧ 2 ≤ graphemes label ∧ ∀ c ∈ label, c.isDigit = false)

instance (graphemes : List Char → Nat) : DecidablePred (IsTopLevel graphemes) := fun label =>
  inferInstanceAs (Decidable ((HasPunycodePrefix label ∧ 4 ≤ (label.drop 4).length) ∨
    ('-' ∉ label ∧ 2 ≤ graphemes label ∧ ∀ c ∈ label, c.isDigit = false)))

def Spaces (s : List Char) : Prop := ∀ c ∈ s, Nom.isSpace c = true

/-- `user@label.….label`, with spaces around it. -/
def IsLightningAddress (graphemes : List Char → Nat) (s : List Char) : Prop :=
  ∃ (before user : List Char) (labels : List (List Char)) (last after : List Char),
    Spaces before ∧ (user ≠ [] ∧ ∀ c ∈ user, isUsernameChar c = true) ∧
    labels ≠ [] ∧ (∀ label ∈ labels, IsLabel label) ∧
    (IsLabel last ∧ IsTopLevel graphemes last) ∧ Spaces after ∧
    s = before ++ user ++ ['@'] ++ ['.'].intercalate (labels ++ [last]) ++ after

/-! ## Characters -/

theorem toLower_cases (c : Char) : c.toLower = c ∨ c.isUpper = true := by
  unfold Char.toLower Char.isUpper
  split
  · rename_i h
    exact .inr (by simpa using h)
  · exact .inl rfl

theorem eq_hyphen_of_toLower {c : Char} (h : c.toLower = '-') : c = '-' := by
  rcases toLower_cases c with hc | hc
  · rw [← h, hc]
  · exfalso
    simp only [Char.isUpper, ge_iff_le, decide_eq_true_eq] at hc
    have hval := congrArg (fun c => c.val.toNat) h
    unfold Char.toLower at hval
    rw [dif_pos hc] at hval
    have hlow := UInt32.le_iff_toNat_le.mp hc.1
    have hhigh := UInt32.le_iff_toNat_le.mp hc.2
    simp at hval hlow hhigh
    omega

theorem isLabelChar_of_toLower {c : Char} (h : isLabelChar c.toLower = true) :
    isLabelChar c = true := by
  rcases toLower_cases c with hc | hc
  · rwa [hc] at h
  · simp [isLabelChar, Char.isAlphanum, Char.isAlpha, hc]

theorem ne_of_isLabelChar {c d : Char} (hc : isLabelChar c = true) (hd : isLabelChar d = false) :
    c ≠ d := by
  rintro rfl
  rw [hc] at hd
  cases hd

theorem IsRun.getLast?_ne {run : List Char} (h : IsRun run) (text : List Char) :
    (text ++ run).getLast? ≠ some '-' := by
  rw [List.getLast?_append, List.getLast?_eq_some_getLast h.1, Option.some_or]
  exact fun heq => ne_of_isLabelChar (h.2 _ (List.getLast_mem h.1)) (by decide)
    (Option.some.inj heq)

/-- Runs that are each followed by a hyphen end with one. -/
theorem isRun_of_getLast?_ne {runs : List (List Char)} {run : List Char}
    (hrun : ∀ c ∈ run, isLabelChar c = true) (hne : runs.flatMap (· ++ ['-']) ++ run ≠ [])
    (hlast : (runs.flatMap (· ++ ['-']) ++ run).getLast? ≠ some '-') : IsRun run := by
  refine ⟨?_, hrun⟩
  rintro rfl
  rcases List.eq_nil_or_concat runs with rfl | ⟨runs, last, rfl⟩
  · exact hne rfl
  · exact hlast (by simp)

/-! ## The prefix of punycode -/

theorem HasPunycodePrefix.le_length {label : List Char} (h : HasPunycodePrefix label) :
    4 ≤ label.length := by
  have := congrArg List.length h
  simp [punycodePrefix] at this
  omega

theorem HasPunycodePrefix.append {label : List Char} (h : HasPunycodePrefix label)
    (rest : List Char) : HasPunycodePrefix (label ++ rest) := by
  unfold HasPunycodePrefix
  rw [List.take_append_of_le_length h.le_length]
  exact h

/-- The four characters of the prefix. -/
theorem HasPunycodePrefix.exists_eq {label : List Char} (h : HasPunycodePrefix label) :
    ∃ x n, isLabelChar x = true ∧ isLabelChar n = true ∧ x.toLower = 'x' ∧ n.toLower = 'n' ∧
      label = x :: n :: '-' :: '-' :: label.drop 4 := by
  match label, h with
  | x :: n :: a :: b :: rest, h =>
      obtain ⟨hx, hn, ha, hb⟩ : x.toLower = 'x' ∧ n.toLower = 'n' ∧ a.toLower = '-' ∧
          b.toLower = '-' := by
        simpa [HasPunycodePrefix, punycodePrefix] using h
      refine ⟨x, n, isLabelChar_of_toLower (by rw [hx]; decide),
        isLabelChar_of_toLower (by rw [hn]; decide), hx, hn, ?_⟩
      rw [eq_hyphen_of_toLower ha, eq_hyphen_of_toLower hb]
      rfl
  | [], h => cases h
  | [_], h => simp [HasPunycodePrefix, punycodePrefix] at h
  | [_, _], h => simp [HasPunycodePrefix, punycodePrefix] at h
  | [_, _, _], h => simp [HasPunycodePrefix, punycodePrefix] at h

/-- The prefix is complete with the second hyphen. -/
theorem hasPunycodePrefix_snoc_iff {text : List Char} (h : ¬ HasPunycodePrefix text) (c : Char) :
    HasPunycodePrefix (text ++ [c]) ↔ text.map Char.toLower = ['x', 'n', '-'] ∧ c = '-' := by
  constructor
  · intro hpre
    have hlength : text.length = 3 := by
      by_contra hne
      have := hpre.le_length
      rw [List.length_append, List.length_singleton] at this
      apply h
      unfold HasPunycodePrefix at hpre
      rwa [List.take_append_of_le_length (by omega)] at hpre
    unfold HasPunycodePrefix at hpre
    rw [List.take_of_length_le (by simp [hlength]), List.map_append] at hpre
    have hsplit : text.map Char.toLower ++ [c.toLower] = ['x', 'n', '-'] ++ ['-'] := hpre
    obtain ⟨htext, hc⟩ := List.append_inj' hsplit rfl
    exact ⟨htext, eq_hyphen_of_toLower (by simpa using hc)⟩
  · rintro ⟨htext, rfl⟩
    have hlength : text.length = 3 := by simpa using congrArg List.length htext
    unfold HasPunycodePrefix
    rw [List.take_of_length_le (by simp [hlength]), List.map_append, htext]
    rfl

/-! ## Labels letter by letter -/

/-- The character may follow the text of a label. -/
def labelStep (text : List Char) (c : Char) : Bool :=
  if HasPunycodePrefix text then isPunycodeChar c
  else
    isLabelChar c ||
      (c = '-' && text ≠ [] &&
        (text.getLast? ≠ some '-' || text.map Char.toLower = ['x', 'n', '-']))

/-- The text is a whole label. -/
def labelDone (text : List Char) : Bool :=
  if HasPunycodePrefix text then 4 < text.length
  else text ≠ [] && text.getLast? ≠ some '-'

/-- The texts that are read letter by letter. -/
inductive LabelText : List Char → Prop where
  | nil : LabelText []
  | snoc {text : List Char} {c : Char} (htext : LabelText text) (hc : labelStep text c = true) :
      LabelText (text ++ [c])

namespace LabelText

theorem append_punycode {text rest : List Char} (htext : LabelText text)
    (hpre : HasPunycodePrefix text) (hrest : ∀ c ∈ rest, isPunycodeChar c = true) :
    LabelText (text ++ rest) := by
  induction rest using List.reverseRecOn with
  | nil => simpa using htext
  | append_singleton rest c ih =>
      rw [← List.append_assoc]
      refine .snoc (ih fun d hd => hrest d (by simp [hd])) ?_
      simpa [labelStep, hpre.append rest] using hrest c (by simp)

theorem append_run {text run : List Char} (htext : LabelText text)
    (hpre : ¬ HasPunycodePrefix (text ++ run)) (hrun : ∀ c ∈ run, isLabelChar c = true) :
    LabelText (text ++ run) := by
  induction run using List.reverseRecOn with
  | nil => simpa using htext
  | append_singleton run c ih =>
      rw [← List.append_assoc] at hpre ⊢
      have hpre' : ¬ HasPunycodePrefix (text ++ run) := fun h => hpre (h.append [c])
      refine .snoc (ih hpre' fun d hd => hrun d (by simp [hd])) ?_
      simp [labelStep, hpre', hrun c (by simp)]

/-- A hyphen after a run. -/
theorem append_hyphen {text : List Char} (htext : LabelText text)
    (hpre : ¬ HasPunycodePrefix text) (hne : text ≠ [])
    (hlast : text.getLast? ≠ some '-') : LabelText (text ++ ['-']) :=
  .snoc htext (by simp [labelStep, hpre, hne, hlast])

theorem punycodePrefix {label : List Char} (h : HasPunycodePrefix label) :
    LabelText (label.take 4) := by
  obtain ⟨x, n, hx, hn, hx', hn', heq⟩ := h.exists_eq
  rw [heq]
  have hlabel : ∀ c ∈ [x, n], isLabelChar c = true := by simp [hx, hn]
  have h1 : LabelText ([] ++ [x, n]) :=
    LabelText.nil.append_run (fun hp => absurd hp.le_length (by simp)) hlabel
  have hne : n ≠ '-' := ne_of_isLabelChar hn (by decide)
  have h2 : LabelText ([] ++ [x, n] ++ ['-']) := h1.append_hyphen
    (fun hp => absurd hp.le_length (by simp)) (by simp) (by simpa using hne)
  have hpre : ¬ HasPunycodePrefix [x, n, '-'] := fun hp => absurd hp.le_length (by simp)
  exact h2.snoc (c := '-') (by simp [labelStep, hpre, hx', hn'])

/-- The runs before the last one, each with its hyphen. -/
theorem append_runs {runs : List (List Char)} (hruns : ∀ run ∈ runs, IsRun run)
    (hpre : ¬ HasPunycodePrefix (runs.flatMap (· ++ ['-']))) :
    LabelText (runs.flatMap (· ++ ['-'])) := by
  induction runs using List.reverseRecOn with
  | nil => exact .nil
  | append_singleton runs run ih =>
      rw [List.flatMap_append, List.flatMap_singleton, ← List.append_assoc] at hpre ⊢
      obtain ⟨hne, hchars⟩ := hruns run (by simp)
      have hpre' : ¬ HasPunycodePrefix (runs.flatMap (· ++ ['-']) ++ run) :=
        fun h => hpre (h.append _)
      have htext := (ih (fun r hr => hruns r (by simp [hr])) fun h => hpre' (h.append _))
        |>.append_run hpre' hchars
      exact htext.append_hyphen hpre' (by simp [hne]) (IsRun.getLast?_ne ⟨hne, hchars⟩ _)

/-- A text is punycode after its prefix, or runs with their hyphens and the run it is in. -/
theorem parts {text : List Char} (htext : LabelText text) :
    (HasPunycodePrefix text ∧ ∀ c ∈ text.drop 4, isPunycodeChar c = true) ∨
    (¬ HasPunycodePrefix text ∧ ∃ (runs : List (List Char)) (run : List Char),
      (∀ run ∈ runs, IsRun run) ∧ (∀ c ∈ run, isLabelChar c = true) ∧
      text = runs.flatMap (· ++ ['-']) ++ run) := by
  induction htext with
  | nil => exact .inr ⟨by decide, [], [], by simp, by simp, rfl⟩
  | @snoc text c htext hc ih =>
      rcases ih with ⟨hpre, hrest⟩ | ⟨hpre, runs, run, hruns, hrun, rfl⟩
      -- after the prefix every punycode character is read
      · refine .inl ⟨hpre.append _, fun d hd => ?_⟩
        rw [List.drop_append_of_le_length hpre.le_length] at hd
        rcases List.mem_append.mp hd with hd | hd
        · exact hrest d hd
        · obtain rfl : d = c := by simpa using hd
          simpa [labelStep, hpre] using hc
      · simp only [labelStep, hpre, if_false, Bool.or_eq_true] at hc
        rcases hc with hc | hc
        · -- a character of the run
          have hne : c ≠ '-' := ne_of_isLabelChar hc (by decide)
          refine .inr ⟨?_, runs, run ++ [c], hruns, fun d hd => ?_, by simp⟩
          · rw [hasPunycodePrefix_snoc_iff hpre]
            exact fun h => hne h.2
          · rcases List.mem_append.mp hd with hd | hd
            · exact hrun d hd
            · obtain rfl : d = c := by simpa using hd
              exact hc
        · simp only [Bool.and_eq_true, decide_eq_true_eq, Bool.or_eq_true] at hc
          obtain ⟨⟨rfl, hne⟩, hlast | hxn⟩ := hc
          · -- a hyphen that ends the run
            have hrun' := isRun_of_getLast?_ne hrun hne hlast
            refine .inr ⟨?_, runs ++ [run], [], ?_, by simp, by simp⟩
            · rw [hasPunycodePrefix_snoc_iff hpre]
              rintro ⟨hxn, -⟩
              have hmap := congrArg List.getLast? hxn
              rw [List.getLast?_map] at hmap
              obtain ⟨d, hd, hlower⟩ := Option.map_eq_some_iff.mp hmap
              rw [eq_hyphen_of_toLower hlower] at hd
              exact hlast hd
            · intro r hr
              rcases List.mem_append.mp hr with hr | hr
              · exact hruns r hr
              · obtain rfl : r = run := by simpa using hr
                exact hrun'
          · -- the second hyphen of the prefix
            have hnew := (hasPunycodePrefix_snoc_iff hpre '-').mpr ⟨hxn, rfl⟩
            have hlength := congrArg List.length hxn
            refine .inl ⟨hnew, fun d hd => ?_⟩
            rw [List.drop_eq_nil_of_le (by simp at hlength ⊢; omega)] at hd
            cases hd

end LabelText

theorem intercalate_concat {α : Type} (separator : List α) (xs : List (List α)) (x : List α) :
    separator.intercalate (xs ++ [x]) = xs.flatMap (· ++ separator) ++ x := by
  induction xs with
  | nil => simp
  | cons y ys ih =>
      rw [List.cons_append, List.intercalate_cons_of_ne_nil (by simp), ih]
      simp

/-- **The labels are the whole texts** that are read letter by letter. -/
theorem isLabel_iff {label : List Char} :
    IsLabel label ↔ LabelText label ∧ labelDone label = true := by
  constructor
  · rintro (⟨hpre, hne, hrest⟩ | ⟨hpre, runs, hne, hruns, rfl⟩)
    -- a label in punycode is its prefix and the characters after it
    · have htake : HasPunycodePrefix (label.take 4) := by
        have htwice : (label.take 4).take 4 = label.take 4 := by rw [List.take_take, Nat.min_self]
        unfold HasPunycodePrefix
        rwa [htwice]
      have htext := (LabelText.punycodePrefix hpre).append_punycode htake hrest
      rw [List.take_append_drop] at htext
      exact ⟨htext, by simpa [labelDone, hpre] using hne⟩
    -- a label of runs is its first runs with their hyphens and the last run
    · obtain ⟨runs, run, rfl⟩ := (List.eq_nil_or_concat runs).resolve_left hne
      rw [List.concat_eq_append, intercalate_concat] at hpre ⊢
      have hrun : IsRun run := hruns run (by simp)
      have htext := LabelText.append_runs (fun r hr => hruns r (by simp [hr]))
        fun h => hpre (h.append run)
      refine ⟨htext.append_run hpre hrun.2, ?_⟩
      have hlast := hrun.getLast?_ne (runs.flatMap (· ++ ['-']))
      simp [labelDone, hpre, hrun.1, -List.getLast?_append, hlast]
  · rintro ⟨htext, hdone⟩
    rcases htext.parts with ⟨hpre, hrest⟩ | ⟨hpre, runs, run, hruns, hrun, rfl⟩
    · refine .inl ⟨hpre, ?_, hrest⟩
      simpa [labelDone, hpre] using hdone
    · simp only [labelDone, hpre, if_false, Bool.and_eq_true, decide_eq_true_eq] at hdone
      have hrun' := isRun_of_getLast?_ne hrun hdone.1 hdone.2
      refine .inr ⟨hpre, runs ++ [run], by simp, fun r hr => ?_, (intercalate_concat _ _ _).symm⟩
      rcases List.mem_append.mp hr with hr | hr
      · exact hruns r hr
      · obtain rfl : r = run := by simpa using hr
        exact hrun'

end AddressParser

end LipaLightning
