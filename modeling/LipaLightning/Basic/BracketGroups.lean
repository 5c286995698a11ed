import Mathlib.Data.List.Basic
import Mathlib.Data.List.TakeWhile

set_option autoImplicit false

/-! # Bracketed groups in a list

A group is an opening bracket, one or more elements of a class, and a closing bracket. The
brackets are not in the class, so that groups do not overlap and reading a list from the left
finds every group that occurs in it (`mem_segments_iff`). Rewriting the groups of a list, each by
itself, is the only function that keeps lists without groups and is the same on the parts before
and after a group (`IsLocal.eq_rewrite`).
-/

structure Brackets (α : Type) where
  opening : α
  closing : α
  inside : α → Bool
  opening_outside : inside opening = false
  closing_outside : inside closing = false
  opening_ne_closing : opening ≠ closing

namespace Brackets

/-- A part of a list: a group, or one element that belongs to none. -/
inductive Segment (α : Type) where
  | other (a : α)
  | group (run : List α)

variable {α : Type} (b : Brackets α)

/-- The elements of a group. -/
structure IsRun (run : List α) : Prop where
  nonempty : run ≠ []
  inside : ∀ a ∈ run, b.inside a = true

def bracketed (run : List α) : List α := b.opening :: (run ++ [b.closing])

/-- The group occurs in the list. -/
structure Occurs (run l : List α) : Prop where
  isRun : b.IsRun run
  occurs : ∃ pre post, l = pre ++ b.bracketed run ++ post

/-! ## Reading from the left -/

theorem takeWhile_run {run : List α} (hrun : ∀ a ∈ run, b.inside a = true) (rest : List α) :
    (run ++ b.closing :: rest).takeWhile b.inside = run ∧
      (run ++ b.closing :: rest).dropWhile b.inside = b.closing :: rest := by
  induction run with
  | nil => simp [b.closing_outside]
  | cons r run ih =>
      have hr := hrun r List.mem_cons_self
      obtain ⟨htake, hdrop⟩ := ih fun a ha => hrun a (List.mem_cons_of_mem r ha)
      rw [List.cons_append, List.takeWhile_cons_of_pos hr, List.dropWhile_cons_of_pos hr, htake,
        hdrop]
      exact ⟨rfl, rfl⟩

variable [DecidableEq α]

/-- The group that the list starts with, and what follows it. -/
def splitGroup : List α → Option (List α × List α)
  | [] => none
  | a :: l =>
      if a = b.opening then
        match l.takeWhile b.inside, l.dropWhile b.inside with
        | r :: run, c :: rest => if c = b.closing then some (r :: run, rest) else none
        | _, _ => none
      else none

theorem splitGroup_bracketed {run : List α} (hrun : b.IsRun run) (rest : List α) :
    b.splitGroup (b.bracketed run ++ rest) = some (run, rest) := by
  obtain ⟨hne, hinside⟩ := hrun
  obtain ⟨htake, hdrop⟩ := b.takeWhile_run hinside rest
  unfold bracketed splitGroup
  rw [List.cons_append, List.append_assoc, List.singleton_append]
  dsimp only
  rw [if_pos rfl, htake, hdrop]
  cases run with
  | nil => exact absurd rfl hne
  | cons r run => exact if_pos rfl

theorem splitGroup_eq_some {l run rest : List α} (h : b.splitGroup l = some (run, rest)) :
    b.IsRun run ∧ l = b.bracketed run ++ rest := by
  cases l with
  | nil => cases h
  | cons a l =>
      simp only [splitGroup] at h
      split at h
      · next hopening =>
        subst hopening
        have hsplit := List.takeWhile_append_dropWhile (p := b.inside) (l := l)
        have hinside : ∀ x ∈ l.takeWhile b.inside, b.inside x = true :=
          fun x hx => List.mem_takeWhile_imp hx
        cases htake : l.takeWhile b.inside with
        | nil =>
            rw [htake] at h
            cases h
        | cons r run' =>
            cases hdrop : l.dropWhile b.inside with
            | nil =>
                rw [htake, hdrop] at h
                cases h
            | cons c rest' =>
                rw [htake, hdrop] at h hsplit
                rw [htake] at hinside
                dsimp only at h
                split at h
                · next hclosing =>
                  obtain ⟨rfl, rfl⟩ := Prod.mk.inj (Option.some.inj h)
                  refine ⟨⟨List.cons_ne_nil _ _, hinside⟩, ?_⟩
                  rw [← hsplit, hclosing]
                  simp [bracketed]
                · cases h
      · cases h

theorem splitGroup_length {l run rest : List α} (h : b.splitGroup l = some (run, rest)) :
    rest.length < l.length := by
  obtain ⟨-, rfl⟩ := b.splitGroup_eq_some h
  simp [bracketed]
  omega

/-- The groups of a list, read from the left, and the elements between them. -/
def segments : List α → List (Segment α)
  | [] => []
  | a :: l =>
      match _h : b.splitGroup (a :: l) with
      | some (run, rest) => .group run :: segments rest
      | none => .other a :: segments l
termination_by l => l.length
decreasing_by
  · exact b.splitGroup_length _h
  · exact Nat.lt_succ_self l.length

@[simp] theorem segments_nil : b.segments [] = [] := by
  rw [segments]

theorem segments_bracketed {run : List α} (hrun : b.IsRun run) (rest : List α) :
    b.segments (b.bracketed run ++ rest) = .group run :: b.segments rest := by
  have hsplit := b.splitGroup_bracketed hrun rest
  unfold bracketed at hsplit ⊢
  rw [List.cons_append] at hsplit ⊢
  rw [segments]
  split
  · next run' rest' h =>
    rw [hsplit] at h
    obtain ⟨rfl, rfl⟩ := Prod.mk.inj (Option.some.inj h)
    rfl
  · next h => exact nomatch hsplit.symm.trans h

theorem segments_cons {a : α} {l : List α} (h : b.splitGroup (a :: l) = none) :
    b.segments (a :: l) = .other a :: b.segments l := by
  rw [segments]
  split
  · next run rest h' => exact nomatch h.symm.trans h'
  · rfl

/-- Induction along the segments of a list. -/
theorem segments_induction {motive : List α → Prop} (nil : motive [])
    (group : ∀ run rest, b.IsRun run → motive rest → motive (b.bracketed run ++ rest))
    (other : ∀ a l, b.splitGroup (a :: l) = none → motive l → motive (a :: l)) (l : List α) :
    motive l := by
  induction hn : l.length using Nat.strong_induction_on generalizing l with
  | h n ih =>
      cases l with
      | nil => exact nil
      | cons a l =>
          cases hsplit : b.splitGroup (a :: l) with
          | none =>
              have hshorter : l.length < n := by
                rw [← hn]
                exact Nat.lt_succ_self _
              exact other a l hsplit (ih l.length hshorter l rfl)
          | some p =>
              have hlt := b.splitGroup_length hsplit
              obtain ⟨hrun, hl⟩ := b.splitGroup_eq_some hsplit
              rw [hl]
              exact group p.1 p.2 hrun (ih p.2.length (by omega) p.2 rfl)

/-! ## The groups that occur -/

def Segment.text : Segment α → List α
  | .other a => [a]
  | .group run => b.bracketed run

/-- The segments are the list. -/
theorem flatMap_text_segments (l : List α) : (b.segments l).flatMap (Segment.text b) = l := by
  induction l using b.segments_induction with
  | nil => rw [segments_nil, List.flatMap_nil]
  | group run rest hrun ih => rw [b.segments_bracketed hrun, List.flatMap_cons, ih, Segment.text]
  | other a l hsplit ih =>
      rw [b.segments_cons hsplit, List.flatMap_cons, ih, Segment.text, List.singleton_append]

/-- No group starts before an opening bracket and ends behind it. -/
theorem splitGroup_append_bracketed {a : α} {l : List α} (h : b.splitGroup (a :: l) = none)
    (run post : List α) : b.splitGroup (a :: l ++ b.bracketed run ++ post) = none := by
  cases hsplit : b.splitGroup (a :: l ++ b.bracketed run ++ post) with
  | none => rfl
  | some p =>
      obtain ⟨run', rest⟩ := p
      obtain ⟨hrun', heq⟩ := b.splitGroup_eq_some hsplit
      have happend : (a :: l) ++ (b.bracketed run ++ post) = b.bracketed run' ++ rest := by
        rw [← heq, List.append_assoc]
      rcases List.append_eq_append_iff.mp happend with ⟨tail, hl, htail⟩ | ⟨tail, hl, -⟩
      · cases tail with
        | nil =>
            rw [List.append_nil] at hl
            have hsome := b.splitGroup_bracketed hrun' []
            rw [List.append_nil, hl] at hsome
            exact nomatch h.symm.trans hsome
        | cons t tail =>
            -- the opening bracket would be in the group
            obtain rfl : b.opening = t := (List.cons.inj htail).1
            have hmem : b.opening ∈ run' ++ [b.closing] := by
              rw [(List.cons.inj hl).2]
              exact List.mem_append_right l List.mem_cons_self
            rcases List.mem_append.mp hmem with hmem | hmem
            · exact nomatch b.opening_outside.symm.trans (hrun'.inside _ hmem)
            · exact absurd (List.mem_singleton.mp hmem) b.opening_ne_closing
      -- the group would end before the opening bracket
      · have hsome := b.splitGroup_bracketed hrun' tail
        rw [← hl] at hsome
        exact nomatch h.symm.trans hsome

/-- **Groups are read by themselves**: the parts before and after a group are read as they are
read alone. -/
theorem segments_append_bracketed (pre : List α) {run : List α} (hrun : b.IsRun run)
    (post : List α) :
    b.segments (pre ++ b.bracketed run ++ post)
      = b.segments pre ++ .group run :: b.segments post := by
  induction pre using b.segments_induction with
  | nil => rw [List.nil_append, b.segments_bracketed hrun, segments_nil, List.nil_append]
  | group run' rest hrun' ih =>
      rw [List.append_assoc, List.append_assoc, b.segments_bracketed hrun', ← List.append_assoc,
        ih, b.segments_bracketed hrun', List.cons_append]
  | other a l hsplit ih =>
      have hsplit' := b.splitGroup_append_bracketed hsplit run post
      rw [List.cons_append, List.cons_append] at hsplit' ⊢
      rw [b.segments_cons hsplit', ih, b.segments_cons hsplit, List.cons_append]

/-- The groups that are found are those that occur. -/
theorem mem_segments_iff (run l : List α) : .group run ∈ b.segments l ↔ b.Occurs run l := by
  constructor
  · intro h
    induction l using b.segments_induction with
    | nil => simp at h
    | group run' rest hrun' ih =>
        rw [b.segments_bracketed hrun', List.mem_cons] at h
        rcases h with h | h
        · obtain rfl := Segment.group.inj h
          exact ⟨hrun', [], rest, rfl⟩
        · obtain ⟨hrun, pre, post, rfl⟩ := ih h
          exact ⟨hrun, b.bracketed run' ++ pre, post, by simp⟩
    | other a l hsplit ih =>
        rw [b.segments_cons hsplit, List.mem_cons] at h
        rcases h with h | h
        · cases h
        · obtain ⟨hrun, pre, post, rfl⟩ := ih h
          exact ⟨hrun, a :: pre, post, by simp⟩
  · rintro ⟨hrun, pre, post, rfl⟩
    rw [b.segments_append_bracketed pre hrun]
    exact List.mem_append_right _ List.mem_cons_self

/-! ## Rewriting groups -/

variable (f : List α → List α)

def Segment.rewrite : Segment α → List α
  | .other a => [a]
  | .group run => f run

/-- The list with each group replaced. -/
def rewrite (l : List α) : List α := (b.segments l).flatMap (Segment.rewrite f)

/-- A list without groups is kept, and the parts before and after a group are rewritten as they
are alone. -/
structure IsLocal (R : List α → List α) : Prop where
  keeps : ∀ l, (∀ run, ¬ b.Occurs run l) → R l = l
  replaces : ∀ pre run post, b.IsRun run →
    R (pre ++ b.bracketed run ++ post) = R pre ++ f run ++ R post

variable {f}

/-- A list is kept if each of its groups is. -/
theorem rewrite_eq_self {l : List α} (h : ∀ run, b.Occurs run l → f run = b.bracketed run) :
    b.rewrite f l = l := by
  have htext := b.flatMap_text_segments l
  unfold rewrite
  conv_rhs => rw [← htext]
  rw [List.flatMap_def, List.flatMap_def]
  refine congrArg List.flatten (List.map_congr_left fun s hs => ?_)
  cases s with
  | other a => rfl
  | group run => exact h run ((b.mem_segments_iff run l).mp hs)

theorem rewrite_isLocal : b.IsLocal f (b.rewrite f) where
  keeps l h := b.rewrite_eq_self fun run hrun => absurd hrun (h run)
  replaces pre run post hrun := by
    unfold rewrite
    rw [b.segments_append_bracketed pre hrun, List.flatMap_append, List.flatMap_cons,
      List.append_assoc, Segment.rewrite]

/-- There is only one way to rewrite each group by itself. -/
theorem IsLocal.eq_rewrite {R : List α → List α} (h : b.IsLocal f R) (l : List α) :
    R l = b.rewrite f l := by
  induction hn : l.length using Nat.strong_induction_on generalizing l with
  | h n ih =>
      by_cases hgroup : ∃ run, b.Occurs run l
      · obtain ⟨run, hrun, pre, post, rfl⟩ := hgroup
        have hlength : (pre ++ b.bracketed run ++ post).length
            = pre.length + (run.length + 2) + post.length := by
          simp [bracketed]
          omega
        rw [h.replaces pre run post hrun, b.rewrite_isLocal.replaces pre run post hrun,
          ih pre.length (by omega) pre rfl, ih post.length (by omega) post rfl]
      · have hnone : ∀ run, ¬ b.Occurs run l := fun run hrun => hgroup ⟨run, hrun⟩
        rw [h.keeps l hnone, b.rewrite_isLocal.keeps l hnone]

end Brackets
