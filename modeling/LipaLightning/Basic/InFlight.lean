import Mathlib.Data.List.Basic

set_option autoImplicit false

/-! # Values in flight

Parties, each in a state of its own, carry a value at most: a party that is given one carries it
until it delivers it. `carried p states` lists what the parties carry, in their order.

What was delivered and what is carried is what was given, whatever party moves (`perm_set`), and
in the order in which it was given as long as no other party carries anything (`eq_set`).
-/

namespace InFlight

open List

variable {ι β : Type*} (p : ι → Option β) {states : List ι} {i : ℕ} {x y : ι}
  {given delivered a b : List β}

/-- What the parties carry. -/
def carried (states : List ι) : List β := states.filterMap p

theorem carried_cons (x : ι) (states : List ι) :
    carried p (x :: states) = (p x).toList ++ carried p states := by
  unfold carried
  rw [List.filterMap_cons]
  cases p x <;> rfl

theorem carried_append (states₁ states₂ : List ι) :
    carried p (states₁ ++ states₂) = carried p states₁ ++ carried p states₂ :=
  List.filterMap_append

theorem filterMap_concat (states : List ι) (x : ι) :
    (states ++ [x]).filterMap p = states.filterMap p ++ (p x).toList := by
  rw [List.filterMap_append, List.filterMap_cons]
  cases p x <;> rfl

/-- A party that carries nothing. -/
theorem carried_concat (states : List ι) (hx : p x = none) :
    carried p (states ++ [x]) = carried p states := by
  unfold carried
  rw [filterMap_concat, hx, Option.toList_none, List.append_nil]

theorem carried_eq_nil (hnone : ∀ x ∈ states, p x = none) : carried p states = [] :=
  List.filterMap_eq_nil_iff.mpr hnone

/-- What the party at `i` carries, and what the others do. -/
theorem carried_around (hi : states[i]? = some x) : ∃ before after, states = before ++ x :: after ∧
    before.length = i ∧ ∀ y, carried p (states.set i y) =
      carried p before ++ ((p y).toList ++ carried p after) := by
  obtain ⟨hlt, hx⟩ := List.getElem?_eq_some_iff.mp hi
  obtain ⟨before, after, hstates, hlength, -⟩ : ∃ before after,
      states = before ++ states[i] :: after ∧ before.length = i ∧
        states.set i x = before ++ x :: after := List.exists_of_set hlt
  rw [hx] at hstates
  refine ⟨before, after, hstates, hlength, fun y => ?_⟩
  have hset : states.set i y = before ++ y :: after := by
    rw [hstates, List.set_append_right i y (by omega), hlength, Nat.sub_self]
    rfl
  rw [hset, carried_append, carried_cons]

/-- The party at `i` is given `a`, delivers `b` and carries the rest: nothing is lost and nothing
is there twice. -/
theorem perm_set (hi : states[i]? = some x) (h : delivered ++ carried p states ~ given)
    (hmove : b ++ (p y).toList ~ (p x).toList ++ a) :
    delivered ++ b ++ carried p (states.set i y) ~ given ++ a := by
  obtain ⟨before, after, hstates, -, hset⟩ := carried_around p hi
  rw [hstates, carried_append, carried_cons] at h
  rw [hset]
  calc delivered ++ b ++ (carried p before ++ ((p y).toList ++ carried p after))
    _ ~ delivered ++ (b ++ (p y).toList ++ (carried p before ++ carried p after)) := by
        rw [List.append_assoc, List.append_assoc]
        exact ((List.perm_append_comm_assoc _ _ _).append_left b).append_left delivered
    _ ~ delivered ++ ((p x).toList ++ a ++ (carried p before ++ carried p after)) :=
        (hmove.append_right _).append_left delivered
    _ ~ delivered ++ ((p x).toList ++ (carried p before ++ carried p after) ++ a) := by
        rw [List.append_assoc (p x).toList a, List.append_assoc (p x).toList _ a]
        exact (List.perm_append_comm.append_left _).append_left delivered
    _ ~ delivered ++ (carried p before ++ ((p x).toList ++ carried p after)) ++ a := by
        rw [List.append_assoc delivered _ a]
        exact ((List.perm_append_comm_assoc _ _ _).append_right a).append_left delivered
    _ ~ given ++ a := h.append_right a

/-- If only the party at `i` carries anything, what is delivered keeps the order. -/
theorem eq_set (hi : states[i]? = some x)
    (halone : ∀ j z, states[j]? = some z → j ≠ i → p z = none)
    (h : delivered ++ carried p states = given)
    (hmove : b ++ (p y).toList = (p x).toList ++ a) :
    delivered ++ b ++ carried p (states.set i y) = given ++ a := by
  obtain ⟨before, after, hstates, hlength, hset⟩ := carried_around p hi
  have hbefore : carried p before = [] := by
    refine carried_eq_nil p fun z hz => ?_
    obtain ⟨j, hj⟩ := List.mem_iff_getElem?.mp hz
    have hlt : j < before.length := (List.getElem?_eq_some_iff.mp hj).1
    apply halone j z
    · rw [hstates, List.getElem?_append_left hlt, hj]
    · omega
  have hafter : carried p after = [] := by
    refine carried_eq_nil p fun z hz => ?_
    obtain ⟨j, hj⟩ := List.mem_iff_getElem?.mp hz
    apply halone (before.length + (j + 1)) z
    · rw [hstates, List.getElem?_append_right (by omega), Nat.add_sub_cancel_left,
        List.getElem?_cons_succ, hj]
    · omega
  rw [hstates, carried_append, carried_cons, hbefore, hafter, List.nil_append,
    List.append_nil] at h
  rw [hset, hbefore, hafter, List.nil_append, List.append_nil, List.append_assoc, hmove,
    ← List.append_assoc, h]

end InFlight
