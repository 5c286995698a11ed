set_option autoImplicit false

/-! # Errors

The error type of the `perro` crate and the error codes of the library. An error of the
source carries the message it is built with; the text of the underlying cause, which
`perro` appends to it, is left out.
-/

namespace LipaLightning

/-- `perro::Error`. -/
inductive Error (code : Type) where
  | invalidInput (msg : String)
  | runtimeError (code : code) (msg : String)
  | permanentFailure (msg : String)
  deriving DecidableEq, Repr

/-- A code that specifies the runtime error that occurred. -/
inductive RuntimeErrorCode where
  | authServiceUnavailable
  | offerServiceUnavailable
  | lspServiceUnavailable
  | backupServiceUnavailable
  | backupNotFound
  | nodeUnavailable
  deriving DecidableEq, Repr

/-- `crate::errors::Result`. -/
abbrev Result (α : Type) := Except (Error RuntimeErrorCode) α

/-- The call returned `Ok`. -/
def succeeded {ε α : Type} (r : Except ε α) : Bool :=
  match r with
  | .ok _ => true
  | .error _ => false

@[simp] theorem succeeded_ok {ε α : Type} (a : α) : succeeded (.ok a : Except ε α) = true := rfl

@[simp] theorem succeeded_error {ε α : Type} (e : ε) :
    succeeded (.error e : Except ε α) = false := rfl

theorem succeeded_iff {ε α : Type} (r : Except ε α) : succeeded r = true ↔ ∃ a, r = .ok a := by
  cases r with
  | ok a => simp
  | error e => simp

/-- A bind that returns `Ok` has run both of its parts. -/
theorem bind_eq_ok {ε α β : Type} {x : Except ε α} {f : α → Except ε β} {b : β} :
    x >>= f = .ok b ↔ ∃ a, x = .ok a ∧ f a = .ok b := by
  cases x with
  | ok a => simp [bind, Except.bind]
  | error e => simp [bind, Except.bind]

/-- A list mapped to `Ok` consists of what its elements are mapped to. -/
theorem mem_mapM_ok {ε α β : Type} {f : α → Except ε β} {l : List α} {l' : List β}
    (h : l.mapM f = .ok l') {b : β} : b ∈ l' ↔ ∃ a ∈ l, f a = .ok b := by
  induction l generalizing l' with
  | nil =>
      rw [List.mapM_nil] at h
      obtain rfl : [] = l' := Except.ok.inj h
      simp
  | cons a l ih =>
      rw [List.mapM_cons] at h
      obtain ⟨c, hc, h⟩ := bind_eq_ok.mp h
      obtain ⟨cs, hcs, h⟩ := bind_eq_ok.mp h
      obtain rfl : c :: cs = l' := Except.ok.inj h
      rw [List.mem_cons, ih hcs]
      constructor
      · rintro (rfl | ⟨a', ha', hfa'⟩)
        · exact ⟨a, List.mem_cons_self, hc⟩
        · exact ⟨a', List.mem_cons_of_mem a ha', hfa'⟩
      · rintro ⟨a', ha', hfa'⟩
        rcases List.mem_cons.mp ha' with rfl | ha'
        · exact .inl (Except.ok.inj (hfa'.symm.trans hc))
        · exact .inr ⟨a', ha', hfa'⟩

/-- A list all of whose elements are mapped to `Ok`. -/
theorem mapM_ok {α β ε : Type} {f : α → Except ε β} {g : α → β} {l : List α}
    (h : ∀ a ∈ l, f a = .ok (g a)) : l.mapM f = .ok (l.map g) := by
  induction l with
  | nil => rfl
  | cons a l ih =>
      rw [List.mapM_cons, h a List.mem_cons_self, ih fun b hb => h b (List.mem_cons_of_mem a hb)]
      rfl

/-- Mapping a list to `Ok` needs every element to be. -/
theorem ok_of_mapM_ok {α β ε : Type} {f : α → Except ε β} {l : List α} {l' : List β}
    (h : l.mapM f = .ok l') : ∀ a ∈ l, ∃ b, f a = .ok b := by
  induction l generalizing l' with
  | nil => exact fun a ha => nomatch ha
  | cons a l ih =>
      rw [List.mapM_cons] at h
      obtain ⟨b, hb, h⟩ := bind_eq_ok.mp h
      obtain ⟨bs, hbs, -⟩ := bind_eq_ok.mp h
      intro a' ha'
      rcases List.mem_cons.mp ha' with rfl | ha'
      · exact ⟨b, hb⟩
      · exact ih hbs a' ha'

/-! ## Checks and conversions -/

/-- `perro::ensure!`. -/
def ensure {ε : Type} (condition : Prop) [Decidable condition] (error : ε) : Except ε Unit :=
  if condition then .ok () else .error error

/-- `perro::MapToError::map_to_runtime_error`. -/
def mapToRuntimeError {ε α : Type} (result : Except ε α) (code : RuntimeErrorCode)
    (message : String) : Result α :=
  result.mapError fun _ => .runtimeError code message

/-- `perro::MapToError::map_to_permanent_failure`. -/
def mapToPermanentFailure {ε α : Type} (result : Except ε α) (message : String) : Result α :=
  result.mapError fun _ => .permanentFailure message

/-- `perro::MapToError::map_to_invalid_input`. -/
def mapToInvalidInput {ε α : Type} (result : Except ε α) (message : String) : Result α :=
  result.mapError fun _ => .invalidInput message

@[simp] theorem ensure_eq_ok {ε : Type} (condition : Prop) [Decidable condition] (error : ε)
    (u : Unit) : ensure condition error = .ok u ↔ condition := by
  unfold ensure
  split <;> simp_all

@[simp] theorem mapError_eq_ok {ε ε' α : Type} (f : ε → ε') (result : Except ε α) (a : α) :
    result.mapError f = .ok a ↔ result = .ok a := by
  cases result with
  | ok b =>
      show (.ok b : Except ε' α) = .ok a ↔ (.ok b : Except ε α) = .ok a
      rw [Except.ok.injEq, Except.ok.injEq]
  | error e => exact iff_of_false nofun nofun

@[simp] theorem mapToRuntimeError_ok {ε α : Type} (code : RuntimeErrorCode) (message : String)
    (a : α) : mapToRuntimeError (.ok a : Except ε α) code message = .ok a := rfl

@[simp] theorem mapToRuntimeError_eq_ok {ε α : Type} (result : Except ε α)
    (code : RuntimeErrorCode) (message : String) (a : α) :
    mapToRuntimeError result code message = .ok a ↔ result = .ok a := by
  simp [mapToRuntimeError]

@[simp] theorem mapToPermanentFailure_eq_ok {ε α : Type} (result : Except ε α) (message : String)
    (a : α) : mapToPermanentFailure result message = .ok a ↔ result = .ok a := by
  simp [mapToPermanentFailure]

@[simp] theorem mapToInvalidInput_eq_ok {ε α : Type} (result : Except ε α) (message : String)
    (a : α) : mapToInvalidInput result message = .ok a ↔ result = .ok a := by
  simp [mapToInvalidInput]

end LipaLightning
