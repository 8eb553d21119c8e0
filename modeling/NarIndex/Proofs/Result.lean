/-!
# NarIndex.Proofs.Result

Results that may be errors, taken apart: what the parts of a computation came to, once it is known
what the whole did.
-/

namespace NarIndex

variable {ε ε' α β : Type} {x : Except ε α}

/-- Two computations in a row succeed if both do. -/
theorem bind_eq_ok {f : α → Except ε β} {b : β} (h : x >>= f = .ok b) :
    ∃ a, x = .ok a ∧ f a = .ok b := by
  cases x with
  | error error => contradiction
  | ok a => exact ⟨a, rfl, h⟩

/-- Two computations in a row fail if the first does, or else if the second does. -/
theorem bind_eq_error {f : α → Except ε β} {error : ε} (h : x >>= f = .error error) :
    x = .error error ∨ ∃ a, x = .ok a ∧ f a = .error error := by
  cases x with
  | error first => exact .inl (congrArg Except.error (Except.error.inj h))
  | ok a => exact .inr ⟨a, rfl, h⟩

theorem map_eq_ok {f : α → β} {b : β} (h : x.map f = .ok b) : ∃ a, x = .ok a ∧ f a = b := by
  cases x with
  | error error => contradiction
  | ok a => exact ⟨a, rfl, Except.ok.inj h⟩

/-- Changing the value that comes out changes no error. -/
theorem map_eq_error {f : α → β} {error : ε} (h : x.map f = .error error) : x = .error error := by
  cases x with
  | error first => exact congrArg Except.error (Except.error.inj h)
  | ok a => contradiction

/-- Changing the error that comes out changes no value. -/
theorem mapError_eq_ok {f : ε → ε'} {a : α} (h : x.mapError f = .ok a) : x = .ok a := by
  cases x with
  | error first => contradiction
  | ok b => exact congrArg Except.ok (Except.ok.inj h)

theorem mapError_eq_error {f : ε → ε'} {error : ε'} (h : x.mapError f = .error error) :
    ∃ first, x = .error first ∧ f first = error := by
  cases x with
  | error first => exact ⟨first, rfl, Except.error.inj h⟩
  | ok a => contradiction

theorem toOption_eq_some_iff {a : α} : x.toOption = some a ↔ x = .ok a := by
  cases x <;> simp [Except.toOption]

/-- Of computations in a row, one fails if all of them together do. -/
theorem mapM_eq_error {f : α → Except ε β} {values : List α} {error : ε}
    (h : values.mapM f = .error error) : ∃ value ∈ values, f value = .error error := by
  induction values with
  | nil => contradiction
  | cons value values ih =>
    rw [List.mapM_cons] at h
    rcases bind_eq_error h with hvalue | ⟨b, -, h⟩
    · exact ⟨value, List.mem_cons_self, hvalue⟩
    · rcases bind_eq_error h with hvalues | ⟨bs, -, h⟩
      · obtain ⟨failing, hmem, hfails⟩ := ih hvalues
        exact ⟨failing, List.mem_cons_of_mem value hmem, hfails⟩
      · contradiction

/-- Computations in a row that all succeed. -/
theorem mapM_eq_map {f : α → Except ε β} {g : α → β} {values : List α}
    (h : ∀ value ∈ values, f value = .ok (g value)) : values.mapM f = .ok (values.map g) := by
  induction values with
  | nil => rfl
  | cons value values ih =>
    obtain ⟨hvalue, hvalues⟩ := List.forall_mem_cons.1 h
    rw [List.mapM_cons, hvalue, ih hvalues]
    rfl

/-- Of computations in a row, each succeeds if all of them together do. -/
theorem mapM_eq_ok {f : α → Except ε β} {values : List α} {results : List β}
    (h : values.mapM f = .ok results) : ∀ value ∈ values, ∃ b, f value = .ok b := by
  induction values generalizing results with
  | nil => simp
  | cons value values ih =>
    rw [List.mapM_cons] at h
    obtain ⟨b, hvalue, h⟩ := bind_eq_ok h
    obtain ⟨bs, hvalues, -⟩ := bind_eq_ok h
    exact List.forall_mem_cons.2 ⟨⟨b, hvalue⟩, ih hvalues⟩

end NarIndex
