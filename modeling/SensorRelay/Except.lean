/-! # Computations that may fail

A computation in `Except` stops at its first fault, and goes on with what it has found otherwise. So
a step whose result is known is taken off a sequence of them (`ok_bind`, `error_bind`), and a
sequence that has succeeded is taken apart into steps that have (`bind_eq_ok_iff`).
-/

namespace Except

universe u

variable {ε δ : Type} {α β : Type u}

section Steps

variable (x : Except ε α) (a : α) (fault : ε) (next : α → Except ε β) (f : α → β)

@[simp] theorem bind_eq_bind : x >>= next = x.bind next := rfl

@[simp] theorem map_eq_map : f <$> x = x.map f := rfl

@[simp] theorem pure_eq_ok : (pure a : Except ε α) = ok a := rfl

@[simp] theorem ok_bind : (ok a).bind next = next a := rfl

@[simp] theorem error_bind : (error fault).bind next = error fault := rfl

@[simp] theorem ok_map : (ok a : Except ε α).map f = ok (f a) := rfl

@[simp] theorem error_map : (error fault).map f = error fault := rfl

end Steps

variable {a : α} {b : β} {x : Except ε α}

theorem bind_eq_ok_iff {next : α → Except ε β} :
    x.bind next = ok b ↔ ∃ a, x = ok a ∧ next a = ok b := by
  cases x with
  | error fault => exact ⟨nofun, nofun⟩
  | ok a => simp

theorem map_eq_ok_iff {f : α → β} : x.map f = ok b ↔ ∃ a, x = ok a ∧ f a = b := by
  cases x with
  | error fault => exact ⟨nofun, nofun⟩
  | ok a => simp

theorem mapError_eq_ok_iff {f : ε → δ} : x.mapError f = ok a ↔ x = ok a := by
  cases x with
  | error fault => exact ⟨nofun, nofun⟩
  | ok a =>
    constructor
    · intro same
      cases same
      rfl
    · rintro ⟨⟩
      rfl

end Except
