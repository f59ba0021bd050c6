import Colloquy.Failure

/-!
# Steps that may fail

When a chain of steps comes to a value.
-/

namespace Colloquy

/-- A bind that comes to a value has one in both of its halves. -/
theorem bind_eq_ok_iff
    {ε α β : Type} {first : Except ε α} {next : α → Except ε β} {value : β} :
    (first >>= next) = .ok value ↔
      ∃ found, first = .ok found ∧ next found = .ok value := by
  cases first with
  | error error =>
      simp [bind, Except.bind]
  | ok found =>
      simp [bind, Except.bind]

@[simp]
theorem mapError_ok {ε ε' α : Type} (change : ε → ε') (found : α) :
    (Except.ok found).mapError change = .ok found :=
  rfl

/-- Changing errors makes no difference to what succeeds. -/
theorem mapError_eq_ok_iff
    {ε ε' α : Type} {change : ε → ε'} {outcome : Except ε α} {value : α} :
    outcome.mapError change = .ok value ↔ outcome = .ok value := by
  cases outcome with
  | error error =>
      have failed :
          (Except.error error : Except ε α).mapError change = .error (change error) :=
            rfl
      simp [failed]
  | ok found =>
      simp

@[simp]
theorem doing_ok {α : Type} (context : String) (found : α) :
    doing context (.ok found) = .ok found :=
  rfl

@[simp]
theorem doing_error {α : Type} (context : String) (fault : Storage.Fault) :
    doing context (.error fault : Except Storage.Fault α) =
      .error { contexts := [context], cause := .storage fault } :=
  rfl

/-- Telling what was being done does not change what it comes to. -/
theorem doing_eq_ok_iff
    {α : Type} {context : String} {outcome : Except Storage.Fault α} {value : α} :
    doing context outcome = .ok value ↔ outcome = .ok value := by
  cases outcome with
  | error fault =>
      simp
  | ok found =>
      simp

end Colloquy
