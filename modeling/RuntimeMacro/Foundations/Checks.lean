import Mathlib.Data.List.Basic

/-!
# Ordered validation

A validation is a list of conditions to refuse on, each with its error, in the
order in which they are tried. The first condition that holds decides.
-/
namespace RuntimeMacro.Foundations.Checks

variable {ε : Type*}

def firstFailure : List (Bool × ε) → Option ε
  | [] => none
  | (refused, error) :: later => if refused then some error else firstFailure later

@[simp] theorem firstFailure_nil : firstFailure ([] : List (Bool × ε)) = none := rfl

@[simp] theorem firstFailure_cons_eq_none {refused : Bool} {error : ε} {later : List (Bool × ε)} :
    firstFailure ((refused, error) :: later) = none ↔
      refused = false ∧ firstFailure later = none := by
  cases refused <;> simp [firstFailure]

/-- The error of a refusal is one of the errors listed. -/
theorem firstFailure_mem {checks : List (Bool × ε)} {error : ε}
    (refused : firstFailure checks = some error) : error ∈ checks.map Prod.snd := by
  induction checks with
  | nil => cases refused
  | cons check later ih =>
    obtain ⟨condition, first⟩ := check
    unfold firstFailure at refused
    split at refused
    · cases refused
      simp
    · exact List.mem_cons_of_mem _ (ih refused)

/-- An error that no check is listed with is never the outcome. -/
theorem firstFailure_ne {checks : List (Bool × ε)} {error other : ε}
    (refused : firstFailure checks = some error) (absent : other ∉ checks.map Prod.snd) :
    error ≠ other := by
  rintro rfl
  exact absent (firstFailure_mem refused)

end RuntimeMacro.Foundations.Checks
