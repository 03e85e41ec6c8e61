import Mathlib.Data.List.Basic
import Mathlib.Data.List.Induction

/-!
# Loops over a list

The rule of a loop over the first numbers, and of what one element of a list
brings about. Then a loop that keeps the least key met so far, where 0 stands
for none: with positive keys the mark is never mistaken for a key.
-/
namespace RuntimeMacro.Foundations.Scans

/-- Loop rule: one round takes the invariant from its index to the next. -/
theorem foldl_range {β : Type*} {body : β → Nat → β} {start : β} {count : Nat}
    (Inv : Nat → β → Prop) (initially : Inv 0 start)
    (each : ∀ index < count, ∀ value, Inv index value → Inv (index + 1) (body value index)) :
    Inv count ((List.range count).foldl body start) := by
  induction count with
  | zero => exact initially
  | succ count ih =>
    have before := ih fun index below => each index (by omega)
    rw [List.range_succ, List.foldl_append, List.foldl_cons, List.foldl_nil]
    exact each count (by omega) _ before

/-- What one element of a list brings about and the others keep holds after the
whole list. -/
theorem foldl_reaches {α β : Type*} {step : β → α → β} (Inv Goal : β → Prop) {element : α}
    {elements : List α} {start : β} (member : element ∈ elements) (initially : Inv start)
    (kept : ∀ b a, Inv b → Inv (step b a)) (reached : ∀ b, Inv b → Goal (step b element))
    (stays : ∀ b a, Inv b → Goal b → Goal (step b a)) : Goal (elements.foldl step start) := by
  obtain ⟨front, back, rfl⟩ := List.append_of_mem member
  rw [List.foldl_append, List.foldl_cons]
  have before : Inv (front.foldl step start) := by
    induction front using List.reverseRecOn with
    | nil => exact initially
    | append_singleton front last ih =>
      rw [List.foldl_append]
      exact kept _ _ (ih (by simp))
  have both : Inv (step (front.foldl step start) element) ∧
      Goal (step (front.foldl step start) element) := ⟨kept _ _ before, reached _ before⟩
  clear before
  generalize step (front.foldl step start) element = b at both
  clear member
  induction back generalizing b with
  | nil => exact both.2
  | cons a back ih =>
    rw [List.foldl_cons]
    exact ih _ ⟨kept _ _ both.1, stays _ _ both.1 both.2⟩

/-! ## The least key -/

variable {α : Type*} {present : α → Bool} {key : α → Int} {seen : List α} {least : Int} {x : α}

/-- One round: absent elements are passed over. -/
def round (present : α → Bool) (key : α → Int) (least : Int) (x : α) : Int :=
  if present x = false then least
  else if least = 0 ∨ key x < least then key x
  else least

/-- The least key among the members that are present, zero when there is none:
the loop that finds the earliest deadline. -/
def scan (present : α → Bool) (key : α → Int) (order : List α) : Int :=
  order.foldl (round present key) 0

/-- The mark, or the least key of what was seen. -/
def Least (present : α → Bool) (key : α → Int) (seen : List α) (least : Int) : Prop :=
  (least = 0 ∧ ∀ x ∈ seen, present x = false) ∨
    ((∃ x ∈ seen, present x = true ∧ key x = least) ∧
      ∀ x ∈ seen, present x = true → least ≤ key x)

/-- A member that is not present does not change the least key. -/
theorem Least.skip (found : Least present key seen least) (absent : present x = false) :
    Least present key (seen ++ [x]) least := by
  have last : ∀ other ∈ seen ++ [x], other ∈ seen ∨ present other = false := by
    intro other member
    rcases List.mem_append.mp member with before | here
    · exact Or.inl before
    · rw [List.mem_singleton.mp here]
      exact Or.inr absent
  rcases found with ⟨zero, none⟩ | ⟨⟨first, member, isPresent, attained⟩, bound⟩
  · refine Or.inl ⟨zero, fun other member => ?_⟩
    rcases last other member with before | missing
    · exact none other before
    · exact missing
  · refine Or.inr ⟨⟨first, List.mem_append_left _ member, isPresent, attained⟩, ?_⟩
    intro other member there
    rcases last other member with before | missing
    · exact bound other before there
    · exact absurd (missing.symm.trans there) (by decide)

theorem Least.take (found : Least present key seen least) (there : present x = true)
    (positive : ∀ other ∈ seen, present other = true → 0 < key other)
    (sooner : least = 0 ∨ key x < least) : Least present key (seen ++ [x]) (key x) := by
  refine Or.inr ⟨⟨x, by simp, there, rfl⟩, fun other member here => ?_⟩
  rcases List.mem_append.mp member with before | last
  · rcases found with ⟨_, none⟩ | ⟨⟨first, member, isPresent, attained⟩, bound⟩
    · exact absurd ((none other before).symm.trans here) (by decide)
    · have atMost := bound other before here
      have some := positive first member isPresent
      omega
  · have same := List.mem_singleton.mp last
    exact Int.le_of_eq (congrArg key same.symm)

theorem Least.stay (found : Least present key seen least)
    (later : ¬ (least = 0 ∨ key x < least)) : Least present key (seen ++ [x]) least := by
  rw [not_or, Int.not_lt] at later
  rcases found with ⟨zero, _⟩ | ⟨⟨first, member, isPresent, attained⟩, bound⟩
  · exact absurd zero later.1
  · refine Or.inr ⟨⟨first, List.mem_append_left _ member, isPresent, attained⟩, ?_⟩
    intro other member there
    rcases List.mem_append.mp member with before | last
    · exact bound other before there
    · rw [List.mem_singleton.mp last]
      exact later.2

theorem Least.round (found : Least present key seen least)
    (positive : ∀ other ∈ seen, present other = true → 0 < key other) (x : α) :
    Least present key (seen ++ [x]) (Scans.round present key least x) := by
  unfold Scans.round
  split
  next absent => exact found.skip absent
  next there =>
    rw [Bool.not_eq_false] at there
    split
    next sooner => exact found.take there positive sooner
    next later => exact found.stay later

/-- The loop finds the least key of the members present, given that keys are
positive: zero then means that there was none. -/
theorem scan_least {order : List α}
    (positive : ∀ x ∈ order, present x = true → 0 < key x) :
    Least present key order (scan present key order) := by
  have loop : ∀ (rest seen : List α) (least : Int),
      (∀ x ∈ seen ++ rest, present x = true → 0 < key x) → Least present key seen least →
      Least present key (seen ++ rest) (rest.foldl (Scans.round present key) least) := by
    intro rest
    induction rest with
    | nil =>
      intro seen least _ found
      simpa using found
    | cons x rest ih =>
      intro seen least positive found
      rw [List.append_cons, List.foldl_cons]
      apply ih
      · rw [← List.append_cons]
        exact positive
      · apply found.round
        intro other member
        exact positive other (List.mem_append_left _ member)
  exact loop order [] 0 positive (Or.inl ⟨rfl, by simp⟩)

end RuntimeMacro.Foundations.Scans
