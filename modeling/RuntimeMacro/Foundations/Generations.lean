import Mathlib.Data.UInt

/-!
# Generation counters

A stamp taken from a counter of 32 bits is compared later with the counter
itself. The two agree exactly when the counter has not moved in between, until
it has gone all the way round.
-/
namespace RuntimeMacro.Foundations.Generations

/-- The counter after `count` increments. -/
def advanced (stamp : UInt32) (count : Nat) : UInt32 := stamp + UInt32.ofNat count

@[simp] theorem advanced_zero (stamp : UInt32) : advanced stamp 0 = stamp := by
  simp [advanced]

theorem advanced_succ (stamp : UInt32) (count : Nat) :
    advanced stamp (count + 1) = advanced stamp count + 1 := by
  unfold advanced
  rw [UInt32.ofNat_add, ← UInt32.add_assoc]
  rfl

/-- The counter over a history, one event further. -/
theorem advanced_snoc {ε : Type*} {ticks : ε → Bool} {stamp now now' : UInt32} {since : List ε}
    {event : ε} (counted : now = advanced stamp (since.countP ticks))
    (moved : now' = if ticks event then now + 1 else now) :
    now' = advanced stamp ((since ++ [event]).countP ticks) := by
  rw [moved, counted, List.countP_append, List.countP_singleton]
  by_cases ticking : ticks event = true
  · rw [if_pos ticking, if_pos ticking, advanced_succ]
  · rw [if_neg ticking, if_neg ticking, Nat.add_zero]

/-- A stamp is current as long as the counter has not moved, and not again
before it wraps. -/
theorem advanced_eq_iff (stamp : UInt32) {count : Nat} (unwrapped : count < 2 ^ 32) :
    advanced stamp count = stamp ↔ count = 0 := by
  constructor
  · intro same
    have octets : UInt32.ofNat count = 0 := by
      simpa [advanced] using same
    have value : (UInt32.ofNat count).toNat = 0 := congrArg UInt32.toNat octets
    rwa [UInt32.toNat_ofNat', Nat.mod_eq_of_lt unwrapped] at value
  · rintro rfl
    exact advanced_zero stamp

/-- After as many increments as there are stamps the counter is back. -/
theorem advanced_wrap (stamp : UInt32) : advanced stamp (2 ^ 32) = stamp := by
  have around : UInt32.ofNat (2 ^ 32) = 0 := by decide
  rw [advanced, around, UInt32.add_zero]

end RuntimeMacro.Foundations.Generations
