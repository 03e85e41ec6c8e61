import RuntimeMacro.Foundations.Runs
import Mathlib.Logic.Function.Basic

/-!
# Write-through under a lock

Cells in memory, each with a copy in storage. A writer takes a lock, publishes
its value in memory, writes the copy, which may fail, and gives the lock back.
Memory holds the value published last; and while nobody has the lock, a cell
whose last write succeeded agrees with its copy.
-/
namespace RuntimeMacro.Foundations.WriteThrough
open Runs

variable {τ κ ν : Type*} [DecidableEq κ]

/-- A value for a key. -/
structure Write (κ ν : Type*) where
  key : κ
  value : ν

/-- How far the writer with the lock is. -/
inductive Stage (κ ν : Type*) where
  | taken (write : Write κ ν)
  | published (write : Write κ ν)
  | stored (write : Write κ ν) (succeeded : Bool)

/-- The fast copy and the slow one, and who holds the lock at which stage of a
write. -/
structure State (τ κ ν : Type*) where
  memory : κ → ν
  storage : κ → ν
  lock : Option (τ × Stage κ ν)

/-- The four steps of a write, each with its thread. A store can fail. -/
inductive Event (τ κ ν : Type*) where
  | take (thread : τ) (write : Write κ ν)
  | publish (thread : τ) (write : Write κ ν)
  | store (thread : τ) (write : Write κ ν) (succeeded : Bool)
  | release (thread : τ) (write : Write κ ν) (succeeded : Bool)

/-- A write takes the lock, changes memory, then storage, then lets go. A
failed store leaves storage as it was, and memory with the new value. -/
def Step (s : State τ κ ν) : Event τ κ ν → State τ κ ν → Prop
  | .take thread write, s' => s.lock = none ∧ s' = { s with lock := some (thread, .taken write) }
  | .publish thread write, s' => s.lock = some (thread, .taken write) ∧ s' = { s with
      memory := Function.update s.memory write.key write.value
      lock := some (thread, .published write) }
  | .store thread write succeeded, s' => s.lock = some (thread, .published write) ∧ s' = { s with
      storage := if succeeded then Function.update s.storage write.key write.value else s.storage
      lock := some (thread, .stored write succeeded) }
  | .release thread write succeeded, s' =>
    s.lock = some (thread, .stored write succeeded) ∧ s' = { s with lock := none }

/-! ## What a history says of a cell -/

/-- The value an event publishes in the cell. -/
def publishes (key : κ) : Event τ κ ν → Option ν
  | .publish _ write => if write.key = key then some write.value else none
  | _ => none

/-- The outcome of a write of the cell that ends with the event. -/
def finishes (key : κ) : Event τ κ ν → Option Bool
  | .release _ write succeeded => if write.key = key then some succeeded else none
  | _ => none

/-- The value published last. -/
def latestValue (key : κ) (history : List (Event τ κ ν)) : Option ν :=
  (history.filterMap (publishes key)).getLast?

/-- The outcome of the last write that has ended. -/
def latestOutcome (key : κ) (history : List (Event τ κ ν)) : Option Bool :=
  (history.filterMap (finishes key)).getLast?

theorem latest_snoc {ε α : Type*} (reads : ε → Option α) (history : List ε) (event : ε) :
    ((history ++ [event]).filterMap reads).getLast? =
      (reads event).or (history.filterMap reads).getLast? := by
  rw [List.filterMap_append]
  cases read : reads event with
  | none => simp [read]
  | some value => simp [read]

section Invariant
variable {initial : κ → ν} {history : List (Event τ κ ν)} {s s' start : State τ κ ν}
  {event : Event τ κ ν}

/-- The copy of the cell is up to date: the write in progress is not ahead of
it, and the last one to reach storage succeeded. -/
def Settled (history : List (Event τ κ ν)) (s : State τ κ ν) (key : κ) : Prop :=
  match s.lock with
  | none | some (_, .taken _) => latestOutcome key history = some true
  | some (_, .published write) => write.key ≠ key ∧ latestOutcome key history = some true
  | some (_, .stored write succeeded) =>
    if write.key = key then succeeded = true else latestOutcome key history = some true

/-- What a history says about both copies. Memory has the latest value
published for each key; storage agrees with it wherever the last write is over
and was stored. -/
structure Inv (initial : κ → ν) (history : List (Event τ κ ν)) (s : State τ κ ν) : Prop where
  memory : ∀ key, s.memory key = (latestValue key history).getD (initial key)
  own : ∀ thread write, s.lock = some (thread, .published write) →
    s.memory write.key = write.value
  agreed : ∀ key, Settled history s key → s.storage key = s.memory key

theorem Inv.init (start : State τ κ ν) (free : start.lock = none) :
    Inv start.memory [] start := by
  refine ⟨fun _ => rfl, fun thread write held => ?_, fun key settled => ?_⟩
  · rw [free] at held
    cases held
  · rw [Settled, free] at settled
    cases settled

/-- An event that publishes nothing leaves what was published last. -/
theorem latestValue_quiet {key : κ} (quiet : publishes key event = none) :
    latestValue key (history ++ [event]) = latestValue key history := by
  rw [latestValue, latest_snoc, quiet]
  rfl

theorem latestOutcome_quiet {key : κ} (quiet : finishes key event = none) :
    latestOutcome key (history ++ [event]) = latestOutcome key history := by
  rw [latestOutcome, latest_snoc, quiet]
  rfl

/-- One case a step. Only the publication changes memory and only the store
changes storage, both for the key of the write that holds the lock. -/
theorem Inv.step (inv : Inv initial history s) (step : Step s event s') :
    Inv initial (history ++ [event]) s' := by
  cases event with
  | take thread write =>
    obtain ⟨free, rfl⟩ := step
    refine ⟨fun key => ?_, fun _ _ held => (by cases held), fun key settled => ?_⟩
    · rw [latestValue_quiet rfl]
      exact inv.memory key
    · rw [Settled, latestOutcome_quiet rfl] at settled
      apply inv.agreed key
      rw [Settled, free]
      exact settled
  | publish thread write =>
    obtain ⟨held, rfl⟩ := step
    refine ⟨fun key => ?_, fun _ _ held => ?_, fun key settled => ?_⟩
    · by_cases here : write.key = key
      · subst here
        simp [latestValue, publishes]
      · rw [latestValue_quiet (by simp [publishes, here]), ← inv.memory key]
        exact Function.update_of_ne (Ne.symm here) _ _
    · cases held
      exact Function.update_self ..
    · rw [Settled, latestOutcome_quiet rfl] at settled
      obtain ⟨different, succeeded⟩ := settled
      have before : s.storage key = s.memory key := by
        apply inv.agreed key
        rw [Settled, held]
        exact succeeded
      exact before.trans (Function.update_of_ne (Ne.symm different) _ _).symm
  | store thread write succeeded =>
    obtain ⟨held, rfl⟩ := step
    refine ⟨fun key => ?_, fun _ _ held => (by cases held), fun key settled => ?_⟩
    · rw [latestValue_quiet rfl]
      exact inv.memory key
    · rw [Settled, latestOutcome_quiet rfl] at settled
      dsimp only at settled ⊢
      by_cases here : write.key = key
      · subst here
        rw [if_pos rfl] at settled
        rw [if_pos settled, Function.update_self]
        exact (inv.own thread write held).symm
      · rw [if_neg here] at settled
        have before : s.storage key = s.memory key := by
          apply inv.agreed key
          rw [Settled, held]
          exact ⟨here, settled⟩
        rw [← before]
        split
        · exact Function.update_of_ne (Ne.symm here) _ _
        · rfl
  | release thread write succeeded =>
    obtain ⟨held, rfl⟩ := step
    refine ⟨fun key => ?_, fun _ _ held => (by cases held), fun key settled => ?_⟩
    · rw [latestValue_quiet rfl]
      exact inv.memory key
    · apply inv.agreed key
      rw [Settled] at settled
      rw [Settled, held]
      by_cases here : write.key = key
      · simpa [latestOutcome, latest_snoc, finishes, here] using settled
      · simp only [here, if_false]
        rwa [latestOutcome_quiet (by simp [finishes, here])] at settled

theorem run_inv (run : Run Step start history s) (free : start.lock = none) :
    Inv start.memory history s :=
  run.history (fun history s => Inv start.memory history s) (Inv.init start free)
    fun _ _ _ _ _ inv step => inv.step step

/-- Memory holds what was published last. -/
theorem run_memory (run : Run Step start history s) (free : start.lock = none) (key : κ) :
    s.memory key = (latestValue key history).getD (start.memory key) :=
  (run_inv run free).memory key

/-- While the lock is free, a cell whose last write succeeded agrees with its
copy. -/
theorem run_agreed (run : Run Step start history s) (free : start.lock = none)
    (quiet : s.lock = none) {key : κ} (succeeded : latestOutcome key history = some true) :
    s.storage key = s.memory key := by
  apply (run_inv run free).agreed key
  rw [Settled, quiet]
  exact succeeded

end Invariant

end RuntimeMacro.Foundations.WriteThrough
