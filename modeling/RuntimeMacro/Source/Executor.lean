import RuntimeMacro.Source.Ascii
import RuntimeMacro.Foundations.ByteBuffer

/-!
# Executor

runtime_macro_executor.c:32-191. One text at a time, typed key by key from its
own snapshot. `work` is the pending time of the work item; `scheduled` carries
what `k_work_schedule` or `k_work_reschedule` returned, which is negative on
failure.
-/
namespace RuntimeMacro.Source
open Foundations

def executorMaxTextLen : Nat := 512

/-- The next key event presses the key of the current byte, or releases it. -/
inductive ExecutorPhase where
  | press | release
  deriving DecidableEq, Repr

/-- `struct runtime_macro_executor_state` (runtime_macro_executor.c:37-43), the
busy flag and the work item. -/
structure Executor where
  text : List UInt8
  length : Nat
  index : Nat
  encoded : Nat
  phase : ExecutorPhase
  busy : Bool
  work : Bool

namespace Executor

/-- The executor at rest, with zeros in its buffer. -/
def idle : Executor :=
  ⟨List.replicate (executorMaxTextLen + 1) 0, 0, 0, 0, .press, false, false⟩

/-- `runtime_macro_executor_finish` (runtime_macro_executor.c:69-77). Nothing
of the text is left. -/
def finish (s : Executor) : Executor :=
  { s with text := List.replicate (executorMaxTextLen + 1) 0
           length := 0
           index := 0
           encoded := 0
           phase := .press
           busy := false }

/-- `zmk_runtime_macro_executor_start` (runtime_macro_executor.c:150-179) on
the first `length` bytes of `text`. The executor takes a snapshot; an empty
text is accepted and done at once. -/
def start (text : List UInt8) (length : Nat) (scheduled : Int) (s : Executor) : Int × Executor :=
  if length > executorMaxTextLen then (-einval, s)
  else if s.busy then (-ebusy, s)
  else
    let s := { s with busy := true }
    if length = 0 then (0, finish s)
    else
      let buffer := ByteBuffer.write s.text 0 (text.take length)
      let s := { s with text := ByteBuffer.write buffer length [0]
                        length := length
                        index := 0
                        phase := .press }
      if scheduled < 0 then (scheduled, finish s) else (0, { s with work := true })

/-- One run of `runtime_macro_executor_work_handler`
(runtime_macro_executor.c:99-148), with the key events it raises. A key that
went down goes up again also when the next run cannot be scheduled. -/
def workHandler (scheduled : Int) (s : Executor) : List (Nat × Bool) × Executor :=
  let s := { s with work := false }
  if s.busy = false then ([], s)
  else
    match s.phase with
    | .press =>
      match Ascii.asciiToKeycode (s.text.getD s.index 0) with
      | .error _ => ([], finish s)
      | .ok encoded =>
        let s := { s with encoded := encoded, phase := .release }
        if scheduled < 0 then ([(encoded, true), (encoded, false)], finish s)
        else ([(encoded, true)], { s with work := true })
    | .release =>
      let raised := [(s.encoded, false)]
      let s := { s with index := s.index + 1 }
      if s.index ≥ s.length then (raised, finish s)
      else
        let s := { s with phase := .press }
        if scheduled < 0 then (raised, finish s) else (raised, { s with work := true })

/-- The handler gets as far as `k_work_reschedule`. -/
def reschedules (s : Executor) : Bool :=
  s.busy && match s.phase with
    | .press => Ascii.byteIsValid (s.text.getD s.index 0)
    | .release => decide (s.index + 1 < s.length)

/-- No trace of a text is left. -/
structure Zeroed (s : Executor) : Prop where
  text : s.text = List.replicate (executorMaxTextLen + 1) 0
  length : s.length = 0
  index : s.index = 0
  encoded : s.encoded = 0

theorem finish_zeroed (s : Executor) : Zeroed (finish s) := ⟨rfl, rfl, rfl, rfl⟩

/-- A text fills the front of the buffer and is terminated. -/
theorem start_text {s : Executor} {text : List UInt8}
    (capacity : s.text.length = executorMaxTextLen + 1) (fits : text.length ≤ executorMaxTextLen) :
    (ByteBuffer.write (ByteBuffer.write s.text 0 text) text.length [0]).take text.length = text ∧
      (ByteBuffer.write (ByteBuffer.write s.text 0 text) text.length [0]).length =
        executorMaxTextLen + 1 := by
  have copied : (ByteBuffer.write s.text 0 text).length = executorMaxTextLen + 1 := by
    rw [ByteBuffer.write_length _ _ _ (by omega), capacity]
  constructor
  · rw [ByteBuffer.write_take_before _ _ _ (by omega), ByteBuffer.write_take_zero]
  · rw [ByteBuffer.write_length _ _ _ (by simp only [List.length_singleton]; omega), copied]

end Executor

end RuntimeMacro.Source
