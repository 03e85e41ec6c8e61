import RuntimeMacro.Source.HidTransport
import Mathlib.Tactic.Linarith

/-!
# The deadline of an exchange

tools/runtime_macro_cli.py:446-463. The deadline is fixed when the request has
been written. Stale responses are skipped but do not move it: no read begins at
the deadline or later, and none that has begun ends more than one millisecond
after it. The deadline itself is off by the rounding of the floating point
numbers it is computed with.
-/
namespace RuntimeMacro.Guarantees.ExchangeDeadline
open Source Source.HidTransport Foundations.Rounding
open RuntimeMacroClient (ClientError answersTo)

/-- A turn, and when its read returned, on the scale of the clock. -/
structure Timed extends Turn where
  returned : ℚ

/-- The clock does not go back, a read takes at least `least` seconds and at
most its wait. -/
def Punctual (least : ℚ) (deadline : Seconds) : ℚ → List Timed → Prop
  | _, [] => True
  | now, turn :: turns => now ≤ turn.clock.value ∧ turn.clock.value + least ≤ turn.returned ∧
      turn.returned ≤ turn.clock.value + waitMs (deadline - turn.clock) / 1000 ∧
      Punctual least deadline turn.returned turns

/-- The loop has skipped some turns and ended with another one. A read returns
less than a millisecond after the deadline, unless a 2^51st of the time that
was left is more. -/
structure Concluded (frame : Frame) (deadline : Seconds) (start least : ℚ) (turns : List Timed)
    (outcome : Except ClientError Frame) (rest : List Turn) (skipped : List Timed)
    (turn : Timed) (later : List Timed) : Prop where
  split : turns = skipped ++ turn :: later
  left : rest = later.map Timed.toTurn
  stale : ∀ turn ∈ skipped, Stale frame deadline turn.toTurn
  decides : Decides frame deadline turn.toTurn outcome
  prompt : ∀ other ∈ skipped ++ [turn], other.clock < deadline → other.returned <
    deadline.value + max (1 / 1000) ((deadline.value - other.clock.value) / 2 ^ 51)
  lapse : skipped.length * least ≤ turn.clock.value - start

variable {least now : ℚ} {deadline start : Seconds} {turns skipped later : List Timed}
  {turn : Timed} {frame : Frame} {outcome : Except ClientError Frame} {rest : List Turn}

theorem Punctual.prompt (punctual : Punctual least deadline now turns) :
    ∀ turn ∈ turns, turn.clock < deadline → turn.returned <
      deadline.value + max (1 / 1000) ((deadline.value - turn.clock.value) / 2 ^ 51) := by
  induction turns generalizing now with
  | nil => simp
  | cons first turns ih =>
    obtain ⟨_, _, within, after⟩ := punctual
    intro turn member early
    rcases List.mem_cons.mp member with rfl | later
    · exact within.trans_lt (wait_ends early)
    · exact ih after turn later early

/-- The time that the turns before one of them have taken. -/
theorem Punctual.lapse
    (punctual : Punctual least deadline now (skipped ++ turn :: later)) :
    now + skipped.length * least ≤ turn.clock.value := by
  induction skipped generalizing now with
  | nil => simpa using punctual.1
  | cons first skipped ih =>
    obtain ⟨begun, taken, _, after⟩ := punctual
    have next := ih after
    rw [List.length_cons]
    push_cast
    linarith

theorem exchange_written {timeoutMs : Int} {written : Written} (sent : writeFrame written = .ok ())
    (start : Seconds) (turns : List Turn) : exchange frame timeoutMs written start turns =
      awaitResponse frame (HidTransport.deadline start timeoutMs) turns := by
  rw [exchange, sent]

/-- A loop that ends has ended with its first turn that is not stale. -/
theorem Punctual.concluded (punctual : Punctual least deadline start.value turns)
    (ended : awaitResponse frame deadline (turns.map Timed.toTurn) = some (outcome, rest)) :
    ∃ skipped turn later,
      Concluded frame deadline start.value least turns outcome rest skipped turn later := by
  obtain ⟨earlier, last, split, stale, decides⟩ := awaitResponse_eq_some_iff.mp ended
  obtain ⟨skipped, others, rfl, rfl, shape⟩ := List.map_eq_append_iff.mp split
  obtain ⟨turn, later, rfl, rfl, rfl⟩ := List.map_eq_cons_iff.mp shape
  refine ⟨skipped, turn, later, rfl, rfl, fun turn member => stale _ (List.mem_map_of_mem member),
    decides, ?_, ?_⟩
  · intro other member
    apply punctual.prompt other
    rw [List.append_cons]
    exact List.mem_append_left _ member
  · have := punctual.lapse
    linarith

/-- A loop that still runs has been at it for less than the time to the
deadline. -/
theorem Punctual.running (punctual : Punctual least deadline start.value (skipped ++ [turn]))
    (running : awaitResponse frame deadline ((skipped ++ [turn]).map Timed.toTurn) = none) :
    skipped.length * least < deadline.value - start.value := by
  have last := awaitResponse_eq_none_iff.mp running turn.toTurn (List.mem_map_of_mem (by simp))
  have lapse := punctual.lapse
  have early : turn.clock.value < deadline.value := last.early
  linarith

/-- An exchange ends with the first report that is not stale. Whatever arrives,
its reads are over a millisecond after the deadline, but for rounding, and it
ends before its turns would fill the timeout; the deadline is the timeout from
the start, but for rounding. -/
theorem exchange_keeps_deadline (frame : Frame) (timeoutMs : Int) (written : Written)
    (start : Seconds) (least : ℚ) (turns : List Timed) (sent : writeFrame written = .ok ())
    (punctual : Punctual least (HidTransport.deadline start timeoutMs) start.value turns) :
    (∀ outcome rest, exchange frame timeoutMs written start (turns.map Timed.toTurn) =
        some (outcome, rest) →
      ∃ skipped turn later, Concluded frame (HidTransport.deadline start timeoutMs) start.value
        least turns outcome rest skipped turn later) ∧
    (∀ skipped turn, turns = skipped ++ [turn] →
      (max 0 timeoutMs : Int) / 1000 + (|start.value| + (max 0 timeoutMs : Int) / 1000) / 2 ^ 51 ≤
        skipped.length * least →
      exchange frame timeoutMs written start (turns.map Timed.toTurn) ≠ none) ∧
    |(HidTransport.deadline start timeoutMs).value -
        (start.value + (max 0 timeoutMs : Int) / 1000)| ≤
      (|start.value| + (max 0 timeoutMs : Int) / 1000) / 2 ^ 51 := by
  have error := deadline_error start timeoutMs
  rw [exchange_written sent]
  refine ⟨fun outcome rest ended => punctual.concluded ended, ?_, error⟩
  rintro skipped turn rfl enough running
  have short := punctual.running running
  rw [abs_le] at error
  linarith

/-- A stale report, then the answer 20 ms later. -/
theorem exchange_keeps_deadline_sample :
    ∃ skipped turn later, Concluded (Frame.build .list 7 0xFF 0 0 [])
      (HidTransport.deadline (.ofInt 0) 1000) 0 (1 / 1000)
      [⟨⟨.ofInt 0, .returned (inputReport (Frame.build .list 6 0xFF 0 0 []))⟩, 1 / 100⟩,
        ⟨⟨.ofRat _ (1 / 50), .returned (inputReport (Frame.build .list 7 0xFF 0 0 []))⟩, 3 / 100⟩]
      (.ok (Frame.build .list 7 0xFF 0 0 [])) [] skipped turn later := by
  have fits : answersTo (Frame.build .list 7 0xFF 0 0 []) (Frame.build .list 7 0xFF 0 0 []) =
    true := by decide
  have misfit : answersTo (Frame.build .list 6 0xFF 0 0 []) (Frame.build .list 7 0xFF 0 0 []) =
    false := by decide
  have first := readFrame_eq_ok_iff.mpr (Or.inl (rfl : _ =
    Read.returned (inputReport (Frame.build .list 6 0xFF 0 0 []))))
  have second := readFrame_eq_ok_iff.mpr (Or.inl (rfl : _ =
    Read.returned (inputReport (Frame.build .list 7 0xFF 0 0 []))))
  have punctual : Punctual (1 / 1000) (HidTransport.deadline (.ofInt 0) 1000)
      (Floating.ofInt 0 : Seconds).value
      [⟨⟨.ofInt 0, .returned (inputReport (Frame.build .list 6 0xFF 0 0 []))⟩, 1 / 100⟩,
        ⟨⟨.ofRat _ (1 / 50), .returned (inputReport (Frame.build .list 7 0xFF 0 0 []))⟩,
          3 / 100⟩] := by
    refine ⟨?_, ?_, ?_, ?_, ?_, ?_, trivial⟩
    all_goals decide +kernel
  rw [← value_zero]
  apply (exchange_keeps_deadline (Frame.build .list 7 0xFF 0 0 []) 1000 (.returned 33) (.ofInt 0)
    (1 / 1000) _ rfl punctual).1
  rw [exchange_written rfl]
  apply awaitResponse_eq_some_iff.mpr
  refine ⟨[_], _, rfl, ?_, .answered ?_ second fits⟩
  · intro turn member
    rw [List.mem_singleton.mp member]
    refine ⟨?_, _, first, misfit⟩
    decide +kernel
  · decide +kernel

end RuntimeMacro.Guarantees.ExchangeDeadline
