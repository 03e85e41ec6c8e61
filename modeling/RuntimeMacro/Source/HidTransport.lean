import RuntimeMacro.Foundations.Rounding
import RuntimeMacro.Source.Client

/-!
# The HID transport of the client

tools/runtime_macro_cli.py:382-463. What the hidapi device does and what the
monotonic clock shows are inputs. A turn is one round of the loop in
`exchange`: it reads the clock, and the device if there is time left. Times are
seconds as a Python `float` holds them, and the integers that meet one are
converted first. A timeout from about 2^1024 ms on, for which that raises
`OverflowError`, is not modelled.
-/
namespace RuntimeMacro.Source.HidTransport
open Foundations.Rounding
open RuntimeMacroClient (ClientError answersTo)

/-- A Python `float` of seconds. -/
abbrev Seconds := Floating .binary64

/-- What `device.write` does. -/
inductive Written where
  | raised
  | returned (result : Int)

/-- What `device.read` does. It returns a list of numbers. -/
inductive Read where
  | raised
  | returned (data : List Int)

/-- What is written: hidapi takes the report id first. -/
def outputReport (frame : Frame) : List UInt8 := 0 :: frame.toList

theorem length_outputReport (frame : Frame) : (outputReport frame).length = 33 := by
  simp [outputReport]

/-- `write_frame` (runtime_macro_cli.py:409-421). -/
def writeFrame : Written → Except ClientError Unit
  | .raised => .error (.transportError .broken)
  | .returned result =>
    if result = 32 ∨ result = 33 then .ok () else .error (.transportError .broken)

/-- `bytes(data)`. -/
def toBytes (data : List Int) : Option (List UInt8) :=
  if ∀ value ∈ data, 0 ≤ value ∧ value ≤ 255 then
    some (data.map fun value => UInt8.ofNat value.toNat)
  else none

/-- 32 bytes are a frame. -/
def toFrame (raw : List UInt8) (sized : raw.length = 32) : Frame :=
  ⟨raw.toArray, by rw [List.size_toArray, sized]⟩

/-- `normalize_read` (runtime_macro_cli.py:423-435): hidapi may put the report
id in front. -/
def normalizeRead (data : List Int) : Except ClientError Frame :=
  match toBytes data with
  | none => .error (.protocolError
      "HID read returned non-byte data: bytes must be in range(0, 256)")
  | some raw =>
    if sized : raw.length = 32 then .ok (toFrame raw sized)
    else if sized : raw.length = 33 then
      if raw.head? = some 0 then .ok (toFrame raw.tail (by rw [List.length_tail, sized]))
      else .error (.protocolError "HID response has a non-zero report ID")
    else .error (.protocolError
      ("HID response has length " ++ toString raw.length ++ ", expected 32 or 33"))

/-- `read_frame` (runtime_macro_cli.py:437-444). -/
def readFrame : Read → Except ClientError Frame
  | .raised => .error (.transportError .broken)
  | .returned [] => .error (.transportError .timeoutError)
  | .returned data => normalizeRead data

/-- One turn of the loop in `exchange`: the clock is read, then the device. -/
structure Turn where
  clock : Seconds
  read : Read

/-- `self.clock() + max(0, timeout_ms) / 1000.0`. -/
def deadline (start : Seconds) (timeoutMs : Int) : Seconds :=
  start + .ofInt (max 0 timeoutMs) / .ofInt 1000

/-- `wait_ms`, the timeout of the read in a turn: `max(1, int(remaining *
1000))`. -/
def waitMs (remaining : Seconds) : Int := max 1 (remaining * .ofInt 1000).truncated

/-- The deadline of a 2 ms timeout is 4.002 rounded down, and the wait loses a
millisecond. -/
example : waitMs (deadline (.ofInt 4) 2 - .ofInt 4) = 1 := by decide +kernel

/-- The loop of `exchange`, with the turns that are left; none while it still
runs. -/
def awaitResponse (frame : Frame) (deadline : Seconds) :
    List Turn → Option (Except ClientError Frame × List Turn)
  | [] => none
  | turn :: rest =>
    if (deadline - turn.clock).value ≤ 0 then some (.error (.transportError .timeoutError), rest)
    else
      match readFrame turn.read with
      | .error error => some (.error error, rest)
      | .ok response =>
        if answersTo response frame then some (.ok response, rest)
        else awaitResponse frame deadline rest

/-- `exchange` (runtime_macro_cli.py:446-463); `start` is the reading of the
clock after the write. -/
def exchange (frame : Frame) (timeoutMs : Int) (written : Written) (start : Seconds)
    (turns : List Turn) : Option (Except ClientError Frame × List Turn) :=
  match writeFrame written with
  | .error error => some (.error error, turns)
  | .ok () => awaitResponse frame (deadline start timeoutMs) turns

/-! ## Times -/

theorem value_zero : (Floating.ofInt 0 : Seconds).value = 0 := by
  have exact : (Floating.ofInt 0 : Seconds).value = (0 : Int) :=
    Floating.value_ofInt (by decide) (by decide)
  exact_mod_cast exact

theorem value_thousand : (Floating.ofInt 1000 : Seconds).value = 1000 := by
  have exact : (Floating.ofInt 1000 : Seconds).value = (1000 : Int) :=
    Floating.value_ofInt (by decide) (by decide)
  exact_mod_cast exact

/-- What rounding adds to the deadline or takes from it. -/
theorem deadline_error (start : Seconds) (timeoutMs : Int) :
    |(deadline start timeoutMs).value - (start.value + (max 0 timeoutMs : Int) / 1000)| ≤
      (|start.value| + (max 0 timeoutMs : Int) / 1000) / 2 ^ 51 := by
  obtain ⟨timeout, same⟩ : ∃ timeout : Int, timeout = max 0 timeoutMs := ⟨_, rfl⟩
  have whole : 0 ≤ timeout := same ▸ le_max_left 0 timeoutMs
  have nonneg : (0 : ℚ) ≤ timeout := by exact_mod_cast whole
  rw [deadline, ← same, Floating.value_add, Floating.value_div, value_thousand]
  rw [show (Floating.ofInt timeout : Seconds).value = Format.binary64.rounded timeout from rfl]
  have converted : |Format.binary64.rounded timeout - timeout| ≤ |(timeout : ℚ)| / 2 ^ 53 :=
    (Format.OnGrid.of_int timeout (by decide)).rounded_error
  rw [abs_of_nonneg nonneg, abs_le] at converted
  have positive := Format.rounded_nonneg .binary64 nonneg
  have grid := Format.rounded_onGrid .binary64 (timeout : ℚ)
  generalize Format.binary64.rounded timeout = milliseconds at converted positive grid ⊢
  have divided : |Format.binary64.rounded (milliseconds / 1000) - milliseconds / 1000| ≤
      milliseconds / 1000 / 2 ^ 53 := by
    rcases whole.eq_or_lt with zero | some
    · have none : milliseconds = 0 := by
        rw [← zero] at converted
        norm_num at converted
        linarith
      rw [none, zero_div]
      have := (Format.OnGrid.of_int 0 (by decide) : Format.binary64.OnGrid _).rounded_error
      simpa using this
    · have one : (1 : ℚ) ≤ timeout := by exact_mod_cast some
      have size : |milliseconds / 1000| = milliseconds / 1000 := abs_of_nonneg (by positivity)
      have normal : (2 : ℚ) ^ (Format.binary64.least + Format.binary64.places - 1) ≤
          |milliseconds / 1000| := by
        rw [size]
        calc (2 : ℚ) ^ (Format.binary64.least + Format.binary64.places - 1) ≤ 2 ^ (-20 : ℤ) :=
              zpow_le_zpow_right₀ (by norm_num) (by decide)
          _ ≤ milliseconds / 1000 := by
            norm_num
            linarith
      have relative := Format.rounded_error_of_normal .binary64 normal
      rw [size] at relative
      exact relative
  have seconds := Format.rounded_onGrid .binary64 (milliseconds / 1000)
  have long := Format.rounded_nonneg .binary64 (div_nonneg positive (by norm_num : (0 : ℚ) ≤ 1000))
  generalize Format.binary64.rounded (milliseconds / 1000) = wait at divided seconds long ⊢
  have added := (start.value_onGrid.add seconds).rounded_error
  have total : |start.value + wait| ≤ |start.value| + wait := by
    have := abs_add_le start.value wait
    rwa [abs_of_nonneg long] at this
  have places : Format.binary64.places = 53 := rfl
  rw [places] at added
  have bound : |Format.binary64.rounded (start.value + wait) - (start.value + wait)| ≤
      (|start.value| + wait) / 2 ^ 53 :=
    added.trans (div_le_div_of_nonneg_right total (by positivity))
  have origin := abs_nonneg start.value
  rw [abs_le] at divided bound ⊢
  constructor <;> linarith

theorem deadline_pos {timeoutMs : Int} (positive : 0 < timeoutMs) :
    (.ofInt 0 : Seconds) < deadline (.ofInt 0) timeoutMs := by
  have error := deadline_error (.ofInt 0) timeoutMs
  have timeout : (0 : ℚ) < (max 0 timeoutMs : Int) := by
    rw [max_eq_right positive.le]
    exact_mod_cast positive
  rw [Floating.lt_iff, value_zero]
  rw [value_zero, abs_zero, zero_add, abs_le] at error
  linarith

/-- A wait ends less than a millisecond after the deadline, if not that much
time was left that the rounding counts for more. -/
theorem wait_ends {clock deadline : Seconds} (early : clock < deadline) :
    clock.value + waitMs (deadline - clock) / 1000 <
      deadline.value + max (1 / 1000) ((deadline.value - clock.value) / 2 ^ 51) := by
  have left : 0 < deadline.value - clock.value := sub_pos.mpr early
  have millisecond := le_max_left (1 / 1000 : ℚ) ((deadline.value - clock.value) / 2 ^ 51)
  have share := le_max_right (1 / 1000 : ℚ) ((deadline.value - clock.value) / 2 ^ 51)
  rcases le_total 1 ((deadline - clock) * .ofInt 1000).truncated with long | short
  · rw [waitMs, max_eq_right long]
    have grid := deadline.value_onGrid.sub clock.value_onGrid
    have remaining := grid.rounded_error
    have scaled := ((Format.rounded_onGrid .binary64 (deadline.value - clock.value)).mul_int
      1000).rounded_error
    have rest := Format.rounded_nonneg .binary64 left.le
    have product : ((deadline - clock) * .ofInt 1000).value = Format.binary64.rounded
        (Format.binary64.rounded (deadline.value - clock.value) * (1000 : Int)) := by
      rw [Floating.value_mul, Floating.value_sub, value_thousand]
      norm_num
    generalize Format.binary64.rounded (deadline.value - clock.value) = seconds
      at remaining scaled rest product
    have nonneg : 0 ≤ seconds * (1000 : Int) := mul_nonneg rest (by norm_num)
    have positive := Format.rounded_nonneg .binary64 nonneg
    have whole : (((deadline - clock) * .ofInt 1000).truncated : ℚ) ≤
        Format.binary64.rounded (seconds * (1000 : Int)) := by
      rw [Floating.truncated, product, if_pos positive]
      exact Int.floor_le _
    have places : Format.binary64.places = 53 := rfl
    rw [places, abs_of_pos left, abs_le] at remaining
    rw [places, abs_of_nonneg nonneg, abs_le] at scaled
    push_cast at scaled whole
    linarith
  · rw [waitMs, max_eq_left short]
    push_cast
    linarith

/-! ## Reports -/

/-- What hidapi hands over of a report that has no report id. -/
def inputReport (frame : Frame) : List Int := frame.toList.map fun byte => (byte.toNat : Int)

theorem toBytes_map (bytes : List UInt8) :
    toBytes (bytes.map fun byte => (byte.toNat : Int)) = some bytes := by
  unfold toBytes
  rw [if_pos]
  · rw [List.map_map, Option.some.injEq]
    calc bytes.map _ = bytes.map id := by
          apply List.map_congr_left
          intro byte _
          simp
      _ = bytes := List.map_id bytes
  · intro value member
    obtain ⟨byte, _, rfl⟩ := List.mem_map.mp member
    have := byte.toNat_lt
    omega

theorem toBytes_some {data : List Int} {raw : List UInt8} (converted : toBytes data = some raw) :
    data = raw.map fun byte => (byte.toNat : Int) := by
  unfold toBytes at converted
  split at converted
  next inside =>
    cases converted
    rw [List.map_map]
    symm
    calc data.map _ = data.map id := by
          apply List.map_congr_left
          intro value member
          obtain ⟨low, high⟩ := inside value member
          simp only [Function.comp_apply, UInt8.toNat_ofNat', id_eq]
          omega
      _ = data := List.map_id data
  · cases converted

/-- A read yields a frame exactly when it returned the bytes of it, perhaps
after a zero. -/
theorem readFrame_eq_ok_iff {read : Read} {frame : Frame} :
    readFrame read = .ok frame ↔
      read = .returned (inputReport frame) ∨ read = .returned (0 :: inputReport frame) := by
  constructor
  · intro success
    cases read with
    | raised => cases success
    | returned data =>
      cases data with
      | nil => cases success
      | cons value rest =>
        have success : normalizeRead (value :: rest) = .ok frame := success
        unfold normalizeRead at success
        split at success
        · cases success
        next raw converted =>
          have shape := toBytes_some converted
          split at success
          next sized =>
            cases success
            rw [shape]
            exact Or.inl rfl
          · split at success
            next sized =>
              split at success
              next first =>
                cases success
                obtain ⟨tail, rfl⟩ := List.head?_eq_some_iff.mp first
                rw [shape]
                exact Or.inr rfl
              · cases success
            · cases success
  · have nonempty : ∃ value rest, inputReport frame = value :: rest := by
      apply List.exists_cons_of_ne_nil
      intro empty
      have := congrArg List.length empty
      simp [inputReport] at this
    obtain ⟨value, rest, shape⟩ := nonempty
    rintro (rfl | rfl)
    · rw [shape]
      change normalizeRead (value :: rest) = _
      rw [← shape, normalizeRead, inputReport, toBytes_map]
      dsimp only
      rw [dif_pos (by simp)]
      rfl
    · change normalizeRead ((outputReport frame).map fun byte => (byte.toNat : Int)) = _
      rw [normalizeRead, toBytes_map]
      dsimp only
      have length := length_outputReport frame
      rw [dif_neg (by rw [length]; decide), dif_pos length, if_pos (by rfl)]
      rfl

theorem writeFrame_error {written : Written} {error : ClientError}
    (failed : writeFrame written = .error error) : error = .transportError .broken := by
  cases written with
  | raised =>
    cases failed
    rfl
  | returned result =>
    have shape : writeFrame (.returned result) =
      if result = 32 ∨ result = 33 then .ok () else .error (.transportError .broken) := rfl
    rw [shape] at failed
    split at failed
    · cases failed
    · cases failed
      rfl

/-! ## The loop -/

variable {frame response : Frame} {deadline : Seconds} {turn : Turn}
  {turns skipped rest : List Turn} {outcome : Except ClientError Frame}

/-- There was time left, and what was read answers another request. -/
structure Stale (frame : Frame) (deadline : Seconds) (turn : Turn) : Prop where
  early : turn.clock < deadline
  other : ∃ response, readFrame turn.read = .ok response ∧ answersTo response frame = false

/-- The turn ends the loop. -/
inductive Decides (frame : Frame) (deadline : Seconds) (turn : Turn) :
    Except ClientError Frame → Prop
  | late (past : deadline ≤ turn.clock) :
      Decides frame deadline turn (.error (.transportError .timeoutError))
  | failed {error : ClientError} (early : turn.clock < deadline)
      (raised : readFrame turn.read = .error error) : Decides frame deadline turn (.error error)
  | answered {response : Frame} (early : turn.clock < deadline)
      (heard : readFrame turn.read = .ok response) (fits : answersTo response frame = true) :
      Decides frame deadline turn (.ok response)

theorem Decides.not_stale (decides : Decides frame deadline turn outcome) :
    ¬ Stale frame deadline turn := by
  rintro ⟨early, response, heard, misfit⟩
  cases decides with
  | late past => exact absurd early (not_lt.mpr past)
  | failed _ raised => cases heard.symm.trans raised
  | answered _ other fits =>
    cases heard.symm.trans other
    cases misfit.symm.trans fits

theorem timely (early : turn.clock < deadline) : ¬ (deadline - turn.clock).value ≤ 0 :=
  fun late => absurd early (not_lt.mpr ((Floating.sub_nonpos_iff _ _).mp late))

theorem awaitResponse_stale (stale : Stale frame deadline turn) :
    awaitResponse frame deadline (turn :: rest) = awaitResponse frame deadline rest := by
  obtain ⟨early, response, heard, misfit⟩ := stale
  rw [awaitResponse, if_neg (timely early), heard]
  simp [misfit]

theorem awaitResponse_decides (decides : Decides frame deadline turn outcome) :
    awaitResponse frame deadline (turn :: rest) = some (outcome, rest) := by
  cases decides with
  | late past => rw [awaitResponse, if_pos ((Floating.sub_nonpos_iff _ _).mpr past)]
  | failed early raised => rw [awaitResponse, if_neg (timely early), raised]
  | answered early heard fits =>
    rw [awaitResponse, if_neg (timely early), heard]
    simp [fits]

theorem stale_or_decides (frame : Frame) (deadline : Seconds) (turn : Turn) :
    Stale frame deadline turn ∨ ∃ outcome, Decides frame deadline turn outcome := by
  by_cases past : deadline ≤ turn.clock
  · exact Or.inr ⟨_, .late past⟩
  · have early : turn.clock < deadline := not_le.mp past
    cases heard : readFrame turn.read with
    | error error => exact Or.inr ⟨_, .failed early heard⟩
    | ok response =>
      cases fits : answersTo response frame with
      | true => exact Or.inr ⟨_, .answered early heard fits⟩
      | false => exact Or.inl ⟨early, response, heard, fits⟩

/-- The loop skips the stale turns and ends with the first other one. -/
theorem awaitResponse_eq_some_iff :
    awaitResponse frame deadline turns = some (outcome, rest) ↔
      ∃ skipped turn, turns = skipped ++ turn :: rest ∧
        (∀ turn ∈ skipped, Stale frame deadline turn) ∧ Decides frame deadline turn outcome := by
  induction turns with
  | nil =>
    constructor
    · intro impossible
      cases impossible
    · rintro ⟨skipped, turn, impossible, _⟩
      simp at impossible
  | cons first turns ih =>
    rcases stale_or_decides frame deadline first with stale | ⟨outcome', decides⟩
    · rw [awaitResponse_stale stale, ih]
      constructor
      · rintro ⟨skipped, turn, rfl, earlier, decides⟩
        refine ⟨first :: skipped, turn, rfl, ?_, decides⟩
        intro other member
        rcases List.mem_cons.mp member with rfl | later
        · exact stale
        · exact earlier other later
      · rintro ⟨skipped, turn, split, earlier, decides⟩
        cases skipped with
        | nil =>
          cases split
          exact absurd stale decides.not_stale
        | cons other skipped =>
          cases split
          exact ⟨skipped, turn, rfl,
            fun turn member => earlier turn (List.mem_cons_of_mem _ member), decides⟩
    · rw [awaitResponse_decides decides]
      constructor
      · intro same
        cases same
        exact ⟨[], first, rfl, by simp, decides⟩
      · rintro ⟨skipped, turn, split, earlier, other⟩
        cases skipped with
        | nil =>
          cases split
          rw [← awaitResponse_decides decides, awaitResponse_decides other]
        | cons stale skipped =>
          cases split
          exact absurd (earlier _ List.mem_cons_self) decides.not_stale

/-- It still runs only if it has skipped everything. -/
theorem awaitResponse_eq_none_iff :
    awaitResponse frame deadline turns = none ↔ ∀ turn ∈ turns, Stale frame deadline turn := by
  induction turns with
  | nil => simp [awaitResponse]
  | cons first turns ih =>
    rcases stale_or_decides frame deadline first with stale | ⟨outcome, decides⟩
    · rw [awaitResponse_stale stale, ih, List.forall_mem_cons, and_iff_right stale]
    · rw [awaitResponse_decides decides, List.forall_mem_cons]
      simp [decides.not_stale]

end RuntimeMacro.Source.HidTransport
