import RuntimeMacro.Source.Executor
import RuntimeMacro.Source.Config
import Mathlib.Logic.Function.Basic

/-!
# Dynamic store

runtime_macro_dynamic.c:37-431. The RAM texts of the dynamic slots, one shared
staging buffer and one delayable work item that expires texts. Every public
function takes the clock readings it makes, in the order it makes them.
`ttlWork` is the pending time of the work item.
-/
namespace RuntimeMacro.Source
open Foundations

def dynamicSlotMaxTextLen : Nat := 512
def dynamicMaxTextLen : Nat := 256
def dynamicLegacySlot : Nat := 0
def dynamicDefaultTtlSeconds : Nat := 300
def dynamicMinTtlSeconds : Nat := 1
def dynamicMaxTtlSeconds : Nat := 86400

/-- `struct zmk_runtime_macro_dynamic_slot` (runtime_macro_dynamic_internal.h).
A deadline of 0 stands for none. -/
structure DynamicSlot where
  committed : List UInt8
  ttlDeadlineMs : Int
  ttlGeneration : UInt32
  committedLength : Nat
  committedValid : Bool
  committedConsumeOnAccept : Bool
  deriving DecidableEq

/-- `struct zmk_runtime_macro_dynamic_state` (runtime_macro_dynamic_internal.h)
and its work item. The staging is shared by the slots, so one upload at a time
is under way. -/
structure DynamicStore where
  slots : Nat → DynamicSlot
  staging : List UInt8
  stagingSlot : Nat
  stagingExpectedLength : Nat
  stagingReceived : Nat
  stagingActive : Bool
  stagingTtlSeconds : Nat
  stagingConsumeOnAccept : Bool
  ttlGeneration : UInt32
  ttlWorkGeneration : UInt32
  ttlWork : Option Int

namespace DynamicStore

def zeroBuffer : List UInt8 := List.replicate dynamicSlotMaxTextLen 0

/-- `runtime_macro_dynamic_slot_is_valid` (runtime_macro_dynamic.c:52-54),
which `runtime_macro_protocol_dynamic_slot_is_valid`
(runtime_macro_protocol.c:216-218) repeats. -/
def slotIsValid (cfg : Config) (slot : Nat) : Bool := slot < cfg.dynamicSlotCount

/-- A slot a pending deadline is about. -/
def armed (entry : DynamicSlot) : Bool := entry.committedValid && entry.ttlDeadlineMs != 0

/-- The loop of `runtime_macro_dynamic_rearm_ttl_locked`: 0 stands for no
deadline. -/
def earliestDeadline (cfg : Config) (s : DynamicStore) : Int :=
  (List.range cfg.dynamicSlotCount).foldl (fun earliest slot =>
    let entry := s.slots slot
    if armed entry = false then earliest
    else if earliest = 0 ∨ entry.ttlDeadlineMs < earliest then entry.ttlDeadlineMs
    else earliest) 0

/-- `runtime_macro_dynamic_rearm_ttl_locked` (runtime_macro_dynamic.c:68-100):
the work item is armed for the earliest deadline, and cancelled when there is
none. A deadline that has passed is one millisecond ahead. -/
def rearmTtl (cfg : Config) (nowMs : Int) (s : DynamicStore) : DynamicStore :=
  let earliest := earliestDeadline cfg s
  let generation := s.ttlGeneration + 1
  let delay := if earliest > nowMs then earliest - nowMs else 1
  { s with ttlGeneration := generation
           ttlWorkGeneration := generation
           ttlWork := if earliest = 0 then none else some (nowMs + delay) }

/-- What `runtime_macro_dynamic_clear_committed_locked` leaves: only the
generation has moved. -/
def clearedSlot (entry : DynamicSlot) : DynamicSlot where
  committed := zeroBuffer
  ttlDeadlineMs := 0
  ttlGeneration := entry.ttlGeneration + 1
  committedLength := 0
  committedValid := false
  committedConsumeOnAccept := true

/-- `runtime_macro_dynamic_clear_committed_locked`
(runtime_macro_dynamic.c:102-112). -/
def clearCommitted (slot : Nat) (s : DynamicStore) : DynamicStore :=
  { s with slots := Function.update s.slots slot (clearedSlot (s.slots slot)) }

/-- `runtime_macro_dynamic_cancel_staging_locked`
(runtime_macro_dynamic.c:173-182). -/
def cancelStaging (s : DynamicStore) : DynamicStore :=
  { s with staging := zeroBuffer
           stagingSlot := 0
           stagingExpectedLength := 0
           stagingReceived := 0
           stagingActive := false
           stagingTtlSeconds := 0
           stagingConsumeOnAccept := true }

/-- `runtime_macro_dynamic_expire_slot_locked`
(runtime_macro_dynamic.c:119-133): an upload to the slot that expires is
cancelled with it. -/
def expireSlot (slot : Nat) (s : DynamicStore) : DynamicStore :=
  let s := clearCommitted slot s
  if s.stagingActive ∧ s.stagingSlot = slot then cancelStaging s else s

/-- Armed, and at its deadline or past it. -/
def due (nowMs : Int) (entry : DynamicSlot) : Bool :=
  armed entry && decide (entry.ttlDeadlineMs ≤ nowMs)

/-- `runtime_macro_dynamic_expire_due_locked`
(runtime_macro_dynamic.c:135-148), at the head of most calls. It does not
re-arm the work item. -/
def expireDue (cfg : Config) (nowMs : Int) (s : DynamicStore) : DynamicStore :=
  (List.range cfg.dynamicSlotCount).foldl (fun s slot =>
    if due nowMs (s.slots slot) then expireSlot slot s else s) s

/-- `runtime_macro_dynamic_begin_locked` (runtime_macro_dynamic.c:184-204). The
staging of an earlier upload is gone either way. -/
def beginLocked (cfg : Config) (slot totalLength maxLength ttlSeconds : Nat)
    (consumeOnAccept : Bool) (s : DynamicStore) : Int × DynamicStore :=
  if slotIsValid cfg slot = false ∨ totalLength = 0 ∨ totalLength > maxLength ∨
      ttlSeconds < dynamicMinTtlSeconds ∨ ttlSeconds > dynamicMaxTtlSeconds then
    (-einval, cancelStaging s)
  else
    (0, { cancelStaging s with
      stagingSlot := slot
      stagingExpectedLength := totalLength
      stagingTtlSeconds := ttlSeconds
      stagingConsumeOnAccept := consumeOnAccept
      stagingActive := true })

/-- The entry `runtime_macro_dynamic_commit_locked` writes at the reading
`nowMs`. -/
def committedSlot (nowMs : Int) (entry : DynamicSlot) (s : DynamicStore) : DynamicSlot where
  committed :=
    let length := s.stagingExpectedLength
    let copied := ByteBuffer.write entry.committed 0 (s.staging.take length)
    ByteBuffer.write copied length (List.replicate (dynamicSlotMaxTextLen - length) 0)
  ttlDeadlineMs := nowMs + (s.stagingTtlSeconds : Int) * 1000
  ttlGeneration := entry.ttlGeneration + 1
  committedLength := s.stagingExpectedLength
  committedValid := true
  committedConsumeOnAccept := s.stagingConsumeOnAccept

/-- `runtime_macro_dynamic_commit_locked` (runtime_macro_dynamic.c:206-229),
reading the clock for the deadline and again to re-arm the work item. -/
def commit (cfg : Config) (nowMs rearmMs : Int) (s : DynamicStore) : DynamicStore :=
  let slot := s.stagingSlot
  let s := { s with
    slots := Function.update s.slots slot (committedSlot nowMs (s.slots slot) s) }
  rearmTtl cfg rearmMs (cancelStaging s)

/-- `runtime_macro_dynamic_append_locked` (runtime_macro_dynamic.c:231-268).
Only slot and offset tie the chunk to the upload it continues; a refusal
cancels the staging, unless there is none. -/
def appendLocked (cfg : Config) (slot offset : Nat) (data : List UInt8) (commitMs rearmMs : Int)
    (s : DynamicStore) : Int × DynamicStore :=
  if s.stagingActive = false then (-enoent, s)
  else if slotIsValid cfg slot = false ∨ slot ≠ s.stagingSlot then (-einval, cancelStaging s)
  else if data.length = 0 ∨ offset ≠ s.stagingReceived ∨ offset > s.stagingExpectedLength ∨
      data.length > s.stagingExpectedLength - offset then (-einval, cancelStaging s)
  else if data.all Ascii.byteIsValid = false then (-einval, cancelStaging s)
  else
    let s := { s with
      staging := ByteBuffer.write s.staging offset data
      stagingReceived := s.stagingReceived + data.length }
    if s.stagingReceived = s.stagingExpectedLength then (0, commit cfg commitMs rearmMs s)
    else (0, s)

/-! ## Public functions -/

/-- `zmk_runtime_macro_dynamic_reset` (runtime_macro_dynamic.c:272-295). -/
def reset (cfg : Config) (s : DynamicStore) : DynamicStore :=
  let emptied (slot : Nat) (entry : DynamicSlot) : DynamicSlot :=
    if slotIsValid cfg slot then { clearedSlot entry with ttlGeneration := 0 } else entry
  let s := { s with ttlWork := none, slots := fun slot => emptied slot (s.slots slot) }
  { cancelStaging s with ttlGeneration := 0, ttlWorkGeneration := 0 }

/-- Static storage, zeroed, after the init call of `reset`. -/
def boot : DynamicStore where
  slots := fun _ => ⟨zeroBuffer, 0, 0, 0, false, true⟩
  staging := zeroBuffer
  stagingSlot := 0
  stagingExpectedLength := 0
  stagingReceived := 0
  stagingActive := false
  stagingTtlSeconds := 0
  stagingConsumeOnAccept := true
  ttlGeneration := 0
  ttlWorkGeneration := 0
  ttlWork := none

/-- `zmk_runtime_macro_dynamic_begin_slot`
(runtime_macro_dynamic.c:297-310). -/
def beginSlot (cfg : Config) (slot totalLength ttlSeconds : Nat) (consumeOnAccept : Bool)
    (nowMs : Int) (s : DynamicStore) : Int × DynamicStore :=
  beginLocked cfg slot totalLength dynamicSlotMaxTextLen ttlSeconds consumeOnAccept
    (expireDue cfg nowMs s)

/-- `zmk_runtime_macro_dynamic_begin_with_options`
(runtime_macro_dynamic.c:397-411): the first slot, with the old limit of 256
bytes. -/
def beginWithOptions (cfg : Config) (totalLength ttlSeconds : Nat) (consumeOnAccept : Bool)
    (nowMs : Int) (s : DynamicStore) : Int × DynamicStore :=
  beginLocked cfg dynamicLegacySlot totalLength dynamicMaxTextLen ttlSeconds consumeOnAccept
    (expireDue cfg nowMs s)

/-- `zmk_runtime_macro_dynamic_append_slot`
(runtime_macro_dynamic.c:312-322). -/
def appendSlot (cfg : Config) (slot offset : Nat) (data : List UInt8)
    (nowMs commitMs rearmMs : Int) (s : DynamicStore) : Int × DynamicStore :=
  appendLocked cfg slot offset data commitMs rearmMs (expireDue cfg nowMs s)

/-- `zmk_runtime_macro_dynamic_cancel_staging`
(runtime_macro_dynamic.c:324-329): what is due expires first. -/
def cancelStagingNow (cfg : Config) (nowMs : Int) (s : DynamicStore) : DynamicStore :=
  cancelStaging (expireDue cfg nowMs s)

/-- `zmk_runtime_macro_dynamic_clear_slot`
(runtime_macro_dynamic.c:331-340). -/
def clearSlot (cfg : Config) (slot : Nat) (rearmMs : Int) (s : DynamicStore) : DynamicStore :=
  if slotIsValid cfg slot = false then s else rearmTtl cfg rearmMs (expireSlot slot s)

/-- `zmk_runtime_macro_dynamic_clear_all` (runtime_macro_dynamic.c:342-353):
every slot, the staging and the work item. -/
def clearAll (cfg : Config) (rearmMs : Int) (s : DynamicStore) : DynamicStore :=
  let s := (List.range cfg.dynamicSlotCount).foldl (fun s slot => clearCommitted slot s) s
  rearmTtl cfg rearmMs (cancelStaging s)

/-- `zmk_runtime_macro_dynamic_check_expiry`
(runtime_macro_dynamic.c:355-360). -/
def checkExpiry (cfg : Config) (nowMs rearmMs : Int) (s : DynamicStore) : DynamicStore :=
  rearmTtl cfg rearmMs (expireDue cfg nowMs s)

/-- `runtime_macro_dynamic_ttl_work_handler` (runtime_macro_dynamic.c:150-169):
a run armed before a newer change expires nothing, but still re-arms. -/
def ttlWorkHandler (cfg : Config) (nowMs rearmMs : Int) (s : DynamicStore) : DynamicStore :=
  let s := if s.ttlWorkGeneration = s.ttlGeneration then expireDue cfg nowMs s else s
  rearmTtl cfg rearmMs s

/-- `zmk_runtime_macro_dynamic_execute_slot` (runtime_macro_dynamic.c:362-395).
An empty slot is executed with success and without effect; a text is consumed
only when the executor has taken it. -/
def executeSlot (cfg : Config) (slot : Nat) (nowMs rearmMs scheduled : Int) (s : DynamicStore)
    (executor : Executor) : Int × DynamicStore × Executor :=
  let s := expireDue cfg nowMs s
  if slotIsValid cfg slot = false then (-einval, s, executor)
  else
    let entry := s.slots slot
    if entry.committedValid = false ∨ entry.committedLength = 0 then (0, s, executor)
    else
      let (err, executor) := executor.start entry.committed entry.committedLength scheduled
      if err = 0 ∧ entry.committedConsumeOnAccept then
        (err, rearmTtl cfg rearmMs (clearCommitted slot s), executor)
      else (err, s, executor)

end DynamicStore

end RuntimeMacro.Source
