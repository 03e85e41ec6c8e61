import RuntimeMacro.Source.Ascii
import Mathlib.Data.Vector.Basic

/-!
# Protocol frames

runtime_macro_protocol.h:15-133;
runtime_macro_protocol.c:27-50,174-209,276-313. A frame is 32 bytes: version,
opcode, request id, status, slot, payload length, 16-bit offset and total
length, and 22 bytes of payload.
-/
namespace RuntimeMacro.Source

/-- The 32 bytes of a request or a response
(runtime_macro_protocol.h:15-28). -/
abbrev Frame := Vector UInt8 32

def payloadSize : Nat := 22
def protocolVersion : UInt8 := 2
def listSlot : UInt8 := 0xFF

/-- `enum zmk_runtime_macro_protocol_opcode`
(runtime_macro_protocol.h:100-114), for the build with dynamic macros. -/
inductive Opcode where
  | list | get | set | clear
  | authInfo | authChallenge | authProve | passwordSet | lock
  | dynamicBegin | dynamicData | dynamicClear | capabilities
  deriving DecidableEq, Repr

/-- The byte of an opcode on the wire. -/
def Opcode.code : Opcode → UInt8
  | .list => 1 | .get => 2 | .set => 3 | .clear => 4
  | .authInfo => 0x10 | .authChallenge => 0x11 | .authProve => 0x12
  | .passwordSet => 0x13 | .lock => 0x14
  | .dynamicBegin => 0x20 | .dynamicData => 0x21 | .dynamicClear => 0x22 | .capabilities => 0x23

/-- Every opcode the firmware knows. -/
def Opcode.all : List Opcode :=
  [.list, .get, .set, .clear, .authInfo, .authChallenge, .authProve, .passwordSet, .lock,
    .dynamicBegin, .dynamicData, .dynamicClear, .capabilities]

/-- `runtime_macro_protocol_opcode_is_known`
(runtime_macro_protocol.c:221-242), answering with the opcode. -/
def Opcode.ofByte (byte : UInt8) : Option Opcode := Opcode.all.find? fun op => op.code == byte

theorem Opcode.ofByte_code (op : Opcode) : Opcode.ofByte op.code = some op := by
  cases op <;> rfl

theorem Opcode.code_of_ofByte {byte : UInt8} {op : Opcode} (known : Opcode.ofByte byte = some op) :
    op.code = byte := by
  have found := List.find?_some known
  simpa using found

/-- `enum zmk_runtime_macro_protocol_status`
(runtime_macro_protocol.h:116-133). -/
inductive Status where
  | ok | badVersion | badOpcode | badRequest | badSlot | badOffset | badLength | invalidText
  | storageError | internal | authRequired | authFailed | authNotConfigured | rateLimited
  | authNoChallenge | credentialInvalid
  deriving DecidableEq, Repr

/-- The byte of a status on the wire. -/
def Status.code : Status → UInt8
  | .ok => 0 | .badVersion => 1 | .badOpcode => 2 | .badRequest => 3 | .badSlot => 4
  | .badOffset => 5 | .badLength => 6 | .invalidText => 7 | .storageError => 8 | .internal => 9
  | .authRequired => 10 | .authFailed => 11 | .authNotConfigured => 12 | .rateLimited => 13
  | .authNoChallenge => 14 | .credentialInvalid => 15

@[simp] theorem Status.code_inj {first second : Status} :
    first.code = second.code ↔ first = second := by
  constructor
  · cases first <;> cases second <;> decide
  · rintro rfl
    rfl

/-- `runtime_macro_protocol_get_u16` (runtime_macro_protocol.c:27-30) on the
octets at an offset and after it. -/
def getU16 (low high : UInt8) : Nat := low.toNat ||| (high.toNat <<< 8)

namespace Frame

def version (frame : Frame) : UInt8 := frame[0]
def opcode (frame : Frame) : UInt8 := frame[1]
def requestId (frame : Frame) : UInt8 := frame[2]
def status (frame : Frame) : UInt8 := frame[3]
def slot (frame : Frame) : UInt8 := frame[4]
def payloadLength (frame : Frame) : Nat := frame[5].toNat
def offset (frame : Frame) : Nat := getU16 frame[6] frame[7]
def totalLength (frame : Frame) : Nat := getU16 frame[8] frame[9]

/-- `length` bytes at the payload. -/
def payload (frame : Frame) (length : Nat) : List UInt8 := (frame.toList.drop 10).take length

/-- `runtime_macro_protocol_payload_tail_is_zero`
(runtime_macro_protocol.c:197-209). -/
def payloadTailIsZero (frame : Frame) (length : Nat) : Bool :=
  (frame.toList.drop (10 + length)).all (· == 0)

/-- `runtime_macro_protocol_set_payload_is_valid`
(runtime_macro_protocol.c:831-844). -/
def setPayloadIsValid (frame : Frame) (length : Nat) : Bool :=
  (frame.payload length).all Ascii.byteIsValid

/-- `runtime_macro_protocol_request_has_empty_object`
(runtime_macro_protocol.c:306-313). -/
def hasEmptyObject (frame : Frame) : Bool :=
  frame.payloadLength == 0 && frame.offset == 0 && frame.totalLength == 0

def zero : Frame := Vector.replicate 32 0

/-- `memcpy` of `data` to the payload. -/
def putPayload (data : List UInt8) (frame : Frame) : Frame :=
  Vector.ofFn fun i => if 10 ≤ i.val then data.getD (i.val - 10) frame[i] else frame[i]

/-- Byte 5 of the frame. -/
def putPayloadLength (length : Nat) (frame : Frame) : Frame := frame.set 5 (UInt8.ofNat length)

/-- `runtime_macro_protocol_set_status` (runtime_macro_protocol.c:192-195). -/
def setStatus (status : Status) (frame : Frame) : Frame := frame.set 3 status.code

/-- `runtime_macro_protocol_put_u16` (runtime_macro_protocol.c:32-36) at the
offset field. -/
def putOffset (value : Nat) (frame : Frame) : Frame :=
  (frame.set 6 (UInt8.ofNat value)).set 7 (UInt8.ofNat (value >>> 8))

/-- Bytes 8 and 9 of the frame, the lower one first. -/
def putTotalLength (value : Nat) (frame : Frame) : Frame :=
  (frame.set 8 (UInt8.ofNat value)).set 9 (UInt8.ofNat (value >>> 8))

/-- `runtime_macro_protocol_init_response` (runtime_macro_protocol.c:174-190);
`none` is a NULL request. The response carries four fields of the request
over. -/
def initResponse : Option Frame → Frame
  | none => zero
  | some request =>
    (((zero.set 0 request.version).set 1 request.opcode).set 2 request.requestId).set 4 request.slot

/-- `runtime_macro_protocol_set_chunk_response`
(runtime_macro_protocol.c:276-283). -/
def setChunkResponse (offset total : Nat) (frame : Frame) : Frame :=
  (frame.putOffset offset).putTotalLength total

/-- `runtime_macro_protocol_set_error` (runtime_macro_protocol.c:285-296): the
status, and zeros in all that could tell more. -/
def setError (status : Status) (frame : Frame) : Frame :=
  ((((frame.setStatus status).putOffset 0).putTotalLength 0).putPayloadLength 0).putPayload
    (List.replicate payloadSize 0)

/-- `runtime_macro_protocol_set_success` (runtime_macro_protocol.c:298-304).
The payload is written by the caller. -/
def setSuccess (offset total : Nat) (frame : Frame) : Frame :=
  (frame.setStatus .ok).setChunkResponse offset total

/-- The request a host sends: everything not named is zero. -/
def build (opcode : Opcode) (requestId slot : UInt8) (offset total : Nat) (data : List UInt8) :
    Frame :=
  let head : Frame :=
    (((zero.set 0 protocolVersion).set 1 opcode.code).set 2 requestId).set 4 slot
  ((head.setChunkResponse offset total).putPayloadLength data.length).putPayload data

/-! ## Reading back what was written -/

section ReadBack
variable (frame : Frame) (first second : Nat) (outcome : Status) (data : List UInt8)

@[simp] theorem status_setStatus : (frame.setStatus outcome).status = outcome.code := by
  simp [status, setStatus]
@[simp] theorem status_putOffset : (frame.putOffset first).status = frame.status := by
  simp [status, putOffset]
@[simp] theorem status_putTotalLength : (frame.putTotalLength first).status = frame.status := by
  simp [status, putTotalLength]
@[simp] theorem status_putPayloadLength :
    (frame.putPayloadLength first).status = frame.status := by
  simp [status, putPayloadLength]
@[simp] theorem status_putPayload : (frame.putPayload data).status = frame.status := by
  simp [status, putPayload]
@[simp] theorem status_setError : (frame.setError outcome).status = outcome.code := by
  simp [setError]
@[simp] theorem status_setSuccess : (frame.setSuccess first second).status = Status.ok.code := by
  simp [setSuccess, setChunkResponse]

theorem getU16_lt (low high : UInt8) : getU16 low high < 65536 := by
  have lowBound : low.toNat < 2 ^ 16 := by
    have := low.toNat_lt
    omega
  have highBound : high.toNat <<< 8 < 2 ^ 16 := by
    have := high.toNat_lt
    rw [Nat.shiftLeft_eq]
    omega
  exact Nat.or_lt_two_pow lowBound highBound

/-- Two octets written from a 16-bit value read back as it. -/
theorem getU16_split (value : Nat) (fits : value < 65536) :
    getU16 (UInt8.ofNat value) (UInt8.ofNat (value >>> 8)) = value := by
  unfold getU16
  have low : (UInt8.ofNat value).toNat = value % 2 ^ 8 := by simp
  have high : (UInt8.ofNat (value >>> 8)).toNat = value / 2 ^ 8 := by
    rw [UInt8.toNat_ofNat', Nat.shiftRight_eq_div_pow]
    omega
  rw [low, high, Nat.or_comm, ← Nat.shiftLeft_add_eq_or_of_lt (Nat.mod_lt _ (by decide)),
    Nat.shiftLeft_eq]
  omega

theorem offset_setSuccess (fits : first < 65536) :
    (frame.setSuccess first second).offset = first := by
  have octets : (frame.setSuccess first second).offset =
      getU16 (UInt8.ofNat first) (UInt8.ofNat (first >>> 8)) := by
    simp [offset, setSuccess, setChunkResponse, putTotalLength, putOffset]
  rw [octets, getU16_split first fits]

theorem totalLength_setSuccess (fits : second < 65536) :
    (frame.setSuccess first second).totalLength = second := by
  have octets : (frame.setSuccess first second).totalLength =
      getU16 (UInt8.ofNat second) (UInt8.ofNat (second >>> 8)) := by
    simp [totalLength, setSuccess, setChunkResponse, putTotalLength]
  rw [octets, getU16_split second fits]

@[simp] theorem status_initResponse (request : Frame) :
    (initResponse (some request)).status = 0 := by
  simp [status, initResponse, zero]
@[simp] theorem version_initResponse (request : Frame) :
    (initResponse (some request)).version = request.version := by
  simp [version, initResponse]
@[simp] theorem opcode_initResponse (request : Frame) :
    (initResponse (some request)).opcode = request.opcode := by
  simp [opcode, initResponse]
@[simp] theorem requestId_initResponse (request : Frame) :
    (initResponse (some request)).requestId = request.requestId := by
  simp [requestId, initResponse]
@[simp] theorem slot_initResponse (request : Frame) :
    (initResponse (some request)).slot = request.slot := by
  simp [slot, initResponse]

@[simp] theorem payloadLength_setSuccess :
    (frame.setSuccess first second).payloadLength = frame.payloadLength := by
  simp [payloadLength, setSuccess, setStatus, setChunkResponse, putTotalLength, putOffset]

theorem payloadLength_putPayloadLength (fits : first < 256) :
    (frame.putPayloadLength first).payloadLength = first := by
  simp only [payloadLength, putPayloadLength, Vector.getElem_set_self, UInt8.toNat_ofNat']
  omega

/-- A field in front of the payload is not part of it. -/
theorem drop_set {index : Nat} (inside : index < 32) (value : UInt8) (front : index < 10) :
    (frame.set index value).toList.drop 10 = frame.toList.drop 10 := by
  simp [Vector.toList_set, List.drop_set, front]

theorem drop_setSuccess :
    (frame.setSuccess first second).toList.drop 10 = frame.toList.drop 10 := by
  simp only [setSuccess, setStatus, setChunkResponse, putTotalLength, putOffset]
  rw [drop_set _ _ _ (by omega), drop_set _ _ _ (by omega), drop_set _ _ _ (by omega),
    drop_set _ _ _ (by omega), drop_set _ _ _ (by omega)]

theorem drop_putPayloadLength :
    (frame.putPayloadLength first).toList.drop 10 = frame.toList.drop 10 :=
  drop_set frame (by omega) _ (by omega)

theorem drop_putPayload (sized : data.length ≤ payloadSize) :
    (frame.putPayload data).toList.drop 10 = data ++ frame.toList.drop (10 + data.length) := by
  unfold payloadSize at sized
  apply List.ext_getElem
  · simp
    omega
  · intro index before after
    have inside : index < 22 := by
      simp at before
      omega
    simp only [List.getElem_drop, Vector.getElem_toList, putPayload, Vector.getElem_ofFn,
      Nat.le_add_right, if_true, Nat.add_sub_cancel_left]
    by_cases carried : index < data.length
    · rw [List.getElem_append_left carried]
      simp [carried]
    · rw [List.getElem_append_right (by omega)]
      have place : 10 + data.length + (index - data.length) = 10 + index := by omega
      simp [carried, place]

end ReadBack

theorem totalLength_lt (frame : Frame) : frame.totalLength < 65536 := getU16_lt _ _

theorem payload_length (frame : Frame) {length : Nat} (fits : length ≤ payloadSize) :
    (frame.payload length).length = length := by
  unfold payloadSize at fits
  simp only [payload, List.length_take, List.length_drop, Vector.length_toList]
  omega

/-! ## Built requests -/

section Build
variable (op : Opcode) (id slot : UInt8) (offset total : Nat) (data : List UInt8)

@[simp] theorem version_build : (build op id slot offset total data).version = protocolVersion := by
  simp [version, build, putPayload, putPayloadLength, setChunkResponse, putTotalLength, putOffset]

@[simp] theorem opcode_build : (build op id slot offset total data).opcode = op.code := by
  simp [opcode, build, putPayload, putPayloadLength, setChunkResponse, putTotalLength, putOffset]

@[simp] theorem requestId_build : (build op id slot offset total data).requestId = id := by
  simp [requestId, build, putPayload, putPayloadLength, setChunkResponse, putTotalLength,
    putOffset]

@[simp] theorem status_build : (build op id slot offset total data).status = 0 := by
  simp [status, build, putPayload, putPayloadLength, setChunkResponse, putTotalLength, putOffset,
    zero]

@[simp] theorem slot_build : (build op id slot offset total data).slot = slot := by
  simp [Frame.slot, build, putPayload, putPayloadLength, setChunkResponse, putTotalLength,
    putOffset]

theorem payloadLength_build (sized : data.length ≤ payloadSize) :
    (build op id slot offset total data).payloadLength = data.length := by
  unfold payloadSize at sized
  simp [payloadLength, build, putPayload, putPayloadLength]
  omega

theorem offset_build (fits : offset < 65536) :
    (build op id slot offset total data).offset = offset := by
  have octets : (build op id slot offset total data).offset =
      getU16 (UInt8.ofNat offset) (UInt8.ofNat (offset >>> 8)) := by
    simp [Frame.offset, build, putPayload, putPayloadLength, setChunkResponse, putTotalLength,
      putOffset]
  rw [octets, getU16_split offset fits]

theorem totalLength_build (fits : total < 65536) :
    (build op id slot offset total data).totalLength = total := by
  have octets : (build op id slot offset total data).totalLength =
      getU16 (UInt8.ofNat total) (UInt8.ofNat (total >>> 8)) := by
    simp [totalLength, build, putPayload, putPayloadLength, setChunkResponse, putTotalLength]
  rw [octets, getU16_split total fits]

/-- The bytes of a built frame from the payload on. -/
theorem drop_build (sized : data.length ≤ payloadSize) :
    (build op id slot offset total data).toList.drop 10 =
      data ++ List.replicate (payloadSize - data.length) 0 := by
  unfold payloadSize at *
  apply List.ext_getElem
  · simp
    omega
  · intro index before after
    have inside : index < 22 := by
      simp at before
      omega
    simp only [List.getElem_drop, Vector.getElem_toList, build, putPayload, Vector.getElem_ofFn,
      Nat.le_add_right, if_true, Nat.add_sub_cancel_left]
    by_cases carried : index < data.length
    · rw [List.getElem_append_left carried]
      simp [carried]
    · rw [List.getElem_append_right (by omega), List.getElem_replicate]
      have above : ∀ place < 10, place ≠ 10 + index := by omega
      simp [carried, putPayloadLength, setChunkResponse, putTotalLength, putOffset, zero,
        above]

theorem payload_build (sized : data.length ≤ payloadSize) :
    (build op id slot offset total data).payload data.length = data := by
  rw [payload, drop_build op id slot offset total data sized, List.take_left]

theorem payloadTailIsZero_build (sized : data.length ≤ payloadSize) :
    (build op id slot offset total data).payloadTailIsZero data.length = true := by
  unfold payloadTailIsZero
  rw [← List.drop_drop, drop_build op id slot offset total data sized, List.drop_left]
  simp

end Build
end Frame

end RuntimeMacro.Source
