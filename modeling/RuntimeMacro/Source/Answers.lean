import RuntimeMacro.Foundations.Scans
import RuntimeMacro.Source.ProtocolCases
import RuntimeMacro.Source.ProtocolDynamicCases

/-!
# What a frame is answered with

runtime_macro_protocol.c:174-190,276-304. Every answer is the request's header
with a status: an error with nothing else in it, or OK with the bytes, the
offset and the total length that belong to the opcode.
-/
namespace RuntimeMacro.Source.Protocol
open AuthCore (Hmac)
open Foundations.Checks Foundations.Scans

variable {cfg : Config} {hmac : Hmac} {env : Env} {id : ContextId} {request response : Frame}
  {w : World} {data : List UInt8} {offset total : Nat} {status : Status}

/-! ## The two forms of an answer -/

/-- The answer that refuses a request with a status. -/
def errorFrame (request : Frame) (status : Status) : Frame :=
  (Frame.initResponse (some request)).setError status

/-- The answer that accepts a request and carries `data`. -/
def okFrame (request : Frame) (data : List UInt8) (offset total : Nat) : Frame :=
  (((Frame.initResponse (some request)).putPayload data).putPayloadLength
    data.length).setSuccess offset total

theorem setSuccess_initResponse (request : Frame) (offset total : Nat) :
    (Frame.initResponse (some request)).setSuccess offset total =
      okFrame request [] offset total := by
  have payload : (Frame.initResponse (some request)).putPayload [] =
      Frame.initResponse (some request) := by
    apply Vector.ext
    intro index inside
    simp [Frame.putPayload]
  have length : (Frame.initResponse (some request)).putPayloadLength 0 =
      Frame.initResponse (some request) := by
    apply Vector.ext
    intro index inside
    simp only [Frame.putPayloadLength, Frame.initResponse, Frame.zero, Vector.getElem_set,
      Vector.getElem_replicate]
    split
    next at' =>
      subst at'
      simp
    · rfl
  rw [okFrame, payload, List.length_nil, length]

/-- The header that an answer repeats. -/
structure Echoes (request response : Frame) : Prop where
  version : response.version = request.version
  opcode : response.opcode = request.opcode
  requestId : response.requestId = request.requestId
  slot : response.slot = request.slot

theorem okFrame_echoes : Echoes request (okFrame request data offset total) := by
  constructor
  · simp [okFrame, Frame.version, Frame.setSuccess, Frame.setStatus, Frame.setChunkResponse,
      Frame.putTotalLength, Frame.putOffset, Frame.putPayloadLength, Frame.putPayload,
      Frame.initResponse]
  · simp [okFrame, Frame.opcode, Frame.setSuccess, Frame.setStatus, Frame.setChunkResponse,
      Frame.putTotalLength, Frame.putOffset, Frame.putPayloadLength, Frame.putPayload,
      Frame.initResponse]
  · simp [okFrame, Frame.requestId, Frame.setSuccess, Frame.setStatus, Frame.setChunkResponse,
      Frame.putTotalLength, Frame.putOffset, Frame.putPayloadLength, Frame.putPayload,
      Frame.initResponse]
  · simp [okFrame, Frame.slot, Frame.setSuccess, Frame.setStatus, Frame.setChunkResponse,
      Frame.putTotalLength, Frame.putOffset, Frame.putPayloadLength, Frame.putPayload,
      Frame.initResponse]

/-- The bytes of an error: the header, the status and zeros. -/
theorem getElem_setError (frame : Frame) (status : Status) {index : Nat} (inside : index < 32) :
    (frame.setError status)[index] =
      if index = 3 then status.code else if 5 ≤ index then 0 else frame[index] := by
  simp only [Frame.setError, Frame.putPayload, Frame.putPayloadLength, Frame.putTotalLength,
    Frame.putOffset, Frame.setStatus, Vector.getElem_ofFn, Vector.getElem_set, Fin.getElem_fin,
    payloadSize, List.getD_eq_getElem?_getD, List.getElem?_replicate]
  grind

theorem setError_of_echoes (echoes : Echoes request response) (status : Status) :
    response.setError status = errorFrame request status := by
  apply Vector.ext
  intro index inside
  rw [errorFrame, getElem_setError _ _ inside, getElem_setError _ _ inside]
  by_cases isStatus : index = 3
  · rw [if_pos isStatus, if_pos isStatus]
  · rw [if_neg isStatus, if_neg isStatus]
    by_cases later : 5 ≤ index
    · rw [if_pos later, if_pos later]
    · rw [if_neg later, if_neg later]
      have header : index = 0 ∨ index = 1 ∨ index = 2 ∨ index = 4 := by omega
      rcases header with rfl | rfl | rfl | rfl
      · exact echoes.version.trans (Frame.version_initResponse request).symm
      · exact echoes.opcode.trans (Frame.opcode_initResponse request).symm
      · exact echoes.requestId.trans (Frame.requestId_initResponse request).symm
      · exact echoes.slot.trans (Frame.slot_initResponse request).symm

theorem errorFrame_echoes : Echoes request (errorFrame request status) := by
  constructor
  · rw [Frame.version, errorFrame, getElem_setError]
    exact Frame.version_initResponse request
  · rw [Frame.opcode, errorFrame, getElem_setError]
    exact Frame.opcode_initResponse request
  · rw [Frame.requestId, errorFrame, getElem_setError]
    exact Frame.requestId_initResponse request
  · rw [Frame.slot, errorFrame, getElem_setError]
    exact Frame.slot_initResponse request

section Views
variable (request data offset total status)

@[simp] theorem status_errorFrame : (errorFrame request status).status = status.code :=
  Frame.status_setError _ _

@[simp] theorem status_okFrame : (okFrame request data offset total).status = Status.ok.code :=
  Frame.status_setSuccess _ _ _

theorem payloadLength_errorFrame : (errorFrame request status).payloadLength = 0 := by
  rw [Frame.payloadLength, errorFrame, getElem_setError]
  rfl

theorem offset_errorFrame : (errorFrame request status).offset = 0 := by
  rw [Frame.offset, errorFrame, getElem_setError, getElem_setError]
  simp [getU16]

theorem totalLength_errorFrame : (errorFrame request status).totalLength = 0 := by
  rw [Frame.totalLength, errorFrame, getElem_setError, getElem_setError]
  simp [getU16]

theorem drop_errorFrame :
    (errorFrame request status).toList.drop 10 = List.replicate payloadSize 0 := by
  apply List.ext_getElem
  · simp [payloadSize]
  · intro index before after
    have inside : 10 + index < 32 := by
      simp at before
      omega
    have byte := getElem_setError (Frame.initResponse (some request)) status inside
    rw [if_neg (by omega), if_pos (by omega)] at byte
    simp only [List.getElem_drop, Vector.getElem_toList, List.getElem_replicate]
    exact byte

theorem payloadLength_okFrame (sized : data.length ≤ payloadSize) :
    (okFrame request data offset total).payloadLength = data.length := by
  unfold payloadSize at sized
  rw [okFrame, Frame.payloadLength_setSuccess, Frame.payloadLength_putPayloadLength _ _ (by omega)]

theorem offset_okFrame (fits : offset < 65536) :
    (okFrame request data offset total).offset = offset :=
  Frame.offset_setSuccess _ _ _ fits

theorem totalLength_okFrame (fits : total < 65536) :
    (okFrame request data offset total).totalLength = total :=
  Frame.totalLength_setSuccess _ _ _ fits

theorem drop_okFrame (sized : data.length ≤ payloadSize) :
    (okFrame request data offset total).toList.drop 10 =
      data ++ List.replicate (payloadSize - data.length) 0 := by
  rw [okFrame, Frame.drop_setSuccess, Frame.drop_putPayloadLength,
    Frame.drop_putPayload _ _ sized]
  congr 1
  unfold payloadSize at *
  apply List.ext_getElem
  · simp
    omega
  · intro index before after
    have inside : index < 22 - data.length := by simpa using after
    have above : ∀ place < 10, place ≠ 10 + data.length + index := by omega
    simp [Frame.initResponse, Frame.zero, above]

theorem payload_okFrame (sized : data.length ≤ payloadSize) :
    (okFrame request data offset total).payload data.length = data := by
  rw [Frame.payload, drop_okFrame request data offset total sized, List.take_left]

theorem payloadTailIsZero_okFrame (sized : data.length ≤ payloadSize) :
    (okFrame request data offset total).payloadTailIsZero data.length = true := by
  rw [Frame.payloadTailIsZero, ← List.drop_drop, drop_okFrame request data offset total sized,
    List.drop_left]
  simp

theorem payloadTailIsZero_errorFrame :
    (errorFrame request status).payloadTailIsZero 0 = true := by
  rw [Frame.payloadTailIsZero, Nat.add_zero, drop_errorFrame]
  simp

end Views

/-! ## The answer to each opcode -/

/-- The page of a logical object from an offset on. -/
def pageOf (object : List UInt8) (offset : Nat) : List UInt8 :=
  (object.drop offset).take payloadSize

theorem length_pageOf (object : List UInt8) (offset : Nat) :
    (pageOf object offset).length = min payloadSize (object.length - offset) := by
  rw [pageOf, List.length_take, List.length_drop]

/-- A page and what is behind it. -/
theorem pageOf_append_drop (object : List UInt8) (offset : Nat) :
    pageOf object offset ++ object.drop (offset + (pageOf object offset).length) =
      object.drop offset := by
  rw [← List.drop_drop, length_pageOf, pageOf, ← List.length_drop]
  by_cases full : payloadSize ≤ (object.drop offset).length
  · rw [Nat.min_eq_left full, List.take_append_drop]
  · rw [Nat.min_eq_right (by omega), List.take_of_length_le (by omega), List.drop_length,
      List.append_nil]

/-- What an OK answer carries: the payload, the offset and the total length. -/
def Carries (cfg : Config) (env : Env) (w : World) (request : Frame) (opcode : Opcode)
    (data : List UInt8) (offset total : Nat) : Prop :=
  match opcode with
  | .list => ∃ object, listData cfg w.slots = some object ∧ object.length < 65536 ∧
      request.offset ≤ object.length ∧ data = pageOf object request.offset ∧
      offset = request.offset ∧ total = object.length
  | .get => ∃ snapshot length,
      w.slots.slotCopy cfg request.slot.toNat (cfg.maxTextLen + 1) = .ok (snapshot, length) ∧
      (snapshot.take length).length < 65536 ∧ request.offset ≤ (snapshot.take length).length ∧
      data = pageOf (snapshot.take length) request.offset ∧
      offset = request.offset ∧ total = (snapshot.take length).length
  | .set | .dynamicData | .passwordSet => data = [] ∧
      offset = request.offset + request.payloadLength ∧ offset ≤ request.totalLength ∧
      total = request.totalLength
  | .dynamicBegin => data = [] ∧ offset = 0 ∧ total = request.totalLength
  | .clear | .authProve | .lock | .dynamicClear => data = [] ∧ offset = 0 ∧ total = 0
  | .authInfo => ∃ core, AuthCore.Looked w.auth core ∧ core.state ≠ .stateErrorLocked ∧
      data = authInfoPayload (AuthCore.getInfo (env.clock .operation) core).1 ∧
      offset = 0 ∧ total = authInfoLength
  | .authChallenge => ∃ nonce, env.random = some nonce ∧ data = nonce.toList ∧
      offset = 0 ∧ total = AuthCore.nonceSize
  | .capabilities => data = capabilityPayload cfg ∧ offset = 0 ∧ total = capabilityPayloadLength

/-- An error, or OK with what the opcode carries. -/
inductive AnsweredBy (request : Frame) (carries : List UInt8 → Nat → Nat → Prop) : Frame → Prop
  | refused (status : Status) (bad : status ≠ .ok) :
      AnsweredBy request carries (errorFrame request status)
  | accepted (data : List UInt8) (offset total : Nat) (carried : carries data offset total)
      (sized : data.length ≤ payloadSize) (placed : offset < 65536) (fits : total < 65536) :
      AnsweredBy request carries (okFrame request data offset total)

section Handlers
variable {carries : List UInt8 → Nat → Nat → Prop}

theorem AnsweredBy.echoes (answered : AnsweredBy request carries response) :
    Echoes request response := by
  cases answered with
  | refused => exact errorFrame_echoes
  | accepted => exact okFrame_echoes

theorem answered_error (bad : status ≠ .ok) :
    AnsweredBy request carries ((Frame.initResponse (some request)).setError status) :=
  .refused status bad

theorem answered_ack (carried : carries [] offset total) (placed : offset < 65536)
    (fits : total < 65536) :
    AnsweredBy request carries ((Frame.initResponse (some request)).setSuccess offset total) := by
  rw [setSuccess_initResponse]
  exact .accepted [] offset total carried (by simp) placed fits

/-- The page of an object from an offset that is not behind its end. -/
theorem respondPage_eq {object : List UInt8} (inside : request.offset ≤ object.length) :
    respondPage request (Frame.initResponse (some request)) object =
      okFrame request (pageOf object request.offset) request.offset object.length := by
  unfold respondPage
  dsimp only
  rw [if_neg (by omega)]
  have length : (pageOf object request.offset).length =
      if object.length - request.offset > payloadSize then payloadSize
      else object.length - request.offset := by
    simp only [pageOf, List.length_take, List.length_drop]
    split
    · omega
    · omega
  have page : (object.drop request.offset).take
      (if object.length - request.offset > payloadSize then payloadSize
        else object.length - request.offset) = pageOf object request.offset := by
    rw [pageOf]
    split
    · rfl
    · rw [List.take_of_length_le (by simp), List.take_of_length_le (by simp; omega)]
  rw [page, ← length]
  rfl

theorem answered_page {object : List UInt8} (small : object.length < 65536)
    (carried : request.offset ≤ object.length →
      carries (pageOf object request.offset) request.offset object.length) :
    AnsweredBy request carries
      (respondPage request (Frame.initResponse (some request)) object) := by
  by_cases inside : request.offset ≤ object.length
  · rw [respondPage_eq inside]
    exact .accepted _ _ _ (carried inside) (by simp [pageOf]) (by omega) small
  · unfold respondPage
    dsimp only
    rw [if_pos (by omega)]
    exact .refused .badOffset (by decide)

/-- The refresh keeps the answer, or refuses. -/
theorem answered_refresh (cfg : Config) (env : Env) (id : ContextId) (w : World)
    (answered : AnsweredBy request carries response) :
    AnsweredBy request carries (refreshProtectedSession cfg env id response w).1 := by
  rcases refreshProtectedSession_cases cfg env id response w with
    ⟨_, _, _, result⟩ | ⟨_, _, result⟩ | ⟨_, _, _, _, _, result⟩
  · rw [result]
    exact answered
  · rw [result]
    exact answered
  · rw [result]
    dsimp only
    rw [setError_of_echoes answered.echoes]
    exact .refused .authRequired (by decide)

theorem answered_management (handler : World → Frame × World)
    (answered : ∀ auth, AnsweredBy request carries (handler (w.withAuth auth)).1) :
    AnsweredBy request carries
      (processManagement cfg env id handler (Frame.initResponse (some request)) w).1 := by
  obtain ⟨auth, _, ⟨_, _, _, result⟩ | ⟨_, _, result⟩⟩ := processManagement_cases cfg env id
    handler (Frame.initResponse (some request)) w
  · rw [result]
    exact .refused _ (gateStatus_ne_ok _)
  · rw [result, afterHandler]
    split
    · exact answered_refresh _ _ _ _ (answered auth)
    · exact answered auth

theorem answered_list (slots : SlotStore)
    (carried : ∀ object, listData cfg slots = some object → object.length < 65536 →
      request.offset ≤ object.length →
      carries (pageOf object request.offset) request.offset object.length)
    (small : ∀ object, listData cfg slots = some object → object.length < 65536) :
    AnsweredBy request carries
      (processList cfg request (Frame.initResponse (some request)) slots) := by
  unfold processList
  split
  · exact answered_error (by decide)
  split
  · exact answered_error (by decide)
  split
  · exact answered_error (by decide)
  split
  · exact answered_error (by decide)
  next object listed =>
    exact answered_page (small object listed) (carried object listed (small object listed))

theorem answered_get (slots : SlotStore)
    (carried : ∀ snapshot length,
      slots.slotCopy cfg request.slot.toNat (cfg.maxTextLen + 1) = .ok (snapshot, length) →
      (snapshot.take length).length < 65536 → request.offset ≤ (snapshot.take length).length →
      carries (pageOf (snapshot.take length) request.offset) request.offset
        (snapshot.take length).length) :
    AnsweredBy request carries
      (processGet cfg request (Frame.initResponse (some request)) slots) := by
  unfold processGet
  dsimp only
  split
  · exact answered_error (by decide)
  split
  · exact answered_error (by decide)
  split
  · exact answered_error (by decide)
  split
  · exact answered_error (by decide)
  next snapshot length copied =>
    split
    · exact answered_error (by decide)
    next bounded =>
      have small : (snapshot.take length).length < 65536 := by
        rw [List.length_take]
        omega
      exact answered_page small (carried snapshot length copied small)

theorem answered_set (env : Env) (id : ContextId) (w : World)
    (carried : request.offset + request.payloadLength ≤ request.totalLength →
      carries [] (request.offset + request.payloadLength) request.totalLength) :
    AnsweredBy request carries
      (processSet cfg env id request (Frame.initResponse (some request)) w).1 := by
  have bounded := request.totalLength_lt
  rcases processSet_cases cfg env id request (Frame.initResponse (some request)) w with
    ⟨status, bad, result⟩ | ⟨c, ⟨valid, start⟩, outcome⟩
  · rw [result]
    exact .refused status bad
  · have inside := valid.offset
    have payload := valid.payload
    obtain ⟨received, total⟩ : c.setReceivedLength = request.offset + request.payloadLength ∧
        c.setTotalLength = request.totalLength := by
      obtain ⟨first, rfl⟩ | ⟨continued, rfl⟩ := start
      · rw [first, Nat.zero_add]
        exact ⟨rfl, rfl⟩
      · refine ⟨?_, continued.total⟩
        rw [continued.received]
        rfl
    have ack : AnsweredBy request carries ((Frame.initResponse (some request)).setSuccess
        c.setReceivedLength c.setTotalLength) := by
      rw [received, total]
      exact answered_ack (carried (by omega)) (by omega) bounded
    rcases outcome with ⟨_, result⟩ | ⟨_, result⟩
    · rw [result]
      exact ack
    · obtain ⟨err, _, _, _, committed⟩ := commitSet_eq cfg env id
        (Frame.initResponse (some request)) (w.modify id fun _ => c)
      rw [result, committed, commitSetAnswer, World.modify_contexts_self]
      dsimp only
      split
      · exact ack
      · split
        · exact answered_error (by decide)
        · exact answered_error (by decide)

theorem answered_clear (env : Env) (w : World) (carried : carries [] 0 0) :
    AnsweredBy request carries
      (processClear cfg env request (Frame.initResponse (some request)) w).1 := by
  rcases processClear_cases cfg env request (Frame.initResponse (some request)) w with
    ⟨status, bad, _, result⟩ | ⟨_, result⟩
  · rw [result]
    exact .refused status bad
  · rw [result]
    dsimp only
    split
    · exact answered_ack carried (by decide) (by decide)
    · exact answered_error (by decide)

theorem answered_passwordSet (env : Env) (id : ContextId) (w : World)
    (carried : request.offset + request.payloadLength ≤ request.totalLength →
      carries [] (request.offset + request.payloadLength) request.totalLength) :
    AnsweredBy request carries
      (processPasswordSet cfg env id request (Frame.initResponse (some request)) w).1 := by
  have bounded := request.totalLength_lt
  rcases processPasswordSet_cases cfg env id request (Frame.initResponse (some request)) w with
    ⟨status, bad, result⟩ | ⟨c, ⟨valid, start⟩, outcome⟩
  · rw [result]
    exact .refused status bad
  · have inside := valid.offset
    have payload := valid.payload
    obtain ⟨received, total⟩ : c.passwordSetReceivedLength =
        request.offset + request.payloadLength ∧
        c.passwordSetTotalLength = request.totalLength := by
      obtain ⟨first, rfl⟩ | ⟨continued, rfl⟩ := start
      · rw [first, Nat.zero_add]
        exact ⟨rfl, rfl⟩
      · refine ⟨?_, continued.total⟩
        rw [continued.received]
        rfl
    have ack : AnsweredBy request carries ((Frame.initResponse (some request)).setSuccess
        c.passwordSetReceivedLength c.passwordSetTotalLength) := by
      rw [received, total]
      exact answered_ack (carried (by omega)) (by omega) bounded
    rcases outcome with ⟨_, result⟩ | ⟨complete, result⟩
    · rw [result]
      exact answered_refresh _ _ _ _ ack
    · rw [complete, total, valid.total] at ack
      obtain ⟨_, _, _, _, done⟩ := commitPasswordSet_cases cfg env id
        (Frame.initResponse (some request)) (w.modify id fun _ => c)
      rw [result]
      rcases done with ⟨_, done⟩ | ⟨_, done⟩ | ⟨_, done⟩ | ⟨_, done⟩
      · rw [done]
        exact ack
      · rw [done]
        exact answered_error (by decide)
      · rw [done]
        exact answered_error (by decide)
      · rw [done]
        exact answered_error (by decide)

theorem answered_begin (env : Env) (id : ContextId) (w : World)
    (carried : carries [] 0 request.totalLength) :
    AnsweredBy request carries
      (processDynamicBegin cfg env id request (Frame.initResponse (some request)) w).1 := by
  rcases processDynamicBegin_cases cfg env id request (Frame.initResponse (some request)) w with
    ⟨status, bad, result⟩ | ⟨_, _, status, bad, result⟩ | ⟨_, _, result⟩
  · rw [result]
    exact .refused status bad
  · rw [result]
    exact .refused status bad
  · rw [result]
    exact answered_ack carried (by decide) request.totalLength_lt

theorem answered_data (env : Env) (id : ContextId) (w : World)
    (carried : request.offset + request.payloadLength ≤ request.totalLength →
      carries [] (request.offset + request.payloadLength) request.totalLength) :
    AnsweredBy request carries
      (processDynamicData cfg env id request (Frame.initResponse (some request)) w).1 := by
  have bounded := request.totalLength_lt
  rcases processDynamicData_cases cfg env id request (Frame.initResponse (some request)) w with
    ⟨status, bad, result⟩ | ⟨_, _, status, bad, result⟩ | ⟨_, _, complete, result⟩ |
      ⟨_, _, _, _, result⟩ | ⟨valid, _, _, _, result⟩
  · rw [result]
    exact .refused status bad
  · rw [result]
    exact .refused status bad
  · rw [result]
    have ack := carried (le_of_eq complete)
    rw [complete] at ack
    exact answered_ack ack bounded bounded
  · rw [result]
    exact answered_error (by decide)
  · rw [result]
    have inside := valid.inside
    have fits := valid.fits
    exact answered_ack (carried (by omega)) (by omega) bounded

theorem answered_dynamicClear (env : Env) (id : ContextId) (w : World) (carried : carries [] 0 0) :
    AnsweredBy request carries
      (processDynamicClear cfg env id request (Frame.initResponse (some request)) w).1 := by
  unfold processDynamicClear
  dsimp only
  split
  · exact answered_error (by decide)
  split
  · exact answered_error (by decide)
  · exact answered_ack carried (by decide) (by decide)

theorem authInfoPayload_length (info : AuthCore.Info) :
    (authInfoPayload info).length = authInfoLength := by
  simp [authInfoPayload, putU32, AuthCore.putLe32, authInfoLength]

theorem answered_authInfo (env : Env) (w : World)
    (carried : w.auth.state ≠ .stateErrorLocked →
      carries (authInfoPayload (AuthCore.getInfo (env.clock .operation) w.auth).1) 0
        authInfoLength) :
    AnsweredBy request carries
      (processAuthInfo env request (Frame.initResponse (some request)) w).1 := by
  unfold processAuthInfo
  dsimp only
  split
  · exact answered_error (by decide)
  split
  · exact answered_error (by decide)
  next unlocked =>
    have state : w.auth.state ≠ .stateErrorLocked := by
      intro locked
      apply unlocked
      simp [AuthCore.getInfo, locked]
    have length := authInfoPayload_length (AuthCore.getInfo (env.clock .operation) w.auth).1
    rw [← length] at carried ⊢
    exact .accepted _ _ _ (carried state) (by rw [length]; decide) (by decide)
      (by rw [length]; decide)

theorem mapChallengeError_ne_ok (err : Int) : mapChallengeError err ≠ .ok := by
  unfold mapChallengeError
  repeat' split
  all_goals decide

theorem answered_authChallenge (cfg : Config) (env : Env) (w : World)
    (carried : ∀ nonce, env.random = some nonce →
      carries nonce.toList 0 AuthCore.nonceSize) :
    AnsweredBy request carries
      (processAuthChallenge cfg env request (Frame.initResponse (some request)) w).1 := by
  rcases processAuthChallenge_cases cfg env request (Frame.initResponse (some request)) w with
    result | ⟨outcome, auth, generated, result⟩
  · rw [result]
    exact answered_error (by decide)
  · rw [result]
    cases outcome with
    | error err => exact answered_error (mapChallengeError_ne_ok err)
    | ok nonce =>
      have random : env.random = some nonce := (AuthCore.generateChallenge_ok generated).2.1
      have length : nonce.toList.length = AuthCore.nonceSize := by simp [AuthCore.nonceSize]
      have ack := carried nonce random
      rw [← length] at ack
      simp only [challengeAnswer]
      rw [← length]
      exact .accepted _ _ _ ack (by rw [length]; decide) (by decide) (by rw [length]; decide)

theorem answered_authProve (cfg : Config) (hmac : Hmac) (env : Env) (id : ContextId) (w : World)
    (carried : carries [] 0 0) :
    AnsweredBy request carries
      (processAuthProve cfg hmac env id request (Frame.initResponse (some request)) w).1 := by
  rcases processAuthProve_cases cfg hmac env id request (Frame.initResponse (some request)) w with
    ⟨status, bad, result⟩ | ⟨err, auth, _, result⟩
  · rw [result]
    apply answered_error
    rcases bad with rfl | rfl
    · decide
    · decide
  · rw [result]
    dsimp only
    split
    · exact answered_ack carried (by decide) (by decide)
    · exact answered_error (mapProofError_ne_ok err)

theorem answered_lock (env : Env) (id : ContextId) (w : World) (carried : carries [] 0 0) :
    AnsweredBy request carries
      (processLock cfg env id request (Frame.initResponse (some request)) w).1 := by
  rcases processLock_cases cfg env id request (Frame.initResponse (some request)) w with
    result | result
  · rw [result]
    exact answered_error (by decide)
  · rw [result]
    exact answered_ack carried (by decide) (by decide)

theorem answered_capabilities
    (carried : carries (capabilityPayload cfg) 0 capabilityPayloadLength) :
    AnsweredBy request carries
      (processCapabilities cfg request (Frame.initResponse (some request))) := by
  unfold processCapabilities
  split
  · exact answered_error (by decide)
  split
  · exact answered_error (by decide)
  · exact .accepted (capabilityPayload cfg) 0 capabilityPayloadLength carried
      (le_of_eq rfl) (by decide) (by decide)

end Handlers

/-! ## The whole entry point -/

/-- The two length bytes of a slot in the LIST object. -/
def lengthBytes (slots : SlotStore) (slot : Nat) : List UInt8 :=
  [UInt8.ofNat (slots.slots slot).length, UInt8.ofNat ((slots.slots slot).length >>> 8)]

/-- There is a LIST object if every length fits its two bytes. -/
theorem listData_if (slots : SlotStore) :
    listData cfg slots = if ∀ slot < cfg.slotCount, (slots.slots slot).length ≤ 65535 then
      some (UInt8.ofNat cfg.slotCount :: (List.range cfg.slotCount).flatMap (lengthBytes slots))
      else none := by
  unfold listData
  apply foldl_range fun count data => data =
    if ∀ slot < count, (slots.slots slot).length ≤ 65535 then
      some (UInt8.ofNat cfg.slotCount :: (List.range count).flatMap (lengthBytes slots)) else none
  · simp
  · intro index inside data held
    have known : slots.slotGetLength cfg index = .ok (slots.slots index).length := by
      have valid : SlotStore.slotIsValid cfg index = true := decide_eq_true (by omega)
      rw [SlotStore.slotGetLength, if_neg (by simp [valid])]
    rw [held, known]
    by_cases small : ∀ slot < index, (slots.slots slot).length ≤ 65535
    · rw [if_pos small]
      dsimp only
      by_cases bounded : (slots.slots index).length ≤ 65535
      · have further : ∀ slot < index + 1, (slots.slots slot).length ≤ 65535 := by
          intro slot below
          rcases Nat.lt_succ_iff_lt_or_eq.mp below with earlier | rfl
          · exact small slot earlier
          · exact bounded
        rw [if_neg (by omega), if_pos further, List.range_succ, List.flatMap_append,
          List.flatMap_singleton]
        rfl
      · rw [if_pos (by omega), if_neg fun further => bounded (further index (by omega))]
    · rw [if_neg small, if_neg fun further => small fun slot below => further slot (by omega)]

/-- The LIST object, if there is one. -/
theorem listData_eq {slots : SlotStore} {object : List UInt8}
    (listed : listData cfg slots = some object) :
    object = UInt8.ofNat cfg.slotCount :: (List.range cfg.slotCount).flatMap (lengthBytes slots) ∧
      ∀ slot < cfg.slotCount, (slots.slots slot).length ≤ 65535 := by
  rw [listData_if] at listed
  split at listed
  next small =>
    cases listed
    exact ⟨rfl, small⟩
  · cases listed

theorem length_lengths (slots : SlotStore) (count : Nat) :
    ((List.range count).flatMap (lengthBytes slots)).length = 2 * count := by
  induction count with
  | zero => rfl
  | succ count ih =>
    rw [List.range_succ, List.flatMap_append, List.length_append, ih, List.flatMap_singleton]
    rfl

theorem listData_length {slots : SlotStore} {object : List UInt8}
    (listed : listData cfg slots = some object) : object.length = 1 + 2 * cfg.slotCount := by
  rw [(listData_eq listed).1, List.length_cons, length_lengths]
  omega

/-- A frame that passes the base validation is answered with an error or with
what its opcode carries. -/
theorem processFrame_answer {opcode : Opcode} (cfg : Config) (hmac : Hmac) (env : Env)
    (id : ContextId) (w : World) (passed : baseCheck request = .ok opcode) :
    AnsweredBy request (Carries cfg env w request opcode)
      (processFrame cfg hmac env id request w).1 := by
  simp only [processFrame, passed]
  have looked := observedSession_looked env w.auth
  have acked : ∀ {total : Nat}, request.offset + request.payloadLength ≤ total →
      total = request.totalLength → ([] : List UInt8) = [] ∧
      request.offset + request.payloadLength = request.offset + request.payloadLength ∧
      request.offset + request.payloadLength ≤ request.totalLength ∧
      request.totalLength = request.totalLength := by
    rintro total inside rfl
    exact ⟨rfl, rfl, inside, rfl⟩
  cases opcode with
  | list =>
    have small : ∀ object, listData cfg w.slots = some object → object.length < 65536 := by
      intro object listed
      have range := cfg.slotCount_range
      rw [listData_length listed]
      omega
    apply answered_management
    intro auth
    rw [World.withAuth_slots, syncAuthState_slots]
    apply answered_list w.slots _ small
    intro object listed bounded inside
    exact ⟨object, listed, bounded, inside, rfl, rfl, rfl⟩
  | get =>
    apply answered_management
    intro auth
    rw [World.withAuth_slots, syncAuthState_slots]
    apply answered_get
    intro snapshot length copied bounded inside
    exact ⟨snapshot, length, copied, bounded, inside, rfl, rfl, rfl⟩
  | set =>
    apply answered_management
    intro auth
    exact answered_set _ _ _ fun inside => acked inside rfl
  | clear =>
    apply answered_management
    intro auth
    exact answered_clear _ _ ⟨rfl, rfl, rfl⟩
  | authInfo =>
    apply answered_authInfo
    intro unlocked
    refine ⟨(syncAuthState cfg env id w).auth, ?_, unlocked, rfl, rfl, rfl⟩
    rw [syncAuthState_auth]
    exact looked
  | authChallenge =>
    apply answered_authChallenge
    intro nonce random
    exact ⟨nonce, random, rfl, rfl, rfl⟩
  | authProve => exact answered_authProve _ _ _ _ _ ⟨rfl, rfl, rfl⟩
  | passwordSet =>
    obtain ⟨auth, _, ⟨_, _, _, shut⟩ | ⟨_, _, granted⟩⟩ :=
      managementAccess_cases cfg env id (syncAuthState cfg env id w)
    · simp only [dispatch, shut]
      rw [if_pos (gateStatus_ne_ok _)]
      exact answered_error (gateStatus_ne_ok _)
    · simp only [dispatch, granted]
      rw [if_neg (by simp)]
      exact answered_passwordSet _ _ _ fun inside => acked inside rfl
  | lock => exact answered_lock _ _ _ ⟨rfl, rfl, rfl⟩
  | dynamicBegin => exact answered_begin _ _ _ ⟨rfl, rfl, rfl⟩
  | dynamicData => exact answered_data _ _ _ fun inside => acked inside rfl
  | dynamicClear => exact answered_dynamicClear _ _ _ ⟨rfl, rfl, rfl⟩
  | capabilities => exact answered_capabilities ⟨rfl, rfl, rfl⟩

/-- Any answer repeats the header of its request. -/
theorem processFrame_echoes (cfg : Config) (hmac : Hmac) (env : Env) (id : ContextId)
    (request : Frame) (w : World) :
    Echoes request (processFrame cfg hmac env id request w).1 := by
  cases passed : baseCheck request with
  | error status =>
    simp only [processFrame, passed]
    exact errorFrame_echoes
  | ok opcode => exact (processFrame_answer cfg hmac env id w passed).echoes

end RuntimeMacro.Source.Protocol
