import RuntimeMacro.Foundations.Checks
import RuntimeMacro.Source.World

/-!
# Protocol processing

runtime_macro_protocol.c:191-1425. A handler maps the request, the response
under construction and the world to the finished response and the next world.
Where a handler validates the request first, its checks are listed apart, in
the order of the source.
-/
namespace RuntimeMacro.Source.Protocol
open AuthCore (Credential Hmac)
open Foundations.Checks Foundations.ByteBuffer

def authInfoLength : Nat := 22

/-- `runtime_macro_protocol_put_u32` (runtime_macro_protocol.c:44-49). -/
def putU32 (value : Nat) : List UInt8 := AuthCore.putLe32 value

/-- `runtime_macro_protocol_get_u32` (runtime_macro_protocol.c:38-41). -/
def getU32 (data : List UInt8) : Nat := AuthCore.getLe32 data 0

/-- `runtime_macro_protocol_discard_for_opcode`
(runtime_macro_protocol.c:259-274): a malformed frame drops the transaction its
opcode would have continued, and no other. -/
def discardForOpcode (cfg : Config) (id : ContextId) (nowMs : Int) (opcode : UInt8) (w : World) :
    World :=
  match Opcode.ofByte opcode with
  | some .set => w.clearSet cfg id
  | some .passwordSet => w.clearPasswordSet id
  | some .dynamicBegin | some .dynamicData => w.clearDynamic cfg id nowMs
  | _ => w

/-! ## Capabilities -/

/-- `runtime_macro_protocol_dynamic_lifecycle_flags`
(runtime_macro_protocol.c:320-339). -/
def dynamicLifecycleFlags (cfg : Config) : Nat :=
  let fixed := (1 <<< 0) ||| (1 <<< 1) ||| (1 <<< 2) ||| (1 <<< 6)
  let flags := if cfg.dynamicClearOnUsbDisconnect then fixed ||| (1 <<< 3) else fixed
  let flags := if cfg.dynamicClearOnBleProfileChange then flags ||| (1 <<< 4) else flags
  if cfg.dynamicClearOnEndpointChange then flags ||| (1 <<< 5) else flags

def capabilityPayloadLength : Nat := 22

/-- The payload of CAPABILITIES, all of it constant but the number of slots and
the flags. -/
def capabilityPayload (cfg : Config) : List UInt8 :=
  let flags := dynamicLifecycleFlags cfg
  [2, UInt8.ofNat cfg.dynamicSlotCount, UInt8.ofNat flags, UInt8.ofNat (flags >>> 8),
    UInt8.ofNat dynamicSlotMaxTextLen, UInt8.ofNat (dynamicSlotMaxTextLen >>> 8)] ++
    putU32 dynamicDefaultTtlSeconds ++ putU32 dynamicMinTtlSeconds ++
    putU32 dynamicMaxTtlSeconds ++ putU32 dynamicTransactionTimeoutSeconds

/-- `runtime_macro_protocol_process_capabilities`
(runtime_macro_protocol.c:341-383). -/
def processCapabilities (cfg : Config) (request response : Frame) : Frame :=
  if DynamicStore.slotIsValid cfg request.slot.toNat = false then response.setError .badSlot
  else if request.hasEmptyObject = false then response.setError .badRequest
  else
    ((response.putPayload (capabilityPayload cfg)).putPayloadLength
      capabilityPayloadLength).setSuccess 0 capabilityPayloadLength

/-! ## Dynamic uploads -/

def keepAfterExecuteFlag : UInt8 := 1

/-- The TTL a BEGIN asks for, or the default. -/
def beginTtlSeconds (request : Frame) : Nat :=
  if request.payloadLength = 4 ∨ request.payloadLength = 5 then
    getU32 (request.payload request.payloadLength)
  else dynamicDefaultTtlSeconds

/-- The flags of a BEGIN: the single byte of a short payload, the last of a
long one, else none. -/
def beginFlags (request : Frame) : UInt8 :=
  if request.payloadLength = 1 then (request.payload request.payloadLength).getD 0 0
  else if request.payloadLength = 5 then (request.payload request.payloadLength).getD 4 0
  else 0

/-- The consume policy a BEGIN asks for: not to keep the text after
execution. -/
def beginConsumes (request : Frame) : Bool := beginFlags request &&& keepAfterExecuteFlag == 0

/-- The context once the store has accepted a BEGIN. -/
def startDynamic (request : Frame) (c : Context) : Context :=
  { c with dynamicActive := true
           dynamicSlot := request.slot.toNat
           dynamicRequestId := request.requestId
           dynamicTotalLength := request.totalLength
           dynamicReceivedLength := 0 }

/-- The checks of a BEGIN in their order, with the status each refuses with. -/
def beginChecks (cfg : Config) (request : Frame) : List (Bool × Status) :=
  let payloadLength := request.payloadLength
  [(!DynamicStore.slotIsValid cfg request.slot.toNat, .badSlot),
    (decide (request.offset ≠ 0), .badOffset),
    (decide (request.totalLength = 0 ∨ request.totalLength > dynamicSlotMaxTextLen), .badLength),
    (decide (payloadLength ≠ 0 ∧ payloadLength ≠ 1 ∧ payloadLength ≠ 4 ∧ payloadLength ≠ 5),
      .badLength),
    (decide (beginFlags request &&& ~~~keepAfterExecuteFlag ≠ 0), .badRequest),
    (decide (beginTtlSeconds request < dynamicMinTtlSeconds ∨
      beginTtlSeconds request > dynamicMaxTtlSeconds), .badLength)]

/-- `runtime_macro_protocol_process_dynamic_begin`
(runtime_macro_protocol.c:385-485). Whatever refuses the frame clears the
upload of the context, and with it the shared staging. -/
def processDynamicBegin (cfg : Config) (env : Env) (id : ContextId) (request response : Frame)
    (w : World) : Frame × World :=
  match firstFailure (beginChecks cfg request) with
  | some status => (response.setError status, w.clearDynamic cfg id (env.clock .cleanup))
  | none =>
    let (err, dynamic) := w.dynamic.beginSlot cfg request.slot.toNat request.totalLength
      (beginTtlSeconds request) (beginConsumes request) (env.clock .operation)
    let w := w.withDynamic dynamic
    let (err, w) :=
      if err = 0 then (w.modify id (startDynamic request)).refreshDynamicTimeout id env
      else (err, w)
    if err ≠ 0 then
      (response.setError (if err = -einval then .badLength else .internal),
        w.clearDynamic cfg id (env.clock .cleanup))
    else (response.setSuccess 0 request.totalLength, w)

/-- The end of the active upload, after its last chunk or the clear of its
slot. -/
def finishDynamic (id : ContextId) (w : World) : World :=
  let owner := w.timeoutOwner = some id
  { w with timeoutOwner := if owner then none else w.timeoutOwner
           timeoutWork := if owner then none else w.timeoutWork
           contexts := Function.update w.contexts id (w.contexts id).clearDynamic }

/-- The checks of a DATA in their order. A context without an upload refuses
after slot, lengths and offset are looked at. -/
def dataChecks (cfg : Config) (request : Frame) (c : Context) : List (Bool × Status) :=
  let slot := request.slot.toNat
  let payloadLength := request.payloadLength
  let offset := request.offset
  let totalLength := request.totalLength
  [(decide (DynamicStore.slotIsValid cfg slot = false ∨ (c.dynamicActive ∧ slot ≠ c.dynamicSlot)),
      .badSlot),
    (decide (totalLength = 0 ∨ totalLength > dynamicSlotMaxTextLen), .badLength),
    (decide (offset > totalLength), .badOffset),
    (decide (payloadLength = 0 ∨ payloadLength > totalLength - offset), .badLength),
    (decide (c.dynamicActive = false ∨ c.dynamicRequestId ≠ request.requestId ∨
      c.dynamicTotalLength ≠ totalLength), .badRequest),
    (decide (offset ≠ c.dynamicReceivedLength), .badOffset),
    (!request.setPayloadIsValid payloadLength, .invalidText)]

/-- `runtime_macro_protocol_process_dynamic_data`
(runtime_macro_protocol.c:487-605). The store may commit in the append; the
context compares its own count afterwards. -/
def processDynamicData (cfg : Config) (env : Env) (id : ContextId) (request response : Frame)
    (w : World) : Frame × World :=
  let c := w.contexts id
  match firstFailure (dataChecks cfg request c) with
  | some status => (response.setError status, w.clearDynamic cfg id (env.clock .cleanup))
  | none =>
    let (err, dynamic) := w.dynamic.appendSlot cfg request.slot.toNat request.offset
      (request.payload request.payloadLength) (env.clock .operation) (env.clock .commit)
      (env.clock .rearm)
    let w := w.withDynamic dynamic
    if err ≠ 0 then
      (response.setError (if err = -enoent then .badRequest else .internal),
        w.clearDynamic cfg id (env.clock .cleanup))
    else
      let nextOffset := request.offset + request.payloadLength
      let w := w.modify id fun c => { c with dynamicReceivedLength := nextOffset }
      if nextOffset = c.dynamicTotalLength then
        (response.setSuccess nextOffset request.totalLength, finishDynamic id w)
      else
        let (err, w) := w.refreshDynamicTimeout id env
        if err ≠ 0 then
          (response.setError .internal, w.clearDynamic cfg id (env.clock .cleanup))
        else (response.setSuccess nextOffset request.totalLength, w)

/-- `runtime_macro_protocol_process_dynamic_clear`
(runtime_macro_protocol.c:607-642). Refusals leave everything as it was. -/
def processDynamicClear (cfg : Config) (env : Env) (id : ContextId) (request response : Frame)
    (w : World) : Frame × World :=
  let slot := request.slot.toNat
  if DynamicStore.slotIsValid cfg slot = false then (response.setError .badSlot, w)
  else if request.hasEmptyObject = false then (response.setError .badRequest, w)
  else
    let w := w.withDynamic (w.dynamic.clearSlot cfg slot (env.clock .rearm))
    let c := w.contexts id
    let w := if c.dynamicActive ∧ c.dynamicSlot = slot then finishDynamic id w else w
    (response.setSuccess 0 0, w)

/-! ## The management gate -/

/-- `runtime_macro_protocol_management_access`
(runtime_macro_protocol.c:650-668), before any check of the opcode. It reads
the clock for the state and, on a protected device, again for the session. -/
def managementAccess (cfg : Config) (env : Env) (id : ContextId) (w : World) : Status × World :=
  let (state, auth) := AuthCore.getState (env.clock .gateState) w.auth
  let w := w.withAuth auth
  match state with
  | .stateErrorLocked => (.credentialInvalid, w.discard cfg id (env.clock .gateDiscard))
  | .stateProtected =>
    let (authenticated, auth) := AuthCore.isAuthenticated (env.clock .gateSession) w.auth
    let w := w.withAuth auth
    if authenticated then (.ok, w)
    else (.authRequired, w.discard cfg id (env.clock .gateDiscard))
  | .stateOpen => (.ok, w)

/-- `runtime_macro_protocol_refresh_protected_session`
(runtime_macro_protocol.c:670-685), on a success response. When the session has
run out since the gate, the response becomes AUTH_REQUIRED. -/
def refreshProtectedSession (cfg : Config) (env : Env) (id : ContextId) (response : Frame)
    (w : World) : Frame × World :=
  let (state, auth) := AuthCore.getState (env.clock .refreshState) w.auth
  let w := w.withAuth auth
  if state ≠ .stateProtected then (response, w)
  else
    let (err, auth) := AuthCore.refreshSession cfg (env.clock .refreshSession) w.auth
    let w := w.withAuth auth
    if err ≠ 0 then
      (response.setError .authRequired, w.discard cfg id (env.clock .refreshDiscard))
    else (response, w)

/-- `runtime_macro_protocol_sync_auth_state`
(runtime_macro_protocol.c:687-710): a context that was last used under another
state or session drops its transactions. -/
def syncAuthState (cfg : Config) (env : Env) (id : ContextId) (w : World) : World :=
  let (state, auth) := AuthCore.getState (env.clock .syncState) w.auth
  let (authenticated, auth) :=
    if state = .stateProtected then AuthCore.isAuthenticated (env.clock .syncSession) auth
    else (false, auth)
  let w := w.withAuth auth
  let c := w.contexts id
  let w :=
    if c.authStateKnown ∧ (c.authState ≠ state ∨ c.authSessionAuthenticated ≠ authenticated) then
      ((w.clearSet cfg id).clearPasswordSet id).clearDynamic cfg id (env.clock .syncDiscard)
    else w
  w.modify id (.observe state authenticated)

/-! ## Static slots -/

/-- The page of `data` that LIST and GET answer with. -/
def respondPage (request response : Frame) (data : List UInt8) : Frame :=
  let totalLength := data.length
  let offset := request.offset
  if offset > totalLength then response.setError .badOffset
  else
    let remaining := totalLength - offset
    let payloadLength := if remaining > payloadSize then payloadSize else remaining
    ((response.putPayload ((data.drop offset).take payloadLength)).putPayloadLength
      payloadLength).setSuccess offset totalLength

/-- The LIST object: the slot count, then the length of every slot. -/
def listData (cfg : Config) (slots : SlotStore) : Option (List UInt8) :=
  (List.range cfg.slotCount).foldl (fun data slot =>
    match data, slots.slotGetLength cfg slot with
    | some data, .ok length =>
      if length > 65535 then none
      else some (data ++ [UInt8.ofNat length, UInt8.ofNat (length >>> 8)])
    | _, _ => none) (some [UInt8.ofNat cfg.slotCount])

/-- `runtime_macro_protocol_process_list` (runtime_macro_protocol.c:712-773):
the number of slots and their lengths, from the offset asked for. -/
def processList (cfg : Config) (request response : Frame) (slots : SlotStore) : Frame :=
  if request.slot ≠ listSlot then response.setError .badRequest
  else if request.payloadLength ≠ 0 ∨ request.totalLength ≠ 0 then response.setError .badLength
  else if request.payloadTailIsZero 0 = false then response.setError .badRequest
  else
    match listData cfg slots with
    | none => response.setError .internal
    | some data => respondPage request response data

/-- `runtime_macro_protocol_process_get` (runtime_macro_protocol.c:775-829), on
one snapshot of the slot. -/
def processGet (cfg : Config) (request response : Frame) (slots : SlotStore) : Frame :=
  let slot := request.slot.toNat
  if SlotStore.slotIsValid cfg slot = false then response.setError .badSlot
  else if request.payloadLength ≠ 0 ∨ request.totalLength ≠ 0 then response.setError .badLength
  else if request.payloadTailIsZero 0 = false then response.setError .badRequest
  else
    match slots.slotCopy cfg slot (cfg.maxTextLen + 1) with
    | .error _ => response.setError .internal
    | .ok (snapshot, length) =>
      if length > 65535 then response.setError .internal
      else respondPage request response (snapshot.take length)

/-- `runtime_macro_protocol_commit_set` (runtime_macro_protocol.c:846-866). The
staging is cleared whatever the store answers; -EINVAL is read as an invalid
text, also when it is storage's. -/
def commitSet (cfg : Config) (env : Env) (id : ContextId) (response : Frame) (w : World) :
    Frame × World :=
  let c := w.contexts id
  let (err, slots, settings) := w.slots.slotSet cfg c.setSlot c.setStaging c.setTotalLength
    env.saveErr w.settings
  let w := { w with
    slots := slots
    settings := settings
    calls := w.calls ++ [Call.slotSet c.setSlot (c.setStaging.take c.setTotalLength) err] }
  let w := w.clearSet cfg id
  if err = 0 then (response.setSuccess c.setReceivedLength c.setTotalLength, w)
  else if err = -einval then (response.setError .invalidText, w)
  else (response.setError .storageError, w)

/-- The end of `runtime_macro_protocol_process_set`, with the chunk staged. -/
def finishSet (cfg : Config) (env : Env) (id : ContextId) (response : Frame) (w : World) :
    Frame × World :=
  let c := w.contexts id
  if c.setReceivedLength = c.setTotalLength then commitSet cfg env id response w
  else (response.setSuccess c.setReceivedLength c.setTotalLength, w)

/-- The checks every SET has to pass. -/
def setChecks (cfg : Config) (request : Frame) : List (Bool × Status) :=
  let payloadLength := request.payloadLength
  let offset := request.offset
  let totalLength := request.totalLength
  [(!SlotStore.slotIsValid cfg request.slot.toNat, .badSlot),
    (decide (totalLength > cfg.maxTextLen), .badLength),
    (decide (offset > totalLength), .badOffset),
    (decide (payloadLength > totalLength - offset), .badLength),
    (decide (totalLength ≠ 0 ∧ payloadLength = 0), .badLength),
    (!request.setPayloadIsValid payloadLength, .invalidText)]

/-- The checks of a chunk past offset 0 against the staging. -/
def setContinueChecks (request : Frame) (c : Context) : List (Bool × Status) :=
  [(decide (c.setActive = false ∨ c.setRequestId ≠ request.requestId ∨
      c.setSlot ≠ request.slot.toNat ∨ c.setTotalLength ≠ request.totalLength), .badRequest),
    (decide (request.offset ≠ c.setReceivedLength), .badOffset)]

/-- The staging after an offset-0 chunk. -/
def startSet (cfg : Config) (request : Frame) (c : Context) : Context :=
  let c := c.clearSet cfg
  { c with setActive := true
           setRequestId := request.requestId
           setSlot := request.slot.toNat
           setTotalLength := request.totalLength
           setReceivedLength := request.payloadLength
           setStaging := write c.setStaging 0 (request.payload request.payloadLength) }

/-- The staging after a chunk that continues it. -/
def extendSet (request : Frame) (c : Context) : Context :=
  { c with setStaging :=
             write c.setStaging request.offset (request.payload request.payloadLength)
           setReceivedLength := c.setReceivedLength + request.payloadLength }

/-- `runtime_macro_protocol_process_set` (runtime_macro_protocol.c:868-967). A
chunk at offset 0 starts over, any other has to continue the transaction of the
context. -/
def processSet (cfg : Config) (env : Env) (id : ContextId) (request response : Frame)
    (w : World) : Frame × World :=
  match firstFailure (setChecks cfg request) with
  | some status => (response.setError status, w.clearSet cfg id)
  | none =>
    if request.offset = 0 then
      finishSet cfg env id response (w.modify id (startSet cfg request))
    else
      match firstFailure (setContinueChecks request (w.contexts id)) with
      | some status => (response.setError status, w.clearSet cfg id)
      | none => finishSet cfg env id response (w.modify id (extendSet request))

/-- `runtime_macro_protocol_process_clear` (runtime_macro_protocol.c:969-993).
It leaves the SET staging alone. -/
def processClear (cfg : Config) (env : Env) (request response : Frame) (w : World) :
    Frame × World :=
  let slot := request.slot.toNat
  if SlotStore.slotIsValid cfg slot = false then (response.setError .badSlot, w)
  else if request.hasEmptyObject = false ∨ request.payloadTailIsZero 0 = false then
    (response.setError .badRequest, w)
  else
    let (err, slots, settings) := w.slots.slotClear cfg slot env.deleteErr w.settings
    let w := { w with
      slots := slots
      settings := settings
      calls := w.calls ++ [Call.slotClear slot err] }
    if err ≠ 0 then (response.setError .storageError, w) else (response.setSuccess 0 0, w)

/-! ## Authentication -/

/-- Flags, KDF, iterations and salt. Nothing here is secret. -/
def authInfoPayload (info : AuthCore.Info) : List UInt8 :=
  let flags : UInt8 := if info.state = .stateProtected then 1 else 0
  let flags := if info.sessionAuthenticated then flags ||| 2 else flags
  [flags, info.kdfId] ++ putU32 info.iterations ++ info.salt.toList

/-- `runtime_macro_protocol_process_auth_info`
(runtime_macro_protocol.c:995-1037). -/
def processAuthInfo (env : Env) (request response : Frame) (w : World) : Frame × World :=
  if request.slot ≠ listSlot ∨ request.hasEmptyObject = false then
    (response.setError .badRequest, w)
  else
    let (info, auth) := AuthCore.getInfo (env.clock .operation) w.auth
    let w := w.withAuth auth
    if info.state = .stateErrorLocked then (response.setError .credentialInvalid, w)
    else
      (((response.putPayload (authInfoPayload info)).putPayloadLength authInfoLength).setSuccess 0
        authInfoLength, w)

/-- `runtime_macro_protocol_map_challenge_error`
(runtime_macro_protocol.c:1039-1053). -/
def mapChallengeError (err : Int) : Status :=
  if err = -enodata then .authNotConfigured
  else if err = -eagain then .rateLimited
  else if err = -eperm then .credentialInvalid
  else .internal

/-- `runtime_macro_protocol_process_auth_challenge`
(runtime_macro_protocol.c:1055-1082). -/
def processAuthChallenge (cfg : Config) (env : Env) (request response : Frame) (w : World) :
    Frame × World :=
  if request.slot ≠ listSlot ∨ request.hasEmptyObject = false then
    (response.setError .badRequest, w)
  else
    let (outcome, auth) := AuthCore.generateChallenge cfg (some AuthCore.nonceSize)
      (env.clock .operation) env.random w.auth
    let w := w.withAuth auth
    match outcome with
    | .error err => (response.setError (mapChallengeError err), w)
    | .ok nonce =>
      (((response.putPayload nonce.toList).putPayloadLength AuthCore.nonceSize).setSuccess 0
        AuthCore.nonceSize, w)

/-- `runtime_macro_protocol_map_proof_error`
(runtime_macro_protocol.c:1084-1102). -/
def mapProofError (err : Int) : Status :=
  if err = -enodata then .authNotConfigured
  else if err = -enoent then .authNoChallenge
  else if err = -eagain then .rateLimited
  else if err = -eacces then .authFailed
  else if err = -eperm then .credentialInvalid
  else .internal

/-- `runtime_macro_protocol_process_auth_prove`
(runtime_macro_protocol.c:1104-1142). The context is discarded on every path,
the refusals included. -/
def processAuthProve (cfg : Config) (hmac : Hmac) (env : Env) (id : ContextId)
    (request response : Frame) (w : World) : Frame × World :=
  if request.slot ≠ listSlot then
    (response.setError .badRequest, w.discard cfg id (env.clock .cleanup))
  else if request.offset ≠ 0 ∨ request.totalLength ≠ AuthCore.proofSize ∨
      request.payloadLength ≠ AuthCore.proofSize then
    (response.setError .badLength, w.discard cfg id (env.clock .cleanup))
  else
    let (err, auth) := AuthCore.verifyProof cfg hmac (some (request.payload AuthCore.proofSize))
      (env.clock .operation) env.hmacFails w.auth
    let w := w.withAuth auth
    if err ≠ 0 then
      (response.setError (mapProofError err), w.discard cfg id (env.clock .cleanup))
    else (response.setSuccess 0 0, w.discard cfg id (env.clock .cleanup))

/-- The credential in a complete PASSWORD_SET object. -/
def stagedCredential (staging : List UInt8) : Credential where
  iterations := getU32 staging
  salt := AuthCore.readBytes 16 staging 4
  key := AuthCore.readBytes 32 staging 20

/-- The end of `runtime_macro_protocol_process_password_set`, with all chunks
received. -/
def commitPasswordSet (cfg : Config) (env : Env) (id : ContextId) (response : Frame)
    (w : World) : Frame × World :=
  let credential := stagedCredential (w.contexts id).passwordSetStaging
  let (err, auth, settings) := AuthCore.setCredential (some credential) (env.clock .operation)
    env.saveErr w.auth w.settings
  let w := { w with
    auth := auth
    settings := settings
    calls := w.calls ++ [Call.setCredential credential err] }
  let w := w.clearPasswordSet id
  if err = 0 then
    (response.setSuccess passwordSetLength passwordSetLength,
      w.discard cfg id (env.clock .cleanup))
  else if err = -einval ∨ err = -eperm then (response.setError .credentialInvalid, w)
  else if err = -eacces then
    (response.setError .authRequired, w.discard cfg id (env.clock .cleanup))
  else (response.setError .storageError, w)

/-- What follows in `runtime_macro_protocol_process_password_set` once the
chunk is staged. -/
def finishPasswordSet (cfg : Config) (env : Env) (id : ContextId) (response : Frame)
    (w : World) : Frame × World :=
  let c := w.contexts id
  if c.passwordSetReceivedLength ≠ c.passwordSetTotalLength then
    refreshProtectedSession cfg env id
      (response.setSuccess c.passwordSetReceivedLength c.passwordSetTotalLength) w
  else commitPasswordSet cfg env id response w

/-- The checks every PASSWORD_SET has to pass. -/
def passwordSetChecks (request : Frame) : List (Bool × Status) :=
  let payloadLength := request.payloadLength
  let offset := request.offset
  let totalLength := request.totalLength
  [(decide (request.slot ≠ listSlot), .badRequest),
    (decide (totalLength ≠ passwordSetLength), .badLength),
    (decide (offset > totalLength), .badOffset),
    (decide (payloadLength = 0 ∨ payloadLength > totalLength - offset), .badLength)]

/-- The checks of a chunk past offset 0 against the staging. -/
def passwordSetContinueChecks (request : Frame) (c : Context) : List (Bool × Status) :=
  [(decide (c.passwordSetActive = false ∨ c.passwordSetRequestId ≠ request.requestId ∨
      c.passwordSetTotalLength ≠ request.totalLength), .badRequest),
    (decide (request.offset ≠ c.passwordSetReceivedLength), .badOffset)]

/-- The staging after an offset-0 chunk. -/
def startPasswordSet (request : Frame) (c : Context) : Context :=
  let c := c.clearPasswordSet
  { c with passwordSetActive := true
           passwordSetRequestId := request.requestId
           passwordSetTotalLength := request.totalLength
           passwordSetReceivedLength := request.payloadLength
           passwordSetStaging :=
             write c.passwordSetStaging 0 (request.payload request.payloadLength) }

/-- The staging after a chunk that continues it. -/
def extendPasswordSet (request : Frame) (c : Context) : Context :=
  { c with passwordSetStaging :=
             write c.passwordSetStaging request.offset (request.payload request.payloadLength)
           passwordSetReceivedLength := c.passwordSetReceivedLength + request.payloadLength }

/-- `runtime_macro_protocol_process_password_set`
(runtime_macro_protocol.c:1144-1264). An incomplete object refreshes the
session; the chunk that completes it replaces the credential. -/
def processPasswordSet (cfg : Config) (env : Env) (id : ContextId) (request response : Frame)
    (w : World) : Frame × World :=
  match firstFailure (passwordSetChecks request) with
  | some status => (response.setError status, w.clearPasswordSet id)
  | none =>
    if request.offset = 0 then
      finishPasswordSet cfg env id response (w.modify id (startPasswordSet request))
    else
      match firstFailure (passwordSetContinueChecks request (w.contexts id)) with
      | some status => (response.setError status, w.clearPasswordSet id)
      | none => finishPasswordSet cfg env id response (w.modify id (extendPasswordSet request))

/-- `runtime_macro_protocol_process_lock`
(runtime_macro_protocol.c:1266-1281). -/
def processLock (cfg : Config) (env : Env) (id : ContextId) (request response : Frame)
    (w : World) : Frame × World :=
  if request.slot ≠ listSlot ∨ request.hasEmptyObject = false then
    (response.setError .badRequest, w)
  else
    let w := w.withAuth (AuthCore.lock w.auth)
    (response.setSuccess 0 0, w.discard cfg id (env.clock .cleanup))

/-! ## The entry point -/

/-- A management handler behind the gate; the session is refreshed after a
success. -/
def processManagement (cfg : Config) (env : Env) (id : ContextId)
    (handler : World → Frame × World) (response : Frame) (w : World) : Frame × World :=
  let (access, w) := managementAccess cfg env id w
  if access ≠ .ok then (response.setError access, w)
  else
    let (response, w) := handler w
    if response.status = Status.ok.code then refreshProtectedSession cfg env id response w
    else (response, w)

/-- The switch over the opcode. -/
def dispatch (cfg : Config) (hmac : Hmac) (env : Env) (id : ContextId) (opcode : Opcode)
    (request response : Frame) (w : World) : Frame × World :=
  match opcode with
  | .capabilities => (processCapabilities cfg request response, w)
  | .dynamicBegin => processDynamicBegin cfg env id request response w
  | .dynamicData => processDynamicData cfg env id request response w
  | .dynamicClear => processDynamicClear cfg env id request response w
  | .authInfo => processAuthInfo env request response w
  | .authChallenge => processAuthChallenge cfg env request response w
  | .authProve => processAuthProve cfg hmac env id request response w
  | .lock => processLock cfg env id request response w
  | .list =>
    processManagement cfg env id (fun w => (processList cfg request response w.slots, w)) response w
  | .get =>
    processManagement cfg env id (fun w => (processGet cfg request response w.slots, w)) response w
  | .set => processManagement cfg env id (processSet cfg env id request response) response w
  | .clear => processManagement cfg env id (processClear cfg env request response) response w
  | .passwordSet =>
    let (access, w) := managementAccess cfg env id w
    if access ≠ .ok then (response.setError access, w)
    else processPasswordSet cfg env id request response w

/-- The base frame validation: the status of the first check that fails. -/
def baseCheck (request : Frame) : Except Status Opcode :=
  if request.version ≠ protocolVersion then .error .badVersion
  else
    match Opcode.ofByte request.opcode with
    | none => .error .badOpcode
    | some opcode =>
      if request.status ≠ 0 then .error .badRequest
      else if request.payloadLength > payloadSize then .error .badLength
      else if request.payloadTailIsZero request.payloadLength = false then .error .badRequest
      else .ok opcode

/-- `zmk_runtime_macro_protocol_process` on three non-NULL pointers. -/
def processFrame (cfg : Config) (hmac : Hmac) (env : Env) (id : ContextId) (request : Frame)
    (w : World) : Frame × World :=
  let response := Frame.initResponse (some request)
  let w := syncAuthState cfg env id w
  match baseCheck request with
  | .error status =>
    -- An unknown opcode is answered without the discard, which does nothing for it.
    (response.setError status,
      discardForOpcode cfg id (env.clock .cleanup) request.opcode w)
  | .ok opcode => dispatch cfg hmac env id opcode request response w

/-- `zmk_runtime_macro_protocol_process` (runtime_macro_protocol.c:1288-1425):
the returned code, and the response unless its pointer is NULL. The old content
of the response is overwritten first. -/
def process (cfg : Config) (hmac : Hmac) (env : Env) (protocol : Option ContextId)
    (request response : Option Frame) (w : World) : Int × Option Frame × World :=
  match response with
  | none => (-einval, none, w)
  | some _ =>
    match request with
    | none => (-einval, some (Frame.initResponse none), w)
    | some request =>
      match protocol with
      | none => (0, some ((Frame.initResponse (some request)).setError .internal), w)
      | some id =>
        let (response, w) := processFrame cfg hmac env id request w
        (0, some response, w)

end RuntimeMacro.Source.Protocol
