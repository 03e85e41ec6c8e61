import RuntimeMacro.Foundations.Checks
import RuntimeMacro.Foundations.Dialogues
import RuntimeMacro.Source.AuthCore
import RuntimeMacro.Source.Frame

/-!
# The host client

tools/runtime_macro_cli.py:204-1244. A method of `RuntimeMacroClient` is a
procedure that asks the transport for the answer to a frame; its variable is
`_next_request_id`. The attribute `retries` and the attribute `_set_slot` are
arguments. The functions that the client takes from Python's library are the
fields of `Host`, and the random salt is an argument.
-/
namespace RuntimeMacro.Source.RuntimeMacroClient
open Foundations.Checks Foundations.Dialogues Foundations.Dialogues.Procedure
open Foundations.LittleEndian

def authIterationsDefault : Nat := 600000
def authIterationsMin : Nat := 100000
def authIterationsMax : Nat := 5000000
def authSaltSize : Nat := 16
def authNonceSize : Nat := 16
def authProofSize : Nat := 16
def authInfoSize : Nat := 22
def authKdfId : Nat := 1
def authDomain : List UInt8 := ascii "ZMK-RUNTIME-MACRO-AUTH-V2"
def dynamicCapabilityVersion : Nat := 2
def dynamicCapabilityVersionV1 : Nat := 1
def dynamicObjectCountMin : Nat := 1
def dynamicObjectCountMax : Nat := 8
def dynamicCapabilitySlot : Nat := 0
def dynamicMaxLength : Nat := 512
def dynamicDefaultTtlSeconds : Nat := 300
def dynamicMinTtlSeconds : Nat := 1
def dynamicMaxTtlSeconds : Nat := 86400
def dynamicTransactionTimeoutSeconds : Nat := 30
def dynamicLifecycleKnownMask : Nat := 0x7F
def dynamicLifecycleRequiredMask : Nat := 0x07
def dynamicLifecycleSupportsKeep : Nat := 0x40
def dynamicCapabilitiesSize : Nat := 22
def dynamicBeginFlagKeep : UInt8 := 1

/-! ## Exceptions -/

/-- `TimeoutError`, or another `TransportError`. -/
inductive TransportFault where
  | timeoutError | broken
  deriving DecidableEq, Repr

/-- The exceptions of runtime_macro_cli.py:150-218 and `ValueError`.
`LegacyFirmwareError` and `DynamicUnsupportedError` are remote errors,
`DynamicV1Error` and `PasswordSetUnconfirmed` protocol errors. -/
inductive ClientError where
  | transportError (fault : TransportFault)
  | protocolError (message : String)
  | dynamicV1Error
  | passwordSetUnconfirmed
  | remoteError (status : UInt8)
  | legacyFirmwareError
  | dynamicUnsupportedError
  | valueError (message : String)
  | passwordSetTimeout (fault : TransportFault) (finalChunk : Bool)
  deriving DecidableEq, Repr

namespace ClientError

/-- Whether a retry may help: no answer came, or none that could be read. -/
def isTransport : ClientError → Bool
  | .transportError _ => true
  | _ => false

/-- An instance of `ProtocolError`. -/
def isProtocol : ClientError → Bool
  | .protocolError _ | .dynamicV1Error | .passwordSetUnconfirmed => true
  | _ => false

/-- The status of a `RemoteError`. -/
def status : ClientError → Option UInt8
  | .remoteError status => some status
  | .legacyFirmwareError => some Status.badVersion.code
  | .dynamicUnsupportedError => some Status.badOpcode.code
  | _ => none

/-- Only a lost transaction context may be restarted. -/
def isContextLost (error : ClientError) : Bool :=
  error.status == some Status.badRequest.code || error.status == some Status.badOffset.code

end ClientError

/-! ## Frames -/

/-- What the transport hands to the client: a frame, or why there is none. -/
abbrev Answer := Except TransportFault Frame

/-- A client procedure asks frames and threads the counter of request ids. -/
abbrev Client := Procedure Frame Answer UInt8 ClientError

/-- Any exception of a pure function. -/
def fromExcept {α : Type} : Except ClientError α → Client α
  | .ok value => pure value
  | .error error => throw error

/-- Raises the error of the first check that fails. -/
def require (checks : List (Bool × ClientError)) : Client Unit :=
  match firstFailure checks with
  | some error => throw error
  | none => pure ()

/-- `build_frame` (runtime_macro_cli.py:230-257) with the checks that an
argument of a caller can fail: the slot, the payload, offset and total
length. -/
def buildFrame (opcode : Opcode) (requestId : UInt8) (slot : Nat) (payload : List UInt8)
    (offset totalLength : Nat) : Except ClientError Frame :=
  if slot > 0xFF then .error (.valueError "request_id and slot must fit in one byte")
  else if payload.length > payloadSize then
    .error (.valueError "payload exceeds one protocol frame")
  else if offset > 0xFFFF ∨ totalLength > 0xFFFF then
    .error (.valueError "offset and total_length must fit in uint16")
  else .ok (Frame.build opcode requestId (UInt8.ofNat slot) offset totalLength payload)

/-- `validate_dynamic_slot` (runtime_macro_cli.py:260-272), against the bound
of the protocol and not that of the device. -/
def validateDynamicSlot (slot : Nat) : Except ClientError Nat :=
  if slot < dynamicObjectCountMax then .ok slot
  else .error (.valueError "dynamic slot must be between 0 and 7")

/-- The bytes that `validate_ascii` lets pass. -/
def textByte (value : UInt8) : Bool :=
  decide (0x20 ≤ value ∧ value ≤ 0x7E) || value == 0x08 || value == 0x09 || value == 0x0A

/-- `0x%02x`. -/
def hexByte (value : UInt8) : String :=
  "0x" ++ String.ofList [Nat.digitChar (value.toNat / 16), Nat.digitChar (value.toNat % 16)]

/-- `validate_ascii` (runtime_macro_cli.py:275-281). -/
def validateAscii (data : List UInt8) : Except ClientError Unit :=
  match data.find? fun value => !textByte value with
  | some value => .error (.valueError ("unsupported text byte " ++ hexByte value ++
      "; only printable ASCII, LF, TAB, and Backspace are allowed"))
  | none => .ok ()

/-- The response `HidTransport.exchange` waits for; any other is skipped. -/
def answersTo (response request : Frame) : Bool :=
  response.requestId == request.requestId && response.opcode == request.opcode &&
    response.slot == request.slot

/-- `HidTransport.exchange`. -/
def exchange (request : Frame) : Client Frame := do
  match ← ask request with
  | .ok response => return response
  | .error fault => throw (.transportError fault)

/-- The keys of `STATUS_NAMES`. -/
def statusCodes : List UInt8 :=
  [0, 1, 2, 3, 4, 5, 6, 7, 8, 9, 10, 11, 12, 13, 14, 15]

/-- The checks of `validate_response` in their order, with the text of each. -/
def responseChecks (response request : Frame) : List (Bool × ClientError) :=
  [(decide (response.version ≠ request.version),
      .protocolError "response version does not match request"),
    (decide (response.opcode ≠ request.opcode),
      .protocolError "response opcode does not match request"),
    (decide (response.requestId ≠ request.requestId),
      .protocolError "response request_id does not match request"),
    (decide (response.slot ≠ request.slot),
      .protocolError "response slot does not match request"),
    (!statusCodes.contains response.status,
      .protocolError ("response has unknown status " ++ toString response.status)),
    (decide (response.payloadLength > payloadSize),
      .protocolError "response payload length exceeds 22 bytes"),
    (!response.payloadTailIsZero response.payloadLength,
      .protocolError "response payload padding is not zero")]

/-- `validate_response` (runtime_macro_cli.py:466-489): the header fields of
the request, a known status, a payload that fits with zeros behind it, and an
error with nothing else in it. -/
def validateResponse (response request : Frame) : Except ClientError Nat :=
  match firstFailure (responseChecks response request) with
  | some error => .error error
  | none =>
    if response.status ≠ Status.ok.code then
      if response.payloadLength ≠ 0 ∨ response.offset ≠ 0 ∨ response.totalLength ≠ 0 then
        .error (.protocolError "error response contains payload or non-zero range")
      else .error (.remoteError response.status)
    else .ok response.payloadLength

/-! ## Calls -/

/-- `_request_id` (runtime_macro_cli.py:624-627): the counter wraps after 256
requests. -/
def requestId : Client UInt8 := do
  let value ← get
  set (value + 1)
  return value

/-- `_call` (runtime_macro_cli.py:629-637). -/
def call (frame : Frame) : Client Frame := do
  let response ← exchange frame
  match validateResponse response frame with
  | .ok _ => return response
  | .error error =>
    throw (if error = .remoteError Status.badVersion.code then .legacyFirmwareError else error)

/-- `_retry_call` (runtime_macro_cli.py:944-955). -/
def retryCall {α : Type} (retries : Nat) (operation : Client α) : Client α :=
  attempts ClientError.isTransport operation retries

/-- `_call_with_timeout_retry` (runtime_macro_cli.py:639-653): every attempt is
a frame of its own, under a new request id. -/
def callWithTimeoutRetry (retries : Nat) (makeFrame : UInt8 → Except ClientError Frame) :
    Client Frame :=
  retryCall retries do
    let request ← fromExcept (makeFrame (← requestId))
    call request

/-- `_validate_empty_ack` (runtime_macro_cli.py:655-662). -/
def validateEmptyAck (response : Frame) (operation : String) : Client Unit :=
  require [(decide (response.payloadLength ≠ 0 ∨ response.offset ≠ 0 ∨
    response.totalLength ≠ 0), .protocolError (operation ++ " acknowledgement is not empty"))]

/-- `_validate_chunk_ack` (runtime_macro_cli.py:664-673). -/
def validateChunkAck (response : Frame) (operation : String) (expectedOffset total : Nat) :
    Client Unit :=
  require [(decide (response.payloadLength ≠ 0),
      .protocolError (operation ++ " acknowledgement contains a payload")),
    (decide (response.offset ≠ expectedOffset),
      .protocolError (operation ++ " acknowledgement offset is incorrect")),
    (decide (response.totalLength ≠ total),
      .protocolError (operation ++ " acknowledgement total length is incorrect"))]

/-- `data[start:stop]`. -/
def slice (data : List UInt8) (start stop : Nat) : List UInt8 :=
  (data.drop start).take (stop - start)

/-- `range(0, length, PAYLOAD_SIZE)`. -/
def chunkOffsets (length : Nat) : List Nat :=
  List.range' 0 ((length + 21) / payloadSize) payloadSize

/-! ## Dynamic macros -/

/-- `DynamicCapabilities` (runtime_macro_cli.py:520-551). -/
structure DynamicCapabilities where
  capabilityVersion : Nat
  dynamicObjectCount : Nat
  lifecycleFlags : Nat
  maxDynamicLength : Nat
  defaultTtlSeconds : Nat
  minTtlSeconds : Nat
  maxTtlSeconds : Nat
  transactionTimeoutSeconds : Nat
  deriving DecidableEq, Repr

/-- `supports_keep_after_execute`: one bit of the lifecycle flags. -/
def DynamicCapabilities.supportsKeepAfterExecute (capabilities : DynamicCapabilities) : Bool :=
  capabilities.lifecycleFlags &&& dynamicLifecycleSupportsKeep != 0

/-- The little-endian fields of a CAPABILITIES answer. -/
def decodeCapabilities (payload : List UInt8) : DynamicCapabilities where
  capabilityVersion := (payload.getD 0 0).toNat
  dynamicObjectCount := (payload.getD 1 0).toNat
  lifecycleFlags := leValue (slice payload 2 4)
  maxDynamicLength := leValue (slice payload 4 6)
  defaultTtlSeconds := leValue (slice payload 6 10)
  minTtlSeconds := leValue (slice payload 10 14)
  maxTtlSeconds := leValue (slice payload 14 18)
  transactionTimeoutSeconds := leValue (slice payload 18 22)

/-- One comparison of `_dynamic_capabilities_once`, with the text that names
its field. -/
def fieldCheck (field : String) (value expected : Nat) : Bool × ClientError :=
  (decide (value ≠ expected), .protocolError ("CAPABILITIES response has invalid " ++ field ++
    ": " ++ toString value))

/-- The comparisons of `_dynamic_capabilities_once` in their order. A first
version of the protocol has an error of its own. -/
def capabilityChecks (values : DynamicCapabilities) : List (Bool × ClientError) :=
  [(decide (values.capabilityVersion = dynamicCapabilityVersionV1), .dynamicV1Error),
    (decide (values.capabilityVersion ≠ dynamicCapabilityVersion),
      .protocolError ("CAPABILITIES response has an unknown capability version " ++
        toString values.capabilityVersion ++ "; the client requires " ++
        toString dynamicCapabilityVersion)),
    (decide (values.dynamicObjectCount < dynamicObjectCountMin ∨
        values.dynamicObjectCount > dynamicObjectCountMax),
      .protocolError ("CAPABILITIES response has an invalid object count: " ++
        toString values.dynamicObjectCount)),
    (decide (values.lifecycleFlags &&& (0xFFFF - dynamicLifecycleKnownMask) ≠ 0),
      .protocolError "CAPABILITIES response contains reserved lifecycle flags"),
    (decide (values.lifecycleFlags &&& dynamicLifecycleRequiredMask ≠
        dynamicLifecycleRequiredMask),
      .protocolError "CAPABILITIES response disables a required lifecycle flag"),
    fieldCheck "max_dynamic_length" values.maxDynamicLength dynamicMaxLength,
    fieldCheck "default_ttl_seconds" values.defaultTtlSeconds dynamicDefaultTtlSeconds,
    fieldCheck "min_ttl_seconds" values.minTtlSeconds dynamicMinTtlSeconds,
    fieldCheck "max_ttl_seconds" values.maxTtlSeconds dynamicMaxTtlSeconds,
    fieldCheck "transaction_timeout_seconds" values.transactionTimeoutSeconds
      dynamicTransactionTimeoutSeconds]

/-- The `except` clause around the CAPABILITIES call. -/
def capabilitiesError (error : ClientError) : ClientError :=
  if error.status = some Status.badOpcode.code then .dynamicUnsupportedError
  else if error.status = some Status.badSlot.code then .dynamicV1Error
  else error

/-- `_dynamic_capabilities_once` (runtime_macro_cli.py:675-743): the values
are compared with those of the protocol, the number of slots only with its
range. -/
def dynamicCapabilitiesOnce : Client DynamicCapabilities := do
  let request ← fromExcept (buildFrame .capabilities (← requestId) dynamicCapabilitySlot [] 0 0)
  let response ← tryCatch (call request) fun error => throw (capabilitiesError error)
  require [(decide (response.payloadLength ≠ dynamicCapabilitiesSize ∨ response.offset ≠ 0 ∨
      response.totalLength ≠ dynamicCapabilitiesSize),
    .protocolError "CAPABILITIES response has invalid length or metadata")]
  let values := decodeCapabilities (response.payload dynamicCapabilitiesSize)
  require (capabilityChecks values)
  return values

/-- `get_capabilities` (runtime_macro_cli.py:745-747). -/
def getCapabilities (retries : Nat) : Client DynamicCapabilities :=
  retryCall retries dynamicCapabilitiesOnce

/-- `_validate_dynamic_input` (runtime_macro_cli.py:749-764). -/
def validateDynamicInput (data : List UInt8) (ttlSeconds : Option Nat) :
    Except ClientError (List UInt8) :=
  if data.length < 1 ∨ data.length > dynamicMaxLength then
    .error (.valueError "dynamic text length must be between 1 and 512 bytes")
  else
    match validateAscii data with
    | .error error => .error error
    | .ok _ =>
      if ttlSeconds.any fun ttl => decide (ttl < dynamicMinTtlSeconds ∨ ttl > dynamicMaxTtlSeconds)
      then .error (.valueError "dynamic TTL must be between 1 and 86400 seconds")
      else .ok data

/-- The BEGIN payload: no TTL asks for the default, no flag for consumption. -/
def ttlPayload (ttlSeconds : Option Nat) (keepAfterExecute : Bool) : List UInt8 :=
  (match ttlSeconds with
    | none => []
    | some ttl => leBytes 4 ttl) ++ if keepAfterExecute then [dynamicBeginFlagKeep] else []

/-- One round of the loop in `_upload_dynamic_once`. -/
def uploadChunk (slot : Nat) (data : List UInt8) (requestId : UInt8) (offset : Nat) :
    Client Unit := do
  let chunk := slice data offset (offset + payloadSize)
  let request ← fromExcept (buildFrame .dynamicData requestId slot chunk offset data.length)
  let response ← call request
  validateChunkAck response "DYNAMIC_DATA" (offset + chunk.length) data.length

/-- `_upload_dynamic_once` (runtime_macro_cli.py:766-807): one BEGIN and the
chunks, all under one request id. -/
def uploadDynamicOnce (slot : Nat) (data : List UInt8) (ttlSeconds : Option Nat)
    (keepAfterExecute : Bool) (requestId : UInt8) : Client Unit := do
  let begins ← fromExcept (buildFrame .dynamicBegin requestId slot
    (ttlPayload ttlSeconds keepAfterExecute) 0 data.length)
  let response ← call begins
  validateChunkAck response "DYNAMIC_BEGIN" 0 data.length
  (chunkOffsets data.length).forM (uploadChunk slot data requestId)

/-- What the capabilities of the device rule out. -/
def deviceChecks (slot : Nat) (data : List UInt8) (ttlSeconds : Option Nat)
    (keepAfterExecute : Bool) (capabilities : DynamicCapabilities) : List (Bool × ClientError) :=
  [(decide (slot ≥ capabilities.dynamicObjectCount),
      .valueError ("dynamic slot " ++ toString slot ++ " is outside the firmware range 0.." ++
        toString (capabilities.dynamicObjectCount - 1))),
    (decide (data.length > capabilities.maxDynamicLength),
      .valueError ("dynamic text exceeds firmware limit of " ++
        toString capabilities.maxDynamicLength ++ " bytes")),
    (ttlSeconds.any fun ttl => decide (ttl < capabilities.minTtlSeconds ∨
        ttl > capabilities.maxTtlSeconds),
      .valueError ("dynamic TTL must be between " ++ toString capabilities.minTtlSeconds ++
        " and " ++ toString capabilities.maxTtlSeconds ++ " seconds")),
    (keepAfterExecute && !capabilities.supportsKeepAfterExecute,
      .protocolError "firmware does not support keep-after-execute dynamic macros")]

/-- A transaction whose context was lost, or that got no answer, starts
over. -/
def restarts (error : ClientError) : Bool := error.isTransport || error.isContextLost

/-- `upload_dynamic` (runtime_macro_cli.py:809-863). A transport error,
BAD_REQUEST and BAD_OFFSET start the upload over under a new request id; any
other error ends it. -/
def uploadDynamic (retries : Nat) (slot : Nat) (data : List UInt8) (ttlSeconds : Option Nat)
    (keepAfterExecute : Bool) : Client Unit := do
  let slot ← fromExcept (validateDynamicSlot slot)
  let data ← fromExcept (validateDynamicInput data ttlSeconds)
  let capabilities ← getCapabilities retries
  require (deviceChecks slot data ttlSeconds keepAfterExecute capabilities)
  attempts restarts (do
    let id ← requestId
    uploadDynamicOnce slot data ttlSeconds keepAfterExecute id) retries

/-- `_clear_dynamic_once` (runtime_macro_cli.py:865-870). -/
def clearDynamicOnce (slot : Nat) : Client Unit := do
  let request ← fromExcept (buildFrame .dynamicClear (← requestId) slot [] 0 0)
  let response ← call request
  validateEmptyAck response "DYNAMIC_CLEAR"

/-- `clear_dynamic` (runtime_macro_cli.py:872-881). -/
def clearDynamic (retries : Nat) (slot : Nat) : Client Unit := do
  let slot ← fromExcept (validateDynamicSlot slot)
  let capabilities ← getCapabilities retries
  require [(decide (slot ≥ capabilities.dynamicObjectCount),
    .valueError ("dynamic slot " ++ toString slot ++ " is outside the firmware range 0.." ++
      toString (capabilities.dynamicObjectCount - 1)))]
  retryCall retries (clearDynamicOnce slot)

/-! ## Authentication -/

/-- What the client takes from Python's library: NFC normalisation and UTF-8
encoding, PBKDF2-HMAC-SHA256 of password, salt and iterations, and
HMAC-SHA256. -/
structure Host where
  normalize : String → List UInt8
  pbkdf2 : List UInt8 → List UInt8 → Nat → Vector UInt8 32
  hmac : AuthCore.Hmac

/-- `AuthInfo` (runtime_macro_cli.py:498-517). -/
structure AuthInfo where
  configured : Bool
  authenticated : Bool
  iterations : Nat
  salt : List UInt8
  deriving DecidableEq, Repr

/-- `normalize_password` (runtime_macro_cli.py:563-571); the normal form is the
host's. -/
def normalizePassword (host : Host) (password : String) : Except ClientError (List UInt8) :=
  if host.normalize password = [] then .error (.valueError "password must not be empty")
  else .ok (host.normalize password)

/-- `validate_iterations` (runtime_macro_cli.py:574-579). -/
def validateIterations (iterations : Nat) : Except ClientError Unit :=
  if iterations < authIterationsMin ∨ iterations > authIterationsMax then
    .error (.valueError "iterations must be between 100000 and 5000000")
  else .ok ()

/-- `validate_auth_parameters` (runtime_macro_cli.py:582-587). -/
def validateAuthParameters (iterations : Nat) (salt : List UInt8) : Except ClientError Unit :=
  match validateIterations iterations with
  | .error error => .error error
  | .ok _ =>
    if salt.length ≠ authSaltSize then .error (.valueError "salt must be exactly 16 bytes")
    else if salt.all (· == 0) then .error (.valueError "salt must not be all zero")
    else .ok ()

/-- `build_auth_proof` (runtime_macro_cli.py:600-606). -/
def buildAuthProof (host : Host) (key : Vector UInt8 32) (nonce : List UInt8) :
    Except ClientError (List UInt8) :=
  if nonce.length ≠ authNonceSize then .error (.valueError "nonce must be exactly 16 bytes")
  else .ok ((host.hmac key (authDomain ++ nonce)).toList.take authProofSize)

/-- The text of a `ValueError`. -/
def ClientError.text : ClientError → String
  | .valueError message => message
  | _ => ""

/-- What `_auth_info_once` makes of the payload: reserved flags and the KDF
first, then what an open device has to report, or the parameters of a protected
one. -/
def decodeAuthInfo (payload : List UInt8) : Except ClientError AuthInfo :=
  let flags := payload.getD 0 0
  let iterations := leValue (slice payload 2 6)
  let salt := slice payload 6 22
  let configured := flags &&& 1 != 0
  let authenticated := flags &&& 2 != 0
  if flags &&& 0xFC ≠ 0 then
    .error (.protocolError "AUTH_INFO response contains reserved flags")
  else if (payload.getD 1 0).toNat ≠ authKdfId then
    .error (.protocolError "AUTH_INFO response contains an unknown KDF")
  else if configured = false then
    if authenticated ∨ iterations ≠ authIterationsDefault ∨ salt.any (· != 0) then
      .error (.protocolError "AUTH_INFO OPEN metadata is inconsistent")
    else .ok ⟨configured, authenticated, iterations, salt⟩
  else
    match validateAuthParameters iterations salt with
    | .error error =>
      .error (.protocolError ("AUTH_INFO PROTECTED metadata is invalid: " ++ error.text))
    | .ok _ => .ok ⟨configured, authenticated, iterations, salt⟩

/-- `_auth_info_once` (runtime_macro_cli.py:907-938). -/
def authInfoOnce : Client AuthInfo := do
  let request ← fromExcept (buildFrame .authInfo (← requestId) 0xFF [] 0 0)
  let response ← call request
  require [(decide (response.payloadLength ≠ authInfoSize ∨ response.offset ≠ 0 ∨
      response.totalLength ≠ authInfoSize),
    .protocolError "AUTH_INFO response has invalid length or metadata")]
  fromExcept (decodeAuthInfo (response.payload authInfoSize))

/-- `auth_info` (runtime_macro_cli.py:940-942). -/
def authInfo (retries : Nat) : Client AuthInfo := retryCall retries authInfoOnce

/-- `_auth_challenge_once` (runtime_macro_cli.py:957-972). A nonce that is all
zero is a protocol error. -/
def authChallengeOnce : Client (List UInt8) := do
  let request ← fromExcept (buildFrame .authChallenge (← requestId) 0xFF [] 0 0)
  let response ← call request
  require [(decide (response.payloadLength ≠ authNonceSize ∨ response.offset ≠ 0 ∨
      response.totalLength ≠ authNonceSize),
    .protocolError "AUTH_CHALLENGE response has invalid length or metadata")]
  let nonce := response.payload authNonceSize
  require [(nonce.all (· == 0), .protocolError "AUTH_CHALLENGE returned an all-zero nonce")]
  return nonce

/-- `_auth_prove_once` (runtime_macro_cli.py:974-983). -/
def authProveOnce (proof : List UInt8) : Client Unit := do
  let request ← fromExcept (buildFrame .authProve (← requestId) 0xFF proof 0 authProofSize)
  let response ← call request
  validateEmptyAck response "AUTH_PROVE"

/-- One round of `authenticate` (runtime_macro_cli.py:985-1014): the
parameters, a nonce, the proof. The key is derived in place, without the checks
of `derive_key`. -/
def authenticateOnce (host : Host) (password : List UInt8) : Client AuthInfo := do
  let info ← authInfoOnce
  if info.configured = false then throw (.remoteError Status.authNotConfigured.code)
  let nonce ← authChallengeOnce
  let proof ← fromExcept
    (buildAuthProof host (host.pbkdf2 password info.salt info.iterations) nonce)
  authProveOnce proof
  return ⟨true, true, info.iterations, info.salt⟩

/-- `authenticate` (runtime_macro_cli.py:985-1014): after a transport error the
whole sequence starts over, with a new challenge. -/
def authenticate (host : Host) (retries : Nat) (password : String) : Client AuthInfo := do
  let password ← fromExcept (normalizePassword host password)
  attempts ClientError.isTransport (authenticateOnce host password) retries

/-- One round of the loop in `_password_set_once`. A transport error becomes
one that says whether this was the last chunk. -/
def passwordSetChunk (credential : List UInt8) (requestId : UInt8) (offset : Nat) :
    Client Unit := do
  let chunk := slice credential offset (offset + payloadSize)
  let request ← fromExcept
    (buildFrame .passwordSet requestId 0xFF chunk offset credential.length)
  let response ← tryCatch (call request) fun error =>
    match error with
    | .transportError fault =>
      throw (.passwordSetTimeout fault (offset + chunk.length == credential.length))
    | error => throw error
  validateChunkAck response "PASSWORD_SET" (offset + chunk.length) credential.length

/-- `_password_set_once` (runtime_macro_cli.py:1016-1034), chunk after chunk
under one request id. -/
def passwordSetOnce (credential : List UInt8) (requestId : UInt8) : Client Unit :=
  (chunkOffsets credential.length).forM (passwordSetChunk credential requestId)

/-- `_confirm_password_set` (runtime_macro_cli.py:1036-1045): by the public
salt, then by a login with the new password. -/
def confirmPasswordSet (host : Host) (retries : Nat) (salt : List UInt8) (password : String) :
    Client AuthInfo := do
  let info ← authInfo retries
  if info.configured = false ∨ info.salt ≠ salt then throw .passwordSetUnconfirmed
  authenticate host retries password

/-- One attempt of `set_password`: the result, or the `last` it leaves for the
next one. After a final chunk without an answer the credential is not sent
again. -/
def setPasswordOnce (host : Host) (retries : Nat) (credential salt : List UInt8)
    (password : String) : Client (Except ClientError AuthInfo) := do
  let id ← requestId
  tryCatch (do
    passwordSetOnce credential id
    let info ← confirmPasswordSet host retries salt password
    return .ok info) fun error => do
      match error with
      | .passwordSetTimeout _ true =>
        let info ← confirmPasswordSet host retries salt password
        return .ok info
      | .passwordSetTimeout fault false => return .error (.transportError fault)
      | error => if error.isContextLost then return .error error else throw error

/-- `set_password` (runtime_macro_cli.py:1047-1092). `salt` is what
`secrets.token_bytes` returns. -/
def setPassword (host : Host) (retries : Nat) (newPassword : String) (iterations : Nat)
    (salt : Vector UInt8 16) : Client AuthInfo := do
  let password ← fromExcept (normalizePassword host newPassword)
  fromExcept (validateIterations iterations)
  let info ← authInfo retries
  if info.configured ∧ info.authenticated = false then
    throw (.remoteError Status.authRequired.code)
  fromExcept (validateAuthParameters iterations salt.toList)
  let key := host.pbkdf2 password salt.toList iterations
  if AuthCore.allZero key then throw (.valueError "derived key must not be all zero")
  let credential := leBytes 4 iterations ++ salt.toList ++ key.toList
  untilReturned (setPasswordOnce host retries credential salt.toList newPassword) retries

/-- `lock` (runtime_macro_cli.py:1094-1101). -/
def lock (retries : Nat) : Client Unit :=
  retryCall retries do
    let request ← fromExcept (buildFrame .lock (← requestId) 0xFF [] 0 0)
    let response ← call request
    validateEmptyAck response "LOCK"

/-! ## Static macros -/

/-- A page of a logical object that was asked for from `requested` on, with the
total length the pages before it reported. -/
structure Page (previous : Option Nat) (requested : Nat) where
  total : Nat
  bytes : List UInt8
  bounded : total < 65536
  same : ∀ earlier ∈ previous, total = earlier
  progress : requested < total → bytes ≠ []

/-- The checks a page of `list_slots` or `get_slot` has to pass. -/
def pageChecks (name : String) (previous : Option Nat) (requested : Nat) (response : Frame) :
    List (Bool × ClientError) :=
  [(decide (response.offset ≠ requested),
      .protocolError (name ++ " response offset does not match request")),
    (previous.any fun total => decide (total ≠ response.totalLength),
      .protocolError (name ++ " response total length changed")),
    (decide (response.offset + response.payloadLength > response.totalLength),
      .protocolError (name ++ " response exceeds logical result")),
    (decide (response.totalLength > 0 ∧ response.offset < response.totalLength ∧
        response.payloadLength = 0),
      .protocolError (name ++ " response made no progress"))]

theorem page_same {name : String} {previous : Option Nat} {requested : Nat} {response : Frame}
    (passed : firstFailure (pageChecks name previous requested response) = none) :
    ∀ earlier ∈ previous, response.totalLength = earlier := by
  intro earlier member
  simp only [pageChecks, firstFailure_cons_eq_none] at passed
  rw [Option.mem_def.mp member] at passed
  simp only [Option.any_some, decide_eq_false_iff_not, not_not] at passed
  exact passed.2.1.symm

theorem page_progress {name : String} {previous : Option Nat} {requested : Nat}
    {response : Frame}
    (passed : firstFailure (pageChecks name previous requested response) = none)
    (inside : requested < response.totalLength) :
    response.payload response.payloadLength ≠ [] := by
  simp only [pageChecks, firstFailure_cons_eq_none, decide_eq_false_iff_not, not_not,
    firstFailure_nil, and_true] at passed
  obtain ⟨offset, _, fits, progress⟩ := passed
  have positive : response.payloadLength ≠ 0 := fun empty =>
    progress ⟨by omega, by omega, empty⟩
  intro none
  have length := congrArg List.length none
  simp only [Frame.payload, List.length_take, List.length_drop, Vector.length_toList,
    List.length_nil] at length
  omega

/-- The body of the loops of `list_slots` and `get_slot`. -/
def page (retries : Nat) (opcode : Opcode) (name : String) (slot : Nat) (previous : Option Nat)
    (requested : Nat) : Client (Page previous requested) := do
  let response ← callWithTimeoutRetry retries fun id => buildFrame opcode id slot [] requested 0
  match passed : firstFailure (pageChecks name previous requested response) with
  | some error => throw error
  | none =>
    return ⟨response.totalLength, response.payload response.payloadLength,
      response.totalLength_lt, page_same passed, page_progress passed⟩

/-- The loops of `list_slots` and `get_slot`, from one of their iterations on:
the total length and all bytes. -/
def pages (retries : Nat) (opcode : Opcode) (name : String) (slot : Nat)
    (previous : Option Nat) (offset : Nat) (result : List UInt8) :
    Client (Nat × List UInt8) := do
  let next ← page retries opcode name slot previous offset
  let result := result ++ next.bytes
  if offset + next.bytes.length < next.total then
    pages retries opcode name slot (some next.total) (offset + next.bytes.length) result
  else return (next.total, result)
termination_by previous.getD 65536 - offset
decreasing_by
  have positive : 0 < next.bytes.length :=
    List.length_pos_iff.mpr (next.progress (by omega))
  have bounded := next.bounded
  cases previous with
  | none =>
    simp only [Option.getD_some, Option.getD_none]
    omega
  | some earlier =>
    have same := next.same earlier rfl
    simp only [Option.getD_some]
    omega

/-- `SlotInfo` (runtime_macro_cli.py:492-495). -/
structure SlotInfo where
  slot : Nat
  length : Nat
  deriving DecidableEq, Repr

/-- The end of `list_slots`. -/
def decodeSlots (total : Nat) (result : List UInt8) : Except ClientError (List SlotInfo) :=
  if result.length ≠ total ∨ total < 1 then
    .error (.protocolError "LIST logical result has invalid length")
  else
    let count := (result.getD 0 0).toNat
    if total ≠ 1 + 2 * count ∨ result.length ≠ 1 + 2 * count then
      .error (.protocolError "LIST logical result is truncated or has extra data")
    else .ok ((List.range count).map fun i =>
      ⟨i, getU16 (result.getD (1 + 2 * i) 0) (result.getD (2 + 2 * i) 0)⟩)

/-- `list_slots` (runtime_macro_cli.py:1103-1138). The pages are collected
first; the lengths are decoded from them at the end. -/
def listSlots (retries : Nat) : Client (List SlotInfo) := do
  let (total, result) ← pages retries .list "LIST" 0xFF none 0 []
  fromExcept (decodeSlots total result)

/-- The end of `get_slot`. -/
def decodeText (total : Nat) (result : List UInt8) : Except ClientError (List UInt8) :=
  if result.length ≠ total then .error (.protocolError "GET logical result has invalid length")
  else
    match validateAscii result with
    | .error error => .error (.protocolError ("GET returned invalid text: " ++ error.text))
    | .ok _ => .ok result

/-- The range check of the static commands. -/
def validateSlot (slot : Nat) : Except ClientError Unit :=
  if slot ≤ 0xFE then .ok ()
  else .error (.valueError "slot must be between 0 and 254")

/-- `get_slot` (runtime_macro_cli.py:1140-1177). -/
def getSlot (retries : Nat) (slot : Nat) : Client (List UInt8) := do
  fromExcept (validateSlot slot)
  let (total, result) ← pages retries .get "GET" slot none 0 []
  fromExcept (decodeText total result)

/-- One round of the loop in `_set_once`. -/
def setChunk (slot : Nat) (data : List UInt8) (requestId : UInt8) (offset : Nat) :
    Client Unit := do
  let chunk := slice data offset (offset + payloadSize)
  let request ← fromExcept (buildFrame .set requestId slot chunk offset data.length)
  let response ← call request
  validateChunkAck response "SET" (offset + chunk.length) data.length

/-- `_set_once` (runtime_macro_cli.py:1179-1200). An empty text is one
chunk. -/
def setOnce (slot : Nat) (data : List UInt8) (requestId : UInt8) : Client Unit :=
  (if data.length = 0 then [0] else chunkOffsets data.length).forM (setChunk slot data requestId)

/-- `set_slot` (runtime_macro_cli.py:1202-1226). A transport error, BAD_REQUEST
and BAD_OFFSET start the upload over under a new request id; any other error
ends it. -/
def setSlot (retries : Nat) (slot : Nat) (data : List UInt8) : Client Unit := do
  fromExcept (validateSlot slot)
  fromExcept (validateAscii data)
  attempts restarts (do
    let id ← requestId
    setOnce slot data id) retries

/-- `clear_slot` (runtime_macro_cli.py:1228-1244). -/
def clearSlot (retries : Nat) (slot : Nat) : Client Unit := do
  fromExcept (validateSlot slot)
  retryCall retries do
    let request ← fromExcept (buildFrame .clear (← requestId) slot [] 0 0)
    let response ← call request
    validateEmptyAck response "CLEAR"

end RuntimeMacro.Source.RuntimeMacroClient
