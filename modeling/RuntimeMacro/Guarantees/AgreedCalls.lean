import RuntimeMacro.Guarantees.PasswordChunks
import RuntimeMacro.Source.Pages

/-!
# Calls on a sound device

runtime_macro_protocol.c:1288-1425; tools/runtime_macro_cli.py:466-490,629-673.
A client and the firmware on a direct link, whatever the clock, the storage and
the random numbers of the device do. Every frame of the client passes the base
validation, and the client finds nothing to object to in its answer but the
status. One rule for each kind of frame.
-/
namespace RuntimeMacro.Guarantees.AgreedCalls
open Source Source.Protocol Source.RuntimeMacroClient Foundations.Checks Relation
open Foundations.Dialogues Foundations.Dialogues.Dialogue Foundations.Dialogues.Procedure
open PasswordChunks
open AuthCore (Credential Hmac)

variable {cfg : Config} {hmac : Hmac} {id : ContextId} {permits : Env → Prop}
  {request response : Frame} {opcode : Opcode} {t t' : Station × Talk} {next : UInt8}
  {status : Status} {error : ClientError} {quiet : Station} {env : Env}

/-- The firmware of a device with arbitrary environments. -/
abbrev link (cfg : Config) (hmac : Hmac) (id : ContextId) (permits : Env → Prop) :
    Partner (Station × Talk) Frame Answer :=
  checkedLink cfg hmac id (fun env _ => permits env) fun _ => True

/-! ## What both sides agree on -/

/-- The frame passes the base validation, and its answer passes the checks of
the client, which takes it or raises its status. -/
def Agreed (turn : Frame × Answer) : Prop :=
  WellFormed turn.1 ∧ ∃ response, turn.2 = .ok response ∧
    validateResponse response turn.1 =
      if response.status = Status.ok.code then .ok response.payloadLength
      else .error (.remoteError response.status)

/-- A sound device, and a talk in which both sides agree. -/
structure Agreeing (cfg : Config) (t : Station × Talk) : Prop where
  sound : DeviceSound cfg t.1.world
  talk : ∀ turn ∈ t.2, Agreed turn

/-- The error has the status of the last answer. -/
def Reported (error : ClientError) (talk : Talk) : Prop :=
  ∃ past request response, talk = past ++ [(request, .ok response)] ∧
    response.status ≠ Status.ok.code ∧ error.status = some response.status

/-- The last answer brought these parameters. -/
def Brought (info : AuthInfo) (talk : Talk) : Prop :=
  ∃ past request response, talk = past ++ [(request, .ok response)] ∧
    baseCheck request = .ok .authInfo ∧ response.status = Status.ok.code ∧
    decodeAuthInfo (response.payload authInfoSize) = .ok info

/-- The client raises this status itself when it has read these parameters. -/
abbrev Excuses := AuthInfo → Status → Prop

/-- Where the error of a call comes from. -/
def Sourced (excuses : Excuses) (error : ClientError) (talk : Talk) : Prop :=
  Reported error talk ∨ ∃ info status, excuses info status ∧
    error = .remoteError status.code ∧ Brought info talk

/-- What a call may raise. -/
structure Raises (cfg : Config) (excuses : Excuses) (error : ClientError)
    (t : Station × Talk) : Prop where
  agreeing : Agreeing cfg t
  sourced : Sourced excuses error t.2

variable {excuses : Excuses}

theorem Sourced.stated {talk : Talk} (sourced : Sourced excuses error talk) :
    ∃ code, error.status = some code := by
  rcases sourced with ⟨_, _, response, _, _, stated⟩ | ⟨_, status, _, same, _⟩
  · exact ⟨response.status, stated⟩
  · exact ⟨status.code, by rw [same]; rfl⟩

theorem Sourced.isProtocol {talk : Talk} (sourced : Sourced excuses error talk) :
    error.isProtocol = false := by
  obtain ⟨code, stated⟩ := sourced.stated
  cases error with
  | protocolError | dynamicV1Error | passwordSetUnconfirmed => cases stated
  | _ => rfl

theorem Raises.isTransport (raises : Raises cfg excuses error t) : error.isTransport = false := by
  obtain ⟨code, stated⟩ := raises.sourced.stated
  cases error with
  | transportError => cases stated
  | _ => rfl

/-! ## One turn -/

/-- The firmware serves a request, after some of its background work. -/
structure Served (cfg : Config) (hmac : Hmac) (id : ContextId) (permits : Env → Prop)
    (t t' : Station × Talk) (request response : Frame) (quiet : Station) (env : Env) :
    Prop where
  rested : ReflTransGen (Station.Rests cfg hmac) t.1 quiet
  permitted : permits env
  step : FrameStep cfg hmac quiet.world ⟨id, env, request, response⟩ t'.1.world
  talk : t'.2 = t.2 ++ [(request, .ok response)]

theorem Served.raises (agreeing : Agreeing cfg t') (bad : status ≠ .ok)
    (served : Served cfg hmac id permits t t' request (errorFrame request status) quiet env) :
    Raises cfg excuses (ofStatus status) t' := by
  refine ⟨agreeing, Or.inl ⟨t.2, request, _, served.talk, ?_, ?_⟩⟩
  · rw [status_errorFrame, ne_eq, Status.code_inj]
    exact bad
  · rw [status_ofStatus, status_errorFrame]

/-- The response is OK with this payload, offset and total length, as its
opcode has it. -/
structure Accepted (cfg : Config) (env : Env) (w : World) (request : Frame) (opcode : Opcode)
    (data : List UInt8) (offset total : Nat) (response : Frame) : Prop where
  carried : Carries cfg env w request opcode data offset total
  shape : response = okFrame request data offset total
  status : response.status = Status.ok.code
  length : response.payloadLength = data.length
  offset : response.offset = offset
  total : response.totalLength = total
  payload : response.payload data.length = data

/-- The rule of `_call`: the request is served in some environment, and the
answer passes `validate_response`. What is left to show is what an OK answer
and a refusal lead to. -/
theorem meets_served {wanted : Frame → UInt8 → Station × Talk → Prop}
    {raised : ClientError → UInt8 → Station × Talk → Prop} (agreeing : Agreeing cfg t)
    (passed : baseCheck request = .ok opcode)
    (refused : ∀ t' quiet env status, Agreeing cfg t' → status ≠ .ok →
      Served cfg hmac id permits t t' request (errorFrame request status) quiet env →
      raised (ofStatus status) next t')
    (accepted : ∀ t' quiet env response data offset total, Agreeing cfg t' →
      Served cfg hmac id permits t t' request response quiet env →
      Accepted cfg env quiet.world request opcode data offset total response →
      wanted response next t') :
    (call request).Meets (link cfg hmac id permits) wanted raised next t := by
  obtain ⟨s, past⟩ := t
  have still : ∀ {quiet env w' response}, ReflTransGen (Station.Rests cfg hmac) s quiet →
      FrameStep cfg hmac quiet.world ⟨id, env, request, response⟩ w' →
      Agreed (request, .ok response) →
      Agreeing cfg (quiet.serve ⟨id, env, request, response⟩ w',
        past ++ [(request, .ok response)]) := by
    intro quiet env w' response rested step agreed
    have event : WorldStep cfg hmac quiet.world (.frame ⟨id, env, request, response⟩) w' := step
    constructor
    · exact (agreeing.sound.rests rested).world event
    · intro turn member
      rcases List.mem_append.mp member with earlier | latest
      · exact agreeing.talk turn earlier
      · rw [List.mem_singleton.mp latest]
        exact agreed
  apply meets_directCall trivial passed
  · intro quiet env w' status rested permitted bad result
    have agreed : Agreed (request, .ok (errorFrame request status)) := by
      refine ⟨⟨opcode, passed⟩, _, rfl, ?_⟩
      dsimp only
      rw [validateResponse_error bad, status_errorFrame, if_neg]
      rw [Status.code_inj]
      exact bad
    apply refused _ quiet env status (still rested result agreed) bad
    exact ⟨rested, permitted, result, rfl⟩
  · intro quiet env w' data offset total rested permitted sized placed fits carried result
    have agreed : Agreed (request, .ok (okFrame request data offset total)) := by
      refine ⟨⟨opcode, passed⟩, _, rfl, ?_⟩
      dsimp only
      rw [validateResponse_ok sized, status_okFrame, if_pos rfl,
        payloadLength_okFrame request data offset total sized]
    apply accepted _ quiet env _ data offset total (still rested result agreed)
    · exact ⟨rested, permitted, result, rfl⟩
    · constructor
      · exact carried
      · rfl
      · exact status_okFrame ..
      · exact payloadLength_okFrame request data offset total sized
      · exact offset_okFrame request data offset total placed
      · exact totalLength_okFrame request data offset total fits
      · exact payload_okFrame request data offset total sized

/-! ## Acknowledgements -/

/-- A frame whose OK answer has no payload, and this offset and total length.
`_validate_chunk_ack` then has nothing to complain about. -/
theorem meets_acknowledged {place total : Nat} {wanted : Frame → UInt8 → Station × Talk → Prop}
    {raised : ClientError → UInt8 → Station × Talk → Prop} (agreeing : Agreeing cfg t)
    (passed : baseCheck request = .ok opcode)
    (acks : ∀ env w data offset total', Carries cfg env w request opcode data offset total' →
      data = [] ∧ offset = place ∧ total' = total)
    (failed : ∀ error t', Raises cfg excuses error t' → raised error next t')
    (acknowledged : ∀ t' quiet env, Agreeing cfg t' → place < 65536 → total < 65536 →
      Served cfg hmac id permits t t' request (okFrame request [] place total) quiet env →
      wanted (okFrame request [] place total) next t') :
    (call request).Meets (link cfg hmac id permits) wanted raised next t := by
  apply meets_served agreeing passed
  · intro t' quiet env status agreeing bad served
    exact failed _ t' (served.raises agreeing bad)
  · intro t' quiet env response data offset total' agreeing served accepted
    obtain ⟨rfl, rfl, rfl⟩ := acks env quiet.world data offset total' accepted.carried
    have placed : response.offset < 65536 := Frame.getU16_lt _ _
    have fits := response.totalLength_lt
    rw [accepted.offset] at placed
    rw [accepted.total] at fits
    rw [accepted.shape] at served ⊢
    exact acknowledged t' quiet env agreeing placed fits served

/-- A frame that is acknowledged with nothing. -/
theorem meets_plain {slot total : Nat} {payload : List UInt8} (name : String)
    (bare : ∀ env w request data offset total',
      Carries cfg env w request opcode data offset total' →
      data = [] ∧ offset = 0 ∧ total' = 0)
    (small : slot ≤ 0xFF) (sized : payload.length ≤ payloadSize) (fits : total ≤ 0xFFFF)
    (agreeing : Agreeing cfg t) :
    (do
      let request ← fromExcept (buildFrame opcode (← requestId) slot payload 0 total)
      let response ← call request
      validateEmptyAck response name : Client Unit).Meets (link cfg hmac id permits)
      (fun _ _ t' => Agreeing cfg t') (fun error _ t' => Raises cfg excuses error t') next t := by
  have built := buildFrame_ok opcode next small sized (by decide : 0 ≤ 0xFFFF) fits
  have passed := baseCheck_build opcode next (UInt8.ofNat slot) 0 total payload sized
  simp only [meets_bind, meets_requestId, built, meets_fromExcept_ok]
  apply meets_acknowledged agreeing passed fun env w => bare env w _
  · exact fun _ _ raises => raises
  · intro t' quiet env agreeing _ _ _
    rw [meets_validateEmptyAck]
    exact agreeing

/-- A chunk of an object: its acknowledgement names the offset behind it and
the length of the whole. -/
theorem meets_chunk {slot place : Nat} {object : List UInt8} {requestId : UInt8}
    (chunked : ∀ env w request data offset total,
      Carries cfg env w request opcode data offset total →
      data = [] ∧ offset = request.offset + request.payloadLength ∧
        total = request.totalLength)
    (small : slot ≤ 0xFF) (fits : object.length < 65536) (inside : place ≤ object.length)
    (name : String) (agreeing : Agreeing cfg t) :
    (do
      let request ← fromExcept (buildFrame opcode requestId slot
        (slice object place (place + payloadSize)) place object.length)
      let response ← call request
      validateChunkAck response name (place + (slice object place (place + payloadSize)).length)
        object.length : Client Unit).Meets (link cfg hmac id permits)
      (fun _ _ t' => Agreeing cfg t') (fun error _ t' => Raises cfg excuses error t') next t := by
  have chunk := chunkOf_build opcode requestId small fits inside
  have built := buildFrame_ok opcode requestId small
    (List.length_take_le payloadSize (object.drop place)) (by omega : place ≤ 0xFFFF)
    (by omega : object.length ≤ 0xFFFF)
  simp only [slice_chunk, meets_bind, built, meets_fromExcept_ok]
  generalize Frame.build opcode requestId (UInt8.ofNat slot) place object.length
    ((object.drop place).take payloadSize) = request at chunk
  have ends : request.offset + request.payloadLength =
      place + ((object.drop place).take payloadSize).length := by
    rw [chunk.place, chunk.length, List.length_take, List.length_drop]
  apply meets_acknowledged agreeing chunk.passed
  · intro env w data offset total carried
    obtain ⟨none, reached, whole⟩ := chunked env w request data offset total carried
    exact ⟨none, reached.trans ends, whole.trans chunk.total⟩
  · exact fun _ _ raises => raises
  · intro t' quiet env agreeing placed fits _
    rw [meets_validateChunkAck _ placed fits]
    exact agreeing

/-! ## Pages -/

/-- Both sides agree, and the slots are these. -/
structure Steady (cfg : Config) (slots : SlotStore) (t : Station × Talk) : Prop where
  agreeing : Agreeing cfg t
  slots : t.1.world.slots = slots

/-- A page of an object that no step in between changes, from an offset inside
it. -/
theorem meets_pageCall {slots : SlotStore} {slot place : Nat} {object : List UInt8}
    (paged : opcode = .list ∨ opcode = .get)
    (carried : ∀ env w request data offset total, w.slots = slots →
      request.slot = UInt8.ofNat slot → Carries cfg env w request opcode data offset total →
      data = pageOf object request.offset ∧ offset = request.offset ∧ total = object.length)
    (small : slot ≤ 0xFF) (placed : place ≤ 0xFFFF) (retries : Nat)
    (steady : Steady cfg slots t) :
    (callWithTimeoutRetry retries fun id => buildFrame opcode id slot [] place 0).Meets
      (link cfg hmac id permits)
      (fun response _ t' => Steady cfg slots t' ∧ ∃ request,
        response = okFrame request (pageOf object place) place object.length)
      (fun error _ t' => Raises cfg excuses error t') next t := by
  have built : buildFrame opcode next slot [] place 0 = .ok (pageRequest opcode next slot place) :=
    buildFrame_ok opcode next small (by simp) placed (by decide)
  have passed := baseCheck_pageRequest opcode next slot place
  have aimed : (pageRequest opcode next slot place).slot = UInt8.ofNat slot := Frame.slot_build ..
  have asked : (pageRequest opcode next slot place).offset = place :=
    Frame.offset_build _ _ _ _ _ _ (by omega)
  apply meets_retryCall
  · simp only [meets_bind, meets_requestId, built, meets_fromExcept_ok]
    apply meets_served steady.agreeing passed
    · intro t' quiet env status agreeing bad served
      exact served.raises agreeing bad
    · intro t' quiet env response data offset total agreeing served accepted
      have before := (rests_quietKept served.rested).slots.trans steady.slots
      have result : processFrame cfg hmac env id (pageRequest opcode next slot place) quiet.world =
        (response, t'.1.world) := served.step.result
      have kept := pageFrame_slots cfg hmac env id paged passed quiet.world
      rw [result] at kept
      obtain ⟨bytes, same, whole⟩ :=
        carried env quiet.world _ data offset total before aimed accepted.carried
      rw [asked] at bytes same
      refine ⟨⟨agreeing, kept.trans before⟩, pageRequest opcode next slot place, ?_⟩
      rw [accepted.shape, bytes, same, whole]
  · exact fun error _ _ raises => raises.isTransport

/-! ## Parameters, challenges and proofs -/

/-- The client has read the parameters of the device, which protects them as
before. -/
structure Informed (cfg : Config) (info : AuthInfo) (t t' : Station × Talk) : Prop where
  agreeing : Agreeing cfg t'
  state : t'.1.world.auth.state = t.1.world.auth.state
  credential : t'.1.world.auth.credential = t.1.world.auth.credential
  configured : t.1.world.auth.state = .stateProtected → info.configured = true ∧
    info.salt = t.1.world.auth.credential.salt.toList
  brought : Brought info t'.2

/-- AUTH_INFO has 22 bytes that `_auth_info_once` can decode, in whatever state
the core is. -/
theorem meets_authInfoOnce (agreeing : Agreeing cfg t) :
    authInfoOnce.Meets (link cfg hmac id permits) (fun info _ t' => Informed cfg info t t')
      (fun error _ t' => Raises cfg excuses error t') next t := by
  have built := buildFrame_ok .authInfo next (by decide : 0xFF ≤ 0xFF)
    (by decide : ([] : List UInt8).length ≤ payloadSize) (by decide : 0 ≤ 0xFFFF)
    (by decide : 0 ≤ 0xFFFF)
  have frame := authFrame_info next
  unfold authInfoOnce
  simp only [meets_bind, meets_requestId, built, meets_fromExcept_ok]
  generalize Frame.build .authInfo next (UInt8.ofNat 0xFF) 0 0 [] = request at frame
  apply meets_served agreeing frame.passed
  · intro t' quiet env status agreeing bad served
    exact served.raises agreeing bad
  · intro t' quiet env response data offset total agreeing' served accepted
    obtain ⟨core, looked, unlocked, bytes, same, whole⟩ := accepted.carried
    obtain ⟨sound, credentialed⟩ :=
      (agreeing.sound.rests served.rested).trace (@CoreTrace.looked cfg hmac _ _ true looked)
    obtain ⟨info, decoded⟩ :=
      @decodeAuthInfo_sound core (env.clock .operation) sound credentialed unlocked
    have length : data.length = authInfoSize := by
      rw [bytes]
      exact authInfoPayload_length _
    have found : decodeAuthInfo (response.payload authInfoSize) = .ok info := by
      rw [← length, accepted.payload, bytes]
      exact decoded
    have quietly := (rests_quietKept served.rested).auth
    have kept := (@authFrame_step _ _ _ _ _ _ _ _ [] _ frame served.step).2
    rw [meets_require, found]
    · refine ⟨agreeing', ?_, ?_, ?_, t.2, request, response, served.talk, frame.passed,
        accepted.status, found⟩
      · rw [kept.state, quietly]
      · rw [kept.credential, quietly]
      · intro guarded
        have state : core.state = .stateProtected := by
          rw [looked.state, quietly]
          exact guarded
        have configured : info.configured = true := by
          rw [decodeAuthInfo_ok decoded]
          dsimp only
          rw [flag_configured, AuthCore.getInfo_protected _ state]
          rfl
        obtain ⟨_, salt⟩ := salt_of_configured decoded configured
        refine ⟨configured, ?_⟩
        rw [salt, looked.credential, quietly]
    · have total : response.totalLength = authInfoSize := accepted.total.trans whole
      simp [accepted.length, length, accepted.offset, same, total]

theorem meets_authInfo (retries : Nat) (agreeing : Agreeing cfg t) :
    (authInfo retries).Meets (link cfg hmac id permits) (fun info _ t' => Informed cfg info t t')
      (fun error _ t' => Raises cfg excuses error t') next t := by
  apply meets_retryCall retries (meets_authInfoOnce agreeing)
  exact fun error _ _ raises => raises.isTransport

/-- The generator never returns zeros. -/
def Random (env : Env) : Prop := ∀ nonce, env.random = some nonce → AuthCore.allZero nonce = false

/-- A nonce of 16 bytes that is not zero, or a status. This is where the
generator of the device has to be a proper one. -/
theorem meets_authChallengeOnce (random : ∀ env, permits env → Random env)
    (agreeing : Agreeing cfg t) :
    authChallengeOnce.Meets (link cfg hmac id permits)
      (fun nonce _ t' => Agreeing cfg t' ∧ nonce.length = authNonceSize)
      (fun error _ t' => Raises cfg excuses error t') next t := by
  have built := buildFrame_ok .authChallenge next (by decide : 0xFF ≤ 0xFF)
    (by decide : ([] : List UInt8).length ≤ payloadSize) (by decide : 0 ≤ 0xFFFF)
    (by decide : 0 ≤ 0xFFFF)
  have passed := (authFrame_challenge next).passed
  unfold authChallengeOnce
  simp only [meets_bind, meets_requestId, built, meets_fromExcept_ok]
  generalize Frame.build .authChallenge next (UInt8.ofNat 0xFF) 0 0 [] = request at passed
  apply meets_served agreeing passed
  · intro t' quiet env status agreeing bad served
    exact served.raises agreeing bad
  · intro t' quiet env response data offset total agreeing' served accepted
    obtain ⟨nonce, drawn, bytes, same, whole⟩ := accepted.carried
    have length : data.length = authNonceSize := by
      rw [bytes]
      simp [authNonceSize]
    have total : response.totalLength = authNonceSize := accepted.total.trans whole
    have nonzero : data.all (· == 0) = false := by
      rw [bytes]
      exact random env served.permitted nonce drawn
    have payload := accepted.payload
    rw [length] at payload
    rw [meets_require, payload, meets_require, meets_pure]
    · exact ⟨agreeing', length⟩
    · simp [nonzero]
    · simp [accepted.length, length, accepted.offset, same, total]

theorem meets_authProveOnce {proof : List UInt8} (length : proof.length = authProofSize)
    (agreeing : Agreeing cfg t) :
    (authProveOnce proof).Meets (link cfg hmac id permits) (fun _ _ t' => Agreeing cfg t')
      (fun error _ t' => Raises cfg excuses error t') next t := by
  have sized : proof.length ≤ payloadSize := by
    rw [length]
    decide
  exact meets_plain "AUTH_PROVE" (fun _ _ _ _ _ _ bare => bare) (by decide) sized (by decide)
    agreeing

/-- One round. The client raises AUTH_NOT_CONFIGURED itself on a device without
a password. -/
theorem meets_authenticateOnce (host : Host) (password : List UInt8)
    (random : ∀ env, permits env → Random env)
    (excused : t.1.world.auth.state ≠ .stateProtected → ∀ info, info.configured = false →
      excuses info .authNotConfigured) (agreeing : Agreeing cfg t) :
    (authenticateOnce host password).Meets (link cfg hmac id permits)
      (fun _ _ t' => Agreeing cfg t') (fun error _ t' => Raises cfg excuses error t') next t := by
  unfold authenticateOnce
  rw [meets_bind]
  apply (meets_authInfoOnce agreeing).mono _ fun _ _ _ raises => raises
  intro info next' t' informed
  by_cases configured : info.configured = false
  · rw [if_pos configured, meets_bind, meets_throw]
    have unguarded : t.1.world.auth.state ≠ .stateProtected := by
      intro guarded
      exact absurd (configured.symm.trans (informed.configured guarded).1) (by decide)
    exact ⟨informed.agreeing,
      Or.inr ⟨info, _, excused unguarded info configured, rfl, informed.brought⟩⟩
  rw [if_neg configured, meets_bind]
  apply (meets_authChallengeOnce random informed.agreeing).mono _ fun _ _ _ raises => raises
  rintro nonce next'' t'' ⟨agreeing, length⟩
  obtain ⟨proof, proved⟩ :=
    buildAuthProof_ok host (host.pbkdf2 password info.salt info.iterations) length
  rw [meets_bind, proved, meets_fromExcept_ok, meets_bind]
  apply (meets_authProveOnce (length_of_buildAuthProof proved) agreeing).mono _
    fun _ _ _ raises => raises
  exact fun _ _ _ agreeing => agreeing

theorem meets_authenticate (host : Host) (retries : Nat) (secret : String)
    (accepted : ∃ password, normalizePassword host secret = .ok password)
    (random : ∀ env, permits env → Random env)
    (excused : t.1.world.auth.state ≠ .stateProtected → ∀ info, info.configured = false →
      excuses info .authNotConfigured) (agreeing : Agreeing cfg t) :
    (authenticate host retries secret).Meets (link cfg hmac id permits)
      (fun _ _ t' => Agreeing cfg t') (fun error _ t' => Raises cfg excuses error t') next t := by
  obtain ⟨password, accepted⟩ := accepted
  rw [authenticate, meets_bind, accepted, meets_fromExcept_ok]
  apply meets_retryCall retries (meets_authenticateOnce host password random excused agreeing)
  exact fun error _ _ raises => raises.isTransport

end RuntimeMacro.Guarantees.AgreedCalls
