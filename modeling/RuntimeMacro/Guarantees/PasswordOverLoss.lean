import RuntimeMacro.Guarantees.PasswordChunks

/-!
# Changing the password over a lossy link

tools/runtime_macro_cli.py:985-1092. `set_password` and `authenticate` against
the firmware, with any loss and delay of requests and responses. A final chunk
whose outcome is not known is not sent again: the public salt tells whether it
was committed. Every proof answers the challenge just before it.
-/
namespace RuntimeMacro.Guarantees.PasswordOverLoss
open Source Source.Protocol Source.RuntimeMacroClient Foundations.Links Foundations.Runs
open Foundations.Dialogues Foundations.Dialogues.Dialogue Foundations.Dialogues.Procedure
open PasswordChunks
open AuthCore (Credential Hmac)
open Relation

variable {cfg : Config} {hmac : Hmac} {id : ContextId} {opcode : Opcode} {host : Host}
  {password object : List UInt8} {offset : Nat} {next requestId : UInt8}
  {t t' : Delayed Station Frame × Talk} {past : Talk} {request : Frame}
  {Sends Opens : Frame → Prop} {Sound Mine : Station → Prop}

/-! ## What may be sent after a talk -/

/-- A PASSWORD_SET chunk that ends where its object does. -/
def FinalChunk (request : Frame) : Prop :=
  baseCheck request = .ok .passwordSet ∧
    request.offset + request.payloadLength = request.totalLength

/-- The answer says that the chunk was not committed. -/
def NotCommitted (answer : Answer) : Prop :=
  ∃ response, answer = .ok response ∧ (response.status = Status.badRequest.code ∨
    response.status = Status.badOffset.code)

/-- The outcome of every final chunk so far is known. -/
def Known (past : Talk) : Prop := ∀ turn ∈ past, FinalChunk turn.1 → NotCommitted turn.2

/-- The last two turns are an AUTH_INFO and an AUTH_CHALLENGE, and the request
proves the knowledge of the password for the nonce and the parameters they have
brought. -/
def FreshProof (host : Host) (password : List UInt8) (past : Talk) (request : Frame) : Prop :=
  ∃ earlier asking informed challenging challenged info,
    past = earlier ++ [(asking, .ok informed), (challenging, .ok challenged)] ∧
    baseCheck asking = .ok .authInfo ∧ baseCheck challenging = .ok .authChallenge ∧
    challenged.status = Status.ok.code ∧
    decodeAuthInfo (informed.payload authInfoSize) = .ok info ∧
    buildAuthProof host (host.pbkdf2 password info.salt info.iterations)
      (challenged.payload authNonceSize) = .ok (request.payload authProofSize)

/-- A final chunk follows none whose outcome is open, and a proof follows its
challenge. -/
def Lawful (host : Host) (password : List UInt8) (past : Talk) (request : Frame) : Prop :=
  (FinalChunk request → Known past) ∧
    (baseCheck request = .ok .authProve → FreshProof host password past request)

/-- The delayed link on which every request is a lawful one after the talk so
far. -/
abbrev link (cfg : Config) (hmac : Hmac) (id : ContextId) (host : Host) (password : List UInt8) :
    Partner (Delayed Station Frame × Talk) Frame Answer :=
  delayedLink cfg hmac id (fun _ _ => True) (Lawful host password)

theorem Known.append {answer : Answer} (known : Known past)
    (last : FinalChunk request → NotCommitted answer) : Known (past ++ [(request, answer)]) := by
  intro turn member final
  rcases List.mem_append.mp member with earlier | latest
  · exact known turn earlier final
  · rw [List.mem_singleton.mp latest] at final ⊢
    exact last final

theorem not_finalChunk (frame : AuthFrame request opcode) : ¬ FinalChunk request := by
  rintro ⟨passed, _⟩
  cases frame.passed.symm.trans passed
  exact frame.ne_passwordSet rfl

/-! ## Authentication -/

/-- The error ends `set_password`. -/
def ends : ClientError → Bool
  | .passwordSetTimeout _ _ => false
  | error => !error.isContextLost

theorem ends_of_isProtocol {error : ClientError} (protocol : error.isProtocol = true) :
    ends error = true := by
  cases error with
  | protocolError | dynamicV1Error | passwordSetUnconfirmed => rfl
  | _ => cases protocol

/-- Any status but the two of a broken transaction ends the call. -/
theorem ends_ofStatus {status : Status} (request : status ≠ .badRequest)
    (offset : status ≠ .badOffset) : ends (ofStatus status) = true := by
  have codes : ∀ other : Status, ClientError.isContextLost (.remoteError other.code) = true →
      other = .badRequest ∨ other = .badOffset := by
    intro other lost
    cases other with
    | badRequest => exact Or.inl rfl
    | badOffset => exact Or.inr rfl
    | _ => cases lost
  unfold ofStatus
  split
  · rfl
  · have kept : ClientError.isContextLost (.remoteError status.code) = false := by
      by_contra lost
      rw [Bool.not_eq_false] at lost
      rcases codes status lost with same | same
      · exact request same
      · exact offset same
    simp [ends, kept]

/-- Between two requests of the client, after which it has sent no chunk. -/
structure Between (Sends Opens : Frame → Prop) (Sound Mine : Station → Prop) (past : Talk)
    (next : UInt8) (t : Delayed Station Frame × Talk) : Prop where
  guarded : Guarded Sends Opens Sound Mine t.1
  keyed : next = t.1.key + 1
  known : Known past → Known t.2

/-- A request that was just answered OK. -/
def Answered (cfg : Config) (hmac : Hmac) (id : ContextId) (Opens : Frame → Prop)
    (Sound Mine : Station → Prop) (opcode : Opcode) (payload : List UInt8 → Prop) (size : Nat)
    (t t' : Delayed Station Frame × Talk) : Prop :=
  ∃ request response before after, AuthFrame request opcode ∧ payload (response.payload size) ∧
    Acknowledged cfg hmac id Opens Sound Mine t t' request response before after

section Rules
variable (transaction : Transaction (device cfg hmac id) Sends Opens Sound Mine)
  (asks : ∀ {request opcode}, AuthFrame request opcode → Sends request ∧ Opens request)
include transaction asks

/-- A frame between the chunks: it is served in its turn and changes nothing of
the transaction. -/
theorem meets_asked (frame : AuthFrame request opcode)
    (between : Between Sends Opens Sound Mine past request.requestId t)
    (fresh : opcode = .authProve → FreshProof host password t.2 request) :
    (call request).Meets (link cfg hmac id host password)
      (fun response next' t' => Between Sends Opens Sound Mine past next' t' ∧
        ∃ before after, Acknowledged cfg hmac id Opens Sound Mine t t' request response before
          after)
      (fun error next' t' => Between Sends Opens Sound Mine past next' t' ∧ ends error = true)
      (request.requestId + 1) t := by
  obtain ⟨sends, opens⟩ := asks frame
  have lawfully : Lawful host password t.2 request := by
    refine ⟨fun final => absurd final (not_finalChunk frame), fun passed => fresh ?_⟩
    cases frame.passed.symm.trans passed
    rfl
  have known : ∀ {t' : Delayed Station Frame × Talk} {answer},
      t'.2 = t.2 ++ [(request, answer)] → Known past → Known t'.2 := by
    intro t' answer talk before
    rw [talk]
    exact (between.known before).append fun final => absurd final (not_finalChunk frame)
  apply (meets_sent transaction between.guarded (Or.inl between.keyed) lawfully frame.passed sends
    (Or.inr opens)).mono
  · rintro response next' t' ⟨rfl, still, before, after, acknowledged⟩
    exact ⟨⟨still, by rw [acknowledged.key], known acknowledged.talk⟩, before, after, acknowledged⟩
  · rintro error next' t' ⟨rfl, still, key, failed⟩
    cases failed with
    | lost fault talk => exact ⟨⟨still, by rw [key], known talk⟩, rfl⟩
    | refused status response before after bad stated talk served =>
      obtain ⟨env, w', step, _, _⟩ := served_last served
      obtain ⟨request, offset⟩ := authFrame_status frame step
      rw [stated, ne_eq, Status.code_inj] at request offset
      exact ⟨⟨still, by rw [key], known talk⟩, ends_ofStatus request offset⟩

/-- What AUTH_INFO reported was so when it was served. -/
theorem meets_authInfoOnce (between : Between Sends Opens Sound Mine past next t) :
    authInfoOnce.Meets (link cfg hmac id host password)
      (fun info next' t' => Between Sends Opens Sound Mine past next' t' ∧
        Answered cfg hmac id Opens Sound Mine .authInfo
          (fun payload => decodeAuthInfo payload = .ok info) authInfoSize t t')
      (fun error next' t' => Between Sends Opens Sound Mine past next' t' ∧ ends error = true)
      next t := by
  have built := buildFrame_ok .authInfo next (by decide : 0xFF ≤ 0xFF)
    (by decide : ([] : List UInt8).length ≤ payloadSize) (by decide : 0 ≤ 0xFFFF)
    (by decide : 0 ≤ 0xFFFF)
  have frame := authFrame_info next
  have identified := Frame.requestId_build .authInfo next (UInt8.ofNat 0xFF) 0 0 []
  unfold authInfoOnce
  simp only [meets_bind, meets_requestId, built, meets_fromExcept_ok]
  generalize Frame.build .authInfo next (UInt8.ofNat 0xFF) 0 0 [] = request at frame identified
  subst identified
  apply (meets_asked transaction asks frame between
    fun impossible => by cases impossible).mono _ fun _ _ _ failed => failed
  rintro response next' t' ⟨between, before, after, acknowledged⟩
  apply meets_require_protocol _ _ fun error protocol => ⟨between, ends_of_isProtocol protocol⟩
  · simp [ClientError.isProtocol]
  · apply meets_fromExcept_of
    · intro info decoded
      exact ⟨between, request, response, before, after, frame, decoded, acknowledged⟩
    · intro error failed
      exact ⟨between, ends_of_isProtocol (isProtocol_of_decodeAuthInfo failed)⟩

theorem meets_authInfo (retries : Nat) (between : Between Sends Opens Sound Mine past next t) :
    (authInfo retries).Meets (link cfg hmac id host password)
      (fun info next' t' => Between Sends Opens Sound Mine past next' t' ∧
        ∃ t, Answered cfg hmac id Opens Sound Mine .authInfo
          (fun payload => decodeAuthInfo payload = .ok info) authInfoSize t t')
      (fun error next' t' => Between Sends Opens Sound Mine past next' t' ∧ ends error = true)
      next t := by
  apply meets_attempts (Between Sends Opens Sound Mine past)
  · intro next t between
    apply (meets_authInfoOnce transaction asks between).mono
    · exact fun info next' t' ⟨between, answered⟩ => ⟨between, t, answered⟩
    · exact fun error next' t' ⟨between, final⟩ => ⟨⟨between, final⟩, fun _ => between⟩
  · exact between

/-- The nonce is the one the device has issued for this request. -/
theorem meets_authChallengeOnce (between : Between Sends Opens Sound Mine past next t) :
    authChallengeOnce.Meets (link cfg hmac id host password)
      (fun nonce next' t' => Between Sends Opens Sound Mine past next' t' ∧
        Answered cfg hmac id Opens Sound Mine .authChallenge (nonce = ·) authNonceSize t t')
      (fun error next' t' => Between Sends Opens Sound Mine past next' t' ∧ ends error = true)
      next t := by
  have built := buildFrame_ok .authChallenge next (by decide : 0xFF ≤ 0xFF)
    (by decide : ([] : List UInt8).length ≤ payloadSize) (by decide : 0 ≤ 0xFFFF)
    (by decide : 0 ≤ 0xFFFF)
  have frame := authFrame_challenge next
  have identified := Frame.requestId_build .authChallenge next (UInt8.ofNat 0xFF) 0 0 []
  unfold authChallengeOnce
  simp only [meets_bind, meets_requestId, built, meets_fromExcept_ok]
  generalize Frame.build .authChallenge next (UInt8.ofNat 0xFF) 0 0 [] = request
    at frame identified
  subst identified
  apply (meets_asked transaction asks frame between
    fun impossible => by cases impossible).mono _ fun _ _ _ failed => failed
  rintro response next' t' ⟨between, before, after, acknowledged⟩
  apply meets_require_protocol _ _ fun error protocol => ⟨between, ends_of_isProtocol protocol⟩
  · simp [ClientError.isProtocol]
  · apply meets_require_protocol _ _ fun error protocol => ⟨between, ends_of_isProtocol protocol⟩
    · simp [ClientError.isProtocol]
    · exact ⟨between, request, response, before, after, frame, rfl, acknowledged⟩

/-- The proof is for the challenge of the turn before it, and an OK has opened
a session. -/
theorem meets_authProveOnce {proof : List UInt8} (length : proof.length = authProofSize)
    (between : Between Sends Opens Sound Mine past next t)
    (fresh : ∀ request, request.payload authProofSize = proof →
      FreshProof host password t.2 request) :
    (authProveOnce proof).Meets (link cfg hmac id host password)
      (fun _ next' t' => Between Sends Opens Sound Mine past next' t' ∧
        Answered cfg hmac id Opens Sound Mine .authProve (fun _ => True) 0 t t')
      (fun error next' t' => Between Sends Opens Sound Mine past next' t' ∧ ends error = true)
      next t := by
  have sized : proof.length ≤ payloadSize := by
    rw [length]
    decide
  have built := buildFrame_ok .authProve next (by decide : 0xFF ≤ 0xFF) sized
    (by decide : 0 ≤ 0xFFFF) (by decide : authProofSize ≤ 0xFFFF)
  have frame := authFrame_prove next length
  have identified := Frame.requestId_build .authProve next (UInt8.ofNat 0xFF) 0 authProofSize proof
  have carried := Frame.payload_build .authProve next (UInt8.ofNat 0xFF) 0 authProofSize proof sized
  rw [length] at carried
  unfold authProveOnce
  simp only [meets_bind, meets_requestId, built, meets_fromExcept_ok]
  have same : AuthCore.proofSize = authProofSize := rfl
  rw [same] at frame
  generalize Frame.build .authProve next (UInt8.ofNat 0xFF) 0 authProofSize proof = request
    at frame identified carried
  subst identified
  apply (meets_asked transaction asks frame between fun _ => fresh request carried).mono _
    fun _ _ _ failed => failed
  rintro response next' t' ⟨between, before, after, acknowledged⟩
  apply meets_require_protocol _ _ fun error protocol => ⟨between, ends_of_isProtocol protocol⟩
  · simp [ClientError.isProtocol]
  · exact ⟨between, request, response, before, after, frame, trivial, acknowledged⟩

/-- One round: the parameters, the nonce, and the proof for both. A round that
fails leaves nothing that a later one builds on. -/
theorem meets_authenticateOnce (between : Between Sends Opens Sound Mine past next t) :
    (authenticateOnce host password).Meets (link cfg hmac id host password)
      (fun _ next' t' => Between Sends Opens Sound Mine past next' t' ∧
        ∃ t, Answered cfg hmac id Opens Sound Mine .authProve (fun _ => True) 0 t t')
      (fun error next' t' => Between Sends Opens Sound Mine past next' t' ∧ ends error = true)
      next t := by
  unfold authenticateOnce
  rw [meets_bind]
  apply (meets_authInfoOnce transaction asks between).mono _ fun _ _ _ failed => failed
  rintro info next₁ t₁ ⟨between, asking, informed, _, _, asked, decoded, heard⟩
  by_cases configured : info.configured = false
  · rw [if_pos configured, meets_bind, meets_throw]
    exact ⟨between, rfl⟩
  rw [if_neg configured, meets_bind]
  apply (meets_authChallengeOnce transaction asks between).mono _ fun _ _ _ failed => failed
  rintro nonce next₂ t₂ ⟨between, challenging, challenged, _, _, frame, same, answered⟩
  rw [meets_bind]
  apply meets_fromExcept_of
  · intro proof proved
    have length := length_of_buildAuthProof proved
    rw [meets_bind]
    apply (meets_authProveOnce transaction asks length between _).mono
    · exact fun _ next' t' ⟨between, answered⟩ => ⟨between, t₂, answered⟩
    · exact fun _ _ _ failed => failed
    · intro request carried
      refine ⟨t.2, asking, informed, challenging, challenged, info, ?_, asked.passed,
        frame.passed, answered.status, decoded, ?_⟩
      · rw [answered.talk, heard.talk, List.append_assoc]
        rfl
      · rw [← same, carried]
        exact proved
  · intro error failed
    refine ⟨between, ?_⟩
    unfold buildAuthProof at failed
    split at failed
    · cases failed
      rfl
    · cases failed

/-- The rounds of `authenticate`, each with parameters and a nonce of its
own. -/
theorem meets_authenticate (retries : Nat) (secret : String)
    (between : Between Sends Opens Sound Mine past next t) :
    (authenticate host retries secret).Meets (link cfg hmac id host (host.normalize secret))
      (fun _ next' t' => Between Sends Opens Sound Mine past next' t' ∧
        ∃ t, Answered cfg hmac id Opens Sound Mine .authProve (fun _ => True) 0 t t')
      (fun error next' t' => Between Sends Opens Sound Mine past next' t' ∧ ends error = true)
      next t := by
  unfold authenticate normalizePassword
  rw [meets_bind]
  split
  · exact ⟨between, rfl⟩
  · apply meets_attempts (Between Sends Opens Sound Mine past)
    · intro next t between
      apply (meets_authenticateOnce transaction asks between).mono
      · exact fun _ _ _ answered => answered
      · exact fun error next' t' ⟨between, final⟩ => ⟨⟨between, final⟩, fun _ => between⟩
    · exact between

end Rules

/-! ## The transactions -/

/-- The authentication frames leave alone whatever the protection and the calls
decide. -/
theorem authTransaction (cfg : Config) (hmac : Hmac) (id : ContextId) {Sound : Station → Prop}
    (rested : ∀ {s s'}, Station.Rests cfg hmac s s' → Sound s → Sound s')
    (served : ∀ {s : Station} {exchange w'}, ProtectionKept s.world w' → Sound s →
      Sound (s.serve exchange w')) :
    Transaction (device cfg hmac id) (fun request => ∃ opcode, AuthFrame request opcode)
      (fun _ => True) Sound fun _ => False := by
  constructor
  · exact fun step => ⟨rested step, False.elim⟩
  · rintro s request response s' ⟨env, w', _, step, rfl⟩ ⟨opcode, frame⟩ sound _
    exact ⟨served (@authFrame_step _ _ _ _ _ _ _ _ [] _ frame step).2 sound, False.elim⟩

variable {start : World} {credential : Credential} {s s' : Station}

/-- A protected device has the credential it had, or the new one; only that one
was stored. -/
structure Changing (start : World) (credential : Credential) (s : Station) : Prop where
  holds : s.world.auth.state = .stateProtected → s.world.auth.credential = credential ∨
    (start.auth.state = .stateProtected ∧ s.world.auth.credential = start.auth.credential)
  kept : Kept (CredentialOnly credential) s

/-- The device is protected by the new credential. -/
structure Changed (start : World) (credential : Credential) (s : Station) : Prop extends
    Changing start credential s where
  guarded : s.world.auth.state = .stateProtected
  active : s.world.auth.credential = credential

/-- And a session is open. -/
structure Opened (start : World) (credential : Credential) (s : Station) : Prop extends
    Changed start credential s where
  session : s.world.auth.sessionActive = true

theorem Changing.rests (changing : Changing start credential s)
    (rested : Station.Rests cfg hmac s s') : Changing start credential s' := by
  have quiet := rests_quietKept (.single rested)
  constructor
  · rw [quiet.auth]
    exact changing.holds
  · exact changing.kept.rests rested

theorem Changing.serves {exchange : Exchange} {w' : World} (changing : Changing start credential s)
    (only : CredentialOnly credential ⟨s.world, exchange, w'⟩) :
    Changing start credential (s.serve exchange w') := by
  constructor
  · intro guarded
    have guarded : w'.auth.state = .stateProtected := guarded
    rcases only.only with kept | same
    · have before := changing.holds (kept.state.symm.trans guarded)
      rw [← kept.credential] at before
      exact before
    · exact Or.inl same
  · exact changing.kept.serve only

theorem Changed.rests (changed : Changed start credential s)
    (rested : Station.Rests cfg hmac s s') : Changed start credential s' := by
  have quiet := rests_quietKept (.single rested)
  constructor
  · exact changed.toChanging.rests rested
  · rw [quiet.auth]
    exact changed.guarded
  · rw [quiet.auth]
    exact changed.active

theorem Changed.serves {exchange : Exchange} {w' : World} (changed : Changed start credential s)
    (kept : ProtectionKept s.world w') : Changed start credential (s.serve exchange w') := by
  constructor
  · exact changed.toChanging.serves ⟨Or.inl kept, fun _ => kept⟩
  · exact kept.state.trans changed.guarded
  · exact kept.credential.trans changed.active

/-- The frames of `set_password`. -/
def PasswordSends (object : List UInt8) (request : Frame) : Prop :=
  (∃ offset, ChunkOf .passwordSet 0xFF object offset request) ∨
    ∃ opcode, AuthFrame request opcode

/-- Those that continue no staging. -/
def PasswordOpens (request : Frame) : Prop :=
  baseCheck request = .ok .passwordSet → request.offset = 0

/-- The frames of a PASSWORD_SET as a transaction: until its commit the device
has the old credential, and from then on the new one. -/
theorem passwordTransaction (cfg : Config) (hmac : Hmac) (id : ContextId) (start : World)
    (fits : credential.iterations < 256 ^ 4) :
    Transaction (device cfg hmac id) (PasswordSends (credentialObject credential)) PasswordOpens
      (Changing start credential)
      (fun s => OwnedObject id (credentialObject credential) s.world) := by
  constructor
  · intro s s' rested
    exact ⟨fun changing => changing.rests rested,
      fun owned => owned.congr ((rests_quietKept (.single rested)).passwordSet id)⟩
  · rintro s request response s' ⟨env, w', _, step, rfl⟩ sends changing before
    rcases sends with ⟨offset, chunk⟩ | ⟨opcode, frame⟩
    · obtain ⟨owned, only⟩ := passwordChunk_step (credentialObject_length credential) chunk
        (before.imp_right fun opens => opens chunk.passed) step
      rw [stagedCredential_object credential fits] at only
      exact ⟨changing.serves only, fun _ => owned⟩
    · obtain ⟨owned, kept⟩ := authFrame_step frame step
      exact ⟨changing.serves ⟨Or.inl kept, fun _ => kept⟩, owned⟩

theorem passwordAsks (frame : AuthFrame request opcode) :
    PasswordSends object request ∧ PasswordOpens request := by
  refine ⟨Or.inr ⟨opcode, frame⟩, fun passed => ?_⟩
  cases frame.passed.symm.trans passed
  exact absurd rfl frame.ne_passwordSet

/-! ## Chunks -/

/-- What an error leaves to a further attempt. -/
def Leaves (past : Talk) : ClientError → Prop
  | .passwordSetTimeout _ final => final = false → Known past
  | error => error.isContextLost = true → Known past

theorem leaves_of_isProtocol {error : ClientError} (protocol : error.isProtocol = true) :
    Leaves past error := by
  cases error with
  | protocolError | dynamicV1Error | passwordSetUnconfirmed => exact nofun
  | _ => cases protocol

theorem leaves_of_status {error : ClientError} (code : UInt8) (stated : error.status = some code)
    (known : code = Status.badRequest.code ∨ code = Status.badOffset.code → Known past) :
    Leaves past error := by
  have lost : error.isContextLost = true → Known past := by
    intro lost
    apply known
    simpa [ClientError.isContextLost, stated] using lost
  cases error with
  | passwordSetTimeout => cases stated
  | _ => exact lost

/-- Between the chunks of one attempt. -/
structure Sending (id : ContextId) (start : World) (credential : Credential) (requestId : UInt8)
    (next : UInt8) (t : Delayed Station Frame × Talk) : Prop where
  guarded : Guarded (PasswordSends (credentialObject credential)) PasswordOpens
    (Changing start credential) (fun s => OwnedObject id (credentialObject credential) s.world) t.1
  next : next = requestId + 1

/-- One chunk. If its answer is lost, whether it was served is open, and if it
was the last one so is whether the credential was changed. -/
theorem meets_passwordSetChunk (fits : credential.iterations < 256 ^ 4)
    (inside : offset < passwordSetLength) (sending : Sending id start credential requestId next t)
    (covered : OwnedObject id (credentialObject credential) t.1.state.world ∨ offset = 0)
    (keyed : Keyed requestId t.1) (known : Known t.2) :
    (passwordSetChunk (credentialObject credential) requestId offset).Meets
      (link cfg hmac id host password)
      (fun _ next' t' => Sending id start credential requestId next' t' ∧ t'.1.answered = true ∧
        t'.1.key = requestId ∧ OwnedObject id (credentialObject credential) t'.1.state.world ∧
        (offset + payloadSize < passwordSetLength → Known t'.2))
      (fun error next' t' => Sending id start credential requestId next' t' ∧
        t'.1.key = requestId ∧ Leaves t'.2 error) next t := by
  have transaction := @passwordTransaction credential cfg hmac id start fits
  have whole := credentialObject_length credential
  have sized : (((credentialObject credential).drop offset).take payloadSize).length ≤
      payloadSize :=
    List.length_take_le _ _
  have length : (((credentialObject credential).drop offset).take payloadSize).length =
      min payloadSize (passwordSetLength - offset) := by
    rw [List.length_take, List.length_drop, whole]
  have small : passwordSetLength < 65536 := by decide
  have built := buildFrame_ok .passwordSet requestId (by decide : 0xFF ≤ 0xFF) sized
    (by omega : offset ≤ 0xFFFF) (by omega : (credentialObject credential).length ≤ 0xFFFF)
  have chunk := chunkOf_build .passwordSet requestId (by decide : 0xFF ≤ 0xFF)
    (by omega : (credentialObject credential).length < 65536)
    (by omega : offset ≤ (credentialObject credential).length)
  have identified : (Frame.build .passwordSet requestId (UInt8.ofNat 0xFF) offset
      (credentialObject credential).length
      (((credentialObject credential).drop offset).take payloadSize)).requestId = requestId :=
    Frame.requestId_build ..
  unfold passwordSetChunk
  simp only [slice_chunk, meets_bind, built, meets_fromExcept_ok, meets_tryCatch]
  generalize Frame.build .passwordSet requestId (UInt8.ofNat 0xFF) offset
    (credentialObject credential).length
    (((credentialObject credential).drop offset).take payloadSize) = request
    at chunk identified
  have final : FinalChunk request ↔ offset + min payloadSize (passwordSetLength - offset) =
      passwordSetLength := by
    unfold FinalChunk
    rw [chunk.place, chunk.total, chunk.length, whole]
    exact ⟨fun both => both.2, fun ends => ⟨chunk.passed, ends⟩⟩
  have lawfully : Lawful host password t.2 request :=
    ⟨fun _ => known, fun passed => by cases chunk.passed.symm.trans passed⟩
  rw [length, whole]
  rw [← identified] at keyed
  apply (meets_sent transaction sending.guarded keyed lawfully chunk.passed
    (Or.inl ⟨offset, chunk⟩) (covered.imp_right fun first _ => chunk.place.trans first)).mono
  · rintro response next' t' ⟨rfl, still, before, after, acknowledged⟩
    have key := acknowledged.key.trans identified
    have left : Sending id start credential requestId next' t' := ⟨still, sending.next⟩
    apply meets_require_protocol
    · simp [ClientError.isProtocol]
    · refine ⟨left, acknowledged.served.answered, key, ?_, fun partly => ?_⟩
      · obtain ⟨env, w', step, quiet, _⟩ := served_last acknowledged.served
        have opens := acknowledged.served.covered.imp_right fun opens => opens chunk.passed
        exact (passwordChunk_step whole chunk opens step).1.congr (quiet.passwordSet id)
      · rw [acknowledged.talk]
        refine known.append fun ends => ?_
        have ends := final.mp ends
        omega
    · exact fun error protocol => ⟨left, key, leaves_of_isProtocol protocol⟩
  · rintro error next' t' ⟨rfl, still, key, failed⟩
    have left : Sending id start credential requestId next' t' := ⟨still, sending.next⟩
    cases failed with
    | lost fault talk =>
      rw [meets_throw]
      refine ⟨left, key.trans identified, fun partly => ?_⟩
      rw [talk]
      refine known.append fun ends => ?_
      rw [final.mp ends] at partly
      simp at partly
    | refused status response before after bad stated talk served =>
      have leaves : Leaves t'.2 (ofStatus status) := by
        apply leaves_of_status (response.status) (by rw [status_ofStatus, stated])
        intro lost
        rw [talk]
        exact known.append fun _ => ⟨response, rfl, lost⟩
      have plain := isTransport_ofStatus status
      generalize ofStatus status = error at leaves plain
      cases error with
      | transportError => cases plain
      | _ => exact ⟨left, key.trans identified, leaves⟩

/-- The chunks of one attempt: the last one follows chunks that were all
acknowledged. -/
theorem meets_passwordSetOnce (fits : credential.iterations < 256 ^ 4)
    (sending : Sending id start credential requestId next t) (keyed : Keyed requestId t.1)
    (known : Known t.2) :
    (passwordSetOnce (credentialObject credential) requestId).Meets
      (link cfg hmac id host password)
      (fun _ next' t' => Sending id start credential requestId next' t' ∧ t'.1.key = requestId)
      (fun error next' t' => Sending id start credential requestId next' t' ∧
        t'.1.key = requestId ∧ Leaves t'.2 error) next t := by
  rw [passwordSetOnce, credentialObject_length]
  have nonempty : passwordSetLength ≠ 0 := by decide
  apply (meets_chunks passwordSetLength (fun sent next' t' =>
    Sending id start credential requestId next' t' ∧ Keyed requestId t'.1 ∧
    (sent = 0 ∨ (OwnedObject id (credentialObject credential) t'.1.state.world ∧
      t'.1.key = requestId)) ∧
    (sent < passwordSetLength → Known t'.2)) _ _).mono
  · rintro _ next' t' ⟨left, _, sent, _⟩
    exact ⟨left, (sent.resolve_left nonempty).2⟩
  · exact fun _ _ _ raised => raised
  · rintro sent next' t' before ⟨left, keyed, owned, known⟩
    have covered := owned.symm.imp_left And.left
    apply (meets_passwordSetChunk fits before left covered keyed (known before)).mono
    · rintro _ next'' t'' ⟨left, answered, key, owned, known⟩
      refine ⟨left, Or.inr ⟨answered, key.symm⟩, Or.inr ⟨owned, key⟩, fun partly => known ?_⟩
      omega
    · exact fun _ _ _ raised => raised
  · exact ⟨sending, keyed, Or.inl rfl, fun _ => known⟩

/-! ## Confirmation -/

/-- The last request of the talk is an AUTH_PROVE; it was served last, by a
device that the credential protects, and opened a session there. -/
def LastProves (id : ContextId) (credential : Credential) (served : List (Moment World Exchange))
    (talk : Talk) : Prop :=
  ∃ earlier past moment, served = earlier ++ [moment] ∧
    talk = past ++ [(moment.event.request, .ok moment.event.response)] ∧
    moment.event.id = id ∧ baseCheck moment.event.request = .ok .authProve ∧
    moment.event.response.status = Status.ok.code ∧
    moment.before.auth.state = .stateProtected ∧ moment.before.auth.credential = credential ∧
    moment.after.auth.sessionActive = true ∧ moment.after.auth.credential = credential

/-- A salt that is not the old one shows that the new credential was committed.
The salt of the call has to be another one than that of the device for this. -/
theorem changed_of_salt {info : AuthInfo}
    (differs : start.auth.state = .stateProtected → start.auth.credential.salt ≠ credential.salt)
    (changing : Changing start credential t'.1.state)
    (answered : Answered cfg hmac id PasswordOpens (Changing start credential)
      (fun s => OwnedObject id (credentialObject credential) s.world) .authInfo
      (fun payload => decodeAuthInfo payload = .ok info) authInfoSize t t')
    (configured : info.configured = true) (same : info.salt = credential.salt.toList) :
    Guarded (fun request => ∃ opcode, AuthFrame request opcode) (fun _ => True)
      (Changed start credential) (fun _ => False) t'.1 := by
  obtain ⟨request, response, before, after, frame, decoded, acknowledged⟩ := answered
  obtain ⟨env, w', step, quiet, _⟩ := served_last acknowledged.served
  have kept := (@authFrame_step _ _ _ _ _ _ _ _ [] _ frame step).2
  obtain ⟨guarded, salt⟩ :=
    authInfo_reports frame.passed step acknowledged.status decoded configured
  have active : before.world.auth.credential = credential := by
    rcases acknowledged.served.sound.holds guarded with same | ⟨old, unchanged⟩
    · exact same
    · rw [unchanged, same, Vector.toList_inj] at salt
      exact absurd salt.symm (differs old)
  have changed : Changed start credential t'.1.state := by
    constructor
    · exact changing
    · rw [quiet.auth, kept.state]
      exact guarded
    · rw [quiet.auth, kept.credential]
      exact active
  refine ⟨changed, ?_, Or.inr fun _ _ => trivial⟩
  rw [acknowledged.served.pending]
  simp

theorem lastProves_of_answered
    (answered : Answered cfg hmac id (fun _ => True) (Changed start credential) (fun _ => False)
      .authProve (fun _ => True) 0 t t') :
    LastProves id credential t'.1.state.served t'.2 := by
  obtain ⟨request, response, before, after, frame, _, acknowledged⟩ := answered
  obtain ⟨env, w', step, _, served⟩ := served_last acknowledged.served
  obtain ⟨_, active⟩ := authProve_opens frame.passed step acknowledged.status
  have changed := acknowledged.served.sound
  have kept := (@authFrame_step _ _ _ _ _ _ _ _ [] _ frame step).2
  exact ⟨before.served, t.2, _, served, acknowledged.talk, rfl, frame.passed, acknowledged.status,
    changed.guarded, changed.active, active, kept.credential.trans changed.active⟩

theorem session_of_answered {Sound Mine : Station → Prop}
    (answered : Answered cfg hmac id Opens Sound Mine .authProve (fun _ => True) 0 t t') :
    t'.1.state.world.auth.sessionActive = true := by
  obtain ⟨request, response, before, after, frame, _, acknowledged⟩ := answered
  obtain ⟨env, w', step, quiet, _⟩ := served_last acknowledged.served
  rw [quiet.auth]
  exact (authProve_opens frame.passed step acknowledged.status).2

/-- Between the attempts of `set_password`. -/
abbrev Pausing (id : ContextId) (start : World) (credential : Credential) (past : Talk)
    (next : UInt8) (t : Delayed Station Frame × Talk) : Prop :=
  Between (PasswordSends (credentialObject credential)) PasswordOpens (Changing start credential)
    (fun s => OwnedObject id (credentialObject credential) s.world) past next t

/-- AUTH_INFO settles whether the last chunk was served, and a login that the
device has the key. -/
theorem meets_confirm (retries : Nat) (secret : String)
    (fits : credential.iterations < 256 ^ 4)
    (differs : start.auth.state = .stateProtected → start.auth.credential.salt ≠ credential.salt)
    (pausing : Pausing id start credential past next t) :
    (confirmPasswordSet host retries credential.salt.toList secret).Meets
      (link cfg hmac id host (host.normalize secret))
      (fun _ _ t' => Opened start credential t'.1.state ∧
        LastProves id credential t'.1.state.served t'.2)
      (fun error _ t' => Changing start credential t'.1.state ∧ ends error = true) next t := by
  unfold confirmPasswordSet
  rw [meets_bind]
  apply (meets_authInfo (passwordTransaction cfg hmac id start fits) passwordAsks retries
    pausing).mono
  · rintro info next' t' ⟨pausing, t₁, answered⟩
    by_cases unconfirmed : info.configured = false ∨ info.salt ≠ credential.salt.toList
    · rw [if_pos unconfirmed, meets_bind, meets_throw]
      exact ⟨pausing.guarded.sound, rfl⟩
    rw [if_neg unconfirmed]
    rw [not_or, Bool.not_eq_false, not_not] at unconfirmed
    have guarded := changed_of_salt differs pausing.guarded.sound answered unconfirmed.1
      unconfirmed.2
    have transaction := @authTransaction cfg hmac id (Changed start credential)
      (fun step changed => changed.rests step) fun kept changed => changed.serves kept
    have between : Between (fun request => ∃ opcode, AuthFrame request opcode) (fun _ => True)
        (Changed start credential) (fun _ => False) t'.2 next' t' :=
      ⟨guarded, pausing.keyed, fun known => known⟩
    apply (meets_authenticate transaction (fun frame => ⟨⟨_, frame⟩, trivial⟩) retries secret
      between).mono
    · rintro _ next'' t'' ⟨between, t₂, proved⟩
      exact ⟨⟨between.guarded.sound, session_of_answered proved⟩, lastProves_of_answered proved⟩
    · rintro error next'' t'' ⟨between, final⟩
      exact ⟨between.guarded.sound.toChanging, final⟩
  · rintro error next' t' ⟨pausing, final⟩
    exact ⟨pausing.guarded.sound, final⟩

/-! ## The whole call -/

/-- One attempt with its confirmation. Where the last chunk has no answer, the
confirmation decides. -/
theorem meets_setPasswordOnce (retries : Nat) (secret : String)
    (fits : credential.iterations < 256 ^ 4)
    (differs : start.auth.state = .stateProtected → start.auth.credential.salt ≠ credential.salt)
    (pausing : Pausing id start credential [] next t) :
    (setPasswordOnce host retries (credentialObject credential) credential.salt.toList
      secret).Meets (link cfg hmac id host (host.normalize secret))
      (fun outcome next' t' =>
        match outcome with
        | .ok _ => Opened start credential t'.1.state ∧
            LastProves id credential t'.1.state.served t'.2
        | .error _ => Changing start credential t'.1.state ∧
            Pausing id start credential [] next' t')
      (fun _ _ t' => Changing start credential t'.1.state) next t := by
  have known : Known t.2 := pausing.known fun turn member => by cases member
  have sending : Sending id start credential next (next + 1) t := ⟨pausing.guarded, rfl⟩
  have pauses : ∀ {next' : UInt8} {t' past}, Sending id start credential next next' t' →
      t'.1.key = next → (Known past → Known t'.2) → Pausing id start credential past next' t' := by
    intro next' t' past sending key known
    exact ⟨sending.guarded, by rw [key, sending.next], known⟩
  have confirmed : ∀ {next' : UInt8} {t'}, Sending id start credential next next' t' →
      t'.1.key = next → (do
        let info ← confirmPasswordSet host retries credential.salt.toList secret
        return Except.ok info : Client (Except ClientError AuthInfo)).Meets
          (link cfg hmac id host (host.normalize secret)) (fun outcome next' t' =>
            match outcome with
            | .ok _ => Opened start credential t'.1.state ∧
                LastProves id credential t'.1.state.served t'.2
            | .error _ => Changing start credential t'.1.state ∧
                Pausing id start credential [] next' t')
          (fun error _ t' => Changing start credential t'.1.state ∧ ends error = true)
          next' t' := by
    intro next' t' sending key
    rw [meets_bind]
    apply (meets_confirm retries secret fits differs (pauses sending key fun known : Known t'.2 =>
      known)).mono
    · exact fun _ _ _ holds => holds
    · exact fun _ _ _ failed => failed
  unfold setPasswordOnce
  rw [meets_bind, meets_requestId, meets_tryCatch, meets_bind]
  apply (meets_passwordSetOnce fits sending (Or.inl pausing.keyed) known).mono
  · rintro _ next' t' ⟨sending, key⟩
    apply (confirmed sending key).mono (fun _ _ _ holds => holds)
    rintro error next'' t'' ⟨changing, final⟩
    cases error with
    | passwordSetTimeout => cases final
    | _ =>
      simp only [ends, Bool.not_eq_true'] at final
      simp only [final]
      exact changing
  · rintro error next' t' ⟨sending, key, leaves⟩
    have changing := sending.guarded.sound
    cases error with
    | passwordSetTimeout fault last =>
      cases last with
      | true => exact (confirmed sending key).mono (fun _ _ _ holds => holds) fun _ _ _ failed =>
          failed.1
      | false => exact ⟨changing, pauses sending key fun _ => leaves rfl⟩
    | _ =>
      dsimp only
      split
      next lost => exact ⟨changing, pauses sending key fun _ => leaves lost⟩
      · exact changing

/-- What `set_password` generates. -/
def generated (host : Host) (secret : String) (iterations : Nat) (salt : Vector UInt8 16) :
    Credential :=
  ⟨iterations, salt, host.pbkdf2 (host.normalize secret) salt.toList iterations⟩

/-- The attempts of `set_password`. Another one starts only when the last chunk
of the one before is known to have committed nothing. -/
theorem meets_setPassword (retries : Nat) (secret : String) (iterations : Nat)
    (salt : Vector UInt8 16) (called : credential = generated host secret iterations salt)
    (differs : start.auth.state = .stateProtected → start.auth.credential.salt ≠ salt)
    (pausing : Pausing id start credential [] next t) :
    (setPassword host retries secret iterations salt).Meets
      (link cfg hmac id host (host.normalize secret))
      (fun _ _ t' => Opened start credential t'.1.state ∧
        LastProves id credential t'.1.state.served t'.2)
      (fun _ _ t' => Changing start credential t'.1.state) next t := by
  have changing := pausing.guarded.sound
  unfold setPassword normalizePassword
  rw [meets_bind]
  split
  · exact changing
  rw [meets_fromExcept_ok, meets_bind]
  apply meets_fromExcept_of _ fun _ _ => changing
  intro _ valid
  have bounded : iterations ≤ authIterationsMax := by
    unfold validateIterations at valid
    split at valid
    · cases valid
    · omega
  have fits : credential.iterations < 256 ^ 4 := by
    rw [called]
    unfold authIterationsMax at bounded
    have same : (generated host secret iterations salt).iterations = iterations := rfl
    omega
  rw [meets_bind]
  apply (meets_authInfo (passwordTransaction cfg hmac id start fits) passwordAsks retries
    pausing).mono
  · rintro info next' t' ⟨pausing, _⟩
    have changing := pausing.guarded.sound
    split
    · exact changing
    rw [meets_bind]
    apply meets_fromExcept_of _ fun _ _ => changing
    intro _ _
    dsimp only
    split
    · exact changing
    subst called
    apply meets_untilReturned (Pausing id start (generated host secret iterations salt) []) _
      retries pausing
    intro next t pausing
    apply (meets_setPasswordOnce retries secret fits differs pausing).mono
    · exact fun outcome _ _ holds => by cases outcome <;> exact holds
    · exact fun _ _ _ changing => changing
  · rintro error next' t' ⟨pausing, _⟩
    exact pausing.guarded.sound

/-- An answer that says so comes from a frame that has committed nothing. -/
def SaysTrue (served : List (Moment World Exchange)) (talk : Talk) : Prop :=
  ∀ request response, (request, .ok response) ∈ talk → NotCommitted (.ok response) →
    ∃ moment ∈ served, moment.event.request = request ∧ moment.event.response = response ∧
      ProtectionKept moment.before moment.after

theorem saysTrue_of_witnessed (witnessed : Witnessed id t)
    (kept : Kept (CredentialOnly credential) t.1.state) : SaysTrue t.1.state.served t.2 := by
  rintro request response member ⟨_, same, refused⟩
  cases same
  obtain ⟨moment, found, _, asked, heard⟩ := witnessed request response member
  refine ⟨moment, found, asked, heard, (kept moment found).refused fun success => ?_⟩
  rw [heard] at success
  rcases refused with other | other
  · exact absurd (success.symm.trans other) (by decide)
  · exact absurd (success.symm.trans other) (by decide)

/-- Whatever the link loses or delays: when `set_password` returns, the
AUTH_PROVE it has seen answered opened a session with the credential of this
call. No final chunk follows one whose outcome is not known, an answer that
allows one to follow is from a frame that committed nothing, and every proof,
also of `authenticate`, is for the challenge of the turn before it. -/
theorem password_over_loss (cfg : Config) (hmac : Hmac) (id : ContextId) (w : World)
    (next : UInt8) (issued : Nat) (host : Host) (retries : Nat) (secret : String) :
    (∀ iterations salt, (w.auth.state = .stateProtected → w.auth.credential.salt ≠ salt) →
      ∀ talk outcome final, Runs (lossy (device cfg hmac id)).answers
        ((setPassword host retries secret iterations salt).dialogue next)
        ⟨.fresh w, [], [], issued⟩ talk outcome final →
      (∀ info, outcome.1 = .ok info → LastProves id (generated host secret iterations salt)
        final.state.served talk) ∧
      SaysTrue final.state.served talk ∧
      ∀ front turn back, talk = front ++ turn :: back →
        (FinalChunk turn.1 → Known front) ∧
        (baseCheck turn.1 = .ok .authProve →
          FreshProof host (host.normalize secret) front turn.1)) ∧
    ∀ talk outcome final, Runs (lossy (device cfg hmac id)).answers
      ((authenticate host retries secret).dialogue next) ⟨.fresh w, [], [], issued⟩ talk outcome
      final →
      ∀ front turn back, talk = front ++ turn :: back → baseCheck turn.1 = .ok .authProve →
        FreshProof host (host.normalize secret) front turn.1 := by
  have keyed : next = next - 1 + 1 := by simp
  constructor
  · intro iterations salt differs talk outcome final runs
    have pausing : Pausing id w (generated host secret iterations salt) [] next
        (⟨.fresh w, [], next - 1, false⟩, []) :=
      ⟨.initially ⟨fun guarded => Or.inr ⟨guarded, rfl⟩, .fresh w⟩, keyed, fun known => known⟩
    have meets := @meets_setPassword cfg hmac id host _ _ _ _ retries secret iterations salt rfl
      differs pausing
    have ensures := Ensures.invariant meets (Witnessed id)
      (fun _ _ impossible => by cases impossible)
      fun _ _ _ _ witnessed answered => witnessed.answers answered
    have simulated := ensures_lossy ensures
      (represents_empty (device cfg hmac id) (Station.fresh w) issued (next - 1))
    obtain ⟨⟨_, d, represents, ended, witnessed⟩, lawful⟩ := Ensures.recorded simulated runs
    rw [List.nil_append] at ended witnessed
    rw [← represents.state]
    obtain ⟨error | value, next'⟩ := outcome
    · exact ⟨nofun, saysTrue_of_witnessed witnessed ended.kept, lawful⟩
    · exact ⟨fun _ _ => ended.2, saysTrue_of_witnessed witnessed ended.1.kept, lawful⟩
  · intro talk outcome final runs
    have transaction := @authTransaction cfg hmac id (fun _ => True) (fun _ _ => trivial)
      fun _ _ => trivial
    have between : Between (fun request => ∃ opcode, AuthFrame request opcode) (fun _ => True)
        (fun _ => True) (fun _ => False) [] next (⟨.fresh w, [], next - 1, false⟩, []) :=
      ⟨.initially trivial, keyed, fun known => known⟩
    have meets := @meets_authenticate cfg hmac id host _ _ _ _ _ _ _ transaction
      (fun frame => ⟨⟨_, frame⟩, trivial⟩) retries secret between
    have simulated := ensures_lossy meets
      (represents_empty (device cfg hmac id) (Station.fresh w) issued (next - 1))
    intro front turn back split proves
    exact ((Ensures.recorded simulated runs).2 front turn back split).2 proves

def sampleHost : Host where
  normalize password := password.toList.map fun c => UInt8.ofNat c.toNat
  pbkdf2 password _ _ := Vector.ofFn fun i => password.getD i 1
  hmac := AuthCore.sampleHmac

def sampleSalt : Vector UInt8 16 := Vector.replicate 16 7

/-- The answers to the third and to the sixth frame are lost. -/
def sampleFates : List Fate :=
  [.answered, .answered, .answerLost, .answered, .answered, .answerLost]

/-- Sets the first password of a device. The answer to the second chunk is
lost, and the change starts over; then the answer to the last chunk is lost,
and AUTH_INFO tells that it was committed. -/
def sampleCall : Talk × (Except ClientError AuthInfo × UInt8) × (Station × List Fate) :=
  ((setPassword sampleHost 1 "pw" 100000 sampleSalt).dialogue 7).drive
    (stumbling (Station.answer .default AuthCore.sampleHmac 0 (.still 0)) .timeoutError)
    (.fresh (.boot .default .empty), sampleFates)

/-- Whether a call came back with a value. -/
def returns {α : Type} : Except ClientError α → Bool
  | .ok _ => true
  | .error _ => false

/-- Ten frames, two lost answers: the call still returns, and its last proof is
for the credential it stored. -/
theorem password_over_loss_sample :
    ∃ talk outcome final, Runs (lossy (device .default AuthCore.sampleHmac 0)).answers
      ((setPassword sampleHost 1 "pw" 100000 sampleSalt).dialogue 7)
      ⟨.fresh (.boot .default .empty), [], [], 0⟩ talk outcome final ∧ talk.length = 10 ∧
      LastProves 0 (generated sampleHost "pw" 100000 sampleSalt) final.state.served talk := by
  obtain ⟨issued, runs⟩ := runs_stumbling (@Station.answer_direct .default AuthCore.sampleHmac 0
    (fun _ _ => True) (.still 0) (fun _ => True) fun _ => trivial) .timeoutError
    ((setPassword sampleHost 1 "pw" 100000 sampleSalt).dialogue 7) (.fresh (.boot .default .empty))
    sampleFates 0
  have turns : sampleCall.1.length = 10 := by
    decide +kernel
  refine ⟨_, _, _, runs, turns, ?_⟩
  have guarantee := (password_over_loss .default AuthCore.sampleHmac 0 (.boot .default .empty) 7 0
    sampleHost 1 "pw").1 100000 sampleSalt (fun guarded => by cases guarded) _ _ _ runs
  have returned : returns sampleCall.2.1.1 = true := by
    decide +kernel
  cases outcome : sampleCall.2.1.1 with
  | error error =>
    rw [outcome] at returned
    cases returned
  | ok info => exact guarantee.1 info outcome

end RuntimeMacro.Guarantees.PasswordOverLoss
