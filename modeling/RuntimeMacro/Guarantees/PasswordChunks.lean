import RuntimeMacro.Guarantees.CredentialCodec
import RuntimeMacro.Source.AuthReports
import RuntimeMacro.Source.LossyCalls
import RuntimeMacro.Source.SetChunks

/-!
# The frames of a password change on the firmware

runtime_macro_protocol.c:995-1142,1144-1264. The chunks of one credential may
replace the credential of the device by that one only, in any order in which
they may arrive. The authentication frames of the client leave it alone: they
report it, and open a session with it.
-/
namespace RuntimeMacro.Guarantees.PasswordChunks
open Source Source.Protocol Foundations Foundations.LittleEndian Foundations.Runs
open Source.RuntimeMacroClient (decodeAuthInfo AuthInfo)
open AuthCore (Credential Hmac)

variable {cfg : Config} {hmac : Hmac} {id : ContextId} {env : Env} {request response : Frame}
  {w w' : World} {c c' : Context} {object : List UInt8} {offset : Nat} {opcode : Opcode}

/-! ## The staging -/

/-- The context stages the front of the object. -/
structure StagesObject (object : List UInt8) (c : Context) : Prop where
  fits : c.passwordSetReceivedLength ≤ object.length
  bytes : c.passwordSetStaging.take c.passwordSetReceivedLength =
    object.take c.passwordSetReceivedLength

theorem StagesObject.congr (stages : StagesObject object c)
    (same : c'.upload .passwordSet = c.upload .passwordSet) : StagesObject object c' := by
  simp only [Context.upload, Upload.mk.injEq] at same
  obtain ⟨_, _, _, _, received, staging⟩ := same
  constructor
  · rw [received]
    exact stages.fits
  · rw [received, staging]
    exact stages.bytes

/-- An accepted chunk leaves the front of its object staged. It is the first
one, or continues a front that the context had. -/
theorem stages_of_accepted (accepted : PasswordSetAccepted request c c')
    (chunk : ChunkOf .passwordSet 0xFF object offset request)
    (before : offset = 0 ∨ (c.passwordSetActive = true → StagesObject object c)) :
    StagesObject object c' := by
  have ends := chunk.end_le
  have front := chunk.take_append
  have length := chunk.payload_length
  obtain ⟨_, ⟨first, rfl⟩ | ⟨continued, rfl⟩⟩ := accepted
  · obtain rfl : offset = 0 := chunk.place.symm.trans first
    rw [Nat.zero_add] at ends front
    refine ⟨ends, ?_⟩
    have taken := ByteBuffer.write_take_zero c.clearPasswordSet.passwordSetStaging
      (request.payload request.payloadLength)
    rw [length] at taken
    rw [List.take_zero, List.nil_append] at front
    exact taken.trans front
  · have later : offset ≠ 0 := by
      rw [← chunk.place]
      exact continued.later
    have stages := before.resolve_left later continued.active
    have received : c.passwordSetReceivedLength = offset :=
      continued.received.symm.trans chunk.place
    have reached : (extendPasswordSet request c).passwordSetReceivedLength =
        offset + request.payloadLength := by
      simp only [extendPasswordSet, received]
    refine ⟨by rw [reached]; exact ends, ?_⟩
    have taken := ByteBuffer.write_take c.passwordSetStaging offset
      (request.payload request.payloadLength)
    have bytes := stages.bytes
    rw [received] at bytes
    rw [length, bytes, front] at taken
    rw [reached]
    simp only [extendPasswordSet, chunk.place]
    exact taken

/-- The context stages the front of the object, or nothing. -/
def OwnedObject (id : ContextId) (object : List UInt8) (w : World) : Prop :=
  (w.contexts id).passwordSetActive = true → StagesObject object (w.contexts id)

theorem OwnedObject.congr (owned : OwnedObject id object w)
    (same : (w'.contexts id).upload .passwordSet = (w.contexts id).upload .passwordSet) :
    OwnedObject id object w' := by
  intro active
  have still : (w.contexts id).passwordSetActive = true :=
    (congrArg Upload.active same).symm.trans active
  exact (owned still).congr same

theorem OwnedObject.of_dropped
    (dropped : (w.contexts id).upload .passwordSet = (Context.zero cfg).upload .passwordSet) :
    OwnedObject id object w := by
  intro active
  have none : (w.contexts id).passwordSetActive = false := congrArg Upload.active dropped
  exact absurd (active.symm.trans none) (by decide)

/-! ## Chunks -/

/-- The object of PASSWORD_SET. -/
def credentialObject (credential : Credential) : List UInt8 :=
  leBytes 4 credential.iterations ++ credential.salt.toList ++ credential.key.toList

theorem credentialObject_length (credential : Credential) :
    (credentialObject credential).length = passwordSetLength := by
  simp [credentialObject, passwordSetLength]

/-- Reading a credential from the object that was written for it, when the
iterations fit four octets. -/
theorem stagedCredential_object (credential : Credential) (fits : credential.iterations < 256 ^ 4) :
    stagedCredential (credentialObject credential) = credential := by
  have split : credentialObject credential =
      leBytes 4 credential.iterations ++ (credential.salt.toList ++ credential.key.toList) := by
    rw [credentialObject, List.append_assoc]
  have word : (credentialObject credential).take 4 = leBytes 4 credential.iterations := by
    rw [split]
    exact List.take_left' (leBytes_length ..)
  have behind : (credentialObject credential).drop 4 =
      credential.salt.toList ++ credential.key.toList := by
    rw [split]
    exact List.drop_left' (leBytes_length ..)
  have last : (credentialObject credential).drop 20 = credential.key.toList := by
    rw [credentialObject]
    exact List.drop_left' (by simp)
  obtain ⟨iterations, salt, key⟩ :=
    CredentialCodec.stagedCredential_carries (credentialObject_length credential)
  rw [word, leValue_leBytes, Nat.mod_eq_of_lt fits] at iterations
  rw [behind, List.take_left' (by simp)] at salt
  rw [last] at key
  generalize stagedCredential (credentialObject credential) = staged at iterations salt key
  obtain ⟨count, salted, keyed⟩ := staged
  obtain ⟨_, _, _⟩ := credential
  rw [Vector.toList_inj] at salt key
  rw [AuthCore.Credential.mk.injEq]
  exact ⟨iterations, salt, key⟩

/-- Neither the credential nor the state of the device changed. -/
structure ProtectionKept (w w' : World) : Prop extends CredentialKept w w' where
  state : w'.auth.state = w.auth.state

/-- A frame makes this the credential or leaves the old one; a refused one
leaves the old one. -/
structure CredentialOnly (credential : Credential) (moment : Moment World Exchange) : Prop where
  only : ProtectionKept moment.before moment.after ∨
    moment.after.auth.credential = credential
  refused : moment.event.response.status ≠ Status.ok.code →
    ProtectionKept moment.before moment.after

theorem CredentialOnly.of_kept {credential : Credential} (kept : ProtectionKept w w') :
    CredentialOnly credential ⟨w, ⟨id, env, request, response⟩, w'⟩ :=
  ⟨Or.inl kept, fun _ => kept⟩

theorem persistent_kept (step : FrameStep cfg hmac w ⟨id, env, request, response⟩ w')
    (silent : Opcode.ofByte request.opcode = some .passwordSet →
      response.status ≠ Status.ok.code) :
    w'.auth.persistent = w.auth.persistent := by
  have trace := processFrame_trace cfg hmac env id request w false fun known success => by
    rw [step.result] at success
    exact absurd success (silent known)
  rw [step.result] at trace
  exact trace.persistent

/-- What the handler accepts of an object of which the front is staged. -/
theorem staged_of_accepted (chunk : ChunkOf .passwordSet 0xFF object offset request)
    (before : OwnedObject id object w ∨ request.offset = 0)
    (accepted : PasswordSetAccepted request ((syncAuthState cfg env id w).contexts id) c) :
    StagesObject object c := by
  apply stages_of_accepted accepted chunk
  rcases before with owned | first
  · refine Or.inr fun active => ?_
    have same : ((syncAuthState cfg env id w).contexts id).upload .passwordSet =
        (w.contexts id).upload .passwordSet := by
      rcases syncAuthState_uploads cfg env id w .passwordSet with ⟨_, dropped⟩ | ⟨_, same⟩
      · exact absurd (active.symm.trans dropped) (by decide)
      · exact same
    exact owned.congr same active
  · exact Or.inl (chunk.place.symm.trans first)

/-- A completed staging of the object is the object. -/
theorem StagesObject.credential (stages : StagesObject object c)
    (whole : object.length = passwordSetLength)
    (complete : c.passwordSetReceivedLength = passwordSetLength) :
    stagedCredential c.passwordSetStaging = stagedCredential object := by
  have bytes := stages.bytes
  rw [complete, ← whole, List.take_length, whole] at bytes
  rw [← stagedCredential_take, bytes]

/-- A chunk leaves the front of the object staged or nothing, and commits
nothing but the object. -/
theorem passwordChunk_step (whole : object.length = passwordSetLength)
    (chunk : ChunkOf .passwordSet 0xFF object offset request)
    (before : OwnedObject id object w ∨ request.offset = 0)
    (step : FrameStep cfg hmac w ⟨id, env, request, response⟩ w') :
    OwnedObject id object w' ∧
      CredentialOnly (stagedCredential object) ⟨w, ⟨id, env, request, response⟩, w'⟩ := by
  have known := baseCheck_opcode chunk.passed
  have outcome := processFrame_passwordSet cfg hmac env id known w
  rw [step.result] at outcome
  cases outcome with
  | refused status dropped kept =>
    have state := congrArg AuthCore.Persistent.state (persistent_kept step fun _ => status)
    exact ⟨.of_dropped dropped, .of_kept ⟨kept, state⟩⟩
  | staged c _ _ _ accepted _ holding state kept =>
    refine ⟨fun _ => ?_, .of_kept ⟨kept, state⟩⟩
    rw [holding]
    exact staged_of_accepted chunk before accepted
  | committed c status _ _ accepted complete dropped credential _ =>
    have staged := (staged_of_accepted chunk before accepted).credential whole complete
    exact ⟨.of_dropped dropped, Or.inr (credential.trans staged), fun bad => absurd status bad⟩

/-- A completed object protects the device when it is answered OK. -/
theorem commitPasswordSet_protects
    (success : (commitPasswordSet cfg env id response w).1.status = Status.ok.code) :
    (commitPasswordSet cfg env id response w).2.auth.state = .stateProtected := by
  obtain ⟨err, core, settings, set, outcome⟩ := commitPasswordSet_cases cfg env id response w
  have refused : ∀ {status : Status} {w' : World}, status ≠ .ok →
      commitPasswordSet cfg env id response w ≠ (response.setError status, w') := by
    intro status w' bad done
    rw [done, Frame.status_setError, Status.code_inj] at success
    exact bad success
  rcases outcome with ⟨stored, done⟩ | ⟨_, done⟩ | ⟨_, done⟩ | ⟨_, done⟩
  · rcases AuthCore.setCredential_cases set with ⟨failed, _⟩ | ⟨_, value, _, _, _, activated, _⟩
    · exact absurd stored failed
    · rw [done]
      simp [passwordSetDone, activated, AuthCore.setCredentialActivate]
  · exact absurd done (refused (by decide))
  · exact absurd done (refused (by decide))
  · exact absurd done (refused (by decide))

/-- A last chunk that is answered OK has put the credential of its object in
force. The staging held the chunks before it, so the object is whole. -/
theorem lastChunk_protects (whole : object.length = passwordSetLength)
    (chunk : ChunkOf .passwordSet 0xFF object offset request)
    (ends : request.offset + request.payloadLength = passwordSetLength)
    (before : OwnedObject id object w ∨ request.offset = 0)
    (step : FrameStep cfg hmac w ⟨id, env, request, response⟩ w')
    (success : response.status = Status.ok.code) :
    w'.auth.state = .stateProtected ∧ w'.auth.credential = stagedCredential object := by
  constructor
  · have result := step.result
    simp only [processFrame, chunk.passed, dispatch] at result
    obtain ⟨auth, _, ⟨_, _, _, shut⟩ | ⟨_, _, granted⟩⟩ :=
      managementAccess_cases cfg env id (syncAuthState cfg env id w)
    · simp only [shut] at result
      rw [if_pos (gateStatus_ne_ok _)] at result
      have status := congrArg (fun outcome => outcome.1.status) result
      rw [success, Frame.status_setError, Status.code_inj] at status
      exact absurd status (gateStatus_ne_ok _)
    · simp only [granted] at result
      rw [if_neg (by simp)] at result
      rcases processPasswordSet_cases cfg env id request (Frame.initResponse (some request))
        ((syncAuthState cfg env id w).withAuth auth) with
        ⟨status, bad, refused⟩ | ⟨c, accepted, ⟨partly, _⟩ | ⟨_, committed⟩⟩
      · rw [refused] at result
        have status := congrArg (fun outcome => outcome.1.status) result
        rw [success, Frame.status_setError, Status.code_inj] at status
        exact absurd status bad
      · obtain ⟨received, total⟩ := passwordSetAccepted_final accepted
        exact absurd (received.trans (ends.trans total.symm)) partly
      · rw [committed] at result
        have protects := commitPasswordSet_protects
          ((congrArg (fun outcome => outcome.1.status) result).trans success)
        exact (congrArg (fun outcome => outcome.2.auth.state) result).symm.trans protects
  · have outcome := processFrame_passwordSet cfg hmac env id (baseCheck_opcode chunk.passed) w
    rw [step.result] at outcome
    cases outcome with
    | refused status => exact absurd success status
    | staged c _ _ _ accepted partly =>
      exact absurd ((passwordSetAccepted_final accepted).1.trans ends) partly
    | committed c _ _ _ accepted complete _ credential _ =>
      exact credential.trans ((staged_of_accepted chunk before accepted).credential whole complete)

/-! ## Authentication frames -/

/-- The authentication frames the client builds. -/
inductive AuthFrame (request : Frame) : Opcode → Prop
  | info (passed : baseCheck request = .ok .authInfo) (slot : request.slot = listSlot)
      (empty : request.hasEmptyObject = true) : AuthFrame request .authInfo
  | challenge (passed : baseCheck request = .ok .authChallenge) (slot : request.slot = listSlot)
      (empty : request.hasEmptyObject = true) : AuthFrame request .authChallenge
  | prove (passed : baseCheck request = .ok .authProve) (slot : request.slot = listSlot)
      (place : request.offset = 0) (total : request.totalLength = AuthCore.proofSize)
      (length : request.payloadLength = AuthCore.proofSize) : AuthFrame request .authProve

theorem AuthFrame.passed (frame : AuthFrame request opcode) : baseCheck request = .ok opcode := by
  cases frame with
  | info passed | challenge passed | prove passed => exact passed

theorem AuthFrame.ne_passwordSet (frame : AuthFrame request opcode) : opcode ≠ .passwordSet := by
  cases frame with
  | info | challenge | prove => decide

theorem hasEmptyObject_build (opcode : Opcode) (requestId slot : UInt8) :
    (Frame.build opcode requestId slot 0 0 []).hasEmptyObject = true := by
  simp [Frame.hasEmptyObject, Frame.payloadLength_build, Frame.offset_build,
    Frame.totalLength_build]

theorem authFrame_info (requestId : UInt8) :
    AuthFrame (.build .authInfo requestId (UInt8.ofNat 0xFF) 0 0 []) .authInfo :=
  .info (baseCheck_build _ _ _ _ _ _ (by simp)) (Frame.slot_build ..) (hasEmptyObject_build ..)

theorem authFrame_challenge (requestId : UInt8) :
    AuthFrame (.build .authChallenge requestId (UInt8.ofNat 0xFF) 0 0 []) .authChallenge :=
  .challenge (baseCheck_build _ _ _ _ _ _ (by simp)) (Frame.slot_build ..)
    (hasEmptyObject_build ..)

theorem authFrame_prove (requestId : UInt8) {proof : List UInt8}
    (length : proof.length = AuthCore.proofSize) :
    AuthFrame (.build .authProve requestId (UInt8.ofNat 0xFF) 0 AuthCore.proofSize proof)
      .authProve := by
  have sized : proof.length ≤ payloadSize := by
    rw [length]
    decide
  apply AuthFrame.prove
  · exact baseCheck_build _ _ _ _ _ _ sized
  · exact Frame.slot_build ..
  · exact Frame.offset_build _ _ _ _ _ _ (by decide)
  · exact Frame.totalLength_build _ _ _ _ _ _ (by decide)
  · exact (Frame.payloadLength_build _ _ _ _ _ _ sized).trans length

/-- They keep the staging or drop it, and the credential in force stays what it
was. -/
theorem authFrame_step (frame : AuthFrame request opcode)
    (step : FrameStep cfg hmac w ⟨id, env, request, response⟩ w') :
    (OwnedObject id object w → OwnedObject id object w') ∧ ProtectionKept w w' := by
  have known := baseCheck_opcode frame.passed
  have other : Opcode.ofByte request.opcode ≠ some .passwordSet := by
    rw [known]
    simp [frame.ne_passwordSet]
  have persistent := persistent_kept step fun again => absurd again other
  have stores : StoresKept w w' := by
    have stores := processFrame_storesKept cfg hmac env id request w fun again passed manages => by
      cases frame.passed.symm.trans passed
      cases frame with
      | info | challenge | prove => cases manages
    rw [step.result] at stores
    exact stores
  constructor
  · intro owned
    have kept : Context.KeepsOrDrops .passwordSet (w.contexts id) (w'.contexts id) := by
      apply step.keepsOrDrops
      intro _ again same
      cases known.symm.trans same
      cases frame with
      | info | challenge | prove => rfl
    rcases kept with same | dropped
    · exact owned.congr same
    · intro active
      have none : (w'.contexts id).passwordSetActive = false := dropped
      exact absurd (active.symm.trans none) (by decide)
  · constructor
    · constructor
      · exact congrArg AuthCore.Persistent.credential persistent
      · rw [stores.settings]
    · exact congrArg AuthCore.Persistent.state persistent

/-- They are never refused as chunks are, so a retry never takes them for
one. -/
theorem authFrame_status (frame : AuthFrame request opcode)
    (step : FrameStep cfg hmac w ⟨id, env, request, response⟩ w') :
    response.status ≠ Status.badRequest.code ∧ response.status ≠ Status.badOffset.code := by
  have mapped : ∀ err, mapChallengeError err ≠ .badRequest ∧ mapChallengeError err ≠ .badOffset ∧
      mapProofError err ≠ .badRequest ∧ mapProofError err ≠ .badOffset := by
    intro err
    unfold mapChallengeError mapProofError
    refine ⟨?_, ?_, ?_, ?_⟩
    all_goals
      repeat' split
      all_goals decide
  have known : ∃ status : Status, response.status = status.code ∧ status ≠ .badRequest ∧
      status ≠ .badOffset := by
    have result := congrArg (fun outcome => outcome.1.status) step.result
    simp only [processFrame, frame.passed, dispatch] at result
    cases frame with
    | info _ slot empty =>
      unfold processAuthInfo at result
      rw [if_neg (by simp [slot, empty])] at result
      dsimp only at result
      split at result
      · exact ⟨.credentialInvalid, by rw [← result, Frame.status_setError], by decide, by decide⟩
      · exact ⟨.ok, by rw [← result, Frame.status_setSuccess], by decide, by decide⟩
    | challenge _ slot empty =>
      unfold processAuthChallenge at result
      rw [if_neg (by simp [slot, empty])] at result
      dsimp only at result
      split at result
      next err _ =>
        exact ⟨mapChallengeError err, by rw [← result, Frame.status_setError], (mapped err).1,
          (mapped err).2.1⟩
      · exact ⟨.ok, by rw [← result, Frame.status_setSuccess], by decide, by decide⟩
    | prove _ slot place total length =>
      unfold processAuthProve at result
      rw [if_neg (by simp [slot]), if_neg (by simp [place, total, length])] at result
      dsimp only at result
      split at result
      next err =>
        exact ⟨mapProofError _, by rw [← result, Frame.status_setError], (mapped _).2.2.1,
          (mapped _).2.2.2⟩
      · exact ⟨.ok, by rw [← result, Frame.status_setSuccess], by decide, by decide⟩
  obtain ⟨status, same, request, offset⟩ := known
  constructor
  · rw [same, ne_eq, Status.code_inj]
    exact request
  · rw [same, ne_eq, Status.code_inj]
    exact offset

/-- A protected device reports the salt of its credential. -/
theorem authInfo_reports {info : AuthInfo} (passed : baseCheck request = .ok .authInfo)
    (step : FrameStep cfg hmac w ⟨id, env, request, response⟩ w')
    (success : response.status = Status.ok.code)
    (decoded : decodeAuthInfo (response.payload RuntimeMacroClient.authInfoSize) = .ok info)
    (configured : info.configured = true) :
    w.auth.state = .stateProtected ∧ info.salt = w.auth.credential.salt.toList := by
  have result : processFrame cfg hmac env id request w = (response, w') := step.result
  rcases processFrame_forms passed result with
    ⟨status, bad, refused⟩ | ⟨data, place, total, sized, _, _, carried, answered⟩
  · have status := (congrArg Frame.status refused).trans (status_errorFrame request status)
    rw [success, Status.code_inj] at status
    exact absurd status.symm bad
  · obtain ⟨core, looked, _, rfl, _, _⟩ := carried
    have length := authInfoPayload_length (AuthCore.getInfo (env.clock .operation) core).1
    have payload := payload_okFrame request _ place total sized
    rw [length] at payload
    have size : RuntimeMacroClient.authInfoSize = authInfoLength := rfl
    rw [answered, size, payload] at decoded
    obtain ⟨guarded, salt⟩ := RuntimeMacroClient.salt_of_configured decoded configured
    exact ⟨looked.state.symm.trans guarded, by rw [salt, looked.credential]⟩

/-- An AUTH_PROVE that is answered OK has opened a session on a protected
device. -/
theorem authProve_opens (passed : baseCheck request = .ok .authProve)
    (step : FrameStep cfg hmac w ⟨id, env, request, response⟩ w')
    (success : response.status = Status.ok.code) :
    w.auth.state = .stateProtected ∧ w'.auth.sessionActive = true := by
  have result := step.result
  simp only [processFrame, passed, dispatch] at result
  rcases processAuthProve_cases cfg hmac env id request (Frame.initResponse (some request))
    (syncAuthState cfg env id w) with ⟨status, bad, refused⟩ | ⟨err, auth, verified, answered⟩
  · rw [refused] at result
    have status := congrArg (fun outcome => outcome.1.status) result
    rw [success, Frame.status_setError, Status.code_inj] at status
    rcases bad with rfl | rfl
    · cases status
    · cases status
  · rw [answered] at result
    have status := congrArg (fun outcome => outcome.1.status) result
    have left := congrArg (fun outcome => outcome.2.auth) result
    dsimp only at status left
    rw [success] at status
    have accepted : err = 0 := by
      by_contra failed
      rw [if_neg failed, Frame.status_setError, Status.code_inj] at status
      exact mapProofError_ne_ok err status
    have looked : AuthCore.Looked w.auth (syncAuthState cfg env id w).auth := by
      rw [syncAuthState_auth]
      exact observedSession_looked env w.auth
    rcases AuthCore.verifyProof_cases verified with
      ⟨_, failed, _⟩ | ⟨_, _, _, guarded, _, _, checked⟩
    · exact absurd accepted failed
    · refine ⟨looked.state.symm.trans guarded, ?_⟩
      have opened : auth.sessionActive = true := by
        rcases checked with ⟨failed, _⟩ | ⟨failed, _⟩ | ⟨_, _, _, rfl⟩
        · exact absurd (failed.symm.trans accepted) (by decide)
        · exact absurd (failed.symm.trans accepted) (by decide)
        · rfl
      rw [← left]
      exact opened

end RuntimeMacro.Guarantees.PasswordChunks
