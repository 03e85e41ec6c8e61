import RuntimeMacro.Source.Client
import RuntimeMacro.Source.CredentialRecord
import RuntimeMacro.Source.Device
import RuntimeMacro.Source.Answers

/-!
# Authentication on both sides

runtime_macro_auth.c:240-263; tools/runtime_macro_cli.py:600-607,907-938. The
client reads back what the firmware reports, and finds nothing to object to in
what a sound device reports. Its proofs have the length the firmware asks for.
-/
namespace RuntimeMacro.Source.RuntimeMacroClient
open Foundations.LittleEndian
open Protocol (authInfoPayload putU32)
open AuthCore (Credential)

variable {payload : List UInt8} {info : AuthInfo} {core : AuthCore.State} {nowMs : Int}

theorem decodeAuthInfo_ok (decoded : decodeAuthInfo payload = .ok info) :
    info = ⟨payload.getD 0 0 &&& 1 != 0, payload.getD 0 0 &&& 2 != 0,
      leValue (slice payload 2 6), slice payload 6 22⟩ := by
  unfold decodeAuthInfo at decoded
  dsimp only at decoded
  split at decoded
  · cases decoded
  split at decoded
  · cases decoded
  split at decoded
  · split at decoded
    · cases decoded
    · cases decoded
      rfl
  · split at decoded
    · cases decoded
    · cases decoded
      rfl

theorem isProtocol_of_decodeAuthInfo {error : ClientError}
    (failed : decodeAuthInfo payload = .error error) : error.isProtocol = true := by
  unfold decodeAuthInfo at failed
  dsimp only at failed
  split at failed
  · cases failed
    rfl
  split at failed
  · cases failed
    rfl
  split at failed
  · split at failed
    · cases failed
      rfl
    · cases failed
  · split at failed
    · cases failed
      rfl
    · cases failed

theorem buildAuthProof_ok (host : Host) (key : Vector UInt8 32) {nonce : List UInt8}
    (length : nonce.length = authNonceSize) :
    ∃ proof, buildAuthProof host key nonce = .ok proof := by
  rw [buildAuthProof, if_neg (by simp [length])]
  exact ⟨_, rfl⟩

theorem length_of_buildAuthProof {host : Host} {key : Vector UInt8 32} {nonce proof : List UInt8}
    (proved : buildAuthProof host key nonce = .ok proof) : proof.length = authProofSize := by
  unfold buildAuthProof at proved
  split at proved
  · cases proved
  · cases proved
    simp [authProofSize]

section Fields
variable (reported : AuthCore.Info)

theorem flag_configured : ((authInfoPayload reported).getD 0 0 &&& 1 != 0) =
    decide (reported.state = .stateProtected) := by
  unfold authInfoPayload
  simp only [List.cons_append, List.getD_cons_zero]
  cases reported.state <;> cases reported.sessionAuthenticated <;> decide

theorem flag_authenticated : ((authInfoPayload reported).getD 0 0 &&& 2 != 0) =
    reported.sessionAuthenticated := by
  unfold authInfoPayload
  simp only [List.cons_append, List.getD_cons_zero]
  cases reported.state <;> cases reported.sessionAuthenticated <;> decide

theorem flags_known : (authInfoPayload reported).getD 0 0 &&& 0xFC = 0 := by
  unfold authInfoPayload
  simp only [List.cons_append, List.getD_cons_zero]
  cases reported.state <;> cases reported.sessionAuthenticated <;> decide

theorem slice_salt : slice (authInfoPayload reported) 6 22 = reported.salt.toList := by
  have whole : reported.salt.toList.take 16 = reported.salt.toList :=
    List.take_of_length_le (by simp)
  exact whole

theorem slice_iterations (fits : reported.iterations < 2 ^ 32) :
    leValue (slice (authInfoPayload reported) 2 6) = reported.iterations := by
  have field : slice (authInfoPayload reported) 2 6 = putU32 reported.iterations := rfl
  rw [field, putU32, AuthCore.putLe32_eq, leValue_leBytes]
  exact Nat.mod_eq_of_lt fits

end Fields

/-- The salt that is read is that of the credential. -/
theorem salt_of_configured
    (decoded : decodeAuthInfo (authInfoPayload (AuthCore.getInfo nowMs core).1) = .ok info)
    (configured : info.configured = true) :
    core.state = .stateProtected ∧ info.salt = core.credential.salt.toList := by
  have read := decodeAuthInfo_ok decoded
  rw [flag_configured, slice_salt] at read
  rw [read] at configured
  have reported := of_decide_eq_true configured
  have guarded : core.state = .stateProtected := by
    cases state : core.state with
    | stateProtected => rfl
    | stateOpen | stateErrorLocked => simp [AuthCore.getInfo, state] at reported
  rw [read, AuthCore.getInfo_protected nowMs guarded]
  exact ⟨guarded, rfl⟩

theorem validateAuthParameters_ok {iterations : Nat} {salt : List UInt8}
    (bounded : authIterationsMin ≤ iterations ∧ iterations ≤ authIterationsMax)
    (length : salt.length = authSaltSize) (nonzero : salt.all (· == 0) = false) :
    validateAuthParameters iterations salt = .ok () := by
  unfold validateAuthParameters validateIterations
  rw [if_neg (by omega)]
  dsimp only
  rw [if_neg (by simp [length]), if_neg (by simp [nonzero])]

theorem credentialIsValid_parts {credential : Credential}
    (valid : AuthCore.credentialIsValid credential = true) :
    authIterationsMin ≤ credential.iterations ∧ credential.iterations ≤ authIterationsMax ∧
      credential.salt.toList.all (· == 0) = false ∧
      credential.key.toList.all (· == 0) = false := by
  simp only [AuthCore.credentialIsValid, AuthCore.allZero, Bool.not_eq_true', Bool.or_eq_false_iff,
    decide_eq_false_iff_not, Nat.not_lt] at valid
  obtain ⟨⟨⟨least, most⟩, salt⟩, key⟩ := valid
  exact ⟨least, most, salt, key⟩

/-- A sound device reports what the client accepts. -/
theorem decodeAuthInfo_sound (sound : CoreSound core) (credentialed : Credentialed core)
    (unlocked : core.state ≠ .stateErrorLocked) :
    ∃ info, decodeAuthInfo (authInfoPayload (AuthCore.getInfo nowMs core).1) = .ok info := by
  have kdf : (authInfoPayload (AuthCore.getInfo nowMs core).1).getD 1 0 =
      (AuthCore.getInfo nowMs core).1.kdfId := rfl
  unfold decodeAuthInfo
  simp only [flag_configured, flag_authenticated, flags_known, slice_salt, kdf]
  rw [if_neg (by simp)]
  cases state : core.state with
  | stateErrorLocked => exact absurd state unlocked
  | stateOpen =>
    have idle : (AuthCore.expireSession nowMs core).sessionActive = false := by
      by_contra active
      rw [Bool.not_eq_false] at active
      obtain ⟨same, _⟩ := AuthCore.expireSession_of_session active
      rw [same] at active
      exact absurd (state.symm.trans (sound.guarded active)) (by decide)
    have iterations := slice_iterations (AuthCore.getInfo nowMs core).1
    rw [AuthCore.getInfo_open nowMs state, idle] at iterations ⊢
    rw [iterations (by decide)]
    rw [if_neg (by decide), if_pos (by decide), if_neg (by decide)]
    exact ⟨_, rfl⟩
  | stateProtected =>
    obtain ⟨least, most, salt, _⟩ := credentialIsValid_parts (credentialed state)
    have iterations := slice_iterations (AuthCore.getInfo nowMs core).1
    rw [AuthCore.getInfo_protected nowMs state] at iterations ⊢
    have fits : core.credential.iterations < 2 ^ 32 := by
      unfold authIterationsMax at most
      omega
    rw [iterations fits]
    rw [if_neg (by simp only [AuthCore.kdfId]; decide), if_neg (by simp),
      validateAuthParameters_ok ⟨least, most⟩ (by simp [authSaltSize]) salt]
    exact ⟨_, rfl⟩

end RuntimeMacro.Source.RuntimeMacroClient
