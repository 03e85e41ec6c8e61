import RuntimeMacro.Source.Answers
import RuntimeMacro.Source.CredentialBoots
import RuntimeMacro.Source.FrameFootprint

/-!
# Frames at a guarded keyboard

runtime_macro_protocol.c:650-668,1055-1142. What a frame does to a protected
keyboard on which nobody has logged in: it proves the key over the outstanding
nonce, it is given a nonce, or it is turned away and leaves what is stored
alone.
-/
namespace RuntimeMacro.Source
open AuthCore (Credential Hmac expectedProof nonceSize proofSize)

theorem GuardedBy.expireSession {credential : Credential} {nowMs : Int} {core : AuthCore.State}
    (guarded : GuardedBy credential core) : AuthCore.expireSession nowMs core = core := by
  rw [AuthCore.expireSession, if_pos (Or.inl guarded.session)]

/-- The gate is shut. -/
theorem GuardedBy.gate_shut {credential : Credential} {env : Env} {core : AuthCore.State}
    (guarded : GuardedBy credential core) : ¬ Protocol.GateOpen env core := by
  rintro (opened | ⟨_, active, _⟩)
  · cases opened.symm.trans guarded.state
  · cases active.symm.trans guarded.session

namespace Protocol

variable {cfg : Config} {hmac : Hmac} {env : Env} {id : ContextId} {request response answer : Frame}
  {opcode : Opcode} {exchange : Exchange} {credential : Credential} {w w' : World}

/-- What comes of a frame at a keyboard that the credential guards. -/
inductive GuardedOutcome (hmac : Hmac) (credential : Credential) (request : Frame) (w : World)
    (opcode : Option Opcode) (answer : Frame) (w' : World) : Prop
  | proved (isProof : opcode = some .authProve) (status : answer.status = Status.ok.code)
      (pending : w.auth.challengeActive = true)
      (proof : request.payload proofSize = expectedProof hmac credential.key w.auth.challenge)
  | challenged (guarded : GuardedBy credential w'.auth) (stores : StoresKept w w')
      (isChallenge : opcode = some .authChallenge) (status : answer.status = Status.ok.code)
      (nonce : answer.payload nonceSize = w'.auth.challenge.toList)
  | turnedAway (guarded : GuardedBy credential w'.auth) (stores : StoresKept w w')
      (refused : opcode.any manages = true → answer.status ≠ Status.ok.code)
      (challenge : w'.auth.challengeActive = true →
        w.auth.challengeActive = true ∧ w'.auth.challenge = w.auth.challenge)

theorem GuardedOutcome.of_kept {opcode : Option Opcode} (guarded : GuardedBy credential w.auth)
    (auth : w'.auth = w.auth) (stores : StoresKept w w')
    (refused : opcode.any manages = true → answer.status ≠ Status.ok.code) :
    GuardedOutcome hmac credential request w opcode answer w' := by
  apply GuardedOutcome.turnedAway _ stores refused
  · rw [auth]
    exact fun active => ⟨active, rfl⟩
  · rw [auth]
    exact guarded

theorem challenge_guarded (guarded : GuardedBy credential w.auth) :
    GuardedOutcome hmac credential request w (some .authChallenge)
      (processAuthChallenge cfg env request (Frame.initResponse (some request)) w).1
      (processAuthChallenge cfg env request (Frame.initResponse (some request)) w).2 := by
  rcases processAuthChallenge_cases cfg env request (Frame.initResponse (some request)) w with
    result | ⟨outcome, auth, generated, result⟩
  · rw [result]
    exact .of_kept guarded rfl (.refl w) (fun managing => by cases managing)
  · rw [result]
    cases outcome with
    | error err =>
      rcases AuthCore.generateChallenge_error generated with same | same | same
      · exact .of_kept guarded same ⟨rfl, rfl, rfl⟩ (fun managing => by cases managing)
      · exact .of_kept guarded (same.trans guarded.expireSession) ⟨rfl, rfl, rfl⟩
          (fun managing => by cases managing)
      · rw [guarded.expireSession] at same
        rw [same]
        exact .turnedAway ⟨guarded.state, guarded.credential, guarded.session⟩ ⟨rfl, rfl, rfl⟩
          (fun managing => by cases managing) (fun active => by cases active)
    | ok nonce =>
      obtain ⟨_, _, _, _, issued⟩ := AuthCore.generateChallenge_ok generated
      rw [guarded.expireSession] at issued
      have length : nonce.toList.length = nonceSize := nonce.size_toArray
      have answered : challengeAnswer (Frame.initResponse (some request)) (.ok nonce) =
          okFrame request nonce.toList 0 nonceSize := by
        rw [okFrame, length]
        rfl
      rw [answered, issued]
      refine .challenged ⟨guarded.state, guarded.credential, guarded.session⟩ ⟨rfl, rfl, rfl⟩ rfl
        ?_ ?_
      · rw [okFrame]
        exact Frame.status_setSuccess ..
      · rw [← length]
        exact payload_okFrame request _ _ _ (by rw [length]; decide)

theorem prove_guarded (guarded : GuardedBy credential w.auth) :
    GuardedOutcome hmac credential request w (some .authProve)
      (processAuthProve cfg hmac env id request response w).1
      (processAuthProve cfg hmac env id request response w).2 := by
  rcases processAuthProve_cases cfg hmac env id request response w with
    ⟨status, _, result⟩ | ⟨err, auth, verified, result⟩
  · rw [result]
    exact .of_kept guarded rfl ⟨rfl, rfl, rfl⟩ (fun managing => by cases managing)
  rw [result]
  rcases AuthCore.verifyProof_cases verified with
    ⟨refused, _⟩ | ⟨bytes, same, _, _, pending, _, checked⟩
  · rcases refused with same | same | same
    · exact .of_kept guarded same ⟨rfl, rfl, rfl⟩ (fun managing => by cases managing)
    · exact .of_kept guarded (same.trans guarded.expireSession) ⟨rfl, rfl, rfl⟩
        (fun managing => by cases managing)
    · rw [guarded.expireSession] at same
      rw [same]
      exact .turnedAway ⟨guarded.state, guarded.credential, guarded.session⟩ ⟨rfl, rfl, rfl⟩
        (fun managing => by cases managing) (fun active => by cases active)
  · cases same
    rcases checked with ⟨_, _, left⟩ | ⟨_, _, _, left⟩ | ⟨rfl, _, agrees, _⟩
    · rw [left]
      exact .turnedAway ⟨guarded.state, guarded.credential, rfl⟩ ⟨rfl, rfl, rfl⟩
        (fun managing => by cases managing) (fun active => by cases active)
    · rw [left]
      exact .turnedAway ⟨guarded.state, guarded.credential, rfl⟩ ⟨rfl, rfl, rfl⟩
        (fun managing => by cases managing) (fun active => by cases active)
    · rw [guarded.credential] at agrees
      refine .proved rfl ?_ pending agrees.symm
      rw [if_pos rfl]
      exact Frame.status_setSuccess ..

theorem dispatch_guarded (guarded : GuardedBy credential w.auth) :
    GuardedOutcome hmac credential request w (some opcode)
      (dispatch cfg hmac env id opcode request (Frame.initResponse (some request)) w).1
      (dispatch cfg hmac env id opcode request (Frame.initResponse (some request)) w).2 := by
  by_cases managing : manages opcode = true
  · obtain ⟨auth, looked, result⟩ := dispatch_shut cfg hmac id request
      (Frame.initResponse (some request)) guarded.gate_shut managing
    rw [result]
    refine .of_kept guarded (looked.of_idle guarded.session) ⟨rfl, rfl, rfl⟩ fun _ => ?_
    rw [Frame.status_setError, ne_eq, Status.code_inj]
    exact gateStatus_ne_ok _
  have stores : StoresKept w
      (dispatch cfg hmac env id opcode request (Frame.initResponse (some request)) w).2 :=
    dispatch_storesKept (by simpa using managing)
  have kept : (dispatch cfg hmac env id opcode request (Frame.initResponse (some request))
      w).2.auth = w.auth → GuardedOutcome hmac credential request w (some opcode)
      (dispatch cfg hmac env id opcode request (Frame.initResponse (some request)) w).1
      (dispatch cfg hmac env id opcode request (Frame.initResponse (some request)) w).2 :=
    fun auth => .of_kept guarded auth stores fun isManaging => absurd isManaging managing
  cases opcode with
  | list | get | set | clear | passwordSet => exact absurd rfl managing
  | capabilities => exact kept rfl
  | dynamicBegin => exact kept (processDynamicBegin_only ..).auth
  | dynamicData => exact kept (processDynamicData_only ..).auth
  | dynamicClear => exact kept (processDynamicClear_only ..).auth
  | authInfo =>
    obtain ⟨answer, auth, looked, result⟩ :=
      processAuthInfo_cases env request (Frame.initResponse (some request)) w
    apply kept
    simp only [dispatch, result]
    exact looked.of_idle guarded.session
  | authChallenge => exact challenge_guarded guarded
  | authProve => exact prove_guarded guarded
  | lock =>
    rcases processLock_cases cfg env id request (Frame.initResponse (some request)) w with
      result | result
    · apply kept
      simp only [dispatch, result]
    · simp only [dispatch, result]
      exact .turnedAway ⟨guarded.state, guarded.credential, rfl⟩ ⟨rfl, rfl, rfl⟩
        (fun managing => by cases managing) (fun active => by cases active)

/-- One frame at a guarded keyboard. -/
theorem frame_guardedOutcome (guarded : GuardedBy credential w.auth)
    (step : FrameStep cfg hmac w exchange w') :
    GuardedOutcome hmac credential exchange.request w exchange.opcode exchange.response w' := by
  have synced : (syncAuthState cfg exchange.env exchange.id w).auth = w.auth := by
    rw [syncAuthState_auth]
    exact (observedSession_looked exchange.env w.auth).of_idle guarded.session
  have stores : StoresKept w (syncAuthState cfg exchange.env exchange.id w) :=
    syncAuthState_storesKept
  have result := step.result
  cases checked : baseCheck exchange.request with
  | error status =>
    simp only [processFrame, checked, Prod.mk.injEq] at result
    rw [← result.1, ← result.2]
    have auth : (discardForOpcode cfg exchange.id (exchange.env.clock .cleanup)
        exchange.request.opcode (syncAuthState cfg exchange.env exchange.id w)).auth = w.auth := by
      rcases discardForOpcode_cases cfg exchange.id (exchange.env.clock .cleanup)
        exchange.request.opcode (syncAuthState cfg exchange.env exchange.id w) with
        same | same | same | same
      all_goals
        rw [same]
        exact synced
    refine .of_kept guarded auth (stores.trans (discardForOpcode_storesKept _ _)) fun _ => ?_
    rw [Frame.status_setError, ne_eq, Status.code_inj]
    exact baseCheck_ne_ok checked
  | ok opcode =>
    have known : exchange.opcode = some opcode := baseCheck_opcode checked
    simp only [processFrame, checked] at result
    have still : GuardedBy credential (syncAuthState cfg exchange.env exchange.id w).auth := by
      rw [synced]
      exact guarded
    have outcome := @dispatch_guarded cfg hmac exchange.env exchange.id exchange.request opcode _ _
      still
    rw [result, ← known] at outcome
    cases outcome with
    | proved isProof status pending proof =>
      rw [synced] at pending proof
      exact .proved isProof status pending proof
    | challenged guarded kept isChallenge status nonce =>
      exact .challenged guarded (stores.trans kept) isChallenge status nonce
    | turnedAway guarded kept refused challenge =>
      rw [synced] at challenge
      exact .turnedAway guarded (stores.trans kept) refused challenge

end Protocol

end RuntimeMacro.Source
