import RuntimeMacro.Foundations.Asking
import RuntimeMacro.Source.AuthReports
import RuntimeMacro.Source.ClientCalls
import RuntimeMacro.Source.CommandLine

/-!
# The requests of the client's methods

tools/runtime_macro_cli.py:675-1244. Which opcodes each method sends and which
exceptions it raises, whatever it is answered: the timeouts of the password
chunks stay inside `set_password`.
-/
namespace RuntimeMacro.Source.RuntimeMacroClient
open Protocol (baseCheck)
open Foundations.Checks Foundations.Dialogues Foundations.Dialogues.Procedure
open Foundations.LittleEndian
open CommandLine (isReported)

variable {α : Type} {opcodes : List Opcode} {opcode : Opcode} {procedure : Client α}

/-- A well-formed request of one of these opcodes. -/
def Calls (opcodes : List Opcode) (request : Frame) : Prop :=
  ∃ opcode ∈ opcodes, baseCheck request = .ok opcode

/-- An exception that `main` reports. -/
def Reported (error : ClientError) : Prop := isReported error = true

/-! ## What the checks raise -/

section Checks
variable {error : ClientError} {data : List UInt8} {host : Host}

theorem validateResponse_reported {response request : Frame}
    (failed : validateResponse response request = .error error) : Reported error := by
  unfold validateResponse at failed
  split at failed
  next refused =>
    cases failed
    have member := firstFailure_mem refused
    simp only [responseChecks, List.map_cons, List.map_nil, List.mem_cons, List.not_mem_nil,
      or_false] at member
    rcases member with rfl | rfl | rfl | rfl | rfl | rfl | rfl
    all_goals rfl
  · split at failed
    · split at failed
      · cases failed
        rfl
      · cases failed
        rfl
    · cases failed

theorem validateAscii_reported (failed : validateAscii data = .error error) : Reported error := by
  unfold validateAscii at failed
  split at failed
  · cases failed
    rfl
  · cases failed

theorem validateSlot_reported {slot : Nat} (failed : validateSlot slot = .error error) :
    Reported error := by
  unfold validateSlot at failed
  split at failed
  · cases failed
  · cases failed
    rfl

theorem decodeSlots_reported {total : Nat} (failed : decodeSlots total data = .error error) :
    Reported error := by
  unfold decodeSlots at failed
  split at failed
  · cases failed
    rfl
  · dsimp only at failed
    split at failed
    · cases failed
      rfl
    · cases failed

theorem decodeText_reported {total : Nat} (failed : decodeText total data = .error error) :
    Reported error := by
  unfold decodeText at failed
  split at failed
  · cases failed
    rfl
  · split at failed
    · cases failed
      rfl
    · cases failed

theorem validateDynamicSlot_reported {slot : Nat}
    (failed : validateDynamicSlot slot = .error error) : Reported error := by
  unfold validateDynamicSlot at failed
  split at failed
  · cases failed
  · cases failed
    rfl

theorem validateDynamicInput_reported {ttlSeconds : Option Nat}
    (failed : validateDynamicInput data ttlSeconds = .error error) : Reported error := by
  unfold validateDynamicInput at failed
  split at failed
  · cases failed
    rfl
  · split at failed
    next refused =>
      cases failed
      exact validateAscii_reported refused
    · split at failed
      · cases failed
        rfl
      · cases failed

theorem normalizePassword_reported {password : String}
    (failed : normalizePassword host password = .error error) : Reported error := by
  unfold normalizePassword at failed
  split at failed
  · cases failed
    rfl
  · cases failed

theorem validateIterations_reported {iterations : Nat}
    (failed : validateIterations iterations = .error error) : Reported error := by
  unfold validateIterations at failed
  split at failed
  · cases failed
    rfl
  · cases failed

theorem validateAuthParameters_reported {iterations : Nat}
    (failed : validateAuthParameters iterations data = .error error) : Reported error := by
  unfold validateAuthParameters at failed
  split at failed
  next refused =>
    cases failed
    exact validateIterations_reported refused
  · split at failed
    · cases failed
      rfl
    · split at failed
      · cases failed
        rfl
      · cases failed

theorem buildAuthProof_reported {key : Vector UInt8 32}
    (failed : buildAuthProof host key data = .error error) : Reported error := by
  unfold buildAuthProof at failed
  split at failed
  · cases failed
    rfl
  · cases failed

theorem isProtocol_reported (protocol : error.isProtocol = true) : Reported error := by
  cases error with
  | passwordSetTimeout => cases protocol
  | _ => rfl

end Checks

/-! ## Calls -/

theorem asks_fromExcept {sends : Frame → Prop} {result : Except ClientError α}
    (reported : ∀ {error}, result = .error error → Reported error) :
    (fromExcept result).Asks sends Reported := by
  cases result with
  | ok value => exact .pure value
  | error error => exact .throw (reported rfl)

theorem asks_require {sends : Frame → Prop} {checks : List (Bool × ClientError)}
    (reported : ∀ error ∈ checks.map Prod.snd, Reported error) :
    (require checks).Asks sends Reported := by
  unfold require
  split
  next refused => exact .throw (reported _ (firstFailure_mem refused))
  · exact .pure _

theorem asks_requestId {sends : Frame → Prop} : requestId.Asks sends Reported :=
  Asks.get.bind fun value => (Asks.set (value + 1)).bind fun _ => .pure value

theorem asks_call {sends : Frame → Prop} {request : Frame} (sent : sends request) :
    (call request).Asks sends Reported := by
  have exchanged : (exchange request).Asks sends Reported := by
    refine (Asks.ask sent).bind fun answer => ?_
    cases answer with
    | ok response => exact .pure response
    | error fault => exact .throw rfl
  refine exchanged.bind fun response => ?_
  split
  · exact .pure response
  next failed =>
    have reported := validateResponse_reported failed
    refine .throw ?_
    split
    · rfl
    · exact reported

theorem asks_validateEmptyAck {sends : Frame → Prop} (response : Frame) (operation : String) :
    (validateEmptyAck response operation).Asks sends Reported := by
  apply asks_require
  intro error member
  cases List.mem_singleton.mp member
  rfl

theorem asks_validateChunkAck {sends : Frame → Prop} (response : Frame) (operation : String)
    (expectedOffset total : Nat) :
    (validateChunkAck response operation expectedOffset total).Asks sends Reported := by
  apply asks_require
  intro error member
  simp only [List.map_cons, List.map_nil, List.mem_cons, List.not_mem_nil, or_false] at member
  rcases member with rfl | rfl | rfl
  all_goals rfl

/-- A frame that was built is well formed. -/
theorem asks_built {raises : ClientError → Prop} (unbuilt : ∀ message, raises (.valueError message))
    (member : opcode ∈ opcodes) {id : UInt8} {slot offset total : Nat}
    {payload : List UInt8} {next : Frame → Client α}
    (later : ∀ request, Calls opcodes request → (next request).Asks (Calls opcodes) raises) :
    (fromExcept (buildFrame opcode id slot payload offset total) >>= next).Asks
      (Calls opcodes) raises := by
  rcases buildFrame_cases opcode id slot payload offset total with
    ⟨message, failed⟩ | ⟨_, sized, _, _, built⟩
  · intro vars
    rw [failed, meets_bind, meets_fromExcept_error]
    exact unbuilt message
  · rw [built]
    exact later _ ⟨opcode, member, Protocol.baseCheck_build _ _ _ _ _ _ sized⟩

theorem asks_frame (member : opcode ∈ opcodes) {id : UInt8} {slot offset total : Nat}
    {payload : List UInt8} {next : Frame → Client α}
    (later : ∀ request, Calls opcodes request → (next request).Asks (Calls opcodes) Reported) :
    (fromExcept (buildFrame opcode id slot payload offset total) >>= next).Asks
      (Calls opcodes) Reported :=
  asks_built (fun _ => rfl) member later

theorem asks_callWithTimeoutRetry (retries : Nat) (member : opcode ∈ opcodes)
    {slot offset total : Nat} {payload : List UInt8} :
    (callWithTimeoutRetry retries fun id =>
      buildFrame opcode id slot payload offset total).Asks (Calls opcodes) Reported := by
  refine Asks.attempts ?_ _ retries
  exact asks_requestId.bind fun id => asks_frame member fun request sent => asks_call sent

/-! ## Static macros -/

theorem asks_pages (retries : Nat) (member : opcode ∈ opcodes) (name : String) (slot : Nat)
    (previous : Option Nat) (offset : Nat) (result : List UInt8) :
    (pages retries opcode name slot previous offset result).Asks (Calls opcodes) Reported := by
  induction previous, offset, result using pages.induct with
  | case1 previous offset result ih =>
    have paged : (page retries opcode name slot previous offset).Asks (Calls opcodes) Reported := by
      refine (asks_callWithTimeoutRetry retries member).bind fun response => ?_
      split
      next refused =>
        refine .throw ?_
        have among := firstFailure_mem refused
        simp only [pageChecks, List.map_cons, List.map_nil, List.mem_cons, List.not_mem_nil,
          or_false] at among
        rcases among with rfl | rfl | rfl | rfl
        all_goals rfl
      · exact .pure _
    rw [pages]
    refine paged.bind fun next => ?_
    dsimp only
    split
    next more => exact ih next more
    · exact .pure _

theorem asks_listSlots (retries : Nat) : (listSlots retries).Asks (Calls [.list]) Reported :=
  (asks_pages retries (by simp) "LIST" 0xFF none 0 []).bind fun _ =>
    asks_fromExcept decodeSlots_reported

theorem asks_getSlot (retries slot : Nat) : (getSlot retries slot).Asks (Calls [.get]) Reported :=
  (asks_fromExcept validateSlot_reported).bind fun _ =>
    (asks_pages retries (by simp) "GET" slot none 0 []).bind fun _ =>
      asks_fromExcept decodeText_reported

theorem asks_setSlot (retries slot : Nat) (data : List UInt8) :
    (setSlot retries slot data).Asks (Calls [.set]) Reported := by
  refine (asks_fromExcept validateSlot_reported).bind fun _ => ?_
  refine (asks_fromExcept validateAscii_reported).bind fun _ => ?_
  refine Asks.attempts (asks_requestId.bind fun id => Asks.forM (fun offset => ?_) _) _ retries
  exact asks_frame (by simp) fun request sent => (asks_call sent).bind fun response =>
    asks_validateChunkAck response _ _ _

theorem asks_clearSlot (retries slot : Nat) :
    (clearSlot retries slot).Asks (Calls [.clear]) Reported := by
  refine (asks_fromExcept validateSlot_reported).bind fun _ => ?_
  refine Asks.attempts (asks_requestId.bind fun id => ?_) _ _
  exact asks_frame (by simp) fun request sent => (asks_call sent).bind fun response =>
    asks_validateEmptyAck response _

/-! ## Dynamic macros -/

theorem capabilityChecks_reported (values : DynamicCapabilities) :
    ∀ error ∈ (capabilityChecks values).map Prod.snd, Reported error := by
  intro error member
  simp only [capabilityChecks, fieldCheck, List.map_cons, List.map_nil, List.mem_cons,
    List.not_mem_nil, or_false] at member
  rcases member with rfl | rfl | rfl | rfl | rfl | rfl | rfl | rfl | rfl | rfl
  all_goals rfl

theorem asks_getCapabilities (retries : Nat) (member : .capabilities ∈ opcodes) :
    (getCapabilities retries).Asks (Calls opcodes) Reported := by
  refine Asks.attempts (asks_requestId.bind fun id => asks_frame member fun request sent => ?_) _ _
  have called : (tryCatch (call request) fun error => throw (capabilitiesError error)).Asks
      (Calls opcodes) Reported := by
    refine (asks_call sent).tryCatch fun error reported => .throw ?_
    unfold capabilitiesError
    split
    · rfl
    · split
      · rfl
      · exact reported
  refine called.bind fun response => (asks_require ?_).bind fun _ => ?_
  · intro error among
    cases List.mem_singleton.mp among
    rfl
  · exact (asks_require (capabilityChecks_reported _)).bind fun _ => .pure _

theorem asks_uploadDynamic (retries slot : Nat) (data : List UInt8) (ttlSeconds : Option Nat)
    (keepAfterExecute : Bool) : (uploadDynamic retries slot data ttlSeconds keepAfterExecute).Asks
      (Calls [.capabilities, .dynamicBegin, .dynamicData]) Reported := by
  refine (asks_fromExcept validateDynamicSlot_reported).bind fun slot => ?_
  refine (asks_fromExcept validateDynamicInput_reported).bind fun data => ?_
  refine (asks_getCapabilities retries (by simp)).bind fun _ => (asks_require ?_).bind fun _ => ?_
  · intro error among
    simp only [deviceChecks, List.map_cons, List.map_nil, List.mem_cons, List.not_mem_nil,
      or_false] at among
    rcases among with rfl | rfl | rfl | rfl
    all_goals rfl
  refine Asks.attempts (asks_requestId.bind fun id => asks_frame (by simp) fun _ sent => ?_) _ _
  refine (asks_call sent).bind fun response => ?_
  refine (asks_validateChunkAck response _ _ _).bind fun _ => Asks.forM (fun offset => ?_) _
  exact asks_frame (by simp) fun request sent => (asks_call sent).bind fun response =>
    asks_validateChunkAck response _ _ _

theorem asks_clearDynamicOnce (retries slot : Nat) :
    (retryCall retries (clearDynamicOnce slot)).Asks (Calls [.capabilities, .dynamicClear])
      Reported := by
  refine Asks.attempts (asks_requestId.bind fun id => asks_frame (by simp) fun _ sent => ?_) _ _
  exact (asks_call sent).bind fun response => asks_validateEmptyAck response _

theorem asks_clearDynamic (retries slot : Nat) :
    (clearDynamic retries slot).Asks (Calls [.capabilities, .dynamicClear]) Reported := by
  refine (asks_fromExcept validateDynamicSlot_reported).bind fun slot => ?_
  refine (asks_getCapabilities retries (by simp)).bind fun _ => (asks_require ?_).bind fun _ =>
    asks_clearDynamicOnce retries slot
  intro error among
  cases List.mem_singleton.mp among
  rfl

theorem asks_clearAllDynamic (retries : Nat) :
    (clearAllDynamic retries).Asks (Calls [.capabilities, .dynamicClear]) Reported := by
  refine (asks_getCapabilities retries (by simp)).bind fun _ => ?_
  refine (Asks.foldlM (fun outcome slot => ?_) _ _).bind fun _ => .pure _
  have cleared := (asks_clearDynamicOnce retries slot).bind fun _ =>
    Asks.pure (outcome.1, outcome.2 ++ [slot])
  refine cleared.tryCatch fun error raised => ?_
  split
  · exact .pure _
  · exact .throw raised

/-! ## Authentication -/

/-- The requests of `authenticate`. -/
def authOpcodes : List Opcode := [.authInfo, .authChallenge, .authProve]

theorem asks_authInfoOnce (member : .authInfo ∈ opcodes) :
    authInfoOnce.Asks (Calls opcodes) Reported := by
  refine asks_requestId.bind fun id => asks_frame member fun request sent => ?_
  refine (asks_call sent).bind fun _ => (asks_require ?_).bind fun _ =>
    asks_fromExcept fun failed => isProtocol_reported (isProtocol_of_decodeAuthInfo failed)
  intro error among
  cases List.mem_singleton.mp among
  rfl

theorem asks_authInfo (retries : Nat) (member : .authInfo ∈ opcodes) :
    (authInfo retries).Asks (Calls opcodes) Reported :=
  Asks.attempts (asks_authInfoOnce member) _ retries

theorem asks_authChallengeOnce (member : .authChallenge ∈ opcodes) :
    authChallengeOnce.Asks (Calls opcodes) Reported := by
  refine asks_requestId.bind fun id => asks_frame member fun request sent => ?_
  refine (asks_call sent).bind fun _ => (asks_require ?_).bind fun _ =>
    (asks_require ?_).bind fun _ => .pure _
  all_goals
    intro error among
    cases List.mem_singleton.mp among
    rfl

theorem asks_authenticate (host : Host) (retries : Nat) (password : String)
    (members : ∀ opcode ∈ authOpcodes, opcode ∈ opcodes) :
    (authenticate host retries password).Asks (Calls opcodes) Reported := by
  refine (asks_fromExcept normalizePassword_reported).bind fun password => ?_
  refine Asks.attempts ?_ _ retries
  refine (asks_authInfoOnce (members _ (by simp [authOpcodes]))).bind fun info => ?_
  have answers : (do
      let nonce ← authChallengeOnce
      let proof ← fromExcept
        (buildAuthProof host (host.pbkdf2 password info.salt info.iterations) nonce)
      authProveOnce proof
      return (⟨true, true, info.iterations, info.salt⟩ : AuthInfo) : Client AuthInfo).Asks
        (Calls opcodes) Reported := by
    refine (asks_authChallengeOnce (members _ (by simp [authOpcodes]))).bind fun nonce => ?_
    refine (asks_fromExcept buildAuthProof_reported).bind fun proof => ?_
    have proved : (authProveOnce proof).Asks (Calls opcodes) Reported := by
      refine asks_requestId.bind fun id => asks_frame (members _ (by simp [authOpcodes]))
        fun request sent => ?_
      exact (asks_call sent).bind fun response => asks_validateEmptyAck response _
    exact proved.bind fun _ => .pure _
  have refused : Reported (.remoteError Status.authNotConfigured.code) := rfl
  split
  · exact (Asks.throw refused).bind fun _ => answers
  · exact answers

theorem asks_confirmPasswordSet (host : Host) (retries : Nat) (salt : List UInt8)
    (password : String) : (confirmPasswordSet host retries salt password).Asks
      (Calls (.passwordSet :: authOpcodes)) Reported := by
  have authenticated := asks_authenticate host retries password
    (fun opcode member => List.mem_cons_of_mem .passwordSet member)
  refine (asks_authInfo retries (by simp [authOpcodes])).bind fun info => ?_
  have refused : Reported .passwordSetUnconfirmed := rfl
  split
  · exact (Asks.throw refused).bind fun _ => authenticated
  · exact authenticated

/-- The chunks may raise the exception of a timeout. -/
theorem asks_passwordSetOnce (credential : List UInt8) (requestId : UInt8) :
    (passwordSetOnce credential requestId).Asks (Calls (.passwordSet :: authOpcodes))
      fun _ => True := by
  refine Asks.forM (fun offset => ?_) _
  refine asks_built (fun _ => trivial) List.mem_cons_self fun request sent => ?_
  refine ((asks_call sent).tryCatch fun error _ => ?_).bind fun response => ?_
  · split
    · exact .throw trivial
    · exact .throw trivial
  · exact (asks_validateChunkAck response _ _ _).weaken fun _ _ => trivial

/-- An attempt gives the timeouts of its chunks back as transport errors. -/
theorem asks_setPasswordOnce (host : Host) (retries : Nat) (credential salt : List UInt8)
    (password : String) : (setPasswordOnce host retries credential salt password).AsksOnce
      (Calls (.passwordSet :: authOpcodes)) Reported Reported := by
  have confirms := asks_confirmPasswordSet host retries salt password
  refine .bind asks_requestId fun id => .tryCatch (.bind (asks_passwordSetOnce credential id)
    fun _ => .bind (confirms.weaken fun _ _ => trivial) fun _ => .returned _) fun error _ => ?_
  split
  · exact .bind confirms fun _ => .returned _
  · exact .gaveUp rfl
  next notFinal notEarlier =>
    have reported : Reported error := by
      cases error with
      | passwordSetTimeout fault final =>
        cases final with
        | true => exact absurd rfl (notFinal fault)
        | false => exact absurd rfl (notEarlier fault)
      | _ => rfl
    split
    · exact .gaveUp reported
    · exact .throw reported

theorem asks_setPassword (host : Host) (retries : Nat) (newPassword : String) (iterations : Nat)
    (salt : Vector UInt8 16) : (setPassword host retries newPassword iterations salt).Asks
      (Calls (.passwordSet :: authOpcodes)) Reported := by
  have attempts := fun credential =>
    asks_setPasswordOnce host retries credential salt.toList newPassword
  refine (asks_fromExcept normalizePassword_reported).bind fun password => ?_
  refine (asks_fromExcept validateIterations_reported).bind fun _ => ?_
  have configures : (do
      fromExcept (validateAuthParameters iterations salt.toList)
      let key := host.pbkdf2 password salt.toList iterations
      if AuthCore.allZero key then throw (.valueError "derived key must not be all zero")
      let credential := leBytes 4 iterations ++ salt.toList ++ key.toList
      untilReturned (setPasswordOnce host retries credential salt.toList newPassword) retries :
      Client AuthInfo).Asks (Calls (.passwordSet :: authOpcodes)) Reported := by
    refine (asks_fromExcept validateAuthParameters_reported).bind fun _ => ?_
    have refused : Reported (.valueError "derived key must not be all zero") := rfl
    dsimp only
    split
    · exact (Asks.throw refused).bind fun _ =>
        .untilReturned (attempts _) _
    · exact .untilReturned (attempts _) _
  refine (asks_authInfo retries (by simp [authOpcodes])).bind fun info => ?_
  have refused : Reported (.remoteError Status.authRequired.code) := rfl
  split
  · exact (Asks.throw refused).bind fun _ => configures
  · exact configures

theorem asks_lock (retries : Nat) : (lock retries).Asks (Calls [.lock]) Reported := by
  refine Asks.attempts (asks_requestId.bind fun id => asks_frame (by simp) fun _ sent => ?_) _ _
  exact (asks_call sent).bind fun response => asks_validateEmptyAck response _

end RuntimeMacro.Source.RuntimeMacroClient
