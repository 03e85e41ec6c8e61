import RuntimeMacro.Source.DynamicVeil
import RuntimeMacro.Source.ProtocolCases
import RuntimeMacro.Source.ProtocolDynamicCases
import RuntimeMacro.Source.WorldRuns

/-!
# No readback of dynamic texts

docs/DYNAMIC_PROTOCOL.md:16-44; runtime_macro_protocol.c:341-642. Two runs
whose dynamic texts differ in their contents only, and whose chunks carry
accepted bytes in different words, answer every frame alike. The contents of
the store and the executor are veiled; what is left of the device evolves in
both runs in the same way, and every response is made of it.
-/
namespace RuntimeMacro.Guarantees.NoReadback
open Source Source.Protocol Foundations.Runs
open AuthCore (Hmac)
open DynamicStore (Veiled ChunksAlike)

variable {cfg : Config} {hmac : Hmac} {env : Env} {id : ContextId}
  {request request' response : Frame} {w w' w'' : World}

/-! ## Devices that look alike -/

/-- A world with the dynamic texts blanked and no text in the executor: all
that a response may depend on. -/
def veil (w : World) : World := { w with dynamic := w.dynamic.blank, executor := .idle }

/-- Equal but for the contents of the dynamic texts and the executor. -/
def Alike (w w' : World) : Prop := veil w = veil w'

/-- The same device with another dynamic store and another executor. -/
def overlay (dynamic : DynamicStore) (executor : Executor) (w : World) : World :=
  { w with dynamic := dynamic, executor := executor }

theorem Alike.refl (w : World) : Alike w w := rfl

theorem Alike.symm (alike : Alike w w') : Alike w' w := Eq.symm alike

theorem Alike.trans (first : Alike w w') (second : Alike w' w'') : Alike w w'' :=
  Eq.trans first second

theorem Alike.dynamic (alike : Alike w w') : Veiled w.dynamic w'.dynamic :=
  congrArg World.dynamic alike

theorem Alike.overlay (alike : Alike w w') :
    ∃ dynamic executor, Veiled w.dynamic dynamic ∧ w' = overlay dynamic executor w := by
  refine ⟨w'.dynamic, w'.executor, alike.dynamic, ?_⟩
  exact (congrArg (NoReadback.overlay w'.dynamic w'.executor) alike).symm

theorem alike_overlay {dynamic : DynamicStore} {executor : Executor}
    (veiled : Veiled w.dynamic dynamic) : Alike w (overlay dynamic executor w) :=
  congrArg (fun dynamic => NoReadback.overlay dynamic .idle w) veiled

section Over
variable (dynamic : DynamicStore) (executor : Executor) (w : World)

@[simp] theorem overlay_auth : (overlay dynamic executor w).auth = w.auth := rfl
@[simp] theorem overlay_settings : (overlay dynamic executor w).settings = w.settings := rfl
@[simp] theorem overlay_slots : (overlay dynamic executor w).slots = w.slots := rfl
@[simp] theorem overlay_dynamic : (overlay dynamic executor w).dynamic = dynamic := rfl
@[simp] theorem overlay_contexts : (overlay dynamic executor w).contexts = w.contexts := rfl

end Over

theorem Alike.auth (alike : Alike w w') : w.auth = w'.auth := by
  obtain ⟨_, _, _, rfl⟩ := alike.overlay
  rfl

theorem Alike.contexts (alike : Alike w w') : w.contexts = w'.contexts := by
  obtain ⟨_, _, _, rfl⟩ := alike.overlay
  rfl

theorem Alike.withAuth (alike : Alike w w') (auth : AuthCore.State) :
    Alike (w.withAuth auth) (w'.withAuth auth) := by
  obtain ⟨_, _, veiled, rfl⟩ := alike.overlay
  exact alike_overlay (w := w.withAuth auth) veiled

theorem Alike.withDynamic (alike : Alike w w') {dynamic dynamic' : DynamicStore}
    (veiled : Veiled dynamic dynamic') :
    Alike (w.withDynamic dynamic) (w'.withDynamic dynamic') := by
  obtain ⟨_, _, _, rfl⟩ := alike.overlay
  exact alike_overlay (w := w.withDynamic dynamic) veiled

theorem Alike.modify (alike : Alike w w') (id : ContextId) (f : Context → Context) :
    Alike (w.modify id f) (w'.modify id f) := by
  obtain ⟨_, _, veiled, rfl⟩ := alike.overlay
  exact alike_overlay (w := w.modify id f) veiled

theorem Alike.clearDynamic (alike : Alike w w') (cfg : Config) (id : ContextId) (nowMs : Int) :
    Alike (w.clearDynamic cfg id nowMs) (w'.clearDynamic cfg id nowMs) := by
  obtain ⟨_, _, veiled, rfl⟩ := alike.overlay
  exact alike_overlay (w := w.clearDynamic cfg id nowMs) veiled.cancelStagingNow

theorem Alike.discard (alike : Alike w w') (cfg : Config) (id : ContextId) (nowMs : Int) :
    Alike (w.discard cfg id nowMs) (w'.discard cfg id nowMs) :=
  (alike.clearDynamic cfg id nowMs).modify id _

/-- Equal answers, and devices that look alike. -/
def SameAnswer {α : Type} (result result' : α × World) : Prop :=
  result.1 = result'.1 ∧ Alike result.2 result'.2

theorem Alike.refreshDynamicTimeout (alike : Alike w w') (id : ContextId) (env : Env) :
    SameAnswer (w.refreshDynamicTimeout id env) (w'.refreshDynamicTimeout id env) := by
  obtain ⟨_, _, veiled, rfl⟩ := alike.overlay
  exact ⟨rfl, alike_overlay (w := (w.refreshDynamicTimeout id env).2) veiled⟩

theorem Alike.finishDynamic (alike : Alike w w') (id : ContextId) :
    Alike (finishDynamic id w) (finishDynamic id w') := by
  obtain ⟨_, _, veiled, rfl⟩ := alike.overlay
  exact alike_overlay (w := Protocol.finishDynamic id w) veiled

/-! ## The handlers -/

theorem Alike.syncAuthState (alike : Alike w w') (cfg : Config) (env : Env) (id : ContextId) :
    Alike (syncAuthState cfg env id w) (syncAuthState cfg env id w') := by
  have looked := alike.withAuth (observedSession env w.auth).2
  have second := syncAuthState_cases cfg env id w'
  rw [← alike.auth, ← alike.contexts] at second
  rcases syncAuthState_cases cfg env id w with ⟨stale, synced⟩ | ⟨fresh, synced⟩
  · rcases second with ⟨_, synced'⟩ | ⟨fresh, _⟩
    · rw [synced, synced']
      exact (((looked.modify id _).modify id _).clearDynamic cfg id _).modify id _
    · exact absurd stale fresh
  · rcases second with ⟨stale, _⟩ | ⟨_, synced'⟩
    · exact absurd stale fresh
    · rw [synced, synced']
      exact looked.modify id _

theorem Alike.discardForOpcode (alike : Alike w w') (cfg : Config) (id : ContextId) (nowMs : Int)
    (byte : UInt8) :
    Alike (discardForOpcode cfg id nowMs byte w) (discardForOpcode cfg id nowMs byte w') := by
  unfold Protocol.discardForOpcode
  split
  · exact alike.modify id _
  · exact alike.modify id _
  · exact alike.clearDynamic cfg id nowMs
  · exact alike.clearDynamic cfg id nowMs
  · exact alike

/-- The gate looks at the core, which is the same in both worlds. -/
theorem Alike.managementAccess (alike : Alike w w') (cfg : Config) (env : Env) (id : ContextId) :
    SameAnswer (managementAccess cfg env id w) (managementAccess cfg env id w') := by
  unfold Protocol.managementAccess
  dsimp only
  rw [← alike.auth]
  generalize AuthCore.getState (env.clock .gateState) w.auth = gate
  obtain ⟨state, auth⟩ := gate
  have looked := alike.withAuth auth
  cases state with
  | stateErrorLocked => exact ⟨rfl, looked.discard cfg id _⟩
  | stateOpen => exact ⟨rfl, looked⟩
  | stateProtected =>
    let session := AuthCore.isAuthenticated (env.clock .gateSession) auth
    have again := looked.withAuth session.2
    change SameAnswer (if session.1 = true then _ else _) (if session.1 = true then _ else _)
    split
    · exact ⟨rfl, again⟩
    · exact ⟨rfl, again.discard cfg id _⟩

/-- So does the refresh. -/
theorem Alike.refreshProtectedSession (alike : Alike w w') (cfg : Config) (env : Env)
    (id : ContextId) (response : Frame) :
    SameAnswer (refreshProtectedSession cfg env id response w)
      (refreshProtectedSession cfg env id response w') := by
  unfold Protocol.refreshProtectedSession
  dsimp only
  rw [← alike.auth]
  generalize AuthCore.getState (env.clock .refreshState) w.auth = gate
  obtain ⟨state, auth⟩ := gate
  have looked := alike.withAuth auth
  dsimp only
  split
  · exact ⟨rfl, looked⟩
  · let refreshed := AuthCore.refreshSession cfg (env.clock .refreshSession) auth
    have again := looked.withAuth refreshed.2
    change SameAnswer (if refreshed.1 ≠ 0 then _ else _) (if refreshed.1 ≠ 0 then _ else _)
    split
    · exact ⟨rfl, again.discard cfg id _⟩
    · exact ⟨rfl, again⟩

/-- A management handler that answers alike. -/
theorem Alike.processManagement (alike : Alike w w') {handler handler' : World → Frame × World}
    (handled : ∀ {w w'}, Alike w w' → SameAnswer (handler w) (handler' w')) :
    SameAnswer (processManagement cfg env id handler response w)
      (processManagement cfg env id handler' response w') := by
  obtain ⟨access, gated⟩ := alike.managementAccess cfg env id
  obtain ⟨answer, after⟩ := handled gated
  unfold Protocol.processManagement
  dsimp only
  rw [← access, ← answer]
  split
  · exact ⟨rfl, gated⟩
  · split
    · exact after.refreshProtectedSession cfg env id _
    · exact ⟨rfl, after⟩

/-- The static slots are the same in both worlds, and so is the staging of the
context. -/
theorem Alike.processSet (alike : Alike w w') :
    SameAnswer (processSet cfg env id request response w)
      (processSet cfg env id request response w') := by
  have finished : ∀ {w w'}, Alike w w' →
      SameAnswer (finishSet cfg env id response w) (finishSet cfg env id response w') := by
    intro w w' alike
    obtain ⟨dynamic, executor, veiled, rfl⟩ := alike.overlay
    unfold finishSet commitSet
    dsimp only [overlay_contexts, overlay_slots, overlay_settings]
    split
    · split
      · exact ⟨rfl, alike_overlay veiled⟩
      · split
        · exact ⟨rfl, alike_overlay veiled⟩
        · exact ⟨rfl, alike_overlay veiled⟩
    · exact ⟨rfl, alike⟩
  unfold Protocol.processSet
  split
  · exact ⟨rfl, alike.modify id _⟩
  · rw [← alike.contexts]
    split
    · exact finished (alike.modify id _)
    · split
      · exact ⟨rfl, alike.modify id _⟩
      · exact finished (alike.modify id _)

theorem Alike.processClear (alike : Alike w w') :
    SameAnswer (processClear cfg env request response w)
      (processClear cfg env request response w') := by
  obtain ⟨dynamic, executor, veiled, rfl⟩ := alike.overlay
  unfold Protocol.processClear
  dsimp only [overlay_slots, overlay_settings]
  split
  · exact ⟨rfl, alike⟩
  · split
    · exact ⟨rfl, alike⟩
    · split
      · exact ⟨rfl, alike_overlay veiled⟩
      · exact ⟨rfl, alike_overlay veiled⟩

theorem Alike.processAuthInfo (alike : Alike w w') :
    SameAnswer (processAuthInfo env request response w)
      (processAuthInfo env request response w') := by
  unfold Protocol.processAuthInfo
  dsimp only
  rw [← alike.auth]
  split
  · exact ⟨rfl, alike⟩
  · split
    · exact ⟨rfl, alike.withAuth _⟩
    · exact ⟨rfl, alike.withAuth _⟩

theorem Alike.processAuthChallenge (alike : Alike w w') :
    SameAnswer (processAuthChallenge cfg env request response w)
      (processAuthChallenge cfg env request response w') := by
  unfold Protocol.processAuthChallenge
  dsimp only
  rw [← alike.auth]
  split
  · exact ⟨rfl, alike⟩
  · split
    · exact ⟨rfl, alike.withAuth _⟩
    · exact ⟨rfl, alike.withAuth _⟩

theorem Alike.processAuthProve (alike : Alike w w') :
    SameAnswer (processAuthProve cfg hmac env id request response w)
      (processAuthProve cfg hmac env id request response w') := by
  unfold Protocol.processAuthProve
  dsimp only
  rw [← alike.auth]
  split
  · exact ⟨rfl, alike.discard cfg id _⟩
  · split
    · exact ⟨rfl, alike.discard cfg id _⟩
    · split
      · exact ⟨rfl, (alike.withAuth _).discard cfg id _⟩
      · exact ⟨rfl, (alike.withAuth _).discard cfg id _⟩

theorem Alike.processLock (alike : Alike w w') :
    SameAnswer (processLock cfg env id request response w)
      (processLock cfg env id request response w') := by
  unfold Protocol.processLock
  dsimp only
  rw [← alike.auth]
  split
  · exact ⟨rfl, alike⟩
  · exact ⟨rfl, (alike.withAuth _).discard cfg id _⟩

/-- The credential goes to a core and to settings that are the same. -/
theorem Alike.commitPasswordSet (alike : Alike w w') :
    SameAnswer (commitPasswordSet cfg env id response w)
      (commitPasswordSet cfg env id response w') := by
  obtain ⟨dynamic, executor, veiled, rfl⟩ := alike.overlay
  unfold Protocol.commitPasswordSet
  dsimp only [overlay_contexts, overlay_auth, overlay_settings]
  let credential := stagedCredential (w.contexts id).passwordSetStaging
  let outcome := AuthCore.setCredential (some credential) (env.clock .operation) env.saveErr w.auth
    w.settings
  have written := @alike_overlay (({ w with
      auth := outcome.2.1
      settings := outcome.2.2
      calls := w.calls ++ [Call.setCredential credential outcome.1] } : World).clearPasswordSet id)
    dynamic executor veiled
  split
  · exact ⟨rfl, written.discard cfg id _⟩
  · split
    · exact ⟨rfl, written⟩
    · split
      · exact ⟨rfl, written.discard cfg id _⟩
      · exact ⟨rfl, written⟩

theorem Alike.processPasswordSet (alike : Alike w w') :
    SameAnswer (processPasswordSet cfg env id request response w)
      (processPasswordSet cfg env id request response w') := by
  have finished : ∀ {w w'}, Alike w w' → SameAnswer (finishPasswordSet cfg env id response w)
      (finishPasswordSet cfg env id response w') := by
    intro w w' alike
    unfold finishPasswordSet
    dsimp only
    rw [← alike.contexts]
    split
    · exact alike.refreshProtectedSession cfg env id _
    · exact alike.commitPasswordSet
  unfold Protocol.processPasswordSet
  split
  · exact ⟨rfl, alike.modify id _⟩
  · rw [← alike.contexts]
    split
    · exact finished (alike.modify id _)
    · split
      · exact ⟨rfl, alike.modify id _⟩
      · exact finished (alike.modify id _)

/-! ## Frames that carry different texts -/

/-- The frames agree but for accepted bytes in the payload of a
DYNAMIC_DATA. -/
def Masked (request request' : Frame) : Prop :=
  ∀ (i : Nat) (inside : i < 32), request[i] = request'[i] ∨
    (request.opcode = Opcode.dynamicData.code ∧ 10 ≤ i ∧ i < 10 + request.payloadLength ∧
      Ascii.byteIsValid request[i] = true ∧ Ascii.byteIsValid request'[i] = true)

theorem Masked.refl (request : Frame) : Masked request request := fun _ _ => Or.inl rfl

theorem Masked.header (masked : Masked request request') (i : Nat) (early : i < 10) :
    request[i] = request'[i] := by
  rcases masked i (by omega) with same | ⟨_, late, _⟩
  · exact same
  · omega

/-- The fields in front of the payload are those of one frame. -/
structure SameHeader (request request' : Frame) : Prop where
  version : request.version = request'.version
  opcode : request.opcode = request'.opcode
  requestId : request.requestId = request'.requestId
  status : request.status = request'.status
  slot : request.slot = request'.slot
  payloadLength : request.payloadLength = request'.payloadLength
  offset : request.offset = request'.offset
  totalLength : request.totalLength = request'.totalLength

theorem Masked.sameHeader (masked : Masked request request') : SameHeader request request' := by
  have header := masked.header
  constructor
  · exact header 0 (by decide)
  · exact header 1 (by decide)
  · exact header 2 (by decide)
  · exact header 3 (by decide)
  · exact header 4 (by decide)
  · exact congrArg UInt8.toNat (header 5 (by decide))
  · unfold Frame.offset
    rw [header 6 (by decide), header 7 (by decide)]
  · unfold Frame.totalLength
    rw [header 8 (by decide), header 9 (by decide)]

theorem Masked.initResponse (masked : Masked request request') :
    Frame.initResponse (some request) = Frame.initResponse (some request') := by
  have header := masked.sameHeader
  unfold Frame.initResponse
  dsimp only
  rw [header.version, header.opcode, header.requestId, header.slot]

theorem Masked.eq_of_opcode (masked : Masked request request')
    (other : request.opcode ≠ Opcode.dynamicData.code) : request = request' := by
  apply Vector.ext
  intro i inside
  rcases masked i inside with same | ⟨dynamic, _⟩
  · exact same
  · exact absurd dynamic other

theorem Masked.tail (masked : Masked request request') :
    request.payloadTailIsZero request.payloadLength =
      request'.payloadTailIsZero request'.payloadLength := by
  rw [← masked.sameHeader.payloadLength]
  unfold Frame.payloadTailIsZero
  refine congrArg (List.all · (· == 0)) (List.ext_getElem (by simp) ?_)
  intro i inside _
  simp only [List.length_drop, Vector.length_toList] at inside
  simp only [List.getElem_drop, Vector.getElem_toList]
  rcases masked (10 + request.payloadLength + i) (by omega) with same | ⟨_, _, before, _⟩
  · exact same
  · omega

theorem Masked.chunk (masked : Masked request request') :
    ChunksAlike (request.payload request.payloadLength)
      (request'.payload request'.payloadLength) := by
  have lengths : (request.payload request.payloadLength).length =
      (request'.payload request'.payloadLength).length := by
    simp [Frame.payload, masked.sameHeader.payloadLength]
  refine ⟨lengths, ?_⟩
  have validity : (request.payload request.payloadLength).map Ascii.byteIsValid =
      (request'.payload request'.payloadLength).map Ascii.byteIsValid := by
    refine List.ext_getElem (by simpa using lengths) ?_
    intro i inside _
    simp only [Frame.payload, List.length_map, List.length_take, List.length_drop,
      Vector.length_toList] at inside
    simp only [Frame.payload, List.getElem_map, List.getElem_take, List.getElem_drop,
      Vector.getElem_toList]
    rcases masked (10 + i) (by omega) with same | ⟨_, _, _, valid, valid'⟩
    · rw [same]
    · rw [valid, valid']
  have folded : ∀ data : List UInt8, data.all Ascii.byteIsValid =
      (data.map Ascii.byteIsValid).all id := by
    intro data
    rw [List.all_map]
    rfl
  rw [folded, folded, validity]

theorem Masked.baseCheck (masked : Masked request request') :
    baseCheck request = baseCheck request' := by
  have header := masked.sameHeader
  unfold Protocol.baseCheck
  rw [masked.tail, header.version, header.opcode, header.status, header.payloadLength]

theorem Masked.dataChecks (masked : Masked request request') (cfg : Config) (c : Context) :
    dataChecks cfg request c = dataChecks cfg request' c := by
  have header := masked.sameHeader
  have alphabet : request.setPayloadIsValid request.payloadLength =
    request'.setPayloadIsValid request'.payloadLength := masked.chunk.alphabet
  unfold Protocol.dataChecks
  dsimp only
  rw [alphabet, header.slot, header.payloadLength, header.offset, header.totalLength,
    header.requestId]

/-! ## The dynamic handlers -/

/-- A BEGIN carries no text. It asks only whether the store takes the options,
which depends on none. -/
theorem Alike.processDynamicBegin (alike : Alike w w') :
    SameAnswer (processDynamicBegin cfg env id request response w)
      (processDynamicBegin cfg env id request response w') := by
  cases checked : Foundations.Checks.firstFailure (beginChecks cfg request) with
  | some status =>
    unfold Protocol.processDynamicBegin
    simp only [checked]
    exact ⟨rfl, alike.clearDynamic cfg id _⟩
  | none =>
    have started : Alike (begun cfg env id request w) (begun cfg env id request w') := by
      have opened := (alike.dynamic.beginSlot cfg request.slot.toNat request.totalLength
        (beginTtlSeconds request) (beginConsumes request) (env.clock .operation)).2
      exact (((alike.withDynamic opened).modify id _).refreshDynamicTimeout id env).2
    rw [processDynamicBegin_of_passed checked, processDynamicBegin_of_passed checked]
    split
    · exact ⟨rfl, started.clearDynamic cfg id _⟩
    · exact ⟨rfl, started⟩

/-- The two chunks differ in their bytes at most, not in their length or in
whether each byte is allowed. -/
theorem Alike.processDynamicData (alike : Alike w w') (masked : Masked request request') :
    SameAnswer (processDynamicData cfg env id request response w)
      (processDynamicData cfg env id request' response w') := by
  have header := masked.sameHeader
  have checks := masked.dataChecks cfg (w.contexts id)
  cases checked : Foundations.Checks.firstFailure (dataChecks cfg request (w.contexts id)) with
  | some status =>
    have checked' := checked
    rw [checks, alike.contexts] at checked'
    unfold Protocol.processDynamicData
    simp only [checked, checked']
    exact ⟨rfl, alike.clearDynamic cfg id _⟩
  | none =>
    have checked' := checked
    rw [checks, alike.contexts] at checked'
    have taken : (dataAppend cfg env request w).1 = (dataAppend cfg env request' w').1 ∧
        Veiled (dataAppend cfg env request w).2 (dataAppend cfg env request' w').2 := by
      unfold dataAppend
      rw [← header.slot, ← header.offset]
      exact alike.dynamic.appendSlot masked.chunk _ _ _ _
    have appended := alike.withDynamic taken.2
    have received : Alike (dataReceived cfg env id request w)
        (dataReceived cfg env id request' w') := by
      unfold dataReceived
      rw [← header.offset, ← header.payloadLength]
      exact appended.modify id _
    have refreshed := received.refreshDynamicTimeout id env
    rw [processDynamicData_of_passed checked, processDynamicData_of_passed checked',
      ← taken.1, ← header.offset, ← header.payloadLength, ← header.totalLength, ← alike.contexts,
      ← refreshed.1]
    split
    · exact ⟨rfl, appended.clearDynamic cfg id _⟩
    · split
      · exact ⟨rfl, received.finishDynamic id⟩
      · split
        · exact ⟨rfl, refreshed.2.clearDynamic cfg id _⟩
        · exact ⟨rfl, refreshed.2⟩

/-- Clearing forgets the bytes on both sides. -/
theorem Alike.processDynamicClear (alike : Alike w w') :
    SameAnswer (processDynamicClear cfg env id request response w)
      (processDynamicClear cfg env id request response w') := by
  have cleared : Alike
      (w.withDynamic (w.dynamic.clearSlot cfg request.slot.toNat (env.clock .rearm)))
      (w'.withDynamic (w'.dynamic.clearSlot cfg request.slot.toNat (env.clock .rearm))) :=
    alike.withDynamic (alike.dynamic.clearSlot _ _)
  unfold Protocol.processDynamicClear
  dsimp only
  rw [← cleared.contexts]
  split
  · exact ⟨rfl, alike⟩
  · split
    · exact ⟨rfl, alike⟩
    · split
      · exact ⟨rfl, cleared.finishDynamic id⟩
      · exact ⟨rfl, cleared⟩

/-! ## The frame -/

/-- One case an opcode, each by the lemma about its handler. -/
theorem Alike.dispatch (alike : Alike w w') (opcode : Opcode) :
    SameAnswer (dispatch cfg hmac env id opcode request response w)
      (dispatch cfg hmac env id opcode request response w') := by
  cases opcode with
  | capabilities => exact ⟨rfl, alike⟩
  | dynamicBegin => exact alike.processDynamicBegin
  | dynamicData => exact alike.processDynamicData (Masked.refl request)
  | dynamicClear => exact alike.processDynamicClear
  | authInfo => exact alike.processAuthInfo
  | authChallenge => exact alike.processAuthChallenge
  | authProve => exact alike.processAuthProve
  | lock => exact alike.processLock
  | list =>
    apply alike.processManagement
    intro w w' alike
    obtain ⟨_, _, _, rfl⟩ := alike.overlay
    exact ⟨rfl, alike⟩
  | get =>
    apply alike.processManagement
    intro w w' alike
    obtain ⟨_, _, _, rfl⟩ := alike.overlay
    exact ⟨rfl, alike⟩
  | set => exact alike.processManagement fun alike => alike.processSet
  | clear => exact alike.processManagement fun alike => alike.processClear
  | passwordSet =>
    obtain ⟨access, gated⟩ := alike.managementAccess cfg env id
    unfold Protocol.dispatch
    dsimp only
    rw [← access]
    split
    · exact ⟨rfl, gated⟩
    · exact gated.processPasswordSet

/-- A whole frame, where the second request may carry another text in a
DATA. -/
theorem Alike.processFrame (alike : Alike w w') (masked : Masked request request') (cfg : Config)
    (hmac : Hmac) (env : Env) (id : ContextId) :
    SameAnswer (processFrame cfg hmac env id request w)
      (processFrame cfg hmac env id request' w') := by
  have synced := alike.syncAuthState cfg env id
  unfold Protocol.processFrame
  dsimp only
  rw [← masked.initResponse, ← masked.baseCheck, ← masked.sameHeader.opcode]
  cases checked : baseCheck request with
  | error status => exact ⟨rfl, synced.discardForOpcode cfg id _ _⟩
  | ok opcode =>
    have known := Opcode.code_of_ofByte (baseCheck_opcode checked)
    by_cases data : opcode = .dynamicData
    · subst data
      exact synced.processDynamicData masked
    · have same : request = request' := by
        apply masked.eq_of_opcode
        rw [← known]
        cases opcode <;> first | decide | exact absurd rfl data
      subst same
      exact synced.dispatch opcode

/-! ## The other steps -/

/-- A call of the core has one outcome: the event says everything that it
reads. -/
theorem authStep_unique {system first second : AuthCore.System} {event : AuthCore.Event}
    (step : AuthCore.Step cfg hmac system event first)
    (step' : AuthCore.Step cfg hmac system event second) : first = second := by
  obtain ⟨core, settings⟩ := first
  obtain ⟨core', settings'⟩ := second
  cases event with
  | setCredential =>
    have same := step.symm.trans step'
    simp only [Prod.mk.injEq] at same
    rw [same.2.1, same.2.2]
  | lock | transportReset | settingsCommit =>
    obtain ⟨reached, kept⟩ := step
    obtain ⟨reached', kept'⟩ := step'
    dsimp only at reached reached' kept kept'
    rw [reached, reached', kept, kept']
  | _ =>
    obtain ⟨reached, kept⟩ := step
    obtain ⟨reached', kept'⟩ := step'
    have same := (Prod.mk.inj (reached.symm.trans reached')).2
    dsimp only at same kept kept'
    rw [same, kept, kept']

theorem Alike.authStep (alike : Alike w w') {event : AuthCore.Event}
    {system system' : AuthCore.System} (step : AuthCore.Step cfg hmac w.authSystem event system)
    (step' : AuthCore.Step cfg hmac w'.authSystem event system') :
    Alike (w.withAuthSystem system) (w'.withAuthSystem system') := by
  obtain ⟨_, _, veiled, rfl⟩ := alike.overlay
  rw [authStep_unique step step']
  exact alike_overlay (w := w.withAuthSystem system') veiled

/-- The handler looks at the deadline of the upload, not at its bytes. -/
theorem Alike.timeoutWork (alike : Alike w w') (cfg : Config) (env : Env) :
    Alike (w.dynamicTimeoutWorkHandler cfg env) (w'.dynamicTimeoutWorkHandler cfg env) := by
  have owner : w.timeoutOwner = w'.timeoutOwner := by
    obtain ⟨_, _, _, rfl⟩ := alike.overlay
    rfl
  have contexts := alike.contexts
  unfold World.dynamicTimeoutWorkHandler
  rw [← owner, ← contexts]
  cases w.timeoutOwner with
  | none => exact alike
  | some id =>
    dsimp only
    split
    · obtain ⟨_, _, veiled, rfl⟩ := alike.overlay
      exact alike_overlay (w := { w with timeoutOwner := none }) veiled
    · split
      · obtain ⟨_, _, veiled, rfl⟩ := alike.overlay
        exact alike_overlay (w := { w with
          timeoutOwner := some id
          timeoutWork := if env.rescheduleErr < 0 then none
            else some (w.contexts id).dynamicDeadlineMs }) veiled
      · exact alike.clearDynamic cfg id _

theorem Alike.execute (alike : Alike w w') {slot : Nat} {env env' : Env} {result : Int}
    {t t' : World} (sameClock : env'.clock = env.clock)
    (step : w.executeSlot cfg slot env = (result, t))
    (step' : w'.executeSlot cfg slot env' = (result, t')) : Alike t t' := by
  obtain ⟨dynamic, executor, veiled, rfl⟩ := alike.overlay
  unfold World.executeSlot at step step'
  rw [sameClock] at step'
  obtain ⟨answer, rfl⟩ := Prod.mk.inj step
  obtain ⟨answer', rfl⟩ := Prod.mk.inj step'
  refine alike_overlay (w := { w with
    dynamic := (w.dynamic.executeSlot cfg slot (env.clock .operation) (env.clock .rearm)
      env.executorErr w.executor).2.1 }) ?_
  exact veiled.executeSlot (Prod.ext answer rfl) (Prod.ext answer' rfl)

/-! ## Every run -/

/-- What corresponding events of two runs may differ in: accepted bytes of a
DYNAMIC_DATA, what a frame is answered, and how an executor comes to the
recorded outcome. -/
def Matches : WorldEvent → WorldEvent → Prop
  | .frame exchange, event =>
    ∃ exchange', event = .frame exchange' ∧ exchange'.id = exchange.id ∧
      exchange'.env = exchange.env ∧ Masked exchange.request exchange'.request
  | .execute slot env result, event =>
    ∃ env', event = .execute slot env' result ∧ env'.clock = env.clock
  | event, event' => event' = event

/-- The events correspond in order; the executors work in between, each at its
own pace. -/
inductive Paired : List WorldEvent → List WorldEvent → Prop
  | nil : Paired [] []
  | both {event event' : WorldEvent} {events events' : List WorldEvent}
      (matched : Matches event event') (rest : Paired events events') :
      Paired (event :: events) (event' :: events')
  | left {env : Env} {events events' : List WorldEvent} (rest : Paired events events') :
      Paired (.executorWork env :: events) events'
  | right {env : Env} {events events' : List WorldEvent} (rest : Paired events events') :
      Paired events (.executorWork env :: events')

/-- The response of a frame; other events answer nothing. -/
def answer : WorldEvent → Option Frame
  | .frame exchange => some exchange.response
  | _ => none

/-- What the host reads, in order. -/
def responses (events : List WorldEvent) : List Frame := events.filterMap answer

theorem Alike.executorWork {env : Env} {t : World}
    (step : WorldStep cfg hmac w (.executorWork env) t) : Alike w t := by
  cases step
  rfl

/-- One case for each kind of event. Executions may type different texts, but
return the same. -/
theorem Alike.step {event event' : WorldEvent} {t t' : World} (alike : Alike w w')
    (matched : Matches event event') (step : WorldStep cfg hmac w event t)
    (step' : WorldStep cfg hmac w' event' t') : answer event = answer event' ∧ Alike t t' := by
  cases event with
  | frame exchange =>
    obtain ⟨⟨id', env', request', response'⟩, rfl, rfl, rfl, masked⟩ := matched
    have same := alike.processFrame masked cfg hmac exchange.env exchange.id
    rw [show Protocol.processFrame cfg hmac exchange.env exchange.id exchange.request w =
        (exchange.response, t) from step,
      show Protocol.processFrame cfg hmac exchange.env exchange.id request' w' =
        (response', t') from step'] at same
    exact ⟨congrArg some same.1, same.2⟩
  | execute slot env result =>
    obtain ⟨env', rfl, sameClock⟩ := matched
    exact ⟨rfl, alike.execute sameClock step step'⟩
  | transportReset id env =>
    cases matched
    cases step
    cases step'
    unfold World.transportReset
    rw [← alike.auth]
    exact ⟨rfl, (alike.withAuth _).discard cfg id _⟩
  | auth event =>
    cases matched
    obtain ⟨system, called, rfl⟩ := step
    obtain ⟨system', called', rfl⟩ := step'
    exact ⟨rfl, alike.authStep called called'⟩
  | timeoutWork env =>
    cases matched
    cases step
    cases step'
    exact ⟨rfl, alike.timeoutWork cfg env⟩
  | ttlWork env =>
    cases matched
    cases step
    cases step'
    exact ⟨rfl, alike.withDynamic (alike.dynamic.ttlWorkHandler _)⟩
  | executorWork env =>
    cases matched
    exact ⟨rfl, ((Alike.executorWork step).symm.trans alike).trans (Alike.executorWork step')⟩
  | clearAll env =>
    cases matched
    cases step
    cases step'
    exact ⟨rfl, alike.withDynamic (alike.dynamic.clearAll _)⟩

/-- From devices that look alike, two runs of corresponding events give the
host the same responses. -/
theorem no_readback {start start' final final' : World} {events events' : List WorldEvent}
    (alike : Alike start start')
    (run : Run (WorldStep cfg hmac) start events final)
    (run' : Run (WorldStep cfg hmac) start' events' final')
    (paired : Paired events events') : responses events = responses events' := by
  induction paired generalizing start start' with
  | nil => rfl
  | both matched _ ih =>
    obtain ⟨_, step, rest⟩ := run.cons_inv
    obtain ⟨_, step', rest'⟩ := run'.cons_inv
    obtain ⟨answered, after⟩ := alike.step matched step step'
    have later := ih after rest rest'
    unfold responses at later ⊢
    rw [List.filterMap_cons, List.filterMap_cons, answered, later]
  | left _ ih =>
    obtain ⟨_, step, rest⟩ := run.cons_inv
    exact ih ((Alike.executorWork step).symm.trans alike) rest run'
  | right _ ih =>
    obtain ⟨_, step, rest⟩ := run'.cons_inv
    exact ih (alike.trans (Alike.executorWork step)) run rest

def sampleSent (nowMs : Int) (request : Frame) (w : World) : Exchange × World :=
  (exchangeOf .default AuthCore.sampleHmac 0 (.still nowMs) request w,
    (processFrame .default AuthCore.sampleHmac (.still nowMs) 0 request w).2)

theorem sampleSent_step (nowMs : Int) (request : Frame) (w : World) :
    WorldStep .default AuthCore.sampleHmac w (.frame (sampleSent nowMs request w).1)
      (sampleSent nowMs request w).2 := exchangeOf_step ..

def sampleBegin : Exchange × World :=
  sampleSent 0 (.build .dynamicBegin 7 1 0 2 []) (.boot .default .empty)

def sampleData (text : List UInt8) : Exchange × World :=
  sampleSent 5 (.build .dynamicData 7 1 0 2 text) sampleBegin.2

/-- The upload of a text of two bytes and its execution. -/
def sampleEvents (text : List UInt8) : List WorldEvent :=
  [.frame sampleBegin.1] ++ [.frame (sampleData text).1] ++ [.execute 1 (.still 9) 0]

theorem sample_run (text : List UInt8) {result : Int × World}
    (executed : (sampleData text).2.executeSlot .default 1 (.still 9) = result)
    (accepted : result.1 = 0) :
    Run (WorldStep .default AuthCore.sampleHmac) (.boot .default .empty) (sampleEvents text)
      result.2 := by
  have step : WorldStep .default AuthCore.sampleHmac (sampleData text).2 (.execute 1 (.still 9) 0)
      result.2 := executed.trans (Prod.ext accepted rfl)
  exact ((Run.single (sampleSent_step ..)).snoc (sampleSent_step ..)).snoc step

/-- The texts Hi and Yo are answered alike, and stand in the store when they
are executed. -/
theorem no_readback_sample :
    responses (sampleEvents [72, 105]) = responses (sampleEvents [89, 111]) ∧
      ((sampleData [72, 105]).2.dynamic.slots 1).committed.take 2 = [72, 105] ∧
      ((sampleData [89, 111]).2.dynamic.slots 1).committed.take 2 = [89, 111] := by
  refine ⟨?_, by decide, by decide⟩
  have first := sample_run [72, 105] rfl (by decide)
  have second := sample_run [89, 111] rfl (by decide)
  refine no_readback (Alike.refl _) first second ?_
  refine .both ⟨_, rfl, rfl, rfl, Masked.refl _⟩ (.both ⟨_, rfl, rfl, rfl, ?_⟩
    (.both ⟨_, rfl, rfl⟩ .nil))
  unfold Masked
  decide

end RuntimeMacro.Guarantees.NoReadback
