import RuntimeMacro.Source.DynamicUploads
import RuntimeMacro.Foundations.ByteBuffer

/-!
# The shape of a protocol context

runtime_macro_protocol.c:71-172,385-642,846-967,1144-1264. Three transactions
share a context that more than twenty branches wipe in parts or as a whole, and
the store can drop its half of the dynamic one on its own. Each handler keeps
the shape of all three and the agreement with the store.
-/
namespace RuntimeMacro.Source
open Protocol Foundations
open AuthCore (AuthState Hmac)

variable {cfg : Config} {hmac : Hmac} {env : Env} {id : ContextId} {request response : Frame}
  {w w' : World} {c c' : Context} {owner : Option ContextId} {deadline nowMs : Int} {known : Bool}
  {u : Upload}

/-- A SET under way has part of its text, every byte of it typeable and zeros
behind; an idle one is all zero. -/
inductive SetShape (cfg : Config) (known : Bool) (u : Upload) : Prop
  | active (staged : u.active = true) (observed : known = true) (slot : u.slot < cfg.slotCount)
      (positive : 0 < u.receivedLength) (partly : u.receivedLength < u.totalLength)
      (fits : u.totalLength ≤ cfg.maxTextLen)
      (typed : ByteBuffer.Padded (fun byte => Ascii.byteIsValid byte = true) 0 cfg.maxTextLen
        u.receivedLength u.staging)
  | idle (staged : u.active = false) (requestId : u.requestId = 0) (slot : u.slot = 0)
      (total : u.totalLength = 0) (received : u.receivedLength = 0)
      (bytes : u.staging = List.replicate cfg.maxTextLen 0)

/-- A PASSWORD_SET under way has part of its 52 bytes, an idle one is all
zero. -/
inductive PasswordSetShape (u : Upload) : Prop
  | active (staged : u.active = true) (positive : 0 < u.receivedLength)
      (partly : u.receivedLength < u.totalLength) (total : u.totalLength = 52)
      (padded : ByteBuffer.Padded (fun _ => True) 0 52 u.receivedLength u.staging)
  | idle (staged : u.active = false) (requestId : u.requestId = 0) (total : u.totalLength = 0)
      (received : u.receivedLength = 0) (bytes : u.staging = List.replicate 52 0)

/-- A dynamic upload under way is short of its length, has a deadline and owns
the timeout; an idle one is all zero. -/
inductive DynamicShape (cfg : Config) (id : ContextId) (owner : Option ContextId) (deadline : Int)
    (u : Upload) : Prop
  | active (staged : u.active = true) (slot : u.slot < cfg.dynamicSlotCount)
      (partly : u.receivedLength < u.totalLength) (fits : u.totalLength ≤ 512)
      (timed : 0 < deadline) (owned : owner = some id)
  | idle (staged : u.active = false) (requestId : u.requestId = 0) (slot : u.slot = 0)
      (total : u.totalLength = 0) (received : u.receivedLength = 0) (timed : deadline = 0)

/-- The store stages nothing but the upload of the context. -/
def Agrees (u : Upload) (s : DynamicStore) : Prop :=
  s.stagingActive = true → u.active = true ∧ s.stagingSlot = u.slot ∧
    s.stagingExpectedLength = u.totalLength ∧ s.stagingReceived = u.receivedLength

/-- The three transactions of a context have their shapes. -/
structure ContextShape (cfg : Config) (id : ContextId) (w : World) : Prop where
  set : SetShape cfg (w.contexts id).authStateKnown ((w.contexts id).upload .set)
  passwordSet : PasswordSetShape ((w.contexts id).upload .passwordSet)
  dynamic : DynamicShape cfg id w.timeoutOwner (w.contexts id).dynamicDeadlineMs
    ((w.contexts id).upload .dynamic)
  store : Agrees ((w.contexts id).upload .dynamic) w.dynamic

/-! ## The parts under the updates of a context -/

theorem Agrees.of_idle {s : DynamicStore} (idle : s.stagingActive = false) : Agrees u s := by
  intro active
  exact absurd (idle.symm.trans active) (by decide)

theorem Agrees.quiet {s s' : DynamicStore} (agrees : Agrees u s) (quiet : s.Quiet s') :
    Agrees u s' := by
  rcases quiet.staging with same | idle
  · simp only [DynamicStore.stagingOf, DynamicStore.Staging.mk.injEq] at same
    obtain ⟨_, slot, expected, received, active, _⟩ := same
    intro staged
    obtain ⟨isActive, atSlot, total, count⟩ := agrees (active.symm.trans staged)
    exact ⟨isActive, slot.trans atSlot, expected.trans total, received.trans count⟩
  · exact .of_idle idle

theorem clearSet_shape (c : Context) :
    SetShape cfg (c.clearSet cfg).authStateKnown ((c.clearSet cfg).upload .set) :=
  .idle rfl rfl rfl rfl rfl rfl

theorem clearPasswordSet_shape (c : Context) :
    PasswordSetShape (c.clearPasswordSet.upload .passwordSet) :=
  .idle rfl rfl rfl rfl rfl

theorem SetShape.observed (shape : SetShape cfg known u) : SetShape cfg true u := by
  cases shape with
  | active staged _ slot positive partly fits typed =>
    exact .active staged rfl slot positive partly fits typed
  | idle staged requestId slot total received bytes =>
    exact .idle staged requestId slot total received bytes

/-- The payload of a frame that passed the base validation. -/
theorem payload_length (sized : request.payloadLength ≤ payloadSize) :
    (request.payload request.payloadLength).length = request.payloadLength :=
  Frame.payload_length request sized

theorem alphabet_of_valid (valid : SetChunkValid cfg request) :
    ∀ byte ∈ request.payload request.payloadLength, Ascii.byteIsValid byte = true := by
  have alphabet := valid.alphabet
  rw [Frame.setPayloadIsValid, List.all_eq_true] at alphabet
  exact alphabet

theorem any_payload (request : Frame) :
    ∀ byte ∈ request.payload request.payloadLength, (fun _ => True) byte :=
  fun _ _ => trivial

/-- A chunk that does not complete the text leaves an active staging. -/
theorem SetShape.accepted (shape : SetShape cfg c.authStateKnown (c.upload .set))
    (observed : c.authStateKnown = true) (sized : request.payloadLength ≤ payloadSize)
    (accepted : SetAccepted cfg request c c') (partly : c'.setReceivedLength ≠ c'.setTotalLength) :
    SetShape cfg c'.authStateKnown (c'.upload .set) := by
  obtain ⟨valid, ⟨first, rfl⟩ | ⟨continues, rfl⟩⟩ := accepted
  · have slot : request.slot.toNat < cfg.slotCount := by
      simpa [SlotStore.slotIsValid] using valid.slot
    have short := valid.payload
    have fits := valid.total
    have nonempty := valid.nonempty
    have typed := (@ByteBuffer.Padded.empty UInt8 (fun byte => Ascii.byteIsValid byte = true) 0
      cfg.maxTextLen).write (by rw [payload_length sized]; omega) (alphabet_of_valid valid)
    rw [payload_length sized, Nat.zero_add] at typed
    change request.payloadLength ≠ request.totalLength at partly
    apply SetShape.active
    · rfl
    · exact observed
    · exact slot
    · change 0 < request.payloadLength
      omega
    · change request.payloadLength < request.totalLength
      omega
    · exact fits
    · exact typed
  · cases shape with
    | active staged _ slot positive _ fits typed =>
      have inside := valid.offset
      have short := valid.payload
      have placed : request.offset = c.setReceivedLength := continues.received
      have total : c.setTotalLength = request.totalLength := continues.total
      change c.setReceivedLength + request.payloadLength ≠ c.setTotalLength at partly
      change c.setTotalLength ≤ cfg.maxTextLen at fits
      have room : c.setReceivedLength + (request.payload request.payloadLength).length ≤
          cfg.maxTextLen := by
        rw [payload_length sized]
        omega
      have written := typed.write room (alphabet_of_valid valid)
      rw [payload_length sized] at written
      apply SetShape.active
      · exact continues.active
      · exact observed
      · exact slot
      · change 0 < c.setReceivedLength + request.payloadLength
        change 0 < c.setReceivedLength at positive
        omega
      · change c.setReceivedLength + request.payloadLength < c.setTotalLength
        omega
      · exact fits
      · change ByteBuffer.Padded _ 0 _ (c.setReceivedLength + request.payloadLength)
          (ByteBuffer.write c.setStaging request.offset _)
        rw [placed]
        exact written
    | idle staged => exact absurd (staged.symm.trans continues.active) (by decide)

theorem PasswordSetShape.accepted (shape : PasswordSetShape (c.upload .passwordSet))
    (sized : request.payloadLength ≤ payloadSize) (accepted : PasswordSetAccepted request c c')
    (partly : c'.passwordSetReceivedLength ≠ c'.passwordSetTotalLength) :
    PasswordSetShape (c'.upload .passwordSet) := by
  obtain ⟨valid, ⟨first, rfl⟩ | ⟨continues, rfl⟩⟩ := accepted
  · have short := valid.payload
    have whole : request.totalLength = 52 := valid.total
    have nonempty := valid.nonempty
    have padded := (@ByteBuffer.Padded.empty UInt8 (fun _ => True) 0 52).write
      (by rw [payload_length sized]; omega) (any_payload request)
    rw [payload_length sized, Nat.zero_add] at padded
    change request.payloadLength ≠ request.totalLength at partly
    apply PasswordSetShape.active
    · rfl
    · change 0 < request.payloadLength
      omega
    · change request.payloadLength < request.totalLength
      omega
    · exact whole
    · exact padded
  · cases shape with
    | active staged positive _ whole padded =>
      have inside := valid.offset
      have short := valid.payload
      have placed : request.offset = c.passwordSetReceivedLength := continues.received
      have total : c.passwordSetTotalLength = request.totalLength := continues.total
      change c.passwordSetReceivedLength + request.payloadLength ≠
        c.passwordSetTotalLength at partly
      change c.passwordSetTotalLength = 52 at whole
      have room : c.passwordSetReceivedLength +
          (request.payload request.payloadLength).length ≤ 52 := by
        rw [payload_length sized]
        omega
      have written := padded.write room (any_payload request)
      rw [payload_length sized] at written
      apply PasswordSetShape.active
      · exact continues.active
      · change 0 < c.passwordSetReceivedLength + request.payloadLength
        change 0 < c.passwordSetReceivedLength at positive
        omega
      · change c.passwordSetReceivedLength + request.payloadLength < c.passwordSetTotalLength
        omega
      · exact whole
      · change ByteBuffer.Padded _ 0 _ (c.passwordSetReceivedLength + request.payloadLength)
          (ByteBuffer.write c.passwordSetStaging request.offset _)
        rw [placed]
        exact written
    | idle staged => exact absurd (staged.symm.trans continues.active) (by decide)

/-! ## The world under the updates -/

/-- Nothing of the context changed, and the store dropped or kept what it
staged. -/
theorem ContextShape.kept (shape : ContextShape cfg id w) (same : w'.contexts id = w.contexts id)
    (owner : w'.timeoutOwner = w.timeoutOwner) (quiet : w.dynamic.Quiet w'.dynamic) :
    ContextShape cfg id w' := by
  constructor
  · rw [same]
    exact shape.set
  · rw [same]
    exact shape.passwordSet
  · rw [same, owner]
    exact shape.dynamic
  · rw [same]
    exact shape.store.quiet quiet

theorem ContextShape.withAuth (shape : ContextShape cfg id w) (auth : AuthCore.State) :
    ContextShape cfg id (w.withAuth auth) :=
  shape.kept rfl rfl (.refl _)

/-- An update that leaves the dynamic part of the context alone. -/
theorem ContextShape.modify (shape : ContextShape cfg id w) {f : Context → Context}
    (set : SetShape cfg (f (w.contexts id)).authStateKnown ((f (w.contexts id)).upload .set))
    (passwordSet : PasswordSetShape ((f (w.contexts id)).upload .passwordSet))
    (dynamic : (f (w.contexts id)).upload .dynamic = (w.contexts id).upload .dynamic)
    (deadline : (f (w.contexts id)).dynamicDeadlineMs = (w.contexts id).dynamicDeadlineMs) :
    ContextShape cfg id (w.modify id f) := by
  constructor
  · rw [World.modify_contexts_self]
    exact set
  · rw [World.modify_contexts_self]
    exact passwordSet
  · rw [World.modify_contexts_self, dynamic, deadline]
    exact shape.dynamic
  · rw [World.modify_contexts_self, dynamic]
    exact shape.store

theorem ContextShape.clearSet (shape : ContextShape cfg id w) :
    ContextShape cfg id (w.clearSet cfg id) :=
  shape.modify (clearSet_shape _) shape.passwordSet rfl rfl

theorem ContextShape.clearPasswordSet (shape : ContextShape cfg id w) :
    ContextShape cfg id (w.clearPasswordSet id) :=
  shape.modify shape.set (clearPasswordSet_shape _) rfl rfl

theorem ContextShape.observe (shape : ContextShape cfg id w) (state : AuthState)
    (authenticated : Bool) : ContextShape cfg id (w.modify id (.observe state authenticated)) :=
  shape.modify shape.set.observed shape.passwordSet rfl rfl

/-- The dynamic part is gone from the context and from the store. -/
theorem ContextShape.dropped
    (set : SetShape cfg (w.contexts id).authStateKnown ((w.contexts id).upload .set))
    (passwordSet : PasswordSetShape ((w.contexts id).upload .passwordSet))
    (same : w'.contexts id = (w.contexts id).clearDynamic)
    (idle : w'.dynamic.stagingActive = false) : ContextShape cfg id w' := by
  constructor
  · rw [same]
    exact set
  · rw [same]
    exact passwordSet
  · rw [same]
    exact .idle rfl rfl rfl rfl rfl rfl
  · exact .of_idle idle

theorem ContextShape.clearDynamic (shape : ContextShape cfg id w) (nowMs : Int) :
    ContextShape cfg id (w.clearDynamic cfg id nowMs) :=
  .dropped shape.set shape.passwordSet (World.clearDynamic_contexts_self ..) rfl

/-- A discard needs nothing of the context before. -/
theorem discard_shape (cfg : Config) (id : ContextId) (nowMs : Int) (w : World) :
    ContextShape cfg id (w.discard cfg id nowMs) := by
  have zero := World.discard_contexts_self cfg id nowMs w
  constructor
  · rw [zero]
    exact .idle rfl rfl rfl rfl rfl rfl
  · rw [zero]
    exact .idle rfl rfl rfl rfl rfl
  · rw [zero]
    exact .idle rfl rfl rfl rfl rfl rfl
  · exact .of_idle rfl

/-- Another context gives up its upload. -/
theorem ContextShape.other {other : ContextId} (shape : ContextShape cfg id w)
    (different : id ≠ other) (same : w'.contexts id = w.contexts id)
    (owner : w'.timeoutOwner = if w.timeoutOwner = some other then none else w.timeoutOwner)
    (idle : w'.dynamic.stagingActive = false) : ContextShape cfg id w' := by
  constructor
  · rw [same]
    exact shape.set
  · rw [same]
    exact shape.passwordSet
  · rw [same]
    cases shape.dynamic with
    | active staged slot partly fits timed owned =>
      have mine : w'.timeoutOwner = some id := by
        rw [owner, owned, if_neg]
        simpa using different
      exact .active staged slot partly fits timed mine
    | idle staged requestId slot total received timed =>
      exact .idle staged requestId slot total received timed
  · exact .of_idle idle

theorem ContextShape.clearDynamic_any (shape : ContextShape cfg id w) (other : ContextId)
    (nowMs : Int) : ContextShape cfg id (w.clearDynamic cfg other nowMs) := by
  by_cases same : id = other
  · subst same
    exact shape.clearDynamic nowMs
  · exact shape.other same (World.clearDynamic_contexts_of_ne _ _ _ _ _ same) rfl rfl

theorem ContextShape.discard_any (shape : ContextShape cfg id w) (other : ContextId)
    (nowMs : Int) : ContextShape cfg id (w.discard cfg other nowMs) := by
  by_cases same : id = other
  · subst same
    exact discard_shape cfg id nowMs w
  · exact shape.other same (World.discard_contexts_of_ne _ _ _ _ _ same) rfl rfl

/-! ## Frames -/

theorem syncAuthState_shape (shape : ContextShape cfg id w) :
    ContextShape cfg id (syncAuthState cfg env id w) ∧
      ((syncAuthState cfg env id w).contexts id).authStateKnown = true := by
  rcases syncAuthState_cases cfg env id w with ⟨_, synced⟩ | ⟨_, synced⟩
  · rw [synced, World.modify_contexts_self]
    exact ⟨((shape.withAuth _).clearSet.clearPasswordSet.clearDynamic _).observe _ _, rfl⟩
  · rw [synced, World.modify_contexts_self]
    exact ⟨(shape.withAuth _).observe _ _, rfl⟩

theorem discardForOpcode_shape (shape : ContextShape cfg id w) (byte : UInt8) :
    ContextShape cfg id (discardForOpcode cfg id nowMs byte w) := by
  rcases discardForOpcode_cases cfg id nowMs byte w with same | same | same | same
  · rw [same]
    exact shape
  · rw [same]
    exact shape.clearSet
  · rw [same]
    exact shape.clearPasswordSet
  · rw [same]
    exact shape.clearDynamic nowMs

theorem refreshProtectedSession_shape (shape : ContextShape cfg id w) :
    ContextShape cfg id (refreshProtectedSession cfg env id response w).2 := by
  rcases refreshProtectedSession_cases cfg env id response w with
    ⟨_, auth, _, result⟩ | ⟨_, _, result⟩ | ⟨_, _, auth, _, _, result⟩
  · rw [result]
    exact shape.withAuth auth
  · rw [result]
    exact shape.withAuth _
  · rw [result]
    exact discard_shape ..

theorem afterHandler_shape {result : Frame × World} (shape : ContextShape cfg id result.2) :
    ContextShape cfg id (afterHandler cfg env id result).2 := by
  unfold afterHandler
  split
  · exact refreshProtectedSession_shape shape
  · exact shape

theorem processManagement_shape {handler : World → Frame × World}
    (handled : ∀ auth, ContextShape cfg id (handler (w.withAuth auth)).2) :
    ContextShape cfg id (processManagement cfg env id handler response w).2 := by
  obtain ⟨auth, _, ⟨_, _, _, refused⟩ | ⟨_, _, passed⟩⟩ :=
    processManagement_cases cfg env id handler response w
  · rw [refused]
    exact discard_shape ..
  · rw [passed]
    exact afterHandler_shape (handled auth)

theorem processSet_shape (shape : ContextShape cfg id w)
    (observed : (w.contexts id).authStateKnown = true)
    (sized : request.payloadLength ≤ payloadSize) :
    ContextShape cfg id (processSet cfg env id request response w).2 := by
  rcases processSet_cases cfg env id request response w with
    ⟨_, _, refused⟩ | ⟨c', accepted, ⟨partly, staged⟩ | ⟨_, complete⟩⟩
  · rw [refused]
    exact shape.clearSet
  · have next := shape.set.accepted observed sized accepted partly
    rw [staged]
    obtain ⟨_, ⟨_, rfl⟩ | ⟨_, rfl⟩⟩ := accepted
    · exact shape.modify next shape.passwordSet rfl rfl
    · exact shape.modify next shape.passwordSet rfl rfl
  · -- A completed text leaves nothing staged, whatever became of it.
    obtain ⟨err, slots, settings, _, result⟩ :=
      commitSet_eq cfg env id response (w.modify id fun _ => c')
    rw [complete, result]
    have dynamic : c'.upload .dynamic = (w.contexts id).upload .dynamic ∧
        c'.upload .passwordSet = (w.contexts id).upload .passwordSet ∧
        c'.dynamicDeadlineMs = (w.contexts id).dynamicDeadlineMs := by
      obtain ⟨_, ⟨_, rfl⟩ | ⟨_, rfl⟩⟩ := accepted
      · exact ⟨rfl, rfl, rfl⟩
      · exact ⟨rfl, rfl, rfl⟩
    obtain ⟨upload, password, deadline⟩ := dynamic
    constructor
    · simp only [World.clearSet_contexts_self]
      exact clearSet_shape _
    · simp only [World.clearSet_contexts_self, World.modify_contexts_self]
      change PasswordSetShape (c'.upload .passwordSet)
      rw [password]
      exact shape.passwordSet
    · simp only [World.clearSet_contexts_self, World.modify_contexts_self]
      change DynamicShape cfg id w.timeoutOwner c'.dynamicDeadlineMs (c'.upload .dynamic)
      rw [upload, deadline]
      exact shape.dynamic
    · simp only [World.clearSet_contexts_self, World.modify_contexts_self]
      change Agrees (c'.upload .dynamic) w.dynamic
      rw [upload]
      exact shape.store

theorem processPasswordSet_shape (shape : ContextShape cfg id w)
    (sized : request.payloadLength ≤ payloadSize) :
    ContextShape cfg id (processPasswordSet cfg env id request response w).2 := by
  rcases processPasswordSet_cases cfg env id request response w with
    ⟨_, _, refused⟩ | ⟨c', accepted, ⟨partly, staged⟩ | ⟨_, complete⟩⟩
  · rw [refused]
    exact shape.clearPasswordSet
  · have next := shape.passwordSet.accepted sized accepted partly
    rw [staged]
    apply refreshProtectedSession_shape
    obtain ⟨_, ⟨_, rfl⟩ | ⟨_, rfl⟩⟩ := accepted
    · exact shape.modify shape.set next rfl rfl
    · exact shape.modify shape.set next rfl rfl
  · obtain ⟨err, auth, settings, _, outcome⟩ :=
      commitPasswordSet_cases cfg env id response (w.modify id fun _ => c')
    have done : ContextShape cfg id
        (passwordSetDone id err auth settings (w.modify id fun _ => c')) := by
      have others : c'.upload .dynamic = (w.contexts id).upload .dynamic ∧
          c'.upload .set = (w.contexts id).upload .set ∧
          c'.authStateKnown = (w.contexts id).authStateKnown ∧
          c'.dynamicDeadlineMs = (w.contexts id).dynamicDeadlineMs := by
        obtain ⟨_, ⟨_, rfl⟩ | ⟨_, rfl⟩⟩ := accepted
        · exact ⟨rfl, rfl, rfl, rfl⟩
        · exact ⟨rfl, rfl, rfl, rfl⟩
      obtain ⟨upload, set, known, deadline⟩ := others
      unfold passwordSetDone
      constructor
      · simp only [World.clearPasswordSet_contexts_self, World.modify_contexts_self]
        change SetShape cfg c'.authStateKnown (c'.upload .set)
        rw [set, known]
        exact shape.set
      · simp only [World.clearPasswordSet_contexts_self]
        exact clearPasswordSet_shape _
      · simp only [World.clearPasswordSet_contexts_self, World.modify_contexts_self]
        change DynamicShape cfg id w.timeoutOwner c'.dynamicDeadlineMs (c'.upload .dynamic)
        rw [upload, deadline]
        exact shape.dynamic
      · simp only [World.clearPasswordSet_contexts_self, World.modify_contexts_self]
        change Agrees (c'.upload .dynamic) w.dynamic
        rw [upload]
        exact shape.store
    rw [complete]
    rcases outcome with ⟨_, result⟩ | ⟨_, result⟩ | ⟨_, result⟩ | ⟨_, result⟩
    · rw [result]
      exact discard_shape ..
    · rw [result]
      exact done
    · rw [result]
      exact discard_shape ..
    · rw [result]
      exact done

/-! ## Dynamic frames -/

theorem begun_shape (shape : ContextShape cfg id w) (valid : BeginValid cfg request)
    (counted : 0 ≤ env.clock .timeout) : ContextShape cfg id (begun cfg env id request w) := by
  have self : (begun cfg env id request w).contexts id = { startDynamic request (w.contexts id) with
      dynamicDeadlineMs :=
        env.clock .timeout + (dynamicTransactionTimeoutSeconds : Int) * 1000 } := by
    simp only [begun, refreshDynamicTimeout_contexts_self, World.modify_contexts_self]
    rfl
  have slot : request.slot.toNat < cfg.dynamicSlotCount := by
    simpa [DynamicStore.slotIsValid] using valid.slot
  constructor
  · rw [self]
    exact shape.set
  · rw [self]
    exact shape.passwordSet
  · rw [self]
    apply DynamicShape.active
    · rfl
    · exact slot
    · exact Nat.pos_of_ne_zero valid.positive
    · exact valid.fits
    · unfold dynamicTransactionTimeoutSeconds
      dsimp only
      omega
    · rfl
  · rw [self]
    intro _
    have started : (begun cfg env id request w).dynamic = (w.dynamic.beginSlot cfg
      request.slot.toNat request.totalLength (beginTtlSeconds request) (beginConsumes request)
      (env.clock .operation)).2 := rfl
    rw [started, DynamicStore.beginSlot_of_valid valid.slot valid.positive valid.fits
      valid.atLeast valid.atMost]
    exact ⟨rfl, rfl, rfl, rfl⟩

theorem processDynamicBegin_shape (shape : ContextShape cfg id w)
    (counted : 0 ≤ env.clock .timeout) :
    ContextShape cfg id (processDynamicBegin cfg env id request response w).2 := by
  rcases processDynamicBegin_cases cfg env id request response w with
    ⟨_, _, refused⟩ | ⟨valid, _, _, _, failed⟩ | ⟨valid, _, started⟩
  · rw [refused]
    exact shape.clearDynamic _
  · rw [failed]
    exact (begun_shape shape valid counted).clearDynamic _
  · rw [started]
    exact begun_shape shape valid counted

/-- The staging the store takes a DATA into is that of the context. -/
theorem Agrees.expired {s : DynamicStore} (agrees : Agrees u s) (nowMs : Int) :
    Agrees u (s.expireDue cfg nowMs) :=
  agrees.quiet (DynamicStore.expireDue_quiet cfg nowMs s)

theorem dataReceived_self : (dataReceived cfg env id request w).contexts id =
    { w.contexts id with dynamicReceivedLength := request.offset + request.payloadLength } := by
  simp [dataReceived]

/-- The last chunk commits the staging and ends the upload. -/
theorem completed_shape (shape : ContextShape cfg id w)
    (sized : request.payloadLength ≤ payloadSize)
    (valid : DataValid cfg request (w.contexts id)) (taken : (dataAppend cfg env request w).1 = 0)
    (complete : request.offset + request.payloadLength = request.totalLength) :
    ContextShape cfg id (finishDynamic id (dataReceived cfg env id request w)) := by
  have agrees : Agrees ((w.contexts id).upload .dynamic)
      (w.dynamic.expireDue cfg (env.clock .operation)) := shape.store.expired _
  obtain ⟨accepted, left⟩ := DynamicStore.appendSlot_taken taken
  obtain ⟨_, _, total, count⟩ := agrees accepted.active
  have whole : (DynamicStore.appended request.offset (request.payload request.payloadLength)
      (w.dynamic.expireDue cfg (env.clock .operation))).stagingReceived =
      (w.dynamic.expireDue cfg (env.clock .operation)).stagingExpectedLength := by
    have placed := accepted.placed
    have sent := valid.total
    change (w.dynamic.expireDue cfg (env.clock .operation)).stagingReceived +
      (request.payload request.payloadLength).length = _
    rw [payload_length sized, total, ← placed, complete]
    exact sent.symm
  rw [if_pos whole] at left
  have self : (finishDynamic id (dataReceived cfg env id request w)).contexts id =
      ({ w.contexts id with
        dynamicReceivedLength := request.offset + request.payloadLength } :
        Context).clearDynamic := by
    simp only [finishDynamic, Function.update_self, dataReceived_self]
  have cleared : ({ w.contexts id with
      dynamicReceivedLength := request.offset + request.payloadLength } : Context).clearDynamic =
      (w.contexts id).clearDynamic := rfl
  apply ContextShape.dropped shape.set shape.passwordSet (self.trans cleared)
  change (dataAppend cfg env request w).2.stagingActive = false
  rw [dataAppend, left]
  rfl

/-- Any other chunk advances both counts. -/
theorem received_shape (shape : ContextShape cfg id w) (sized : request.payloadLength ≤ payloadSize)
    (valid : DataValid cfg request (w.contexts id)) (taken : (dataAppend cfg env request w).1 = 0)
    (partly : request.offset + request.payloadLength ≠ request.totalLength)
    (counted : 0 ≤ env.clock .timeout) :
    ContextShape cfg id ((dataReceived cfg env id request w).refreshDynamicTimeout id env).2 := by
  have self : (((dataReceived cfg env id request w).refreshDynamicTimeout id env).2).contexts id =
      { w.contexts id with
        dynamicReceivedLength := request.offset + request.payloadLength
        dynamicDeadlineMs :=
          env.clock .timeout + (dynamicTransactionTimeoutSeconds : Int) * 1000 } := by
    rw [refreshDynamicTimeout_contexts_self, dataReceived_self]
  obtain ⟨accepted, left⟩ := DynamicStore.appendSlot_taken taken
  have agrees : Agrees ((w.contexts id).upload .dynamic)
      (w.dynamic.expireDue cfg (env.clock .operation)) := shape.store.expired _
  obtain ⟨_, target, total, count⟩ := agrees accepted.active
  have placed := accepted.placed
  constructor
  · rw [self]
    exact shape.set
  · rw [self]
    exact shape.passwordSet
  · rw [self]
    cases shape.dynamic with
    | active staged slot _ fits _ _ =>
      have sent : (w.contexts id).dynamicTotalLength = request.totalLength := valid.total
      have inside := valid.inside
      have short := valid.fits
      apply DynamicShape.active
      · exact valid.active
      · exact slot
      · change request.offset + request.payloadLength < (w.contexts id).dynamicTotalLength
        omega
      · exact fits
      · unfold dynamicTransactionTimeoutSeconds
        dsimp only
        omega
      · rfl
    | idle staged => exact absurd (staged.symm.trans valid.active) (by decide)
  · rw [self]
    intro _
    have store : (((dataReceived cfg env id request w).refreshDynamicTimeout id env).2).dynamic =
      (dataAppend cfg env request w).2 := rfl
    have notWhole : (DynamicStore.appended request.offset (request.payload request.payloadLength)
        (w.dynamic.expireDue cfg (env.clock .operation))).stagingReceived ≠
        (w.dynamic.expireDue cfg (env.clock .operation)).stagingExpectedLength := by
      have sent : (w.contexts id).dynamicTotalLength = request.totalLength := valid.total
      change (w.dynamic.expireDue cfg (env.clock .operation)).stagingReceived +
        (request.payload request.payloadLength).length ≠ _
      rw [payload_length sized, total, ← placed]
      change _ ≠ (w.contexts id).dynamicTotalLength
      rw [sent]
      exact partly
    rw [store, dataAppend, left, if_neg notWhole]
    refine ⟨valid.active, target, total, ?_⟩
    change (w.dynamic.expireDue cfg (env.clock .operation)).stagingReceived +
      (request.payload request.payloadLength).length = request.offset + request.payloadLength
    rw [payload_length sized, ← placed]

theorem processDynamicData_shape (shape : ContextShape cfg id w)
    (sized : request.payloadLength ≤ payloadSize) (counted : 0 ≤ env.clock .timeout) :
    ContextShape cfg id (processDynamicData cfg env id request response w).2 := by
  rcases processDynamicData_cases cfg env id request response w with
    ⟨_, _, result⟩ | ⟨_, _, _, _, result⟩ | ⟨valid, taken, complete, result⟩ |
    ⟨valid, taken, partly, _, result⟩ | ⟨valid, taken, partly, _, result⟩
  · rw [result]
    exact shape.clearDynamic _
  · rw [result]
    exact .dropped shape.set shape.passwordSet (World.clearDynamic_contexts_self ..) rfl
  · rw [result]
    exact completed_shape shape sized valid taken complete
  · rw [result]
    exact (received_shape shape sized valid taken partly counted).clearDynamic _
  · rw [result]
    exact received_shape shape sized valid taken partly counted

/-- A clear of the slot of the upload ends it in the store and in the
context. -/
theorem slotCleared_shape (shape : ContextShape cfg id w) {slot : Nat}
    (valid : DynamicStore.slotIsValid cfg slot = true) :
    ContextShape cfg id (slotCleared cfg env id slot w) := by
  have quiet := DynamicStore.clearSlot_quiet cfg slot (env.clock .rearm) w.dynamic
  unfold slotCleared
  dsimp only
  split
  next here =>
    have self : (finishDynamic id (w.withDynamic
        (w.dynamic.clearSlot cfg slot (env.clock .rearm)))).contexts id =
        (w.contexts id).clearDynamic := by
      simp [finishDynamic]
    apply ContextShape.dropped shape.set shape.passwordSet self
    change (w.dynamic.clearSlot cfg slot (env.clock .rearm)).stagingActive = false
    unfold DynamicStore.clearSlot
    rw [if_neg (by simp [valid])]
    change (w.dynamic.expireSlot slot).stagingActive = false
    unfold DynamicStore.expireSlot DynamicStore.clearCommitted
    dsimp only
    split
    · rfl
    next elsewhere =>
      -- A staging that goes on would be for another slot than the upload of the context.
      change w.dynamic.stagingActive = false
      rw [← Bool.not_eq_true]
      intro staged
      obtain ⟨_, target, _⟩ := shape.store staged
      exact elsewhere ⟨staged, target.trans here.2⟩
  · exact shape.kept rfl rfl quiet

theorem processDynamicClear_shape (shape : ContextShape cfg id w) :
    ContextShape cfg id (processDynamicClear cfg env id request response w).2 := by
  rcases processDynamicClear_cases cfg env id request response w with
    ⟨_, _, refused⟩ | ⟨valid, cleared⟩
  · rw [refused]
    exact shape
  · rw [cleared]
    exact slotCleared_shape shape valid

theorem dispatch_shape {opcode : Opcode} (shape : ContextShape cfg id w)
    (observed : (w.contexts id).authStateKnown = true)
    (sized : request.payloadLength ≤ payloadSize) (counted : 0 ≤ env.clock .timeout) :
    ContextShape cfg id (dispatch cfg hmac env id opcode request response w).2 := by
  cases opcode with
  | capabilities => exact shape
  | dynamicBegin => exact processDynamicBegin_shape shape counted
  | dynamicData => exact processDynamicData_shape shape sized counted
  | dynamicClear => exact processDynamicClear_shape shape
  | authInfo =>
    obtain ⟨answer, auth, _, result⟩ := processAuthInfo_cases env request response w
    simp only [dispatch, result]
    exact shape.withAuth auth
  | authChallenge =>
    rcases processAuthChallenge_cases cfg env request response w with
      refused | ⟨_, auth, _, result⟩
    · simp only [dispatch, refused]
      exact shape
    · simp only [dispatch, result]
      exact shape.withAuth auth
  | authProve =>
    rcases processAuthProve_cases cfg hmac env id request response w with
      ⟨_, _, refused⟩ | ⟨_, _, _, result⟩
    · simp only [dispatch, refused]
      exact discard_shape ..
    · simp only [dispatch, result]
      exact discard_shape ..
  | lock =>
    rcases processLock_cases cfg env id request response w with refused | locked
    · simp only [dispatch, refused]
      exact shape
    · simp only [dispatch, locked]
      exact discard_shape ..
  | list => exact processManagement_shape fun auth => shape.withAuth auth
  | get => exact processManagement_shape fun auth => shape.withAuth auth
  | set =>
    apply processManagement_shape
    intro auth
    exact processSet_shape (shape.withAuth auth) observed sized
  | clear =>
    apply processManagement_shape
    intro auth
    rcases processClear_cases cfg env request response (w.withAuth auth) with
      ⟨_, _, _, refused⟩ | ⟨_, cleared⟩
    · rw [refused]
      exact shape.withAuth auth
    · rw [cleared]
      exact shape.kept rfl rfl (.refl _)
  | passwordSet =>
    obtain ⟨auth, _, ⟨_, _, _, refused⟩ | ⟨_, _, granted⟩⟩ := managementAccess_cases cfg env id w
    · simp only [dispatch, refused]
      rw [if_pos (gateStatus_ne_ok _)]
      exact discard_shape ..
    · simp only [dispatch, granted]
      rw [if_neg (by simp)]
      exact processPasswordSet_shape (shape.withAuth auth) sized

theorem processFrame_shape (shape : ContextShape cfg id w) (counted : 0 ≤ env.clock .timeout) :
    ContextShape cfg id (processFrame cfg hmac env id request w).2 := by
  have both : ContextShape cfg id (syncAuthState cfg env id w) ∧ _ := syncAuthState_shape shape
  obtain ⟨synced, observed⟩ := both
  cases checked : baseCheck request with
  | error status =>
    simp only [processFrame, checked]
    exact discardForOpcode_shape synced _
  | ok opcode =>
    simp only [processFrame, checked]
    exact dispatch_shape synced observed (baseCheck_payload checked) counted

end RuntimeMacro.Source
