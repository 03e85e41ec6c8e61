import RuntimeMacro.Foundations.Transfers
import RuntimeMacro.Guarantees.Loading
import RuntimeMacro.Source.PasswordFrames

/-!
# The credential codec end to end

runtime_macro_auth.c:145-172,240-263;
runtime_macro_protocol.c:995-1037,1144-1264. What the PASSWORD_SET frames carry
is what is stored, what is stored is what a load reads, and what a load reads
is what AUTH_INFO reports. The record is the version octet and the object.
-/
namespace RuntimeMacro.Guarantees.CredentialCodec
open Source Source.Protocol Foundations.Runs Foundations.Transfers Foundations.LittleEndian
open AuthCore (Credential Hmac Looked)

variable {cfg : Config} {hmac : Hmac} {id : ContextId} {w w' start final : World}
  {exchange : Exchange} {past exchanges : List Exchange} {c : Context} {requestId : UInt8}
  {object received : List UInt8} {chunks : List (List UInt8)}

/-! ## The object a context stages -/

/-- An accepted PASSWORD_SET at offset 0 on the context. -/
def opens (id : ContextId) (exchange : Exchange) : Bool :=
  exchange.id == id && exchange.opcode == some .passwordSet && exchange.accepted &&
    exchange.request.offset == 0

/-- An accepted PASSWORD_SET past offset 0 on the context. -/
def continues (id : ContextId) (exchange : Exchange) : Bool :=
  exchange.id == id && exchange.opcode == some .passwordSet && exchange.accepted &&
    exchange.request.offset != 0

/-- The context holds what the frames of the upload carried, under their
request id. -/
structure Holds (c : Context) (upload : List Exchange) : Prop where
  requestId : ∀ exchange ∈ upload, exchange.request.requestId = c.passwordSetRequestId
  received : c.passwordSetReceivedLength = (uploadText upload).length
  bytes : c.passwordSetStaging.take c.passwordSetReceivedLength = uploadText upload

/-- An active staging holds the upload the history of the context is in. -/
def Tracks (id : ContextId) (past : List Exchange) (c : Context) : Prop :=
  c.passwordSetActive = true → ∃ upload, latest (opens id) (continues id) past = some upload ∧
    Holds c upload.events

/-- The upload a PASSWORD_SET frame is the last chunk of, if it is accepted. -/
def IsUpload (id : ContextId) (past : List Exchange) (exchange : Exchange)
    (upload : List Exchange) : Prop :=
  (exchange.request.offset = 0 ∧ upload = [exchange]) ∨
  (exchange.request.offset ≠ 0 ∧ ∃ front first since, past = front ++ first :: since ∧
    opens id first = true ∧ (∀ e ∈ since, opens id e = false) ∧
    upload = first :: since.filter (continues id) ++ [exchange])

theorem opens_iff : opens id exchange = true ↔ exchange.id = id ∧
    exchange.opcode = some .passwordSet ∧ exchange.accepted = true ∧
    exchange.request.offset = 0 := by
  simp [opens, and_assoc]

theorem continues_iff : continues id exchange = true ↔ exchange.id = id ∧
    exchange.opcode = some .passwordSet ∧ exchange.accepted = true ∧
    exchange.request.offset ≠ 0 := by
  simp [continues, and_assoc]

theorem Holds.opened (sized : exchange.request.payloadLength ≤ payloadSize) (c : Context) :
    Holds (startPasswordSet exchange.request c) [exchange] := by
  have carried : uploadText [exchange] = exchange.chunk := by simp [uploadText]
  have length := Exchange.chunk_length sized
  constructor
  · simp [startPasswordSet]
  · rw [carried, length]
    rfl
  · have taken := Foundations.ByteBuffer.write_take_zero c.clearPasswordSet.passwordSetStaging
      exchange.chunk
    rw [carried]
    rw [length] at taken
    exact taken

/-- A chunk that continues the transaction is copied behind the bytes received
so far. -/
theorem Holds.extend (sized : exchange.request.payloadLength ≤ payloadSize)
    {upload : List Exchange} (holds : Holds c upload)
    (continued : PasswordSetContinues exchange.request c) :
    Holds (extendPasswordSet exchange.request c) (upload ++ [exchange]) := by
  have length := Exchange.chunk_length sized
  constructor
  · intro e member
    rcases List.mem_append.mp member with early | late
    · exact holds.requestId e early
    · rw [List.mem_singleton.mp late]
      exact continued.requestId.symm
  · rw [uploadText_append, List.length_append, ← holds.received, length]
    rfl
  · have taken := Foundations.ByteBuffer.write_take c.passwordSetStaging exchange.request.offset
      exchange.chunk
    rw [length, continued.received, holds.bytes] at taken
    rw [uploadText_append, ← taken]
    simp only [extendPasswordSet, continued.received]
    rfl

theorem Holds.congr {c' : Context} {upload : List Exchange} (holds : Holds c upload)
    (same : c'.upload .passwordSet = c.upload .passwordSet) : Holds c' upload := by
  simp only [Context.upload, Upload.mk.injEq] at same
  obtain ⟨_, requestId, _, _, received, staging⟩ := same
  constructor
  · rw [requestId]
    exact holds.requestId
  · rw [received]
    exact holds.received
  · rw [received, staging]
    exact holds.bytes

theorem Tracks.congr {c' : Context} (tracks : Tracks id past c)
    (same : c'.upload .passwordSet = c.upload .passwordSet) : Tracks id past c' := by
  intro alive
  have active := congrArg Upload.active same
  obtain ⟨upload, isLatest, holds⟩ := tracks (active.symm.trans alive)
  exact ⟨upload, isLatest, holds.congr same⟩

theorem Tracks.of_dropped (dropped : (c.upload .passwordSet).active = false) :
    Tracks id past c := fun alive => absurd (alive.symm.trans dropped) (by decide)

/-- An accepted chunk makes the context hold the upload with that chunk at
its end. A first chunk starts a new upload, any other extends the one that
the context tracks. -/
theorem accepted_holds {env : Env} {c' : Context} (tracks : Tracks id past (w.contexts id))
    (sized : exchange.request.payloadLength ≤ payloadSize)
    (accepted : PasswordSetAccepted exchange.request ((syncAuthState cfg env id w).contexts id)
      c') :
    ∃ upload, IsUpload id past exchange upload ∧ Holds c' upload ∧
      (exchange.request.offset = 0 → upload = [exchange]) ∧
      (exchange.request.offset ≠ 0 → ∃ before, latest (opens id) (continues id) past =
        some before ∧ upload = before.events ++ [exchange]) := by
  obtain ⟨_, ⟨first, rfl⟩ | ⟨continued, rfl⟩⟩ := accepted
  · exact ⟨[exchange], Or.inl ⟨first, rfl⟩, Holds.opened sized _, fun _ => rfl,
      fun later => absurd first later⟩
  · have same : ((syncAuthState cfg env id w).contexts id).upload .passwordSet =
        (w.contexts id).upload .passwordSet := by
      rcases syncAuthState_uploads cfg env id w .passwordSet with ⟨_, dropped⟩ | ⟨_, same⟩
      · exact absurd (continued.active.symm.trans dropped) (by decide)
      · exact same
    obtain ⟨before, isBefore, holds⟩ := tracks.congr same continued.active
    obtain ⟨front, since, split, opened, quiet, parts⟩ := latest_split isBefore
    refine ⟨before.events ++ [exchange], Or.inr ⟨continued.later, front, before.first, since,
      split, opened, quiet, ?_⟩, holds.extend sized continued,
      fun first => absurd first continued.later, fun _ => ⟨before, isBefore, rfl⟩⟩
    rw [← parts]
    rfl

/-- Frames that are no accepted PASSWORD_SET on the context leave its upload
history alone. -/
theorem latest_of_silent (silent : exchange.id ≠ id ∨ exchange.opcode ≠ some .passwordSet) :
    latest (opens id) (continues id) (past ++ [exchange]) =
      latest (opens id) (continues id) past := by
  have notOpened : opens id exchange = false := by
    rw [← Bool.not_eq_true, opens_iff]
    tauto
  have notContinued : continues id exchange = false := by
    rw [← Bool.not_eq_true, continues_iff]
    tauto
  exact latest_of_other notOpened notContinued

/-- A frame extends, starts or drops the upload of its own context, and leaves
those of the others. -/
theorem Tracks.step (tracks : ∀ id, Tracks id past (w.contexts id))
    (step : FrameStep cfg hmac w exchange w') (id : ContextId) :
    Tracks id (past ++ [exchange]) (w'.contexts id) := by
  have result := step.result
  by_cases mine : exchange.id = id ∧ exchange.opcode = some .passwordSet
  · obtain ⟨rfl, isPasswordSet⟩ := mine
    have outcome := processFrame_passwordSet cfg hmac exchange.env exchange.id isPasswordSet w
    rw [result] at outcome
    cases outcome with
    | refused _ dropped =>
      apply Tracks.of_dropped
      rw [dropped]
      rfl
    | committed _ _ _ _ _ _ dropped =>
      apply Tracks.of_dropped
      rw [dropped]
      rfl
    | staged c status _ sized accepted _ holding =>
      obtain ⟨upload, _, holds, first, later⟩ :=
        accepted_holds (tracks exchange.id) sized accepted
      have okay : exchange.accepted = true := by
        simpa [Exchange.accepted] using status
      rw [holding]
      intro _
      by_cases atStart : exchange.request.offset = 0
      · refine ⟨_, latest_of_opens (opens_iff.mpr ⟨rfl, isPasswordSet, okay, atStart⟩), ?_⟩
        rw [first atStart] at holds
        exact holds
      · obtain ⟨before, isBefore, rfl⟩ := later atStart
        have notOpened : opens exchange.id exchange = false := by
          rw [← Bool.not_eq_true, opens_iff]
          exact fun opened => atStart opened.2.2.2
        exact ⟨_, latest_of_continues isBefore notOpened
          (continues_iff.mpr ⟨rfl, isPasswordSet, okay, atStart⟩), holds⟩
  · have kept : Context.KeepsOrDrops .passwordSet (w.contexts id) (w'.contexts id) := by
      apply step.keepsOrDrops
      intro own opcode known
      cases opcode with
      | passwordSet => exact absurd ⟨own, known⟩ mine
      | _ => rfl
    unfold Tracks
    rw [latest_of_silent (not_and_or.mp mine)]
    rcases kept with same | dropped
    · exact (tracks id).congr same
    · exact Tracks.of_dropped dropped

theorem run_tracks (fresh : ∀ id, (start.contexts id).passwordSetActive = false)
    (run : Run (FrameStep cfg hmac) start past w) (id : ContextId) :
    Tracks id past (w.contexts id) := by
  have all : ∀ id, Tracks id past (w.contexts id) := by
    apply run.history (fun past w => ∀ id, Tracks id past (w.contexts id))
    · exact fun id => Tracks.of_dropped (fresh id)
    · exact fun _ _ _ _ _ tracks step => Tracks.step tracks step
  exact all id

/-- The record of an upload: the version octet and what its frames carried. -/
def record (upload : List Exchange) : List UInt8 := 1 :: uploadText upload

/-- The credential is replaced exactly at an answer OK with offset 52, by the
version octet and what the accepted chunks of the upload carried, all under one
request id. -/
def StoresUpload (past : List Exchange) (w : World) (exchange : Exchange) (w' : World) : Prop :=
  (CredentialKept w w' ∧
      ¬ (exchange.accepted = true ∧ exchange.response.offset = passwordSetLength)) ∨
  (exchange.accepted = true ∧ exchange.response.offset = passwordSetLength ∧
    ∃ upload, IsUpload exchange.id past exchange upload ∧
      (∀ other ∈ upload, other.request.requestId = exchange.request.requestId) ∧
      w'.settings.values AuthCore.settingPath = some (record upload) ∧
      AuthCore.serializeCredential w'.auth.credential = record upload)

/-- Along a run every context tracks its upload, so the credential a
PASSWORD_SET stores is that of the frames since its first chunk. -/
theorem passwordSet_stores (fresh : ∀ id, (start.contexts id).passwordSetActive = false)
    (run : Run (FrameStep cfg hmac) start past w) (step : FrameStep cfg hmac w exchange w')
    (isPasswordSet : exchange.opcode = some .passwordSet) : StoresUpload past w exchange w' := by
  have result := step.result
  have outcome := processFrame_passwordSet cfg hmac exchange.env exchange.id isPasswordSet w
  rw [result] at outcome
  cases outcome with
  | refused status _ kept =>
    refine Or.inl ⟨kept, fun answered => status ?_⟩
    simpa [Exchange.accepted] using answered.1
  | staged c _ offset _ _ partly _ _ kept =>
    exact Or.inl ⟨kept, fun answered => partly (offset.symm.trans answered.2)⟩
  | committed c status offset sized accepted complete _ credential stored =>
    obtain ⟨upload, isUpload, holds, _, _⟩ :=
      accepted_holds (run_tracks fresh run exchange.id) sized accepted
    have self : exchange ∈ upload := by
      rcases isUpload with ⟨_, rfl⟩ | ⟨_, _, _, _, _, _, _, rfl⟩ <;> simp
    have whole : c.passwordSetStaging.take passwordSetLength = uploadText upload := by
      rw [← complete]
      exact holds.bytes
    have serialized : AuthCore.serializeCredential (stagedCredential c.passwordSetStaging) =
        record upload := by
      rw [← stagedCredential_take, whole]
      apply serialize_stagedCredential
      rw [← holds.received, complete]
    refine Or.inr ⟨by simpa [Exchange.accepted] using status, offset, upload, isUpload, ?_, ?_, ?_⟩
    · exact fun other member =>
        (holds.requestId other member).trans (holds.requestId _ self).symm
    · rw [stored, serialized]
    · rw [credential, serialized]

/-! ## Every split of an object -/

/-- The requests that carry the chunks, from an offset on, under one request
id. -/
def requests (requestId : UInt8) : Nat → List (List UInt8) → List Frame
  | _, [] => []
  | offset, chunk :: rest =>
    .build .passwordSet requestId listSlot offset passwordSetLength chunk ::
      requests requestId (offset + chunk.length) rest

/-- A frame while the device is open or the session lives, with storage
succeeding. -/
def ReadyStep (cfg : Config) (hmac : Hmac) (w : World) (exchange : Exchange) (w' : World) : Prop :=
  Ready exchange.env w.auth ∧ exchange.env.saveErr = 0 ∧ FrameStep cfg hmac w exchange w'

/-- The context has received the front of an object, and its record is up to
date. -/
structure Receiving (requestId : UInt8) (received : List UInt8) (state : AuthCore.AuthState)
    (c : Context) : Prop where
  active : c.passwordSetActive = true
  requestId : c.passwordSetRequestId = requestId
  total : c.passwordSetTotalLength = passwordSetLength
  length : c.passwordSetReceivedLength = received.length
  bytes : c.passwordSetStaging.take received.length = received
  record : c.record = (true, state, decide (state = .stateProtected))

theorem Receiving.extend {chunk : List UInt8} {request : Frame} {state : AuthCore.AuthState}
    (receiving : Receiving requestId received state c)
    (offset : request.offset = received.length) (sized : request.payloadLength = chunk.length)
    (carried : request.payload request.payloadLength = chunk) :
    Receiving requestId (received ++ chunk) state (extendPasswordSet request c) := by
  constructor
  · exact receiving.active
  · exact receiving.requestId
  · exact receiving.total
  · simp [extendPasswordSet, receiving.length, sized]
  · have taken := Foundations.ByteBuffer.write_take c.passwordSetStaging received.length chunk
    rw [receiving.bytes] at taken
    simp only [extendPasswordSet, carried, offset, List.length_append]
    exact taken
  · exact receiving.record

/-- A first chunk, with the context's memory of the core up to date, leaves the
transaction open behind it. -/
theorem Receiving.opened {chunk : List UInt8} {request : Frame} {state : AuthCore.AuthState}
    (total : request.totalLength = passwordSetLength)
    (sized : request.payloadLength = chunk.length)
    (carried : request.payload request.payloadLength = chunk)
    (record : c.record = (true, state, decide (state = .stateProtected))) :
    Receiving request.requestId chunk state (startPasswordSet request c) := by
  constructor
  · rfl
  · rfl
  · exact total
  · exact sized
  · have taken := Foundations.ByteBuffer.write_take_zero
      c.clearPasswordSet.passwordSetStaging chunk
    simp only [startPasswordSet, carried]
    exact taken
  · exact record

/-- The staging a chunk meets: none is needed at the start. -/
def Meets (requestId : UInt8) (received : List UInt8) (w : World) (id : ContextId) : Prop :=
  received = [] ∨ Receiving requestId received w.auth.state (w.contexts id)

/-- The next chunk of an object is accepted, and received behind the ones
before it. The session lives through the frame, so `sync_auth_state` finds
nothing new. -/
theorem Meets.accepted {env : Env} {chunk : List UInt8} (cfg : Config)
    (meets : Meets requestId received w id) (ready : Ready env w.auth)
    (nonempty : chunk ≠ []) (sized : chunk.length ≤ payloadSize)
    (fits : received.length + chunk.length ≤ passwordSetLength) :
    ∃ c, PasswordSetAccepted (.build .passwordSet requestId listSlot received.length
        passwordSetLength chunk) ((syncAuthState cfg env id w).contexts id) c ∧
      Receiving requestId (received ++ chunk) w.auth.state c := by
  generalize built : Frame.build .passwordSet requestId listSlot received.length passwordSetLength
    chunk = request
  have positive : 0 < chunk.length := List.length_pos_iff.mpr nonempty
  have small : received.length < 65536 := by
    unfold passwordSetLength at fits
    omega
  have total : request.totalLength = passwordSetLength := by
    rw [← built]
    exact Frame.totalLength_build _ _ _ _ _ _ (by decide)
  have offset : request.offset = received.length := by
    rw [← built]
    exact Frame.offset_build _ _ _ _ _ _ small
  have length : request.payloadLength = chunk.length := by
    rw [← built]
    exact Frame.payloadLength_build _ _ _ _ _ _ sized
  have carried : request.payload request.payloadLength = chunk := by
    rw [length, ← built]
    exact Frame.payload_build _ _ _ _ _ _ sized
  have identified : request.requestId = requestId := by
    rw [← built]
    exact Frame.requestId_build ..
  have valid : PasswordSetChunkValid request := by
    constructor
    · rw [← built]
      exact Frame.slot_build ..
    · exact total
    · omega
    · omega
    · omega
  have record : ((syncAuthState cfg env id w).contexts id).record =
      (true, w.auth.state, decide (w.auth.state = .stateProtected)) := by
    rw [syncAuthState_record, (ready.observed cfg id).1]
  by_cases first : received = []
  · subst first
    refine ⟨_, ⟨valid, Or.inl ⟨offset, rfl⟩⟩, ?_⟩
    rw [← identified]
    exact Receiving.opened total length carried record
  · have receiving := meets.resolve_left first
    have later : request.offset ≠ 0 := by
      rw [offset]
      simpa using first
    -- The record is the one the last chunk left, so the observation drops nothing.
    have fresh : ¬ Stale env w.auth (w.contexts id) := by
      rintro ⟨_, differs⟩
      have same := receiving.record
      simp only [Context.record, Prod.mk.injEq] at same
      rw [(ready.observed cfg id).1, same.2.1, same.2.2] at differs
      simp at differs
    have kept : ((syncAuthState cfg env id w).contexts id).upload .passwordSet =
        (w.contexts id).upload .passwordSet := by
      rcases syncAuthState_uploads cfg env id w .passwordSet with ⟨stale, _⟩ | ⟨_, same⟩
      · exact absurd stale fresh
      · exact same
    simp only [Context.upload, Upload.mk.injEq] at kept
    obtain ⟨active, sameId, _, sameTotal, sameLength, staging⟩ := kept
    have synced : Receiving requestId received w.auth.state
        ((syncAuthState cfg env id w).contexts id) := by
      constructor
      · exact active.trans receiving.active
      · exact sameId.trans receiving.requestId
      · exact sameTotal.trans receiving.total
      · exact sameLength.trans receiving.length
      · rw [staging]
        exact receiving.bytes
      · exact record
    refine ⟨_, ⟨valid, Or.inr ⟨?_, rfl⟩⟩, synced.extend offset length carried⟩
    constructor
    · exact later
    · exact synced.active
    · exact synced.requestId.trans identified.symm
    · exact synced.total.trans total.symm
    · exact offset.trans synced.length.symm

/-- One chunk of an object: the last one stores it, any other is received. The
last one is the chunk that makes the length 52. -/
theorem chunk_step {chunk : List UInt8} (meets : Meets requestId received w exchange.id)
    (step : ReadyStep cfg hmac w exchange w')
    (sent : exchange.request = .build .passwordSet requestId listSlot received.length
      passwordSetLength chunk)
    (nonempty : chunk ≠ []) (sized : chunk.length ≤ payloadSize)
    (fits : received.length + chunk.length ≤ passwordSetLength)
    (valid : received.length + chunk.length = passwordSetLength →
      AuthCore.credentialIsValid (stagedCredential (received ++ chunk)) = true) :
    exchange.accepted = true ∧
      ((received.length + chunk.length ≠ passwordSetLength ∧
          Receiving requestId (received ++ chunk) w'.auth.state (w'.contexts exchange.id)) ∨
        (received.length + chunk.length = passwordSetLength ∧
          w'.settings.values AuthCore.settingPath = some (1 :: (received ++ chunk)))) := by
  obtain ⟨ready, saved, taken⟩ := step
  obtain ⟨c, accepted, receiving⟩ := meets.accepted cfg ready nonempty sized fits
  have passed : baseCheck exchange.request = .ok .passwordSet := by
    rw [sent]
    exact baseCheck_build _ _ _ _ _ _ sized
  rw [← sent] at accepted
  have unique : ∀ {c'}, PasswordSetAccepted exchange.request
      ((syncAuthState cfg exchange.env exchange.id w).contexts exchange.id) c' → c' = c := by
    rintro c' ⟨_, other⟩
    obtain ⟨_, this⟩ := accepted
    rcases other with ⟨first, rfl⟩ | ⟨continued, rfl⟩ <;>
      rcases this with ⟨first', rfl⟩ | ⟨continued', rfl⟩
    · rfl
    · exact absurd first continued'.later
    · exact absurd first' continued.later
    · rfl
  have length : c.passwordSetReceivedLength = received.length + chunk.length := by
    rw [receiving.length, List.length_append]
  have object : c.passwordSetReceivedLength = passwordSetLength →
      stagedCredential c.passwordSetStaging = stagedCredential (received ++ chunk) := by
    intro complete
    have bytes := receiving.bytes
    rw [← receiving.length, complete] at bytes
    rw [← stagedCredential_take, bytes]
  have answered := passwordSet_answered hmac ready passed accepted fun complete =>
    ⟨object complete ▸ valid (length.symm.trans complete), saved⟩
  have outcome := processFrame_passwordSet cfg hmac exchange.env exchange.id
    (baseCheck_opcode passed) w
  rw [taken.result] at answered outcome
  refine ⟨by simpa [Exchange.accepted] using answered, ?_⟩
  cases outcome with
  | refused status => exact absurd answered status
  | staged c' _ _ _ accepted' partly holding state =>
    have same := unique accepted'
    subst same
    apply Or.inl
    constructor
    · rw [← length]
      exact partly
    · rw [holding, state]
      exact receiving
  | committed c' _ _ _ accepted' complete _ _ stored =>
    have same := unique accepted'
    subst same
    apply Or.inr
    have whole := length.symm.trans complete
    refine ⟨whole, ?_⟩
    rw [stored, object complete]
    apply congrArg some
    apply serialize_stagedCredential
    rw [List.length_append, whole]

/-- All chunks of an object, the first part of which has been received. By
induction on the chunks that are left. -/
theorem chunks_run (meets : Meets requestId received start id)
    (run : Run (ReadyStep cfg hmac) start exchanges final)
    (context : ∀ exchange ∈ exchanges, exchange.id = id)
    (sent : exchanges.map Exchange.request = requests requestId received.length chunks)
    (sized : ∀ chunk ∈ chunks, chunk ≠ [] ∧ chunk.length ≤ payloadSize)
    (whole : received ++ chunks.flatten = object) (length : object.length = passwordSetLength)
    (valid : AuthCore.credentialIsValid (stagedCredential object) = true)
    (remaining : received.length ≠ passwordSetLength) :
    (∃ last, exchanges.getLast? = some last ∧ last.accepted = true) ∧
      final.settings.values AuthCore.settingPath = some (1 :: object) := by
  induction chunks generalizing received start exchanges with
  | nil =>
    rw [List.flatten_nil, List.append_nil] at whole
    rw [whole] at remaining
    exact absurd length remaining
  | cons chunk rest ih =>
    obtain ⟨nonempty, small⟩ := sized chunk (by simp)
    rw [requests] at sent
    obtain ⟨exchange, later, rfl, request, tail⟩ := List.map_eq_cons_iff.mp sent
    obtain ⟨middle, step, onward⟩ := run.cons_inv
    have here := context exchange (by simp)
    subst here
    have total : received.length + (chunk.length + rest.flatten.length) = passwordSetLength := by
      rw [← length, ← whole, List.flatten_cons, List.length_append, List.length_append]
    have object_eq : (received ++ chunk) ++ rest.flatten = object := by
      rw [← whole, List.flatten_cons, List.append_assoc]
    have ends : received.length + chunk.length = passwordSetLength → rest = [] := by
      intro complete
      cases rest with
      | nil => rfl
      | cons next more =>
        have positive := List.length_pos_iff.mpr (sized next (by simp)).1
        rw [List.flatten_cons, List.length_append] at total
        omega
    have complete_valid : received.length + chunk.length = passwordSetLength →
        AuthCore.credentialIsValid (stagedCredential (received ++ chunk)) = true := by
      intro complete
      rw [ends complete, List.flatten_nil, List.append_nil] at object_eq
      rw [object_eq]
      exact valid
    obtain ⟨accepted, ⟨partly, receiving⟩ | ⟨complete, stored⟩⟩ :=
      chunk_step meets step request nonempty small (by omega) complete_valid
    · have sent' : later.map Exchange.request =
          requests requestId (received ++ chunk).length rest := by
        rw [tail, List.length_append]
      have remaining' : (received ++ chunk).length ≠ passwordSetLength := by
        rw [List.length_append]
        exact partly
      obtain ⟨⟨last, isLast, answered⟩, stored⟩ := ih (Or.inr receiving) onward
        (fun e member => context e (List.mem_cons_of_mem _ member)) sent'
        (fun c member => sized c (List.mem_cons_of_mem _ member)) object_eq remaining'
      refine ⟨⟨last, ?_, answered⟩, stored⟩
      rw [List.getLast?_cons, isLast]
      rfl
    · have none := ends complete
      subst none
      have empty : later = [] := by simpa [requests] using tail
      subst empty
      rw [onward.nil_inv, stored]
      rw [List.flatten_nil, List.append_nil] at object_eq
      exact ⟨⟨exchange, rfl, accepted⟩, by rw [object_eq]⟩

/-! ## After a reboot -/

/-- A complete object: an iteration count in range, a salt and a key that are
not all zero. -/
structure ValidObject (object : List UInt8) : Prop where
  length : object.length = 52
  iterations : 100000 ≤ leValue (object.take 4) ∧ leValue (object.take 4) ≤ 5000000
  salt : ∃ octet ∈ (object.drop 4).take 16, octet ≠ 0
  key : ∃ octet ∈ object.drop 20, octet ≠ 0

/-- The credential is made of the fields of the object. -/
structure Carries (credential : Credential) (object : List UInt8) : Prop where
  iterations : credential.iterations = leValue (object.take 4)
  salt : credential.salt.toList = (object.drop 4).take 16
  key : credential.key.toList = object.drop 20

theorem stagedCredential_carries (length : object.length = passwordSetLength) :
    Carries (stagedCredential object) object := by
  have whole : object.length = 52 := length
  constructor
  · match object, whole with
    | first :: second :: third :: fourth :: rest, _ => exact AuthCore.getLe32_eq ..
  · exact AuthCore.readBytes_toList 16 object 4 (by omega)
  · have bytes := AuthCore.readBytes_toList 32 object 20 (by omega)
    rw [List.take_of_length_le (by rw [List.length_drop]; omega)] at bytes
    exact bytes

theorem ne_replicate_zero {n : Nat} {data : Vector UInt8 n}
    (some_octet : ∃ octet ∈ data.toList, octet ≠ 0) : data ≠ Vector.replicate n 0 := by
  rintro rfl
  obtain ⟨octet, member, nonzero⟩ := some_octet
  rw [Vector.toList_replicate] at member
  exact nonzero (List.eq_of_mem_replicate member)

theorem ValidObject.credentialIsValid (valid : ValidObject object) :
    AuthCore.credentialIsValid (stagedCredential object) = true := by
  obtain ⟨iterations, salt, key⟩ := stagedCredential_carries valid.length
  apply Loading.credentialIsValid_iff.mpr
  refine ⟨?_, ?_, ?_⟩
  · rw [iterations]
    exact valid.iterations
  · apply ne_replicate_zero
    rw [salt]
    exact valid.salt
  · apply ne_replicate_zero
    rw [key]
    exact valid.key

/-- The callback of a load hands out the record. -/
structure HandsOut (callback : Loading.Callback) (record : List UInt8) : Prop where
  length : callback.length = record.length
  read : ∃ readCb, callback.readCb = some readCb ∧ readCb 53 = ((record.length : Int), record)

theorem HandsOut.delivers {callback : Loading.Callback} (valid : ValidObject object)
    (handed : HandsOut callback (1 :: object)) :
    Loading.Delivers callback (stagedCredential object) := by
  have length : (1 :: object).length = 53 := by rw [List.length_cons, valid.length]
  obtain ⟨readCb, given, answered⟩ := handed.read
  obtain ⟨iterations, salt, key⟩ := Loading.credentialIsValid_iff.mp valid.credentialIsValid
  constructor
  · exact handed.length.trans length
  · refine ⟨readCb, 1 :: object, given, ?_, rfl, (stagedCredential_eq object).symm⟩
    rw [answered, length]
    rfl
  · exact iterations
  · exact salt
  · exact key

/-- The head of an object is its iteration count and its salt. -/
theorem head_of_carries {credential : Credential} (length : object.length = 52)
    (carries : Carries credential object) :
    putU32 credential.iterations ++ credential.salt.toList = object.take 20 := by
  have word : (object.take 4).length = 4 := List.length_take_of_le (by omega)
  have count : putU32 credential.iterations = object.take 4 := by
    have bytes := leBytes_leValue (object.take 4)
    rw [word] at bytes
    rw [carries.iterations]
    exact (AuthCore.putLe32_eq _).trans bytes
  rw [count, carries.salt, ← List.take_add]

/-- AUTH_INFO answers its flags, the KDF and the head of the object. -/
def Reports (answer : Frame) (object : List UInt8) : Prop :=
  answer.status = Status.ok.code ∧
    ∃ flags, answer.payload authInfoLength = flags :: 1 :: object.take 20

/-- The core is protected by the object, and says so. -/
structure Restored (cfg : Config) (hmac : Hmac) (core : AuthCore.State) (object : List UInt8) :
    Prop where
  state : core.state = .stateProtected
  credential : Carries core.credential object
  reports : ∀ env id requestId w, w.auth = core →
    Reports (processFrame cfg hmac env id (.build .authInfo requestId listSlot 0 0 []) w).1 object

/-- AUTH_INFO on a protected device shows iterations and salt of the loaded
credential, and not its key. -/
theorem authInfo_reports (cfg : Config) (hmac : Hmac) (env : Env) (id : ContextId)
    (requestId : UInt8) (valid : ValidObject object) (guarded : w.auth.state = .stateProtected)
    (loaded : w.auth.credential = stagedCredential object) :
    Reports (processFrame cfg hmac env id (.build .authInfo requestId listSlot 0 0 []) w).1
      object := by
  have observed : Looked w.auth (syncAuthState cfg env id w).auth := by
    rw [syncAuthState_auth]
    exact observedSession_looked env w.auth
  have state := observed.state.trans guarded
  have credential := observed.credential.trans loaded
  have passed : baseCheck (.build .authInfo requestId listSlot 0 0 []) = .ok .authInfo :=
    baseCheck_build _ _ _ _ _ _ (by decide)
  have slot : (Frame.build .authInfo requestId listSlot 0 0 []).slot = listSlot :=
    Frame.slot_build ..
  have empty : (Frame.build .authInfo requestId listSlot 0 0 []).hasEmptyObject = true := by
    unfold Frame.hasEmptyObject
    rw [Frame.payloadLength_build _ _ _ _ _ _ (by decide),
      Frame.offset_build _ _ _ _ _ _ (by decide), Frame.totalLength_build _ _ _ _ _ _ (by decide)]
    rfl
  generalize Frame.build .authInfo requestId listSlot 0 0 [] = request at passed slot empty
  have info := AuthCore.getInfo_protected (env.clock .operation) state
  have head := head_of_carries valid.length (stagedCredential_carries valid.length)
  generalize looked : (AuthCore.getInfo (env.clock .operation)
    (syncAuthState cfg env id w).auth).1 = found at info
  have unlocked : found.state ≠ .stateErrorLocked := by
    rw [info]
    simp
  rw [← looked] at unlocked
  have answered : (processFrame cfg hmac env id request w).1 =
      (((Frame.initResponse (some request)).putPayload (authInfoPayload found)).putPayloadLength
        authInfoLength).setSuccess 0 authInfoLength := by
    rw [← looked]
    simp only [processFrame, passed, dispatch, processAuthInfo]
    rw [if_neg (by simp [slot, empty]), if_neg unlocked]
  have payload : ∃ flags, authInfoPayload found = flags :: 1 :: object.take 20 := by
    rw [info, credential]
    unfold authInfoPayload
    dsimp only
    rw [List.append_assoc, head]
    exact ⟨_, rfl⟩
  obtain ⟨flags, payload⟩ := payload
  have sized : (flags :: 1 :: object.take 20).length = 22 := by
    have length := valid.length
    simp only [List.length_cons, List.length_take]
    omega
  rw [answered, payload]
  refine ⟨Frame.status_setSuccess .., flags, ?_⟩
  rw [Frame.payload, Frame.drop_setSuccess, Frame.drop_putPayloadLength,
    Frame.drop_putPayload _ _ (Nat.le_of_eq sized)]
  exact List.take_left' sized

/-! ## Records of a load -/

/-- No way out of a load returns an error of zero. -/
theorem settingsSetRead_error {duplicate : Bool} {length : Nat} {readCb : Option SettingsReadCb}
    {err : Int} (read : AuthCore.settingsSetRead duplicate length readCb = .error err) :
    err ≠ 0 := by
  unfold AuthCore.settingsSetRead at read
  split at read
  · cases read
    decide
  split at read
  · cases read
    decide
  dsimp only at read
  split at read
  next negative =>
    cases read
    omega
  split at read
  · cases read
    decide
  split at read
  · cases read
  · cases read
    decide

/-- A load that accepts a record of the full length has the credential it
serialises: parsing and writing are inverse on 53 bytes of the right
version. -/
theorem settingsSet_record {name : Option Name} {length : Nat} {readCb : Option SettingsReadCb}
    {core core' : AuthCore.State}
    (accepted : AuthCore.settingsSet name length readCb core = (0, core')) :
    ∃ read record, readCb = some read ∧ read 53 = (53, record) ∧
      (record.length = 53 → AuthCore.serializeCredential core'.credential = record) := by
  rcases AuthCore.settingsSet_cases accepted with
    ⟨_, failed, _⟩ | ⟨matching, err, read, _⟩ | ⟨_, _, credential, read, left⟩
  · cases failed
  · have refused := congrArg Prod.fst accepted
    have duplicate : (AuthCore.settingsSetMark core).1 = core.settingsSeen := rfl
    simp only [AuthCore.settingsSet, matching, duplicate, read] at refused
    exact absurd refused (settingsSetRead_error read)
  · have first : core.settingsSeen = false := by
      by_contra seen
      rw [Bool.not_eq_false] at seen
      rw [seen] at read
      exact AuthCore.settingsSetRead_duplicate _ _ _ read
    rw [first] at read
    have delivers := (@Loading.settingsSetRead_ok ⟨name, length, readCb⟩ _).mp read
    obtain ⟨readCb, record, given, answered, version, same⟩ := delivers.read
    refine ⟨readCb, record, given, answered, fun whole => ?_⟩
    have loaded : core'.credential = AuthCore.deserializeCredential record := by
      rw [left, same]
      simp
    rw [loaded]
    exact AuthCore.serialize_deserialize record whole version

/-- The last frame is answered OK, and a load that hands out what is stored
then restores the object. -/
def StoresObject (cfg : Config) (hmac : Hmac) (exchanges : List Exchange) (w : World)
    (object : List UInt8) : Prop :=
  (∃ last, exchanges.getLast? = some last ∧ last.accepted = true) ∧
  ∃ stored, w.settings.values AuthCore.settingPath = some stored ∧
    ∀ callbacks callback, Loading.entries callbacks = [callback] → HandsOut callback stored →
      Restored cfg hmac (Loading.load callbacks) object

/-- The credential codec from the frames to the record and back: PASSWORD_SET
stores what its upload carried; every split of a valid object is accepted, and
a load gives the object back; and an accepted record is the one its credential
serialises to. -/
theorem credential_codec (cfg : Config) (hmac : Hmac) :
    (∀ start past w exchange w', (∀ id, (start.contexts id).passwordSetActive = false) →
      Run (FrameStep cfg hmac) start past w → FrameStep cfg hmac w exchange w' →
      exchange.opcode = some .passwordSet → StoresUpload past w exchange w') ∧
    (∀ object chunks requestId id start exchanges final, ValidObject object →
      chunks.flatten = object → (∀ chunk ∈ chunks, 1 ≤ chunk.length ∧ chunk.length ≤ 22) →
      Run (ReadyStep cfg hmac) start exchanges final →
      (∀ exchange ∈ exchanges, exchange.id = id) →
      exchanges.map Exchange.request = requests requestId 0 chunks →
      StoresObject cfg hmac exchanges final object) ∧
    (∀ name length readCb core core',
      AuthCore.settingsSet name length readCb core = (0, core') →
      ∃ read record, readCb = some read ∧ read 53 = (53, record) ∧
        (record.length = 53 → AuthCore.serializeCredential core'.credential = record)) := by
  refine ⟨fun start past w exchange w' fresh run step isPasswordSet =>
    passwordSet_stores fresh run step isPasswordSet, ?_, ?_⟩
  · intro object chunks requestId id start exchanges final valid split sized run context sent
    have parts : ∀ chunk ∈ chunks, chunk ≠ [] ∧ chunk.length ≤ payloadSize := by
      intro chunk member
      obtain ⟨positive, small⟩ := sized chunk member
      exact ⟨List.length_pos_iff.mp positive, small⟩
    have empty : Meets requestId [] start id := Or.inl rfl
    obtain ⟨answered, stored⟩ := chunks_run empty run context sent parts split
      valid.length valid.credentialIsValid (by decide)
    refine ⟨answered, _, stored, fun callbacks callback alone handed => ?_⟩
    have delivers := handed.delivers valid
    obtain ⟨state, credential⟩ : (Loading.load callbacks).state = .stateProtected ∧
        (Loading.load callbacks).credential = stagedCredential object := by
      rcases Loading.load_cases callbacks with
        ⟨none, _⟩ | ⟨other, credential, one, delivered, state, same⟩ | ⟨_, refused, _⟩
      · cases none.symm.trans alone
      · cases one.symm.trans alone
        exact ⟨state, same.trans (delivered.unique delivers)⟩
      · exact absurd delivers (refused callback _ alone)
    constructor
    · exact state
    · rw [credential]
      exact stagedCredential_carries valid.length
    · intro env id requestId w loaded
      apply authInfo_reports cfg hmac env id requestId valid
      · rw [loaded]
        exact state
      · rw [loaded]
        exact credential
  · exact fun _ _ _ _ _ accepted => settingsSet_record accepted

/-! ## An object in chunks of 22, 22 and 8 bytes -/

def sampleObject : List UInt8 :=
  [0xC0, 0x27, 0x09, 0x00] ++ List.replicate 16 7 ++ List.replicate 32 9

/-- The 52 bytes in chunks of 22, 22 and 8. -/
def sampleChunks : List (List UInt8) :=
  [sampleObject.take 22, (sampleObject.drop 22).take 22, sampleObject.drop 44]

/-- The worlds the requests lead through, the clock standing still. -/
def sampleAfter (w : World) (request : Frame) : World :=
  (processFrame .default AuthCore.sampleHmac (.still 0) 0 request w).2

def sampleExchange (w : World) (request : Frame) : Exchange :=
  exchangeOf .default AuthCore.sampleHmac 0 (.still 0) request w

def sampleRequest (offset : Nat) (chunk : List UInt8) : Frame :=
  .build .passwordSet 7 listSlot offset passwordSetLength chunk

def sampleFirst : Frame := sampleRequest 0 (sampleObject.take 22)
def sampleSecond : Frame := sampleRequest 22 ((sampleObject.drop 22).take 22)
def sampleThird : Frame := sampleRequest 44 (sampleObject.drop 44)

def sampleStart : World := .boot .default .empty
def sampleMiddle : World := sampleAfter sampleStart sampleFirst
def sampleLate : World := sampleAfter sampleMiddle sampleSecond

theorem sample_step {w : World} (request : Frame) (unprotected : w.auth.state = .stateOpen) :
    ReadyStep .default AuthCore.sampleHmac w (sampleExchange w request) (sampleAfter w request) :=
  ⟨Or.inl unprotected, rfl, exchangeOf_step ..⟩

/-- Three frames carry the object to an open device, and the record in storage
is the one it stands for. -/
theorem credential_codec_sample :
    StoresObject .default AuthCore.sampleHmac
      [sampleExchange sampleStart sampleFirst, sampleExchange sampleMiddle sampleSecond,
        sampleExchange sampleLate sampleThird] (sampleAfter sampleLate sampleThird)
      sampleObject := by
  have run : Run (ReadyStep .default AuthCore.sampleHmac) sampleStart
      [sampleExchange sampleStart sampleFirst, sampleExchange sampleMiddle sampleSecond,
        sampleExchange sampleLate sampleThird] (sampleAfter sampleLate sampleThird) :=
    Run.cons (sample_step sampleFirst (by decide +kernel))
      (Run.cons (sample_step sampleSecond (by decide +kernel))
        (Run.single (sample_step sampleThird (by decide +kernel))))
  have valid : ValidObject sampleObject := by
    constructor
    · decide
    · decide
    · decide
    · decide
  exact (credential_codec .default AuthCore.sampleHmac).2.1 sampleObject sampleChunks 7 0 _ _ _
    valid (by decide) (by decide) run (by simp [sampleExchange, exchangeOf]) rfl

end RuntimeMacro.Guarantees.CredentialCodec
