import RuntimeMacro.Source.Answers
import RuntimeMacro.Source.Client

/-!
# The client's calls against the firmware's answers

tools/runtime_macro_cli.py:629-673. Rules for the steps a client method is made
of. The rule of `_call` takes the answers of a frame in the two forms the
firmware gives them.
-/
namespace RuntimeMacro.Source.RuntimeMacroClient
open Foundations.Checks Foundations.Dialogues Foundations.Dialogues.Procedure
open Protocol (okFrame errorFrame pageOf length_pageOf pageOf_append_drop)

variable {σ α : Type} {partner : Partner σ Frame Answer} {request response : Frame}
  {raised : ClientError → UInt8 → σ → Prop} {next : UInt8} {s : σ} {status : Status}
  {data : List UInt8} {offset total : Nat}

/-! ## Pure steps -/

@[simp] theorem meets_fromExcept_ok {wanted : α → UInt8 → σ → Prop} (value : α) :
    (fromExcept (.ok value) : Client α).Meets partner wanted raised next s ↔
      wanted value next s := Iff.rfl

@[simp] theorem meets_fromExcept_error {wanted : α → UInt8 → σ → Prop} (error : ClientError) :
    (fromExcept (.error error) : Client α).Meets partner wanted raised next s ↔
      raised error next s := Iff.rfl

theorem meets_fromExcept_of {wanted : α → UInt8 → σ → Prop} {result : Except ClientError α}
    (returned : ∀ value, result = .ok value → wanted value next s)
    (failed : ∀ error, result = .error error → raised error next s) :
    (fromExcept result).Meets partner wanted raised next s := by
  cases result with
  | ok value => exact returned value rfl
  | error error => exact failed error rfl

theorem meets_require {wanted : Unit → UInt8 → σ → Prop} {checks : List (Bool × ClientError)}
    (passed : firstFailure checks = none) :
    (require checks).Meets partner wanted raised next s ↔ wanted () next s := by
  rw [require, passed]
  exact Iff.rfl

/-- Whether the checks pass or not. -/
theorem meets_require_of {wanted : Unit → UInt8 → σ → Prop} {checks : List (Bool × ClientError)}
    (passed : wanted () next s) (failed : ∀ error, raised error next s) :
    (require checks).Meets partner wanted raised next s := by
  unfold require
  split
  next error _ => exact failed error
  · exact passed

/-- Whether the checks pass or not, when they raise protocol errors only. -/
theorem meets_require_protocol {wanted : Unit → UInt8 → σ → Prop}
    {checks : List (Bool × ClientError)}
    (protocol : ∀ error ∈ checks.map Prod.snd, error.isProtocol = true) (passed : wanted () next s)
    (failed : ∀ error, error.isProtocol = true → raised error next s) :
    (require checks).Meets partner wanted raised next s := by
  unfold require
  split
  next error refused => exact failed error (protocol error (firstFailure_mem refused))
  · exact passed

@[simp] theorem meets_requestId {wanted : UInt8 → UInt8 → σ → Prop} :
    requestId.Meets partner wanted raised next s ↔ wanted next (next + 1) s := by
  simp only [requestId, meets_bind, meets_get, meets_set, meets_pure]

theorem buildFrame_ok (opcode : Opcode) (id : UInt8) {slot : Nat} (small : slot ≤ 0xFF)
    (sized : data.length ≤ payloadSize) (placed : offset ≤ 0xFFFF) (fits : total ≤ 0xFFFF) :
    buildFrame opcode id slot data offset total =
      .ok (Frame.build opcode id (UInt8.ofNat slot) offset total data) := by
  rw [buildFrame, if_neg (by omega), if_neg (by omega), if_neg (by omega)]

theorem buildFrame_cases (opcode : Opcode) (id : UInt8) (slot : Nat) (data : List UInt8)
    (offset total : Nat) :
    (∃ message, buildFrame opcode id slot data offset total = .error (.valueError message)) ∨
    (slot ≤ 0xFF ∧ data.length ≤ payloadSize ∧ offset ≤ 0xFFFF ∧ total ≤ 0xFFFF ∧
      buildFrame opcode id slot data offset total =
        .ok (Frame.build opcode id (UInt8.ofNat slot) offset total data)) := by
  unfold buildFrame
  split
  · exact Or.inl ⟨_, rfl⟩
  split
  · exact Or.inl ⟨_, rfl⟩
  split
  · exact Or.inl ⟨_, rfl⟩
  · exact Or.inr ⟨by omega, by omega, by omega, by omega, rfl⟩

/-! ## What the client makes of an answer -/

/-- The exception for an error status. -/
def ofStatus (status : Status) : ClientError :=
  if status = .badVersion then .legacyFirmwareError else .remoteError status.code

@[simp] theorem status_ofStatus (status : Status) :
    (ofStatus status).status = some status.code := by
  unfold ofStatus
  split
  next legacy =>
    rw [legacy]
    rfl
  · rfl

theorem isTransport_ofStatus (status : Status) : (ofStatus status).isTransport = false := by
  unfold ofStatus
  split
  · rfl
  · rfl

/-- The header and the padding of a firmware answer pass. -/
theorem responseChecks_none (echoes : Protocol.Echoes request response)
    (known : statusCodes.contains response.status = true)
    (sized : response.payloadLength ≤ payloadSize)
    (padded : response.payloadTailIsZero response.payloadLength = true) :
    firstFailure (responseChecks response request) = none := by
  simp only [responseChecks, firstFailure_cons_eq_none, decide_eq_false_iff_not, not_not,
    firstFailure_nil, and_true, Bool.not_eq_false', known, padded]
  exact ⟨echoes.version, echoes.opcode, echoes.requestId, echoes.slot, trivial,
    Nat.not_lt.mpr sized⟩

theorem statusCodes_contains (status : Status) : statusCodes.contains status.code = true := by
  cases status <;> decide

theorem validateResponse_error (bad : status ≠ .ok) :
    validateResponse (errorFrame request status) request = .error (.remoteError status.code) := by
  have empty := Protocol.payloadLength_errorFrame request status
  have passed := responseChecks_none (@Protocol.errorFrame_echoes request status)
    (by rw [Protocol.status_errorFrame]; exact statusCodes_contains status)
    (by rw [empty]; decide)
    (by rw [empty]; exact Protocol.payloadTailIsZero_errorFrame request status)
  have refused : (errorFrame request status).status ≠ Status.ok.code := by
    rw [Protocol.status_errorFrame, ne_eq, Status.code_inj]
    exact bad
  have plain : ¬ ((errorFrame request status).payloadLength ≠ 0 ∨
      (errorFrame request status).offset ≠ 0 ∨ (errorFrame request status).totalLength ≠ 0) := by
    rw [empty, Protocol.offset_errorFrame, Protocol.totalLength_errorFrame]
    simp
  rw [validateResponse, passed]
  dsimp only
  rw [if_pos refused, if_neg plain, Protocol.status_errorFrame]

theorem validateResponse_ok (sized : data.length ≤ payloadSize) :
    validateResponse (okFrame request data offset total) request = .ok data.length := by
  have length := Protocol.payloadLength_okFrame request data offset total sized
  have passed := responseChecks_none (@Protocol.okFrame_echoes request data offset total)
    (by rw [Protocol.status_okFrame]; exact statusCodes_contains .ok)
    (by rw [length]; exact sized)
    (by rw [length]; exact Protocol.payloadTailIsZero_okFrame request data offset total sized)
  rw [validateResponse, passed]
  dsimp only
  rw [if_neg (by simp), length]

theorem meets_exchange {wanted : Frame → UInt8 → σ → Prop} :
    (exchange request).Meets partner wanted raised next s ↔ partner.allows s request ∧
      ∀ answer s', partner.answers s request answer s' →
        match answer with
        | .ok response => wanted response next s'
        | .error fault => raised (.transportError fault) next s' := by
  rw [exchange, meets_bind, meets_ask]
  constructor
  · rintro ⟨allowed, answered⟩
    refine ⟨allowed, fun answer s' taken => ?_⟩
    have holds := answered answer s' taken
    cases answer with
    | ok response => exact holds
    | error fault => exact holds
  · rintro ⟨allowed, answered⟩
    refine ⟨allowed, fun answer s' taken => ?_⟩
    have holds := answered answer s' taken
    cases answer with
    | ok response => exact holds
    | error fault => exact holds

/-- The rule of `_call` for a partner that answers in the firmware's two
forms. -/
theorem meets_call {wanted : Frame → UInt8 → σ → Prop} (allowed : partner.allows s request)
    (lost : ∀ fault s', partner.answers s request (.error fault) s' →
      raised (.transportError fault) next s')
    (heard : ∀ response s', partner.answers s request (.ok response) s' →
      (∃ status, status ≠ .ok ∧ response = errorFrame request status ∧
        raised (ofStatus status) next s') ∨
      ∃ data offset total, data.length ≤ payloadSize ∧
        response = okFrame request data offset total ∧ wanted response next s') :
    (call request).Meets partner wanted raised next s := by
  rw [call, meets_bind, meets_exchange]
  refine ⟨allowed, fun answer s' taken => ?_⟩
  cases answer with
  | error fault => exact lost fault s' taken
  | ok response =>
    rcases heard response s' taken with
      ⟨status, bad, rfl, failed⟩ | ⟨data, offset, total, sized, rfl, holds⟩
    · dsimp only
      rw [validateResponse_error bad]
      have same : (if ClientError.remoteError status.code =
          .remoteError Status.badVersion.code then ClientError.legacyFirmwareError
          else .remoteError status.code) = ofStatus status := by
        simp only [ClientError.remoteError.injEq, Status.code_inj, ofStatus]
      simp only [same, meets_throw]
      exact failed
    · dsimp only
      rw [validateResponse_ok sized]
      exact holds

/-- Calls that never end with a transport fault are made once. -/
theorem meets_retryCall {procedure : Client α} {wanted : α → UInt8 → σ → Prop} (retries : Nat)
    (once : procedure.Meets partner wanted raised next s)
    (final : ∀ error next' s', raised error next' s' → error.isTransport = false) :
    (retryCall retries procedure).Meets partner wanted raised next s := by
  apply meets_attempts fun next' s' => next' = next ∧ s' = s
  · intro next' s' same
    rw [same.1, same.2]
    apply once.mono fun _ _ _ holds => holds
    intro error next'' s'' failed
    refine ⟨failed, fun again => ?_⟩
    rw [final error next'' s'' failed] at again
    cases again
  · exact ⟨rfl, rfl⟩

theorem meets_validateEmptyAck {wanted : Unit → UInt8 → σ → Prop} (operation : String) :
    (validateEmptyAck (okFrame request [] 0 0) operation).Meets partner wanted raised next s ↔
      wanted () next s := by
  apply meets_require
  have length := Protocol.payloadLength_okFrame request [] 0 0 (by simp)
  have placed := Protocol.offset_okFrame request [] 0 0 (by decide)
  have fits := Protocol.totalLength_okFrame request [] 0 0 (by decide)
  simp [length, placed, fits]

theorem meets_validateChunkAck {wanted : Unit → UInt8 → σ → Prop} (operation : String)
    (placed : offset < 65536) (fits : total < 65536) :
    (validateChunkAck (okFrame request [] offset total) operation offset total).Meets partner
      wanted raised next s ↔ wanted () next s := by
  apply meets_require
  have length := Protocol.payloadLength_okFrame request [] offset total (by simp)
  simp [length, Protocol.offset_okFrame request [] offset total placed,
    Protocol.totalLength_okFrame request [] offset total fits]

/-! ## Chunks -/

theorem slice_chunk (data : List UInt8) (offset : Nat) :
    slice data offset (offset + payloadSize) = (data.drop offset).take payloadSize := by
  rw [slice, Nat.add_sub_cancel_left]

/-- Loop rule for the chunks of an object: `sent` bytes before an iteration,
the chunk more after it. -/
theorem meets_chunks {body : Nat → Client Unit} (length : Nat) (Inv : Nat → UInt8 → σ → Prop)
    (each : ∀ sent next s, sent < length → Inv sent next s → (body sent).Meets partner
      (fun _ next' s' => Inv (min (sent + payloadSize) length) next' s') raised next s)
    (initially : Inv 0 next s) :
    ((chunkOffsets length).forM body).Meets partner (fun _ next' s' => Inv length next' s') raised
      next s := by
  have last : min (payloadSize * ((length + 21) / payloadSize)) length = length := by
    unfold payloadSize
    omega
  have whole : ((List.range' 0 ((length + 21) / payloadSize) payloadSize).forM body).Meets partner
      (fun _ next' s' => Inv (min (payloadSize * ((length + 21) / payloadSize)) length) next' s')
      raised next s := by
    apply meets_forM_range fun index next s => Inv (min (payloadSize * index) length) next s
    · intro index below vars s' holds
      have inside : payloadSize * index < length := by
        unfold payloadSize at below ⊢
        omega
      rw [Nat.min_eq_left (by omega)] at holds
      rw [Nat.zero_add, Nat.mul_succ]
      exact each _ vars s' inside holds
    · rw [Nat.mul_zero, Nat.zero_min]
      exact initially
  rw [last] at whole
  exact whole

/-! ## Dynamic texts -/

theorem validateDynamicInput_ok {ttlSeconds : Option Nat} {checked : List UInt8}
    (passed : validateDynamicInput data ttlSeconds = .ok checked) :
    checked = data ∧ data.length ≠ 0 ∧ data.length ≤ dynamicMaxLength ∧
      ∀ seconds, ttlSeconds = some seconds →
        dynamicMinTtlSeconds ≤ seconds ∧ seconds ≤ dynamicMaxTtlSeconds := by
  unfold validateDynamicInput at passed
  split at passed
  · cases passed
  next sized =>
  split at passed
  · cases passed
  split at passed
  · cases passed
  next bounded =>
    cases passed
    refine ⟨rfl, by omega, by omega, ?_⟩
    rintro seconds rfl
    simpa using bounded

theorem ttlPayload_sized (ttlSeconds : Option Nat) (keepAfterExecute : Bool) :
    (ttlPayload ttlSeconds keepAfterExecute).length ≤ payloadSize := by
  unfold ttlPayload payloadSize
  cases ttlSeconds <;> cases keepAfterExecute <;> simp

/-! ## Pages -/

section Pages
variable {opcode : Opcode} {name : String} {slot retries : Nat} {object : List UInt8}
  {previous : Option Nat}

/-- The next page of an object is taken. -/
theorem meets_page {Inv : UInt8 → σ → Prop} (small : object.length < 65536)
    (inside : offset ≤ object.length) (known : ∀ total ∈ previous, total = object.length)
    (called : (callWithTimeoutRetry retries fun id => buildFrame opcode id slot [] offset 0).Meets
      partner (fun response next' s' => Inv next' s' ∧ ∃ request,
        response = okFrame request (pageOf object offset) offset object.length) raised next s) :
    (page retries opcode name slot previous offset).Meets partner
      (fun found next' s' => Inv next' s' ∧ found.total = object.length ∧
        found.bytes = pageOf object offset) raised next s := by
  have length := length_pageOf object offset
  have sized : (pageOf object offset).length ≤ payloadSize := by omega
  unfold page
  rw [meets_bind]
  apply called.mono _ fun _ _ _ failed => failed
  rintro response next' s' ⟨holds, request, shape⟩
  have place : response.offset = offset := by
    rw [shape]
    exact Protocol.offset_okFrame _ _ _ _ (by omega)
  have total : response.totalLength = object.length := by
    rw [shape]
    exact Protocol.totalLength_okFrame _ _ _ _ small
  have carried : response.payloadLength = (pageOf object offset).length := by
    rw [shape]
    exact Protocol.payloadLength_okFrame _ _ _ _ sized
  have bytes : response.payload response.payloadLength = pageOf object offset := by
    rw [carried, shape]
    exact Protocol.payload_okFrame _ _ _ _ sized
  have passes : firstFailure (pageChecks name previous offset response) = none := by
    simp only [pageChecks, firstFailure_cons_eq_none, firstFailure_nil, place, total, carried,
      length, decide_eq_false_iff_not, and_true]
    refine ⟨by simp, ?_, by omega, ?_⟩
    · cases previous with
      | none => rfl
      | some earlier => simp [known earlier rfl]
    · unfold payloadSize
      omega
  split
  next error failed => cases failed.symm.trans passes
  next passed => exact ⟨holds, total, bytes⟩

/-- The pages from an offset on are the rest of the object; the invariant may
speak of the next id. -/
theorem meets_numberedPages {Inv : UInt8 → σ → Prop} (small : object.length < 65536)
    (each : ∀ offset next s, offset ≤ object.length → Inv next s →
      (callWithTimeoutRetry retries fun id => buildFrame opcode id slot [] offset 0).Meets partner
        (fun response next' s' => Inv next' s' ∧ ∃ request,
          response = okFrame request (pageOf object offset) offset object.length) raised next s)
    (known : ∀ total ∈ previous, total = object.length) (inside : offset ≤ object.length)
    (front : List UInt8) (initially : Inv next s) :
    (pages retries opcode name slot previous offset front).Meets partner
      (fun found next' s' => Inv next' s' ∧ found = (object.length, front ++ object.drop offset))
      raised next s := by
  induction rest : object.length - offset using Nat.strong_induction_on
    generalizing previous offset front next s with
  | h left ih =>
  have length := length_pageOf object offset
  have further := pageOf_append_drop object offset
  rw [pages, meets_bind]
  apply (meets_page small inside known (each offset next s inside initially)).mono _
    fun _ _ _ failed => failed
  rintro found next' s' ⟨holds, total, bytes⟩
  dsimp only
  rw [total, bytes]
  split
  next more =>
    have less : object.length - (offset + (pageOf object offset).length) < left := by
      unfold payloadSize at length
      omega
    have known' : ∀ total ∈ some object.length, total = object.length := by simp
    have inside' : offset + (pageOf object offset).length ≤ object.length := by omega
    have step := @ih _ less next' s' _ _ known' inside' (front ++ pageOf object offset) holds rfl
    rw [List.append_assoc, further] at step
    exact step
  next ended =>
    refine ⟨holds, ?_⟩
    have nothing : object.drop (offset + (pageOf object offset).length) = [] :=
      List.drop_eq_nil_of_le (by omega)
    rw [nothing, List.append_nil] at further
    rw [further]

theorem meets_pages {Inv : σ → Prop} (small : object.length < 65536)
    (each : ∀ offset next s, offset ≤ object.length → Inv s →
      (callWithTimeoutRetry retries fun id => buildFrame opcode id slot [] offset 0).Meets partner
        (fun response _ s' => Inv s' ∧ ∃ request,
          response = okFrame request (pageOf object offset) offset object.length) raised next s)
    (known : ∀ total ∈ previous, total = object.length) (inside : offset ≤ object.length)
    (front : List UInt8) (initially : Inv s) :
    (pages retries opcode name slot previous offset front).Meets partner
      (fun found _ s' => Inv s' ∧ found = (object.length, front ++ object.drop offset)) raised
      next s :=
  meets_numberedPages small each known inside front initially

end Pages

end RuntimeMacro.Source.RuntimeMacroClient
