import RuntimeMacro.Guarantees.AgreedCalls
import RuntimeMacro.Guarantees.PasswordOverLoss

/-!
# The wire contract of the client and the firmware

tools/runtime_macro_cli.py:466-490,629-1244;
runtime_macro_protocol.c:1288-1425. Every call of the client whose own checks
have passed, against every reachable state of the firmware on a direct link,
with any clocks, storage errors and random numbers. No answer is a protocol
error to the client. A call returns, or raises the status of the last answer;
only `authenticate` and `set_password` raise a status of their own, from the
parameters they have read.
-/
namespace RuntimeMacro.Guarantees.WireAgreement
open Source Source.Protocol Source.RuntimeMacroClient Foundations.Checks
open Foundations.LittleEndian
open Foundations.Dialogues Foundations.Dialogues.Dialogue Foundations.Dialogues.Procedure
open PasswordChunks AgreedCalls
open PasswordOverLoss (sampleHost sampleSalt)
open AuthCore (Credential Hmac)

variable {cfg : Config} {hmac : Hmac} {id : ContextId} {permits : Env → Prop} {excuses : Excuses}
  {t : Station × Talk} {next : UInt8} {slot : Nat} {w : World}

/-! ## Static macros -/

theorem meets_listSlots (retries : Nat) (agreeing : Agreeing cfg t) :
    (listSlots retries).Meets (link cfg hmac id permits) (fun _ _ t' => Agreeing cfg t')
      (fun error _ t' => Raises cfg excuses error t') next t := by
  have sized := agreeing.sound.sized
  have small := (@Reads.list cfg t.1.world.slots).small sized
  have steady : Steady cfg t.1.world.slots t := ⟨agreeing, rfl⟩
  unfold listSlots
  rw [meets_bind]
  apply (meets_pages small.1 _ (by simp) (Nat.zero_le _) [] steady).mono _
    fun _ _ _ raises => raises
  · intro place next t' inside steady
    apply meets_pageCall (Or.inl rfl) _ (by decide) (by omega) retries steady
    intro env w request data offset total same _ carried
    rw [← same]
    exact carries_list carried
  · rintro found next' t' ⟨steady, rfl⟩
    dsimp only
    rw [List.nil_append, List.drop_zero, decodeSlots_listObject (length_le_of_sized sized),
      meets_fromExcept_ok]
    exact steady.agreeing

theorem meets_getSlot (retries : Nat) (small : slot ≤ 0xFE) (agreeing : Agreeing cfg t) :
    (getSlot retries slot).Meets (link cfg hmac id permits) (fun _ _ t' => Agreeing cfg t')
      (fun error _ t' => Raises cfg excuses error t') next t := by
  have ranged : validateSlot slot = .ok () := if_pos small
  have sized := agreeing.sound.sized
  have length := textOf_length sized slot
  have fits := (sized slot).2
  have range := cfg.maxTextLen_range.2
  have steady : Steady cfg t.1.world.slots t := ⟨agreeing, rfl⟩
  unfold getSlot
  rw [meets_bind, ranged, meets_fromExcept_ok, meets_bind]
  apply (meets_pages (by omega : (SlotStore.textOf t.1.world.slots slot).length < 65536) _ (by simp)
    (Nat.zero_le _) [] steady).mono _ fun _ _ _ raises => raises
  · intro place next t' inside steady
    apply meets_pageCall (Or.inr rfl) _ (by omega) (by omega) retries steady
    intro env w request data offset total same aimed carried
    have found := carries_get carried
    have asked : request.slot.toNat = slot := by
      rw [aimed, UInt8.toNat_ofNat']
      omega
    rw [asked, same] at found
    exact found
  · rintro found next' t' ⟨steady, rfl⟩
    dsimp only
    rw [List.nil_append, List.drop_zero, decodeText_textOf agreeing.sound.spelled,
      meets_fromExcept_ok]
    exact steady.agreeing

theorem meets_setSlot {text : List UInt8} (retries : Nat) (small : slot ≤ 0xFE)
    (alphabet : validateAscii text = .ok ()) (fits : text.length ≤ 0xFFFF)
    (agreeing : Agreeing cfg t) :
    (setSlot retries slot text).Meets (link cfg hmac id permits) (fun _ _ t' => Agreeing cfg t')
      (fun error _ t' => Raises cfg excuses error t') next t := by
  have ranged : validateSlot slot = .ok () := if_pos small
  have each : ∀ requestId sent next t, sent ≤ text.length → Agreeing cfg t →
      (setChunk slot text requestId sent).Meets (link cfg hmac id permits)
        (fun _ _ t' => Agreeing cfg t') (fun error _ t' => Raises cfg excuses error t') next t := by
    intro requestId sent next t inside agreeing
    have chunked : ∀ env w request data offset total,
        Carries cfg env w request .set data offset total → data = [] ∧
          offset = request.offset + request.payloadLength ∧ total = request.totalLength :=
      fun _ _ _ _ _ _ carried => ⟨carried.1, carried.2.1, carried.2.2.2⟩
    exact meets_chunk chunked (by omega) (by omega) inside "SET" agreeing
  unfold setSlot
  simp only [meets_bind, ranged, alphabet, meets_fromExcept_ok]
  apply meets_attempts fun _ t => Agreeing cfg t
  · intro next t agreeing
    rw [meets_bind, meets_requestId]
    unfold setOnce
    by_cases empty : text.length = 0
    · rw [if_pos empty]
      have single : [0].forM (setChunk slot text next) =
          (setChunk slot text next 0 >>= fun _ => pure ()) := rfl
      rw [single, meets_bind]
      apply (each next 0 (next + 1) t (Nat.zero_le _) agreeing).mono
      · exact fun _ _ _ agreeing => agreeing
      · exact fun _ _ _ raises => ⟨raises, fun _ => raises.agreeing⟩
    · rw [if_neg empty]
      apply meets_chunks text.length fun _ _ t => Agreeing cfg t
      · intro sent next' t' before agreeing
        apply (each next sent next' t' (by omega) agreeing).mono
        · exact fun _ _ _ agreeing => agreeing
        · exact fun _ _ _ raises => ⟨raises, fun _ => raises.agreeing⟩
      · exact agreeing
  · exact agreeing

theorem meets_clearSlot (retries : Nat) (small : slot ≤ 0xFE) (agreeing : Agreeing cfg t) :
    (clearSlot retries slot).Meets (link cfg hmac id permits) (fun _ _ t' => Agreeing cfg t')
      (fun error _ t' => Raises cfg excuses error t') next t := by
  have ranged : validateSlot slot = .ok () := if_pos small
  unfold clearSlot
  rw [meets_bind, ranged, meets_fromExcept_ok]
  apply meets_retryCall retries
  · exact meets_plain "CLEAR" (fun _ _ _ _ _ _ bare => bare) (by omega) (by simp) (by decide)
      agreeing
  · exact fun error _ _ raises => raises.isTransport

theorem meets_lock (retries : Nat) (agreeing : Agreeing cfg t) :
    (lock retries).Meets (link cfg hmac id permits) (fun _ _ t' => Agreeing cfg t')
      (fun error _ t' => Raises cfg excuses error t') next t := by
  apply meets_retryCall retries
  · exact meets_plain "LOCK" (fun _ _ _ _ _ _ bare => bare) (by decide) (by simp) (by decide)
      agreeing
  · exact fun error _ _ raises => raises.isTransport

/-! ## Dynamic macros -/

/-- What the firmware reports of itself. -/
structure Supported (cfg : Config) (capabilities : DynamicCapabilities) : Prop where
  count : capabilities.dynamicObjectCount = cfg.dynamicSlotCount
  length : capabilities.maxDynamicLength = RuntimeMacroClient.dynamicMaxLength
  least : capabilities.minTtlSeconds = RuntimeMacroClient.dynamicMinTtlSeconds
  most : capabilities.maxTtlSeconds = RuntimeMacroClient.dynamicMaxTtlSeconds
  keeps : capabilities.supportsKeepAfterExecute = true

theorem decodeCapabilities_payload (cfg : Config) :
    decodeCapabilities (capabilityPayload cfg) =
      ⟨2, cfg.dynamicSlotCount, dynamicLifecycleFlags cfg, 512, 300, 1, 86400, 30⟩ := by
  have range := cfg.dynamicSlotCount_range
  have count : (UInt8.ofNat cfg.dynamicSlotCount).toNat = cfg.dynamicSlotCount := by
    rw [UInt8.toNat_ofNat']
    omega
  have flags : leValue (slice (capabilityPayload cfg) 2 4) = dynamicLifecycleFlags cfg := by
    have bytes : slice (capabilityPayload cfg) 2 4 =
        [UInt8.ofNat (dynamicLifecycleFlags cfg), UInt8.ofNat (dynamicLifecycleFlags cfg >>> 8)] :=
      rfl
    rw [bytes]
    unfold dynamicLifecycleFlags
    cases cfg.dynamicClearOnUsbDisconnect <;> cases cfg.dynamicClearOnBleProfileChange <;>
      cases cfg.dynamicClearOnEndpointChange <;> decide
  unfold decodeCapabilities
  rw [flags]
  congr 1

/-- The client accepts what any build reports. -/
theorem capabilities_accepted (cfg : Config) :
    firstFailure (capabilityChecks (decodeCapabilities (capabilityPayload cfg))) = none ∧
      Supported cfg (decodeCapabilities (capabilityPayload cfg)) := by
  have range := cfg.dynamicSlotCount_range
  have flags : dynamicLifecycleFlags cfg &&& (0xFFFF - dynamicLifecycleKnownMask) = 0 ∧
      dynamicLifecycleFlags cfg &&& dynamicLifecycleRequiredMask = dynamicLifecycleRequiredMask ∧
      (dynamicLifecycleFlags cfg &&& dynamicLifecycleSupportsKeep != 0) = true := by
    unfold dynamicLifecycleFlags
    cases cfg.dynamicClearOnUsbDisconnect <;> cases cfg.dynamicClearOnBleProfileChange <;>
      cases cfg.dynamicClearOnEndpointChange <;> decide
  obtain ⟨known, required, keeps⟩ := flags
  rw [decodeCapabilities_payload]
  constructor
  · have count : ¬ (cfg.dynamicSlotCount < dynamicObjectCountMin ∨
        cfg.dynamicSlotCount > dynamicObjectCountMax) := by
      unfold dynamicObjectCountMin dynamicObjectCountMax
      omega
    simp only [capabilityChecks, firstFailure_cons_eq_none, fieldCheck, firstFailure_nil, count,
      known, required, decide_eq_false_iff_not, ne_eq, not_not, not_false_eq_true, and_true,
      true_and]
    exact ⟨by decide, rfl, rfl, rfl, rfl, rfl, rfl⟩
  · exact ⟨rfl, rfl, rfl, rfl, keeps⟩

/-- CAPABILITIES is never refused. -/
theorem capabilities_answered {request response : Frame} {env : Env} {w' : World}
    (passed : baseCheck request = .ok .capabilities) (aimed : request.slot = 0)
    (empty : request.hasEmptyObject = true)
    (step : FrameStep cfg hmac w ⟨id, env, request, response⟩ w') :
    response.status = Status.ok.code := by
  have result := congrArg (fun outcome => outcome.1.status) step.result
  have range := cfg.dynamicSlotCount_range
  have valid : DynamicStore.slotIsValid cfg request.slot.toNat = true := by
    rw [aimed]
    exact decide_eq_true (by simp; omega)
  simp only [processFrame, passed, dispatch, processCapabilities] at result
  rw [if_neg (by simp [valid]), if_neg (by simp [empty])] at result
  rw [← result, Frame.status_setSuccess]

theorem meets_getCapabilities (retries : Nat) (agreeing : Agreeing cfg t) :
    (getCapabilities retries).Meets (link cfg hmac id permits)
      (fun capabilities _ t' => Agreeing cfg t' ∧ Supported cfg capabilities)
      (fun error _ t' => Raises cfg excuses error t') next t := by
  have built := buildFrame_ok .capabilities next (by decide : dynamicCapabilitySlot ≤ 0xFF)
    (by decide : ([] : List UInt8).length ≤ payloadSize) (by decide : 0 ≤ 0xFFFF)
    (by decide : 0 ≤ 0xFFFF)
  have passed := baseCheck_build .capabilities next (UInt8.ofNat dynamicCapabilitySlot) 0 0 []
    (by simp)
  have aimed := Frame.slot_build .capabilities next (UInt8.ofNat dynamicCapabilitySlot) 0 0 []
  have empty := hasEmptyObject_build .capabilities next (UInt8.ofNat dynamicCapabilitySlot)
  obtain ⟨accepts, supported⟩ := capabilities_accepted cfg
  apply meets_retryCall retries _ fun error _ _ raises => raises.isTransport
  unfold dynamicCapabilitiesOnce
  simp only [meets_bind, meets_requestId, built, meets_fromExcept_ok, meets_tryCatch]
  generalize Frame.build .capabilities next (UInt8.ofNat dynamicCapabilitySlot) 0 0 [] = request
    at passed aimed empty
  apply meets_served agreeing passed
  · intro t' quiet env status _ bad served
    have status := capabilities_answered passed aimed empty served.step
    rw [status_errorFrame, Status.code_inj] at status
    exact absurd status bad
  · intro t' quiet env response data offset total agreeing served accepted
    obtain ⟨bytes, same, whole⟩ := accepted.carried
    have length : data.length = dynamicCapabilitiesSize := by
      rw [bytes]
      rfl
    have total : response.totalLength = dynamicCapabilitiesSize := accepted.total.trans whole
    have payload := accepted.payload
    rw [length, bytes] at payload
    rw [meets_require, payload]
    · rw [meets_require accepts, meets_pure]
      exact ⟨agreeing, supported⟩
    · simp [accepted.length, length, accepted.offset, same, total]

theorem meets_uploadDynamic {text : List UInt8} {ttlSeconds : Option Nat} (retries : Nat)
    (keepAfterExecute : Bool) (inside : slot < cfg.dynamicSlotCount)
    (fits : validateDynamicInput text ttlSeconds = .ok text) (agreeing : Agreeing cfg t) :
    (uploadDynamic retries slot text ttlSeconds keepAfterExecute).Meets (link cfg hmac id permits)
      (fun _ _ t' => Agreeing cfg t') (fun error _ t' => Raises cfg excuses error t') next t := by
  have range := cfg.dynamicSlotCount_range.2
  have ranged : validateDynamicSlot slot = .ok slot := by
    apply if_pos
    unfold dynamicObjectCountMax
    omega
  obtain ⟨_, _, short, bounded⟩ := validateDynamicInput_ok fits
  have ttl : (ttlSeconds.any fun ttl => decide (ttl < RuntimeMacroClient.dynamicMinTtlSeconds ∨
      ttl > RuntimeMacroClient.dynamicMaxTtlSeconds)) = false := by
    cases ttlSeconds with
    | none => rfl
    | some seconds => simpa using bounded seconds rfl
  have small : text.length < 65536 := by
    unfold RuntimeMacroClient.dynamicMaxLength at short
    omega
  have options := ttlPayload_sized ttlSeconds keepAfterExecute
  unfold uploadDynamic
  simp only [meets_bind, ranged, fits, meets_fromExcept_ok]
  apply (meets_getCapabilities retries agreeing).mono _ fun _ _ _ raises => raises
  rintro capabilities next' t' ⟨agreeing, supported⟩
  rw [meets_require]
  · apply meets_attempts fun _ t => Agreeing cfg t
    · intro next t agreeing
      have built := buildFrame_ok .dynamicBegin next (by omega : slot ≤ 0xFF) options
        (by decide : 0 ≤ 0xFFFF) (by omega : text.length ≤ 0xFFFF)
      have passed := baseCheck_build .dynamicBegin next (UInt8.ofNat slot) 0 text.length
        (ttlPayload ttlSeconds keepAfterExecute) options
      have total := Frame.totalLength_build .dynamicBegin next (UInt8.ofNat slot) 0 text.length
        (ttlPayload ttlSeconds keepAfterExecute) small
      unfold uploadDynamicOnce
      simp only [meets_bind, meets_requestId, built, meets_fromExcept_ok]
      generalize Frame.build .dynamicBegin next (UInt8.ofNat slot) 0 text.length
        (ttlPayload ttlSeconds keepAfterExecute) = request at passed total
      apply meets_acknowledged agreeing passed
      · intro env w data offset total' carried
        exact ⟨carried.1, carried.2.1, carried.2.2.trans total⟩
      · exact fun _ _ raises => ⟨raises, fun _ => raises.agreeing⟩
      · intro t' quiet env agreeing placed fits _
        rw [meets_validateChunkAck _ placed fits]
        apply meets_chunks text.length fun _ _ t => Agreeing cfg t
        · intro sent next' t' before agreeing
          have chunked : ∀ env w request data offset total,
              Carries cfg env w request .dynamicData data offset total →
              data = [] ∧ offset = request.offset + request.payloadLength ∧
                total = request.totalLength :=
            fun _ _ _ _ _ _ carried => ⟨carried.1, carried.2.1, carried.2.2.2⟩
          apply (meets_chunk chunked (by omega) small (by omega) "DYNAMIC_DATA" agreeing).mono
          · exact fun _ _ _ agreeing => agreeing
          · exact fun _ _ _ raises => ⟨raises, fun _ => raises.agreeing⟩
        · exact agreeing
    · exact agreeing
  · simp only [deviceChecks, firstFailure_cons_eq_none, firstFailure_nil, supported.count,
      supported.length, supported.least, supported.most, supported.keeps, ttl]
    refine ⟨?_, ?_, trivial, by simp, trivial⟩
    · simpa using inside
    · simpa using short

theorem meets_clearDynamic (retries : Nat) (inside : slot < cfg.dynamicSlotCount)
    (agreeing : Agreeing cfg t) :
    (clearDynamic retries slot).Meets (link cfg hmac id permits) (fun _ _ t' => Agreeing cfg t')
      (fun error _ t' => Raises cfg excuses error t') next t := by
  have range := cfg.dynamicSlotCount_range.2
  have ranged : validateDynamicSlot slot = .ok slot := by
    apply if_pos
    unfold dynamicObjectCountMax
    omega
  unfold clearDynamic
  simp only [meets_bind, ranged, meets_fromExcept_ok]
  apply (meets_getCapabilities retries agreeing).mono _ fun _ _ _ raises => raises
  rintro capabilities next' t' ⟨agreeing, supported⟩
  rw [meets_require]
  · apply meets_retryCall retries
    · exact meets_plain "DYNAMIC_CLEAR" (fun _ _ _ _ _ _ bare => bare) (by omega) (by simp)
        (by decide) agreeing
    · exact fun error _ _ raises => raises.isTransport
  · simp [supported.count, inside]

/-! ## Passwords -/

/-- The device is protected by the credential. -/
structure Changed (cfg : Config) (credential : Credential) (t : Station × Talk) : Prop where
  agreeing : Agreeing cfg t
  guarded : t.1.world.auth.state = .stateProtected
  active : t.1.world.auth.credential = credential

/-- Between the chunks of one attempt: the front of the object is staged, or
nothing, and at the end the credential is in force. -/
structure Sending (cfg : Config) (id : ContextId) (credential : Credential) (sent : Nat)
    (t : Station × Talk) : Prop where
  agreeing : Agreeing cfg t
  staged : sent = 0 ∨ OwnedObject id (credentialObject credential) t.1.world
  ended : sent = passwordSetLength → Changed cfg credential t

variable {host : Host} {credential : Credential} {sent : Nat} {requestId : UInt8}

theorem meets_passwordSetChunk (fits : credential.iterations < 256 ^ 4)
    (inside : sent < passwordSetLength) (sending : Sending cfg id credential sent t) :
    (passwordSetChunk (credentialObject credential) requestId sent).Meets
      (link cfg hmac id permits)
      (fun _ _ t' => Sending cfg id credential (min (sent + payloadSize) passwordSetLength) t')
      (fun error _ t' => Raises cfg excuses error t') next t := by
  have whole := credentialObject_length credential
  have small : passwordSetLength < 65536 := by decide
  have chunk := chunkOf_build .passwordSet requestId (by decide : 0xFF ≤ 0xFF)
    (by omega : (credentialObject credential).length < 65536)
    (by omega : sent ≤ (credentialObject credential).length)
  have built := buildFrame_ok .passwordSet requestId (by decide : 0xFF ≤ 0xFF)
    (List.length_take_le payloadSize ((credentialObject credential).drop sent))
    (by omega : sent ≤ 0xFFFF) (by omega : (credentialObject credential).length ≤ 0xFFFF)
  unfold passwordSetChunk
  simp only [slice_chunk, meets_bind, built, meets_fromExcept_ok, meets_tryCatch]
  generalize Frame.build .passwordSet requestId (UInt8.ofNat 0xFF) sent
    (credentialObject credential).length
    (((credentialObject credential).drop sent).take payloadSize) = request at chunk
  have length : (((credentialObject credential).drop sent).take payloadSize).length =
      request.payloadLength := by
    rw [chunk.length, List.length_take, List.length_drop]
  have ends : request.offset + request.payloadLength =
      min (sent + payloadSize) passwordSetLength := by
    rw [chunk.place, chunk.length, whole]
    omega
  have acks : ∀ env w data offset total, Carries cfg env w request .passwordSet data offset total →
      data = [] ∧
        offset = sent + (((credentialObject credential).drop sent).take payloadSize).length ∧
        total = (credentialObject credential).length := by
    intro env w data offset total carried
    rw [length, ← chunk.place, ← chunk.total]
    exact ⟨carried.1, carried.2.1, carried.2.2.2⟩
  apply meets_acknowledged sending.agreeing chunk.passed acks
  · intro error t' (raises : Raises cfg excuses error t')
    have plain := raises.isTransport
    cases error with
    | transportError => cases plain
    | _ => exact raises
  · intro t' quiet env agreeing placed total served
    rw [meets_validateChunkAck _ placed total]
    have kept := (rests_quietKept served.rested).passwordSet id
    have before : OwnedObject id (credentialObject credential) quiet.world ∨
        request.offset = 0 := by
      rcases sending.staged with first | owned
      · exact Or.inr (chunk.place.trans first)
      · exact Or.inl (owned.congr kept)
    refine ⟨agreeing, Or.inr (passwordChunk_step whole chunk before served.step).1, fun done => ?_⟩
    obtain ⟨guarded, active⟩ := lastChunk_protects whole chunk (ends.trans done) before served.step
      (status_okFrame ..)
    rw [stagedCredential_object credential fits] at active
    exact ⟨agreeing, guarded, active⟩

theorem meets_passwordSetOnce (fits : credential.iterations < 256 ^ 4)
    (agreeing : Agreeing cfg t) :
    (passwordSetOnce (credentialObject credential) requestId).Meets (link cfg hmac id permits)
      (fun _ _ t' => Changed cfg credential t') (fun error _ t' => Raises cfg excuses error t') next
      t := by
  rw [passwordSetOnce, credentialObject_length]
  apply (meets_chunks passwordSetLength (fun sent _ t => Sending cfg id credential sent t) _ _).mono
  · exact fun _ _ _ sending => sending.ended rfl
  · exact fun _ _ _ raises => raises
  · exact fun sent next t inside sending => meets_passwordSetChunk fits inside sending
  · exact ⟨agreeing, Or.inl rfl, fun impossible => absurd impossible (by decide)⟩

/-- The credential that is in force is found, so the confirmation does not
fail. -/
theorem meets_confirm (retries : Nat) {secret : String}
    (accepted : ∃ password, normalizePassword host secret = .ok password)
    (random : ∀ env, permits env → Random env) (changed : Changed cfg credential t) :
    (confirmPasswordSet host retries credential.salt.toList secret).Meets
      (link cfg hmac id permits) (fun _ _ t' => Agreeing cfg t')
      (fun error _ t' => Raises cfg excuses error t') next t := by
  unfold confirmPasswordSet
  rw [meets_bind]
  apply (meets_authInfo retries changed.agreeing).mono _ fun _ _ _ raises => raises
  intro info next' t' informed
  obtain ⟨configured, salt⟩ := informed.configured changed.guarded
  rw [changed.active] at salt
  rw [if_neg (by simp [configured, salt])]
  apply meets_authenticate host retries secret accepted random _ informed.agreeing
  intro unguarded
  exact absurd (informed.state.trans changed.guarded) unguarded

theorem meets_setPasswordOnce (retries : Nat) {secret : String}
    (accepted : ∃ password, normalizePassword host secret = .ok password)
    (random : ∀ env, permits env → Random env) (fits : credential.iterations < 256 ^ 4)
    (agreeing : Agreeing cfg t) :
    (setPasswordOnce host retries (credentialObject credential) credential.salt.toList
      secret).Meets (link cfg hmac id permits)
      (fun outcome _ t' =>
        match outcome with
        | .ok _ => Agreeing cfg t'
        | .error error => Raises cfg excuses error t')
      (fun error _ t' => Raises cfg excuses error t') next t := by
  have attempt : ∀ requestId next', (do
      passwordSetOnce (credentialObject credential) requestId
      let info ← confirmPasswordSet host retries credential.salt.toList secret
      return Except.ok info : Client (Except ClientError AuthInfo)).Meets
      (link cfg hmac id permits)
      (fun outcome _ t' => (∃ info, outcome = .ok info) ∧ Agreeing cfg t')
      (fun error _ t' => Raises cfg excuses error t') next' t := by
    intro requestId next'
    rw [meets_bind]
    apply (meets_passwordSetOnce fits agreeing).mono _ fun _ _ _ raises => raises
    intro _ next'' t' changed
    rw [meets_bind]
    apply (meets_confirm retries accepted random changed).mono _ fun _ _ _ raises => raises
    exact fun info _ _ agreeing => ⟨⟨info, rfl⟩, agreeing⟩
  unfold setPasswordOnce
  rw [meets_bind, meets_requestId, meets_tryCatch]
  apply (attempt next (next + 1)).mono
  · rintro outcome next' t' ⟨⟨info, same⟩, agreeing⟩
    rw [same]
    exact agreeing
  · -- An error that shows a lost context is left to the next attempt, any other is raised.
    intro error next' t' raises
    obtain ⟨code, stated⟩ := raises.sourced.stated
    cases error with
    | passwordSetTimeout => cases stated
    | _ =>
      dsimp only
      split
      · exact raises
      · exact raises

theorem meets_setPassword (retries : Nat) {secret : String} {password : List UInt8}
    {iterations : Nat} {salt : Vector UInt8 16}
    (accepted : normalizePassword host secret = .ok password)
    (bounded : validateIterations iterations = .ok ())
    (salted : AuthCore.allZero salt = false)
    (keyed : AuthCore.allZero (host.pbkdf2 password salt.toList iterations) = false)
    (random : ∀ env, permits env → Random env)
    (excused : ∀ info, info.configured = true → info.authenticated = false →
      excuses info .authRequired) (agreeing : Agreeing cfg t) :
    (setPassword host retries secret iterations salt).Meets (link cfg hmac id permits)
      (fun _ _ t' => Agreeing cfg t') (fun error _ t' => Raises cfg excuses error t') next t := by
  have range : authIterationsMin ≤ iterations ∧ iterations ≤ authIterationsMax := by
    unfold validateIterations at bounded
    split at bounded
    · cases bounded
    · omega
  have fits : iterations < 256 ^ 4 := by
    have most := range.2
    unfold authIterationsMax at most
    omega
  have parameters : validateAuthParameters iterations salt.toList = .ok () :=
    validateAuthParameters_ok range (by simp [authSaltSize]) salted
  unfold setPassword
  simp only [meets_bind, accepted, bounded, meets_fromExcept_ok]
  apply (meets_authInfo retries agreeing).mono _ fun _ _ _ raises => raises
  intro info next' t' informed
  split
  next shut =>
    exact ⟨informed.agreeing,
      Or.inr ⟨info, _, excused info shut.1 shut.2, rfl, informed.brought⟩⟩
  · rw [meets_bind, parameters, meets_fromExcept_ok, if_neg (by simp [keyed])]
    apply meets_untilReturned fun _ t => Agreeing cfg t
    · intro next t agreeing
      apply (@meets_setPasswordOnce _ hmac id _ excuses _ _ host
        ⟨iterations, salt, host.pbkdf2 password salt.toList iterations⟩ retries secret
        ⟨password, accepted⟩ random fits agreeing).mono
      · intro outcome next' t' ended
        cases outcome with
        | ok info => exact ended
        | error error => exact ⟨ended, ended.agreeing⟩
      · exact fun _ _ _ raises => raises
    · exact informed.agreeing

/-! ## Every call -/

/-- The client raises no status of its own. -/
def Never : Excuses := fun _ _ => False

/-- AUTH_NOT_CONFIGURED on a device without a password. -/
def Unconfigured : Excuses := fun info status =>
  info.configured = false ∧ status = .authNotConfigured

/-- AUTH_REQUIRED on a device with a password and without a session. -/
def Shut : Excuses := fun info status =>
  info.configured = true ∧ info.authenticated = false ∧ status = .authRequired

/-- The calls whose arguments have passed the checks of the client, in which
environments they are made, and the statuses they may raise themselves. The
nonces that `authenticate` is sent are not zero, and neither are those of
`set_password`, which confirms the change through it. -/
inductive Checked (cfg : Config) (host : Host) (retries : Nat) :
    (α : Type) → Client α → (Env → Prop) → Excuses → Prop
  | authInfo : Checked cfg host retries AuthInfo (authInfo retries) (fun _ => True) Never
  | listSlots : Checked cfg host retries (List SlotInfo) (listSlots retries) (fun _ => True) Never
  | getSlot (slot : Nat) (small : slot ≤ 0xFE) :
      Checked cfg host retries (List UInt8) (getSlot retries slot) (fun _ => True) Never
  | setSlot (slot : Nat) (text : List UInt8) (small : slot ≤ 0xFE)
      (alphabet : validateAscii text = .ok ()) (fits : text.length ≤ 0xFFFF) :
      Checked cfg host retries Unit (setSlot retries slot text) (fun _ => True) Never
  | clearSlot (slot : Nat) (small : slot ≤ 0xFE) :
      Checked cfg host retries Unit (clearSlot retries slot) (fun _ => True) Never
  | getCapabilities :
      Checked cfg host retries DynamicCapabilities (getCapabilities retries) (fun _ => True) Never
  | uploadDynamic (slot : Nat) (text : List UInt8) (ttlSeconds : Option Nat)
      (keepAfterExecute : Bool) (inside : slot < cfg.dynamicSlotCount)
      (fits : validateDynamicInput text ttlSeconds = .ok text) :
      Checked cfg host retries Unit
        (uploadDynamic retries slot text ttlSeconds keepAfterExecute) (fun _ => True) Never
  | clearDynamic (slot : Nat) (inside : slot < cfg.dynamicSlotCount) :
      Checked cfg host retries Unit (clearDynamic retries slot) (fun _ => True) Never
  | lock : Checked cfg host retries Unit (lock retries) (fun _ => True) Never
  | authenticate (secret : String)
      (accepted : ∃ password, normalizePassword host secret = .ok password) :
      Checked cfg host retries AuthInfo (authenticate host retries secret) Random Unconfigured
  | setPassword (secret : String) (password : List UInt8) (iterations : Nat)
      (salt : Vector UInt8 16) (accepted : normalizePassword host secret = .ok password)
      (bounded : validateIterations iterations = .ok ())
      (salted : AuthCore.allZero salt = false)
      (keyed : AuthCore.allZero (host.pbkdf2 password salt.toList iterations) = false) :
      Checked cfg host retries AuthInfo (setPassword host retries secret iterations salt) Random
        Shut

variable {α : Type} {procedure : Client α} {retries : Nat}

theorem Checked.meets (checked : Checked cfg host retries α procedure permits excuses)
    (agreeing : Agreeing cfg t) :
    procedure.Meets (link cfg hmac id permits) (fun _ _ t' => Agreeing cfg t')
      (fun error _ t' => Raises cfg excuses error t') next t := by
  cases checked with
  | authInfo =>
    apply (meets_authInfo retries agreeing).mono _ fun _ _ _ raises => raises
    exact fun _ _ _ informed => informed.agreeing
  | listSlots => exact meets_listSlots retries agreeing
  | getSlot slot small => exact meets_getSlot retries small agreeing
  | setSlot slot text small alphabet fits =>
    exact meets_setSlot retries small alphabet fits agreeing
  | clearSlot slot small => exact meets_clearSlot retries small agreeing
  | getCapabilities =>
    apply (meets_getCapabilities retries agreeing).mono _ fun _ _ _ raises => raises
    exact fun _ _ _ both => both.1
  | uploadDynamic slot text ttlSeconds keepAfterExecute inside fits =>
    exact meets_uploadDynamic retries keepAfterExecute inside fits agreeing
  | clearDynamic slot inside => exact meets_clearDynamic retries inside agreeing
  | lock => exact meets_lock retries agreeing
  | authenticate secret accepted =>
    apply meets_authenticate host retries secret accepted (fun _ random => random) _ agreeing
    exact fun _ info unconfigured => ⟨unconfigured, rfl⟩
  | setPassword secret password iterations salt accepted bounded salted keyed =>
    apply meets_setPassword retries accepted bounded salted keyed (fun _ random => random) _
      agreeing
    exact fun info configured shut => ⟨configured, shut, rfl⟩

theorem random_still : Random (.still 0) := by
  intro nonce drawn
  cases drawn
  decide

/-- Some environment is among those of the call. -/
theorem Checked.permitted (checked : Checked cfg host retries α procedure permits excuses) :
    ∃ env, permits env := by
  cases checked with
  | authenticate | setPassword => exact ⟨_, random_still⟩
  | _ => exact ⟨.still 0, trivial⟩

/-- Client and firmware agree on the wire. From every reachable state of the
firmware every call whose checks have passed comes to an end; each frame passes
the base validation and each answer the checks of the client; and the call
returns, or raises the status of the last answer or the one that it raises
itself, which is never a protocol error. -/
theorem wire_agreement (reachable : Reachable cfg hmac w)
    (checked : Checked cfg host retries α procedure permits excuses) (id : ContextId)
    (next : UInt8) :
    (∃ talk outcome s', Runs (directLink cfg hmac id (fun env _ => permits env) fun _ =>
      True).answers (procedure.dialogue next) (.fresh w) talk outcome s') ∧
    ∀ talk outcome s', Runs (directLink cfg hmac id (fun env _ => permits env) fun _ =>
      True).answers (procedure.dialogue next) (.fresh w) talk outcome s' →
      (∀ turn ∈ talk, Agreed turn) ∧ ∀ error, outcome.1 = .error error →
        error.isProtocol = false ∧ Sourced excuses error talk := by
  have agreeing : Agreeing cfg (Station.fresh w, []) :=
    ⟨reachable.sound, fun _ impossible => by cases impossible⟩
  have meets := @Checked.meets cfg hmac id permits excuses _ next host α procedure retries checked
    agreeing
  constructor
  · obtain ⟨talk, outcome, t, runs⟩ := Ensures.runs meets
      (Partner.recorded_responsive (directLink_responsive fun _ _ => checked.permitted))
    exact ⟨talk, outcome, t.1, runs.of_recorded⟩
  · intro talk outcome s' runs
    have ended := (Ensures.recorded meets runs).1
    rw [List.nil_append] at ended
    obtain ⟨error | value, next'⟩ := outcome
    · have raises : Raises cfg excuses error (s', talk) := ended
      refine ⟨raises.agreeing.talk, fun other same => ?_⟩
      cases same
      exact ⟨raises.sourced.isProtocol, raises.sourced⟩
    · have agreed : Agreeing cfg (s', talk) := ended
      exact ⟨agreed.talk, fun other impossible => by cases impossible⟩

/-- The first password of a device, on a link where every nonce is a proper
one. -/
theorem wire_agreement_sample :
    ∃ talk outcome s', Runs (directLink .default AuthCore.sampleHmac 0 (fun env _ => Random env)
      fun _ => True).answers ((setPassword sampleHost 1 "pw" 100000 sampleSalt).dialogue 7)
      (.fresh (.boot .default .empty)) talk outcome s' ∧ ∀ turn ∈ talk, Agreed turn := by
  have reachable : Reachable .default AuthCore.sampleHmac (.boot .default .empty) :=
    ⟨.empty, [], .nil _⟩
  have checked : Checked .default sampleHost 1 AuthInfo
      (setPassword sampleHost 1 "pw" 100000 sampleSalt) Random Shut :=
    .setPassword "pw" [112, 119] 100000 sampleSalt (by decide +kernel) (by decide)
      (by decide +kernel) (by decide +kernel)
  obtain ⟨⟨talk, outcome, s', runs⟩, every⟩ := wire_agreement reachable checked 0 7
  exact ⟨talk, outcome, s', runs, (every talk outcome s' runs).1⟩

/-- Logs in to a device without a password that answers at once. -/
def sampleLogin : Talk × (Except ClientError AuthInfo × UInt8) × Station :=
  ((authenticate sampleHost 1 "pw").dialogue 7).drive
    (Station.answer .default AuthCore.sampleHmac 0 (.still 0)) (.fresh (.boot .default .empty))

/-- An answer with the status OK. -/
def answeredOk : Answer → Bool
  | .ok response => response.status == Status.ok.code
  | .error _ => false

/-- On a device without a password `authenticate` raises AUTH_NOT_CONFIGURED,
and every answer was OK: no frame of the firmware had that status. -/
theorem authenticate_unanswered :
    Reachable .default AuthCore.sampleHmac (.boot .default .empty) ∧
    ∃ talk s', Runs (directLink .default AuthCore.sampleHmac 0 (fun env _ => Random env)
      fun _ => True).answers ((authenticate sampleHost 1 "pw").dialogue 7)
      (.fresh (.boot .default .empty)) talk
      (.error (.remoteError Status.authNotConfigured.code), 8) s' ∧
      ∀ turn ∈ talk, ∃ response, turn.2 = .ok response ∧
        response.status = Status.ok.code := by
  refine ⟨⟨.empty, [], .nil _⟩, sampleLogin.1, sampleLogin.2.2, ?_, ?_⟩
  · have ended : sampleLogin.2.1 = (.error (.remoteError Status.authNotConfigured.code), 8) := by
      decide +kernel
    rw [← ended]
    exact runs_drive (@Station.answer_direct .default AuthCore.sampleHmac 0
      (fun env _ => Random env) (.still 0) (fun _ => True) fun _ => random_still)
      ((authenticate sampleHost 1 "pw").dialogue 7) (.fresh (.boot .default .empty))
  · have answered : sampleLogin.1.all (fun turn => answeredOk turn.2) = true := by
      decide +kernel
    rintro ⟨request, answer⟩ member
    have ok := List.all_eq_true.mp answered _ member
    cases answer with
    | error fault => cases ok
    | ok response => exact ⟨response, rfl, eq_of_beq ok⟩

/-- The random number generator yields a nonce of zeros. -/
def zeroNonce : Env := { Env.still 0 with random := some (Vector.replicate 16 0) }

/-- Sets the first password of a device that draws the zero nonce. -/
def sampleSetPassword : Talk × (Except ClientError AuthInfo × UInt8) × Station :=
  ((setPassword sampleHost 1 "pw" 100000 sampleSalt).dialogue 7).drive
    (Station.answer .default AuthCore.sampleHmac 0 zeroNonce) (.fresh (.boot .default .empty))

/-- `set_password` confirms the change through `authenticate`, and a nonce of
zeros is a protocol error there. -/
theorem setPassword_zeroNonce :
    ∃ talk s', Runs (directLink .default AuthCore.sampleHmac 0 (fun _ _ => True)
      fun _ => True).answers ((setPassword sampleHost 1 "pw" 100000 sampleSalt).dialogue 7)
      (.fresh (.boot .default .empty)) talk
      (.error (.protocolError "AUTH_CHALLENGE returned an all-zero nonce"), 12) s' := by
  have ended : sampleSetPassword.2.1 =
      (.error (.protocolError "AUTH_CHALLENGE returned an all-zero nonce"), 12) := by
    decide +kernel
  refine ⟨sampleSetPassword.1, sampleSetPassword.2.2, ?_⟩
  rw [← ended]
  exact runs_drive (@Station.answer_direct .default AuthCore.sampleHmac 0 (fun _ _ => True)
    zeroNonce (fun _ => True) fun _ => trivial)
    ((setPassword sampleHost 1 "pw" 100000 sampleSalt).dialogue 7) (.fresh (.boot .default .empty))

/-- A call may raise a status that no answer had, and with a salt and a key
that are not zero `set_password` may still raise a protocol error. -/
theorem calls_raise_unsent_errors :
    (∃ talk s', Runs (directLink .default AuthCore.sampleHmac 0 (fun env _ => Random env)
      fun _ => True).answers ((authenticate sampleHost 1 "pw").dialogue 7)
      (.fresh (.boot .default .empty)) talk
      (.error (.remoteError Status.authNotConfigured.code), 8) s' ∧
      ∀ turn ∈ talk, ∃ response, turn.2 = .ok response ∧
        response.status = Status.ok.code) ∧
    AuthCore.allZero sampleSalt = false ∧
    AuthCore.allZero (sampleHost.pbkdf2 (sampleHost.normalize "pw") sampleSalt.toList 100000) =
      false ∧
    ∃ talk outcome s', Runs (directLink .default AuthCore.sampleHmac 0 (fun _ _ => True)
      fun _ => True).answers ((setPassword sampleHost 1 "pw" 100000 sampleSalt).dialogue 7)
      (.fresh (.boot .default .empty)) talk outcome s' ∧
      ∃ error, outcome.1 = .error error ∧ error.isProtocol = true := by
  obtain ⟨_, unanswered⟩ := authenticate_unanswered
  obtain ⟨talk, s', runs⟩ := setPassword_zeroNonce
  exact ⟨unanswered, by decide +kernel, by decide +kernel, talk, _, s', runs, _, rfl, rfl⟩

end RuntimeMacro.Guarantees.WireAgreement
