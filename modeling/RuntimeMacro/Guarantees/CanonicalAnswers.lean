import RuntimeMacro.Source.ClientCalls

/-!
# Every answer is canonical

runtime_macro_protocol.c:174-190,276-304,670-685. A handler writes its answer
in pieces, and a failed refresh of the session turns one that is finished into
an error. Nothing of it is left then: an error is its header and zeros.
-/
namespace RuntimeMacro.Guarantees.CanonicalAnswers
open Source Source.Protocol Source.RuntimeMacroClient
open AuthCore (Hmac)

variable {cfg : Config} {hmac : Hmac} {env : Env} {w : World} {request response : Frame}

/-- An error with nothing in it, or a payload with nothing behind it that lies
inside the object it is a page of. -/
inductive Canonical (request response : Frame) : Prop
  | refused (status : response.status ≠ Status.ok.code)
      (blank : ∀ index (inside : index < 32), 5 ≤ index → response[index] = 0) :
      Canonical request response
  | accepted (status : response.status = Status.ok.code)
      (sized : response.payloadLength ≤ payloadSize)
      (page : request.opcode = Opcode.list.code ∨ request.opcode = Opcode.get.code →
        response.offset + response.payloadLength ≤ response.totalLength)
      (tail : response.payloadTailIsZero response.payloadLength = true) :
      Canonical request response

theorem canonical_errorFrame {status : Status} (bad : status ≠ .ok) :
    Canonical request (errorFrame request status) := by
  apply Canonical.refused
  · rw [status_errorFrame, ne_eq, Status.code_inj]
    exact bad
  · intro index inside behind
    rw [errorFrame, getElem_setError _ _ inside, if_neg (by omega), if_pos behind]

/-- A page ends where its object ends, or earlier. -/
theorem pageOf_inside {object : List UInt8} {offset : Nat} (inside : offset ≤ object.length) :
    offset + (pageOf object offset).length ≤ object.length := by
  rw [length_pageOf]
  omega

theorem carries_page {opcode : Opcode} {data : List UInt8} {offset total : Nat}
    (carried : Carries cfg env w request opcode data offset total)
    (paged : opcode = .list ∨ opcode = .get) : offset + data.length ≤ total := by
  rcases paged with rfl | rfl
  · obtain ⟨object, _, _, inside, rfl, rfl, rfl⟩ := carried
    exact pageOf_inside inside
  · obtain ⟨snapshot, length, _, _, inside, rfl, rfl, rfl⟩ := carried
    exact pageOf_inside inside

/-- What an entry point may answer: an error, or OK with a payload that fits a
frame and, if it is a page, its object. -/
theorem canonical_okFrame {opcode : Opcode} {data : List UInt8} {offset total : Nat}
    (passed : baseCheck request = .ok opcode)
    (carried : Carries cfg env w request opcode data offset total)
    (sized : data.length ≤ payloadSize) (placed : offset < 65536) (fits : total < 65536) :
    Canonical request (okFrame request data offset total) := by
  have length := payloadLength_okFrame request data offset total sized
  apply Canonical.accepted
  · exact status_okFrame request data offset total
  · rw [length]
    exact sized
  · rw [length, offset_okFrame _ _ _ _ placed, totalLength_okFrame _ _ _ _ fits]
    intro paged
    have known := baseCheck_opcode passed
    apply carries_page carried
    rcases paged with list | get
    · rw [list, Opcode.ofByte_code] at known
      exact Or.inl (Option.some.inj known).symm
    · rw [get, Opcode.ofByte_code] at known
      exact Or.inr (Option.some.inj known).symm
  · rw [length]
    exact payloadTailIsZero_okFrame request data offset total sized

/-- The client takes the answer, or raises the firmware's status. -/
def Understood (request response : Frame) : Prop :=
  validateResponse response request = .ok response.payloadLength ∨
    validateResponse response request = .error (.remoteError response.status)

theorem understood_errorFrame {status : Status} (bad : status ≠ .ok) :
    Understood request (errorFrame request status) := by
  apply Or.inr
  rw [validateResponse_error bad, status_errorFrame]

theorem understood_okFrame {data : List UInt8} {offset total : Nat}
    (sized : data.length ≤ payloadSize) :
    Understood request (okFrame request data offset total) := by
  apply Or.inl
  rw [validateResponse_ok sized, payloadLength_okFrame _ _ _ _ sized]

theorem processFrame_canonical (cfg : Config) (hmac : Hmac) (env : Env) (id : ContextId)
    (request : Frame) (w : World) :
    Canonical request (processFrame cfg hmac env id request w).1 ∧
      Understood request (processFrame cfg hmac env id request w).1 := by
  cases passed : baseCheck request with
  | error status =>
    simp only [processFrame, passed]
    have bad := baseCheck_ne_ok passed
    exact ⟨canonical_errorFrame bad, understood_errorFrame bad⟩
  | ok opcode =>
    have answer := processFrame_answer cfg hmac env id w passed
    generalize (processFrame cfg hmac env id request w).1 = response at answer
    cases answer with
    | refused status bad => exact ⟨canonical_errorFrame bad, understood_errorFrame bad⟩
    | accepted data offset total carried sized placed fits =>
      exact ⟨canonical_okFrame passed carried sized placed fits, understood_okFrame sized⟩

/-- In every state and for every request the response is canonical, repeats the
header and does not depend on what was in its buffer, also when there is no
context. The client understands it. -/
theorem response_canonical (cfg : Config) (hmac : Hmac) (env : Env) (protocol : Option ContextId)
    (request old : Frame) (w : World) : ∃ response w',
    Protocol.process cfg hmac env protocol (some request) (some old) w = (0, some response, w') ∧
      Echoes request response ∧ Canonical request response ∧
      (∀ other, Protocol.process cfg hmac env protocol (some request) (some other) w =
        (0, some response, w')) ∧
      Understood request response := by
  cases protocol with
  | none =>
    refine ⟨errorFrame request .internal, w, rfl, errorFrame_echoes, ?_, fun _ => rfl, ?_⟩
    · exact canonical_errorFrame (by decide)
    · exact understood_errorFrame (by decide)
  | some id =>
    obtain ⟨canonical, understood⟩ := processFrame_canonical cfg hmac env id request w
    exact ⟨_, _, rfl, processFrame_echoes cfg hmac env id request w, canonical, fun _ => rfl,
      understood⟩

end RuntimeMacro.Guarantees.CanonicalAnswers
