import RuntimeMacro.Source.AuthRuns
import RuntimeMacro.Source.Protocol

/-!
# Runs of the firmware

runtime_macro_protocol.c:113-138,162-172,1288-1425. What can happen to the
firmware state: a frame on some context, a transport reset with its discard, a
direct call into the authentication core, a run of one of the work items, an
execution request and the lifecycle clear. An event carries the outside inputs
and the answer of one such call.
-/
namespace RuntimeMacro.Source
open Foundations.Runs
open AuthCore (Hmac)

/-- One call of `zmk_runtime_macro_protocol_process` and its answer. -/
structure Exchange where
  id : ContextId
  env : Env
  request : Frame
  response : Frame

namespace Exchange

/-- The opcode of the request, when it is a known one. -/
def opcode (exchange : Exchange) : Option Opcode := Opcode.ofByte exchange.request.opcode

/-- What a frame is processed from, without what came of it. -/
def input (exchange : Exchange) : ContextId × Env × Frame :=
  (exchange.id, exchange.env, exchange.request)

/-- Answered OK. -/
def accepted (exchange : Exchange) : Bool := exchange.response.status == Status.ok.code

/-- The bytes the request carries. -/
def chunk (exchange : Exchange) : List UInt8 :=
  exchange.request.payload exchange.request.payloadLength

theorem chunk_length {exchange : Exchange}
    (sized : exchange.request.payloadLength ≤ payloadSize) :
    exchange.chunk.length = exchange.request.payloadLength :=
  Frame.payload_length _ sized

end Exchange

/-- What the frames of an upload carry, in order. -/
def uploadText (upload : List Exchange) : List UInt8 := (upload.map Exchange.chunk).flatten

theorem uploadText_append (upload : List Exchange) (exchange : Exchange) :
    uploadText (upload ++ [exchange]) = uploadText upload ++ exchange.chunk := by
  simp [uploadText]

/-- One frame through `zmk_runtime_macro_protocol_process`. -/
def FrameStep (cfg : Config) (hmac : Hmac) (w : World) (exchange : Exchange) (w' : World) : Prop :=
  Protocol.processFrame cfg hmac exchange.env exchange.id exchange.request w =
    (exchange.response, w')

theorem FrameStep.result {cfg : Config} {hmac : Hmac} {w w' : World} {exchange : Exchange}
    (step : FrameStep cfg hmac w exchange w') :
    Protocol.processFrame cfg hmac exchange.env exchange.id exchange.request w =
      (exchange.response, w') := step

/-- Everything that reaches the firmware behind the transport, with its clock
readings and results. -/
inductive WorldEvent where
  | frame (exchange : Exchange)
  | transportReset (id : ContextId) (env : Env)
  | auth (event : AuthCore.Event)
  | timeoutWork (env : Env)
  | ttlWork (env : Env)
  | execute (slot : Nat) (env : Env) (result : Int)
  | executorWork (env : Env)
  | clearAll (env : Env)

namespace World

/-- The authentication part, as `AuthCore` sees it. -/
def authSystem (w : World) : AuthCore.System := ⟨w.auth, w.settings⟩

/-- The world with another core and other settings. -/
def withAuthSystem (system : AuthCore.System) (w : World) : World :=
  { w with auth := system.core, settings := system.settings }

/-- `zmk_runtime_macro_auth_transport_reset`, then
`zmk_runtime_macro_protocol_discard`. -/
def transportReset (cfg : Config) (id : ContextId) (env : Env) (w : World) : World :=
  (w.withAuth (AuthCore.transportReset w.auth)).discard cfg id (env.clock .cleanup)

/-- The handler of the dynamic store, with its readings from the
environment. -/
def ttlWorkHandler (cfg : Config) (env : Env) (w : World) : World :=
  w.withDynamic (w.dynamic.ttlWorkHandler cfg (env.clock .operation) (env.clock .rearm))

/-- A dynamic slot is executed; store and executor change together. -/
def executeSlot (cfg : Config) (slot : Nat) (env : Env) (w : World) : Int × World :=
  let (err, dynamic, executor) := w.dynamic.executeSlot cfg slot (env.clock .operation)
    (env.clock .rearm) env.executorErr w.executor
  (err, { w with dynamic := dynamic, executor := executor })

/-- Every dynamic slot is cleared, as the lifecycle listeners do it. -/
def clearAll (cfg : Config) (env : Env) (w : World) : World :=
  w.withDynamic (w.dynamic.clearAll cfg (env.clock .rearm))

end World

/-- One call: its answer and its effect are those of the entry point. -/
def WorldStep (cfg : Config) (hmac : Hmac) (w : World) : WorldEvent → World → Prop
  | .frame exchange, w' => FrameStep cfg hmac w exchange w'
  | .transportReset id env, w' => w' = w.transportReset cfg id env
  | .auth event, w' =>
    ∃ system, AuthCore.Step cfg hmac w.authSystem event system ∧ w' = w.withAuthSystem system
  | .timeoutWork env, w' => w' = w.dynamicTimeoutWorkHandler cfg env
  | .ttlWork env, w' => w' = w.ttlWorkHandler cfg env
  | .execute slot env result, w' => w.executeSlot cfg slot env = (result, w')
  | .executorWork env, w' =>
    w' = { w with executor := (w.executor.workHandler env.executorErr).2 }
  | .clearAll env, w' => w' = w.clearAll cfg env

/-- `WorldStep`, executed. -/
def worldNext (cfg : Config) (hmac : Hmac) (w : World) : WorldEvent → Option World
  | .frame exchange =>
    let (response, w') :=
      Protocol.processFrame cfg hmac exchange.env exchange.id exchange.request w
    if response = exchange.response then some w' else none
  | .transportReset id env => some (w.transportReset cfg id env)
  | .auth event => (AuthCore.next cfg hmac w.authSystem event).map w.withAuthSystem
  | .timeoutWork env => some (w.dynamicTimeoutWorkHandler cfg env)
  | .ttlWork env => some (w.ttlWorkHandler cfg env)
  | .execute slot env result =>
    let (err, w') := w.executeSlot cfg slot env
    if err = result then some w' else none
  | .executorWork env => some { w with executor := (w.executor.workHandler env.executorErr).2 }
  | .clearAll env => some (w.clearAll cfg env)

theorem worldNext_sound (cfg : Config) (hmac : Hmac) (w : World) (event : WorldEvent) (w' : World)
    (executed : worldNext cfg hmac w event = some w') : WorldStep cfg hmac w event w' := by
  cases event with
  | frame exchange =>
    simp only [worldNext] at executed
    split at executed
    next same =>
      cases executed
      exact Prod.ext same rfl
    · cases executed
  | auth event =>
    simp only [worldNext, Option.map_eq_some_iff] at executed
    obtain ⟨system, step, rfl⟩ := executed
    exact ⟨system, AuthCore.next_sound cfg hmac _ _ _ step, rfl⟩
  | execute slot env result =>
    simp only [worldNext] at executed
    split at executed
    next same =>
      cases executed
      exact Prod.ext same rfl
    · cases executed
  | transportReset | timeoutWork | ttlWork | executorWork | clearAll =>
    cases executed
    rfl

theorem world_run_of_next (cfg : Config) (hmac : Hmac) (start : World)
    (events : List WorldEvent) (executed : (execute (worldNext cfg hmac) start events).isSome) :
    Run (WorldStep cfg hmac) start events
      ((execute (worldNext cfg hmac) start events).get executed) :=
  Run.of_execute (worldNext_sound cfg hmac) (Option.some_get executed).symm

/-! ## Inputs to evaluate runs on -/

/-- A call in which the clock stands still and nothing fails. -/
def Env.still (nowMs : Int) : Env where
  clock := fun _ => nowMs
  random := some (Vector.replicate 16 5)
  hmacFails := false
  saveErr := 0
  deleteErr := 0
  rescheduleErr := 0
  executorErr := 0

/-- The exchange a request leads to. -/
def exchangeOf (cfg : Config) (hmac : Hmac) (id : ContextId) (env : Env) (request : Frame)
    (w : World) : Exchange :=
  ⟨id, env, request, (Protocol.processFrame cfg hmac env id request w).1⟩

theorem exchangeOf_step (cfg : Config) (hmac : Hmac) (id : ContextId) (env : Env)
    (request : Frame) (w : World) :
    FrameStep cfg hmac w (exchangeOf cfg hmac id env request w)
      (Protocol.processFrame cfg hmac env id request w).2 := rfl

/-- The exchanges of requests that are served one after another on a context,
and the state they lead to. -/
def conversation (cfg : Config) (hmac : Hmac) (id : ContextId) :
    List (Env × Frame) → World → List Exchange × World
  | [], w => ([], w)
  | (env, request) :: later, w =>
    let rest := conversation cfg hmac id later
      (Protocol.processFrame cfg hmac env id request w).2
    (exchangeOf cfg hmac id env request w :: rest.1, rest.2)

theorem conversation_run (cfg : Config) (hmac : Hmac) (id : ContextId)
    (requests : List (Env × Frame)) (w : World) :
    Run (FrameStep cfg hmac) w (conversation cfg hmac id requests w).1
      (conversation cfg hmac id requests w).2 := by
  induction requests generalizing w with
  | nil => exact .nil w
  | cons first later ih => exact .cons (exchangeOf_step ..) (ih _)

/-- What goes into a conversation is the requests, whatever the state is they
meet. -/
theorem conversation_inputs (cfg : Config) (hmac : Hmac) (id : ContextId)
    (requests : List (Env × Frame)) (w : World) :
    (conversation cfg hmac id requests w).1.map Exchange.input =
      requests.map fun asked => (id, asked.1, asked.2) := by
  induction requests generalizing w with
  | nil => rfl
  | cons first later ih =>
    rw [conversation, List.map_cons, List.map_cons, ih]
    rfl

end RuntimeMacro.Source
