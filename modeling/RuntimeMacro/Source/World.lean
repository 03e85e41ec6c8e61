import RuntimeMacro.Source.AuthCore
import RuntimeMacro.Source.DynamicStore
import RuntimeMacro.Source.Frame
import RuntimeMacro.Source.SlotStore

/-!
# Firmware state

What one `zmk_runtime_macro_protocol_process` call can reach: the
authentication core, the settings, both stores, the executor, the protocol
contexts and the timeout of the dynamic upload
(runtime_macro_protocol.c:60-190; runtime_macro_protocol.h:142-170). Contexts
are numbered; a context pointer is its number. `calls` records the store and
credential calls of the protocol for the statements about them; no function
reads it.
-/
namespace RuntimeMacro.Source
open AuthCore (AuthState Credential Nonce)

abbrev ContextId := Nat

def passwordSetLength : Nat := 52
def dynamicTransactionTimeoutSeconds : Nat := 30

/-- `struct zmk_runtime_macro_protocol` (runtime_macro_protocol.h:142-170): the
SET and the PASSWORD_SET transaction with their staging, the identity of the
dynamic one, and the authentication state the context was last used under. -/
structure Context where
  setActive : Bool
  setRequestId : UInt8
  setSlot : Nat
  setTotalLength : Nat
  setReceivedLength : Nat
  setStaging : List UInt8
  passwordSetActive : Bool
  passwordSetRequestId : UInt8
  passwordSetTotalLength : Nat
  passwordSetReceivedLength : Nat
  passwordSetStaging : List UInt8
  authStateKnown : Bool
  authState : AuthState
  authSessionAuthenticated : Bool
  dynamicActive : Bool
  dynamicSlot : Nat
  dynamicRequestId : UInt8
  dynamicTotalLength : Nat
  dynamicReceivedLength : Nat
  dynamicDeadlineMs : Int
  deriving DecidableEq

namespace Context

/-- All bytes zero, as `zmk_runtime_macro_protocol_init`
(runtime_macro_protocol.c:1283-1286) leaves a context. -/
def zero (cfg : Config) : Context where
  setActive := false
  setRequestId := 0
  setSlot := 0
  setTotalLength := 0
  setReceivedLength := 0
  setStaging := List.replicate cfg.maxTextLen 0
  passwordSetActive := false
  passwordSetRequestId := 0
  passwordSetTotalLength := 0
  passwordSetReceivedLength := 0
  passwordSetStaging := List.replicate passwordSetLength 0
  authStateKnown := false
  authState := .stateOpen
  authSessionAuthenticated := false
  dynamicActive := false
  dynamicSlot := 0
  dynamicRequestId := 0
  dynamicTotalLength := 0
  dynamicReceivedLength := 0
  dynamicDeadlineMs := 0

/-- The SET transaction of a context, zeroed. -/
def clearSet (cfg : Config) (c : Context) : Context :=
  { c with setActive := false
           setRequestId := 0
           setSlot := 0
           setTotalLength := 0
           setReceivedLength := 0
           setStaging := List.replicate cfg.maxTextLen 0 }

/-- The PASSWORD_SET transaction of a context, zeroed. -/
def clearPasswordSet (c : Context) : Context :=
  { c with passwordSetActive := false
           passwordSetRequestId := 0
           passwordSetTotalLength := 0
           passwordSetReceivedLength := 0
           passwordSetStaging := List.replicate passwordSetLength 0 }

/-- The identity of the dynamic upload of a context, zeroed. The text itself is
in the store. -/
def clearDynamic (c : Context) : Context :=
  { c with dynamicActive := false
           dynamicSlot := 0
           dynamicRequestId := 0
           dynamicTotalLength := 0
           dynamicReceivedLength := 0
           dynamicDeadlineMs := 0 }

/-- The context remembers the core as it was found. -/
def observe (state : AuthState) (authenticated : Bool) (c : Context) : Context :=
  { c with authStateKnown := true
           authState := state
           authSessionAuthenticated := authenticated }

end Context

/-- The places where one call reads the clock, in program order. -/
inductive Site where
  | syncState | syncSession | syncDiscard | gateState | gateSession | gateDiscard
  | operation | commit | rearm | timeout | cleanup
  | refreshState | refreshSession | refreshDiscard
  deriving DecidableEq, Repr

/-- The sites in the order in which a frame can reach them. -/
def Site.rank : Site → Nat
  | .syncState => 0 | .syncSession => 1 | .syncDiscard => 2 | .gateState => 3
  | .gateSession => 4 | .gateDiscard => 5 | .operation => 6 | .commit => 7 | .rearm => 8
  | .timeout => 9 | .cleanup => 10 | .refreshState => 11 | .refreshSession => 12
  | .refreshDiscard => 13

/-- What one call obtains from outside: its clock readings, the CSPRNG and HMAC
results, and the results of the settings, work queue and executor calls. -/
structure Env where
  clock : Site → Int
  random : Option Nonce
  hmacFails : Bool
  saveErr : Int
  deleteErr : Int
  rescheduleErr : Int
  executorErr : Int

namespace Env

/-- The clock may advance between any two readings of the call. -/
def Ordered (env : Env) : Prop :=
  ∀ first second : Site, first.rank ≤ second.rank → env.clock first ≤ env.clock second

/-- The first reading a frame can make. -/
def earliest (env : Env) : Int := env.clock .syncState

/-- The last reading a frame can make. -/
def latest (env : Env) : Int := env.clock .refreshDiscard

end Env

/-- A call of the protocol that reached a store or the core, with the code it
returned. -/
inductive Call where
  | slotSet (slot : Nat) (text : List UInt8) (err : Int)
  | slotClear (slot : Nat) (err : Int)
  | setCredential (credential : Credential) (err : Int)
  deriving DecidableEq

structure World where
  auth : AuthCore.State
  settings : Settings
  slots : SlotStore
  dynamic : DynamicStore
  executor : Executor
  contexts : ContextId → Context
  timeoutOwner : Option ContextId
  timeoutWork : Option Int
  calls : List Call

namespace World

/-- Every static as the linker sets it; the settings are those of an earlier
power-up. -/
def boot (cfg : Config) (settings : Settings) : World where
  auth := .boot
  settings := settings
  slots := .boot cfg
  dynamic := .boot
  executor := .idle
  contexts := fun _ => .zero cfg
  timeoutOwner := none
  timeoutWork := none
  calls := []

/-- The world with another core. -/
def withAuth (auth : AuthCore.State) (w : World) : World := { w with auth := auth }

/-- The world with another dynamic store. -/
def withDynamic (dynamic : DynamicStore) (w : World) : World := { w with dynamic := dynamic }

/-- The world with one context changed. -/
def modify (id : ContextId) (f : Context → Context) (w : World) : World :=
  { w with contexts := Function.update w.contexts id (f (w.contexts id)) }

/-- `runtime_macro_protocol_clear_set` (runtime_macro_protocol.c:141-150). -/
def clearSet (cfg : Config) (id : ContextId) (w : World) : World := w.modify id (.clearSet cfg)

/-- `runtime_macro_protocol_clear_password_set`
(runtime_macro_protocol.c:152-160). -/
def clearPasswordSet (id : ContextId) (w : World) : World := w.modify id .clearPasswordSet

/-- `runtime_macro_protocol_clear_dynamic_locked`
(runtime_macro_protocol.c:71-85). The staging of the store is cancelled whoever
has begun it; the timeout only if this context owns it. -/
def clearDynamic (cfg : Config) (id : ContextId) (nowMs : Int) (w : World) : World :=
  let owner := w.timeoutOwner = some id
  { w with timeoutOwner := if owner then none else w.timeoutOwner
           timeoutWork := if owner then none else w.timeoutWork
           dynamic := w.dynamic.cancelStagingNow cfg nowMs
           contexts := Function.update w.contexts id (w.contexts id).clearDynamic }

/-- `zmk_runtime_macro_protocol_discard` (runtime_macro_protocol.c:162-172):
all three transactions and the recorded authentication state. -/
def discard (cfg : Config) (id : ContextId) (nowMs : Int) (w : World) : World :=
  (w.clearDynamic cfg id nowMs).modify id fun _ => .zero cfg

/-- `runtime_macro_protocol_refresh_dynamic_timeout_locked`
(runtime_macro_protocol.c:99-111). Deadline and owner are set before the work
item is asked, also when it refuses. -/
def refreshDynamicTimeout (id : ContextId) (env : Env) (w : World) : Int × World :=
  let deadline := env.clock .timeout + (dynamicTransactionTimeoutSeconds : Int) * 1000
  let w := w.modify id fun c => { c with dynamicDeadlineMs := deadline }
  let failed := env.rescheduleErr < 0
  (if failed then env.rescheduleErr else 0,
    { w with timeoutOwner := some id
             timeoutWork := if failed then none else some deadline })

/-- `runtime_macro_protocol_dynamic_timeout_work_handler`
(runtime_macro_protocol.c:113-138): a run before the deadline waits for it
again. -/
def dynamicTimeoutWorkHandler (cfg : Config) (env : Env) (w : World) : World :=
  match w.timeoutOwner with
  | none => w
  | some id =>
    let deadline := (w.contexts id).dynamicDeadlineMs
    if (w.contexts id).dynamicActive = false then { w with timeoutOwner := none }
    else if env.clock .timeout < deadline then
      { w with timeoutWork := if env.rescheduleErr < 0 then none else some deadline }
    else w.clearDynamic cfg id (env.clock .cleanup)

/-! ## What the context updates keep -/

section Frames
variable (cfg : Config) (id other : ContextId) (nowMs : Int) (f : Context → Context) (w : World)

@[simp] theorem withAuth_auth (auth : AuthCore.State) : (w.withAuth auth).auth = auth := rfl
@[simp] theorem withAuth_settings (auth : AuthCore.State) :
    (w.withAuth auth).settings = w.settings := rfl
@[simp] theorem withAuth_slots (auth : AuthCore.State) : (w.withAuth auth).slots = w.slots := rfl
@[simp] theorem withAuth_dynamic (auth : AuthCore.State) :
    (w.withAuth auth).dynamic = w.dynamic := rfl
@[simp] theorem withAuth_executor (auth : AuthCore.State) :
    (w.withAuth auth).executor = w.executor := rfl
@[simp] theorem withAuth_contexts (auth : AuthCore.State) :
    (w.withAuth auth).contexts = w.contexts := rfl
@[simp] theorem withAuth_calls (auth : AuthCore.State) : (w.withAuth auth).calls = w.calls := rfl

@[simp] theorem withDynamic_auth (dynamic : DynamicStore) :
    (w.withDynamic dynamic).auth = w.auth := rfl
@[simp] theorem withDynamic_settings (dynamic : DynamicStore) :
    (w.withDynamic dynamic).settings = w.settings := rfl
@[simp] theorem withDynamic_slots (dynamic : DynamicStore) :
    (w.withDynamic dynamic).slots = w.slots := rfl
@[simp] theorem withDynamic_dynamic (dynamic : DynamicStore) :
    (w.withDynamic dynamic).dynamic = dynamic := rfl
@[simp] theorem withDynamic_contexts (dynamic : DynamicStore) :
    (w.withDynamic dynamic).contexts = w.contexts := rfl
@[simp] theorem withDynamic_calls (dynamic : DynamicStore) :
    (w.withDynamic dynamic).calls = w.calls := rfl

@[simp] theorem modify_auth : (w.modify id f).auth = w.auth := rfl
@[simp] theorem modify_settings : (w.modify id f).settings = w.settings := rfl
@[simp] theorem modify_slots : (w.modify id f).slots = w.slots := rfl
@[simp] theorem modify_dynamic : (w.modify id f).dynamic = w.dynamic := rfl
@[simp] theorem modify_executor : (w.modify id f).executor = w.executor := rfl
@[simp] theorem modify_timeoutOwner : (w.modify id f).timeoutOwner = w.timeoutOwner := rfl
@[simp] theorem modify_timeoutWork : (w.modify id f).timeoutWork = w.timeoutWork := rfl
@[simp] theorem modify_calls : (w.modify id f).calls = w.calls := rfl
@[simp] theorem modify_contexts_self : (w.modify id f).contexts id = f (w.contexts id) := by
  simp [modify]

theorem modify_eq (c : Context) (same : f (w.contexts id) = c) :
    w.modify id f = w.modify id fun _ => c := by
  simp [modify, same]

theorem modify_contexts_of_ne (different : other ≠ id) :
    (w.modify id f).contexts other = w.contexts other := by
  simp [modify, different]

@[simp] theorem clearSet_auth : (w.clearSet cfg id).auth = w.auth := rfl
@[simp] theorem clearSet_settings : (w.clearSet cfg id).settings = w.settings := rfl
@[simp] theorem clearSet_slots : (w.clearSet cfg id).slots = w.slots := rfl
@[simp] theorem clearSet_dynamic : (w.clearSet cfg id).dynamic = w.dynamic := rfl
@[simp] theorem clearSet_executor : (w.clearSet cfg id).executor = w.executor := rfl
@[simp] theorem clearSet_calls : (w.clearSet cfg id).calls = w.calls := rfl
@[simp] theorem clearSet_contexts_self :
    (w.clearSet cfg id).contexts id = (w.contexts id).clearSet cfg := by simp [clearSet]

@[simp] theorem clearPasswordSet_auth : (w.clearPasswordSet id).auth = w.auth := rfl
@[simp] theorem clearPasswordSet_settings : (w.clearPasswordSet id).settings = w.settings := rfl
@[simp] theorem clearPasswordSet_slots : (w.clearPasswordSet id).slots = w.slots := rfl
@[simp] theorem clearPasswordSet_dynamic : (w.clearPasswordSet id).dynamic = w.dynamic := rfl
@[simp] theorem clearPasswordSet_executor : (w.clearPasswordSet id).executor = w.executor := rfl
@[simp] theorem clearPasswordSet_calls : (w.clearPasswordSet id).calls = w.calls := rfl
@[simp] theorem clearPasswordSet_contexts_self :
    (w.clearPasswordSet id).contexts id = (w.contexts id).clearPasswordSet := by
  simp [clearPasswordSet]

@[simp] theorem clearDynamic_auth : (w.clearDynamic cfg id nowMs).auth = w.auth := rfl
@[simp] theorem clearDynamic_settings : (w.clearDynamic cfg id nowMs).settings = w.settings := rfl
@[simp] theorem clearDynamic_slots : (w.clearDynamic cfg id nowMs).slots = w.slots := rfl
@[simp] theorem clearDynamic_dynamic :
    (w.clearDynamic cfg id nowMs).dynamic = w.dynamic.cancelStagingNow cfg nowMs := rfl
@[simp] theorem clearDynamic_executor : (w.clearDynamic cfg id nowMs).executor = w.executor := rfl
@[simp] theorem clearDynamic_calls : (w.clearDynamic cfg id nowMs).calls = w.calls := rfl
@[simp] theorem clearDynamic_contexts_self :
    (w.clearDynamic cfg id nowMs).contexts id = (w.contexts id).clearDynamic := by
  simp [clearDynamic]

@[simp] theorem discard_auth : (w.discard cfg id nowMs).auth = w.auth := rfl
@[simp] theorem discard_settings : (w.discard cfg id nowMs).settings = w.settings := rfl
@[simp] theorem discard_slots : (w.discard cfg id nowMs).slots = w.slots := rfl
@[simp] theorem discard_dynamic :
    (w.discard cfg id nowMs).dynamic = w.dynamic.cancelStagingNow cfg nowMs := rfl
@[simp] theorem discard_executor : (w.discard cfg id nowMs).executor = w.executor := rfl
@[simp] theorem discard_calls : (w.discard cfg id nowMs).calls = w.calls := rfl
@[simp] theorem discard_contexts_self : (w.discard cfg id nowMs).contexts id = .zero cfg := by
  simp [discard]

theorem clearDynamic_contexts_of_ne (different : other ≠ id) :
    (w.clearDynamic cfg id nowMs).contexts other = w.contexts other := by
  simp [clearDynamic, different]

theorem discard_contexts_of_ne (different : other ≠ id) :
    (w.discard cfg id nowMs).contexts other = w.contexts other := by
  rw [discard, modify_contexts_of_ne _ _ _ _ different,
    clearDynamic_contexts_of_ne _ _ _ _ _ different]

end Frames

end World

end RuntimeMacro.Source
