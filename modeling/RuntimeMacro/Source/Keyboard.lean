import RuntimeMacro.Source.Device
import RuntimeMacro.Source.ExecutorRuns
import RuntimeMacro.Source.TextRuns
import RuntimeMacro.Source.UsbRuns

/-!
# The keyboard

behavior_runtime_macro.c:48-79; behavior_runtime_macro_dynamic.c:21-55;
runtime_macro_dynamic_lifecycle.c:21-45. The whole firmware: the USB transport
and what is behind it, the two behaviors of the keymap, the listeners, the
settings callbacks, and the executor, whose work item runs when it is scheduled
and at no other time. A call is one step, as the mutexes make it; the USB
transport keeps its own finer steps.
-/
namespace RuntimeMacro.Source
open Foundations Foundations.Runs
open AuthCore (Hmac)
open UsbHid (Transport)

/-- `ZMK_BEHAVIOR_OPAQUE`. -/
def behaviorOpaque : Int := 0

/-- `zmk_runtime_macro_execute` (runtime_macro_executor.c:181-191). -/
def World.execute (cfg : Config) (slot : Nat) (env : Env) (w : World) : Int × World :=
  let (err, executor) := Typing.execute cfg slot env.executorErr ⟨w.executor, w.slots, w.settings⟩
  (err, { w with executor := executor })

/-- `on_keymap_binding_pressed` of either behavior: the cell is compared as
32-bit word before it is narrowed to the `uint8_t` of the call. -/
def onKeymapBindingPressed (slotCount : Nat) (execute : Nat → World → Int × World)
    (param1 : UInt32) (w : World) : Int × World :=
  if slotCount ≤ param1.toNat then (-einval, w)
  else
    let (err, w) := execute param1.toUInt8.toNat w
    if err ≠ 0 then (err, w) else (behaviorOpaque, w)

/-- The two drivers. -/
inductive MacroBehavior where
  | runtimeMacro | runtimeMacroDynamic
  deriving DecidableEq

namespace MacroBehavior

/-- `on_keymap_binding_pressed` (behavior_runtime_macro.c:52-68,
behavior_runtime_macro_dynamic.c:21-48). The 32-bit cell is compared before it
is narrowed to a slot. -/
def bindingPressed (cfg : Config) (env : Env) (behavior : MacroBehavior) (param1 : UInt32)
    (w : World) : Int × World :=
  match behavior with
  | runtimeMacro =>
    onKeymapBindingPressed cfg.slotCount (fun slot => World.execute cfg slot env) param1 w
  | runtimeMacroDynamic =>
    onKeymapBindingPressed cfg.dynamicSlotCount (fun slot => World.executeSlot cfg slot env) param1
      w

/-- `on_keymap_binding_released` (behavior_runtime_macro.c:70-79,
behavior_runtime_macro_dynamic.c:50-55): only the static behavior looks at the
cell again. -/
def bindingReleased (cfg : Config) (behavior : MacroBehavior) (param1 : UInt32) : Int :=
  match behavior with
  | runtimeMacro => if cfg.slotCount ≤ param1.toNat then -einval else behaviorOpaque
  | runtimeMacroDynamic => behaviorOpaque

end MacroBehavior

/-- A lifecycle listener: `present` says that the event is not NULL, `clears`
that the build clears on it. -/
def dynamicListener (cfg : Config) (clears present : Bool) (env : Env) (w : World) :
    Int × World :=
  if present = false then (-einval, w)
  else if clears then (0, w.clearAll cfg env)
  else (0, w)

/-- `runtime_macro_dynamic_profile_listener`
(runtime_macro_dynamic_lifecycle.c:21-32). The Boolean is false for a NULL
event. -/
def dynamicProfileListener (cfg : Config) : Bool → Env → World → Int × World :=
  dynamicListener cfg cfg.dynamicClearOnBleProfileChange

/-- `runtime_macro_dynamic_endpoint_listener`
(runtime_macro_dynamic_lifecycle.c:34-45), with an option of its own. -/
def dynamicEndpointListener (cfg : Config) : Bool → Env → World → Int × World :=
  dynamicListener cfg cfg.dynamicClearOnEndpointChange

/-! ## Steps -/

/-- Everything that can happen to a keyboard, with what it returned. -/
inductive KeyboardEvent where
  | usb (event : UsbHid.Event)
  | settingsSet (name : Option Name) (length : Nat) (readCb : Option SettingsReadCb)
  | settingsCommit (saveErr : Name → Int)
  | profileChanged (env : Env)
  | endpointChanged (env : Env)
  | pressed (behavior : MacroBehavior) (param1 : UInt32) (env : Env) (result : Int)
  | released (behavior : MacroBehavior) (param1 : UInt32) (result : Int)
  | executorWork (env : Env) (raised : List (Nat × Bool))

/-- Executions, settings callbacks and the other listeners have events of their
own. -/
def KeyboardStep (cfg : Config) (hmac : Hmac) (s : Transport) : KeyboardEvent → Transport → Prop
  | .usb event, s' => event.onUsb = true ∧ UsbHid.Step cfg hmac s event s'
  | .settingsSet name length readCb, s' =>
    s' = { s with world := s.world.settingsSet cfg name length readCb }
  | .settingsCommit saveErr, s' => s' = { s with world := s.world.settingsCommit cfg saveErr }
  | .profileChanged env, s' =>
    s' = { s with world := (dynamicProfileListener cfg true env s.world).2 }
  | .endpointChanged env, s' =>
    s' = { s with world := (dynamicEndpointListener cfg true env s.world).2 }
  | .pressed behavior param1 env result, s' =>
    ∃ world, behavior.bindingPressed cfg env param1 s.world = (result, world) ∧
      s' = { s with world := world }
  | .released behavior param1 result, s' =>
    behavior.bindingReleased cfg param1 = result ∧ s' = s
  | .executorWork env raised, s' =>
    s.world.executor.work = true ∧ ∃ executor,
      s.world.executor.workHandler env.executorErr = (raised, executor) ∧
        s' = { s with world := { s.world with executor := executor } }

/-- An event between the states before and after it. -/
abbrev KeyMoment := Moment Transport KeyboardEvent

/-- The frame that reaches the protocol. -/
def frameOf (moment : KeyMoment) : Option Exchange :=
  match moment.event with
  | .usb (.handler (.process exchange)) => some exchange
  | _ => none

/-- The frames a keyboard served, with their answers. -/
def framesOf (moments : List KeyMoment) : List Exchange := moments.filterMap frameOf

/-- The text a press hands to the executor, when the executor accepts it. -/
def typedText (cfg : Config) (moment : KeyMoment) : Option (List UInt8) :=
  match moment.event with
  | .pressed .runtimeMacro param1 _ result =>
    if result = 0 then some (moment.before.world.slots.textOf param1.toNat) else none
  | .pressed .runtimeMacroDynamic param1 env result =>
    if result = 0 then
      (handedOver cfg ⟨moment.before.world.dynamic, moment.before.world.executor⟩
        (.executeSlot param1.toNat (env.clock .operation) (env.clock .rearm) env.executorErr
          result)).map fun entry => entry.committed.take entry.committedLength
    else none
  | _ => none

/-- The blocks after one more event, the newest first. -/
def recordKeys (cfg : Config) (blocks : List Block) (moment : KeyMoment) : List Block :=
  match typedText cfg moment with
  | some text => ⟨text, [], false⟩ :: blocks
  | none =>
    match moment.event, blocks with
    | .executorWork env raised, newest :: older =>
      newest.extend moment.before.world.executor env.executorErr raised :: older
    | _, _ => blocks

/-- The texts the executor took over a run, the last one first. -/
def keyBlocks (cfg : Config) (moments : List KeyMoment) : List Block :=
  moments.foldl (recordKeys cfg) []

/-- The key events of a history, in order. -/
def raisedKeys (moments : List KeyMoment) : List (Nat × Bool) :=
  moments.flatMap fun moment =>
    match moment.event with
    | .executorWork _ raised => raised
    | _ => []

end RuntimeMacro.Source
