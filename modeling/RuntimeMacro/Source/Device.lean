import RuntimeMacro.Source.ManagedFrames
import RuntimeMacro.Source.SlotBoots
import RuntimeMacro.Source.WorldAuth

/-!
# The firmware with its settings callbacks

runtime_macro.c:209-328; runtime_macro_auth.c:469-540. Runs of the firmware
from boot in which the settings subsystem calls `runtime_macro_settings_set`
and `runtime_macro_settings_commit` at any time, on any keys and values. What
the slots hold and what protects the device is well formed all along.
-/
namespace RuntimeMacro.Source
open Foundations Foundations.Runs Protocol
open AuthCore (Hmac credentialIsValid)

variable {cfg : Config} {hmac : Hmac} {w w' : World}

/-- A step of the firmware, or a call of the settings subsystem. -/
inductive DeviceEvent where
  | world (event : WorldEvent)
  | settingsSet (name : Option Name) (length : Nat) (readCb : Option SettingsReadCb)
  | settingsCommit (saveErr : Name → Int)

namespace World

/-- `runtime_macro_settings_set`, on the core and the slots of the world. -/
def settingsSet (cfg : Config) (name : Option Name) (length : Nat)
    (readCb : Option SettingsReadCb) (w : World) : World :=
  let (_, auth, slots) := SlotStore.settingsSet cfg name length readCb w.auth w.slots
  { w with auth := auth, slots := slots }

/-- `runtime_macro_settings_commit`, which may save the defaults and their
marker. -/
def settingsCommit (cfg : Config) (saveErr : Name → Int) (w : World) : World :=
  let (auth, slots, settings) :=
    SlotStore.settingsCommit cfg saveErr w.auth w.slots w.settings
  { w with auth := auth, slots := slots, settings := settings }

end World

/-- The step relation of a device that can load its settings at any time. -/
def DeviceStep (cfg : Config) (hmac : Hmac) (w : World) : DeviceEvent → World → Prop
  | .world event, w' => WorldStep cfg hmac w event w'
  | .settingsSet name length readCb, w' => w' = w.settingsSet cfg name length readCb
  | .settingsCommit saveErr, w' => w' = w.settingsCommit cfg saveErr

/-- A state of the firmware after any history since its boot, on any
storage. -/
def Reachable (cfg : Config) (hmac : Hmac) (w : World) : Prop :=
  ∃ settings events, Run (DeviceStep cfg hmac) (.boot cfg settings) events w

/-! ## Slot texts -/

namespace SlotStore

/-- The text of a slot, without its terminator. -/
def textOf (s : SlotStore) (slot : Nat) : List UInt8 :=
  (s.slots slot).text.take (s.slots slot).length

/-- The slots hold texts over the macro alphabet. -/
def Spelled (s : SlotStore) : Prop := ∀ slot, textIsValid (textOf s slot) = true

theorem textIsValid_take {text : List UInt8} (valid : textIsValid text = true) (count : Nat) :
    textIsValid (text.take count) = true := by
  unfold textIsValid at *
  rw [List.all_eq_true] at *
  intro byte member
  exact valid byte (List.mem_of_mem_take member)

theorem boot_spelled (cfg : Config) : Spelled (boot cfg) := by
  intro slot
  rfl

theorem textOf_slotReplace (slot : Nat) (text : List UInt8) (s : SlotStore) :
    textOf (slotReplace slot text s) slot = text := by
  have front := ByteBuffer.write_take_zero (s.slots slot).text text
  have inside : text.length ≤ (ByteBuffer.write (s.slots slot).text 0 text).length := by
    simp [ByteBuffer.write]
  have before := ByteBuffer.write_take_before (ByteBuffer.write (s.slots slot).text 0 text)
    text.length [0] inside
  simp only [textOf, slotReplace, Function.update_self]
  exact before.trans front

theorem textOf_slotReplace_of_ne {slot other : Nat} (different : slot ≠ other)
    (text : List UInt8) (s : SlotStore) :
    textOf (slotReplace other text s) slot = textOf s slot := by
  rw [textOf, slotReplace_of_ne different]
  rfl

theorem Spelled.slotReplace {s : SlotStore} (spelled : Spelled s) {text : List UInt8}
    (alphabet : textIsValid text = true) (slot : Nat) : Spelled (slotReplace slot text s) := by
  intro other
  by_cases same : other = slot
  · subst same
    rw [textOf_slotReplace]
    exact alphabet
  · rw [textOf_slotReplace_of_ne same]
    exact spelled other

theorem Spelled.congr {s s' : SlotStore} (spelled : Spelled s) (same : s'.slots = s.slots) :
    Spelled s' := by
  intro slot
  rw [textOf, same]
  exact spelled slot

theorem Sized.congr {s s' : SlotStore} (sized : Sized cfg s) (same : s'.slots = s.slots) :
    Sized cfg s' := by
  intro slot
  rw [same]
  exact sized slot

theorem Spelled.slotErase {s : SlotStore} (spelled : Spelled s) (slot : Nat) :
    Spelled (slotErase cfg slot s) := by
  intro other
  by_cases same : other = slot
  · subst same
    simp [textOf, SlotStore.slotErase, textIsValid]
  · have kept : textOf (SlotStore.slotErase cfg slot s) other = textOf s other := by
      simp [textOf, SlotStore.slotErase, same]
    rw [kept]
    exact spelled other

theorem Spelled.settingsSetSlot {s : SlotStore} (spelled : Spelled s) (slot length : Nat)
    (readCb : Option SettingsReadCb) :
    Spelled (settingsSetSlot cfg slot length readCb s).2 := by
  have flagged : Spelled
      { s with hasPersistedSetting := Function.update s.hasPersistedSetting slot true } :=
    spelled.congr rfl
  unfold SlotStore.settingsSetSlot
  dsimp only
  split
  · exact flagged
  split
  · exact flagged
  split
  · exact flagged
  split
  · exact flagged
  split
  · exact flagged
  next alphabet =>
    exact flagged.slotReplace (by simpa using alphabet) slot

theorem decimal_valid (number : Nat) : textIsValid (decimal number) = true := by
  have table : ∀ digit : Fin 10, Ascii.byteIsValid (UInt8.ofNat (0x30 + digit.val)) = true := by
    decide +kernel
  unfold textIsValid
  rw [List.all_eq_true]
  intro c member
  have isDigit := (decimal_isNumeral number).digits c member
  rw [← isDigit.byte]
  exact table ⟨digitOf c, isDigit.small⟩

theorem defaultText_valid (cfg : Config) (slot : Nat) :
    textIsValid (defaultText cfg slot) = true := by
  apply textIsValid_take
  have digits := decimal_valid (slot + 1)
  have front : textIsValid (ascii "Runtime Macro ") = true := by decide +kernel
  unfold textIsValid at *
  rw [List.all_append, front, digits]
  rfl

theorem Spelled.commitDefaults {s : SlotStore} (spelled : Spelled s) (saveErr : Name → Int)
    (settings : Settings) : Spelled (commitDefaults cfg saveErr s settings).1 := by
  apply commitDefaults_keeps _ _ spelled
  · intro s s' same spelled
    exact spelled.congr same
  · intro s slot _ spelled
    exact spelled.slotReplace (defaultText_valid cfg slot) slot

end SlotStore

/-- What one frame does to the slots: nothing, one text that `slotSet`
accepted, or a clear. -/
inductive SlotsEffect (cfg : Config) (s : SlotStore) : SlotStore → Prop
  | kept : SlotsEffect cfg s s
  | replaced (slot : Nat) (text : List UInt8) (fits : text.length ≤ cfg.maxTextLen)
      (alphabet : SlotStore.textIsValid text = true) : SlotsEffect cfg s (s.slotReplace slot text)
  | erased (slot : Nat) : SlotsEffect cfg s (s.slotErase cfg slot)

theorem SlotsEffect.of_kept (kept : w'.slots = w.slots) : SlotsEffect cfg w.slots w'.slots := by
  rw [kept]
  exact .kept

theorem afterHandler_slots (cfg : Config) (env : Env) (id : ContextId) (result : Frame × World) :
    (afterHandler cfg env id result).2.slots = result.2.slots := by
  unfold afterHandler
  split
  · obtain ⟨_, _, _, refreshed, kept, _⟩ := refresh_outcome cfg env id result.1 result.2
    rw [refreshed]
    exact kept.slots
  · rfl

/-- A management handler acts on the slots of the world before the gate. -/
theorem processManagement_slots {cfg : Config} {env : Env} {id : ContextId}
    {handler : World → Frame × World} {response : Frame}
    (handled : ∀ auth, SlotsEffect cfg w.slots (handler (w.withAuth auth)).2.slots) :
    SlotsEffect cfg w.slots (processManagement cfg env id handler response w).2.slots := by
  obtain ⟨auth, _, ⟨_, _, _, result⟩ | ⟨_, _, result⟩⟩ :=
    processManagement_cases cfg env id handler response w
  · rw [result]
    exact .kept
  · rw [result, afterHandler_slots]
    exact handled auth

theorem processFrame_slots (cfg : Config) (hmac : Hmac) (env : Env) (id : ContextId)
    (request : Frame) (w : World) :
    SlotsEffect cfg w.slots (processFrame cfg hmac env id request w).2.slots := by
  cases checked : baseCheck request with
  | error status =>
    simp only [processFrame, checked]
    apply SlotsEffect.of_kept
    rw [(discardForOpcode_storesKept _ _).slots, syncAuthState_slots]
  | ok opcode =>
    simp only [processFrame, checked]
    have synced := syncAuthState_slots cfg env id w
    rw [← synced]
    cases opcode with
    | list =>
      apply processManagement_slots
      intro auth
      exact .kept
    | get =>
      apply processManagement_slots
      intro auth
      exact .kept
    | set =>
      apply processManagement_slots
      intro auth
      rcases processSet_cases cfg env id request (Frame.initResponse (some request))
        ((syncAuthState cfg env id w).withAuth auth) with
        ⟨_, _, result⟩ | ⟨c, _, ⟨_, result⟩ | ⟨_, result⟩⟩
      · rw [result]
        exact .kept
      · rw [result]
        exact .kept
      · obtain ⟨_, slots, _, set, committed⟩ := commitSet_eq cfg env id
          (Frame.initResponse (some request))
          (((syncAuthState cfg env id w).withAuth auth).modify id fun _ => c)
        rw [result, committed]
        change SlotsEffect cfg _ slots
        rcases SlotStore.slotSet_cases cfg _ _ _ env.saveErr _ _ with
          refused | ⟨_, fits, alphabet, accepted⟩
        · rw [refused] at set
          cases set
          exact .kept
        · rw [accepted] at set
          cases set
          exact .replaced _ _ (by rw [List.length_take]; omega) alphabet
    | clear =>
      apply processManagement_slots
      intro auth
      rcases processClear_cases cfg env request (Frame.initResponse (some request))
        ((syncAuthState cfg env id w).withAuth auth) with ⟨_, _, _, result⟩ | ⟨_, result⟩
      · rw [result]
        exact .kept
      · rw [result]
        exact .erased _
    | passwordSet =>
      simp only [dispatch]
      obtain ⟨auth, _, ⟨_, _, _, shut⟩ | ⟨_, _, granted⟩⟩ :=
        managementAccess_cases cfg env id (syncAuthState cfg env id w)
      · simp only [shut]
        rw [if_pos (gateStatus_ne_ok _)]
        exact .kept
      · simp only [granted]
        rw [if_neg (by simp)]
        apply SlotsEffect.of_kept
        rw [processPasswordSet_slots]
        rfl
    | _ =>
      apply SlotsEffect.of_kept
      exact (dispatch_storesKept rfl).slots

theorem worldStep_slots {event : WorldEvent} (step : WorldStep cfg hmac w event w') :
    SlotsEffect cfg w.slots w'.slots := by
  cases event with
  | frame exchange =>
    have effect := processFrame_slots cfg hmac exchange.env exchange.id exchange.request w
    rw [step.result] at effect
    exact effect
  | transportReset id env =>
    rw [step]
    exact .kept
  | auth call =>
    obtain ⟨system, _, rfl⟩ := step
    exact .kept
  | timeoutWork env =>
    apply SlotsEffect.of_kept
    rw [step]
    unfold World.dynamicTimeoutWorkHandler
    split
    · rfl
    · dsimp only
      split
      · rfl
      · split
        · rfl
        · rfl
  | execute slot env result =>
    exact SlotsEffect.of_kept (congrArg (fun outcome => outcome.2.slots) step.symm)
  | ttlWork | executorWork | clearAll =>
    rw [step]
    exact .kept

/-! ## The credential -/

/-- What protects a protected device is a valid credential. -/
def Credentialed (core : AuthCore.State) : Prop :=
  core.state = .stateProtected → credentialIsValid core.credential = true

theorem settingsSetRead_valid {duplicate : Bool} {length : Nat} {readCb : Option SettingsReadCb}
    {credential : AuthCore.Credential}
    (read : AuthCore.settingsSetRead duplicate length readCb = .ok credential) :
    credentialIsValid credential = true := by
  unfold AuthCore.settingsSetRead at read
  split at read
  · cases read
  split at read
  · cases read
  dsimp only at read
  split at read
  · cases read
  split at read
  · cases read
  split at read
  next valid =>
    cases read
    exact valid
  · cases read

theorem step_credentialed {s s' : AuthCore.System} {call : AuthCore.Event}
    (step : AuthCore.Step cfg hmac s call s') (sound : CoreSound s.core)
    (credentialed : Credentialed s.core) : Credentialed s'.core := by
  intro guarded
  by_cases silent : call.writesPersistent = false
  · have same := AuthCore.step_persistent step silent
    have state : s'.core.state = s.core.state := congrArg AuthCore.Persistent.state same
    have credential : s'.core.credential = s.core.credential :=
      congrArg AuthCore.Persistent.credential same
    rw [credential]
    exact credentialed (state.symm.trans guarded)
  · cases call with
    | setCredential credential nowMs saveErr result =>
      rcases AuthCore.setCredential_cases step with ⟨failed, _⟩ | ⟨_, value, _, valid, _, left, _⟩
      · simp [AuthCore.Event.writesPersistent, failed] at silent
      · simpa [left, AuthCore.setCredentialActivate] using valid
    | settingsSet name length readCb result =>
      rcases AuthCore.settingsSet_cases step.1 with
        ⟨other, _⟩ | ⟨_, _, _, left⟩ | ⟨_, _, credential, read, left⟩
      · exact absurd other silent
      · rw [left, AuthCore.marked_state] at guarded
        cases guarded
      · rw [left]
        simpa using settingsSetRead_valid read
    | settingsCommit =>
      obtain ⟨state, _, _, same⟩ := AuthCore.settingsCommit_persistent sound.flags
      have left := step.1
      rw [left, state] at guarded
      rw [left, same guarded]
      exact credentialed guarded
    | _ => exact absurd rfl silent

/-! ## What holds in every reachable state -/

/-- What every device keeps: a core in order, a valid credential where it
is protected, and slots of the right size with typeable texts. -/
structure DeviceSound (cfg : Config) (w : World) : Prop where
  core : CoreSound w.auth
  credentialed : Credentialed w.auth
  sized : SlotStore.Sized cfg w.slots
  spelled : SlotStore.Spelled w.slots

theorem DeviceSound.boot (settings : Settings) : DeviceSound cfg (.boot cfg settings) :=
  ⟨CoreSound.boot, fun guarded => (by cases guarded), SlotStore.boot_sized cfg,
    SlotStore.boot_spelled cfg⟩

theorem DeviceSound.slots (sound : DeviceSound cfg w) {slots : SlotStore}
    (effect : SlotsEffect cfg w.slots slots) :
    SlotStore.Sized cfg slots ∧ SlotStore.Spelled slots := by
  cases effect with
  | kept => exact ⟨sound.sized, sound.spelled⟩
  | replaced slot text fits alphabet =>
    exact ⟨sound.sized.slotReplace slot fits, sound.spelled.slotReplace alphabet slot⟩
  | erased slot => exact ⟨sound.sized.slotErase slot, sound.spelled.slotErase slot⟩

theorem DeviceSound.trace (sound : DeviceSound cfg w) {writes : Bool} {core : AuthCore.State}
    (trace : CoreTrace cfg hmac writes w.auth core) : CoreSound core ∧ Credentialed core := by
  obtain ⟨calls, _, run⟩ := trace
  refine run.invariant (fun core => CoreSound core ∧ Credentialed core)
    ⟨sound.core, sound.credentialed⟩ ?_
  rintro _ _ _ ⟨core, credentialed⟩ ⟨settings, settings', step⟩
  exact ⟨core.step step, step_credentialed step core credentialed⟩

theorem DeviceSound.call (sound : DeviceSound cfg w) {call : AuthCore.Event}
    {system : AuthCore.System} (step : AuthCore.Step cfg hmac w.authSystem call system) :
    CoreSound system.core ∧ Credentialed system.core := by
  have core : CoreSound w.authSystem.core := sound.core
  exact ⟨core.step step, step_credentialed step core sound.credentialed⟩

theorem DeviceSound.world (sound : DeviceSound cfg w) {event : WorldEvent}
    (step : WorldStep cfg hmac w event w') : DeviceSound cfg w' := by
  obtain ⟨sized, spelled⟩ := sound.slots (worldStep_slots step)
  have core := sound.core.world step
  refine ⟨core, ?_, sized, spelled⟩
  cases event with
  | frame exchange =>
    have trace := processFrame_trace cfg hmac exchange.env exchange.id exchange.request w true
      fun _ _ => rfl
    rw [step.result] at trace
    exact (sound.trace trace).2
  | transportReset id env =>
    have called : AuthCore.Step cfg hmac w.authSystem .transportReset
        ⟨AuthCore.transportReset w.auth, w.settings⟩ := ⟨rfl, rfl⟩
    rw [step]
    exact (sound.call called).2
  | auth call =>
    obtain ⟨system, called, rfl⟩ := step
    exact (sound.call called).2
  | timeoutWork env =>
    have same : w'.auth = w.auth := by
      rw [step]
      unfold World.dynamicTimeoutWorkHandler
      split
      · rfl
      · dsimp only
        split
        · rfl
        · split
          · rfl
          · rfl
    rw [same]
    exact sound.credentialed
  | execute slot env result =>
    have same : w'.auth = w.auth := congrArg (fun outcome => outcome.2.auth) step.symm
    rw [same]
    exact sound.credentialed
  | ttlWork | executorWork | clearAll =>
    rw [step]
    exact sound.credentialed

theorem DeviceSound.step (sound : DeviceSound cfg w) {event : DeviceEvent}
    (step : DeviceStep cfg hmac w event w') : DeviceSound cfg w' := by
  cases event with
  | world event => exact sound.world step
  | settingsSet name length readCb =>
    rw [step]
    cases name with
    | none => exact sound
    | some name =>
      have effect := SlotStore.settingsSet_store cfg (some name) length readCb w.auth w.slots
      have sized : SlotStore.Sized cfg
          (SlotStore.settingsSet cfg (some name) length readCb w.auth w.slots).2.2 := by
        rcases effect with same | same | ⟨slot, _, same⟩
        · rw [same]
          exact sound.sized
        · rw [same]
          exact sound.sized.congr rfl
        · rw [same]
          exact SlotStore.settingsSetSlot_sized sound.sized length readCb
      have spelled : SlotStore.Spelled
          (SlotStore.settingsSet cfg (some name) length readCb w.auth w.slots).2.2 := by
        rcases effect with same | same | ⟨slot, _, same⟩
        · rw [same]
          exact sound.spelled
        · rw [same]
          exact sound.spelled.congr rfl
        · rw [same]
          exact sound.spelled.settingsSetSlot slot length readCb
      have called : AuthCore.Step cfg hmac w.authSystem
          (.settingsSet (some name) length readCb
            (AuthCore.settingsSet (some name) length readCb w.auth).1)
          ⟨(AuthCore.settingsSet (some name) length readCb w.auth).2, w.settings⟩ := ⟨rfl, rfl⟩
      have auth : (SlotStore.settingsSet cfg (some name) length readCb w.auth w.slots).2.1 =
          (AuthCore.settingsSet (some name) length readCb w.auth).2 := by
        unfold SlotStore.settingsSet
        dsimp only
        repeat' split
        all_goals rfl
      obtain ⟨core, credentialed⟩ := sound.call called
      refine ⟨?_, ?_, sized, spelled⟩
      · change CoreSound (SlotStore.settingsSet cfg (some name) length readCb w.auth w.slots).2.1
        rw [auth]
        exact core
      · change Credentialed
          (SlotStore.settingsSet cfg (some name) length readCb w.auth w.slots).2.1
        rw [auth]
        exact credentialed
  | settingsCommit saveErr =>
    have called : AuthCore.Step cfg hmac w.authSystem .settingsCommit
        ⟨AuthCore.settingsCommit w.auth, w.settings⟩ := ⟨rfl, rfl⟩
    obtain ⟨core, credentialed⟩ := sound.call called
    rw [step]
    exact ⟨core, credentialed, SlotStore.commitDefaults_sized sound.sized saveErr w.settings,
      sound.spelled.commitDefaults saveErr w.settings⟩

theorem Reachable.sound (reachable : Reachable cfg hmac w) : DeviceSound cfg w := by
  obtain ⟨settings, events, run⟩ := reachable
  exact run.invariant (DeviceSound cfg) (DeviceSound.boot settings) fun _ _ _ sound step =>
    sound.step step

end RuntimeMacro.Source
