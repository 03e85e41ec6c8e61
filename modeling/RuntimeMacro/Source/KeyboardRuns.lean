import RuntimeMacro.Source.Keyboard

/-!
# What the keyboard types

runtime_macro_executor.c:99-191; behavior_runtime_macro.c:52-79. Nothing but an
accepted press starts a text, and nothing but the executor's work item raises
key events: frames, resets, listeners and settings callbacks leave the executor
alone.
-/
namespace RuntimeMacro.Source
open Foundations Foundations.Runs
open AuthCore (Hmac)
open UsbHid (Transport usbContext)

/-! ## Frames type nothing -/

namespace Protocol

variable (cfg : Config) (hmac : Hmac) (env : Env) (id : ContextId) (request response : Frame)
  (w : World)

theorem syncAuthState_executor : (syncAuthState cfg env id w).executor = w.executor := by
  unfold syncAuthState
  dsimp only
  split <;> split <;> rfl

theorem managementAccess_executor :
    (managementAccess cfg env id w).2.executor = w.executor := by
  unfold managementAccess
  dsimp only
  repeat' split
  all_goals rfl

theorem refreshProtectedSession_executor :
    (refreshProtectedSession cfg env id response w).2.executor = w.executor := by
  unfold refreshProtectedSession
  dsimp only
  repeat' split
  all_goals rfl

theorem processManagement_executor {handler : World → Frame × World}
    (handled : ∀ w, (handler w).2.executor = w.executor) :
    (processManagement cfg env id handler response w).2.executor = w.executor := by
  unfold processManagement
  dsimp only
  repeat' split
  · exact managementAccess_executor ..
  · rw [refreshProtectedSession_executor, handled, managementAccess_executor]
  · rw [handled, managementAccess_executor]

theorem finishSet_executor : (finishSet cfg env id response w).2.executor = w.executor := by
  unfold finishSet commitSet
  dsimp only
  repeat' split
  all_goals rfl

theorem processSet_executor :
    (processSet cfg env id request response w).2.executor = w.executor := by
  unfold processSet
  repeat' split
  · rfl
  · rw [finishSet_executor]
    rfl
  · rfl
  · rw [finishSet_executor]
    rfl

theorem processClear_executor :
    (processClear cfg env request response w).2.executor = w.executor := by
  unfold processClear
  dsimp only
  repeat' split
  all_goals rfl

theorem finishPasswordSet_executor :
    (finishPasswordSet cfg env id response w).2.executor = w.executor := by
  unfold finishPasswordSet commitPasswordSet
  dsimp only
  repeat' split
  · rw [refreshProtectedSession_executor]
  all_goals rfl

theorem processPasswordSet_executor :
    (processPasswordSet cfg env id request response w).2.executor = w.executor := by
  unfold processPasswordSet
  repeat' split
  · rfl
  · rw [finishPasswordSet_executor]
    rfl
  · rfl
  · rw [finishPasswordSet_executor]
    rfl

theorem dispatch_executor (opcode : Opcode) :
    (dispatch cfg hmac env id opcode request response w).2.executor = w.executor := by
  cases opcode with
  | list | get => exact processManagement_executor _ _ _ _ _ fun _ => rfl
  | set => exact processManagement_executor _ _ _ _ _ (processSet_executor _ _ _ _ _)
  | clear => exact processManagement_executor _ _ _ _ _ (processClear_executor _ _ _ _)
  | passwordSet =>
    simp only [dispatch]
    split
    · exact managementAccess_executor ..
    · rw [processPasswordSet_executor, managementAccess_executor]
  | capabilities => rfl
  | _ =>
    simp only [dispatch, processDynamicBegin, processDynamicData, processDynamicClear,
      processAuthInfo, processAuthChallenge, processAuthProve, processLock]
    repeat' split
    all_goals rfl

theorem processFrame_executor :
    (processFrame cfg hmac env id request w).2.executor = w.executor := by
  unfold processFrame
  dsimp only
  split
  · have discarded : (discardForOpcode cfg id (env.clock .cleanup) request.opcode
        (syncAuthState cfg env id w)).executor = (syncAuthState cfg env id w).executor := by
      unfold discardForOpcode
      split <;> rfl
    rw [discarded, syncAuthState_executor]
  · rw [dispatch_executor, syncAuthState_executor]

end Protocol

/-! ## What one event does -/

section Steps
variable {cfg : Config} {hmac : Hmac} {settings : Settings} {s s' : Transport}
  {moment : KeyMoment} {moments past : List KeyMoment} {w w' : World} {param1 : UInt32}
  {result : Int}

/-- A cell out of range does nothing; any other cell is the number of its
slot. -/
theorem onKeymapBindingPressed_cases {slotCount : Nat} {execute : Nat → World → Int × World}
    (small : slotCount ≤ 256)
    (pressed : onKeymapBindingPressed slotCount execute param1 w = (result, w')) :
    (slotCount ≤ param1.toNat ∧ result = -einval ∧ w' = w) ∨
    (param1.toNat < slotCount ∧ execute param1.toNat w = (result, w')) := by
  unfold onKeymapBindingPressed at pressed
  split at pressed
  next outside =>
    obtain ⟨rfl, rfl⟩ := Prod.mk.inj pressed
    exact Or.inl ⟨outside, rfl, rfl⟩
  next inside =>
    rw [Nat.not_le] at inside
    refine Or.inr ⟨inside, ?_⟩
    have narrowed : param1.toUInt8.toNat = param1.toNat := by
      rw [UInt32.toNat_toUInt8]
      exact Nat.mod_eq_of_lt (by omega)
    rw [narrowed] at pressed
    dsimp only at pressed
    split at pressed
    · exact pressed
    next accepted =>
      rw [ne_eq, not_not] at accepted
      rw [← pressed]
      exact Prod.ext accepted rfl

theorem runtimeMacro_pressed {env : Env}
    (pressed : MacroBehavior.runtimeMacro.bindingPressed cfg env param1 w = (result, w')) :
    (cfg.slotCount ≤ param1.toNat ∧ result = -einval ∧ w' = w) ∨
    (param1.toNat < cfg.slotCount ∧ w.execute cfg param1.toNat env = (result, w')) := by
  have small : cfg.slotCount ≤ 256 := Nat.le_trans cfg.slotCount_range.2 (by decide)
  unfold MacroBehavior.bindingPressed at pressed
  exact onKeymapBindingPressed_cases small pressed

theorem runtimeMacroDynamic_pressed {env : Env}
    (pressed : MacroBehavior.runtimeMacroDynamic.bindingPressed cfg env param1 w = (result, w')) :
    (cfg.dynamicSlotCount ≤ param1.toNat ∧ result = -einval ∧ w' = w) ∨
    (param1.toNat < cfg.dynamicSlotCount ∧
      w.executeSlot cfg param1.toNat env = (result, w')) := by
  have small : cfg.dynamicSlotCount ≤ 256 := Nat.le_trans cfg.dynamicSlotCount_range.2 (by decide)
  unfold MacroBehavior.bindingPressed at pressed
  exact onKeymapBindingPressed_cases small pressed

theorem execute_world {slot : Nat} {env : Env} (executed : w.execute cfg slot env = (result, w')) :
    Typing.execute cfg slot env.executorErr ⟨w.executor, w.slots, w.settings⟩ =
      (result, w'.executor) ∧ w' = { w with executor := w'.executor } := by
  unfold World.execute at executed
  dsimp only at executed
  obtain ⟨rfl, rfl⟩ := Prod.mk.inj executed
  exact ⟨rfl, rfl⟩

theorem executeSlot_world {slot : Nat} {env : Env}
    (executed : w.executeSlot cfg slot env = (result, w')) :
    TextStep cfg ⟨w.dynamic, w.executor⟩ (.executeSlot slot (env.clock .operation)
      (env.clock .rearm) env.executorErr result) ⟨w'.dynamic, w'.executor⟩ := by
  unfold World.executeSlot at executed
  dsimp only at executed
  obtain ⟨rfl, rfl⟩ := Prod.mk.inj executed
  rfl

/-- What an event does behind the transport: it is a call of the firmware, it
discards the protocol context in a reset, it is a settings callback, or it
concerns the executor alone. -/
inductive KeyEffect (cfg : Config) (hmac : Hmac) (moment : KeyMoment) : Prop
  | called (event : WorldEvent)
      (step : WorldStep cfg hmac moment.before.world event moment.after.world)
      (frame : event.exchange? = frameOf moment) (own : onContext usbContext event = true)
  | discarded (nowMs : Int) (event : moment.event = .usb (.reset (.discard nowMs)))
      (same : moment.after.world = moment.before.world.discard cfg usbContext nowMs)
  | loaded (name : Option Name) (length : Nat) (readCb : Option SettingsReadCb)
      (event : moment.event = .settingsSet name length readCb)
      (same : moment.after.world = moment.before.world.settingsSet cfg name length readCb)
  | committed (saveErr : Name → Int) (event : moment.event = .settingsCommit saveErr)
      (same : moment.after.world = moment.before.world.settingsCommit cfg saveErr)
  | typed (frame : frameOf moment = none) (executor : Executor)
      (same : moment.after.world = { moment.before.world with executor := executor })

/-- A step of the transport is at most one call of the firmware, and a frame is
on its context. -/
theorem usb_effect {event : UsbHid.Event}
    (step : UsbHid.Step cfg hmac s event s') : KeyEffect cfg hmac ⟨s, .usb event, s'⟩ := by
  have idle : s'.world = s.world → frameOf ⟨s, .usb event, s'⟩ = none →
      KeyEffect cfg hmac ⟨s, .usb event, s'⟩ := by
    intro same frame
    exact .typed frame s.world.executor same
  cases step with
  | report step =>
    cases step <;> exact idle rfl rfl
  | ready step => cases step <;> exact idle rfl rfl
  | bind => exact idle rfl rfl
  | @outside called world elsewhere step =>
    cases called with
    | frame => exact elsewhere.elim
    | _ => exact .called _ step rfl rfl
  | handler step =>
    cases step with
    | @process _ _ exchange _ world _ _ owner _ processed =>
      refine .called (.frame exchange) ?_ rfl (by simpa [onContext] using owner)
      simp only [Protocol.process, Prod.mk.injEq, Option.some.injEq] at processed
      exact Prod.ext processed.2.1 processed.2.2
    | _ => exact idle rfl rfl
  | reset step =>
    cases step with
    | authReset =>
      exact .called (.auth .transportReset) ⟨⟨_, s.world.settings⟩, ⟨rfl, rfl⟩, rfl⟩ rfl rfl
    | discard => exact .discarded _ rfl rfl
    | @clear reset statusAfter env held point =>
      by_cases clears : cfg.dynamicClearOnUsbDisconnect = true ∧
          reset.actualManagementUsbDisconnect statusAfter = true
      · exact .called (.clearAll env) (if_pos clears) rfl rfl
      · exact idle (if_neg clears) rfl
    | _ => exact idle rfl rfl

theorem dynamicListener_world {clears : Bool} {env : Env} :
    (dynamicListener cfg clears true env w).2 = if clears then w.clearAll cfg env else w := by
  unfold dynamicListener
  split
  · contradiction
  · split <;> rfl

theorem key_effect (step : KeyboardStep cfg hmac moment.before moment.event moment.after) :
    KeyEffect cfg hmac moment := by
  obtain ⟨before, event, after⟩ := moment
  have listened : ∀ {event : KeyboardEvent} {clears : Bool} {env : Env},
      frameOf ⟨before, event, after⟩ = none →
      after.world = (dynamicListener cfg clears true env before.world).2 →
      KeyEffect cfg hmac ⟨before, event, after⟩ := by
    intro event clears env frame world
    rw [dynamicListener_world] at world
    split at world
    · exact .called (.clearAll env) world frame.symm rfl
    · exact .typed frame before.world.executor world
  cases event with
  | usb event => exact usb_effect step.2
  | settingsSet name length readCb =>
    exact .loaded name length readCb rfl (congrArg Transport.world step)
  | settingsCommit saveErr => exact .committed saveErr rfl (congrArg Transport.world step)
  | profileChanged env | endpointChanged env =>
    exact listened rfl (congrArg Transport.world step)
  | released behavior param1 result =>
    obtain ⟨_, same⟩ := step
    exact .typed rfl before.world.executor (congrArg Transport.world same)
  | executorWork env raised =>
    obtain ⟨_, executor, _, same⟩ := step
    exact .typed rfl executor (congrArg Transport.world same)
  | pressed behavior param1 env result =>
    obtain ⟨world, pressed, same⟩ := step
    have left : after.world = world := congrArg Transport.world same
    cases behavior with
    | runtimeMacro =>
      rcases runtimeMacro_pressed pressed with ⟨_, _, kept⟩ | ⟨_, executed⟩
      · exact .typed rfl before.world.executor (left.trans kept)
      · exact .typed rfl world.executor (left.trans (execute_world executed).2)
    | runtimeMacroDynamic =>
      rcases runtimeMacroDynamic_pressed pressed with ⟨_, _, kept⟩ | ⟨_, executed⟩
      · exact .typed rfl before.world.executor (left.trans kept)
      · refine .called (.execute param1.toNat env result) ?_ rfl rfl
        rw [left]
        exact executed

/-! ## Frames in a history -/

theorem framesOf_snoc (past : List KeyMoment) (moment : KeyMoment) :
    framesOf (past ++ [moment]) = framesOf past ++ (frameOf moment).toList := by
  unfold framesOf
  rw [List.filterMap_append]
  cases found : frameOf moment <;> simp [found]

/-- A frame that reaches the protocol is on the context of the transport. -/
theorem key_frame {exchange : Exchange} (effect : KeyEffect cfg hmac moment)
    (frame : frameOf moment = some exchange) :
    FrameStep cfg hmac moment.before.world exchange moment.after.world ∧
      exchange.id = usbContext := by
  cases effect with
  | called event step isFrame own =>
    rw [frame] at isFrame
    cases event with
    | frame other =>
      cases isFrame
      exact ⟨step, by simpa [onContext] using own⟩
    | _ => cases isFrame
  | discarded _ event | loaded _ _ _ event | committed _ event =>
    rw [frameOf, event] at frame
    cases frame
  | typed none =>
    rw [none] at frame
    cases frame

/-! ## What the executor types -/

theorem usb_executor {event : UsbHid.Event} (onUsb : event.onUsb = true)
    (step : UsbHid.Step cfg hmac s event s') : s'.world.executor = s.world.executor := by
  cases step with
  | report step => cases step <;> rfl
  | ready step => cases step <;> rfl
  | bind => rfl
  | @outside called world elsewhere step =>
    cases called with
    | timeoutWork env =>
      change world.executor = s.world.executor
      rw [step]
      unfold World.dynamicTimeoutWorkHandler
      dsimp only
      repeat' split
      all_goals rfl
    | ttlWork env =>
      change world.executor = s.world.executor
      rw [step]
      rfl
    | _ => cases onUsb
  | handler step =>
    cases step with
    | @process _ _ exchange _ world _ _ _ _ processed =>
      simp only [Protocol.process, Prod.mk.injEq, Option.some.injEq] at processed
      rw [← processed.2.2]
      exact Protocol.processFrame_executor ..
    | _ => rfl
  | reset step =>
    cases step with
    | clear =>
      simp only [Transport.resetting]
      split <;> rfl
    | _ => rfl

/-- What the slots hold of their texts is all of them. -/
def HoldsTexts (d : DynamicStore) : Prop :=
  ∀ slot, (d.slots slot).committedValid = true →
    (d.slots slot).committedLength ≤ (d.slots slot).committed.length

theorem typedText_pressed {behavior : MacroBehavior} {env : Env} {text : List UInt8}
    {before after : Transport}
    (typed : typedText cfg ⟨before, .pressed behavior param1 env result, after⟩ = some text) :
    result = 0 := by
  cases behavior with
  | runtimeMacro | runtimeMacroDynamic =>
    simp only [typedText] at typed
    split at typed
    · assumption
    · cases typed

/-- A step keeps the executor in step with the blocks: a press that is accepted
opens one. -/
theorem TracksBlocks.key {blocks : List Block}
    (tracks : TracksBlocks moment.before.world.executor blocks)
    (sized : SlotStore.Sized cfg moment.before.world.slots)
    (holds : HoldsTexts moment.before.world.dynamic)
    (step : KeyboardStep cfg hmac moment.before moment.event moment.after) :
    TracksBlocks moment.after.world.executor (recordKeys cfg blocks moment) := by
  obtain ⟨before, event, after⟩ := moment
  have kept : after.world.executor = before.world.executor →
      recordKeys cfg blocks ⟨before, event, after⟩ = blocks →
      TracksBlocks after.world.executor (recordKeys cfg blocks ⟨before, event, after⟩) := by
    intro executor same
    rw [executor, same]
    exact tracks
  cases event with
  | usb event => exact kept (usb_executor step.1 step.2) rfl
  | settingsSet | settingsCommit =>
    exact kept ((congrArg (fun s : Transport => s.world.executor) step).trans rfl) rfl
  | profileChanged env | endpointChanged env =>
    refine kept ?_ rfl
    have world := congrArg Transport.world step
    rw [show after.world = _ from world]
    exact (congrArg World.executor dynamicListener_world).trans (by split <;> rfl)
  | released behavior param1 result =>
    exact kept (congrArg (fun s : Transport => s.world.executor) step.2) rfl
  | executorWork env raised =>
    obtain ⟨pending, executor, worked, same⟩ := step
    have typing : TypingStep cfg ⟨before.world.executor, before.world.slots, before.world.settings⟩
        (.work env.executorErr raised) ⟨executor, before.world.slots, before.world.settings⟩ :=
      ⟨pending, worked, rfl, rfl⟩
    have next := TracksBlocks.step (s := ⟨before.world.executor, _, _⟩) tracks sized typing
    have left : after.world.executor = executor :=
      congrArg (fun s : Transport => s.world.executor) same
    rw [left]
    cases blocks with
    | nil => exact next
    | cons newest older => exact next
  | pressed behavior param1 env result =>
    obtain ⟨world, pressed, same⟩ := step
    have left : after.world = world := congrArg Transport.world same
    have refused : after.world.executor = before.world.executor → result ≠ 0 →
        TracksBlocks after.world.executor
          (recordKeys cfg blocks ⟨before, .pressed behavior param1 env result, after⟩) := by
      intro executor nonzero
      refine kept executor ?_
      have untyped : typedText cfg ⟨before, .pressed behavior param1 env result, after⟩ = none := by
        rw [Option.eq_none_iff_forall_ne_some]
        exact fun text typed => nonzero (typedText_pressed typed)
      unfold recordKeys
      rw [untyped]
    cases behavior with
    | runtimeMacro =>
      rcases runtimeMacro_pressed pressed with ⟨_, rfl, unchanged⟩ | ⟨_, executed⟩
      · exact refused (congrArg World.executor (left.trans unchanged)) (by decide)
      · have typing : TypingStep cfg
            ⟨before.world.executor, before.world.slots, before.world.settings⟩
            (.execute param1.toNat env.executorErr result)
            ⟨world.executor, before.world.slots, before.world.settings⟩ :=
          ⟨(execute_world executed).1, rfl, rfl⟩
        have next := TracksBlocks.step (s := ⟨before.world.executor, _, _⟩) tracks sized typing
        have recorded : recordKeys cfg blocks
            ⟨before, .pressed .runtimeMacro param1 env result, after⟩ =
              if result = 0 then ⟨before.world.slots.textOf param1.toNat, [], false⟩ :: blocks
              else blocks := by
          by_cases accepted : result = 0
          · simp [recordKeys, typedText, accepted]
          · simp [recordKeys, typedText, accepted]
        rw [left, recorded]
        exact next
    | runtimeMacroDynamic =>
      rcases runtimeMacroDynamic_pressed pressed with ⟨_, rfl, unchanged⟩ | ⟨_, executed⟩
      · exact refused (congrArg World.executor (left.trans unchanged)) (by decide)
      rcases executeSlot_cases (executeSlot_world executed) with
        ⟨handed, _, same, _⟩ | ⟨entry, handed, held, valid, _, started, _⟩
      · refine kept ((congrArg World.executor left).trans same) ?_
        simp [recordKeys, typedText, handed]
      · have enough : entry.committedLength ≤ entry.committed.length := by
          rw [held] at valid ⊢
          exact holds _ valid
        have next := tracks.start enough started
        have recorded : recordKeys cfg blocks
            ⟨before, .pressed .runtimeMacroDynamic param1 env result, after⟩ =
              if result = 0 then
                ⟨entry.committed.take entry.committedLength, [], false⟩ :: blocks
              else blocks := by
          by_cases accepted : result = 0
          · rw [accepted] at handed
            simp [recordKeys, typedText, handed, accepted]
          · simp [recordKeys, typedText, accepted]
        rw [left, recorded]
        exact next

end Steps

end RuntimeMacro.Source
