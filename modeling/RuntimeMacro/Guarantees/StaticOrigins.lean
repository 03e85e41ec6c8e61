import RuntimeMacro.Guarantees.SetCommit
import RuntimeMacro.Source.FrameFootprint
import RuntimeMacro.Source.KeyboardService

/-!
# Where the static texts come from

runtime_macro.c:82-89,129-153,209-328; runtime_macro_protocol.c:846-967. On
every run of the keyboard a static slot that is not empty holds what was last
written to it: the value read from its key in the settings, its default, or the
chunks of one SET upload, of which the last passed the management gate.
-/
namespace RuntimeMacro.Guarantees.StaticOrigins
open Source Source.Protocol Foundations Foundations.Runs
open AuthCore (Hmac)
open Context (KeepsOrDrops)
open SlotStore (textOf textOf_slotReplace textOf_slotReplace_of_ne slotErase)
open UsbHid (AtRest Transport usbContext)
open SetCommit (IsUpload accepted_holds)

variable {cfg : Config} {hmac : Hmac} {settings : Settings} {s : Transport} {w w' : World}
  {moment : KeyMoment} {moments past : List KeyMoment} {exchange : Exchange}

/-! ## What an event does to the slots -/

/-- No event of the world but a frame touches the static slots. -/
theorem other_slots {event : WorldEvent} (step : WorldStep cfg hmac w event w')
    (silent : event.exchange? = none) : w'.slots = w.slots := by
  cases event with
  | frame => cases silent
  | auth call =>
    obtain ⟨system, _, rfl⟩ := step
    rfl
  | timeoutWork env =>
    rw [step]
    unfold World.dynamicTimeoutWorkHandler
    dsimp only
    repeat' split
    all_goals rfl
  | execute slot env result => exact congrArg (fun outcome => outcome.2.slots) step.symm
  | executorWork env => rw [step]
  | transportReset | ttlWork | clearAll =>
    rw [step]
    rfl

/-- Everything but a frame keeps an upload or drops it, so what a context
tracks is never made longer by it. -/
theorem other_keepsOrDrops {event : WorldEvent} (step : WorldStep cfg hmac w event w')
    (silent : event.exchange? = none) (id : ContextId) :
    KeepsOrDrops .set (w.contexts id) (w'.contexts id) := by
  cases event with
  | frame => cases silent
  | auth call =>
    obtain ⟨system, _, rfl⟩ := step
    exact KeepsOrDrops.refl _ _
  | transportReset owner env =>
    rw [step]
    by_cases owned : id = owner
    · subst owned
      rw [World.transportReset, World.discard_contexts_self]
      exact Or.inr rfl
    · rw [World.transportReset, World.discard_contexts_of_ne _ _ _ _ _ owned]
      exact KeepsOrDrops.refl _ _
  | timeoutWork env =>
    rw [step]
    unfold World.dynamicTimeoutWorkHandler
    split
    · exact KeepsOrDrops.refl _ _
    next owner _ =>
      dsimp only
      split
      · exact KeepsOrDrops.refl _ _
      · split
        · exact KeepsOrDrops.refl _ _
        · by_cases owned : id = owner
          · subst owned
            rw [World.clearDynamic_contexts_self]
            exact Or.inl rfl
          · rw [World.clearDynamic_contexts_of_ne _ _ _ _ _ owned]
            exact KeepsOrDrops.refl _ _
  | execute slot env result =>
    have same : w'.contexts = w.contexts := congrArg (fun outcome => outcome.2.contexts) step.symm
    rw [same]
    exact KeepsOrDrops.refl _ _
  | ttlWork | executorWork | clearAll =>
    rw [step]
    exact KeepsOrDrops.refl _ _

/-! ## The SET upload of the history -/

/-- The contexts track their uploads through the keyboard's own events too,
which send no frames. -/
theorem tracks_key (tracks : ∀ id, SetCommit.Tracks id (framesOf past)
      (moment.before.world.contexts id))
    (effect : KeyEffect cfg hmac moment) (id : ContextId) :
    SetCommit.Tracks id (framesOf (past ++ [moment])) (moment.after.world.contexts id) := by
  have silent : frameOf moment = none →
      KeepsOrDrops .set (moment.before.world.contexts id) (moment.after.world.contexts id) →
      SetCommit.Tracks id (framesOf (past ++ [moment])) (moment.after.world.contexts id) := by
    intro frame kept
    rw [framesOf_snoc, frame]
    rw [Option.toList_none, List.append_nil]
    rcases kept with same | dropped
    · exact (tracks id).congr same
    · exact SetCommit.Tracks.of_dropped dropped
  cases frame : frameOf moment with
  | some exchange =>
    rw [framesOf_snoc, frame]
    exact SetCommit.Tracks.step tracks (key_frame effect frame).1 id
  | none =>
    refine silent frame ?_
    cases effect with
    | called event step isFrame => exact other_keepsOrDrops step (isFrame.trans frame) id
    | discarded nowMs _ same =>
      rw [same]
      by_cases owned : id = usbContext
      · subst owned
        rw [World.discard_contexts_self]
        exact Or.inr rfl
      · rw [World.discard_contexts_of_ne _ _ _ _ _ owned]
        exact KeepsOrDrops.refl _ _
    | loaded _ _ _ _ same | committed _ _ same | typed _ _ same =>
      rw [same]
      exact KeepsOrDrops.refl _ _

/-! ## Writers -/

/-- How an event gives a slot its text, after `earlier`. -/
inductive Writes (cfg : Config) (earlier : List KeyMoment) (moment : KeyMoment) (slot : Nat)
    (text : List UInt8) : Prop
  | uploaded (closing : Exchange) (upload : List Exchange) (frame : frameOf moment = some closing)
      (isSet : closing.opcode = some .set)
      (isUpload : IsUpload usbContext (framesOf earlier) closing upload)
      (same : ∀ chunk ∈ upload, chunk.request.requestId = closing.request.requestId ∧
        chunk.request.slot = closing.request.slot ∧
        chunk.request.totalLength = closing.request.totalLength)
      (target : closing.request.slot.toNat = slot) (carried : uploadText upload = text)
      (whole : text.length = closing.request.totalLength)
      (gate : GateOpen closing.env moment.before.world.auth)
  | stored (length : Nat) (readCb : SettingsReadCb)
      (event : moment.event =
        .settingsSet (some (ascii "slot" ++ 0x2F :: SlotStore.decimal slot)) length (some readCb))
      (read : (readCb length).1 = length) (value : (readCb length).2.take length = text)
  | default (saveErr : Name → Int) (event : moment.event = .settingsCommit saveErr)
      (text : SlotStore.defaultText cfg slot = text)

theorem textOf_slotErase (slot other : Nat) (s : SlotStore) :
    textOf (slotErase cfg other s) slot = textOf s slot ∨
      textOf (slotErase cfg other s) slot = [] := by
  by_cases same : slot = other
  · subst same
    exact Or.inr (by simp [textOf, SlotStore.slotErase])
  · exact Or.inl (by simp [textOf, SlotStore.slotErase, same])

/-- A settings callback changes the text of its slot when the value has been
read in full, and no other text. -/
theorem settingsSetSlot_text (slot target length : Nat) (readCb : Option SettingsReadCb)
    (s : SlotStore) :
    textOf (SlotStore.settingsSetSlot cfg target length readCb s).2 slot = textOf s slot ∨
      ∃ cb, readCb = some cb ∧ slot = target ∧ (cb length).1 = length ∧
        textOf (SlotStore.settingsSetSlot cfg target length readCb s).2 slot =
          (cb length).2.take length := by
  unfold SlotStore.settingsSetSlot
  dsimp only
  split
  · exact Or.inl rfl
  next cb =>
    split
    · exact Or.inl rfl
    split
    · exact Or.inl rfl
    split
    · exact Or.inl rfl
    next read =>
      split
      · exact Or.inl rfl
      · by_cases same : slot = target
        · subst same
          exact Or.inr ⟨cb, rfl, rfl, not_not.mp read, textOf_slotReplace ..⟩
        · exact Or.inl (textOf_slotReplace_of_ne same ..)

/-- The commit leaves a text, or replaces it by the default of its slot. -/
theorem commitDefaults_text (saveErr : Name → Int) (s : SlotStore) (settings : Settings)
    (slot : Nat) :
    textOf (SlotStore.commitDefaults cfg saveErr s settings).1 slot = textOf s slot ∨
      textOf (SlotStore.commitDefaults cfg saveErr s settings).1 slot =
        SlotStore.defaultText cfg slot := by
  refine SlotStore.commitDefaults_keeps
    (P := fun store => textOf store slot = textOf s slot ∨
      textOf store slot = SlotStore.defaultText cfg slot) ?_ ?_ (Or.inl rfl) saveErr settings
  · intro store store' same kept
    have unchanged : textOf store' slot = textOf store slot := by
      unfold textOf
      rw [same]
    rw [unchanged]
    exact kept
  · intro store target _ kept
    by_cases same : slot = target
    · subst same
      exact Or.inr (textOf_slotReplace ..)
    · rw [textOf_slotReplace_of_ne same]
      exact kept

/-- The slots do not change behind a shut gate: what manages is refused there,
and the rest does not reach them. -/
theorem gate_open (step : FrameStep cfg hmac w exchange w') (moved : w'.slots ≠ w.slots) :
    GateOpen exchange.env w.auth := by
  have looked : AuthCore.Looked w.auth (syncAuthState cfg exchange.env exchange.id w).auth := by
    rw [syncAuthState_auth]
    exact observedSession_looked exchange.env w.auth
  by_contra shut
  have synced : ¬ GateOpen exchange.env (syncAuthState cfg exchange.env exchange.id w).auth := by
    rintro (isOpen | ⟨guarded, active, live⟩)
    · exact shut (Or.inl (looked.state.symm.trans isOpen))
    · have same := looked.of_session active
      rw [same] at guarded active live
      exact shut (Or.inr ⟨guarded, active, live⟩)
  have kept := processFrame_storesKept cfg hmac exchange.env exchange.id exchange.request w
    fun _ _ _ => synced
  rw [step.result] at kept
  exact moved kept.slots

/-- A SET frame that changes a text completes an upload, and passed the gate.
Its context tracks the frames that the upload is made of. -/
theorem set_writes (tracks : ∀ id, SetCommit.Tracks id (framesOf past)
      (moment.before.world.contexts id))
    (effect : KeyEffect cfg hmac moment) (frame : frameOf moment = some exchange)
    (isSet : exchange.opcode = some .set) {slot : Nat}
    (changed : textOf moment.after.world.slots slot ≠ textOf moment.before.world.slots slot) :
    Writes cfg past moment slot (textOf moment.after.world.slots slot) := by
  obtain ⟨step, owned⟩ := key_frame effect frame
  have outcome := processFrame_set cfg hmac exchange.env exchange.id isSet moment.before.world
  rw [step.result] at outcome
  have moved : moment.after.world.slots ≠ moment.before.world.slots :=
    fun same => changed (by rw [same])
  cases outcome with
  | refused _ _ kept | staged _ _ _ _ _ kept => exact absurd kept.slots moved
  | committed c err sized accepted complete set =>
    obtain ⟨upload, isUpload, holds, _, _⟩ := accepted_holds (tracks exchange.id) sized
      sync_upload accepted
    have self : exchange ∈ upload := by
      rcases isUpload with ⟨_, rfl⟩ | ⟨_, _, _, _, _, _, _, rfl⟩ <;> simp
    have target : c.setSlot = exchange.request.slot.toNat := (holds.slot _ self).symm
    have total : c.setTotalLength = exchange.request.totalLength := (holds.total _ self).symm
    have carried : c.setStaging.take c.setTotalLength = uploadText upload := by
      rw [← complete, holds.bytes]
    rcases SlotStore.slotSet_cases cfg c.setSlot c.setStaging c.setTotalLength
      exchange.env.saveErr moment.before.world.slots moment.before.world.settings with
      refused | ⟨_, _, _, replaced⟩
    · rw [refused] at set
      exact absurd (congrArg (fun outcome => outcome.2.1) set).symm moved
    · rw [replaced] at set
      have slots : moment.after.world.slots =
          moment.before.world.slots.slotReplace c.setSlot (uploadText upload) := by
        rw [← carried]
        exact (congrArg (fun outcome => outcome.2.1) set).symm
      have here : slot = c.setSlot := by
        by_contra away
        exact changed (by rw [slots, textOf_slotReplace_of_ne away])
      have text : textOf moment.after.world.slots slot = uploadText upload := by
        rw [slots, here, textOf_slotReplace]
      refine .uploaded exchange upload frame isSet (owned ▸ isUpload) ?_
        (target.symm.trans here.symm) text.symm ?_ ?_
      · intro chunk member
        exact ⟨(holds.requestId chunk member).trans (holds.requestId _ self).symm,
          UInt8.toNat_inj.mp ((holds.slot chunk member).trans target),
          (holds.total chunk member).trans total⟩
      · rw [text, ← holds.received, complete, total]
      · exact gate_open step moved

/-- Whatever changes a text into another one writes it: a SET, a callback that
loads it, or the commit of the defaults. A CLEAR leaves nothing. -/
theorem key_writes (tracks : ∀ id, SetCommit.Tracks id (framesOf past)
      (moment.before.world.contexts id))
    (effect : KeyEffect cfg hmac moment) {slot : Nat}
    (changed : textOf moment.after.world.slots slot ≠ textOf moment.before.world.slots slot)
    (nonempty : textOf moment.after.world.slots slot ≠ []) :
    Writes cfg past moment slot (textOf moment.after.world.slots slot) := by
  cases frame : frameOf moment with
  | some exchange =>
    by_cases isSet : exchange.opcode = some .set
    · exact set_writes tracks effect frame isSet changed
    · rcases frame_slots (key_frame effect frame).1 isSet with same | ⟨_, same⟩
      · exact absurd (by rw [same]) changed
      · rcases @textOf_slotErase cfg slot exchange.request.slot.toNat
          moment.before.world.slots with
          kept | empty
        · exact absurd (by rw [same, kept]) changed
        · exact absurd (by rw [same, empty]) nonempty
  | none =>
    cases effect with
    | called event step isFrame =>
      exact absurd (by rw [other_slots step (isFrame.trans frame)]) changed
    | discarded _ _ same => exact absurd (by rw [same]; rfl) changed
    | typed _ _ same => exact absurd (by rw [same]) changed
    | loaded name length readCb event same =>
      have slots : moment.after.world.slots = (SlotStore.settingsSet cfg name length readCb
          moment.before.world.auth moment.before.world.slots).2.2 :=
        congrArg World.slots same
      rcases SlotStore.settingsSet_store cfg name length readCb moment.before.world.auth
        moment.before.world.slots with unchanged | flagged | ⟨target, rfl, set⟩
      · exact absurd (by rw [slots, unchanged]) changed
      · exact absurd (by rw [slots, flagged]; rfl) changed
      · rw [slots, set] at changed ⊢
        rcases @settingsSetSlot_text cfg slot target length readCb
          moment.before.world.slots with kept | ⟨cb, rfl, rfl, read, text⟩
        · exact absurd kept changed
        · exact .stored length cb event read text.symm
    | committed saveErr event same =>
      have slots : moment.after.world.slots = (SlotStore.commitDefaults cfg saveErr
          moment.before.world.slots moment.before.world.settings).1 := congrArg World.slots same
      rw [slots] at changed ⊢
      rcases commitDefaults_text saveErr moment.before.world.slots moment.before.world.settings
        slot with kept | text
      · exact absurd kept changed
      · exact .default saveErr event text.symm

/-! ## Runs -/

/-- A text in a slot was written, was there behind the event that wrote it, and
has been there since. -/
def Written (cfg : Config) (past : List KeyMoment) (s : Transport) : Prop :=
  ∀ slot, textOf s.world.slots slot ≠ [] → ∃ earlier writer later,
    past = earlier ++ writer :: later ∧
    Writes cfg earlier writer slot (textOf s.world.slots slot) ∧
    textOf writer.after.world.slots slot = textOf s.world.slots slot ∧
    ∀ moment ∈ later, textOf moment.after.world.slots slot = textOf s.world.slots slot

theorem Written.step (written : Written cfg past moment.before)
    (tracks : ∀ id, SetCommit.Tracks id (framesOf past) (moment.before.world.contexts id))
    (effect : KeyEffect cfg hmac moment) : Written cfg (past ++ [moment]) moment.after := by
  intro slot nonempty
  by_cases same : textOf moment.after.world.slots slot = textOf moment.before.world.slots slot
  · rw [same] at nonempty
    obtain ⟨earlier, writer, later, split, writes, there, kept⟩ := written slot nonempty
    refine ⟨earlier, writer, later ++ [moment], by simp [split], same ▸ writes,
      there.trans same.symm, ?_⟩
    intro other member
    rcases List.mem_append.mp member with early | last
    · exact (kept other early).trans same.symm
    · rw [List.mem_singleton.mp last]
  · exact ⟨past, moment, [], rfl, key_writes tracks effect same nonempty, rfl, by simp⟩

theorem run_written (run : Run (Traced (KeyboardStep cfg hmac)) (.boot cfg settings) moments s) :
    (∀ id, SetCommit.Tracks id (framesOf moments) (s.world.contexts id)) ∧
      Written cfg moments s := by
  refine run.history (fun past s => (∀ id, SetCommit.Tracks id (framesOf past)
    (s.world.contexts id)) ∧ Written cfg past s) ⟨?_, ?_⟩ ?_
  · exact fun id => SetCommit.Tracks.of_dropped rfl
  · exact fun slot nonempty => absurd rfl nonempty
  · intro past before moment after _ sound step
    obtain ⟨rfl, rfl, step⟩ := step
    have effect := key_effect step
    exact ⟨tracks_key sound.1 effect, sound.2.step sound.1 effect⟩

/-- What an accepted press of a static binding types is empty, or it was
written to its slot by the settings, by the defaults or by one SET upload that
the gate let through. The slot held it right behind the writer, and it has held
it ever since. -/
theorem static_texts_have_writers
    (run : Run (Traced (KeyboardStep cfg hmac)) (.boot cfg settings) moments s) :
    ∀ front press back text param1 env, moments = front ++ press :: back →
      press.event = .pressed .runtimeMacro param1 env 0 → typedText cfg press = some text →
      text = [] ∨ ∃ earlier writer later, front = earlier ++ writer :: later ∧
        Writes cfg earlier writer param1.toNat text ∧
        textOf writer.after.world.slots param1.toNat = text ∧
        ∀ moment ∈ later, textOf moment.after.world.slots param1.toNat = text := by
  rintro front press back text param1 env rfl event typed
  obtain ⟨_, _, earlier, ⟨rfl, rfl, _⟩, _⟩ := run.around
  have held : textOf press.before.world.slots param1.toNat = text := by
    rw [typedText, event] at typed
    exact Option.some.inj typed
  rw [← held]
  by_cases empty : textOf press.before.world.slots param1.toNat = []
  · exact Or.inl empty
  · exact Or.inr ((run_written earlier).2 param1.toNat empty)

/-! ## A default text replaced over USB -/

def sampleChunk (offset : Nat) (data : List UInt8) : Frame := .build .set 7 0 offset 3 data

/-- The first boot, which writes the defaults. -/
def sampleCommit : KeyMoment :=
  ⟨.boot .default .empty, .settingsCommit fun _ => 0, { Transport.boot .default .empty with
    world := (World.boot .default .empty).settingsCommit .default fun _ => 0 }⟩

def sampleBind : KeyMoment :=
  ⟨sampleCommit.after, .usb .bind, { sampleCommit.after with bound := true }⟩

def sampleStaged : World :=
  (processFrame .default AuthCore.sampleHmac (.still 5) usbContext (sampleChunk 0 [72, 105])
    sampleBind.after.world).2

def sampleStored : World :=
  (processFrame .default AuthCore.sampleHmac (.still 9) usbContext (sampleChunk 2 [33])
    sampleStaged).2

def sampleFirst : Exchange :=
  exchangeOf .default AuthCore.sampleHmac usbContext (.still 5) (sampleChunk 0 [72, 105])
    sampleBind.after.world

def sampleSecond : Exchange :=
  exchangeOf .default AuthCore.sampleHmac usbContext (.still 9) (sampleChunk 2 [33]) sampleStaged

/-- The text of two chunks is typed: its writer is the SET frame of the second,
and neither the default it has replaced nor the first chunk. -/
theorem static_texts_have_writers_sample :
    ∃ (writer : KeyMoment) (closing : Exchange) (later : List KeyMoment),
      frameOf writer = some closing ∧ closing.opcode = some .set ∧ closing.request.offset = 2 ∧
      textOf writer.after.world.slots 0 = [72, 105, 33] ∧
      ∀ moment ∈ later, textOf moment.after.world.slots 0 = [72, 105, 33] := by
  have committed : Traced (KeyboardStep .default AuthCore.sampleHmac) (.boot .default .empty)
      sampleCommit sampleCommit.after := ⟨rfl, rfl, rfl⟩
  have bind : Traced (KeyboardStep .default AuthCore.sampleHmac) sampleCommit.after sampleBind
      sampleBind.after := ⟨rfl, rfl, rfl, .bind⟩
  have up : AtRest sampleBind.after := ⟨rfl, rfl, rfl, rfl, rfl, fun _ => rfl, rfl, rfl⟩
  obtain ⟨first, s₁, staged, usb₁, frames₁, rest, bound, world₁⟩ := keyboard_serves .default
    AuthCore.sampleHmac (.still 5) (sampleChunk 0 [72, 105]) up rfl
  obtain ⟨second, s₂, stored, usb₂, frames₂, _, _, world₂⟩ := keyboard_serves .default
    AuthCore.sampleHmac (.still 9) (sampleChunk 2 [33]) rest bound
  have uploaded : s₂.world = sampleStored := by
    rw [world₂, world₁]
    rfl
  have granted : (MacroBehavior.runtimeMacro.bindingPressed .default (.still 20) 0
      s₂.world).1 = 0 := by
    rw [uploaded]
    decide +kernel
  let press : KeyMoment := ⟨s₂, .pressed .runtimeMacro 0 (.still 20) 0, { s₂ with
    world := (MacroBehavior.runtimeMacro.bindingPressed .default (.still 20) 0 s₂.world).2 }⟩
  have pressed : Traced (KeyboardStep .default AuthCore.sampleHmac) s₂ press press.after :=
    ⟨rfl, rfl, _, Prod.ext granted rfl, rfl⟩
  have typed : typedText .default press = some [72, 105, 33] := by
    simp only [typedText, press, uploaded]
    decide +kernel
  have run := ((((Run.single committed).snoc bind).append staged).append stored).snoc pressed
  rcases static_texts_have_writers run _ press [] _ 0 _ rfl rfl typed with
    empty | ⟨earlier, writer, later, split, writes, there, kept⟩
  · cases empty
  have listed : framesOf (earlier ++ writer :: later) = [sampleFirst, sampleSecond] := by
    rw [← split]
    unfold framesOf at frames₁ frames₂ ⊢
    simp only [List.filterMap_append, frames₁, frames₂, world₁]
    rfl
  have member : writer ∈ earlier ++ writer :: later := by simp
  refine ⟨writer, ?_⟩
  cases writes with
  | uploaded closing upload frame isSet isUpload same target carried whole gate =>
    have served : closing ∈ framesOf (earlier ++ writer :: later) :=
      List.mem_filterMap.mpr ⟨writer, member, frame⟩
    rw [listed] at served
    have second : closing.request.offset = 2 := by
      rcases List.mem_cons.mp served with rfl | served
      -- The first chunk alone is not the text.
      · rcases isUpload with ⟨_, rfl⟩ | ⟨late, _⟩
        · revert carried
          decide +kernel
        · exact absurd rfl late
      · rw [List.mem_singleton.mp served]
        decide +kernel
    exact ⟨closing, later, frame, isSet, second, there, kept⟩
  | stored length readCb event =>
    rw [← split] at member
    simp only [List.mem_append, List.mem_singleton] at member
    rcases member with ((rfl | rfl) | early) | late
    · cases event
    · cases event
    · obtain ⟨_, usb⟩ := usb₁ writer early
      cases event.symm.trans usb
    · obtain ⟨_, usb⟩ := usb₂ writer late
      cases event.symm.trans usb
  | default saveErr event text =>
    exact absurd text (by decide +kernel)

end RuntimeMacro.Guarantees.StaticOrigins
