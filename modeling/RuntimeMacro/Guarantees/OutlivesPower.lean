import RuntimeMacro.Guarantees.ReadTexts
import RuntimeMacro.Guarantees.SlotSurvival
import RuntimeMacro.Guarantees.StaticOrigins
import RuntimeMacro.Guarantees.ToolEffects
import RuntimeMacro.Source.KeyboardBoot

/-!
# A text outlives the power

tools/runtime_macro_cli.py:1202-1226; runtime_macro.c:129-153,209-328;
behavior_runtime_macro.c:52-68. From the command line to the computer: the text
of a `set` that has exited with 0 is what its key types after the next boot,
until a frame writes or clears the slot, and what the computer reads.
-/
namespace RuntimeMacro.Guarantees.OutlivesPower
open Source Source.Protocol Source.RuntimeMacroClient Source.CommandLine
open Foundations.Links Foundations.Runs
open Foundations.Dialogues Foundations.Dialogues.Dialogue Foundations.Dialogues.Procedure
open UsbHid (Transport Bus AtRest resting usbContext)
open AuthCore (Hmac)
open SlotStore (textOf Sized slotSettingName)
open ChunkTransactions ClientCommits
open ArrayOfTexts (Torn Stands Waiting writeTransaction clearFrame_slots)
open SlotSurvival (Saved slotSet_saves boot_saves)
open StaticOrigins (run_written set_writes tracks_key other_slots)

variable {cfg : Config} {hmac : Hmac} {host : Host} {id : ContextId} {s s' middle : Transport}
  {slot offset : Nat} {data : List UInt8} {texts : SlotTexts} {next requestId : UInt8}
  {t t' : Delayed Station Frame × Talk} {settings : Settings} {moment : KeyMoment}
  {front later past : List KeyMoment}

/-! ## What the tool leaves in storage -/

theorem torn_sized {texts' : SlotTexts} {s : Station} (torn : Torn cfg texts texts' s) :
    Sized cfg s.world.slots := by
  rcases torn with stands | stands
  · exact stands.sized
  · exact stands.sized

/-- The last chunk has saved the text: its OK answer says that storage took
it. -/
theorem saved_done {request response : Frame} {before after : Station}
    (acknowledged : ChunkAcknowledged cfg hmac id (fun request => request.offset = 0)
      (Torn cfg texts (Function.update texts slot data)) (fun s => Owned id slot data s.world)
      .set slot data requestId offset t t' request response before after) :
    Owned id slot data t'.1.state.world ∧ (offset + request.payloadLength = data.length →
      Saved cfg slot data t'.1.state.world.device) := by
  refine ⟨(ArrayOfTexts.write_done acknowledged).1, fun whole => ?_⟩
  obtain ⟨chunk, ⟨status, _, served, _⟩, _⟩ := acknowledged
  obtain ⟨env, w', _, step, left⟩ := served.serves
  obtain ⟨_, only, stored⟩ := setChunk_step chunk served.covered step
  have world : after.world = w' := by rw [left]; rfl
  have quiet := rests_quietKept served.rested
  have saved : Saved cfg slot data w'.device := by
    rcases only.static with ⟨calls, _⟩ | ⟨place, text, err, ⟨aimed, sent⟩, calls, set⟩
    · have called := (stored status whole).1
      rw [show w'.calls = _ from calls] at called
      simp at called
    · rw [aimed, sent] at calls set
      have accepted : err = 0 := by
        have called := (stored status whole).1
        rw [show w'.calls = _ from calls] at called
        simpa using called
      rw [accepted] at set
      exact @slotSet_saves cfg ⟨w'.auth, before.world.slots, before.world.settings⟩ w'.device slot
        data _ (torn_sized served.sound) ⟨set, rfl⟩
  rw [← world] at saved
  refine saved.frame ?_ ?_
  · exact congrArg (fun slots => slots.slots slot) quiet.slots
  · exact congrArg (fun settings => settings.values (slotSettingName slot)) quiet.settings

theorem meets_setSlot_saves (retries slot : Nat) (data : List UInt8)
    (waiting : Waiting cfg texts next t) :
    (setSlot retries slot data).Meets (link cfg hmac id)
      (fun _ _ t' => Saved cfg slot data t'.1.state.world.device) (fun _ _ _ => True) next t := by
  have transaction := writeTransaction cfg hmac id texts slot data
  apply (meets_setTransaction transaction (fun acknowledged => saved_done acknowledged) retries
    (waiting.guarded (Or.inl waiting.stands)) waiting.keyed).mono
  · rintro _ next' t' ⟨_, _, saved⟩
    exact saved
  · exact fun _ _ _ _ => trivial

/-- A `set` that exits with 0 has saved its text. The chain goes from the exit
code to the call, from the call to its last chunk, and from that to the
settings. -/
theorem tool_saves (rest : AtRest s) (reachable : Reachable cfg hmac s.world)
    {timeoutMs : Int} {retries issued : Nat} {talk : Talk} {exit : Exit} {next' : UInt8} {b : Bus}
    (runs : Runs (UsbLink.hears cfg hmac timeoutMs)
      ((carryOut host retries (.set slot data)).dialogue next) (resting s issued) talk
      (.ok exit, next') b) (success : exit.code = 0) :
    Saved cfg slot data b.transport.world.device := by
  have whole : (carryOut host retries (.set slot data)).Meets (link cfg hmac usbContext)
      (fun exit _ t => exit.code = 0 → Saved cfg slot data t.1.state.world.device)
      (fun _ _ _ => True) next (⟨.fresh s.world, [], next - 1, false⟩, []) := by
    unfold carryOut
    rw [meets_tryCatch, meets_bind, perform, meets_bind]
    apply (meets_setSlot_saves retries slot data
      (ToolEffects.static_waiting reachable next)).mono
    · exact fun _ _ _ saved _ => saved
    · intro error _ _ _
      split
      · exact fun impossible => by cases impossible
      · trivial
  obtain ⟨t, same, ended⟩ := UsbLink.ends rest whole runs
  have saved := ended success
  rw [same] at saved
  exact saved

/-! ## What touches a slot -/

/-- The moment may change the text of the slot: it is a SET or a CLEAR that
names it, or a callback of a load. -/
def Touches (slot : Nat) (moment : KeyMoment) : Prop :=
  (∃ exchange, frameOf moment = some exchange ∧
    (exchange.opcode = some .set ∨ exchange.opcode = some .clear) ∧
    exchange.request.slot.toNat = slot) ∨
  (∃ name length readCb, moment.event = .settingsSet name length readCb) ∨
  ∃ saveErr, moment.event = .settingsCommit saveErr

/-- A text that changes was changed by a frame or by a settings callback. The
frame completes an upload to this slot, or clears it. -/
theorem touches_of_changed
    (tracks : ∀ id, SetCommit.Tracks id (framesOf past) (moment.before.world.contexts id))
    (effect : KeyEffect cfg hmac moment)
    (changed : textOf moment.after.world.slots slot ≠ textOf moment.before.world.slots slot) :
    Touches slot moment := by
  cases frame : frameOf moment with
  | some exchange =>
    obtain ⟨step, _⟩ := key_frame effect frame
    by_cases isSet : exchange.opcode = some .set
    · cases set_writes tracks effect frame isSet changed with
      | uploaded closing _ isFrame isSet _ _ target =>
        exact Or.inl ⟨closing, isFrame, Or.inl isSet, target⟩
      | stored length readCb event => exact Or.inr (Or.inl ⟨_, _, _, event⟩)
      | default saveErr event => exact Or.inr (Or.inr ⟨saveErr, event⟩)
    · rcases frame_slots step isSet with same | ⟨isClear, same⟩
      · exact absurd (by rw [same]) changed
      · refine Or.inl ⟨exchange, frame, Or.inr isClear, ?_⟩
        by_contra away
        exact changed (by simp [same, textOf, SlotStore.slotErase, Ne.symm away])
  | none =>
    cases effect with
    | called event step isFrame =>
      exact absurd (by rw [other_slots step (isFrame.trans frame)]) changed
    | discarded _ _ same => exact absurd (by rw [same]; rfl) changed
    | typed _ _ same => exact absurd (by rw [same]) changed
    | loaded name length readCb event => exact Or.inr (Or.inl ⟨_, _, _, event⟩)
    | committed saveErr event => exact Or.inr (Or.inr ⟨saveErr, event⟩)

/-- Along a run in which nothing touches the slot its text is what it was. -/
theorem untouched_text
    (booted : Run (Traced (KeyboardStep cfg hmac)) (.boot cfg settings) front middle)
    (run : Run (Traced (KeyboardStep cfg hmac)) middle later s')
    (untouched : ∀ moment ∈ later, ¬ Touches slot moment) :
    textOf s'.world.slots slot = textOf middle.world.slots slot := by
  refine (run.history_of (fun past s =>
    (∀ id, SetCommit.Tracks id (framesOf (front ++ past)) (s.world.contexts id)) ∧
      textOf s.world.slots slot = textOf middle.world.slots slot)
    (fun past => ∀ moment ∈ past, ¬ Touches slot moment) untouched ?_ ?_ ?_).2
  · exact fun past moment all other member => all other (List.mem_append_left _ member)
  · rw [List.append_nil]
    exact ⟨(run_written booted).1, rfl⟩
  · rintro past before moment after all _ ⟨tracks, same⟩ ⟨rfl, rfl, step⟩
    have effect := key_effect step
    rw [← List.append_assoc]
    refine ⟨tracks_key tracks effect, ?_⟩
    rw [← same]
    by_contra changed
    exact all moment (List.mem_append_right _ (List.mem_singleton_self moment))
      (touches_of_changed tracks effect changed)

/-! ## The next boot -/

theorem saved_text (saved : Saved cfg slot data middle.world.device) :
    textOf middle.world.slots slot = data := by
  have bytes := congrArg (List.take data.length) saved.holds.bytes
  rw [List.take_take, Nat.min_eq_left (Nat.le_succ _), List.take_left] at bytes
  rw [textOf, show (middle.world.slots.slots slot).length = _ from saved.holds.length]
  exact bytes

/-- After a boot from the storage, the slot holds its saved text as long as
nothing touches it. -/
theorem booted_text {d : Device} {order : List Name} {saveErr : Name → Int}
    (saved : Saved cfg slot data d) (stored : StoredKeys d.settings order)
    {loading : List KeyMoment}
    (loads : loading.map Moment.event = loadEvents d.settings order saveErr)
    (run : Run (Traced (KeyboardStep cfg hmac)) (.boot cfg d.settings) (loading ++ later) s')
    (untouched : ∀ moment ∈ later, ¬ Touches slot moment) : textOf s'.world.slots slot = data := by
  obtain ⟨middle, booted, run⟩ := Run.split loading later run
  have device := boot_run booted loads
  rw [untouched_text booted run untouched]
  apply @saved_text cfg
  rw [device]
  exact boot_saves saveErr saved stored

/-- A text that is not empty and whose `set` exits with 0 outlives the power:
after the next boot, in any order of the stored keys, its binding types the
text, until a SET or a CLEAR names the slot. When the text is through, it is the
last that the computer has read.

The storage of the model keeps a value of no bytes, but a settings backend may
take a save of nothing for a deletion. What is said here does not depend on
which of them it does. -/
theorem set_text_outlives_power (cfg : Config) (hmac : Hmac) (host : Host)
    (hid : Option HidModule) (options : Options) (command : Command) (s : Transport)
    (issued : Nat) (next : UInt8) (rest : AtRest s) (reachable : Reachable cfg hmac s.world)
    (ready : setUp host hid options command = .ok (.set slot data))
    (talk : Talk) (exit : Exit) (next' : UInt8) (b : Bus)
    (tool : Runs (UsbLink.hears cfg hmac options.timeoutMs)
      ((main host hid options command).dialogue next) (resting s issued) talk (.ok exit, next') b)
    (success : exit.code = 0) (order : List Name) (saveErr : Name → Int)
    (stored : StoredKeys b.transport.world.settings order)
    (loading later typing : List KeyMoment) (press : KeyMoment) (s' : Transport)
    (loads : loading.map Moment.event = loadEvents b.transport.world.settings order saveErr)
    (run : Run (Traced (KeyboardStep cfg hmac)) (.boot cfg b.transport.world.settings)
      (loading ++ later ++ press :: typing) s')
    (untouched : ∀ moment ∈ later, ¬ Touches slot moment) (param1 : UInt32) (env : Env)
    (pressed : press.event = .pressed .runtimeMacro param1 env 0) (bound : param1.toNat = slot) :
    data ≠ [] → typedText cfg press = some data ∧
    ((∀ moment ∈ typing, typedText cfg moment = none) → s'.world.executor.busy = false →
      ReadTexts.Unfailing (loading ++ later ++ press :: typing) →
      data <:+ (computerReads (raisedKeys (loading ++ later ++ press :: typing))).read) := by
  intro _
  rw [main, ready] at tool
  have saved := tool_saves rest reachable tool success
  have typed : typedText cfg press = some data := by
    obtain ⟨_, _, earlier, ⟨rfl, rfl, _⟩, _⟩ := run.around
    have held := booted_text saved stored loads earlier untouched
    rw [typedText, pressed, ← held, ← bound]
    rfl
  refine ⟨typed, fun silent idle unfailing => ?_⟩
  obtain ⟨parts, reads, _, whole⟩ := ReadTexts.idle_reads run idle
  have quiet : typing.filterMap (typedText cfg) = [] := List.filterMap_eq_nil_iff.mpr silent
  rw [reads, whole unfailing, List.filterMap_append, List.filterMap_cons_some typed, quiet,
    List.flatten_append, List.flatten_singleton]
  exact List.suffix_append _ _

/-! ## A text of slot 0 -/

def sampleSettings : Settings := settingsSaveOne (slotSettingName 0) [97, 65] 0 .empty

def sampleLoading : KeyMoment :=
  let boot : Transport := .boot .default sampleSettings
  let name : Name := ascii "slot/0"
  ⟨boot, .settingsSet (some name) 2 (some (readerOf [97, 65])), { boot with
    world := boot.world.settingsSet .default (some name) 2 (some (readerOf [97, 65])) }⟩

def sampleCommit : KeyMoment :=
  let s := sampleLoading.after
  ⟨s, .settingsCommit fun _ => 0, { s with world := s.world.settingsCommit .default fun _ => 0 }⟩

/-- A change of the profile clears the dynamic texts. -/
def sampleChange : KeyMoment :=
  let s := sampleCommit.after
  ⟨s, .profileChanged (.still 5), { s with
    world := (dynamicProfileListener .default true (.still 5) s.world).2 }⟩

def samplePress : KeyMoment :=
  let s := sampleChange.after
  ⟨s, .pressed .runtimeMacro 0 (.still 7) 0, { s with
    world := (MacroBehavior.runtimeMacro.bindingPressed .default (.still 7) 0 s.world).2 }⟩

def sampleTyping : List KeyMoment :=
  let first := ReadTexts.sampleWork samplePress.after
  let second := ReadTexts.sampleWork first.after
  let third := ReadTexts.sampleWork second.after
  [first, second, third, ReadTexts.sampleWork third.after]

def sampleMoments : List KeyMoment :=
  [sampleLoading, sampleCommit] ++ [sampleChange] ++ samplePress :: sampleTyping

def sampleTool : Dialogue Frame Answer (Except ClientError Exit × UInt8) :=
  (main PasswordOverLoss.sampleHost (some ToolEffects.sampleHid) ToolEffects.sampleOptions
    (.set 0 (.stdin [97, 65]))).dialogue 7

/-- The tool sets the text at its second attempt, and the power goes off and
on. The profile changes, and the key types the text: the computer reads
"aA". -/
theorem set_text_outlives_power_sample : typedText .default samplePress = some [97, 65] ∧
    [97, 65] <:+ (computerReads (raisedKeys sampleMoments)).read := by
  obtain ⟨s', issued', log, runs, world⟩ := UsbLink.stumbles .default AuthCore.sampleHmac (.still 0)
    [.requestLost] 0 [] UsbHid.connected_atRest rfl (by decide : 0 < (1000 : Int)) sampleTool
  have returned : (sampleTool.drive
      (UsbLink.stumblingAnswer .default AuthCore.sampleHmac (.still 0))
      (UsbHid.connected.world, [.requestLost])).2.1 = (.ok ⟨0, setLine 0 [97, 65], none⟩, 9) := by
    rfl
  have settings : s'.world.settings = sampleSettings := by
    rw [world]
    rfl
  have keys : StoredKeys sampleSettings [slotSettingName 0] := by
    refine ⟨List.nodup_singleton _, fun key => ?_⟩
    rw [List.mem_singleton]
    by_cases same : key = slotSettingName 0
    · simp [same, sampleSettings]
    · simp [same, sampleSettings, settingsSaveOne, Settings.empty]
  have loaded : Traced (KeyboardStep .default AuthCore.sampleHmac) (.boot .default sampleSettings)
      sampleLoading sampleLoading.after := ⟨rfl, rfl, rfl⟩
  have committed : Traced (KeyboardStep .default AuthCore.sampleHmac) sampleLoading.after
      sampleCommit sampleCommit.after := ⟨rfl, rfl, rfl⟩
  have changed : Traced (KeyboardStep .default AuthCore.sampleHmac) sampleCommit.after
      sampleChange sampleChange.after := ⟨rfl, rfl, rfl⟩
  have granted : (MacroBehavior.runtimeMacro.bindingPressed .default (.still 7) 0
      sampleChange.after.world).1 = 0 := by decide +kernel
  have pressed : Traced (KeyboardStep .default AuthCore.sampleHmac) sampleChange.after samplePress
      samplePress.after := ⟨rfl, rfl, _, Prod.ext granted rfl, rfl⟩
  have works : ∀ s : Transport, s.world.executor.work = true →
      Traced (KeyboardStep .default AuthCore.sampleHmac) s (ReadTexts.sampleWork s)
        (ReadTexts.sampleWork s).after :=
    fun s pending => ⟨rfl, rfl, pending, _, rfl, rfl⟩
  have run : Run (Traced (KeyboardStep .default AuthCore.sampleHmac))
      (.boot .default sampleSettings) sampleMoments _ :=
    .cons loaded <| .cons committed <| .cons changed <| .cons pressed <|
      .cons (works _ (by decide +kernel)) <| .cons (works _ (by decide +kernel)) <|
      .cons (works _ (by decide +kernel)) <| .cons (works _ (by decide +kernel)) <| .nil _
  have untouched : ∀ moment ∈ [sampleChange], ¬ Touches 0 moment := by
    intro moment member
    rw [List.mem_singleton.mp member]
    rintro (⟨_, frame, _⟩ | ⟨_, _, _, event⟩ | ⟨_, event⟩)
    · cases frame
    · cases event
    · cases event
  have unfailing : ReadTexts.Unfailing sampleMoments := by
    intro moment member env raised event
    have still : env = .still 7 := by
      simp only [sampleMoments, sampleTyping, List.cons_append, List.nil_append, List.mem_cons,
        List.not_mem_nil, or_false] at member
      rcases member with rfl | rfl | rfl | rfl | rfl | rfl | rfl | rfl
      · cases event
      · cases event
      · cases event
      · cases event
      all_goals exact (KeyboardEvent.executorWork.inj event).1.symm
    rw [still]
    exact Int.le_refl 0
  have silent : ∀ moment ∈ sampleTyping, typedText .default moment = none := by
    intro moment member
    simp only [sampleTyping, List.mem_cons, List.not_mem_nil, or_false] at member
    rcases member with rfl | rfl | rfl | rfl
    all_goals rfl
  rw [returned] at runs
  rw [← settings] at keys run
  obtain ⟨typed, read⟩ := set_text_outlives_power .default AuthCore.sampleHmac
    PasswordOverLoss.sampleHost (some ToolEffects.sampleHid) ToolEffects.sampleOptions
    (.set 0 (.stdin [97, 65])) UsbHid.connected 0 7 UsbHid.connected_atRest ⟨.empty, [], .nil _⟩
    rfl _ _ 9 _ runs rfl [slotSettingName 0] (fun _ => 0) keys [sampleLoading, sampleCommit]
    [sampleChange] sampleTyping samplePress _
    (by rw [show (UsbHid.settled s' issued' log).transport.world.settings = _ from settings]; rfl)
    run untouched 0 (.still 7) rfl rfl (by decide)
  exact ⟨typed, read silent (by decide +kernel) unfailing⟩

end RuntimeMacro.Guarantees.OutlivesPower
