import RuntimeMacro.Guarantees.ToolEffects
import RuntimeMacro.Source.GuardedFrames
import RuntimeMacro.Source.KeyboardBoot
import RuntimeMacro.Source.KeyboardService

/-!
# A password outlives the power

tools/runtime_macro_cli.py:1047-1092; runtime_macro_auth.c:404-455,469-540.
After a `set-password` that has exited with 0 the next boot finds the
keyboard protected with the password. Until somebody proves its key over a
nonce of that boot, no management request is served and what is stored stays
as the boot has left it.
-/
namespace RuntimeMacro.Guarantees.PasswordOutlivesPower
open Source Source.Protocol Source.RuntimeMacroClient Source.CommandLine
open Foundations Foundations.Runs
open Foundations.Dialogues Foundations.Dialogues.Dialogue Foundations.Dialogues.Procedure
open UsbHid (Transport Bus AtRest resting usbContext)
open AuthCore (Credential Hmac Nonce expectedProof nonceSize proofSize)
open PasswordChunks (persistent_kept)
open ToolEffects (asks_carryOut opcodesOf)

variable {cfg : Config} {hmac : Hmac} {host : Host} {s s' : Transport} {w w' : World}
  {password : String} {salt : Vector UInt8 16} {credential : Credential} {exchange : Exchange}
  {settings : Settings} {moment : KeyMoment} {past later : List KeyMoment} {d : Device}

/-! ## What the tool leaves in storage -/

/-- The record of the credential is stored when the credential is in force. -/
structure Recorded (cfg : Config) (credential : Credential) (w : World) : Prop where
  sound : DeviceSound cfg w
  record : w.auth.state = .stateProtected → w.auth.credential = credential →
    w.settings.values AuthCore.settingPath = some (AuthCore.serializeCredential credential)

theorem Recorded.of_kept (recorded : Recorded cfg credential w) (sound : DeviceSound cfg w')
    (persistent : w'.auth.persistent = w.auth.persistent)
    (values : w'.settings.values = w.settings.values) : Recorded cfg credential w' := by
  have state := congrArg AuthCore.Persistent.state persistent
  have same := congrArg AuthCore.Persistent.credential persistent
  simp only [AuthCore.State.persistent] at state same
  refine ⟨sound, fun guarded inForce => ?_⟩
  rw [values]
  exact recorded.record (state.symm.trans guarded) (same.symm.trans inForce)

/-- The frames of the tool keep a record of the credential. Only a PASSWORD_SET
writes another one. -/
theorem Recorded.frame (recorded : Recorded cfg credential w)
    (sent : Calls (.passwordSet :: authOpcodes) exchange.request)
    (step : FrameStep cfg hmac w exchange w') : Recorded cfg credential w' := by
  have sound : DeviceSound cfg w' :=
    DeviceSound.world recorded.sound (show WorldStep cfg hmac w (.frame exchange) w' from step)
  obtain ⟨opcode, member, passed⟩ := sent
  have known : Opcode.ofByte exchange.request.opcode = some opcode := baseCheck_opcode passed
  by_cases isPassword : opcode = .passwordSet
  · subst isPassword
    have outcome := processFrame_passwordSet cfg hmac exchange.env exchange.id known w
    rw [step.result] at outcome
    -- The handler saves the record before it puts the credential in force.
    cases outcome with
    | refused status dropped kept =>
      exact recorded.of_kept sound (persistent_kept step fun _ => status) kept.values
    | staged c status offset sized accepted partly holding state kept =>
      refine ⟨sound, fun guarded inForce => ?_⟩
      rw [kept.values]
      exact recorded.record (state.symm.trans guarded) (kept.credential.symm.trans inForce)
    | committed c status offset sized accepted complete dropped inForce stored =>
      refine ⟨sound, fun _ same => ?_⟩
      rw [stored, ← inForce, same]
  · have apart : Opcode.ofByte exchange.request.opcode ≠ some .passwordSet := by
      rw [known, ne_eq, Option.some.injEq]
      exact isPassword
    have stores : StoresKept w w' := by
      have kept := processFrame_storesKept cfg hmac exchange.env exchange.id exchange.request w
        (fun other checked managing => by
          cases passed.symm.trans checked
          simp only [authOpcodes, List.mem_cons, List.not_mem_nil, or_false] at member
          rcases member with rfl | rfl | rfl | rfl
          · exact absurd rfl isPassword
          all_goals cases managing)
      rw [step.result] at kept
      exact kept
    exact recorded.of_kept sound (persistent_kept step fun same => absurd same apart)
      (congrArg Settings.values stores.settings)

/-- A `set-password` that exits with 0 has put the credential in force and has
stored it. -/
theorem tool_records (rest : AtRest s) (reachable : Reachable cfg hmac s.world)
    (fresh : ∀ credential ∈ s.world.view.protection, credential.salt ≠ salt)
    {timeoutMs : Int} {retries issued : Nat} {next next' : UInt8} {talk : Talk} {exit : Exit}
    {b : Bus}
    (runs : Runs (UsbLink.hears cfg hmac timeoutMs)
      ((carryOut host retries (.setPassword password salt)).dialogue next) (resting s issued) talk
      (.ok exit, next') b) (success : exit.code = 0) :
    AuthCore.credentialIsValid (passwordCredential host password salt) = true ∧
      b.transport.world.settings.values AuthCore.settingPath =
        some (AuthCore.serializeCredential (passwordCredential host password salt)) := by
  obtain ⟨_, ended, ends⟩ := ToolEffects.faithful_setPassword rest password salt fresh runs
  cases ended
  have held : b.transport.world.view.protection =
      some (passwordCredential host password salt) := by
    cases ends with
    | done done =>
      obtain ⟨nowMs, _, fades⟩ := done.effect
      exact fades.protection
    | uncleared | stopped => cases success
  have inForce : b.transport.world.auth.state = .stateProtected ∧
      b.transport.world.auth.credential = passwordCredential host password salt := by
    simp only [World.view] at held
    split at held
    next guarded => exact ⟨guarded, Option.some.inj held⟩
    · cases held
  have recorded : Recorded cfg (passwordCredential host password salt) b.transport.world := by
    apply UsbLink.framed rest (asks_carryOut host retries (.setPassword password salt)) runs
    -- The salt is fresh, so the credential is not in force at the start.
    · refine ⟨reachable.sound, fun guarded same => ?_⟩
      exact absurd (congrArg Credential.salt same) (fresh _ (if_pos guarded))
    · rintro t t' kept ⟨event, w', quiet, step, rfl⟩
      have same := background_quietKept quiet step
      exact kept.of_kept (kept.sound.world step) (by rw [same.auth])
        (congrArg Settings.values same.settings)
    · exact fun w exchange w' sent kept step => kept.frame sent step
  refine ⟨?_, recorded.record inForce.1 inForce.2⟩
  rw [← inForce.2]
  exact recorded.sound.credentialed inForce.1

/-! ## After the boot -/

/-- A settings callback. -/
def Reloads (moment : KeyMoment) : Prop :=
  (∃ name length readCb, moment.event = .settingsSet name length readCb) ∨
  ∃ saveErr, moment.event = .settingsCommit saveErr

/-- The nonce has been given out. -/
def GivenOut (nonce : Nonce) (moments : List KeyMoment) : Prop :=
  ∃ exchange ∈ framesOf moments, exchange.opcode = some .authChallenge ∧
    exchange.accepted = true ∧ exchange.response.payload nonceSize = nonce.toList

/-- The frame is a proof of the key, over a nonce given out before. -/
def Proves (hmac : Hmac) (key : Vector UInt8 32) (past : List KeyMoment) (moment : KeyMoment) :
    Prop :=
  ∃ exchange nonce, frameOf moment = some exchange ∧ exchange.opcode = some .authProve ∧
    exchange.accepted = true ∧ GivenOut nonce past ∧
    exchange.request.payload proofSize = expectedProof hmac key nonce

/-- Somebody has logged in with the key. -/
def LoggedIn (hmac : Hmac) (key : Vector UInt8 32) (moments : List KeyMoment) : Prop :=
  ∃ past moment since, moments = past ++ moment :: since ∧ Proves hmac key past moment

theorem LoggedIn.extend {key : Vector UInt8 32} (loggedIn : LoggedIn hmac key past) :
    LoggedIn hmac key (past ++ [moment]) := by
  obtain ⟨before, login, since, rfl, proves⟩ := loggedIn
  exact ⟨before, login, since ++ [moment], by simp, proves⟩

theorem GivenOut.extend {nonce : Nonce} (given : GivenOut nonce past) :
    GivenOut nonce (past ++ [moment]) := by
  obtain ⟨exchange, member, issued⟩ := given
  refine ⟨exchange, ?_, issued⟩
  rw [framesOf_snoc]
  exact List.mem_append_left _ member

/-- What the boot has left is as it was, and nobody has been let in. -/
structure Untouched (credential : Credential) (d : Device) (past : List KeyMoment) (w : World) :
    Prop where
  guarded : GuardedBy credential w.auth
  slots : w.slots = d.store
  settings : w.settings = d.settings
  given : w.auth.challengeActive = true → GivenOut w.auth.challenge past
  refused : ∀ exchange ∈ framesOf past, exchange.opcode.any manages = true →
    exchange.accepted = false

/-- The core is left alone or reset, and what is stored is left alone. -/
def Silent (w w' : World) : Prop :=
  (w'.auth = w.auth ∨ w'.auth = AuthCore.transportReset w.auth) ∧ w'.slots = w.slots ∧
    w'.settings = w.settings

theorem Silent.of_eq (auth : w'.auth = w.auth) (slots : w'.slots = w.slots)
    (settings : w'.settings = w.settings) : Silent w w' := ⟨Or.inl auth, slots, settings⟩

theorem Silent.of_quiet (kept : QuietKept w w') : Silent w w' :=
  .of_eq kept.auth kept.slots kept.settings

theorem listener_silent (clears : Bool) (env : Env) (w : World) :
    Silent w (dynamicListener cfg clears true env w).2 := by
  rw [dynamicListener_world]
  split
  · exact .of_eq rfl rfl rfl
  · exact .of_eq rfl rfl rfl

/-- The transport changes core and settings in frames and resets only, and a
reset just ends the session. -/
theorem usb_silent {event : UsbHid.Event} (onUsb : event.onUsb = true)
    (step : UsbHid.Step cfg hmac s event s') (silent : frameOf ⟨s, .usb event, s'⟩ = none) :
    Silent s.world s'.world := by
  cases step with
  | report step => cases step <;> exact .of_eq rfl rfl rfl
  | ready step => cases step <;> exact .of_eq rfl rfl rfl
  | bind => exact .of_eq rfl rfl rfl
  | @outside called world elsewhere step =>
    cases called with
    | timeoutWork | ttlWork => exact .of_quiet (background_quietKept rfl step)
    | _ => cases onUsb
  | handler step =>
    cases step with
    | process => cases silent
    | _ => exact .of_eq rfl rfl rfl
  | reset step =>
    cases step with
    | authReset => exact ⟨Or.inr rfl, rfl, rfl⟩
    | clear =>
      simp only [Transport.resetting]
      split
      · exact .of_eq rfl rfl rfl
      · exact .of_eq rfl rfl rfl
    | _ => exact .of_eq rfl rfl rfl

theorem pressed_silent (hmac : Hmac) {behavior : MacroBehavior} {param1 : UInt32} {env : Env}
    {result : Int} (pressed : behavior.bindingPressed cfg env param1 w = (result, w')) :
    Silent w w' := by
  cases behavior with
  | runtimeMacro =>
    rcases runtimeMacro_pressed pressed with ⟨_, _, rfl⟩ | ⟨_, executed⟩
    · exact .of_eq rfl rfl rfl
    · rw [(execute_world executed).2]
      exact .of_eq rfl rfl rfl
  | runtimeMacroDynamic =>
    rcases runtimeMacroDynamic_pressed pressed with ⟨_, _, rfl⟩ | ⟨_, executed⟩
    · exact .of_eq rfl rfl rfl
    · have step : WorldStep cfg hmac w (.execute param1.toNat env result) w' := executed
      exact .of_quiet (background_quietKept rfl step)

/-- No event but a frame and a settings callback does more. -/
theorem key_silent (step : KeyboardStep cfg hmac moment.before moment.event moment.after)
    (silent : frameOf moment = none) (settled : ¬ Reloads moment) :
    Silent moment.before.world moment.after.world := by
  obtain ⟨before, event, after⟩ := moment
  cases event with
  | usb event => exact usb_silent step.1 step.2 silent
  | settingsSet name length readCb => exact absurd (Or.inl ⟨_, _, _, rfl⟩) settled
  | settingsCommit saveErr => exact absurd (Or.inr ⟨_, rfl⟩) settled
  | profileChanged env | endpointChanged env =>
    rw [show after = _ from step]
    exact listener_silent _ env before.world
  | released behavior param1 result =>
    rw [show after = before from step.2]
    exact .of_eq rfl rfl rfl
  | executorWork env raised =>
    obtain ⟨_, executor, _, same⟩ := step
    rw [show after = _ from same]
    exact .of_eq rfl rfl rfl
  | pressed behavior param1 env result =>
    obtain ⟨world, pressed, same⟩ := step
    rw [show after = _ from same]
    exact pressed_silent hmac pressed

/-- One case for each kind of event. The core stays protected by the
credential, and a session needs a proof made with its key. -/
theorem Untouched.key (untouched : Untouched credential d past moment.before.world)
    (step : KeyboardStep cfg hmac moment.before moment.event moment.after)
    (settled : ¬ Reloads moment) (unproved : ¬ Proves hmac credential.key past moment) :
    Untouched credential d (past ++ [moment]) moment.after.world := by
  have guarded := untouched.guarded
  cases frame : frameOf moment with
  | none =>
    obtain ⟨auth, slots, settings⟩ := key_silent step frame settled
    have frames : framesOf (past ++ [moment]) = framesOf past := by
      rw [framesOf_snoc, frame]
      exact List.append_nil _
    refine ⟨?_, slots.trans untouched.slots, settings.trans untouched.settings, ?_, ?_⟩
    · rcases auth with same | reset
      · rw [same]
        exact guarded
      · rw [reset]
        exact ⟨guarded.state, guarded.credential, rfl⟩
    · intro active
      rcases auth with same | reset
      · rw [same] at active ⊢
        exact (untouched.given active).extend
      · rw [reset] at active
        cases active
    · rw [frames]
      exact untouched.refused
  | some exchange =>
    have outcome := frame_guardedOutcome guarded (key_frame (key_effect step) frame).1
    have frames : framesOf (past ++ [moment]) = framesOf past ++ [exchange] := by
      rw [framesOf_snoc, frame]
      rfl
    have refused : (exchange.opcode.any manages = true →
        exchange.response.status ≠ Status.ok.code) →
        ∀ other ∈ framesOf (past ++ [moment]), other.opcode.any manages = true →
          other.accepted = false := by
      intro turnedAway other member managing
      rw [frames, List.mem_append, List.mem_singleton] at member
      rcases member with earlier | rfl
      · exact untouched.refused other earlier managing
      · exact beq_eq_false_iff_ne.mpr (turnedAway managing)
    cases outcome with
    | proved isProof status pending proof =>
      refine absurd ⟨exchange, _, frame, isProof, ?_, untouched.given pending, proof⟩ unproved
      exact beq_iff_eq.mpr status
    | challenged guarded stores isChallenge status nonce =>
      refine ⟨guarded, stores.slots.trans untouched.slots,
        stores.settings.trans untouched.settings, fun _ => ?_, refused fun managing => ?_⟩
      · refine ⟨exchange, ?_, isChallenge, beq_iff_eq.mpr status, nonce⟩
        rw [frames]
        exact List.mem_append_right _ (List.mem_singleton_self exchange)
      · rw [isChallenge] at managing
        cases managing
    | turnedAway guarded stores turnedAway challenge =>
      refine ⟨guarded, stores.slots.trans untouched.slots,
        stores.settings.trans untouched.settings, fun active => ?_, refused turnedAway⟩
      obtain ⟨pending, same⟩ := challenge active
      rw [same]
      exact (untouched.given pending).extend

/-- Without a login nothing is touched. -/
theorem run_untouched (untouched : Untouched credential d [] s.world)
    (run : Run (Traced (KeyboardStep cfg hmac)) s later s')
    (settled : ∀ moment ∈ later, ¬ Reloads moment)
    (apart : ¬ LoggedIn hmac credential.key later) : Untouched credential d later s'.world := by
  refine run.history_of (fun past s => Untouched credential d past s.world)
    (fun past => ¬ LoggedIn hmac credential.key past ∧ ∀ moment ∈ past, ¬ Reloads moment)
    ⟨apart, settled⟩ ?_ untouched ?_
  · rintro past moment ⟨apart, settled⟩
    exact ⟨fun loggedIn => apart loggedIn.extend,
      fun other member => settled other (List.mem_append_left _ member)⟩
  · rintro past before moment after ⟨apart, settled⟩ _ untouched ⟨rfl, rfl, step⟩
    apply untouched.key step
    · exact settled moment (List.mem_append_right _ (List.mem_singleton_self moment))
    · exact fun proves => apart ⟨past, moment, [], rfl, proves⟩

/-- A password outlives the power. When `set-password` exits with 0, then after
the next boot, in any order of the stored keys, either somebody has proved the
key of the password over a nonce given out since, or the keyboard is protected
with the password, nobody is logged in, no management request has been served
and the texts and the storage are as the boot has left them. -/
theorem password_outlives_power (cfg : Config) (hmac : Hmac) (host : Host)
    (hid : Option HidModule) (options : Options) (command : Command) (s : Transport)
    (issued : Nat) (next : UInt8) (rest : AtRest s) (reachable : Reachable cfg hmac s.world)
    (ready : setUp host hid options command = .ok (.setPassword password salt))
    (fresh : ∀ credential ∈ s.world.view.protection, credential.salt ≠ salt)
    (talk : Talk) (exit : Exit) (next' : UInt8) (b : Bus)
    (tool : Runs (UsbLink.hears cfg hmac options.timeoutMs)
      ((main host hid options command).dialogue next) (resting s issued) talk (.ok exit, next') b)
    (success : exit.code = 0) (order : List Name) (saveErr : Name → Int)
    (stored : StoredKeys b.transport.world.settings order) (plain : ∀ key ∈ order, 0x3D ∉ key)
    (loading later : List KeyMoment) (s' : Transport)
    (loads : loading.map Moment.event = loadEvents b.transport.world.settings order saveErr)
    (run : Run (Traced (KeyboardStep cfg hmac)) (.boot cfg b.transport.world.settings)
      (loading ++ later) s')
    (settled : ∀ moment ∈ later, ¬ Reloads moment) :
    LoggedIn hmac (passwordCredential host password salt).key later ∨
      (s'.world.view.protection = some (passwordCredential host password salt) ∧
        s'.world.view.session = false ∧
        (∀ exchange ∈ framesOf later, exchange.opcode.any manages = true →
          exchange.accepted = false) ∧
        s'.world.slots = (Device.boot cfg order saveErr b.transport.world.settings).store ∧
        s'.world.settings =
          (Device.boot cfg order saveErr b.transport.world.settings).settings) := by
  rw [main, ready] at tool
  obtain ⟨valid, record⟩ := tool_records rest reachable fresh tool success
  obtain ⟨middle, booted, run⟩ := Run.split loading later run
  have device := boot_run booted loads
  obtain ⟨guarded, idle⟩ := @boot_guarded cfg _ order _ saveErr stored plain record valid
  rw [← device] at guarded idle
  have start : Untouched (passwordCredential host password salt) middle.world.device []
      middle.world :=
    ⟨guarded, rfl, rfl, fun active => (by cases idle.symm.trans active), by simp [framesOf]⟩
  by_cases loggedIn : LoggedIn hmac (passwordCredential host password salt).key later
  · exact Or.inl loggedIn
  · have untouched := run_untouched start run settled loggedIn
    rw [device] at untouched
    have held : s'.world.view.protection = some s'.world.auth.credential :=
      if_pos untouched.guarded.state
    exact Or.inr ⟨held.trans (congrArg some untouched.guarded.credential),
      untouched.guarded.session, untouched.refused, untouched.slots, untouched.settings⟩

/-! ## The first password -/

def sampleCredential : Credential :=
  passwordCredential PasswordOverLoss.sampleHost "pw" PasswordOverLoss.sampleSalt

def sampleSettings : Settings :=
  settingsSaveOne AuthCore.settingPath (AuthCore.serializeCredential sampleCredential) 0 .empty

def sampleLoading : KeyMoment :=
  let boot : Transport := .boot .default sampleSettings
  let value := AuthCore.serializeCredential sampleCredential
  ⟨boot, .settingsSet (some AuthCore.settingName) value.length (some (readerOf value)), { boot with
    world := boot.world.settingsSet .default (some AuthCore.settingName) value.length
      (some (readerOf value)) }⟩

def sampleCommit : KeyMoment :=
  let s := sampleLoading.after
  ⟨s, .settingsCommit fun _ => 0, { s with world := s.world.settingsCommit .default fun _ => 0 }⟩

def sampleCommand : Command := .setPassword "pw" "pw" PasswordOverLoss.sampleSalt

def sampleTool : Dialogue Frame Answer (Except ClientError Exit × UInt8) :=
  (main PasswordOverLoss.sampleHost (some ToolEffects.sampleHid) ToolEffects.sampleOptions
    sampleCommand).dialogue 7

def sampleReturn : Except ClientError Exit × UInt8 :=
  (sampleTool.drive (UsbLink.stumblingAnswer .default AuthCore.sampleHmac (.still 0))
    (UsbHid.connected.world, [.requestLost])).2.1

def sampleBind : KeyMoment :=
  let s := sampleCommit.after
  ⟨s, .usb .bind, { s with bound := true }⟩

def sampleList : Frame := Frame.build .list 3 0xFF 0 0 []

/-- The tool sets the first password at its second attempt. The next boot asks
for it: a LIST over USB is refused. -/
theorem password_outlives_power_sample : ∃ later s', Run (Traced (KeyboardStep .default
      AuthCore.sampleHmac)) sampleCommit.after later s' ∧
    (∃ exchange ∈ framesOf later, exchange.opcode = some .list ∧ exchange.accepted = false) ∧
    s'.world.view.protection = some sampleCredential := by
  obtain ⟨s', issued', log, runs, world⟩ := UsbLink.stumbles .default AuthCore.sampleHmac (.still 0)
    [.requestLost] 0 [] UsbHid.connected_atRest rfl (by decide : 0 < (1000 : Int)) sampleTool
  have returned : sampleReturn = (.ok ⟨0, line "password configured", none⟩, 14) := by
    rfl
  have settings : s'.world.settings = sampleSettings := by
    rw [world]
    rfl
  have keys : StoredKeys sampleSettings [AuthCore.settingPath] := by
    refine ⟨List.nodup_singleton _, fun key => ?_⟩
    rw [List.mem_singleton]
    by_cases same : key = AuthCore.settingPath
    · simp [same, sampleSettings]
    · simp [same, sampleSettings, settingsSaveOne, Settings.empty]
  have loaded : Traced (KeyboardStep .default AuthCore.sampleHmac) (.boot .default sampleSettings)
      sampleLoading sampleLoading.after := ⟨rfl, rfl, rfl⟩
  have committed : Traced (KeyboardStep .default AuthCore.sampleHmac) sampleLoading.after
      sampleCommit sampleCommit.after := ⟨rfl, rfl, rfl⟩
  have bind : Traced (KeyboardStep .default AuthCore.sampleHmac) sampleCommit.after sampleBind
      sampleBind.after := ⟨rfl, rfl, rfl, .bind⟩
  have up : AtRest sampleBind.after := ⟨rfl, rfl, rfl, rfl, rfl, fun _ => rfl, rfl, rfl⟩
  obtain ⟨moments, after, served, usb, frames, _⟩ := keyboard_serves .default AuthCore.sampleHmac
    (.still 9) sampleList up rfl
  have listed : framesOf (sampleBind :: moments) =
      [exchangeOf .default AuthCore.sampleHmac usbContext (.still 9) sampleList
        sampleBind.after.world] := frames
  have run : Run (Traced (KeyboardStep .default AuthCore.sampleHmac))
      (.boot .default sampleSettings) ([sampleLoading, sampleCommit] ++ sampleBind :: moments)
      after := .cons loaded <| .cons committed <| .cons bind served
  have settled : ∀ moment ∈ sampleBind :: moments, ¬ Reloads moment := by
    intro moment member reloads
    obtain ⟨event, same⟩ : ∃ event, moment.event = .usb event := by
      rcases List.mem_cons.mp member with rfl | later
      · exact ⟨.bind, rfl⟩
      · exact usb moment later
    rcases reloads with ⟨_, _, _, other⟩ | ⟨_, other⟩
    · cases same.symm.trans other
    · cases same.symm.trans other
  rw [show (sampleTool.drive _ _).2.1 = _ from returned] at runs
  rw [← settings] at keys run
  have guarantee := password_outlives_power .default AuthCore.sampleHmac
    PasswordOverLoss.sampleHost (some ToolEffects.sampleHid) ToolEffects.sampleOptions
    sampleCommand UsbHid.connected 0 7 UsbHid.connected_atRest ⟨.empty, [], .nil _⟩ rfl
    (fun credential held => by cases held) _ _ 14 _ runs rfl [AuthCore.settingPath] (fun _ => 0)
    keys (by decide) [sampleLoading, sampleCommit] (sampleBind :: moments) _
    (by rw [show (UsbHid.settled s' issued' log).transport.world.settings = _ from settings]; rfl)
    run settled
  refine ⟨_, after, .cons bind served, ?_⟩
  rcases guarantee with ⟨past, moment, since, split, proof, _, frame, isProof, _⟩ |
    ⟨held, _, refused, _⟩
  -- The only frame since the boot is the LIST.
  · have member : proof ∈ framesOf (sampleBind :: moments) :=
      List.mem_filterMap.mpr ⟨moment, by rw [split]; simp, frame⟩
    rw [listed] at member
    rw [List.mem_singleton.mp member] at isProof
    cases isProof
  · have member := List.mem_singleton.mpr (rfl : exchangeOf .default AuthCore.sampleHmac usbContext
      (.still 9) sampleList sampleBind.after.world = _)
    rw [← listed] at member
    exact ⟨⟨_, member, rfl, refused _ member rfl⟩, held⟩

end RuntimeMacro.Guarantees.PasswordOutlivesPower
