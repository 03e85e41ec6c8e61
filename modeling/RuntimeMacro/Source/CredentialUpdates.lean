import RuntimeMacro.Source.AuthPersistent
import RuntimeMacro.Source.CredentialRecord

/-!
# Interleaved credential updates

runtime_macro_auth.c:404-526. `set_credential` writes storage and
`settings_set` reads it outside the auth mutex. Here every critical section and
every storage call of the two is a step of some caller, and callers interleave
freely; the update mutex admits one `set_credential` at a time. The other entry
points hold the auth mutex throughout and stay one step. `phase` is where a
caller stands and what its locals hold.
-/
namespace RuntimeMacro.Source.AuthCore
open Foundations.Runs

abbrev Caller := Nat

/-- Where a caller stands: between two critical sections it holds what the next
one needs. -/
inductive Phase where
  | idle
  | saving (credential : Credential)
  | activating (credential : Credential)
  | reading (generation : UInt32) (length : Nat)
  | loading (generation : UInt32) (credential : Credential)
  deriving DecidableEq

/-- The core, its settings, who is between the two halves of an update, and
where each caller stands. -/
structure Updates where
  core : State
  settings : Settings
  updateOwner : Option Caller
  phase : Caller → Phase

namespace Updates

/-- No caller is in either function. -/
def quiet (core : State) (settings : Settings) : Updates := ⟨core, settings, none, fun _ => .idle⟩

/-- Nobody is under way. -/
def boot (settings : Settings) : Updates := quiet .boot settings

/-- One caller moves on. -/
def goes (caller : Caller) (phase : Phase) (s : Updates) : Updates :=
  { s with phase := Function.update s.phase caller phase }

@[simp] theorem goes_core (caller : Caller) (phase : Phase) (s : Updates) :
    (s.goes caller phase).core = s.core := rfl
@[simp] theorem goes_settings (caller : Caller) (phase : Phase) (s : Updates) :
    (s.goes caller phase).settings = s.settings := rfl
@[simp] theorem goes_updateOwner (caller : Caller) (phase : Phase) (s : Updates) :
    (s.goes caller phase).updateOwner = s.updateOwner := rfl
@[simp] theorem goes_phase_self (caller : Caller) (phase : Phase) (s : Updates) :
    (s.goes caller phase).phase caller = phase := by simp [goes]

theorem goes_phase_of_ne {caller other : Caller} (different : other ≠ caller) (phase : Phase)
    (s : Updates) : (s.goes caller phase).phase other = s.phase other := by
  simp [goes, different]

end Updates

/-- What the backend hands a load that reads now: its error, or the stored
record. -/
def storedRecord (settings : Settings) (failure : Option Int) : SettingsReadCb := fun size =>
  match failure, settings.values settingPath with
  | some err, _ => (err, [])
  | none, none => (-enoent, [])
  | none, some record => ((record.take size).length, record.take size)

/-- One step of a caller. A result other than 0 and `none` is what the call
returns. -/
inductive UpdateEvent where
  | refuse (caller : Caller) (credential : Option Credential)
  | authorise (caller : Caller) (credential : Credential) (nowMs : Int) (result : Int)
  | save (caller : Caller) (saveErr : Int)
  | activate (caller : Caller)
  | mark (caller : Caller) (length : Nat) (readable : Bool) (result : Option Int)
  | read (caller : Caller) (failure : Option Int) (result : Option Int)
  | load (caller : Caller) (result : Int)
  | call (event : Event)

/-- The entry points that are one step. -/
def Event.oneStep : Event → Bool
  | .setCredential .. => false
  | .settingsSet name _ _ _ => !nameMatches name
  | _ => true

/-- `settings_set` returns right after its first critical section. -/
def returnsMarked (seen : Bool) (length : Nat) (readable : Bool) : Option Int :=
  if seen = true ∨ length ≠ credentialStorageSize ∨ readable = false then some (-einval) else none

/-- The critical sections of a credential update and of a load, each a step of
its own: between the check and the save, and between the save and the
activation, others may run. -/
def UpdateStep (cfg : Config) (hmac : Hmac) (s : Updates) : UpdateEvent → Updates → Prop
  | .refuse caller credential, s' =>
    s.phase caller = .idle ∧
      (∀ value, credential = some value → credentialIsValid value = false) ∧ s' = s
  | .authorise caller credential nowMs result, s' =>
    s.phase caller = .idle ∧ s.updateOwner = none ∧ credentialIsValid credential = true ∧
      ∃ core, setCredentialAuthorise nowMs s.core = (result, core) ∧
        s' = if result = 0 then
            { s with core := core, updateOwner := some caller }.goes caller (.saving credential)
          else { s with core := core }
  | .save caller saveErr, s' =>
    ∃ credential, s.phase caller = .saving credential ∧
      s' = ({ s with
        settings := settingsSaveOne settingPath (serializeCredential credential) saveErr s.settings
        updateOwner := if saveErr = 0 then s.updateOwner else none } : Updates).goes caller
          (if saveErr = 0 then .activating credential else .idle)
  | .activate caller, s' =>
    ∃ credential, s.phase caller = .activating credential ∧
      s' = ({ s with core := setCredentialActivate credential s.core, updateOwner := none } :
        Updates).goes caller .idle
  | .mark caller length readable result, s' =>
    s.phase caller = .idle ∧ result = returnsMarked s.core.settingsSeen length readable ∧
      s' = ({ s with core := marked s.core } : Updates).goes caller
        (if result = none then .reading (marked s.core).settingsGeneration length else .idle)
  | .read caller failure result, s' =>
    ∃ generation length, s.phase caller = .reading generation length ∧
      match settingsSetRead false length (some (storedRecord s.settings failure)) with
      | .error err => result = some err ∧ s' = s.goes caller .idle
      | .ok credential => result = none ∧ s' = s.goes caller (.loading generation credential)
  | .load caller result, s' =>
    ∃ generation credential core, s.phase caller = .loading generation credential ∧
      settingsSetActivate generation credential s.core = (result, core) ∧
      s' = ({ s with core := core } : Updates).goes caller .idle
  | .call event, s' =>
    event.oneStep = true ∧ ∃ system, Step cfg hmac ⟨s.core, s.settings⟩ event system ∧
      s' = { s with core := system.core, settings := system.settings }

/-! ## Reading the stored record -/

/-- The stored record decodes to the credential: a load that reads now would
deliver it. -/
def Decodes (settings : Settings) (credential : Credential) : Prop :=
  settingsSetRead false credentialStorageSize (some (storedRecord settings none)) = .ok credential

theorem serializeCredential_length (credential : Credential) :
    (serializeCredential credential).length = credentialStorageSize := by
  simp [serializeCredential, putLe32, credentialStorageSize]

theorem decodes_of_saved {settings : Settings} {credential : Credential}
    (valid : credentialIsValid credential = true)
    (saved : settings.values settingPath = some (serializeCredential credential)) :
    Decodes settings credential := by
  have fits : credential.iterations < 2 ^ 32 := by
    simp only [credentialIsValid, Bool.not_eq_true', Bool.or_eq_false_iff,
      decide_eq_false_iff_not] at valid
    have atMost := valid.1.1.2
    unfold iterationsMax at atMost
    omega
  have length := serializeCredential_length credential
  have whole : (serializeCredential credential).take credentialStorageSize =
      serializeCredential credential := List.take_of_length_le (Nat.le_of_eq length)
  have version : (serializeCredential credential).getD 0 0 = credentialVersion := rfl
  unfold Decodes settingsSetRead storedRecord
  simp only [saved, whole, length, version, deserialize_serialize credential fits, valid]
  rfl

/-- A read that delivers a credential read the stored record. -/
theorem decodes_of_read {settings : Settings} {length : Nat} {failure : Option Int}
    {credential : Credential} (read : settingsSetRead false length
      (some (storedRecord settings failure)) = .ok credential) : Decodes settings credential := by
  unfold settingsSetRead at read
  dsimp only at read
  by_cases sized : length = credentialStorageSize
  · cases failure with
    | none =>
      subst sized
      exact read
    | some err =>
      rw [if_neg (by simp [sized])] at read
      split at read
      · cases read
      · have empty : ([] : List UInt8).getD 0 0 ≠ credentialVersion := by decide
        have version : (storedRecord settings (some err) credentialStorageSize).2.getD 0 0 ≠
          credentialVersion := empty
        rw [if_pos (Or.inr version)] at read
        cases read
  · rw [if_pos (Or.inr sized)] at read
    cases read

theorem decodes_unique {settings : Settings} {first second : Credential}
    (one : Decodes settings first) (two : Decodes settings second) : first = second :=
  Except.ok.inj (one.symm.trans two)

theorem Decodes.congr {settings settings' : Settings} {credential : Credential}
    (decodes : Decodes settings credential)
    (same : settings'.values settingPath = settings.values settingPath) :
    Decodes settings' credential := by
  unfold Decodes storedRecord at *
  rw [same]
  exact decodes

/-! ## Calls that are one step -/

theorem settingsCommit_kept (core : State) :
    (settingsCommit core).settingsGeneration = core.settingsGeneration ∧
      (settingsCommit core).settingsInvalid = core.settingsInvalid ∧
      ((settingsCommit core).state = .stateProtected → settingsCommit core = core) := by
  unfold settingsCommit
  by_cases unseen : core.settingsSeen = false
  · rw [if_pos unseen]
    exact ⟨rfl, rfl, fun guarded => by cases guarded⟩
  · rw [if_neg unseen]
    by_cases invalid : core.settingsInvalid = true
    · rw [if_pos invalid]
      exact ⟨rfl, rfl, fun guarded => by cases guarded⟩
    · rw [if_neg invalid]
      exact ⟨rfl, rfl, fun _ => rfl⟩

/-- What a one-step call leaves of the persistent part and of storage. -/
theorem oneStep_kept {cfg : Config} {hmac : Hmac} {s s' : System} {event : Event}
    (step : Step cfg hmac s event s') (oneStep : event.oneStep = true) :
    s'.settings = s.settings ∧ s'.core.settingsGeneration = s.core.settingsGeneration ∧
      s'.core.settingsInvalid = s.core.settingsInvalid ∧
      (s'.core.state = .stateProtected →
        s.core.state = .stateProtected ∧ s'.core.credential = s.core.credential) := by
  have settings : s'.settings = s.settings := by
    cases event with
    | setCredential => cases oneStep
    | _ => exact step.2
  by_cases commit : event = .settingsCommit
  · subst commit
    obtain ⟨generation, invalid, same⟩ := settingsCommit_kept s.core
    have left : s'.core = settingsCommit s.core := step.1
    rw [left]
    refine ⟨settings, generation, invalid, fun guarded => ?_⟩
    have kept := same guarded
    rw [kept] at guarded ⊢
    exact ⟨guarded, rfl⟩
  · have silent : event.writesPersistent = false := by
      cases event with
      | setCredential => cases oneStep
      | settingsSet name => simpa [Event.oneStep, Event.writesPersistent] using oneStep
      | settingsCommit => exact absurd rfl commit
      | _ => rfl
    have kept := step_persistent step silent
    simp only [State.persistent, Persistent.mk.injEq] at kept
    obtain ⟨state, credential, _, invalid, generation⟩ := kept
    exact ⟨settings, generation, invalid, fun guarded => ⟨state.symm.trans guarded, credential⟩⟩

/-! ## What a step moves -/

/-- A credential callback of the settings subsystem. -/
def isCallback : UpdateEvent → Bool
  | .mark .. => true
  | _ => false

/-- The caller whose step it is. -/
def actor : UpdateEvent → Option Caller
  | .refuse caller _ | .authorise caller .. | .save caller _ | .activate caller
  | .mark caller .. | .read caller .. | .load caller _ => some caller
  | .call _ => none

theorem setCredentialAuthorise_core {nowMs result : Int} {core core' : State}
    (authorised : setCredentialAuthorise nowMs core = (result, core')) :
    core' = expireSession nowMs core := (setCredentialAuthorise_cases authorised).1

/-- A load is turned away, or activates and is no longer pending. -/
theorem settingsSetActivate_cases {generation : UInt32} {credential : Credential} {result : Int}
    {core core' : State}
    (activated : settingsSetActivate generation credential core = (result, core')) :
    core' = core ∨ (core.settingsGeneration = generation ∧ core.settingsInvalid = true ∧
      core' = clearTransient true { core with
        credential := credential
        state := .stateProtected
        settingsInvalid := false }) := by
  unfold settingsSetActivate at activated
  by_cases stale : core.settingsGeneration ≠ generation ∨ core.settingsInvalid = false
  · rw [if_pos stale] at activated
    cases activated
    exact Or.inl rfl
  · rw [if_neg stale] at activated
    cases activated
    simp only [not_or, ne_eq, Decidable.not_not, Bool.not_eq_false] at stale
    exact Or.inr ⟨stale.1, stale.2, rfl⟩

section Moves
variable {cfg : Config} {hmac : Hmac} {s s' : Updates} {event : UpdateEvent} {caller : Caller}

theorem step_phase_of_ne (step : UpdateStep cfg hmac s event s')
    (other : actor event ≠ some caller) : s'.phase caller = s.phase caller := by
  have apart : ∀ owner, actor event = some owner → caller ≠ owner := by
    rintro owner acting rfl
    exact other acting
  cases event with
  | refuse owner credential => rw [step.2.2]
  | authorise owner credential nowMs result =>
    obtain ⟨_, _, _, core, _, left⟩ := step
    rw [left]
    split
    · rw [Updates.goes_phase_of_ne (apart owner rfl)]
    · rfl
  | save owner saveErr =>
    obtain ⟨_, _, left⟩ := step
    rw [left, Updates.goes_phase_of_ne (apart owner rfl)]
  | activate owner =>
    obtain ⟨_, _, left⟩ := step
    rw [left, Updates.goes_phase_of_ne (apart owner rfl)]
  | mark owner length readable result =>
    obtain ⟨_, _, left⟩ := step
    rw [left, Updates.goes_phase_of_ne (apart owner rfl)]
  | read owner failure result =>
    obtain ⟨generation, length, _, outcome⟩ := step
    split at outcome
    · rw [outcome.2, Updates.goes_phase_of_ne (apart owner rfl)]
    · rw [outcome.2, Updates.goes_phase_of_ne (apart owner rfl)]
  | load owner result =>
    obtain ⟨_, _, _, _, _, left⟩ := step
    rw [left, Updates.goes_phase_of_ne (apart owner rfl)]
  | call event =>
    obtain ⟨_, _, _, left⟩ := step
    rw [left]

/-- Only credential callbacks move the generation, and by one. -/
theorem step_generation (step : UpdateStep cfg hmac s event s') :
    s'.core.settingsGeneration =
      if isCallback event then s.core.settingsGeneration + 1 else s.core.settingsGeneration := by
  cases event with
  | refuse owner credential =>
    rw [step.2.2]
    rfl
  | authorise owner credential nowMs result =>
    obtain ⟨_, _, _, core, authorised, left⟩ := step
    have expired : core.settingsGeneration = s.core.settingsGeneration := by
      rw [setCredentialAuthorise_core authorised]
      exact congrArg Persistent.settingsGeneration (expireSession_persistent nowMs s.core)
    rw [left]
    split
    · exact expired
    · exact expired
  | save owner saveErr =>
    obtain ⟨_, _, left⟩ := step
    rw [left]
    rfl
  | activate owner =>
    obtain ⟨_, _, left⟩ := step
    rw [left]
    rfl
  | mark owner length readable result =>
    obtain ⟨_, _, left⟩ := step
    rw [left]
    rfl
  | read owner failure result =>
    obtain ⟨generation, length, _, outcome⟩ := step
    split at outcome
    · rw [outcome.2]
      rfl
    · rw [outcome.2]
      rfl
  | load owner result =>
    obtain ⟨_, _, core, _, activated, left⟩ := step
    rw [left]
    rcases settingsSetActivate_cases activated with same | ⟨_, _, opened⟩
    · rw [same]
      rfl
    · rw [opened]
      rfl
  | call event =>
    obtain ⟨oneStep, system, called, left⟩ := step
    rw [left]
    exact (oneStep_kept called oneStep).2.1

end Moves

/-! ## Undisturbed callers -/

section Undisturbed
variable {cfg : Config} {hmac : Hmac} {core core' : State} {settings settings' : Settings}

theorem quiet_of_idle (caller : Caller) (phase : Phase) :
    (⟨core, settings, none, Function.update (Function.update (fun _ => .idle) caller phase) caller
      .idle⟩ : Updates) = .quiet core settings := by
  simp [Updates.quiet, Function.update_idem]

theorem setCredential_run {credential : Option Credential} {nowMs saveErr result : Int}
    (set : setCredential credential nowMs saveErr core settings = (result, core', settings')) :
    ∃ events, Run (UpdateStep cfg hmac) (.quiet core settings) events (.quiet core' settings') := by
  unfold setCredential at set
  cases credential with
  | none =>
    cases set
    exact ⟨[.refuse 0 none], Run.single ⟨rfl, by simp, rfl⟩⟩
  | some value =>
    dsimp only at set
    by_cases invalid : credentialIsValid value = false
    · rw [if_pos invalid] at set
      cases set
      refine ⟨[.refuse 0 (some value)], Run.single ⟨rfl, ?_, rfl⟩⟩
      intro other same
      rw [← Option.some.inj same]
      exact invalid
    · rw [if_neg invalid] at set
      have valid : credentialIsValid value = true := by simpa using invalid
      obtain ⟨err, authorised, grants⟩ : ∃ err authorised,
          setCredentialAuthorise nowMs core = (err, authorised) := ⟨_, _, rfl⟩
      rw [grants] at set
      dsimp only at set
      by_cases refused : err ≠ 0
      · rw [if_pos refused] at set
        cases set
        refine ⟨[.authorise 0 value nowMs result], Run.single ⟨rfl, rfl, valid, core', grants, ?_⟩⟩
        rw [if_neg refused]
        rfl
      · rw [if_neg refused] at set
        have granted : err = 0 := by simpa using refused
        subst granted
        have first : UpdateStep cfg hmac (.quiet core settings) (.authorise 0 value nowMs 0)
            ((⟨authorised, settings, some 0, fun _ => .idle⟩ : Updates).goes 0 (.saving value)) :=
          ⟨rfl, rfl, valid, authorised, grants, by rw [if_pos rfl]; rfl⟩
        by_cases unsaved : saveErr ≠ 0
        · rw [if_pos unsaved] at set
          cases set
          have second : UpdateStep cfg hmac
              ((⟨core', settings, some 0, fun _ => .idle⟩ : Updates).goes 0 (.saving value))
              (.save 0 saveErr) (.quiet core' (settingsSaveOne settingPath
                (serializeCredential value) saveErr settings)) := by
            refine ⟨value, Updates.goes_phase_self .., ?_⟩
            rw [if_neg unsaved, if_neg unsaved, ← quiet_of_idle 0 (.saving value)]
            rfl
          exact ⟨_, (Run.single first).snoc second⟩
        · rw [if_neg unsaved] at set
          have saved : saveErr = 0 := by simpa using unsaved
          subst saved
          cases set
          have second : UpdateStep cfg hmac
              ((⟨authorised, settings, some 0, fun _ => .idle⟩ : Updates).goes 0 (.saving value))
              (.save 0 0) ((⟨authorised, settingsSaveOne settingPath (serializeCredential value) 0
                settings, some 0, fun _ => .idle⟩ : Updates).goes 0 (.activating value)) := by
            refine ⟨value, Updates.goes_phase_self .., ?_⟩
            simp [Updates.goes, Function.update_idem]
          have third : UpdateStep cfg hmac
              ((⟨authorised, settingsSaveOne settingPath (serializeCredential value) 0 settings,
                some 0, fun _ => .idle⟩ : Updates).goes 0 (.activating value)) (.activate 0)
              (.quiet (setCredentialActivate value authorised) (settingsSaveOne settingPath
                (serializeCredential value) 0 settings)) := by
            refine ⟨value, Updates.goes_phase_self .., ?_⟩
            rw [← quiet_of_idle 0 (.activating value)]
            rfl
          exact ⟨_, ((Run.single first).snoc second).snoc third⟩

/-- A load that nobody disturbs, of the stored record. -/
theorem settingsSet_run {name : Option Name} {length : Nat} {readCb : Option SettingsReadCb}
    {result : Int} (matching : nameMatches name = true)
    (stored : readCb = none ∨ ∃ failure, readCb = some (storedRecord settings failure))
    (set : settingsSet name length readCb core = (result, core')) :
    ∃ events, Run (UpdateStep cfg hmac) (.quiet core settings) events (.quiet core' settings) := by
  unfold settingsSet at set
  rw [if_neg (by simp [matching])] at set
  change (match settingsSetRead core.settingsSeen length readCb with
    | .error err => (err, marked core)
    | .ok credential => settingsSetActivate (marked core).settingsGeneration credential
        (marked core)) = _ at set
  have first : UpdateStep cfg hmac (.quiet core settings) (.mark 0 length readCb.isSome
      (returnsMarked core.settingsSeen length readCb.isSome))
      ((Updates.quiet (marked core) settings).goes 0
        (if returnsMarked core.settingsSeen length readCb.isSome = none then
          .reading (marked core).settingsGeneration length else .idle)) := ⟨rfl, rfl, rfl⟩
  have home : (Updates.quiet (marked core) settings).goes 0 .idle =
      .quiet (marked core) settings := by
    simp [Updates.goes, Updates.quiet]
  by_cases early : core.settingsSeen = true ∨ length ≠ credentialStorageSize ∨ readCb.isSome = false
  · have returned : returnsMarked core.settingsSeen length readCb.isSome = some (-einval) :=
      if_pos early
    have failed : settingsSetRead core.settingsSeen length readCb = .error (-einval) := by
      cases readCb with
      | none => rfl
      | some cb =>
        unfold settingsSetRead
        dsimp only
        rw [if_pos]
        simpa using early
    rw [failed] at set
    cases set
    rw [if_neg (by rw [returned]; simp), home] at first
    exact ⟨_, Run.single first⟩
  · simp only [not_or, Bool.not_eq_true, Bool.not_eq_false, Decidable.not_not, ne_eq] at early
    obtain ⟨unseen, sized, readable⟩ := early
    obtain ⟨failure, rfl⟩ : ∃ failure, readCb = some (storedRecord settings failure) := by
      rcases stored with rfl | given
      · cases readable
      · exact given
    have goesOn : returnsMarked core.settingsSeen length true = none := by
      simp [returnsMarked, unseen, sized]
    rw [Option.isSome_some, if_pos goesOn] at first
    rw [unseen] at set
    cases read : settingsSetRead false length (some (storedRecord settings failure)) with
    | error err =>
      rw [read] at set
      cases set
      have second : UpdateStep cfg hmac ((Updates.quiet (marked core) settings).goes 0
          (.reading (marked core).settingsGeneration length)) (.read 0 failure (some result))
          (.quiet (marked core) settings) := by
        refine ⟨_, length, Updates.goes_phase_self .., ?_⟩
        rw [Updates.goes_settings]
        simp only [Updates.quiet, read]
        simp [Updates.goes, Function.update_idem]
      exact ⟨_, (Run.single first).snoc second⟩
    | ok credential =>
      rw [read] at set
      have second : UpdateStep cfg hmac ((Updates.quiet (marked core) settings).goes 0
          (.reading (marked core).settingsGeneration length)) (.read 0 failure none)
          ((Updates.quiet (marked core) settings).goes 0
            (.loading (marked core).settingsGeneration credential)) := by
        refine ⟨_, length, Updates.goes_phase_self .., ?_⟩
        rw [Updates.goes_settings]
        simp only [Updates.quiet, read]
        simp [Updates.goes, Function.update_idem]
      have third : UpdateStep cfg hmac ((Updates.quiet (marked core) settings).goes 0
          (.loading (marked core).settingsGeneration credential)) (.load 0 result)
          (.quiet core' settings) := by
        refine ⟨_, credential, core', Updates.goes_phase_self .., set, ?_⟩
        simp [Updates.goes, Updates.quiet, Function.update_idem]
      exact ⟨_, ((Run.single first).snoc second).snoc third⟩

/-- The atomic entry points are the runs in which callers do not disturb each
other. -/
theorem step_run {event : Event}
    (step : Step cfg hmac ⟨core, settings⟩ event ⟨core', settings'⟩)
    (stored : ∀ name length readCb result, event = .settingsSet name length readCb result →
      readCb = none ∨ ∃ failure, readCb = some (storedRecord settings failure)) :
    ∃ events, Run (UpdateStep cfg hmac) (.quiet core settings) events (.quiet core' settings') := by
  by_cases oneStep : event.oneStep = true
  · exact ⟨[.call event], Run.single ⟨oneStep, ⟨core', settings'⟩, step, rfl⟩⟩
  · cases event with
    | setCredential credential nowMs saveErr result => exact setCredential_run step
    | settingsSet name length readCb result =>
      have matching : nameMatches name = true := by
        simpa [Event.oneStep] using oneStep
      have same : settings' = settings := step.2
      subst same
      exact settingsSet_run matching (stored _ _ _ _ rfl) step.1
    | _ => exact absurd rfl oneStep

end Undisturbed

end RuntimeMacro.Source.AuthCore
