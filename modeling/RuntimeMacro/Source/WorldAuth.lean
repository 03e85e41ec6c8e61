import RuntimeMacro.Source.AuthPersistent
import RuntimeMacro.Source.FrameEffects
import RuntimeMacro.Source.WorldRuns

/-!
# The authentication core in runs of the firmware

runtime_macro_protocol.c:650-710,995-1281. Every event acts on the core through
its entry points, so what holds of every call holds of every run of the
firmware.
-/
namespace RuntimeMacro.Source
open Foundations.Runs Protocol
open AuthCore (FlagsAgree Hmac)

variable {cfg : Config} {hmac : Hmac} {core core' : AuthCore.State} {w w' start final : World}
  {events : List WorldEvent}

/-- The flags agree with the state, a locked core has no session and no
challenge, and there is a session in PROTECTED only. -/
structure CoreSound (core : AuthCore.State) : Prop where
  flags : FlagsAgree core
  idle : core.state = .stateErrorLocked →
    core.sessionActive = false ∧ core.challengeActive = false
  guarded : core.sessionActive = true → core.state = .stateProtected

theorem CoreSound.boot : CoreSound .boot :=
  ⟨rfl, fun locked => (by cases locked), fun active => (by cases active)⟩

theorem step_idle {s s' : AuthCore.System} {call : AuthCore.Event}
    (step : AuthCore.Step cfg hmac s call s') (sound : CoreSound s.core)
    (locked : s'.core.state = .stateErrorLocked) :
    s'.core.sessionActive = false ∧ s'.core.challengeActive = false := by
  by_cases silent : call.writesPersistent = false
  · have state : s'.core.state = s.core.state :=
      congrArg AuthCore.Persistent.state (AuthCore.step_persistent step silent)
    obtain ⟨noSession, noChallenge⟩ := sound.idle (state.symm.trans locked)
    constructor
    · by_contra active
      rw [Bool.not_eq_false] at active
      rcases AuthCore.step_session step active with ⟨_, _, _, _, _, _, _, guarded, _⟩ | ⟨before, _⟩
      · cases guarded.symm.trans locked
      · cases before.symm.trans noSession
    · by_contra active
      rw [Bool.not_eq_false] at active
      rcases AuthCore.step_challenge step active with ⟨nowMs, nonce, rfl, _⟩ | ⟨before, _⟩
      · obtain ⟨_, _, guarded, _⟩ := AuthCore.generateChallenge_ok step.1
        cases guarded.symm.trans (state.symm.trans locked)
      · cases before.symm.trans noChallenge
  · cases call with
    | setCredential credential nowMs saveErr result =>
      rcases AuthCore.setCredential_cases step with ⟨failed, _⟩ | ⟨_, _, _, _, _, left, _⟩
      · simp [AuthCore.Event.writesPersistent, failed] at silent
      · simp [left, AuthCore.setCredentialActivate] at locked
    | settingsSet name length readCb result =>
      rcases AuthCore.settingsSet_cases step.1 with
        ⟨other, _⟩ | ⟨_, _, _, left⟩ | ⟨_, _, _, _, left⟩
      · exact absurd other silent
      · simp [left]
      · simp [left]
    | settingsCommit =>
      obtain ⟨state, seen, invalid, _⟩ := AuthCore.settingsCommit_persistent sound.flags
      have left := step.1
      rw [left, state] at locked
      obtain ⟨noSession, noChallenge⟩ := sound.idle locked
      rw [left]
      unfold AuthCore.settingsCommit
      split
      · simp
      · split
        · simp [AuthCore.setErrorLocked]
        · exact ⟨noSession, noChallenge⟩
    | _ => exact absurd rfl silent

theorem step_guarded {s s' : AuthCore.System} {call : AuthCore.Event}
    (step : AuthCore.Step cfg hmac s call s') (sound : CoreSound s.core)
    (active : s'.core.sessionActive = true) : s'.core.state = .stateProtected := by
  rcases AuthCore.step_session step active with ⟨_, _, _, _, _, _, _, guarded, _⟩ | kept
  · exact guarded
  · obtain ⟨before, _, stays, _⟩ := kept
    exact stays (sound.guarded before)

/-- How far the persistent state has gone: a device only ever closes. -/
def rank : AuthCore.AuthState → Nat
  | .stateOpen => 0
  | .stateProtected => 1
  | .stateErrorLocked => 2

theorem rank_lt_of_ne {before after : AuthCore.AuthState} (ordered : rank before ≤ rank after)
    (different : after ≠ before) : rank before < rank after := by
  cases before <;> cases after <;> simp_all [rank]

theorem step_rank {s s' : AuthCore.System} {call : AuthCore.Event}
    (step : AuthCore.Step cfg hmac s call s') (sound : CoreSound s.core) :
    rank s.core.state ≤ rank s'.core.state := by
  by_cases silent : call.writesPersistent = false
  · have state : s'.core.state = s.core.state :=
      congrArg AuthCore.Persistent.state (AuthCore.step_persistent step silent)
    rw [state]
  · cases call with
    | setCredential credential nowMs saveErr result =>
      rcases AuthCore.setCredential_cases step with ⟨failed, _⟩ | ⟨_, _, _, _, open', left, _⟩
      · simp [AuthCore.Event.writesPersistent, failed] at silent
      · have guarded : s'.core.state = .stateProtected := by
          simp [left, AuthCore.setCredentialActivate]
        rw [guarded]
        cases mode : s.core.state with
        | stateErrorLocked => exact absurd mode open'
        | stateOpen | stateProtected => decide
    | settingsSet name length readCb result =>
      rcases AuthCore.settingsSet_cases step.1 with
        ⟨other, _⟩ | ⟨_, _, _, left⟩ | ⟨_, _, _, read, left⟩
      · exact absurd other silent
      · rw [left, AuthCore.marked_state]
        cases s.core.state <;> decide
      · -- Only the first entry of all is ever accepted.
        have fresh : s.core.settingsSeen = false := by
          by_contra seen
          rw [Bool.not_eq_false] at seen
          rw [seen] at read
          exact AuthCore.settingsSetRead_duplicate _ _ _ read
        have unguarded : s.core.state = .stateOpen := by
          rw [sound.flags, fresh]
          rfl
        rw [unguarded]
        exact Nat.zero_le _
    | settingsCommit =>
      rw [step.1, (AuthCore.settingsCommit_persistent sound.flags).1]
    | _ => exact absurd rfl silent

theorem CoreSound.step {s s' : AuthCore.System} {call : AuthCore.Event}
    (sound : CoreSound s.core) (step : AuthCore.Step cfg hmac s call s') : CoreSound s'.core :=
  ⟨AuthCore.step_flags step sound.flags, step_idle step sound, step_guarded step sound⟩

theorem CoreSound.trace (sound : CoreSound core) {writes : Bool}
    (trace : CoreTrace cfg hmac writes core core') :
    CoreSound core' := by
  obtain ⟨calls, _, run⟩ := trace
  refine run.invariant CoreSound sound ?_
  rintro _ _ _ sound ⟨settings, settings', step⟩
  exact sound.step step

theorem CoreSound.world (sound : CoreSound w.auth) {event : WorldEvent}
    (step : WorldStep cfg hmac w event w') : CoreSound w'.auth := by
  cases event with
  | frame exchange =>
    have trace := processFrame_trace cfg hmac exchange.env exchange.id exchange.request w true
      fun _ _ => rfl
    rw [step] at trace
    exact sound.trace trace
  | transportReset id env =>
    have called : AuthCore.Step cfg hmac w.authSystem .transportReset
        ⟨AuthCore.transportReset w.auth, w.settings⟩ := ⟨rfl, rfl⟩
    rw [step]
    exact CoreSound.step (s := w.authSystem) sound called
  | auth call =>
    obtain ⟨system, called, rfl⟩ := step
    exact CoreSound.step (s := w.authSystem) sound called
  | timeoutWork env =>
    have same : w'.auth = w.auth := by
      rw [step]
      unfold World.dynamicTimeoutWorkHandler
      split
      · rfl
      · dsimp only
        split
        · rfl
        · split <;> rfl
    rw [same]
    exact sound
  | ttlWork env =>
    rw [step]
    exact sound
  | execute slot env result =>
    have same : w'.auth = w.auth := congrArg (fun outcome => outcome.2.auth) step.symm
    rw [same]
    exact sound
  | executorWork env =>
    rw [step]
    exact sound
  | clearAll env =>
    rw [step]
    exact sound

theorem run_coreSound {settings : Settings}
    (run : Run (WorldStep cfg hmac) (.boot cfg settings) events w) : CoreSound w.auth :=
  run.invariant (fun w => CoreSound w.auth) CoreSound.boot fun _ _ _ sound step =>
    sound.world step

end RuntimeMacro.Source
