import RuntimeMacro.Source.AuthRuns

/-!
# The persistent part of the authentication core

runtime_macro_auth.c:404-455,469-540. The state, the credential and the
settings flags. Only a successful `set_credential`, a credential settings
callback and `settings_commit` write them, and the flags determine the state
throughout.
-/
namespace RuntimeMacro.Source.AuthCore
open Foundations.Runs

/-- The part of the core a replacement or a load writes. -/
structure Persistent where
  state : AuthState
  credential : Credential
  settingsSeen : Bool
  settingsInvalid : Bool
  settingsGeneration : UInt32

/-- The part of the core that outlives a session: mode, credential, and what
the settings said. -/
def State.persistent (s : State) : Persistent :=
  ⟨s.state, s.credential, s.settingsSeen, s.settingsInvalid, s.settingsGeneration⟩

/-- The state the settings flags stand for. -/
def modeOf (seen invalid : Bool) : AuthState :=
  if seen then (if invalid then .stateErrorLocked else .stateProtected) else .stateOpen

/-- The mode is the one that the flags of the last load stand for. -/
def FlagsAgree (s : State) : Prop := s.state = modeOf s.settingsSeen s.settingsInvalid

section Updates
variable {cfg : Config} {hmac : Hmac} {nowMs : Int} {core core' : State}

@[simp] theorem expireSession_persistent (nowMs : Int) (core : State) :
    (expireSession nowMs core).persistent = core.persistent := by
  unfold expireSession
  split <;> rfl

theorem Refused.persistent (refused : Refused nowMs core core') :
    core'.persistent = core.persistent := by
  rcases refused with rfl | rfl | rfl
  · rfl
  · exact expireSession_persistent nowMs _
  · exact expireSession_persistent nowMs _

theorem Checked.persistent {bytes : List UInt8} {hmacFails : Bool} {result : Int}
    (checked : Checked cfg hmac bytes nowMs hmacFails core result core') :
    core'.persistent = core.persistent := by
  rcases checked with ⟨_, _, rfl⟩ | ⟨_, _, _, rfl⟩ | ⟨_, _, _, rfl⟩ <;> rfl

end Updates

/-- A second entry of one load is never accepted. -/
theorem settingsSetRead_duplicate (length : Nat) (readCb : Option SettingsReadCb)
    (credential : Credential) : settingsSetRead true length readCb ≠ .ok credential := by
  intro read
  unfold settingsSetRead at read
  split at read
  · cases read
  · rw [if_pos (Or.inl rfl)] at read
    cases read

/-- What lookups alone do: nothing, or drop an expired session with its
challenge. -/
def Looked (core core' : State) : Prop :=
  core' = core ∨ (core.sessionActive = true ∧ core' = clearChallenge (clearSession core))

section Lookups
variable {nowMs : Int} {core core' core'' : State}

theorem Looked.refl (core : State) : Looked core core := Or.inl rfl

theorem expireSession_looked (nowMs : Int) (core : State) :
    Looked core (expireSession nowMs core) := by
  rcases expireSession_cases nowMs core with ⟨same, _⟩ | ⟨dropped, active, _⟩
  · exact Or.inl same
  · exact Or.inr ⟨active, dropped⟩

theorem Looked.trans (first : Looked core core') (second : Looked core' core'') :
    Looked core core'' := by
  rcases first with rfl | ⟨active, rfl⟩
  · exact second
  · rcases second with rfl | ⟨again, _⟩
    · exact Or.inr ⟨active, rfl⟩
    · cases again

theorem Looked.persistent (looked : Looked core core') : core'.persistent = core.persistent := by
  rcases looked with rfl | ⟨_, rfl⟩ <;> rfl

theorem Looked.state (looked : Looked core core') : core'.state = core.state := by
  rcases looked with rfl | ⟨_, rfl⟩ <;> rfl

theorem Looked.failureCount (looked : Looked core core') :
    core'.failureCount = core.failureCount := by
  rcases looked with rfl | ⟨_, rfl⟩ <;> rfl

theorem Looked.credential (looked : Looked core core') : core'.credential = core.credential := by
  rcases looked with rfl | ⟨_, rfl⟩ <;> rfl

/-- A session that outlives the lookups was there before, with everything
else. -/
theorem Looked.of_session (looked : Looked core core') (active : core'.sessionActive = true) :
    core' = core := by
  rcases looked with rfl | ⟨_, rfl⟩
  · rfl
  · cases active

theorem Looked.of_idle (looked : Looked core core') (idle : core.sessionActive = false) :
    core' = core := by
  rcases looked with rfl | ⟨active, rfl⟩
  · rfl
  · exact absurd (idle.symm.trans active) (by decide)

theorem expireSession_of_alive (alive : nowMs < core.sessionDeadlineMs) :
    expireSession nowMs core = core := by
  unfold expireSession
  rw [if_pos (Or.inr alive)]

/-- A session alive after two lookups was alive at both readings, and nothing
changed. -/
theorem expireSession_twice {first second : Int}
    (alive : (expireSession second (expireSession first core)).sessionActive = true) :
    expireSession first core = core ∧ expireSession second core = core ∧
      core.sessionActive = true ∧ first < core.sessionDeadlineMs ∧
      second < core.sessionDeadlineMs := by
  obtain ⟨same, late⟩ := expireSession_of_session alive
  rw [same] at alive
  obtain ⟨kept, early⟩ := expireSession_of_session alive
  rw [kept] at alive same late
  exact ⟨kept, same, alive, early, late⟩

end Lookups

section Steps
variable {cfg : Config} {hmac : Hmac} {s s' : System} {event : Event} {settings : Settings}
  {events : List Event}

/-- The calls that may write the persistent part. -/
def Event.writesPersistent : Event → Bool
  | .setCredential _ _ _ result => result == 0
  | .settingsSet name _ _ _ => nameMatches name
  | .settingsCommit => true
  | _ => false

theorem step_persistent (step : Step cfg hmac s event s')
    (silent : event.writesPersistent = false) : s'.core.persistent = s.core.persistent := by
  cases event with
  | getState nowMs result =>
    have left : s'.core = expireSession nowMs s.core := (Prod.ext_iff.mp step.1).2.symm
    rw [left]
    exact expireSession_persistent nowMs _
  | getInfo nowMs result =>
    have left : s'.core = expireSession nowMs s.core := by
      rw [← getInfo_core, step.1]
    rw [left]
    exact expireSession_persistent nowMs _
  | generateChallenge nonceLength nowMs random result =>
    cases result with
    | error err => exact (generateChallenge_error step.1).persistent
    | ok nonce =>
      obtain ⟨_, _, _, _, issued⟩ := generateChallenge_ok step.1
      rw [issued]
      exact expireSession_persistent nowMs _
  | verifyProof proof nowMs hmacFails result =>
    rcases verifyProof_cases step.1 with ⟨refused, _⟩ | ⟨_, _, _, _, _, _, checked⟩
    · exact refused.persistent
    · exact checked.persistent
  | isAuthenticated nowMs result =>
    have left : s'.core = expireSession nowMs s.core := (Prod.ext_iff.mp step.1).2.symm
    rw [left]
    exact expireSession_persistent nowMs _
  | refreshSession nowMs result =>
    rcases refreshSession_cases step.1 with ⟨_, left, _⟩ | ⟨_, _, _, _, left⟩
    · rw [left]
      exact expireSession_persistent nowMs _
    · rw [left]
      rfl
  | setCredential credential nowMs saveErr result =>
    rcases setCredential_cases step with ⟨_, same | expired, _⟩ | ⟨rfl, _⟩
    · rw [same]
    · rw [expired]
      exact expireSession_persistent nowMs _
    · cases silent
  | lock =>
    rw [step.1]
    rfl
  | transportReset =>
    rw [step.1]
    rfl
  | settingsSet name length readCb result =>
    rcases settingsSet_cases step.1 with ⟨_, _, same⟩ | ⟨matching, _⟩ | ⟨matching, _⟩
    · rw [same]
    · exact absurd (matching.symm.trans silent) (by decide)
    · exact absurd (matching.symm.trans silent) (by decide)
  | settingsCommit => cases silent

theorem FlagsAgree.of_persistent {core core' : State} (agree : FlagsAgree core)
    (same : core'.persistent = core.persistent) : FlagsAgree core' := by
  simp only [State.persistent, Persistent.mk.injEq] at same
  obtain ⟨state, _, seen, invalid, _⟩ := same
  unfold FlagsAgree
  rw [state, seen, invalid]
  exact agree

/-- A commit repeats what the flags already say. -/
theorem settingsCommit_persistent {core : State} (agree : FlagsAgree core) :
    (settingsCommit core).state = core.state ∧
      (settingsCommit core).settingsSeen = core.settingsSeen ∧
      (settingsCommit core).settingsInvalid = core.settingsInvalid ∧
      (core.state = .stateProtected → settingsCommit core = core) := by
  unfold FlagsAgree modeOf at agree
  unfold settingsCommit
  cases seen : core.settingsSeen <;> cases invalid : core.settingsInvalid <;>
    simp_all [setErrorLocked]

theorem step_flags (step : Step cfg hmac s event s') (agree : FlagsAgree s.core) :
    FlagsAgree s'.core := by
  by_cases silent : event.writesPersistent = false
  · exact agree.of_persistent (step_persistent step silent)
  · cases event with
    | setCredential credential nowMs saveErr result =>
      rcases setCredential_cases step with ⟨failed, _⟩ | ⟨_, _, _, _, _, left, _⟩
      · simp [Event.writesPersistent, failed] at silent
      · simp [FlagsAgree, modeOf, left, setCredentialActivate]
    | settingsSet name length readCb result =>
      rcases settingsSet_cases step.1 with ⟨other, _⟩ | ⟨_, _, _, left⟩ | ⟨_, _, _, _, left⟩
      · exact absurd other silent
      · simp [FlagsAgree, modeOf, left]
      · simp [FlagsAgree, modeOf, left]
    | settingsCommit =>
      obtain ⟨state, seen, invalid, _⟩ := settingsCommit_persistent agree
      rw [step.1]
      unfold FlagsAgree
      rw [state, seen, invalid]
      exact agree
    | _ => exact absurd rfl silent

theorem run_flags (run : Run (Step cfg hmac) (.boot settings) events s) : FlagsAgree s.core := by
  induction run with
  | nil => rfl
  | snoc _ step ih => exact step_flags step ih

end Steps

end RuntimeMacro.Source.AuthCore
