import RuntimeMacro.Source.AuthCore
import RuntimeMacro.Foundations.Runs

/-!
# Runs of the authentication core

runtime_macro_auth.c:231-540. The entry points of runtime_macro_auth.c as
events of a system: an event carries the arguments, the outside inputs and the
answer of one call. `step_challenge` and `step_session` say once how a call can
leave a challenge or a session behind; every statement about runs rests on them
and never unfolds an entry point again.
-/
namespace RuntimeMacro.Source.AuthCore
open Foundations.Runs

/-- The core and the settings it saves the credential to. -/
structure System where
  core : State
  settings : Settings

/-- The core at power-up, with settings that an earlier power-up left. -/
def System.boot (settings : Settings) : System := ⟨.boot, settings⟩

inductive Event where
  | getState (nowMs : Int) (result : AuthState)
  | getInfo (nowMs : Int) (result : Info)
  | generateChallenge (nonceLength : Option Nat) (nowMs : Int) (random : Option Nonce)
      (result : Except Int Nonce)
  | verifyProof (proof : Option (List UInt8)) (nowMs : Int) (hmacFails : Bool) (result : Int)
  | isAuthenticated (nowMs : Int) (result : Bool)
  | refreshSession (nowMs : Int) (result : Int)
  | setCredential (credential : Option Credential) (nowMs saveErr : Int) (result : Int)
  | lock
  | transportReset
  | settingsSet (name : Option Name) (length : Nat) (readCb : Option SettingsReadCb) (result : Int)
  | settingsCommit

/-- One call: its answer and its effect are those of the entry point. -/
def Step (cfg : Config) (hmac : Hmac) (s : System) : Event → System → Prop
  | .getState nowMs result, s' =>
    AuthCore.getState nowMs s.core = (result, s'.core) ∧ s'.settings = s.settings
  | .getInfo nowMs result, s' =>
    AuthCore.getInfo nowMs s.core = (result, s'.core) ∧ s'.settings = s.settings
  | .generateChallenge nonceLength nowMs random result, s' =>
    AuthCore.generateChallenge cfg nonceLength nowMs random s.core = (result, s'.core) ∧
      s'.settings = s.settings
  | .verifyProof proof nowMs hmacFails result, s' =>
    AuthCore.verifyProof cfg hmac proof nowMs hmacFails s.core = (result, s'.core) ∧
      s'.settings = s.settings
  | .isAuthenticated nowMs result, s' =>
    AuthCore.isAuthenticated nowMs s.core = (result, s'.core) ∧ s'.settings = s.settings
  | .refreshSession nowMs result, s' =>
    AuthCore.refreshSession cfg nowMs s.core = (result, s'.core) ∧ s'.settings = s.settings
  | .setCredential credential nowMs saveErr result, s' =>
    AuthCore.setCredential credential nowMs saveErr s.core s.settings =
      (result, s'.core, s'.settings)
  | .lock, s' => s'.core = AuthCore.lock s.core ∧ s'.settings = s.settings
  | .transportReset, s' => s'.core = AuthCore.transportReset s.core ∧ s'.settings = s.settings
  | .settingsSet name length readCb result, s' =>
    AuthCore.settingsSet name length readCb s.core = (result, s'.core) ∧ s'.settings = s.settings
  | .settingsCommit, s' =>
    s'.core = AuthCore.settingsCommit s.core ∧ s'.settings = s.settings

/-- The state after a call that gave the recorded answer. -/
def answered {α : Type} [DecidableEq α] (result : α) (settings : Settings)
    (outcome : α × State) : Option System :=
  if outcome.1 = result then some ⟨outcome.2, settings⟩ else none

/-- `Step`, executed. -/
def next (cfg : Config) (hmac : Hmac) (s : System) : Event → Option System
  | .getState nowMs result => answered result s.settings (AuthCore.getState nowMs s.core)
  | .getInfo nowMs result => answered result s.settings (AuthCore.getInfo nowMs s.core)
  | .generateChallenge nonceLength nowMs random result =>
    answered result s.settings (AuthCore.generateChallenge cfg nonceLength nowMs random s.core)
  | .verifyProof proof nowMs hmacFails result =>
    answered result s.settings (AuthCore.verifyProof cfg hmac proof nowMs hmacFails s.core)
  | .isAuthenticated nowMs result =>
    answered result s.settings (AuthCore.isAuthenticated nowMs s.core)
  | .refreshSession nowMs result =>
    answered result s.settings (AuthCore.refreshSession cfg nowMs s.core)
  | .setCredential credential nowMs saveErr result =>
    let (err, core, settings) :=
      AuthCore.setCredential credential nowMs saveErr s.core s.settings
    if err = result then some ⟨core, settings⟩ else none
  | .lock => some ⟨AuthCore.lock s.core, s.settings⟩
  | .transportReset => some ⟨AuthCore.transportReset s.core, s.settings⟩
  | .settingsSet name length readCb result =>
    answered result s.settings (AuthCore.settingsSet name length readCb s.core)
  | .settingsCommit => some ⟨AuthCore.settingsCommit s.core, s.settings⟩

theorem answered_some {α : Type} [DecidableEq α] {result : α} {settings : Settings}
    {outcome : α × State} {s' : System} (accepted : answered result settings outcome = some s') :
    outcome = (result, s'.core) ∧ s'.settings = settings := by
  unfold answered at accepted
  split at accepted
  next same =>
    cases accepted
    exact ⟨by rw [← same], rfl⟩
  · cases accepted

theorem next_sound (cfg : Config) (hmac : Hmac) (s : System) (event : Event) (s' : System)
    (executed : next cfg hmac s event = some s') : Step cfg hmac s event s' := by
  cases event with
  | setCredential credential nowMs saveErr result =>
    simp only [next] at executed
    split at executed
    next same =>
      cases executed
      rw [← same]
      rfl
    · cases executed
  | lock | transportReset | settingsCommit =>
    cases executed
    exact ⟨rfl, rfl⟩
  | _ => exact answered_some executed

namespace Event

/-- The clock reading of a call; `lock`, the resets and the settings callbacks
read none. -/
def time : Event → Option Int
  | .getState nowMs _ | .getInfo nowMs _ | .generateChallenge _ nowMs _ _
  | .verifyProof _ nowMs _ _ | .isAuthenticated nowMs _ | .refreshSession nowMs _
  | .setCredential _ nowMs _ _ => some nowMs
  | _ => none

/-- A challenge that was handed out. -/
def issuesChallenge : Event → Bool
  | .generateChallenge _ _ _ (.ok _) => true
  | _ => false

/-- The nonce of such a challenge. -/
def issuedNonce : Event → Option Nonce
  | .generateChallenge _ _ _ (.ok nonce) => some nonce
  | _ => none

/-- A `verify_proof` that consumed a challenge; these are the calls that run
the HMAC. -/
def checksProof : Event → Bool
  | .verifyProof _ _ _ result => result == 0 || result == -eio || result == -eacces
  | _ => false

/-- The calls after which no earlier session is alive. -/
def endsSession : Event → Bool
  | .lock | .transportReset => true
  | .setCredential _ _ _ result => result == 0
  | .settingsSet name _ _ _ => nameMatches name
  | event => event.checksProof

/-- The reading at which a session was extended. -/
def refreshTime : Event → Option Int
  | .refreshSession nowMs 0 => some nowMs
  | _ => none

end Event

/-- The readings of a run, oldest first, never go back. -/
def Nondecreasing (events : List Event) : Prop :=
  (events.filterMap Event.time).Pairwise (· ≤ ·)

theorem Nondecreasing.front {past : List Event} {event : Event}
    (ordered : Nondecreasing (past ++ [event])) : Nondecreasing past := by
  unfold Nondecreasing at *
  rw [List.filterMap_append, List.pairwise_append] at ordered
  exact ordered.1

theorem Nondecreasing.before_last {past : List Event} {event : Event} {reading now : Int}
    (ordered : Nondecreasing (past ++ [event])) (timed : event.time = some now)
    (member : reading ∈ past.filterMap Event.time) : reading ≤ now := by
  unfold Nondecreasing at ordered
  rw [List.filterMap_append, List.pairwise_append] at ordered
  exact ordered.2.2 reading member now (by simp [timed])

theorem Nondecreasing.between {front back : List Event} {first last : Event} {early late : Int}
    (ordered : Nondecreasing (front ++ first :: back)) (timed : first.time = some early)
    (member : last ∈ back) (timed' : last.time = some late) : early ≤ late := by
  unfold Nondecreasing at ordered
  rw [List.filterMap_append, List.pairwise_append, List.filterMap_cons_some timed,
    List.pairwise_cons] at ordered
  exact ordered.2.1.1 late (List.mem_filterMap.mpr ⟨last, member, timed'⟩)

/-! ## What the state updates keep -/

section Updates
variable (nowMs : Int) (s : State) (flag : Bool)

@[simp] theorem clearTransient_state : (clearTransient flag s).state = s.state := by
  cases flag <;> rfl
@[simp] theorem clearTransient_credential :
    (clearTransient flag s).credential = s.credential := by cases flag <;> rfl
@[simp] theorem clearTransient_sessionActive :
    (clearTransient flag s).sessionActive = false := by cases flag <;> rfl
@[simp] theorem clearTransient_challengeActive :
    (clearTransient flag s).challengeActive = false := by cases flag <;> rfl
@[simp] theorem clearTransient_settingsSeen :
    (clearTransient flag s).settingsSeen = s.settingsSeen := by cases flag <;> rfl
@[simp] theorem clearTransient_settingsInvalid :
    (clearTransient flag s).settingsInvalid = s.settingsInvalid := by cases flag <;> rfl
@[simp] theorem clearTransient_settingsGeneration :
    (clearTransient flag s).settingsGeneration = s.settingsGeneration := by cases flag <;> rfl
@[simp] theorem clearTransient_failureCount :
    (clearTransient flag s).failureCount = if flag then 0 else s.failureCount := by
  cases flag <;> rfl
@[simp] theorem clearTransient_cooldownDeadlineMs :
    (clearTransient flag s).cooldownDeadlineMs = if flag then 0 else s.cooldownDeadlineMs := by
  cases flag <;> rfl

/-- A lookup either finds the session alive or absent and changes nothing, or
drops the expired session together with its challenge. -/
theorem expireSession_cases :
    (expireSession nowMs s = s ∧ (s.sessionActive = false ∨ nowMs < s.sessionDeadlineMs)) ∨
    (expireSession nowMs s = clearChallenge (clearSession s) ∧ s.sessionActive = true ∧
      s.sessionDeadlineMs ≤ nowMs) := by
  unfold expireSession
  split
  · next alive => exact Or.inl ⟨rfl, alive⟩
  · next expired =>
    obtain ⟨active, late⟩ := not_or.mp expired
    exact Or.inr ⟨rfl, by simpa using active, by omega⟩

@[simp] theorem expireSession_state : (expireSession nowMs s).state = s.state := by
  unfold expireSession
  split <;> rfl
@[simp] theorem expireSession_credential :
    (expireSession nowMs s).credential = s.credential := by
  unfold expireSession
  split <;> rfl
@[simp] theorem expireSession_failureCount :
    (expireSession nowMs s).failureCount = s.failureCount := by
  unfold expireSession
  split <;> rfl
@[simp] theorem expireSession_cooldownDeadlineMs :
    (expireSession nowMs s).cooldownDeadlineMs = s.cooldownDeadlineMs := by
  unfold expireSession
  split <;> rfl
@[simp] theorem expireSession_settingsSeen :
    (expireSession nowMs s).settingsSeen = s.settingsSeen := by
  unfold expireSession
  split <;> rfl
@[simp] theorem expireSession_settingsInvalid :
    (expireSession nowMs s).settingsInvalid = s.settingsInvalid := by
  unfold expireSession
  split <;> rfl
@[simp] theorem expireSession_settingsGeneration :
    (expireSession nowMs s).settingsGeneration = s.settingsGeneration := by
  unfold expireSession
  split <;> rfl

variable {nowMs s}

/-- A challenge that survives a lookup is the challenge that was there. -/
theorem expireSession_of_challenge (active : (expireSession nowMs s).challengeActive = true) :
    expireSession nowMs s = s := by
  rcases expireSession_cases nowMs s with ⟨same, _⟩ | ⟨same, _⟩
  · exact same
  · rw [same] at active
    simp [clearChallenge] at active

/-- A session that survives a lookup was alive at that reading. -/
theorem expireSession_of_session (active : (expireSession nowMs s).sessionActive = true) :
    expireSession nowMs s = s ∧ nowMs < s.sessionDeadlineMs := by
  rcases expireSession_cases nowMs s with ⟨same, alive⟩ | ⟨same, _⟩
  · rw [same] at active
    refine ⟨same, ?_⟩
    rcases alive with idle | live
    · rw [idle] at active
      cases active
    · exact live
  · rw [same] at active
    simp [clearChallenge, clearSession] at active

end Updates

/-! ## What each entry point can do -/

section EntryPoints
variable {cfg : Config} {hmac : Hmac} {nowMs saveErr : Int} {s s' : State}

/-- The three ways a refused request leaves the core: untouched, after the lazy
expiry, or after it with the challenge dropped. -/
def Refused (nowMs : Int) (s s' : State) : Prop :=
  s' = s ∨ s' = expireSession nowMs s ∨ s' = clearChallenge (expireSession nowMs s)

theorem generateChallenge_ok {nonceLength : Option Nat} {random : Option Nonce} {nonce : Nonce}
    (issued : generateChallenge cfg nonceLength nowMs random s = (.ok nonce, s')) :
    nonceLength = some nonceSize ∧ random = some nonce ∧ s.state = .stateProtected ∧
    cooldownActive nowMs s = false ∧
    s' = { clearChallenge (expireSession nowMs s) with
      challenge := nonce
      challengeActive := true
      challengeDeadlineMs := nowMs + (cfg.authChallengeTimeout : Int) * 1000 } := by
  unfold generateChallenge at issued
  split at issued
  · cases issued
  next sized =>
    simp only [ne_eq, Decidable.not_not] at sized
    dsimp only at issued
    split at issued
    · cases issued
    next notOpen =>
      split at issued
      · cases issued
      next notLocked =>
        split at issued
        · cases issued
        next cool =>
          cases random with
          | none => cases issued
          | some generated =>
            simp only [Prod.mk.injEq, Except.ok.injEq] at issued
            obtain ⟨rfl, rfl⟩ := issued
            simp only [expireSession_state] at notOpen notLocked
            refine ⟨sized, rfl, ?_, ?_, rfl⟩
            · cases mode : s.state with
              | stateOpen => exact absurd mode notOpen
              | stateProtected => rfl
              | stateErrorLocked => exact absurd mode notLocked
            · simpa [cooldownActive] using cool

theorem generateChallenge_error {nonceLength : Option Nat} {random : Option Nonce} {err : Int}
    (refused : generateChallenge cfg nonceLength nowMs random s = (.error err, s')) :
    Refused nowMs s s' := by
  unfold generateChallenge at refused
  split at refused
  · cases refused
    exact Or.inl rfl
  · dsimp only at refused
    split at refused
    · cases refused
      exact Or.inr (Or.inl rfl)
    · split at refused
      · cases refused
        exact Or.inr (Or.inl rfl)
      · split at refused
        · cases refused
          exact Or.inr (Or.inl rfl)
        · cases random with
          | none =>
            cases refused
            exact Or.inr (Or.inr rfl)
          | some generated => cases refused

/-- What an HMAC check leaves behind. The challenge and the session are gone
before the outcome is known. -/
def Checked (cfg : Config) (hmac : Hmac) (proof : List UInt8) (nowMs : Int) (hmacFails : Bool)
    (s : State) (result : Int) (s' : State) : Prop :=
  (result = -eio ∧ hmacFails = true ∧ s' = clearSession (clearChallenge s)) ∨
  (result = -eacces ∧ hmacFails = false ∧
    expectedProof hmac s.credential.key s.challenge ≠ proof ∧
    s' = recordFailure nowMs (clearSession (clearChallenge s))) ∨
  (result = 0 ∧ hmacFails = false ∧ expectedProof hmac s.credential.key s.challenge = proof ∧
    s' = clearFailure { clearSession (clearChallenge s) with
      sessionActive := true
      sessionDeadlineMs := nowMs + (cfg.authSessionTimeout : Int) * 1000 })

theorem verifyProof_cases {proof : Option (List UInt8)} {hmacFails : Bool} {result : Int}
    (verified : verifyProof cfg hmac proof nowMs hmacFails s = (result, s')) :
    (Refused nowMs s s' ∧ result ≠ 0 ∧ result ≠ -eio ∧ result ≠ -eacces) ∨
    (∃ bytes, proof = some bytes ∧ bytes.length = proofSize ∧ s.state = .stateProtected ∧
      s.challengeActive = true ∧ nowMs < s.challengeDeadlineMs ∧
      Checked cfg hmac bytes nowMs hmacFails s result s') := by
  unfold verifyProof at verified
  cases proof with
  | none =>
    cases verified
    exact Or.inl ⟨Or.inl rfl, by decide⟩
  | some bytes =>
    dsimp only at verified
    split at verified
    · cases verified
      exact Or.inl ⟨Or.inl rfl, by decide⟩
    next sized =>
      split at verified
      · cases verified
        exact Or.inl ⟨Or.inr (Or.inl rfl), by decide⟩
      next notOpen =>
        split at verified
        · cases verified
          exact Or.inl ⟨Or.inr (Or.inl rfl), by decide⟩
        next notLocked =>
          split at verified
          · cases verified
            exact Or.inl ⟨Or.inr (Or.inr rfl), by decide⟩
          next pending =>
            obtain ⟨active, inTime⟩ := not_or.mp pending
            rw [Bool.not_eq_false] at active
            have same := expireSession_of_challenge active
            rw [same] at active inTime notOpen notLocked verified
            refine Or.inr ⟨bytes, rfl, by simpa using sized, ?_, active, by omega, ?_⟩
            · cases mode : s.state with
              | stateOpen => exact absurd mode notOpen
              | stateProtected => rfl
              | stateErrorLocked => exact absurd mode notLocked
            · split at verified
              next fails =>
                cases verified
                exact Or.inl ⟨rfl, fails, rfl⟩
              next works =>
                rw [Bool.not_eq_true] at works
                split at verified
                next differs =>
                  cases verified
                  exact Or.inr (Or.inl ⟨rfl, works, differs, rfl⟩)
                next agrees =>
                  cases verified
                  exact Or.inr (Or.inr ⟨rfl, works, by simpa using agrees, rfl⟩)

theorem refreshSession_cases {result : Int}
    (refreshed : refreshSession cfg nowMs s = (result, s')) :
    (result = -eacces ∧ s' = expireSession nowMs s ∧
      (s.state ≠ .stateProtected ∨ (expireSession nowMs s).sessionActive = false)) ∨
    (result = 0 ∧ s.state = .stateProtected ∧ s.sessionActive = true ∧
      nowMs < s.sessionDeadlineMs ∧
      s' = { s with sessionDeadlineMs := nowMs + (cfg.authSessionTimeout : Int) * 1000 }) := by
  unfold refreshSession at refreshed
  dsimp only at refreshed
  split at refreshed
  next refused =>
    cases refreshed
    exact Or.inl ⟨rfl, rfl, by simpa using refused⟩
  next granted =>
    obtain ⟨state, active⟩ := not_or.mp granted
    rw [Bool.not_eq_false] at active
    obtain ⟨same, alive⟩ := expireSession_of_session active
    rw [same] at active state refreshed
    cases refreshed
    exact Or.inr ⟨rfl, by simpa using state, active, alive, rfl⟩

theorem setCredentialAuthorise_cases {result : Int}
    (authorised : setCredentialAuthorise nowMs s = (result, s')) :
    s' = expireSession nowMs s ∧
    ((result = -eperm ∧ s.state = .stateErrorLocked) ∨
      (result = -eacces ∧ s.state = .stateProtected ∧
        (expireSession nowMs s).sessionActive = false) ∨
      (result = 0 ∧ s.state ≠ .stateErrorLocked ∧
        (s.state = .stateProtected → (expireSession nowMs s).sessionActive = true))) := by
  unfold setCredentialAuthorise at authorised
  simp only [expireSession_state] at authorised
  split at authorised
  next locked =>
    cases authorised
    exact ⟨rfl, Or.inl ⟨rfl, locked⟩⟩
  next notLocked =>
    split at authorised
    next missing =>
      cases authorised
      exact ⟨rfl, Or.inr (Or.inl ⟨rfl, missing⟩)⟩
    next granted =>
      cases authorised
      refine ⟨rfl, Or.inr (Or.inr ⟨rfl, notLocked, fun guarded => ?_⟩)⟩
      simpa using fun idle => granted ⟨guarded, idle⟩

theorem setCredential_cases {credential : Option Credential} {result : Int}
    {settings settings' : Settings}
    (set : setCredential credential nowMs saveErr s settings = (result, s', settings')) :
    (result ≠ 0 ∧ (s' = s ∨ s' = expireSession nowMs s) ∧ settings'.values = settings.values) ∨
    (result = 0 ∧ ∃ value, credential = some value ∧ credentialIsValid value = true ∧
      s.state ≠ .stateErrorLocked ∧
      s' = setCredentialActivate value (expireSession nowMs s) ∧
      settings' = settingsSaveOne settingPath (serializeCredential value) 0 settings) := by
  unfold setCredential at set
  cases credential with
  | none =>
    cases set
    exact Or.inl ⟨by decide, Or.inl rfl, rfl⟩
  | some value =>
    dsimp only at set
    split at set
    · cases set
      exact Or.inl ⟨by decide, Or.inl rfl, rfl⟩
    next valid =>
      cases authorised : setCredentialAuthorise nowMs s with
      | mk err core =>
        obtain ⟨rfl, outcome⟩ := setCredentialAuthorise_cases authorised
        simp only [authorised] at set
        split at set
        next refused =>
          cases set
          exact Or.inl ⟨refused, Or.inr rfl, rfl⟩
        next granted =>
          simp only [ne_eq, Decidable.not_not] at granted
          split at set
          next failed =>
            cases set
            exact Or.inl ⟨failed, Or.inr rfl, settingsSaveOne_values_of_error _ _ _ _ failed⟩
          next saved =>
            simp only [ne_eq, Decidable.not_not] at saved
            subst saved
            cases set
            refine Or.inr ⟨rfl, value, rfl, by simpa using valid, ?_, rfl, rfl⟩
            rcases outcome with ⟨perm, _⟩ | ⟨access, _⟩ | ⟨_, notLocked, _⟩
            · rw [perm] at granted
              cases granted
            · rw [access] at granted
              cases granted
            · exact notLocked

/-- A replacement that is permitted answers with the result of storage. -/
theorem setCredential_saved {credential : Credential} (settings : Settings) (saveErr : Int)
    (valid : credentialIsValid credential = true) (unlocked : s.state ≠ .stateErrorLocked)
    (session : s.state = .stateProtected → (expireSession nowMs s).sessionActive = true) :
    (setCredential (some credential) nowMs saveErr s settings).1 = saveErr := by
  cases authorised : setCredentialAuthorise nowMs s with
  | mk err core =>
    obtain ⟨_, outcome⟩ := setCredentialAuthorise_cases authorised
    have granted : err = 0 := by
      rcases outcome with ⟨_, locked⟩ | ⟨_, guarded, idle⟩ | ⟨granted, _⟩
      · exact absurd locked unlocked
      · exact absurd ((session guarded).symm.trans idle) (by decide)
      · exact granted
    unfold setCredential
    dsimp only
    rw [if_neg (by simp [valid]), authorised]
    dsimp only
    rw [if_neg (by simp [granted])]
    split
    next failed => rfl
    next saved => exact (by simpa using saved : saveErr = 0).symm

/-- A replacement that fails saves nothing. -/
theorem setCredential_unwritten {credential : Option Credential} {result : Int}
    {settings settings' : Settings}
    (set : setCredential credential nowMs saveErr s settings = (result, s', settings'))
    (failed : result ≠ 0) : settings.Unwritten settings' := by
  unfold setCredential at set
  cases credential with
  | none =>
    cases set
    exact Settings.Unwritten.of_calls rfl
  | some value =>
    dsimp only at set
    by_cases invalid : credentialIsValid value = false
    · rw [if_pos invalid] at set
      cases set
      exact Settings.Unwritten.of_calls rfl
    · rw [if_neg invalid] at set
      by_cases refused : (setCredentialAuthorise nowMs s).1 ≠ 0
      · rw [if_pos refused] at set
        cases set
        exact Settings.Unwritten.of_calls rfl
      · rw [if_neg refused] at set
        by_cases unsaved : saveErr ≠ 0
        · rw [if_pos unsaved] at set
          cases set
          refine (Settings.unwritten_iff (settingsSaveOne_calls ..)).mpr ?_
          simpa [SettingsCall.succeeded] using unsaved
        · rw [if_neg unsaved] at set
          cases set
          exact absurd rfl failed

/-- The core while a load is pending. -/
def marked (s : State) : State := (settingsSetMark s).2

theorem settingsSet_cases {name : Option Name} {length : Nat} {readCb : Option SettingsReadCb}
    {result : Int} (loaded : settingsSet name length readCb s = (result, s')) :
    (nameMatches name = false ∧ result = -enoent ∧ s' = s) ∨
    (nameMatches name = true ∧
      (∃ err, settingsSetRead s.settingsSeen length readCb = .error err ∧ s' = marked s)) ∨
    (nameMatches name = true ∧ result = 0 ∧
      (∃ credential, settingsSetRead s.settingsSeen length readCb = .ok credential ∧
        s' = clearTransient true { marked s with
          credential := credential
          state := .stateProtected
          settingsInvalid := false })) := by
  unfold settingsSet at loaded
  split at loaded
  next other =>
    cases loaded
    exact Or.inl ⟨other, rfl, rfl⟩
  next matching =>
    rw [Bool.not_eq_false] at matching
    have duplicate : (settingsSetMark s).1 = s.settingsSeen := rfl
    simp only [duplicate] at loaded
    cases read : settingsSetRead s.settingsSeen length readCb with
    | error err =>
      rw [read] at loaded
      cases loaded
      exact Or.inr (Or.inl ⟨matching, _, rfl, rfl⟩)
    | ok credential =>
      rw [read] at loaded
      -- Nothing runs between the two sections here, so the load is not stale.
      have fresh : settingsSetActivate (marked s).settingsGeneration credential (marked s) =
          (0, clearTransient true { marked s with
            credential := credential
            state := .stateProtected
            settingsInvalid := false }) := by
        have pending : (marked s).settingsInvalid = true := by
          simp [marked, settingsSetMark, setErrorLocked]
        simp [settingsSetActivate, pending]
      change settingsSetActivate (marked s).settingsGeneration credential (marked s) = _ at loaded
      rw [fresh] at loaded
      cases loaded
      exact Or.inr (Or.inr ⟨matching, rfl, credential, rfl, rfl⟩)

@[simp] theorem marked_state : (marked s).state = .stateErrorLocked := by
  simp [marked, settingsSetMark, setErrorLocked]
@[simp] theorem marked_settingsSeen : (marked s).settingsSeen = true := by
  simp [marked, settingsSetMark, setErrorLocked]
@[simp] theorem marked_settingsInvalid : (marked s).settingsInvalid = true := by
  simp [marked, settingsSetMark, setErrorLocked]
@[simp] theorem marked_challengeActive : (marked s).challengeActive = false := by
  simp [marked, settingsSetMark, setErrorLocked]
@[simp] theorem marked_sessionActive : (marked s).sessionActive = false := by
  simp [marked, settingsSetMark, setErrorLocked]

end EntryPoints

/-! ## What one call does to the challenge and to the session -/

section Steps
variable {cfg : Config} {hmac : Hmac} {s s' : System} {event : Event}

theorem Refused.challenge {nowMs : Int} {core core' : State} (refused : Refused nowMs core core')
    (active : core'.challengeActive = true) : core' = core := by
  rcases refused with rfl | rfl | rfl
  · rfl
  · exact expireSession_of_challenge active
  · simp [clearChallenge] at active

theorem Refused.session {nowMs : Int} {core core' : State} (refused : Refused nowMs core core')
    (active : core'.sessionActive = true) :
    core.sessionActive = true ∧ core'.sessionDeadlineMs = core.sessionDeadlineMs ∧
      core'.credential = core.credential ∧ core'.state = core.state := by
  rcases refused with rfl | rfl | rfl
  · exact ⟨active, rfl, rfl, rfl⟩
  · obtain ⟨same, _⟩ := expireSession_of_session active
    rw [same] at active ⊢
    exact ⟨active, rfl, rfl, rfl⟩
  · have survived : (expireSession nowMs core).sessionActive = true := active
    obtain ⟨same, _⟩ := expireSession_of_session survived
    rw [same] at active ⊢
    exact ⟨active, rfl, rfl, rfl⟩

theorem getInfo_core (nowMs : Int) (core : State) :
    (getInfo nowMs core).2 = expireSession nowMs core := by
  unfold getInfo
  dsimp only
  split <;> rfl

theorem getInfo_protected (nowMs : Int) {core : State} (guarded : core.state = .stateProtected) :
    (getInfo nowMs core).1 = ⟨.stateProtected, (expireSession nowMs core).sessionActive, kdfId,
      core.credential.iterations, core.credential.salt⟩ := by
  have state := (@expireSession_state nowMs core).trans guarded
  have credential := @expireSession_credential nowMs core
  unfold getInfo
  dsimp only
  rw [state]
  dsimp only
  rw [credential]

theorem getInfo_open (nowMs : Int) {core : State} (unguarded : core.state = .stateOpen) :
    (getInfo nowMs core).1 = ⟨.stateOpen, (expireSession nowMs core).sessionActive, kdfId,
      iterationsDefault, Vector.replicate 16 0⟩ := by
  have state := (@expireSession_state nowMs core).trans unguarded
  unfold getInfo
  dsimp only
  rw [state]

/-- The call issued the outstanding challenge, with the cooldown elapsed. -/
def ChallengeIssued (cfg : Config) (s : State) (event : Event) (s' : State) : Prop :=
  ∃ nowMs nonce, event = .generateChallenge (some nonceSize) nowMs (some nonce) (.ok nonce) ∧
    s'.challenge = nonce ∧
    s'.challengeDeadlineMs = nowMs + (cfg.authChallengeTimeout : Int) * 1000 ∧
    (s.failureCount = 0 ∨ s.cooldownDeadlineMs ≤ nowMs)

/-- The call left the outstanding challenge alone. -/
def ChallengeKept (s : State) (event : Event) (s' : State) : Prop :=
  s.challengeActive = true ∧ s'.challenge = s.challenge ∧
    s'.challengeDeadlineMs = s.challengeDeadlineMs ∧
    event.issuesChallenge = false ∧ event.checksProof = false

/-- A challenge outstanding after a call was issued by it or left alone by
it. -/
theorem step_challenge (step : Step cfg hmac s event s')
    (active : s'.core.challengeActive = true) :
    ChallengeIssued cfg s.core event s'.core ∨ ChallengeKept s.core event s'.core := by
  have same : s'.core = s.core → event.issuesChallenge = false → event.checksProof = false →
      ChallengeKept s.core event s'.core := by
    intro unchanged issues checks
    rw [unchanged] at active ⊢
    exact ⟨active, rfl, rfl, issues, checks⟩
  have looked : ∀ nowMs, s'.core = expireSession nowMs s.core → s'.core = s.core := by
    intro nowMs expired
    rw [expired] at active ⊢
    exact expireSession_of_challenge active
  have absent : s'.core.challengeActive ≠ false := by simp [active]
  cases event with
  | getState nowMs result =>
    exact Or.inr (same (looked nowMs (Prod.ext_iff.mp step.1).2.symm) rfl rfl)
  | getInfo nowMs result =>
    have expired : s'.core = expireSession nowMs s.core := by
      rw [← getInfo_core, step.1]
    exact Or.inr (same (looked nowMs expired) rfl rfl)
  | generateChallenge nonceLength nowMs random result =>
    cases result with
    | error err =>
      exact Or.inr (same ((generateChallenge_error step.1).challenge active) rfl rfl)
    | ok nonce =>
      obtain ⟨rfl, rfl, _, cool, issued⟩ := generateChallenge_ok step.1
      refine Or.inl ⟨nowMs, nonce, rfl, by rw [issued], by rw [issued], ?_⟩
      simp only [cooldownActive, Bool.and_eq_false_iff, decide_eq_false_iff_not, ne_eq,
        Decidable.not_not, Int.not_lt] at cool
      exact cool
  | verifyProof proof nowMs hmacFails result =>
    rcases verifyProof_cases step.1 with ⟨refused, nonzero, noIo, noAccess⟩ | checked
    · have silent : (Event.verifyProof proof nowMs hmacFails result).checksProof = false := by
        simp [Event.checksProof, nonzero, noIo, noAccess]
      exact Or.inr (same (refused.challenge active) rfl silent)
    · obtain ⟨_, _, _, _, _, _, outcome⟩ := checked
      rcases outcome with ⟨_, _, left⟩ | ⟨_, _, _, left⟩ | ⟨_, _, _, left⟩ <;>
        exact absurd (by rw [left]; rfl) absent
  | isAuthenticated nowMs result =>
    exact Or.inr (same (looked nowMs (Prod.ext_iff.mp step.1).2.symm) rfl rfl)
  | refreshSession nowMs result =>
    rcases refreshSession_cases step.1 with ⟨_, expired, _⟩ | ⟨_, _, _, _, left⟩
    · exact Or.inr (same (looked nowMs expired) rfl rfl)
    · rw [left] at active
      exact Or.inr ⟨active, by rw [left], by rw [left], rfl, rfl⟩
  | setCredential credential nowMs saveErr result =>
    rcases setCredential_cases step with ⟨_, unchanged | expired, _⟩ | ⟨_, _, _, _, _, left, _⟩
    · exact Or.inr (same unchanged rfl rfl)
    · exact Or.inr (same (looked nowMs expired) rfl rfl)
    · exact absurd (by simp [left, setCredentialActivate]) absent
  | lock => exact absurd (by simp [step.1, lock]) absent
  | transportReset => exact absurd (by simp [step.1, transportReset]) absent
  | settingsSet name length readCb result =>
    rcases settingsSet_cases step.1 with
      ⟨_, _, unchanged⟩ | ⟨_, _, _, left⟩ | ⟨_, _, _, _, left⟩
    · exact Or.inr (same unchanged rfl rfl)
    · exact absurd (by simp [left]) absent
    · exact absurd (by simp [left]) absent
  | settingsCommit =>
    have left := step.1
    unfold settingsCommit at left
    split at left
    · exact absurd (by simp [left]) absent
    · split at left
      · exact absurd (by simp [left, setErrorLocked]) absent
      · exact Or.inr (same left rfl rfl)

/-- The call verified a proof over the outstanding challenge and opened the
session. -/
def SessionOpened (cfg : Config) (hmac : Hmac) (s : State) (event : Event) (s' : State) : Prop :=
  ∃ proof nowMs, event = .verifyProof (some proof) nowMs false 0 ∧
    s.challengeActive = true ∧ nowMs < s.challengeDeadlineMs ∧
    expectedProof hmac s.credential.key s.challenge = proof ∧
    s'.credential = s.credential ∧ s'.state = .stateProtected ∧
    s'.sessionDeadlineMs = nowMs + (cfg.authSessionTimeout : Int) * 1000

/-- The call ended no session; it moved the deadline only as a refresh in
time. -/
def SessionKept (cfg : Config) (s : State) (event : Event) (s' : State) : Prop :=
  s.sessionActive = true ∧ s'.credential = s.credential ∧
    (s.state = .stateProtected → s'.state = .stateProtected) ∧ event.endsSession = false ∧
    ((∃ nowMs, event = .refreshSession nowMs 0 ∧ nowMs < s.sessionDeadlineMs ∧
        s'.sessionDeadlineMs = nowMs + (cfg.authSessionTimeout : Int) * 1000) ∨
      (event.refreshTime = none ∧ s'.sessionDeadlineMs = s.sessionDeadlineMs))

/-- A session alive after a call was opened by it or survived it. -/
theorem step_session (step : Step cfg hmac s event s')
    (active : s'.core.sessionActive = true) :
    SessionOpened cfg hmac s.core event s'.core ∨ SessionKept cfg s.core event s'.core := by
  have absent : s'.core.sessionActive ≠ false := by simp [active]
  have kept : ∀ nowMs, Refused nowMs s.core s'.core → event.endsSession = false →
      event.refreshTime = none → SessionKept cfg s.core event s'.core := by
    intro nowMs refused keeps silent
    obtain ⟨before, deadline, credential, state⟩ := refused.session active
    exact ⟨before, credential, fun guarded => state.trans guarded, keeps,
      Or.inr ⟨silent, deadline⟩⟩
  cases event with
  | getState nowMs result =>
    exact Or.inr (kept nowMs (Or.inr (Or.inl (Prod.ext_iff.mp step.1).2.symm)) rfl rfl)
  | getInfo nowMs result =>
    have expired : s'.core = expireSession nowMs s.core := by
      rw [← getInfo_core, step.1]
    exact Or.inr (kept nowMs (Or.inr (Or.inl expired)) rfl rfl)
  | generateChallenge nonceLength nowMs random result =>
    cases result with
    | error err => exact Or.inr (kept nowMs (generateChallenge_error step.1) rfl rfl)
    | ok nonce =>
      obtain ⟨_, _, _, _, issued⟩ := generateChallenge_ok step.1
      rw [issued] at active
      have survived : (expireSession nowMs s.core).sessionActive = true := active
      obtain ⟨same, _⟩ := expireSession_of_session survived
      rw [same] at issued active
      exact Or.inr (by rw [issued]; exact ⟨active, rfl, id, rfl, Or.inr ⟨rfl, rfl⟩⟩)
  | verifyProof proof nowMs hmacFails result =>
    rcases verifyProof_cases step.1 with ⟨refused, nonzero, noIo, noAccess⟩ | checked
    · have silent : (Event.verifyProof proof nowMs hmacFails result).endsSession = false := by
        simp [Event.endsSession, Event.checksProof, nonzero, noIo, noAccess]
      exact Or.inr (kept nowMs refused silent rfl)
    · obtain ⟨bytes, rfl, _, state, pending, inTime, outcome⟩ := checked
      rcases outcome with ⟨_, _, left⟩ | ⟨_, _, _, left⟩ | ⟨rfl, rfl, agrees, left⟩
      · exact absurd (by rw [left]; rfl) absent
      · exact absurd (by rw [left]; rfl) absent
      · exact Or.inl ⟨bytes, nowMs, rfl, pending, inTime, agrees, by rw [left]; rfl,
          by rw [left]; exact state, by rw [left]; rfl⟩
  | isAuthenticated nowMs result =>
    exact Or.inr (kept nowMs (Or.inr (Or.inl (Prod.ext_iff.mp step.1).2.symm)) rfl rfl)
  | refreshSession nowMs result =>
    rcases refreshSession_cases step.1 with ⟨rfl, expired, _⟩ | ⟨rfl, state, before, alive, left⟩
    · exact Or.inr (kept nowMs (Or.inr (Or.inl expired)) rfl rfl)
    · exact Or.inr ⟨before, by rw [left], fun _ => by rw [left]; exact state, rfl,
        Or.inl ⟨nowMs, rfl, alive, by rw [left]⟩⟩
  | setCredential credential nowMs saveErr result =>
    rcases setCredential_cases step with ⟨failed, same | expired, _⟩ | ⟨_, _, _, _, _, left, _⟩
    · exact Or.inr (kept nowMs (Or.inl same) (by simpa [Event.endsSession] using failed) rfl)
    · exact Or.inr (kept nowMs (Or.inr (Or.inl expired))
        (by simpa [Event.endsSession] using failed) rfl)
    · exact absurd (by simp [left, setCredentialActivate]) absent
  | lock => exact absurd (by simp [step.1, lock]) absent
  | transportReset => exact absurd (by simp [step.1, transportReset]) absent
  | settingsSet name length readCb result =>
    rcases settingsSet_cases step.1 with
      ⟨other, _, same⟩ | ⟨_, _, _, left⟩ | ⟨_, _, _, _, left⟩
    · exact Or.inr (kept 0 (Or.inl same) other rfl)
    · exact absurd (by simp [left]) absent
    · exact absurd (by simp [left]) absent
  | settingsCommit =>
    have left := step.1
    unfold settingsCommit at left
    split at left
    · exact absurd (by simp [left]) absent
    · split at left
      · exact absurd (by simp [left, setErrorLocked]) absent
      · exact Or.inr (kept 0 (Or.inl left) rfl rfl)

end Steps

/-! ## Inputs to evaluate runs on -/

def sampleCredential : Credential :=
  ⟨iterationsDefault, Vector.replicate 16 1, Vector.replicate 32 2⟩

def sampleHmac : Hmac := fun key message => Vector.ofFn fun i =>
  key.get i + message.getLastD 0

theorem run_of_next (cfg : Config) (hmac : Hmac) (start : System) (events : List Event)
    (executed : (execute (next cfg hmac) start events).isSome) :
    Run (Step cfg hmac) start events ((execute (next cfg hmac) start events).get executed) :=
  Run.of_execute (next_sound cfg hmac) (Option.some_get executed).symm

end RuntimeMacro.Source.AuthCore
