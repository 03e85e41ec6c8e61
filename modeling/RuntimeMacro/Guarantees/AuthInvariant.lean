import RuntimeMacro.Source.CredentialUpdates
import RuntimeMacro.Source.Device

/-!
# What every state of the authentication core looks like

runtime_macro_auth.c:174-229. The nine fields that the entry points update
together keep one shape, also while callers of `set_credential` and of
`settings_set` stand between their critical sections and whatever the HMAC, the
CSPRNG and the settings backend deliver.
-/
namespace RuntimeMacro.Guarantees.AuthInvariant
open Source Source.AuthCore Foundations.Runs

/-- The shape of the statics after calls whose latest clock reading is
`latest`. -/
structure Represented (latest : Option Int) (s : State) : Prop where
  session : s.sessionActive = true → s.state = .stateProtected
  challenge : s.challengeActive = true → s.state = .stateProtected
  credential : s.state = .stateProtected → credentialIsValid s.credential = true
  erased : s.state ≠ .stateProtected → s.credential = .zero
  idleChallenge : s.challengeActive = false →
    s.challenge = Vector.replicate 16 0 ∧ s.challengeDeadlineMs = 0
  idleSession : s.sessionActive = false → s.sessionDeadlineMs = 0
  failures : s.failureCount ≤ 4
  cooldown : s.failureCount = 0 ↔ s.cooldownDeadlineMs = 0
  elapsed : s.challengeActive = true →
    s.failureCount = 0 ∨ ∃ now, latest = some now ∧ s.cooldownDeadlineMs ≤ now

/-! ## The state updates keep the shape -/

section Updates
variable {latest : Option Int} {s : State}

theorem Represented.boot : Represented none .boot where
  session := nofun
  challenge := nofun
  credential := nofun
  erased _ := rfl
  idleChallenge _ := ⟨rfl, rfl⟩
  idleSession _ := rfl
  failures := Nat.zero_le 4
  cooldown := by decide
  elapsed := nofun

/-- Time passes. -/
theorem Represented.later (represented : Represented latest s) {now : Int}
    (after : ∀ reading, latest = some reading → reading ≤ now) : Represented (some now) s := by
  refine { represented with elapsed := fun active => ?_ }
  rcases represented.elapsed active with none | ⟨reading, read, elapsed⟩
  · exact Or.inl none
  · exact Or.inr ⟨now, rfl, elapsed.trans (after reading read)⟩

theorem Represented.clearChallenge (represented : Represented latest s) :
    Represented latest (AuthCore.clearChallenge s) :=
  { represented with
    challenge := nofun
    idleChallenge := fun _ => ⟨rfl, rfl⟩
    elapsed := nofun }

theorem Represented.clearSession (represented : Represented latest s) :
    Represented latest (AuthCore.clearSession s) :=
  { represented with
    session := nofun
    idleSession := fun _ => rfl }

theorem Represented.clearFailure (represented : Represented latest s) :
    Represented latest (AuthCore.clearFailure s) :=
  { represented with
    failures := Nat.zero_le 4
    cooldown := by simp [AuthCore.clearFailure]
    elapsed := fun _ => Or.inl rfl }

theorem Represented.clearTransient (represented : Represented latest s) (clearFailures : Bool) :
    Represented latest (AuthCore.clearTransient clearFailures s) := by
  cases clearFailures with
  | false => exact represented.clearSession.clearChallenge
  | true => exact represented.clearSession.clearChallenge.clearFailure

theorem Represented.expireSession (represented : Represented latest s) (nowMs : Int) :
    Represented latest (AuthCore.expireSession nowMs s) := by
  rcases expireSession_cases nowMs s with ⟨same, _⟩ | ⟨dropped, _⟩
  · rw [same]
    exact represented
  · rw [dropped]
    exact represented.clearSession.clearChallenge

/-- With the transient part and the failures cleared, state and credential are
all that counts. -/
theorem represented_cleared (guarded : s.state = .stateProtected →
      credentialIsValid s.credential = true)
    (erased : s.state ≠ .stateProtected → s.credential = .zero) :
    Represented latest (AuthCore.clearTransient true s) where
  session := nofun
  challenge := nofun
  credential := guarded
  erased := erased
  idleChallenge _ := ⟨rfl, rfl⟩
  idleSession _ := rfl
  failures := Nat.zero_le 4
  cooldown := by simp
  elapsed := nofun

theorem represented_errorLocked (latest : Option Int) (s : State) :
    Represented latest (setErrorLocked s) := by
  apply represented_cleared
  · nofun
  · intro _
    rfl

theorem represented_activated {credential : Credential}
    (valid : credentialIsValid credential = true) (guarded : s.state = .stateProtected)
    (stored : s.credential = credential) :
    Represented latest (AuthCore.clearTransient true s) := by
  apply represented_cleared
  · intro _
    rw [stored]
    exact valid
  · intro unguarded
    exact absurd guarded unguarded

theorem Represented.refused {nowMs : Int} {s' : State} (represented : Represented latest s)
    (refused : Refused nowMs s s') : Represented latest s' := by
  rcases refused with rfl | rfl | rfl
  · exact represented
  · exact represented.expireSession nowMs
  · exact (represented.expireSession nowMs).clearChallenge

/-- The failure count stops at its bound and the cooldown ends after the
reading. The challenge has to be gone by then, which `verify_proof` sees to. -/
theorem Represented.recordFailure (represented : Represented latest s) {nowMs : Int}
    (nonneg : 0 ≤ nowMs) (idle : s.challengeActive = false) :
    Represented latest (AuthCore.recordFailure nowMs s) := by
  have counted : (AuthCore.recordFailure nowMs s).failureCount =
      if s.failureCount < failureCountMax then s.failureCount + 1 else s.failureCount := rfl
  have bounded := represented.failures
  have some : (AuthCore.recordFailure nowMs s).failureCount ≠ 0 ∧
      (AuthCore.recordFailure nowMs s).failureCount ≤ 4 := by
    rw [counted]
    unfold failureCountMax
    split
    · omega
    · omega
  have one : 1 ≤ 1 <<< ((AuthCore.recordFailure nowMs s).failureCount - 1) := by
    rw [Nat.one_shiftLeft]
    exact Nat.one_le_two_pow
  have seconds : 1 ≤ if 1 <<< ((AuthCore.recordFailure nowMs s).failureCount - 1) >
      cooldownMaxSeconds then cooldownMaxSeconds else
      1 <<< ((AuthCore.recordFailure nowMs s).failureCount - 1) := by
    split
    · decide
    · exact one
  have late : (AuthCore.recordFailure nowMs s).cooldownDeadlineMs ≠ 0 := by
    change nowMs + ((if 1 <<< ((AuthCore.recordFailure nowMs s).failureCount - 1) >
      cooldownMaxSeconds then cooldownMaxSeconds else
      1 <<< ((AuthCore.recordFailure nowMs s).failureCount - 1) : Nat) : Int) * 1000 ≠ 0
    omega
  refine { represented with failures := some.2, cooldown := ?_, elapsed := ?_ }
  · exact ⟨fun none => absurd none some.1, fun none => absurd none late⟩
  · intro active
    exact absurd (active.symm.trans idle) (by decide)

end Updates

/-! ## Each call keeps the shape -/

section Calls
variable {cfg : Config} {hmac : Hmac} {latest : Option Int} {nowMs : Int} {s s' : State}

/-- Every way out of `generate_challenge`, with the challenge deadline after
the reading when a nonce is handed out. -/
theorem generateChallenge_represented {nonceLength : Option Nat} {random : Option Nonce}
    {result : Except Int Nonce} (represented : Represented (some nowMs) s)
    (generated : generateChallenge cfg nonceLength nowMs random s = (result, s')) :
    Represented (some nowMs) s' := by
  cases result with
  | error err => exact represented.refused (generateChallenge_error generated)
  | ok nonce =>
    obtain ⟨_, _, guarded, cool, rfl⟩ := generateChallenge_ok generated
    have cleared := (represented.expireSession nowMs).clearChallenge
    refine { cleared with challenge := ?_, idleChallenge := nofun, elapsed := ?_ }
    · intro _
      exact (expireSession_state nowMs s).trans guarded
    · -- The cooldown was over at this reading.
      intro _
      change (AuthCore.expireSession nowMs s).failureCount = 0 ∨ ∃ now, some nowMs = some now ∧
        (AuthCore.expireSession nowMs s).cooldownDeadlineMs ≤ now
      rw [expireSession_failureCount, expireSession_cooldownDeadlineMs]
      simp only [cooldownActive, Bool.and_eq_false_iff, decide_eq_false_iff_not,
        Decidable.not_not, Int.not_lt] at cool
      rcases cool with none | elapsed
      · exact Or.inl none
      · exact Or.inr ⟨nowMs, rfl, elapsed⟩

theorem verifyProof_represented {proof : Option (List UInt8)} {hmacFails : Bool} {result : Int}
    (represented : Represented latest s) (nonneg : 0 ≤ nowMs)
    (verified : verifyProof cfg hmac proof nowMs hmacFails s = (result, s')) :
    Represented latest s' := by
  rcases verifyProof_cases verified with ⟨refused, _⟩ | ⟨_, _, _, guarded, _, _, checked⟩
  · exact represented.refused refused
  · have consumed := represented.clearChallenge.clearSession
    rcases checked with ⟨_, _, rfl⟩ | ⟨_, _, _, rfl⟩ | ⟨_, _, _, rfl⟩
    · exact consumed
    · exact consumed.recordFailure nonneg rfl
    · apply Represented.clearFailure
      refine { consumed with session := ?_, idleSession := nofun }
      intro _
      exact guarded

theorem refreshSession_represented {result : Int} (represented : Represented latest s)
    (refreshed : refreshSession cfg nowMs s = (result, s')) : Represented latest s' := by
  rcases refreshSession_cases refreshed with ⟨_, rfl, _⟩ | ⟨_, _, active, _, rfl⟩
  · exact represented.expireSession nowMs
  · refine { represented with idleSession := ?_ }
    intro idle
    exact absurd (active.symm.trans idle) (by decide)

theorem settingsCommit_represented (represented : Represented latest s) :
    Represented latest (settingsCommit s) := by
  unfold settingsCommit
  split
  · apply represented_cleared
    · nofun
    · intro _
      rfl
  · split
    · exact represented_errorLocked latest s
    · exact represented

/-- The entry points that hold the mutex throughout. Each is split along its
own case lemma, and what is left is whether its deadlines are counted from the
reading. -/
theorem call_represented {before after : System} {event : Event}
    (step : Step cfg hmac before event after) (oneStep : event.oneStep = true)
    (represented : Represented (event.time.or latest) before.core)
    (nonneg : ∀ now, event.time = some now → 0 ≤ now) :
    Represented (event.time.or latest) after.core := by
  cases event with
  | getState now result =>
    have expired : after.core = AuthCore.expireSession now before.core :=
      (Prod.ext_iff.mp step.1).2.symm
    rw [expired]
    exact represented.expireSession now
  | getInfo now result =>
    have expired : after.core = AuthCore.expireSession now before.core := by
      rw [← getInfo_core, step.1]
    rw [expired]
    exact represented.expireSession now
  | generateChallenge nonceLength now random result =>
    exact generateChallenge_represented represented step.1
  | verifyProof proof now hmacFails result =>
    exact verifyProof_represented represented (nonneg now rfl) step.1
  | isAuthenticated now result =>
    have expired : after.core = AuthCore.expireSession now before.core :=
      (Prod.ext_iff.mp step.1).2.symm
    rw [expired]
    exact represented.expireSession now
  | refreshSession now result => exact refreshSession_represented represented step.1
  | setCredential => cases oneStep
  | lock =>
    rw [step.1]
    exact represented.clearTransient false
  | transportReset =>
    rw [step.1]
    exact represented.clearTransient true
  | settingsSet name length readCb result =>
    rcases settingsSet_cases step.1 with ⟨_, _, same⟩ | ⟨matching, _⟩ | ⟨matching, _⟩
    · rw [same]
      exact represented
    · simp [Event.oneStep, matching] at oneStep
    · simp [Event.oneStep, matching] at oneStep
  | settingsCommit =>
    rw [step.1]
    exact settingsCommit_represented represented

end Calls

/-! ## Interleaved calls -/

/-- A step of some caller; `deliver` is a settings read that hands over
whatever it likes. -/
inductive AuthEvent where
  | update (event : UpdateEvent)
  | deliver (caller : Caller) (readCb : SettingsReadCb) (result : Option Int)

/-- The clock reading of an event, if it makes one. -/
def AuthEvent.reading : AuthEvent → Option Int
  | .update (.authorise _ _ nowMs _) => some nowMs
  | .update (.call event) => event.time
  | _ => none

/-- `settings_set` between its critical sections. -/
def Delivers (caller : Caller) (readCb : SettingsReadCb) (result : Option Int)
    (s s' : Updates) : Prop :=
  ∃ generation length, s.phase caller = .reading generation length ∧
    match settingsSetRead false length (some readCb) with
    | .error err => result = some err ∧ s' = s.goes caller .idle
    | .ok credential => result = none ∧ s' = s.goes caller (.loading generation credential)

/-- The steps of a core whose updates come in parts, and the settings backend
answering a read with whatever it likes. -/
def AuthStep (cfg : Config) (hmac : Hmac) (s : Updates) : AuthEvent → Updates → Prop
  | .update event, s' => UpdateStep cfg hmac s event s'
  | .deliver caller readCb result, s' => Delivers caller readCb result s s'

/-- The readings of a run are nonnegative and never go back. -/
def Clocked (events : List AuthEvent) : Prop :=
  (∀ reading ∈ events.filterMap AuthEvent.reading, 0 ≤ reading) ∧
    (events.filterMap AuthEvent.reading).Pairwise (· ≤ ·)

/-- The last reading that a history made. -/
def latestReading (events : List AuthEvent) : Option Int :=
  (events.filterMap AuthEvent.reading).getLast?

theorem latestReading_snoc (events : List AuthEvent) (event : AuthEvent) :
    latestReading (events ++ [event]) = event.reading.or (latestReading events) := by
  unfold latestReading
  cases read : event.reading with
  | none => simp [read]
  | some now => simp [read]

theorem Clocked.front {events : List AuthEvent} {event : AuthEvent}
    (clocked : Clocked (events ++ [event])) : Clocked events := by
  obtain ⟨nonneg, ordered⟩ := clocked
  rw [List.filterMap_append] at nonneg ordered
  exact ⟨fun reading member => nonneg reading (List.mem_append_left _ member),
    (List.pairwise_append.mp ordered).1⟩

theorem Clocked.last {events : List AuthEvent} {event : AuthEvent}
    (clocked : Clocked (events ++ [event])) {now : Int} (read : event.reading = some now) :
    0 ≤ now ∧ ∀ reading, latestReading events = some reading → reading ≤ now := by
  obtain ⟨nonneg, ordered⟩ := clocked
  have single : [event].filterMap AuthEvent.reading = [now] := by simp [read]
  rw [List.filterMap_append, single] at nonneg ordered
  refine ⟨nonneg now (by simp), fun reading last => ?_⟩
  exact (List.pairwise_append.mp ordered).2.2 reading (List.mem_of_getLast? last) now (by simp)

/-- The credential a caller's locals hold. -/
def held : Phase → Option Credential
  | .saving credential | .activating credential | .loading _ credential => some credential
  | _ => none

/-- The core is represented, and a credential on its way through an update is a
valid one. -/
structure Sound (latest : Option Int) (s : Updates) : Prop where
  core : Represented latest s.core
  holds : ∀ caller credential, held (s.phase caller) = some credential →
    credentialIsValid credential = true

section Steps
variable {cfg : Config} {hmac : Hmac} {latest : Option Int} {s s' : Updates}

theorem Sound.goes (sound : Sound latest s) (caller : Caller) (phase : Phase)
    (valid : ∀ credential, held phase = some credential → credentialIsValid credential = true) :
    Sound latest (s.goes caller phase) := by
  refine ⟨sound.core, fun other credential holds => ?_⟩
  by_cases same : other = caller
  · subst same
    rw [Updates.goes_phase_self] at holds
    exact valid credential holds
  · rw [Updates.goes_phase_of_ne same] at holds
    exact sound.holds other credential holds

theorem Sound.withCore (sound : Sound latest s) {core : State}
    (represented : Represented latest core) (settings : Settings) (owner : Option Caller) :
    Sound latest { s with core := core, settings := settings, updateOwner := owner } :=
  ⟨represented, sound.holds⟩

/-- What the settings backend hands over is checked before it is kept, so it is
a valid credential. -/
theorem delivers_sound {caller : Caller} {readCb : SettingsReadCb} {result : Option Int}
    (sound : Sound latest s) (delivers : Delivers caller readCb result s s') :
    Sound latest s' := by
  obtain ⟨generation, length, _, outcome⟩ := delivers
  cases read : settingsSetRead false length (some readCb) with
  | error err =>
    rw [read] at outcome
    rw [outcome.2]
    exact sound.goes caller .idle nofun
  | ok credential =>
    rw [read] at outcome
    rw [outcome.2]
    apply sound.goes
    intro value holds
    cases holds
    exact settingsSetRead_valid read

/-- The critical sections of an update and of a load. A credential comes into a
phase through a check only, and out of it into the core. -/
theorem update_sound {event : UpdateEvent} (step : UpdateStep cfg hmac s event s')
    (sound : Sound ((AuthEvent.update event).reading.or latest) s)
    (nonneg : ∀ now, (AuthEvent.update event).reading = some now → 0 ≤ now) :
    Sound ((AuthEvent.update event).reading.or latest) s' := by
  cases event with
  | refuse caller credential =>
    rw [step.2.2]
    exact sound
  | authorise caller credential nowMs result =>
    obtain ⟨_, _, valid, core, authorised, left⟩ := step
    have represented := sound.core.expireSession nowMs
    rw [← setCredentialAuthorise_core authorised] at represented
    rw [left]
    split
    · apply (sound.withCore represented s.settings (some caller)).goes
      intro value holds
      cases holds
      exact valid
    · exact sound.withCore represented s.settings s.updateOwner
  | save caller saveErr =>
    obtain ⟨credential, saving, left⟩ := step
    have valid := sound.holds caller credential (congrArg held saving)
    rw [left]
    apply (sound.withCore sound.core _ _).goes
    intro value holds
    split at holds
    · cases holds
      exact valid
    · cases holds
  | activate caller =>
    obtain ⟨credential, activating, left⟩ := step
    have valid := sound.holds caller credential (congrArg held activating)
    rw [left]
    exact (sound.withCore (represented_activated valid rfl rfl) s.settings none).goes caller .idle
      nofun
  | mark caller length readable result =>
    obtain ⟨_, _, left⟩ := step
    rw [left]
    apply (sound.withCore (represented_errorLocked _ _) s.settings s.updateOwner).goes
    intro value holds
    split at holds
    · cases holds
    · cases holds
  | read caller failure result =>
    have delivers : Delivers caller (storedRecord s.settings failure) result s s' := step
    exact delivers_sound sound delivers
  | load caller result =>
    obtain ⟨generation, credential, core, loading, activated, left⟩ := step
    have valid := sound.holds caller credential (congrArg held loading)
    rw [left]
    apply Sound.goes
    · rcases settingsSetActivate_cases activated with same | ⟨_, _, opened⟩
      · rw [same]
        exact sound
      · rw [opened]
        exact sound.withCore (represented_activated valid rfl rfl) s.settings s.updateOwner
    · nofun
  | call event =>
    obtain ⟨oneStep, system, called, left⟩ := step
    rw [left]
    exact sound.withCore (call_represented called oneStep sound.core nonneg) _ _

theorem step_sound {event : AuthEvent} (step : AuthStep cfg hmac s event s')
    (sound : Sound latest s)
    (clock : ∀ now, event.reading = some now →
      0 ≤ now ∧ ∀ reading, latest = some reading → reading ≤ now) :
    Sound (event.reading.or latest) s' := by
  have later : Sound (event.reading.or latest) s := by
    cases read : event.reading with
    | none => exact sound
    | some now => exact ⟨sound.core.later (clock now read).2, sound.holds⟩
  cases event with
  | update event => exact update_sound step later fun now read => (clock now read).1
  | deliver caller readCb result => exact delivers_sound later step

theorem run_sound {settings : Settings} {events : List AuthEvent}
    (run : Run (AuthStep cfg hmac) (.boot settings) events s) (clocked : Clocked events) :
    Sound (latestReading events) s := by
  apply run.history_of (fun past s => Sound (latestReading past) s) Clocked clocked
  · intro past event
    exact Clocked.front
  · exact ⟨Represented.boot, nofun⟩
  · intro past before event after ordered _ sound step
    rw [latestReading_snoc]
    exact step_sound step sound fun now read => ordered.last read

/-- Every reachable state has the shape, whatever the interleaving of updates,
loads and calls, and whatever the settings backend hands to a load. All that is
asked is that the clock readings are not negative and do not run back. -/
theorem run_represented {settings : Settings} {events : List AuthEvent}
    (run : Run (AuthStep cfg hmac) (.boot settings) events s) (clocked : Clocked events) :
    Represented (latestReading events) s.core :=
  (run_sound run clocked).core

end Steps

/-! ## A replacement that overtakes a load -/

def sampleNonce : Nonce := Vector.replicate 16 3

def sampleRead : SettingsReadCb := fun size =>
  (size, (serializeCredential sampleCredential).take size)

/-- A first credential is set while a load is between its critical sections;
the load is refused as stale, and a challenge follows. -/
def sampleEvents : List AuthEvent :=
  [.update (.authorise 0 sampleCredential 5 0), .update (.mark 1 53 true none),
    .update (.save 0 0), .deliver 1 sampleRead none, .update (.activate 0),
    .update (.load 1 (-einval)),
    .update (.call (.generateChallenge (some nonceSize) 6 (some sampleNonce) (.ok sampleNonce)))]

theorem sample_run : ∃ final, Run (AuthStep .default sampleHmac) (.boot .empty) sampleEvents final ∧
    final.core.challengeActive = true := by
  apply Exists.intro
  apply And.intro
  · apply Run.cons
    · exact ⟨rfl, rfl, by decide, _, rfl, rfl⟩
    apply Run.cons
    · exact ⟨rfl, rfl, rfl⟩
    apply Run.cons
    · exact ⟨sampleCredential, rfl, rfl⟩
    apply Run.cons
    · have read : settingsSetRead false 53 (some sampleRead) = .ok sampleCredential := by
        decide
      refine ⟨1, 53, rfl, ?_⟩
      rw [read]
      exact ⟨rfl, rfl⟩
    apply Run.cons
    · exact ⟨sampleCredential, rfl, rfl⟩
    apply Run.cons
    · exact ⟨1, sampleCredential, _, rfl, rfl, rfl⟩
    apply Run.single
    exact ⟨rfl, ⟨_, _⟩, ⟨rfl, rfl⟩, rfl⟩
  · rfl

/-- The load that comes too late leaves the new credential active, and a
challenge is out for it. -/
theorem run_represented_sample : ∃ final,
    Run (AuthStep .default sampleHmac) (.boot .empty) sampleEvents final ∧
      Represented (some 6) final.core := by
  obtain ⟨final, run, _⟩ := sample_run
  exact ⟨final, run, run_represented run (by unfold Clocked; decide)⟩

end RuntimeMacro.Guarantees.AuthInvariant
