import RuntimeMacro.Source.CredentialUpdates
import RuntimeMacro.Foundations.Generations

/-!
# Credential RAM and storage do not drift apart

runtime_macro_auth.c:404-455,469-540. Replacements and loads interleave step by
step. A load that has read an old record is turned away: a replacement clears
the invalid flag, a newer load moves the generation. The stamp of a pending
load is tracked through the history, since the generation is a counter that
wraps.
-/
namespace RuntimeMacro.Guarantees.CredentialDrift
open Source Source.AuthCore Foundations.Runs Foundations.Generations

variable {cfg : Config} {hmac : Hmac} {settings : Settings} {s s' : Updates}
  {past events : List UpdateEvent} {event : UpdateEvent} {caller : Caller}

/-- No replacement is between its save and its activation. -/
def Settled (s : Updates) : Prop := ∀ caller credential, s.phase caller ≠ .activating credential

/-- The stamp of a load that is under way. -/
def stamp : Phase → Option UInt32
  | .reading generation _ | .loading generation _ => some generation
  | _ => none

/-- The caller's load gets past its first critical section. -/
def startsLoad (caller : Caller) : UpdateEvent → Bool
  | .mark owner _ _ none => owner == caller
  | _ => false

/-- The caller's load returns. -/
def endsLoad (caller : Caller) : UpdateEvent → Bool
  | .read owner _ (some _) | .load owner _ => owner == caller
  | _ => false

/-- While a load is under way fewer than `2 ^ 32` credential callbacks
begin. -/
def Unwrapped (events : List UpdateEvent) : Prop :=
  ∀ caller front start since rest, events = front ++ start :: (since ++ rest) →
    startsLoad caller start = true → (∀ later ∈ since, endsLoad caller later = false) →
    since.countP isCallback < 2 ^ 32

theorem Unwrapped.earlier (unwrapped : Unwrapped (past ++ [event])) : Unwrapped past := by
  intro caller front start since rest split starts unended
  refine unwrapped caller front start since (rest ++ [event]) ?_ starts unended
  rw [split]
  simp

theorem unwrapped_of_few (few : events.countP isCallback < 2 ^ 32) : Unwrapped events := by
  intro _ front start since rest split _ _
  have part : since.countP isCallback ≤ events.countP isCallback := by
    rw [split]
    simp only [List.countP_append, List.countP_cons]
    omega
  omega

/-! ## The stamps of pending loads -/

/-- The generation is the stamp of a load, advanced by the callbacks since its
mark. -/
def Stamped (past : List UpdateEvent) (s : Updates) : Prop :=
  ∀ caller generation, stamp (s.phase caller) = some generation →
    ∃ front start since, past = front ++ start :: since ∧ startsLoad caller start = true ∧
      (∀ later ∈ since, endsLoad caller later = false) ∧
      s.core.settingsGeneration = advanced generation (since.countP isCallback)

/-- A step that neither starts nor ends the load of a caller. Its stamp still
counts the callbacks that have begun since it was taken. -/
theorem stamped_of_kept {generation : UInt32} (stamped : Stamped past s)
    (pending : stamp (s.phase caller) = some generation)
    (unended : endsLoad caller event = false)
    (moved : s'.core.settingsGeneration =
      if isCallback event then s.core.settingsGeneration + 1 else s.core.settingsGeneration) :
    ∃ front start since, past ++ [event] = front ++ start :: since ∧
      startsLoad caller start = true ∧ (∀ later ∈ since, endsLoad caller later = false) ∧
      s'.core.settingsGeneration = advanced generation (since.countP isCallback) := by
  obtain ⟨front, start, since, split, starts, before, counted⟩ := stamped caller generation pending
  refine ⟨front, start, since ++ [event], by rw [split]; simp, starts, ?_, ?_⟩
  · intro later member
    rcases List.mem_append.mp member with early | last
    · exact before later early
    · rw [List.mem_singleton.mp last]
      exact unended
  · exact advanced_snoc counted moved

/-- A pending load is turned away by the generation once another callback has
begun. This needs that the counter has not come round, so fewer than 2^32
callbacks in between. -/
theorem Stamped.stale {generation : UInt32} (stamped : Stamped past s)
    (unwrapped : Unwrapped (past ++ [event])) (callback : isCallback event = true)
    (pending : stamp (s.phase caller) = some generation) (unended : endsLoad caller event = false) :
    s.core.settingsGeneration + 1 ≠ generation := by
  obtain ⟨front, start, since, split, starts, before, counted⟩ := stamped caller generation pending
  have within : (since ++ [event]).countP isCallback < 2 ^ 32 := by
    refine unwrapped caller front start (since ++ [event]) [] ?_ starts ?_
    · rw [split]
      simp
    · intro later member
      rcases List.mem_append.mp member with early | last
      · exact before later early
      · rw [List.mem_singleton.mp last]
        exact unended
  rw [List.countP_append, List.countP_singleton, if_pos callback] at within
  rw [counted, ← advanced_succ]
  intro same
  have none := (advanced_eq_iff generation within).mp same
  omega

/-- One case an event. Only the first section of a callback moves the
generation, and it takes the stamp of its own caller. -/
theorem Stamped.step (stamped : Stamped past s) (step : UpdateStep cfg hmac s event s') :
    Stamped (past ++ [event]) s' := by
  intro caller generation pending
  have moved := step_generation step
  by_cases acting : actor event = some caller
  · cases event with
    | mark owner length readable result =>
      cases acting
      obtain ⟨_, _, left⟩ := step
      cases result with
      | none =>
        refine ⟨past, _, [], rfl, by simp [startsLoad], by simp, ?_⟩
        rw [left, if_pos rfl, Updates.goes_phase_self] at pending
        rw [left, List.countP_nil, advanced_zero]
        exact Option.some.inj pending
      | some err =>
        rw [left, if_neg (by simp), Updates.goes_phase_self] at pending
        cases pending
    | read owner failure result =>
      cases acting
      obtain ⟨before, length, reading, outcome⟩ := step
      split at outcome
      · rw [outcome.2, Updates.goes_phase_self] at pending
        cases pending
      · rw [outcome.2, Updates.goes_phase_self] at pending
        refine stamped_of_kept stamped ?_ ?_ moved
        · rw [reading]
          exact pending
        · rw [outcome.1]
          rfl
    | authorise owner credential nowMs result =>
      cases acting
      obtain ⟨idle, _, _, core, _, left⟩ := step
      rw [left] at pending
      split at pending
      · rw [Updates.goes_phase_self] at pending
        cases pending
      · simp only [idle] at pending
        cases pending
    | refuse owner credential =>
      cases acting
      rw [step.2.2, step.1] at pending
      cases pending
    | save owner saveErr =>
      cases acting
      obtain ⟨_, _, left⟩ := step
      rw [left, Updates.goes_phase_self] at pending
      split at pending
      · cases pending
      · cases pending
    | activate owner =>
      cases acting
      obtain ⟨_, _, left⟩ := step
      rw [left, Updates.goes_phase_self] at pending
      cases pending
    | load owner result =>
      cases acting
      obtain ⟨_, _, _, _, _, left⟩ := step
      rw [left, Updates.goes_phase_self] at pending
      cases pending
    | call event => cases acting
  · rw [step_phase_of_ne step acting] at pending
    refine stamped_of_kept stamped pending ?_ moved
    cases event with
    | read owner failure result =>
      cases result with
      | none => rfl
      | some err => simpa [endsLoad, actor] using acting
    | load owner result => simpa [endsLoad, actor] using acting
    | _ => rfl

/-! ## The invariant -/

/-- The update mutex admits one replacement, whose credential is valid and,
once saved, is the stored record; the stored record is the credential in RAM;
and a load that would still be let in carries the stored record. -/
structure Sound (s : Updates) : Prop where
  owned : ∀ caller credential,
    s.phase caller = .saving credential ∨ s.phase caller = .activating credential →
      s.updateOwner = some caller ∧ credentialIsValid credential = true
  saved : ∀ caller credential, s.phase caller = .activating credential →
    s.settings.values settingPath = some (serializeCredential credential)
  agrees : Settled s → s.core.state = .stateProtected → Decodes s.settings s.core.credential
  loads : Settled s → ∀ caller generation credential,
    s.phase caller = .loading generation credential →
      s.core.settingsGeneration = generation → s.core.settingsInvalid = true →
        Decodes s.settings credential

theorem sound_boot (settings : Settings) : Sound (.boot settings) where
  owned := by
    intro caller credential busy
    rcases busy with saving | activating
    · cases saving
    · cases activating
  saved := fun _ _ activating => by cases activating
  agrees := fun _ guarded => by cases guarded
  loads := fun _ _ _ _ loading => by cases loading

section Steps
variable {core : State} {credential : Credential} {phase : Phase}

/-- A caller that has not saved does not stand in the way of `Settled`. -/
theorem Settled.of_goes (settled : Settled (s.goes caller phase))
    (unsaved : ∀ credential, s.phase caller ≠ .activating credential) : Settled s := by
  intro other credential
  by_cases same : other = caller
  · rw [same]
    exact unsaved credential
  · rw [← Updates.goes_phase_of_ne same phase s]
    exact settled other credential

/-- No replacement is under way while the update mutex is free. -/
theorem Sound.free (sound : Sound s) (free : s.updateOwner = none) (credential : Credential) :
    s.phase caller ≠ .saving credential ∧ s.phase caller ≠ .activating credential := by
  constructor
  · intro saving
    rw [(sound.owned caller credential (Or.inl saving)).1] at free
    cases free
  · intro activating
    rw [(sound.owned caller credential (Or.inr activating)).1] at free
    cases free

/-- Only the caller that holds the update mutex is in a replacement. -/
theorem Sound.alone {other : Caller} (sound : Sound s) (held : s.updateOwner = some caller)
    (different : other ≠ caller) (credential : Credential) :
    s.phase other ≠ .saving credential ∧ s.phase other ≠ .activating credential := by
  constructor
  · intro saving
    rw [(sound.owned other credential (Or.inl saving)).1] at held
    exact different (Option.some.inj held)
  · intro activating
    rw [(sound.owned other credential (Or.inr activating)).1] at held
    exact different (Option.some.inj held)

/-- Once its holder is back, nobody is in a replacement. -/
theorem Sound.released (sound : Sound s) (held : s.updateOwner = some caller) (other : Caller)
    (candidate : Credential) : (s.goes caller .idle).phase other ≠ .saving candidate ∧
      (s.goes caller .idle).phase other ≠ .activating candidate := by
  by_cases same : other = caller
  · subst same
    rw [Updates.goes_phase_self]
    exact ⟨by simp, by simp⟩
  · rw [Updates.goes_phase_of_ne same]
    exact sound.alone held same candidate

/-- A core that has at most dropped its session. -/
theorem Sound.expired (sound : Sound s) (same : core.persistent = s.core.persistent) :
    Sound { s with core := core } := by
  simp only [State.persistent, Persistent.mk.injEq] at same
  obtain ⟨state, credential, _, invalid, generation⟩ := same
  refine ⟨sound.owned, sound.saved, fun settled guarded => ?_, fun settled caller stamp loaded
    loading current pending => ?_⟩
  · have agrees := sound.agrees settled (state.symm.trans guarded)
    rw [← credential] at agrees
    exact agrees
  · exact sound.loads settled caller stamp loaded loading (generation.symm.trans current)
      (invalid.symm.trans pending)

/-- The update takes the right to save. Nobody else is between a save and an
activation then. -/
theorem Sound.authorise (sound : Sound s) (idle : s.phase caller = .idle)
    (free : s.updateOwner = none) (valid : credentialIsValid credential = true) :
    Sound ({ s with updateOwner := some caller }.goes caller (.saving credential)) := by
  have unsaved : ∀ credential, s.phase caller ≠ .activating credential := by
    intro other activating
    rw [idle] at activating
    cases activating
  have settled : Settled ({ s with updateOwner := some caller }.goes caller (.saving credential)) →
      Settled s := fun settled => settled.of_goes unsaved
  refine ⟨?_, ?_, fun settled' guarded => sound.agrees (settled settled') guarded, ?_⟩
  · intro other candidate busy
    by_cases same : other = caller
    · subst same
      rw [Updates.goes_phase_self] at busy
      rcases busy with saving | activating
      · cases saving
        exact ⟨rfl, valid⟩
      · cases activating
    · rw [Updates.goes_phase_of_ne same] at busy
      rcases busy with saving | activating
      · exact absurd saving (sound.free free candidate).1
      · exact absurd activating (sound.free free candidate).2
  · intro other candidate activating
    by_cases same : other = caller
    · subst same
      rw [Updates.goes_phase_self] at activating
      cases activating
    · rw [Updates.goes_phase_of_ne same] at activating
      exact absurd activating (sound.free free candidate).2
  · intro settled' other stamp loaded loading
    by_cases same : other = caller
    · subst same
      rw [Updates.goes_phase_self] at loading
      cases loading
    · rw [Updates.goes_phase_of_ne same] at loading
      exact sound.loads (settled settled') other stamp loaded loading

/-- The save has failed, so storage is what it was, and the right to save is
free again. -/
theorem Sound.unsaved {saveErr : Int} (sound : Sound s)
    (saving : s.phase caller = .saving credential) (failed : saveErr ≠ 0) :
    Sound ({ s with
      settings := settingsSaveOne settingPath (serializeCredential credential) saveErr s.settings
      updateOwner := none }.goes caller .idle) := by
  have held := (sound.owned caller credential (Or.inl saving)).1
  have values := settingsSaveOne_values_of_error settingPath (serializeCredential credential)
    saveErr s.settings failed
  have settled : Settled ({ s with
      settings := settingsSaveOne settingPath (serializeCredential credential) saveErr s.settings
      updateOwner := none }.goes caller .idle) → Settled s := by
    intro settled
    refine settled.of_goes fun other activating => ?_
    rw [saving] at activating
    cases activating
  refine ⟨fun other candidate busy => ?_, fun other candidate activating => ?_, ?_, ?_⟩
  · rcases busy with impossible | impossible
    · exact absurd impossible (sound.released held other candidate).1
    · exact absurd impossible (sound.released held other candidate).2
  · exact absurd activating (sound.released held other candidate).2
  · intro settled' guarded
    exact (sound.agrees (settled settled') guarded).congr (congrFun values _)
  · intro settled' other stamp loaded loading current pending
    by_cases same : other = caller
    · subst same
      rw [Updates.goes_phase_self] at loading
      cases loading
    · rw [Updates.goes_phase_of_ne same] at loading
      exact (sound.loads (settled settled') other stamp loaded loading current pending).congr
        (congrFun values _)

/-- Storage has the new record and the core the old credential: from here to
the activation the two differ. -/
theorem Sound.save (sound : Sound s) (saving : s.phase caller = .saving credential) :
    Sound ({ s with
      settings := settingsSaveOne settingPath (serializeCredential credential) 0 s.settings }.goes
        caller (.activating credential)) := by
  obtain ⟨held, valid⟩ := sound.owned caller credential (Or.inl saving)
  have unsettled : ¬ Settled ({ s with
      settings := settingsSaveOne settingPath (serializeCredential credential) 0 s.settings }.goes
        caller (.activating credential)) :=
    fun settled => settled caller credential (Updates.goes_phase_self ..)
  refine ⟨?_, ?_, fun settled => absurd settled unsettled, fun settled => absurd settled unsettled⟩
  · intro other candidate busy
    by_cases same : other = caller
    · subst same
      rw [Updates.goes_phase_self] at busy
      rcases busy with impossible | activating
      · cases impossible
      · cases activating
        exact ⟨held, valid⟩
    · rw [Updates.goes_phase_of_ne same] at busy
      exact sound.owned other candidate busy
  · intro other candidate activating
    by_cases same : other = caller
    · subst same
      rw [Updates.goes_phase_self] at activating
      cases activating
      exact settingsSaveOne_values_self ..
    · rw [Updates.goes_phase_of_ne same] at activating
      exact absurd activating (sound.alone held same candidate).2

theorem Sound.activate (sound : Sound s) (activating : s.phase caller = .activating credential) :
    Sound ({ s with core := setCredentialActivate credential s.core, updateOwner := none }.goes
      caller .idle) := by
  obtain ⟨held, valid⟩ := sound.owned caller credential (Or.inr activating)
  have decodes : Decodes s.settings credential :=
    decodes_of_saved valid (sound.saved caller credential activating)
  refine ⟨fun other candidate busy => ?_, fun other candidate activating => ?_,
    fun _ _ => decodes, ?_⟩
  · rcases busy with impossible | impossible
    · exact absurd impossible (sound.released held other candidate).1
    · exact absurd impossible (sound.released held other candidate).2
  · exact absurd activating (sound.released held other candidate).2
  · intro _ other stamp loaded _ _ pending
    cases pending

/-- A caller in a load moves on: nothing of a replacement changes, so whoever
is between a save and an activation still is. -/
theorem Sound.loader (sound : Sound s)
    (unsaved : ∀ credential, s.phase caller ≠ .saving credential ∧
      s.phase caller ≠ .activating credential)
    (next : ∀ credential, phase ≠ .saving credential ∧ phase ≠ .activating credential)
    (agrees : Settled s → core.state = .stateProtected → Decodes s.settings core.credential)
    (loads : Settled s → ∀ other generation credential,
      (s.goes caller phase).phase other = .loading generation credential →
        core.settingsGeneration = generation → core.settingsInvalid = true →
          Decodes s.settings credential) :
    Sound ({ s with core := core }.goes caller phase) := by
  have settled : Settled ({ s with core := core }.goes caller phase) → Settled s := by
    intro settled
    exact settled.of_goes fun credential => (unsaved credential).2
  refine ⟨?_, ?_, fun settled' => agrees (settled settled'),
    fun settled' => loads (settled settled')⟩
  · intro other candidate busy
    by_cases same : other = caller
    · subst same
      rw [Updates.goes_phase_self] at busy
      rcases busy with impossible | impossible
      · exact absurd impossible (next candidate).1
      · exact absurd impossible (next candidate).2
    · rw [Updates.goes_phase_of_ne same] at busy
      exact sound.owned other candidate busy
  · intro other candidate activating
    by_cases same : other = caller
    · subst same
      rw [Updates.goes_phase_self] at activating
      exact absurd activating (next candidate).2
    · rw [Updates.goes_phase_of_ne same] at activating
      exact sound.saved other candidate activating

/-- The first section of a callback. The stamps of pending loads are out of
date by then, which `Stamped.stale` provides. -/
theorem Sound.mark {length : Nat} {result : Option Int} (sound : Sound s)
    (idle : s.phase caller = .idle)
    (stale : ∀ other generation credential, s.phase other = .loading generation credential →
      (marked s.core).settingsGeneration ≠ generation) :
    Sound ({ s with core := marked s.core }.goes caller
      (if result = none then .reading (marked s.core).settingsGeneration length else .idle)) := by
  refine sound.loader ?_ ?_ ?_ ?_
  · intro credential
    rw [idle]
    exact ⟨by simp, by simp⟩
  · intro credential
    split
    · exact ⟨by simp, by simp⟩
    · exact ⟨by simp, by simp⟩
  · intro _ guarded
    rw [marked_state] at guarded
    cases guarded
  · intro _ other generation credential loading current _
    by_cases same : other = caller
    · subst same
      rw [Updates.goes_phase_self] at loading
      split at loading
      · cases loading
      · cases loading
    · rw [Updates.goes_phase_of_ne same] at loading
      exact absurd current (stale other generation credential loading)

/-- The second section reads the record in storage, so what it decodes agrees
with storage at this moment. -/
theorem Sound.read (sound : Sound s) {generation : UInt32} {length : Nat}
    (reading : s.phase caller = .reading generation length)
    (next : phase = .idle ∨
      ∃ credential, phase = .loading generation credential ∧ Decodes s.settings credential) :
    Sound (s.goes caller phase) := by
  refine Sound.loader sound ?_ ?_ sound.agrees ?_
  · intro credential
    rw [reading]
    exact ⟨by simp, by simp⟩
  · intro credential
    rcases next with rfl | ⟨_, rfl, _⟩
    · exact ⟨by simp, by simp⟩
    · exact ⟨by simp, by simp⟩
  · intro settled other stamp credential loading current pending
    by_cases same : other = caller
    · subst same
      rw [Updates.goes_phase_self] at loading
      rcases next with rfl | ⟨_, rfl, decodes⟩
      · cases loading
      · cases loading
        exact decodes
    · rw [Updates.goes_phase_of_ne same] at loading
      exact sound.loads settled other stamp credential loading current pending

/-- The third section. A load whose stamp still counts activates what it has
read, and nothing was saved since. -/
theorem Sound.load (sound : Sound s) {generation : UInt32} {result : Int}
    (loading : s.phase caller = .loading generation credential)
    (activated : settingsSetActivate generation credential s.core = (result, core)) :
    Sound ({ s with core := core }.goes caller .idle) := by
  refine sound.loader ?_ (fun _ => ⟨by simp, by simp⟩) ?_ ?_
  · intro other
    rw [loading]
    exact ⟨by simp, by simp⟩
  · intro settled guarded
    rcases settingsSetActivate_cases activated with same | ⟨current, pending, opened⟩
    · rw [same] at guarded ⊢
      exact sound.agrees settled guarded
    · rw [opened]
      exact sound.loads settled caller generation credential loading current pending
  · intro settled other stamp loaded others current pending
    have before : s.phase other = .loading stamp loaded := by
      by_cases same : other = caller
      · subst same
        rw [Updates.goes_phase_self] at others
        cases others
      · rwa [Updates.goes_phase_of_ne same] at others
    rcases settingsSetActivate_cases activated with same | ⟨_, _, opened⟩
    · rw [same] at current pending
      exact sound.loads settled other stamp loaded before current pending
    · rw [opened] at pending
      cases pending

/-- The calls in one section neither save nor replace a credential. -/
theorem Sound.call (sound : Sound s) {event : Event} {system : System}
    (called : Step cfg hmac ⟨s.core, s.settings⟩ event system) (oneStep : event.oneStep = true) :
    Sound { s with core := system.core, settings := system.settings } := by
  obtain ⟨settings, generation, invalid, protection⟩ := oneStep_kept called oneStep
  have same : ({ s with core := system.core, settings := system.settings } : Updates) =
      { s with core := system.core } := by
    rw [settings]
  rw [same]
  refine ⟨sound.owned, sound.saved, fun settled guarded => ?_, fun settled other stamp loaded
    loading current pending => ?_⟩
  · obtain ⟨before, credential⟩ := protection guarded
    have agrees := sound.agrees settled before
    rw [← credential] at agrees
    exact agrees
  · exact sound.loads settled other stamp loaded loading (generation.symm.trans current)
      (invalid.symm.trans pending)

/-- One case an event, each by the lemma about its section. -/
theorem Sound.step (sound : Sound s) (stamped : Stamped past s)
    (unwrapped : Unwrapped (past ++ [event])) (step : UpdateStep cfg hmac s event s') :
    Sound s' := by
  cases event with
  | refuse owner credential =>
    rw [step.2.2]
    exact sound
  | authorise owner credential nowMs result =>
    obtain ⟨idle, free, valid, core, authorised, left⟩ := step
    have expired : Sound { s with core := core } := by
      refine sound.expired ?_
      rw [setCredentialAuthorise_core authorised]
      exact expireSession_persistent nowMs s.core
    rw [left]
    by_cases granted : result = 0
    · rw [if_pos granted]
      exact expired.authorise idle free valid
    · rw [if_neg granted]
      exact expired
  | save owner saveErr =>
    obtain ⟨credential, saving, left⟩ := step
    rw [left]
    by_cases saved : saveErr = 0
    · subst saved
      exact sound.save saving
    · rw [if_neg saved, if_neg saved]
      exact sound.unsaved saving saved
  | activate owner =>
    obtain ⟨credential, activating, left⟩ := step
    rw [left]
    exact sound.activate activating
  | mark owner length readable result =>
    obtain ⟨idle, _, left⟩ := step
    rw [left]
    refine sound.mark idle fun other generation credential loading => ?_
    have pending : stamp (s.phase other) = some generation := by rw [loading]; rfl
    exact stamped.stale unwrapped rfl pending rfl
  | read owner failure result =>
    obtain ⟨generation, length, reading, outcome⟩ := step
    split at outcome
    · rw [outcome.2]
      exact sound.read reading (Or.inl rfl)
    next credential delivered =>
      rw [outcome.2]
      exact sound.read reading (Or.inr ⟨credential, rfl, decodes_of_read delivered⟩)
  | load owner result =>
    obtain ⟨generation, credential, core, loading, activated, left⟩ := step
    rw [left]
    exact sound.load loading activated
  | call event =>
    obtain ⟨oneStep, system, called, left⟩ := step
    rw [left]
    exact sound.call called oneStep

end Steps

theorem run_stamped (run : Run (UpdateStep cfg hmac) (.boot settings) events s) :
    Stamped events s := by
  refine run.history Stamped ?_ fun _ _ _ _ _ stamped step => stamped.step step
  intro caller generation pending
  cases pending

theorem run_sound (run : Run (UpdateStep cfg hmac) (.boot settings) events s)
    (unwrapped : Unwrapped events) : Sound s := by
  refine run.history_of (fun _ s => Sound s) Unwrapped unwrapped
    (fun _ _ whole => whole.earlier) (sound_boot settings) ?_
  intro past s event s' whole earlier sound step
  exact sound.step (run_stamped earlier) whole step

/-! ## Replacements that fail -/

variable {moment : Moment Updates UpdateEvent} {moments : List (Moment Updates UpdateEvent)}

/-- The moments of one caller. -/
def byCaller (caller : Caller) (moment : Moment Updates UpdateEvent) : Bool :=
  actor moment.event == some caller

/-- The caller's `set_credential` returns an error. -/
def failsCall (caller : Caller) : UpdateEvent → Bool
  | .refuse owner _ => owner == caller
  | .authorise owner _ _ result => owner == caller && result != 0
  | .save owner saveErr => owner == caller && saveErr != 0
  | _ => false

/-- All steps of a `set_credential` that returns an error. -/
inductive FailedCall (caller : Caller) : List UpdateEvent → Prop
  | refused (credential : Option Credential) : FailedCall caller [.refuse caller credential]
  | denied (credential : Credential) (nowMs result : Int) (failed : result ≠ 0) :
      FailedCall caller [.authorise caller credential nowMs result]
  | unsaved (credential : Credential) (nowMs saveErr : Int) (failed : saveErr ≠ 0) :
      FailedCall caller [.authorise caller credential nowMs 0, .save caller saveErr]

/-- Storage is as it was, and so is the core, unless its session had expired
when the call read the clock. -/
structure Harmless (moment : Moment Updates UpdateEvent) : Prop where
  storage : moment.after.settings.values = moment.before.settings.values
  core : moment.after.core = moment.before.core ∨
    ∃ owner credential nowMs result, moment.event = .authorise owner credential nowMs result ∧
      moment.before.core.sessionActive = true ∧
      moment.before.core.sessionDeadlineMs ≤ nowMs ∧
      moment.after.core = clearChallenge (clearSession moment.before.core)

/-- A replacement that is refused returns before storage is asked. An expired
session goes with the look at the core, and its challenge with it. -/
theorem harmless_authorise {credential : Credential} {nowMs result : Int}
    (step : UpdateStep cfg hmac moment.before moment.event moment.after)
    (authorised : moment.event = .authorise caller credential nowMs result) : Harmless moment := by
  rw [authorised] at step
  obtain ⟨_, _, _, core, granted, left⟩ := step
  have expired : core = expireSession nowMs moment.before.core :=
    setCredentialAuthorise_core granted
  have after : moment.after.core = core ∧ moment.after.settings = moment.before.settings := by
    rw [left]
    split
    · exact ⟨rfl, rfl⟩
    · exact ⟨rfl, rfl⟩
  refine ⟨by rw [after.2], ?_⟩
  rw [after.1, expired]
  unfold expireSession
  by_cases alive : moment.before.core.sessionActive = false ∨
      nowMs < moment.before.core.sessionDeadlineMs
  · rw [if_pos alive]
    exact Or.inl rfl
  · rw [if_neg alive]
    simp only [not_or, Bool.not_eq_false, Int.not_lt] at alive
    exact Or.inr ⟨caller, credential, nowMs, result, authorised, alive.1, alive.2, rfl⟩

theorem harmless_unsaved {saveErr : Int}
    (step : UpdateStep cfg hmac moment.before moment.event moment.after)
    (saved : moment.event = .save caller saveErr) (failed : saveErr ≠ 0) : Harmless moment := by
  rw [saved] at step
  obtain ⟨credential, _, left⟩ := step
  rw [if_neg failed, if_neg failed] at left
  refine ⟨?_, Or.inl ?_⟩
  · rw [left]
    exact settingsSaveOne_values_of_error _ _ _ _ failed
  · rw [left]
    rfl

/-- A caller about to save was authorised last. -/
def Authorised (moments : List (Moment Updates UpdateEvent)) (s : Updates) : Prop :=
  ∀ caller credential, s.phase caller = .saving credential →
    ∃ front first nowMs, moments.filter (byCaller caller) = front ++ [first] ∧ first ∈ moments ∧
      first.event = .authorise caller credential nowMs 0

/-- Only `authorise` puts a caller before the save, and it returned 0 then. -/
theorem saving_step (step : UpdateStep cfg hmac s event s') {credential : Credential}
    (acting : actor event = some caller) (saving : s'.phase caller = .saving credential) :
    ∃ nowMs, event = .authorise caller credential nowMs 0 := by
  cases event with
  | authorise owner candidate nowMs result =>
    cases acting
    obtain ⟨idle, _, _, _, _, left⟩ := step
    rw [left] at saving
    by_cases granted : result = 0
    · rw [if_pos granted, Updates.goes_phase_self] at saving
      cases saving
      exact ⟨nowMs, by rw [granted]⟩
    · rw [if_neg granted] at saving
      cases idle.symm.trans saving
  | refuse owner candidate =>
    cases acting
    rw [step.2.2, step.1] at saving
    cases saving
  | save owner saveErr =>
    cases acting
    obtain ⟨_, _, left⟩ := step
    rw [left, Updates.goes_phase_self] at saving
    split at saving
    · cases saving
    · cases saving
  | activate owner =>
    cases acting
    obtain ⟨_, _, left⟩ := step
    rw [left, Updates.goes_phase_self] at saving
    cases saving
  | mark owner length readable result =>
    cases acting
    obtain ⟨_, _, left⟩ := step
    rw [left, Updates.goes_phase_self] at saving
    split at saving
    · cases saving
    · cases saving
  | read owner failure result =>
    cases acting
    obtain ⟨_, _, _, outcome⟩ := step
    split at outcome
    · rw [outcome.2, Updates.goes_phase_self] at saving
      cases saving
    · rw [outcome.2, Updates.goes_phase_self] at saving
      cases saving
  | load owner result =>
    cases acting
    obtain ⟨_, _, _, _, _, left⟩ := step
    rw [left, Updates.goes_phase_self] at saving
    cases saving
  | call event => cases acting

/-- Along a run every caller between the save and the activation has its
authorisation in the history. -/
theorem run_authorised (run : Run (Traced (UpdateStep cfg hmac)) (.boot settings) moments s) :
    Authorised moments s := by
  refine run.history Authorised (fun _ _ saving => by cases saving) ?_
  intro past s moment s' _ authorised step caller credential saving
  obtain ⟨rfl, rfl, taken⟩ := step
  by_cases acting : actor moment.event = some caller
  · obtain ⟨nowMs, event⟩ := saving_step taken acting saving
    refine ⟨past.filter (byCaller caller), moment, nowMs, ?_, by simp, event⟩
    rw [List.filter_append, List.filter_singleton, byCaller, acting, beq_self_eq_true]
    rfl
  · rw [step_phase_of_ne taken acting] at saving
    obtain ⟨front, first, nowMs, split, member, event⟩ := authorised caller credential saving
    refine ⟨front, first, nowMs, ?_, List.mem_append_left _ member, event⟩
    have other : byCaller caller moment = false := by
      simpa [byCaller] using acting
    rw [List.filter_append, List.filter_singleton, other, split]
    simp

/-- A replacement that returns an error changed nothing, apart from an expired
session. -/
theorem failed_call_harmless
    (run : Run (Traced (UpdateStep cfg hmac)) (.boot settings) (moments ++ [moment]) s)
    (fails : failsCall caller moment.event = true) :
    ∃ earlier call, (moments ++ [moment]).filter (byCaller caller) = earlier ++ call ∧
      FailedCall caller (call.map Moment.event) ∧ ∀ step ∈ call, Harmless step := by
  have taken : ∀ step ∈ moments ++ [moment],
      UpdateStep cfg hmac step.before step.event step.after := run.moment_step
  have last := taken moment (by simp)
  have acting : actor moment.event = some caller := by
    cases event : moment.event with
    | refuse | authorise | save => simp_all [failsCall, actor]
    | _ => rw [event] at fails; cases fails
  have filtered : (moments ++ [moment]).filter (byCaller caller) =
      moments.filter (byCaller caller) ++ [moment] := by
    rw [List.filter_append, List.filter_singleton, byCaller, acting, beq_self_eq_true]
    rfl
  cases event : moment.event with
  | refuse owner credential =>
    rw [event] at acting last
    cases acting
    refine ⟨_, [moment], filtered, ?_, ?_⟩
    · rw [List.map_singleton, event]
      exact .refused credential
    · intro step member
      rw [List.mem_singleton.mp member]
      exact ⟨by rw [last.2.2], Or.inl (by rw [last.2.2])⟩
  | authorise owner credential nowMs result =>
    rw [event] at acting fails
    cases acting
    have failed : result ≠ 0 := by simpa [failsCall] using fails
    refine ⟨_, [moment], filtered, ?_, ?_⟩
    · rw [List.map_singleton, event]
      exact .denied credential nowMs result failed
    · intro step member
      rw [List.mem_singleton.mp member]
      exact harmless_authorise last event
  | save owner saveErr =>
    rw [event] at acting fails
    cases acting
    have failed : saveErr ≠ 0 := by simpa [failsCall] using fails
    obtain ⟨middle, earlier, before, _, _⟩ := run.snoc_inv
    have standing := last
    rw [event] at standing
    obtain ⟨credential, saving, _⟩ := standing
    rw [before] at saving
    obtain ⟨front, first, nowMs, split, member, authorised⟩ :=
      run_authorised earlier caller credential saving
    refine ⟨front, [first, moment], by rw [filtered, split]; simp, ?_, ?_⟩
    · rw [List.map_cons, List.map_singleton, authorised, event]
      exact .unsaved credential nowMs saveErr failed
    · intro step among
      rcases List.mem_cons.mp among with rfl | among
      · exact harmless_authorise (taken _ (List.mem_append_left _ member)) authorised
      · rw [List.mem_singleton.mp among]
        exact harmless_unsaved last event failed
  | _ =>
    rw [event] at fails
    cases fails

/-- Whenever no replacement is between its save and its activation, the
credential of a PROTECTED core is the one in storage; and a replacement that
returns an error leaves core and storage as they were, apart from an expired
session and its challenge. -/
theorem credential_never_drifts
    (run : Run (Traced (UpdateStep cfg hmac)) (.boot settings) moments s) :
    (Unwrapped (moments.map Moment.event) → Settled s → s.core.state = .stateProtected →
      Decodes s.settings s.core.credential) ∧
    (∀ front last back caller, moments = front ++ last :: back →
      failsCall caller last.event = true →
      ∃ earlier call, (front ++ [last]).filter (byCaller caller) = earlier ++ call ∧
        FailedCall caller (call.map Moment.event) ∧ ∀ step ∈ call, Harmless step) := by
  refine ⟨fun unwrapped => (run_sound run.untraced unwrapped).agrees, ?_⟩
  intro front last back caller split fails
  rw [split] at run
  obtain ⟨_, _, earlier, step, _⟩ := run.around
  exact failed_call_harmless (earlier.snoc step) fails

/-! ## A generation that wraps -/

def oldCredential : Credential := sampleCredential

def newCredential : Credential := { sampleCredential with salt := Vector.replicate 16 9 }

def stored : Settings :=
  settingsSaveOne settingPath (serializeCredential oldCredential) 0 .empty

/-- Callbacks after the first one return at once, and move nothing but the
generation. Enough of them bring it round to where it was. -/
theorem callbacks_run (cfg : Config) (hmac : Hmac) (seen : s.core.settingsSeen = true)
    (idle : s.phase caller = .idle) (count : Nat) :
    ∃ s', Run (UpdateStep cfg hmac) s
        (List.replicate count (.mark caller credentialStorageSize true (some (-einval)))) s' ∧
      s'.settings = s.settings ∧ s'.phase = s.phase ∧ s'.core.settingsSeen = true ∧
      s'.core.settingsGeneration = advanced s.core.settingsGeneration count ∧
      (count ≠ 0 → s'.core.settingsInvalid = true) := by
  induction count with
  | zero =>
    exact ⟨s, Run.nil s, rfl, rfl, seen, (advanced_zero _).symm, fun nonzero => absurd rfl nonzero⟩
  | succ count ih =>
    obtain ⟨middle, run, settings, phase, seen', generation, _⟩ := ih
    have step : UpdateStep cfg hmac middle
        (.mark caller credentialStorageSize true (some (-einval)))
        ({ middle with core := marked middle.core }.goes caller .idle) := by
      refine ⟨by rw [phase]; exact idle, ?_, by rw [if_neg (by simp)]⟩
      rw [returnsMarked, if_pos (Or.inl seen')]
    rw [List.replicate_succ']
    refine ⟨_, run.snoc step, settings, ?_, marked_settingsSeen, ?_,
      fun _ => marked_settingsInvalid⟩
    · have still : Function.update middle.phase caller .idle = middle.phase := by
        rw [phase, ← idle, Function.update_eq_self]
      exact still.trans phase
    · rw [advanced_succ, ← generation]
      rfl

/-- Caller 1 is about to save the new credential. -/
def authorisedFirst : Updates :=
  { Updates.boot stored with updateOwner := some 1 }.goes 1 (.saving newCredential)

/-- Caller 0 has marked its load meanwhile. -/
def markedThen : Updates :=
  { authorisedFirst with core := marked .boot }.goes 0 (.reading 1 credentialStorageSize)

/-- A loader that has read the old credential and stands before the
activation. -/
def readOld : Updates := markedThen.goes 0 (.loading 1 oldCredential)

def savedSettings : Settings :=
  settingsSaveOne settingPath (serializeCredential newCredential) 0 stored

/-- An update that has saved the new credential and stands before the
activation. -/
def savedNew : Updates :=
  { readOld with settings := savedSettings }.goes 1 (.activating newCredential)

/-- The new credential is stored and active; the load that has read the old one
is pending. -/
def overtaken : Updates :=
  { savedNew with
    core := setCredentialActivate newCredential savedNew.core
    updateOwner := none }.goes 1 .idle

/-- The update saves between the read of the loader and its activation. -/
def overtakenEvents : List UpdateEvent :=
  [.authorise 1 newCredential 0 0, .mark 0 credentialStorageSize true none, .read 0 none none,
    .save 1 0, .activate 1]

theorem overtaken_reached :
    Run (UpdateStep .default sampleHmac) (.boot stored) overtakenEvents overtaken := by
  have authorise : UpdateStep .default sampleHmac (.boot stored) (.authorise 1 newCredential 0 0)
      authorisedFirst := ⟨rfl, rfl, by decide, .boot, rfl, by rw [if_pos rfl]; rfl⟩
  have mark : UpdateStep .default sampleHmac authorisedFirst
      (.mark 0 credentialStorageSize true none) markedThen :=
    ⟨rfl, by decide, by rw [if_pos rfl]; rfl⟩
  have read : UpdateStep .default sampleHmac markedThen (.read 0 none none)
      readOld := by
    have delivered : settingsSetRead false credentialStorageSize
        (some (storedRecord markedThen.settings none)) = .ok oldCredential :=
      decodes_of_saved (by decide) (settingsSaveOne_values_self ..)
    refine ⟨1, credentialStorageSize, Updates.goes_phase_self .., ?_⟩
    rw [delivered]
    exact ⟨rfl, rfl⟩
  have save : UpdateStep .default sampleHmac readOld (.save 1 0) savedNew := by
    refine ⟨newCredential, rfl, ?_⟩
    rw [if_pos rfl, if_pos rfl]
    rfl
  have activate : UpdateStep .default sampleHmac savedNew (.activate 1) overtaken :=
    ⟨newCredential, rfl, rfl⟩
  exact ((((Run.single authorise).snoc mark).snoc read).snoc save).snoc activate

theorem overtaken_others (caller : Caller) (other : caller ≠ 0) :
    overtaken.phase caller = .idle := by
  by_cases owner : caller = 1
  · subst owner
    rfl
  · simp [overtaken, savedNew, readOld, markedThen, authorisedFirst, Updates.goes, Updates.boot,
      Updates.quiet, other, owner]

theorem overtaken_settled : Settled overtaken := by
  intro caller credential activating
  by_cases owner : caller = 0
  · subst owner
    cases activating
  · rw [overtaken_others caller owner] at activating
    cases activating

/-- An update has overtaken a load that still holds the old credential. Core
and storage agree all the same. -/
theorem credential_never_drifts_sample : Decodes overtaken.settings overtaken.core.credential := by
  obtain ⟨moments, same, run⟩ := overtaken_reached.traced
  refine (credential_never_drifts run).1 ?_ overtaken_settled rfl
  rw [same]
  exact unwrapped_of_few (by decide)

/-- A late load of the old record activates once the generation has come round
to its stamp. -/
theorem wrapped_load_drifts :
    ∃ events s, Run (UpdateStep .default sampleHmac) (.boot stored) events s ∧ Settled s ∧
      s.core.state = .stateProtected ∧ ¬ Decodes s.settings s.core.credential := by
  have run := overtaken_reached
  have seen : overtaken.core.settingsSeen = true := rfl
  obtain ⟨s', callbacks, settings, phase, _, wrapped, invalid⟩ :=
    callbacks_run .default sampleHmac seen (overtaken_others 2 (by decide)) (2 ^ 32)
  rw [advanced_wrap] at wrapped
  have current : s'.core.settingsGeneration = 1 := wrapped
  have activates : settingsSetActivate 1 oldCredential s'.core =
      (0, clearTransient true { s'.core with
        credential := oldCredential
        state := .stateProtected
        settingsInvalid := false }) := by
    unfold settingsSetActivate
    rw [if_neg (by simp [current, invalid])]
  have load : UpdateStep .default sampleHmac s' (.load 0 0)
      ({ s' with core := clearTransient true { s'.core with
        credential := oldCredential
        state := .stateProtected
        settingsInvalid := false } }.goes 0 .idle) :=
    ⟨1, oldCredential, _, by rw [phase]; rfl, activates, rfl⟩
  refine ⟨_, _, (run.append callbacks).snoc load, ?_, rfl, ?_⟩
  · intro caller credential activating
    by_cases owner : caller = 0
    · subst owner
      rw [Updates.goes_phase_self] at activating
      cases activating
    · rw [Updates.goes_phase_of_ne owner] at activating
      have others := (overtaken_others caller owner).symm.trans (congrFun phase caller).symm
      cases others.trans activating
  · intro drifted
    have newer : Decodes s'.settings newCredential := by
      refine decodes_of_saved (by decide) ?_
      have values : overtaken.settings.values settingPath =
        some (serializeCredential newCredential) := settingsSaveOne_values_self ..
      rw [settings]
      exact values
    have same : oldCredential = newCredential := decodes_unique drifted newer
    exact absurd same (by decide)

end RuntimeMacro.Guarantees.CredentialDrift
