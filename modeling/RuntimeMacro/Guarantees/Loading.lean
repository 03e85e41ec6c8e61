import RuntimeMacro.Source.WorldAuth

/-!
# Credential loading fails closed

runtime_macro_auth.c:469-540; docs/AUTHENTICATION_PROTOCOL.md:40-66. What a
whole settings load makes of the core: OPEN without a credential entry,
PROTECTED with exactly one intact entry, ERROR_LOCKED otherwise. ERROR_LOCKED
is left by no call but a load.
-/
namespace RuntimeMacro.Guarantees.Loading
open Source Source.Protocol Source.AuthCore Foundations.Runs

/-- One settings callback of a load. -/
structure Callback where
  name : Option Name
  length : Nat
  readCb : Option SettingsReadCb

/-- Whether the settings entry is the one of the credential. -/
def Callback.isCredential (callback : Callback) : Bool := nameMatches callback.name

/-- The core after the callback. -/
def deliver (s : State) (callback : Callback) : State :=
  (settingsSet callback.name callback.length callback.readCb s).2

/-- A whole load: every entry delivered, in the order given, then the
commit. -/
def load (callbacks : List Callback) : State := settingsCommit (callbacks.foldl deliver .boot)

/-- The callback hands out a version 1 record of 53 bytes that holds a valid
credential. -/
structure Delivers (callback : Callback) (credential : Credential) : Prop where
  length : callback.length = 53
  read : ∃ readCb serialized, callback.readCb = some readCb ∧ readCb 53 = (53, serialized) ∧
    serialized.getD 0 0 = 1 ∧ deserializeCredential serialized = credential
  iterations : 100000 ≤ credential.iterations ∧ credential.iterations ≤ 5000000
  salt : credential.salt ≠ Vector.replicate 16 0
  key : credential.key ≠ Vector.replicate 32 0

theorem allZero_iff {n : Nat} {data : Vector UInt8 n} :
    allZero data = true ↔ data = Vector.replicate n 0 := by
  unfold allZero
  constructor
  · intro zero
    ext i bound
    rw [List.all_eq_true] at zero
    have octet := zero data[i] (by simp)
    simpa using congrArg UInt8.toNat (beq_iff_eq.mp octet)
  · rintro rfl
    simp

theorem allZero_eq_false {n : Nat} {data : Vector UInt8 n} :
    allZero data = false ↔ data ≠ Vector.replicate n 0 := by
  rw [← Bool.not_eq_true, allZero_iff]

theorem credentialIsValid_iff {credential : Credential} :
    credentialIsValid credential = true ↔
      (100000 ≤ credential.iterations ∧ credential.iterations ≤ 5000000) ∧
        credential.salt ≠ Vector.replicate 16 0 ∧ credential.key ≠ Vector.replicate 32 0 := by
  have tooFew : decide (credential.iterations < iterationsMin) = false ↔
      100000 ≤ credential.iterations := by
    rw [decide_eq_false_iff_not, iterationsMin, Nat.not_lt]
  have tooMany : decide (credential.iterations > iterationsMax) = false ↔
      credential.iterations ≤ 5000000 := by
    rw [decide_eq_false_iff_not, iterationsMax, Nat.not_lt]
  unfold credentialIsValid
  rw [Bool.not_eq_true', Bool.or_eq_false_iff, Bool.or_eq_false_iff, Bool.or_eq_false_iff,
    tooFew, tooMany, allZero_eq_false, allZero_eq_false, and_assoc]

/-- The read between the two critical sections accepts what `Delivers`
describes: 53 bytes of the right version, with a valid credential in them. -/
theorem settingsSetRead_ok {callback : Callback} {credential : Credential} :
    settingsSetRead false callback.length callback.readCb = .ok credential ↔
      Delivers callback credential := by
  constructor
  · intro read
    unfold settingsSetRead at read
    split at read
    · cases read
    next readCb given =>
    split at read
    · cases read
    next sized =>
    dsimp only at read
    split at read
    · cases read
    split at read
    · cases read
    next record =>
    split at read
    · next valid =>
      cases read
      obtain ⟨iterations, salt, key⟩ := credentialIsValid_iff.mp valid
      simp only [not_or, ne_eq, Decidable.not_not] at sized record
      refine ⟨sized.2, ⟨readCb, (readCb 53).2, given, ?_, record.2, rfl⟩, iterations, salt, key⟩
      exact Prod.ext record.1 rfl
    · cases read
  · rintro ⟨length, ⟨readCb, serialized, given, answered, version, rfl⟩, iterations, salt, key⟩
    have valid := credentialIsValid_iff.mpr ⟨iterations, salt, key⟩
    rw [List.getD_eq_getElem?_getD] at version
    simp [settingsSetRead, given, length, credentialStorageSize, answered, version,
      credentialVersion, valid]

theorem Delivers.unique {callback : Callback} {first second : Credential}
    (one : Delivers callback first) (other : Delivers callback second) : first = second := by
  have same := (settingsSetRead_ok.mpr one).symm.trans (settingsSetRead_ok.mpr other)
  exact Except.ok.inj same

/-! ## The callbacks of one load -/

/-- The credential entries among the callbacks. -/
def entries (callbacks : List Callback) : List Callback := callbacks.filter Callback.isCredential

theorem entries_append (past : List Callback) (callback : Callback) :
    entries (past ++ [callback]) =
      entries past ++ (if callback.isCredential then [callback] else []) := by
  unfold entries
  rw [List.filter_append, List.filter_singleton]
  cases callback.isCredential <;> rfl

/-- The core after the callbacks: untouched, loaded, or locked. -/
def Loaded (past : List Callback) (s : State) : Prop :=
  (entries past = [] ∧ s = .boot) ∨
  (∃ callback credential, entries past = [callback] ∧ Delivers callback credential ∧
    s.state = .stateProtected ∧ s.credential = credential ∧ s.settingsSeen = true ∧
    s.settingsInvalid = false) ∨
  (entries past ≠ [] ∧
    (∀ callback credential, entries past = [callback] → ¬ Delivers callback credential) ∧
    s.state = .stateErrorLocked ∧ s.settingsSeen = true ∧ s.settingsInvalid = true)

theorem loaded_locked {past : List Callback} {callback : Callback} {s : State}
    (matching : callback.isCredential = true)
    (refused : ∀ credential, entries past = [] → ¬ Delivers callback credential) :
    Loaded (past ++ [callback]) (marked s) := by
  refine Or.inr (Or.inr ⟨?_, ?_, marked_state, marked_settingsSeen, marked_settingsInvalid⟩)
  · rw [entries_append, if_pos matching]
    simp
  · intro only credential alone
    rw [entries_append, if_pos matching] at alone
    obtain ⟨first, same⟩ := List.append_eq_singleton_iff.mp alone |>.resolve_right (by simp)
    cases same
    exact refused credential first

/-- One more entry. A credential is the first of its kind, or a duplicate,
which locks the core. -/
theorem Loaded.deliver {past : List Callback} {s : State} (loaded : Loaded past s)
    (callback : Callback) : Loaded (past ++ [callback]) (deliver s callback) := by
  rcases delivered : settingsSet callback.name callback.length callback.readCb s with ⟨result, s'⟩
  have left : Loading.deliver s callback = s' := by rw [Loading.deliver, delivered]
  rw [left]
  have seen : s.settingsSeen = !(entries past).isEmpty := by
    rcases loaded with ⟨none, rfl⟩ | ⟨_, _, one, _, _, _, seen, _⟩ | ⟨some, _, _, seen, _⟩
    · rw [none]
      rfl
    · rw [one, seen]
      rfl
    · simpa [seen] using some
  rcases settingsSet_cases delivered with
    ⟨other, _, same⟩ | ⟨matching, err, read, locked⟩ | ⟨matching, _, credential, read, opened⟩
  · have silent : callback.isCredential = false := other
    rw [same]
    unfold Loaded at *
    rw [entries_append, if_neg (by simp [silent]), List.append_nil]
    exact loaded
  · rw [locked]
    refine loaded_locked matching fun credential first delivers => ?_
    rw [seen, first] at read
    cases (settingsSetRead_ok.mpr delivers).symm.trans read
  · have fresh : entries past = [] := by
      by_contra some
      rw [seen, List.isEmpty_eq_false_iff.mpr some] at read
      exact settingsSetRead_duplicate _ _ _ read
    have delivers : Delivers callback credential := by
      rw [seen, fresh] at read
      exact settingsSetRead_ok.mp read
    have alone : entries (past ++ [callback]) = [callback] := by
      have listed : callback.isCredential = true := matching
      rw [entries_append, fresh, if_pos listed]
      rfl
    rw [opened]
    exact Or.inr (Or.inl ⟨callback, credential, alone, delivers, by simp, by simp, by simp,
      by simp⟩)

theorem loaded_callbacks (callbacks : List Callback) :
    Loaded callbacks (callbacks.foldl deliver .boot) := by
  induction callbacks using List.reverseRecOn with
  | nil => exact Or.inl ⟨rfl, rfl⟩
  | append_singleton past callback ih =>
    rw [List.foldl_append]
    exact ih.deliver callback

/-- After the commit the state is OPEN without an entry, PROTECTED with one
intact entry. -/
theorem load_cases (callbacks : List Callback) :
    (entries callbacks = [] ∧ (load callbacks).state = .stateOpen) ∨
    (∃ callback credential, entries callbacks = [callback] ∧ Delivers callback credential ∧
      (load callbacks).state = .stateProtected ∧ (load callbacks).credential = credential) ∨
    (entries callbacks ≠ [] ∧
      (∀ callback credential, entries callbacks = [callback] → ¬ Delivers callback credential) ∧
      (load callbacks).state = .stateErrorLocked) := by
  unfold load settingsCommit
  rcases loaded_callbacks callbacks with
    ⟨none, boot⟩ | ⟨callback, credential, one, delivers, state, same, seen, intact⟩ |
    ⟨some, refused, state, seen, invalid⟩
  · rw [boot]
    exact Or.inl ⟨none, rfl⟩
  · rw [if_neg (by simp [seen]), if_neg (by simp [intact])]
    exact Or.inr (Or.inl ⟨callback, credential, one, delivers, state, same⟩)
  · rw [if_neg (by simp [seen]), if_pos invalid]
    exact Or.inr (Or.inr ⟨some, refused, by simp [setErrorLocked]⟩)

/-! ## ERROR_LOCKED is final -/

section Final
variable {cfg : Config} {hmac : Hmac} {settings : Settings} {w w' start final : World}
  {history events : List WorldEvent}

/-- Frames, `lock`, the transport reset, `set_credential` and
`settings_commit`. -/
def ordinary : WorldEvent → Bool
  | .frame _ | .transportReset _ _ => true
  | .auth .lock | .auth .transportReset | .auth (.setCredential ..) | .auth .settingsCommit => true
  | _ => false

/-- The world is locked like `start` and its settings are those of `start`. -/
structure StillLocked (start w : World) : Prop where
  sound : CoreSound w.auth
  locked : w.auth.state = .stateErrorLocked
  settings : w.settings = start.settings

/-- No call other than a settings callback changes a locked state. -/
theorem step_locked {s s' : System} {call : Event} (step : Step cfg hmac s call s')
    (sound : CoreSound s.core) (locked : s.core.state = .stateErrorLocked)
    (silent : ∀ name length readCb result, call ≠ .settingsSet name length readCb result) :
    s'.core.state = .stateErrorLocked := by
  by_cases writes : call.writesPersistent = false
  · have same := step_persistent step writes
    exact (congrArg Persistent.state same).trans locked
  · cases call with
    | setCredential credential nowMs saveErr result =>
      rcases setCredential_cases step with ⟨failed, _⟩ | ⟨_, _, _, _, notLocked, _⟩
      · simp [Event.writesPersistent, failed] at writes
      · exact absurd locked notLocked
    | settingsSet name length readCb result => exact absurd rfl (silent _ _ _ _)
    | settingsCommit =>
      rw [step.1, (settingsCommit_persistent sound.flags).1]
      exact locked
    | _ => exact absurd rfl writes

theorem trace_locked {core core' : State} (trace : CoreTrace cfg hmac true core core')
    (sound : CoreSound core) (locked : core.state = .stateErrorLocked) :
    core'.state = .stateErrorLocked := by
  obtain ⟨calls, allowed, run⟩ := trace
  have both : CoreSound core' ∧ core'.state = .stateErrorLocked := by
    refine run.invariant_of (fun core => CoreSound core ∧ core.state = .stateErrorLocked)
      ⟨sound, locked⟩ allowed ?_
    rintro _ call _ ⟨sound, locked⟩ ⟨allowed, _⟩ ⟨settings, settings', step⟩
    refine ⟨sound.step step, step_locked step sound locked ?_⟩
    rintro name length readCb result rfl
    cases allowed
  exact both.2

theorem gate_shut_of_locked {core : State} (env : Env)
    (locked : core.state = .stateErrorLocked) : ¬ GateOpen env core := by
  rintro (opened | ⟨guarded, _⟩)
  · cases opened.symm.trans locked
  · cases guarded.symm.trans locked

/-- A locked core refuses a credential before storage is asked. -/
theorem setCredential_locked {credential : Option Credential} {nowMs saveErr result : Int}
    {s s' : State} {settings settings' : Settings}
    (set : setCredential credential nowMs saveErr s settings = (result, s', settings'))
    (locked : s.state = .stateErrorLocked) : settings' = settings := by
  unfold setCredential at set
  cases credential with
  | none =>
    cases set
    rfl
  | some value =>
    dsimp only at set
    split at set
    · cases set
      rfl
    · cases authorised : setCredentialAuthorise nowMs s with
      | mk err core =>
        obtain ⟨_, ⟨rfl, _⟩ | ⟨_, guarded, _⟩ | ⟨_, notLocked, _⟩⟩ :=
          setCredentialAuthorise_cases authorised
        · rw [authorised] at set
          cases set
          rfl
        · cases guarded.symm.trans locked
        · exact absurd locked notLocked

/-- One case for each kind of event; those that are no calls of the core leave
it alone. -/
theorem StillLocked.step {event : WorldEvent} (still : StillLocked start w)
    (allowed : ordinary event = true) (step : WorldStep cfg hmac w event w') :
    StillLocked start w' := by
  have sound := still.sound.world step
  cases event with
  | frame exchange =>
    have trace := processFrame_trace cfg hmac exchange.env exchange.id exchange.request w true
      fun _ _ => rfl
    have kept := processFrame_storesKept cfg hmac exchange.env exchange.id exchange.request w
      fun _ _ _ => by
        apply gate_shut_of_locked
        rw [syncAuthState_auth, (observedSession_looked exchange.env w.auth).state]
        exact still.locked
    rw [step] at trace kept
    exact ⟨sound, trace_locked trace still.sound still.locked,
      kept.settings.trans still.settings⟩
  | transportReset id env =>
    rw [step] at sound ⊢
    exact ⟨sound, still.locked, still.settings⟩
  | auth call =>
    obtain ⟨system, called, rfl⟩ := step
    have locked : system.core.state = .stateErrorLocked := by
      refine step_locked called still.sound still.locked ?_
      rintro name length readCb result rfl
      cases allowed
    refine ⟨sound, locked, ?_⟩
    have kept : system.settings = w.settings := by
      cases call with
      | setCredential credential nowMs saveErr result =>
        exact setCredential_locked called still.locked
      | lock | transportReset | settingsCommit => exact called.2
      | _ => cases allowed
    exact kept.trans still.settings
  | _ => cases allowed

theorem run_locked (run : Run (WorldStep cfg hmac) start events final)
    (sound : CoreSound start.auth) (locked : start.auth.state = .stateErrorLocked)
    (allowed : ∀ event ∈ events, ordinary event = true) : StillLocked start final :=
  run.invariant_of _ ⟨sound, locked, rfl⟩ allowed fun _ _ _ still ordinary step =>
    still.step ordinary step

end Final

/-- A load from boot leaves the core OPEN without a credential entry, PROTECTED
by the one entry that is intact, and ERROR_LOCKED otherwise; and nothing but a
load gets a reachable firmware out of ERROR_LOCKED, gives it a session or a
challenge, or writes a setting. -/
theorem loading_fails_closed (cfg : Config) (hmac : Hmac) :
    (∀ callbacks,
      ((load callbacks).state = .stateOpen ↔ entries callbacks = []) ∧
      (∀ credential, (load callbacks).state = .stateProtected ∧
          (load callbacks).credential = credential ↔
        ∃ callback, entries callbacks = [callback] ∧ Delivers callback credential) ∧
      ((load callbacks).state = .stateErrorLocked ↔ entries callbacks ≠ [] ∧
        ¬ ∃ callback credential, entries callbacks = [callback] ∧
          Delivers callback credential)) ∧
    (∀ settings history events start final,
      Run (WorldStep cfg hmac) (.boot cfg settings) history start →
      start.auth.state = .stateErrorLocked → Run (WorldStep cfg hmac) start events final →
      (∀ event ∈ events, ordinary event = true) →
      final.auth.state = .stateErrorLocked ∧ final.auth.sessionActive = false ∧
        final.auth.challengeActive = false ∧ final.settings = start.settings) := by
  constructor
  · intro callbacks
    rcases load_cases callbacks with
      ⟨none, state⟩ | ⟨callback, credential, one, delivers, state, same⟩ | ⟨some, refused, state⟩
    · refine ⟨by simp [state, none], fun credential => ?_, by simp [state, none]⟩
      simp [state, none]
    · refine ⟨by simp [state, one], fun other => ?_, ?_⟩
      · rw [state, same, one]
        constructor
        · rintro ⟨_, rfl⟩
          exact ⟨callback, rfl, delivers⟩
        · rintro ⟨alone, isAlone, delivers'⟩
          cases isAlone
          exact ⟨rfl, delivers.unique delivers'⟩
      · rw [state]
        refine ⟨fun locked => (by cases locked), fun ⟨_, broken⟩ => ?_⟩
        exact absurd ⟨callback, credential, one, delivers⟩ broken
    · refine ⟨by simp [state, some], fun credential => ?_, ?_⟩
      · rw [state]
        refine ⟨fun ⟨guarded, _⟩ => (by cases guarded), fun ⟨callback, one, delivers⟩ => ?_⟩
        exact absurd delivers (refused callback credential one)
      · refine ⟨fun _ => ⟨some, ?_⟩, fun _ => state⟩
        rintro ⟨callback, credential, one, delivers⟩
        exact refused callback credential one delivers
  · intro settings history events start final reached locked run allowed
    have still := run_locked run (run_coreSound reached) locked allowed
    obtain ⟨noSession, noChallenge⟩ := still.sound.idle still.locked
    exact ⟨still.locked, noSession, noChallenge, still.settings⟩


/-- A record of 12 bytes where 53 are expected. -/
def truncatedEntry : WorldEvent :=
  .auth (.settingsSet (some (ascii "auth/credential")) 12 none (-einval))

/-- The core is locked, and neither a new credential nor a reset opens it. -/
def attempts : List WorldEvent :=
  [.auth .settingsCommit, .auth (.setCredential (some sampleCredential) 10 0 (-eperm)),
    .transportReset 0 (.still 20)]

/-- A record that is too short locks the core, and neither another commit, a
new credential nor a reset opens it. -/
theorem loading_fails_closed_sample :
    ∃ start final, Run (WorldStep .default sampleHmac) (.boot .default .empty) [truncatedEntry]
        start ∧ Run (WorldStep .default sampleHmac) start attempts final ∧
      final.auth.state = .stateErrorLocked ∧ final.settings = start.settings := by
  obtain ⟨start, reached, run⟩ : ∃ start, Run (WorldStep .default sampleHmac)
      (.boot .default .empty) [truncatedEntry] start ∧ start.auth.state = .stateErrorLocked ∧
      (execute (worldNext .default sampleHmac) start attempts).isSome = true :=
    ⟨_, world_run_of_next .default sampleHmac (.boot .default .empty) [truncatedEntry]
      (by decide), by decide⟩
  have attempted := world_run_of_next .default sampleHmac start attempts run.2
  obtain ⟨locked, _, _, same⟩ := (loading_fails_closed .default sampleHmac).2 .empty _ _ _ _ reached
    run.1 attempted (by decide)
  exact ⟨start, _, reached, attempted, locked, same⟩

end RuntimeMacro.Guarantees.Loading
