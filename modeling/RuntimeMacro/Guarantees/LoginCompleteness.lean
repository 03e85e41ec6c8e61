import RuntimeMacro.Source.AuthPersistent

/-!
# A correct proof logs in

runtime_macro_auth.c:205-212,265-375; runtime_macro_auth.h:81-84,106. A
challenge answered in time, with the right proof and nothing but queries in
between, opens a session, unless an earlier session times out on the way: the
lookup that finds it expired drops the new challenge with it. When exactly that
happens is `Outlasts`.
-/
namespace RuntimeMacro.Guarantees.LoginCompleteness
open Source Source.AuthCore Foundations.Runs

variable {cfg : Config} {hmac : Hmac} {settings : Settings} {s s' issued answered opened : System}
  {past calls later : List Event} {event : Event} {core core' : State} {nonce : Nonce}
  {random : Option Nonce} {issueMs proveMs nowMs limit deadline : Int} {result : Int}

/-- `get_state`, `get_info`, `is_authenticated` and `refresh_session`. -/
def isQuery : Event → Bool
  | .getState .. | .getInfo .. | .isAuthenticated .. | .refreshSession .. => true
  | _ => false

/-- The deadline of a session that is alive at a query. -/
def deadlineAfter (cfg : Config) (deadline : Int) : Event → Int
  | .refreshSession nowMs _ => nowMs + (cfg.authSessionTimeout : Int) * 1000
  | _ => deadline

/-- No query finds the session past its deadline, and neither does the reading
`proveMs`. -/
def OutlastsFrom (cfg : Config) (deadline : Int) (calls : List Event) (proveMs : Int) : Prop :=
  match calls with
  | [] => proveMs < deadline
  | call :: rest => (∀ nowMs, call.time = some nowMs → nowMs < deadline) ∧
      OutlastsFrom cfg (deadlineAfter cfg deadline call) rest proveMs

/-- No session is alive when the challenge is issued, or it lasts until the
proof. -/
def Outlasts (cfg : Config) (core : State) (issueMs : Int) (calls : List Event) (proveMs : Int) :
    Prop :=
  core.sessionActive = false ∨ core.sessionDeadlineMs ≤ issueMs ∨
    OutlastsFrom cfg core.sessionDeadlineMs calls proveMs

/-! ## Queries -/

/-- A challenge for the stored key is outstanding until after `proveMs`. -/
structure Pending (nonce : Nonce) (key : Vector UInt8 32) (proveMs : Int) (core : State) :
    Prop where
  guarded : core.state = .stateProtected
  active : core.challengeActive = true
  challenge : core.challenge = nonce
  key : core.credential.key = key
  inTime : proveMs < core.challengeDeadlineMs

theorem query_time (query : isQuery event = true) : ∃ nowMs, event.time = some nowMs := by
  cases event <;> first | exact ⟨_, rfl⟩ | cases query

/-- A query expires the session or leaves it, and a refresh may move its
deadline. If it expires the session, the challenge goes too. -/
theorem query_cases (query : isQuery event = true) (timed : event.time = some nowMs)
    (step : Step cfg hmac s event s') :
    (s'.core = clearChallenge (clearSession s.core) ∧ s.core.sessionActive = true ∧
      s.core.sessionDeadlineMs ≤ nowMs) ∨
    (s'.core = s.core ∧ s.core.sessionActive = false) ∨
    (s.core.sessionActive = true ∧ nowMs < s.core.sessionDeadlineMs ∧
      (s.core.state = .stateProtected →
        s'.core = { s.core with
          sessionDeadlineMs := deadlineAfter cfg s.core.sessionDeadlineMs event })) := by
  have looked : s'.core = expireSession nowMs s.core →
      (s.core.state = .stateProtected → nowMs < s.core.sessionDeadlineMs →
        s.core.sessionActive = true →
        deadlineAfter cfg s.core.sessionDeadlineMs event = s.core.sessionDeadlineMs) →
      (s'.core = clearChallenge (clearSession s.core) ∧ s.core.sessionActive = true ∧
        s.core.sessionDeadlineMs ≤ nowMs) ∨
      (s'.core = s.core ∧ s.core.sessionActive = false) ∨
      (s.core.sessionActive = true ∧ nowMs < s.core.sessionDeadlineMs ∧
        (s.core.state = .stateProtected →
          s'.core = { s.core with
            sessionDeadlineMs := deadlineAfter cfg s.core.sessionDeadlineMs event })) := by
    intro expired kept
    rcases expireSession_cases nowMs s.core with ⟨same, alive⟩ | ⟨dropped, active, late⟩
    · rw [same] at expired
      by_cases active : s.core.sessionActive = true
      · have live : nowMs < s.core.sessionDeadlineMs := by
          rcases alive with idle | live
          · cases idle.symm.trans active
          · exact live
        refine Or.inr (Or.inr ⟨active, live, fun guarded => ?_⟩)
        rw [kept guarded live active]
        exact expired
      · exact Or.inr (Or.inl ⟨expired, by simpa using active⟩)
    · exact Or.inl ⟨expired.trans dropped, active, late⟩
  cases event with
  | getState reading answer | isAuthenticated reading answer =>
    cases timed
    exact looked (Prod.ext_iff.mp step.1).2.symm fun _ _ _ => rfl
  | getInfo reading answer =>
    cases timed
    refine looked ?_ fun _ _ _ => rfl
    rw [← getInfo_core, step.1]
  | refreshSession reading answer =>
    cases timed
    rcases refreshSession_cases step.1 with ⟨_, expired, refused⟩ | ⟨_, _, active, alive, left⟩
    · refine looked expired fun guarded live active => ?_
      rw [expireSession_of_alive live] at refused
      rcases refused with other | idle
      · exact absurd guarded other
      · cases active.symm.trans idle
    · exact Or.inr (Or.inr ⟨active, alive, fun _ => left⟩)
  | _ => cases query

theorem Pending.of_deadline {key : Vector UInt8 32} (pending : Pending nonce key proveMs core) :
    Pending nonce key proveMs { core with sessionDeadlineMs := deadline } :=
  ⟨pending.guarded, pending.active, pending.challenge, pending.key, pending.inTime⟩

/-- The correct proof over an outstanding challenge opens a session, unless the
look at the clock that comes first finds an old session expired. -/
theorem verify_pending {key : Vector UInt8 32} (pending : Pending nonce key proveMs core)
    (alive : core.sessionActive = false ∨ proveMs < core.sessionDeadlineMs) :
    verifyProof cfg hmac (some (expectedProof hmac key nonce)) proveMs false core =
      (0, clearFailure { clearSession (clearChallenge core) with
        sessionActive := true
        sessionDeadlineMs := proveMs + (cfg.authSessionTimeout : Int) * 1000 }) := by
  have sized : (expectedProof hmac key nonce).length = proofSize := by
    simp [expectedProof, proofSize]
  have same : expireSession proveMs core = core := by
    unfold expireSession
    rw [if_pos alive]
  have inTime : ¬ (core.challengeActive = false ∨ proveMs ≥ core.challengeDeadlineMs) := by
    have late := pending.inTime
    rw [pending.active]
    simp only [Bool.true_eq_false, false_or]
    omega
  unfold verifyProof
  dsimp only
  rw [if_neg (by simp [sized]), same, if_neg (by rw [pending.guarded]; decide),
    if_neg (by rw [pending.guarded]; decide), if_neg inTime, if_neg (by decide), pending.key,
    pending.challenge, if_neg (by simp)]

/-- Without a challenge no proof is accepted. -/
theorem verify_absent {proof : Option (List UInt8)} {hmacFails : Bool}
    (absent : core.challengeActive = false) :
    (verifyProof cfg hmac proof nowMs hmacFails core).1 ≠ 0 := by
  cases verified : verifyProof cfg hmac proof nowMs hmacFails core
  rcases verifyProof_cases verified with ⟨_, refused, _⟩ | ⟨_, _, _, _, active, _⟩
  · exact refused
  · cases absent.symm.trans active

/-- A query brings no challenge back. -/
theorem query_absent (query : isQuery event = true) (absent : s.core.challengeActive = false)
    (step : Step cfg hmac s event s') : s'.core.challengeActive = false := by
  by_contra active
  rw [Bool.not_eq_false] at active
  rcases step_challenge step active with ⟨nowMs, nonce, rfl, _⟩ | ⟨before, _⟩
  · cases query
  · cases absent.symm.trans before

theorem queries_absent (absent : s.core.challengeActive = false)
    (run : Run (Step cfg hmac) s calls s') (queries : ∀ call ∈ calls, isQuery call = true) :
    s'.core.challengeActive = false :=
  run.invariant_of (fun s => s.core.challengeActive = false) absent queries
    fun _ _ _ absent query step => query_absent query absent step

/-- With no session alive, queries change nothing. -/
theorem queries_idle (idle : s.core.sessionActive = false)
    (run : Run (Step cfg hmac) s calls s') (queries : ∀ call ∈ calls, isQuery call = true) :
    s'.core = s.core := by
  refine run.invariant_of (fun t => t.core = s.core) rfl queries ?_
  intro before event after' same query step
  obtain ⟨nowMs, timed⟩ := query_time query
  rcases query_cases query timed step with ⟨_, active, _⟩ | ⟨kept, _⟩ | ⟨active, _⟩
  · rw [same] at active
    cases idle.symm.trans active
  · exact kept.trans same
  · rw [same] at active
    cases idle.symm.trans active

/-- The session that has timed out takes the challenge with it, and the proof
finds none. -/
theorem verify_expired {key : Vector UInt8 32} (pending : Pending nonce key proveMs core)
    (active : core.sessionActive = true) (late : core.sessionDeadlineMs ≤ proveMs) :
    (verifyProof cfg hmac (some (expectedProof hmac key nonce)) proveMs false core).1 ≠ 0 := by
  have sized : (expectedProof hmac key nonce).length = proofSize := by
    simp [expectedProof, proofSize]
  have dropped : expireSession proveMs core = clearChallenge (clearSession core) := by
    unfold expireSession
    rw [if_neg]
    rw [active]
    simp only [Bool.true_eq_false, false_or]
    omega
  have guarded : (clearChallenge (clearSession core)).state = .stateProtected := pending.guarded
  have absent : (clearChallenge (clearSession core)).challengeActive = false := rfl
  unfold verifyProof
  dsimp only
  rw [if_neg (by simp [sized]), dropped, if_neg (by rw [guarded]; decide),
    if_neg (by rw [guarded]; decide), if_pos (Or.inl absent)]
  simp

/-- With a session alive, the proof succeeds iff no call finds the session
expired. By induction on the calls in between. -/
theorem verify_live_iff {key : Vector UInt8 32} (pending : Pending nonce key proveMs s.core)
    (active : s.core.sessionActive = true) (run : Run (Step cfg hmac) s calls s')
    (queries : ∀ call ∈ calls, isQuery call = true) :
    (verifyProof cfg hmac (some (expectedProof hmac key nonce)) proveMs false s'.core).1 = 0 ↔
      OutlastsFrom cfg s.core.sessionDeadlineMs calls proveMs := by
  induction calls generalizing s with
  | nil =>
    rw [run.nil_inv]
    constructor
    · intro accepted
      by_contra late
      exact verify_expired pending active (Int.not_lt.mp late) accepted
    · intro live
      rw [verify_pending pending (Or.inr live)]
  | cons call rest ih =>
    obtain ⟨middle, step, run'⟩ := run.cons_inv
    have query := queries call List.mem_cons_self
    have queries' : ∀ call ∈ rest, isQuery call = true :=
      fun call member => queries call (List.mem_cons_of_mem _ member)
    obtain ⟨nowMs, timed⟩ := query_time query
    rcases query_cases query timed step with ⟨dropped, _, late⟩ | ⟨_, idle⟩ | ⟨_, live, moved⟩
    · constructor
      · intro accepted
        have absent := queries_absent (by rw [dropped]; rfl) run' queries'
        exact absurd accepted (verify_absent absent)
      · intro outlasts
        have early := outlasts.1 nowMs timed
        omega
    · cases active.symm.trans idle
    · have left := moved pending.guarded
      have pending' : Pending nonce key proveMs middle.core := by
        rw [left]
        exact pending.of_deadline
      have rest' := ih pending' (by rw [left]; exact active) run' queries'
      rw [left] at rest'
      rw [rest']
      constructor
      · intro outlasts
        refine ⟨fun reading read => ?_, outlasts⟩
        rw [timed] at read
        cases read
        exact live
      · intro outlasts
        exact outlasts.2

/-! ## The session that is opened -/

/-- An open session that lasts until `limit` at least. -/
structure Live (limit : Int) (core : State) : Prop where
  guarded : core.state = .stateProtected
  active : core.sessionActive = true
  lasts : limit ≤ core.sessionDeadlineMs

theorem Live.expire (live : Live limit core) (early : nowMs < limit) :
    expireSession nowMs core = core := by
  have lasts := live.lasts
  exact expireSession_of_alive (by omega)

theorem Live.refused (live : Live limit core) (early : nowMs < limit)
    (refused : Refused nowMs core core') : Live limit core' := by
  rcases refused with rfl | rfl | rfl
  · exact live
  · rw [live.expire early]
    exact live
  · rw [live.expire early]
    exact ⟨live.guarded, live.active, live.lasts⟩

/-- A call that ends no session, at a reading inside the window. It may move
the deadline, but only to a later time. -/
theorem Live.step (live : Live (proveMs + (cfg.authSessionTimeout : Int) * 1000) s.core)
    (agree : FlagsAgree s.core) (open' : event.endsSession = false)
    (within : ∀ reading, event.time = some reading →
      proveMs ≤ reading ∧ reading < proveMs + (cfg.authSessionTimeout : Int) * 1000)
    (step : Step cfg hmac s event s') :
    Live (proveMs + (cfg.authSessionTimeout : Int) * 1000) s'.core := by
  cases event with
  | getState reading answer | isAuthenticated reading answer =>
    exact live.refused (within reading rfl).2 (Or.inr (Or.inl (Prod.ext_iff.mp step.1).2.symm))
  | getInfo reading answer =>
    refine live.refused (within reading rfl).2 (Or.inr (Or.inl ?_))
    rw [← getInfo_core, step.1]
  | generateChallenge nonceLength reading random answer =>
    cases answer with
    | error err => exact live.refused (within reading rfl).2 (generateChallenge_error step.1)
    | ok nonce =>
      obtain ⟨_, _, _, _, left⟩ := generateChallenge_ok step.1
      rw [live.expire (within reading rfl).2] at left
      rw [left]
      exact ⟨live.guarded, live.active, live.lasts⟩
  | verifyProof proof reading hmacFails answer =>
    rcases verifyProof_cases step.1 with ⟨refused, _⟩ | ⟨_, _, _, _, _, _, outcome⟩
    · exact live.refused (within reading rfl).2 refused
    · exfalso
      rcases outcome with ⟨rfl, _⟩ | ⟨rfl, _⟩ | ⟨rfl, _⟩
      · cases open'
      · cases open'
      · cases open'
  | refreshSession reading answer =>
    rcases refreshSession_cases step.1 with ⟨_, expired, _⟩ | ⟨_, guarded, active, _, left⟩
    · exact live.refused (within reading rfl).2 (Or.inr (Or.inl expired))
    · have later := (within reading rfl).1
      rw [left]
      refine ⟨guarded, active, ?_⟩
      dsimp only
      omega
  | setCredential credential reading saveErr answer =>
    rcases setCredential_cases step with ⟨_, same | expired, _⟩ | ⟨rfl, _⟩
    · exact live.refused (within reading rfl).2 (Or.inl same)
    · exact live.refused (within reading rfl).2 (Or.inr (Or.inl expired))
    · cases open'
  | lock | transportReset => cases open'
  | settingsSet name length readCb answer =>
    rcases settingsSet_cases step.1 with ⟨_, _, same⟩ | ⟨matching, _⟩ | ⟨matching, _⟩
    · rw [same]
      exact live
    · cases matching.symm.trans open'
    · cases matching.symm.trans open'
  | settingsCommit =>
    rw [step.1, (settingsCommit_persistent agree).2.2.2 live.guarded]
    exact live

theorem Live.authenticated (live : Live limit core) (early : nowMs < limit) :
    (isAuthenticated nowMs core).1 = true := by
  unfold isAuthenticated
  dsimp only
  rw [live.expire early, live.guarded, live.active]
  decide

/-- The window of the new session: nothing but an event that ends sessions
closes it. -/
theorem live_run (live : Live (proveMs + (cfg.authSessionTimeout : Int) * 1000) s.core)
    (agree : FlagsAgree s.core) (run : Run (Step cfg hmac) s later s')
    (open' : ∀ event ∈ later, event.endsSession = false)
    (within : ∀ reading ∈ later.filterMap Event.time,
      proveMs ≤ reading ∧ reading < proveMs + (cfg.authSessionTimeout : Int) * 1000) :
    Live (proveMs + (cfg.authSessionTimeout : Int) * 1000) s'.core := by
  have allowed : ∀ event ∈ later, event.endsSession = false ∧ ∀ reading,
      event.time = some reading → proveMs ≤ reading ∧
        reading < proveMs + (cfg.authSessionTimeout : Int) * 1000 := by
    intro event member
    exact ⟨open' event member, fun reading timed =>
      within reading (List.mem_filterMap.mpr ⟨event, member, timed⟩)⟩
  have both := run.invariant_of (fun s => Live _ s.core ∧ FlagsAgree s.core) ⟨live, agree⟩ allowed
    fun _ _ _ before allowed step => ⟨before.1.step before.2 allowed.1 allowed.2 step,
      step_flags step before.2⟩
  exact both.1

/-! ## Completeness -/

/-- The proof is accepted, the failures are forgotten, and the session
stays open for its whole window unless an event ends it. -/
def LogsIn (cfg : Config) (hmac : Hmac) (opened : System) (proveMs result : Int) : Prop :=
  result = 0 ∧ opened.core.failureCount = 0 ∧
    ∀ later s nowMs, Run (Step cfg hmac) opened later s →
      (∀ event ∈ later, event.endsSession = false) →
      (∀ reading ∈ later.filterMap Event.time, proveMs ≤ reading ∧ reading ≤ nowMs) →
      proveMs ≤ nowMs → nowMs < proveMs + (cfg.authSessionTimeout : Int) * 1000 →
      (isAuthenticated nowMs s.core).1 = true

/-- A challenge answered correctly and in time, with queries alone in between,
logs in iff no session that was alive when it was issued is found expired on
the way. -/
theorem login_completes_iff
    (reached : Run (Step cfg hmac) (.boot settings) past s)
    (issue : Step cfg hmac s (.generateChallenge (some nonceSize) issueMs random (.ok nonce))
      issued)
    (between : Run (Step cfg hmac) issued calls answered)
    (queries : ∀ call ∈ calls, isQuery call = true)
    (inTime : proveMs < issueMs + (cfg.authChallengeTimeout : Int) * 1000)
    (prove : Step cfg hmac answered (.verifyProof
      (some (expectedProof hmac s.core.credential.key nonce)) proveMs false result) opened) :
    LogsIn cfg hmac opened proveMs result ↔ Outlasts cfg s.core issueMs calls proveMs := by
  obtain ⟨_, _, guarded, _, left⟩ := generateChallenge_ok issue.1
  have pending : Pending nonce s.core.credential.key proveMs issued.core := by
    rw [left]
    exact ⟨by simpa [clearChallenge] using guarded, rfl, rfl, by simp [clearChallenge], inTime⟩
  have accepted_iff : result = 0 ↔ Outlasts cfg s.core issueMs calls proveMs := by
    have answer : (verifyProof cfg hmac (some (expectedProof hmac s.core.credential.key nonce))
        proveMs false answered.core).1 = result := congrArg Prod.fst prove.1
    rw [← answer]
    by_cases alive : s.core.sessionActive = true ∧ issueMs < s.core.sessionDeadlineMs
    · obtain ⟨active, live⟩ := alive
      rw [expireSession_of_alive live] at left
      have sameDeadline : issued.core.sessionDeadlineMs = s.core.sessionDeadlineMs := by
        rw [left]
        rfl
      rw [verify_live_iff pending (by rw [left]; exact active) between queries, sameDeadline]
      constructor
      · intro outlasts
        exact Or.inr (Or.inr outlasts)
      · intro outlasts
        rcases outlasts with idle | late | outlasts
        · cases active.symm.trans idle
        · omega
        · exact outlasts
    · have idle : issued.core.sessionActive = false := by
        rw [left]
        rcases expireSession_cases issueMs s.core with ⟨same, unexpired⟩ | ⟨dropped, _⟩
        · rw [same]
          rcases unexpired with idle | live
          · exact idle
          · by_contra active
            exact alive ⟨by simpa [clearChallenge] using active, live⟩
        · rw [dropped]
          rfl
      have same := queries_idle idle between queries
      rw [same, verify_pending pending (Or.inl idle)]
      refine ⟨fun _ => ?_, fun _ => rfl⟩
      by_cases active : s.core.sessionActive = true
      · exact Or.inr (Or.inl (Int.not_lt.mp fun live => alive ⟨active, live⟩))
      · exact Or.inl (by simpa using active)
  rw [← accepted_iff]
  constructor
  · intro logsIn
    exact logsIn.1
  · intro accepted
    have agree := step_flags prove (run_flags (((reached.snoc issue).append between)))
    rcases verifyProof_cases prove.1 with ⟨_, refused, _⟩ | ⟨_, _, _, guarded', _, _, outcome⟩
    · exact absurd accepted refused
    · rcases outcome with ⟨failed, _⟩ | ⟨failed, _⟩ | ⟨_, _, _, left'⟩
      · cases failed.symm.trans accepted
      · cases failed.symm.trans accepted
      · have live : Live (proveMs + (cfg.authSessionTimeout : Int) * 1000) opened.core := by
          rw [left']
          exact ⟨guarded', rfl, Int.le_refl _⟩
        refine ⟨accepted, by rw [left']; rfl, ?_⟩
        intro later s' nowMs run open' readings early inside
        have stays := live_run live agree run open' fun reading member => by
          have bounds := readings reading member
          omega
        exact stays.authenticated inside

/-! ## A login that times out, and one that does not -/

def sampleNonce : Nonce := Vector.replicate 16 5

def sampleProof : List UInt8 := expectedProof sampleHmac sampleCredential.key sampleNonce

/-- A session until 302000. -/
def sampleLogin : List Event :=
  [.setCredential (some sampleCredential) 0 0 0,
    .generateChallenge (some nonceSize) 1000 (some sampleNonce) (.ok sampleNonce),
    .verifyProof (some sampleProof) 2000 false 0]

/-- A keyboard with a session, opened by the sample login. -/
def loggedIn : System :=
  (execute (next .default sampleHmac) (.boot .empty) sampleLogin).get (by decide)

/-- A second nonce, issued while the session is alive. -/
def challenged : System :=
  ⟨(generateChallenge .default (some nonceSize) 301000 (some sampleNonce) loggedIn.core).2,
    loggedIn.settings⟩

theorem loggedIn_run : Run (Step .default sampleHmac) (.boot .empty) sampleLogin loggedIn :=
  run_of_next .default sampleHmac (.boot .empty) sampleLogin (by decide)

theorem challenged_step : Step .default sampleHmac loggedIn
    (.generateChallenge (some nonceSize) 301000 (some sampleNonce) (.ok sampleNonce)) challenged :=
  ⟨Prod.ext (by decide) rfl, rfl⟩

/-- One second after its challenge, the right proof finds none. -/
theorem lapsing_login_fails :
    Run (Step .default sampleHmac) (.boot .empty) sampleLogin loggedIn ∧
      loggedIn.core.state = .stateProtected ∧
      Step .default sampleHmac loggedIn
        (.generateChallenge (some nonceSize) 301000 (some sampleNonce) (.ok sampleNonce))
        challenged ∧
      (302000 : Int) < 301000 + (Config.default.authChallengeTimeout : Int) * 1000 ∧
      (verifyProof .default sampleHmac
        (some (expectedProof sampleHmac loggedIn.core.credential.key sampleNonce)) 302000 false
        challenged.core).1 = -enoent :=
  ⟨loggedIn_run, by decide, challenged_step, by decide, by decide⟩

/-- The session is extended meanwhile. -/
def refreshed : System :=
  ⟨(refreshSession .default 301500 challenged.core).2, challenged.settings⟩

/-- The proof for the second nonce comes at the end of the session it was
issued in. -/
def reopened : System :=
  ⟨(verifyProof .default sampleHmac (some sampleProof) 302000 false refreshed.core).2,
    refreshed.settings⟩

/-- The challenge is issued at 301000 in a session that ends at 302000. A
refresh at 301500 carries it past that, so the proof at 302000 logs in. -/
theorem login_completes_iff_sample : (isAuthenticated 601999 reopened.core).1 = true := by
  have refresh : Step .default sampleHmac challenged (.refreshSession 301500 0) refreshed :=
    ⟨Prod.ext (by decide) rfl, rfl⟩
  have prove : Step .default sampleHmac refreshed (.verifyProof
      (some (expectedProof sampleHmac loggedIn.core.credential.key sampleNonce)) 302000 false 0)
      reopened :=
    ⟨Prod.ext (by decide) rfl, rfl⟩
  have outlasts : Outlasts .default loggedIn.core 301000 [.refreshSession 301500 0] 302000 := by
    refine Or.inr (Or.inr ⟨fun reading read => ?_, ?_⟩)
    · cases read
      decide
    · change (302000 : Int) < 301500 + 300 * 1000
      decide
  have logsIn := (login_completes_iff loggedIn_run challenged_step (Run.single refresh)
    (by decide) (by decide) prove).mpr outlasts
  exact logsIn.2.2 [] reopened 601999 (Run.nil _) (by simp) (by simp) (by decide) (by decide)

end RuntimeMacro.Guarantees.LoginCompleteness
