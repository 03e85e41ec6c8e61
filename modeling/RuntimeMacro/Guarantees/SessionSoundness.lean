import RuntimeMacro.Source.AuthRuns
import Mathlib.Data.List.Chain

/-!
# Session soundness

runtime_macro_auth.c:205-212,310-402. An authenticated session is accounted for
by the history: a login that answered the last challenge in time under the key
still in use, and refreshes none of which came late. The account is rebuilt
event by event from `step_challenge` and `step_session`.
-/
namespace RuntimeMacro.Guarantees.SessionSoundness
open Foundations.Runs Source Source.AuthCore

variable {cfg : Config} {hmac : Hmac} {settings : Settings} {past : List Event} {s : System}

/-! ## The outstanding challenge -/

/-- A challenge and the events around its issue. -/
structure IssuedChallenge where
  earlier : List Event
  issuedAt : Int
  nonce : Nonce
  pending : List Event

namespace IssuedChallenge

/-- The history up to now, with the challenge in its place. -/
def history (issue : IssuedChallenge) : List Event :=
  issue.earlier ++ .generateChallenge (some nonceSize) issue.issuedAt (some issue.nonce)
    (.ok issue.nonce) :: issue.pending

/-- No other challenge was issued and no HMAC check was made after the
issue. -/
def Unused (issue : IssuedChallenge) : Prop :=
  ∀ event ∈ issue.pending, event.issuesChallenge = false ∧ event.checksProof = false

end IssuedChallenge

/-- A challenge that this history issued and no later event has used, ended or
replaced. -/
structure Outstanding (cfg : Config) (past : List Event) (core : State)
    (issue : IssuedChallenge) : Prop where
  history : past = issue.history
  unused : issue.Unused
  nonce : core.challenge = issue.nonce
  deadline : core.challengeDeadlineMs = issue.issuedAt + (cfg.authChallengeTimeout : Int) * 1000

theorem Outstanding.kept {core : State} {issue : IssuedChallenge} {event : Event}
    {s' : State} (outstanding : Outstanding cfg past core issue)
    (kept : ChallengeKept core event s') :
    Outstanding cfg (past ++ [event]) s' { issue with pending := issue.pending ++ [event] } := by
  obtain ⟨_, sameNonce, sameDeadline, issues, checks⟩ := kept
  refine ⟨?_, ?_, sameNonce.trans outstanding.nonce, sameDeadline.trans outstanding.deadline⟩
  · rw [outstanding.history]
    simp [IssuedChallenge.history]
  · intro later member
    rcases List.mem_append.mp member with old | new
    · exact outstanding.unused later old
    · rw [List.mem_singleton.mp new]
      exact ⟨issues, checks⟩

/-- An active challenge has been issued, and is still outstanding. -/
def ChallengeAccounted (cfg : Config) (past : List Event) (s : System) : Prop :=
  s.core.challengeActive = true → ∃ issue, Outstanding cfg past s.core issue

theorem challenge_accounted (run : Run (Step cfg hmac) (.boot settings) past s) :
    ChallengeAccounted cfg past s := by
  refine Run.history run _ ?_ ?_
  · intro active
    cases active
  intro past s event s' _ accounted step active
  rcases step_challenge step active with issued | kept
  · obtain ⟨nowMs, nonce, rfl, sameNonce, deadline, _⟩ := issued
    exact ⟨⟨past, nowMs, nonce, []⟩, rfl, by simp [IssuedChallenge.Unused], sameNonce, deadline⟩
  · obtain ⟨issue, outstanding⟩ := accounted kept.1
    exact ⟨_, outstanding.kept kept⟩

/-- The nonce of an HMAC check is one issued before it. -/
theorem checked_nonce_issued {event : Event} {s' : System}
    (run : Run (Step cfg hmac) (.boot settings) past s) (step : Step cfg hmac s event s')
    (checks : event.checksProof = true) : s.core.challenge ∈ past.filterMap Event.issuedNonce := by
  cases event with
  | verifyProof proof nowMs hmacFails result =>
    rcases verifyProof_cases step.1 with ⟨_, nonzero, noIo, noAccess⟩ | ⟨_, _, _, _, active, _⟩
    · simp [Event.checksProof, nonzero, noIo, noAccess] at checks
    · obtain ⟨issue, outstanding⟩ := challenge_accounted run active
      rw [outstanding.nonce, outstanding.history]
      simp [IssuedChallenge.history, Event.issuedNonce]
  | _ => cases checks

/-! ## The session -/

/-- A login, with the events since. -/
structure Login where
  issue : IssuedChallenge
  proof : List UInt8
  loginAt : Int
  since : List Event

namespace Login

/-- The history up to now, with the login in its place. -/
def history (login : Login) : List Event :=
  login.issue.history ++ .verifyProof (some login.proof) login.loginAt false 0 :: login.since

/-- The login and the successful refreshes after it. -/
def readings (login : Login) : List Int :=
  login.loginAt :: login.since.filterMap Event.refreshTime

/-- The same login one event later. -/
def extend (login : Login) (event : Event) : Login :=
  { login with since := login.since ++ [event] }

theorem extend_readings (login : Login) (event : Event) :
    (login.extend event).readings = login.readings ++ event.refreshTime.toList := by
  cases timed : event.refreshTime <;> simp [extend, readings, timed]

end Login

/-- Two readings less than a session window apart. -/
def SessionGap (cfg : Config) (earlier later : Int) : Prop :=
  later - earlier < (cfg.authSessionTimeout : Int) * 1000

/-- The session alive in `core` is the one `login` opened. -/
structure Accounts (cfg : Config) (hmac : Hmac) (settings : Settings) (past : List Event)
    (core : State) (login : Login) : Prop where
  history : past = login.history
  unused : login.issue.Unused
  inTime : login.loginAt - login.issue.issuedAt < (cfg.authChallengeTimeout : Int) * 1000
  checked : ∃ before, Run (Step cfg hmac) (.boot settings) login.issue.history before ∧
    before.core.challenge = login.issue.nonce ∧ before.core.credential = core.credential
  proved : expectedProof hmac core.credential.key login.issue.nonce = login.proof
  alive : ∀ event ∈ login.since, event.endsSession = false
  gaps : login.readings.IsChain (SessionGap cfg)
  deadline : ∃ last ∈ login.readings.getLast?,
    core.sessionDeadlineMs = last + (cfg.authSessionTimeout : Int) * 1000
  state : core.state = .stateProtected

/-- The proof that has opened the session was for a challenge that is accounted
for, and that was outstanding at its reading. -/
theorem Accounts.opened {event : Event} {s' : System}
    (run : Run (Step cfg hmac) (.boot settings) past s)
    (opened : SessionOpened cfg hmac s.core event s'.core) :
    ∃ login, Accounts cfg hmac settings (past ++ [event]) s'.core login := by
  obtain ⟨proof, nowMs, rfl, active, inTime, agrees, credential, state, deadline⟩ := opened
  obtain ⟨issue, outstanding⟩ := challenge_accounted run active
  have historyEq := outstanding.history
  refine ⟨⟨issue, proof, nowMs, []⟩, ?_, outstanding.unused, ?_, ?_, ?_, by simp, ?_, ?_, state⟩
  · rw [historyEq]
    rfl
  · rw [outstanding.deadline] at inTime
    simp only
    omega
  · exact ⟨s, historyEq ▸ run, outstanding.nonce, credential.symm⟩
  · rw [credential, ← outstanding.nonce]
    exact agrees
  · simp [Login.readings]
  · exact ⟨nowMs, by simp [Login.readings], deadline⟩

/-- An event that keeps the session uses it or not. A use is at most a session
window behind the last one. -/
theorem Accounts.kept {core : State} {login : Login} {event : Event} {s' : State}
    (accounts : Accounts cfg hmac settings past core login)
    (kept : SessionKept cfg core event s') :
    Accounts cfg hmac settings (past ++ [event]) s' (login.extend event) := by
  obtain ⟨_, credential, state, keeps, moved⟩ := kept
  obtain ⟨last, isLast, deadline⟩ := accounts.deadline
  have extended := login.extend_readings event
  refine ⟨?_, accounts.unused, accounts.inTime, ?_, ?_, ?_, ?_, ?_, state accounts.state⟩
  · rw [accounts.history]
    simp [Login.history, Login.extend]
  · obtain ⟨before, run, sameNonce, sameCredential⟩ := accounts.checked
    exact ⟨before, run, sameNonce, sameCredential.trans credential.symm⟩
  · rw [credential]
    exact accounts.proved
  · intro later member
    rcases List.mem_append.mp member with old | new
    · exact accounts.alive later old
    · rw [List.mem_singleton.mp new]
      exact keeps
  · rw [extended]
    rcases moved with ⟨nowMs, rfl, alive, _⟩ | ⟨silent, _⟩
    · -- A refresh in time closes a gap shorter than the timeout.
      refine accounts.gaps.append (by simp [Event.refreshTime]) ?_
      intro earlier isEarlier later isLater
      have latest : earlier = last := Option.mem_unique isEarlier isLast
      have now : nowMs = later := by simpa [Event.refreshTime] using isLater
      unfold SessionGap
      omega
    · rw [silent]
      simpa using accounts.gaps
  · rw [extended]
    rcases moved with ⟨nowMs, rfl, _, renewed⟩ | ⟨silent, same⟩
    · exact ⟨nowMs, by simp [Event.refreshTime], renewed⟩
    · rw [silent, same]
      exact ⟨last, by simpa using isLast, deadline⟩

/-- An active session has a login that accounts for it. -/
def SessionAccounted (cfg : Config) (hmac : Hmac) (settings : Settings) (past : List Event)
    (s : System) : Prop :=
  s.core.sessionActive = true → ∃ login, Accounts cfg hmac settings past s.core login

theorem session_accounted (run : Run (Step cfg hmac) (.boot settings) past s) :
    SessionAccounted cfg hmac settings past s := by
  refine Run.history run _ ?_ ?_
  · intro active
    cases active
  intro past s event s' run accounted step active
  rcases step_session step active with opened | kept
  · exact Accounts.opened run opened
  · obtain ⟨login, accounts⟩ := accounted kept.1
    exact ⟨_, accounts.kept kept⟩

/-! ## The guarantee -/

theorem isAuthenticated_true {now : Int} {core core' : State}
    (authenticated : isAuthenticated now core = (true, core')) :
    core' = core ∧ core.sessionActive = true ∧ now < core.sessionDeadlineMs := by
  unfold isAuthenticated at authenticated
  simp only [Prod.mk.injEq, Bool.and_eq_true] at authenticated
  obtain ⟨⟨_, active⟩, rfl⟩ := authenticated
  obtain ⟨same, alive⟩ := expireSession_of_session active
  rw [same] at active ⊢
  exact ⟨rfl, active, alive⟩

theorem Accounts.ordered {core : State} {login : Login} {now : Int} {result : Bool}
    (accounts : Accounts cfg hmac settings past core login)
    (ordered : Nondecreasing (past ++ [.isAuthenticated now result])) :
    login.issue.issuedAt ≤ login.loginAt ∧ login.loginAt ≤ now := by
  rw [accounts.history] at ordered
  simp only [Login.history, IssuedChallenge.history, List.append_assoc, List.cons_append]
    at ordered
  have provedAt : Event.time (.verifyProof (some login.proof) login.loginAt false 0) =
      some login.loginAt := rfl
  have askedAt : Event.time (.isAuthenticated now result) = some now := rfl
  constructor
  · exact ordered.between rfl (by simp) provedAt
  · rw [← List.cons_append, ← List.append_assoc] at ordered
    exact ordered.between provedAt (by simp) askedAt

/-- Whenever `is_authenticated` answers true, the history holds a login in time
over the last challenge, unused until then, under the credential still in use;
nothing after it ended the session, and no two successive uses of the session
are a timeout apart. A nonce value the CSPRNG had not produced before the issue
was in no earlier HMAC check. -/
theorem isAuthenticated_sound {now : Int} {final : System}
    (run : Run (Step cfg hmac) (.boot settings) (past ++ [.isAuthenticated now true]) final)
    (ordered : Nondecreasing (past ++ [.isAuthenticated now true])) :
    ∃ login : Login, past = login.history ∧
      login.issue.Unused ∧
      login.issue.issuedAt ≤ login.loginAt ∧
      login.loginAt - login.issue.issuedAt < (cfg.authChallengeTimeout : Int) * 1000 ∧
      login.loginAt ≤ now ∧
      expectedProof hmac final.core.credential.key login.issue.nonce = login.proof ∧
      (∃ before, Run (Step cfg hmac) (.boot settings) login.issue.history before ∧
        before.core.challenge = login.issue.nonce ∧
        before.core.credential = final.core.credential) ∧
      (login.issue.nonce ∉ login.issue.earlier.filterMap Event.issuedNonce →
        ∀ front event back before after, login.issue.earlier = front ++ event :: back →
          event.checksProof = true → Run (Step cfg hmac) (.boot settings) front before →
          Step cfg hmac before event after → before.core.challenge ≠ login.issue.nonce) ∧
      (∀ event ∈ login.since, event.endsSession = false) ∧
      (login.readings ++ [now]).IsChain (SessionGap cfg) := by
  obtain ⟨before, earlier, step⟩ := run.snoc_inv
  obtain ⟨same, active, alive⟩ := isAuthenticated_true step.1
  obtain ⟨login, accounts⟩ := session_accounted earlier active
  obtain ⟨issuedFirst, loggedInFirst⟩ := accounts.ordered ordered
  rw [same]
  refine ⟨login, accounts.history, accounts.unused, issuedFirst, accounts.inTime, loggedInFirst,
    accounts.proved, accounts.checked, ?_, accounts.alive, ?_⟩
  · intro fresh front event back before after split checks runToCheck check repeated
    apply fresh
    have issued := checked_nonce_issued runToCheck check checks
    rw [repeated] at issued
    rw [split, List.filterMap_append]
    exact List.mem_append_left _ issued
  · obtain ⟨last, isLast, deadline⟩ := accounts.deadline
    refine accounts.gaps.append (by simp) ?_
    intro final isFinal later isLater
    have latest : final = last := Option.mem_unique isFinal isLast
    have atNow : now = later := by simpa using isLater
    unfold SessionGap
    omega

/-- A login one millisecond before its challenge ends, and a refresh one before
the session does. -/
def sampleHistory : List Event :=
  let nonce : Nonce := Vector.replicate 16 5
  [.setCredential (some sampleCredential) 0 0 0,
    .generateChallenge (some nonceSize) 1000 (some nonce) (.ok nonce),
    .verifyProof (some (List.replicate 16 7)) 30999 false 0,
    .refreshSession 330998 0]

/-- Asked at the last millisecond of the refreshed session, `is_authenticated`
is true; the login behind it is the one of this history. -/
theorem isAuthenticated_sound_sample :
    ∃ login : Login, sampleHistory = login.history ∧ login.issue.Unused := by
  have ordered : Nondecreasing (sampleHistory ++ [.isAuthenticated 630997 true]) := by
    unfold Nondecreasing
    decide
  obtain ⟨login, history, unused, _⟩ := isAuthenticated_sound
    (run_of_next .default sampleHmac (.boot .empty) _ (by decide)) ordered
  exact ⟨login, history, unused⟩

end RuntimeMacro.Guarantees.SessionSoundness
