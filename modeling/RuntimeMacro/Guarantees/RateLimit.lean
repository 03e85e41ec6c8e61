import RuntimeMacro.Source.AuthPersistent

/-!
# Online guessing is rate limited

runtime_macro_auth.c:214-229,265-375; docs/AUTHENTICATION_PROTOCOL.md:146-156.
`verify_proof` never reads the cooldown. A wrong proof is still paced, because
it needs an outstanding challenge, and a challenge is outstanding only when the
cooldown was over at some earlier reading of the run.
-/
namespace RuntimeMacro.Guarantees.RateLimit
open Foundations.Runs Source Source.AuthCore

variable {cfg : Config} {hmac : Hmac} {settings : Settings} {past : List Event} {s s' : System}
  {event : Event}

/-- The time of a `verify_proof` that returned -EACCES. -/
def failureTime : Event → Option Int
  | .verifyProof _ nowMs _ result => if result = -eacces then some nowMs else none
  | _ => none

/-- The readings at which a proof failed, oldest first. -/
def failureTimes (events : List Event) : List Int := events.filterMap failureTime

/-- The calls that forgive earlier failures. -/
def forgives : Event → Bool
  | .transportReset => true
  | .verifyProof _ _ _ result => result == 0
  | .setCredential _ _ _ result => result == 0
  | .settingsSet name _ _ _ => nameMatches name
  | _ => false

/-- The pause owed after a failure that `earlier` failures precede. -/
def spacing (earlier : Nat) : Int := 1000 * (min (2 ^ earlier) 8 : Nat)

/-- Each failure comes at least the cooldown of its predecessor later. -/
def Spaced (times : List Int) : Prop :=
  ∀ (n : Nat) (first second : Int), times[n]? = some first → times[n + 1]? = some second →
    spacing n ≤ second - first

/-- One more failure, at least the cooldown of the last one later. -/
theorem Spaced.snoc {times : List Int} {now : Int} (spaced : Spaced times)
    (waited : ∀ last ∈ times.getLast?, spacing (times.length - 1) ≤ now - last) :
    Spaced (times ++ [now]) := by
  intro n first second atFirst atSecond
  rcases Nat.lt_trichotomy (n + 1) times.length with inside | atEnd | outside
  · rw [List.getElem?_append_left (by omega)] at atFirst atSecond
    exact spaced n first second atFirst atSecond
  · rw [List.getElem?_append_left (by omega)] at atFirst
    rw [List.getElem?_append_right (by omega), atEnd, Nat.sub_self] at atSecond
    cases atSecond
    have isLast : first ∈ times.getLast? := by
      rw [List.getLast?_eq_getElem?, ← atEnd]
      exact atFirst
    have pause := waited first isLast
    rw [← atEnd] at pause
    exact pause
  · rw [List.getElem?_eq_none (by simp; omega)] at atSecond
    cases atSecond

/-! ## What one call does to the failure counter -/

/-- The count stops at four, and the cooldown it sets is the one that `spacing`
asks for. -/
theorem recordFailure_spacing (core : State) {earlier : Nat} (nowMs : Int)
    (count : core.failureCount = min earlier failureCountMax) :
    (recordFailure nowMs core).failureCount = min (earlier + 1) failureCountMax ∧
      (recordFailure nowMs core).cooldownDeadlineMs = nowMs + spacing earlier := by
  unfold recordFailure spacing
  rw [count]
  match earlier with
  | 0 | 1 | 2 | 3 => exact ⟨rfl, rfl⟩
  | more + 4 =>
    -- From the fifth failure on both the counter and the pause are saturated.
    have saturated : min (2 ^ (more + 4)) 8 = 8 := by
      have : 2 ^ 4 ≤ 2 ^ (more + 4) := Nat.pow_le_pow_right (by decide) (by omega)
      omega
    have full : min (more + 4) failureCountMax = failureCountMax := by
      unfold failureCountMax
      omega
    have full' : min (more + 4 + 1) failureCountMax = failureCountMax := by
      unfold failureCountMax
      omega
    simp only [full, full', saturated]
    exact ⟨rfl, rfl⟩

/-- A failure was recorded over the outstanding challenge. -/
def FailureRecorded (core : State) (event : Event) (core' : State) : Prop :=
  ∃ proof nowMs hmacFails, event = .verifyProof proof nowMs hmacFails (-eacces) ∧
    core.state = .stateProtected ∧ core.challengeActive = true ∧
    core' = recordFailure nowMs (clearSession (clearChallenge core))

/-- The counter is as it was, or the core asks for no proof. -/
def FailuresKept (core : State) (event : Event) (core' : State) : Prop :=
  failureTime event = none ∧ core'.state = core.state ∧
    ((core'.failureCount = core.failureCount ∧
        core'.cooldownDeadlineMs = core.cooldownDeadlineMs) ∨
      (core.state ≠ .stateProtected ∧ core'.failureCount = 0))

theorem refused_failures {nowMs : Int} {core core' : State} (refused : Refused nowMs core core')
    (silent : failureTime event = none) : FailuresKept core event core' := by
  rcases refused with rfl | rfl | rfl
  · exact ⟨silent, rfl, Or.inl ⟨rfl, rfl⟩⟩
  · exact ⟨silent, expireSession_state _ _, Or.inl ⟨by simp, by simp⟩⟩
  · exact ⟨silent, expireSession_state nowMs core,
      Or.inl ⟨expireSession_failureCount nowMs core, expireSession_cooldownDeadlineMs nowMs core⟩⟩

/-- An event that forgives nothing records a failure, or leaves count and
cooldown as they were. -/
theorem step_failures (step : Step cfg hmac s event s') (agree : FlagsAgree s.core)
    (strict : forgives event = false) :
    FailureRecorded s.core event s'.core ∨ FailuresKept s.core event s'.core := by
  cases event with
  | getState nowMs result =>
    exact Or.inr (refused_failures (Or.inr (Or.inl (Prod.ext_iff.mp step.1).2.symm)) rfl)
  | getInfo nowMs result =>
    have left : s'.core = expireSession nowMs s.core := by
      rw [← getInfo_core, step.1]
    exact Or.inr (refused_failures (Or.inr (Or.inl left)) rfl)
  | generateChallenge nonceLength nowMs random result =>
    cases result with
    | error err => exact Or.inr (refused_failures (generateChallenge_error step.1) rfl)
    | ok nonce =>
      obtain ⟨_, _, _, _, issued⟩ := generateChallenge_ok step.1
      rw [issued]
      exact Or.inr ⟨rfl, expireSession_state nowMs s.core,
        Or.inl ⟨expireSession_failureCount nowMs s.core,
          expireSession_cooldownDeadlineMs nowMs s.core⟩⟩
  | verifyProof proof nowMs hmacFails result =>
    rcases verifyProof_cases step.1 with ⟨refused, _, _, noAccess⟩ | checked
    · exact Or.inr (refused_failures refused (by simp [failureTime, noAccess]))
    · obtain ⟨bytes, rfl, _, state, active, _, outcome⟩ := checked
      rcases outcome with ⟨rfl, _, left⟩ | ⟨rfl, _, _, left⟩ | ⟨rfl, _⟩
      · rw [left]
        exact Or.inr ⟨rfl, rfl, Or.inl ⟨rfl, rfl⟩⟩
      · exact Or.inl ⟨_, nowMs, hmacFails, rfl, state, active, left⟩
      · cases strict
  | isAuthenticated nowMs result =>
    exact Or.inr (refused_failures (Or.inr (Or.inl (Prod.ext_iff.mp step.1).2.symm)) rfl)
  | refreshSession nowMs result =>
    rcases refreshSession_cases step.1 with ⟨_, left, _⟩ | ⟨_, _, _, _, left⟩
    · exact Or.inr (refused_failures (Or.inr (Or.inl left)) rfl)
    · rw [left]
      exact Or.inr ⟨rfl, rfl, Or.inl ⟨rfl, rfl⟩⟩
  | setCredential credential nowMs saveErr result =>
    rcases setCredential_cases step with ⟨_, same | expired, _⟩ | ⟨rfl, _⟩
    · have refused : Refused nowMs s.core s'.core := Or.inl same
      exact Or.inr (refused_failures refused rfl)
    · exact Or.inr (refused_failures (Or.inr (Or.inl expired)) rfl)
    · cases strict
  | lock =>
    rw [step.1]
    exact Or.inr ⟨rfl, rfl, Or.inl ⟨rfl, rfl⟩⟩
  | transportReset => cases strict
  | settingsSet name length readCb result =>
    rcases settingsSet_cases step.1 with ⟨_, _, same⟩ | ⟨matching, _⟩ | ⟨matching, _⟩
    · rw [same]
      exact Or.inr ⟨rfl, rfl, Or.inl ⟨rfl, rfl⟩⟩
    · exact absurd (matching.symm.trans strict) (by decide)
    · exact absurd (matching.symm.trans strict) (by decide)
  | settingsCommit =>
    obtain ⟨state, _, _, guarded⟩ := settingsCommit_persistent agree
    rw [step.1]
    refine Or.inr ⟨rfl, state, ?_⟩
    by_cases mode : s.core.state = .stateProtected
    · rw [guarded mode]
      exact Or.inl ⟨rfl, rfl⟩
    · refine Or.inr ⟨mode, ?_⟩
      unfold FlagsAgree modeOf at agree
      unfold settingsCommit
      cases seen : s.core.settingsSeen <;> cases invalid : s.core.settingsInvalid <;>
        simp_all [setErrorLocked]

/-! ## The pacing invariant -/

/-- What the failures so far have left behind. -/
structure Paced (past : List Event) (s : System) : Prop where
  agree : FlagsAgree s.core
  guarded : failureTimes past ≠ [] → s.core.state = .stateProtected
  count : s.core.failureCount = min (failureTimes past).length failureCountMax
  cooldown : ∀ last ∈ (failureTimes past).getLast?,
    s.core.cooldownDeadlineMs = last + spacing ((failureTimes past).length - 1)
  challenge : s.core.challengeActive = true → s.core.failureCount = 0 ∨
    ∃ reading ∈ past.filterMap Event.time, s.core.cooldownDeadlineMs ≤ reading
  spaced : Spaced (failureTimes past)

theorem failureTimes_snoc (past : List Event) (event : Event) :
    failureTimes (past ++ [event]) = failureTimes past ++ (failureTime event).toList := by
  cases timed : failureTime event <;> simp [failureTimes, timed]

/-- A failure that is recorded came after the cooldown, because `verify_proof`
found a challenge, and none is handed out before. -/
theorem Paced.recorded (paced : Paced past s) (ordered : Nondecreasing (past ++ [event]))
    (step : Step cfg hmac s event s') (recorded : FailureRecorded s.core event s'.core) :
    Paced (past ++ [event]) s' := by
  have agree := step_flags step paced.agree
  obtain ⟨proof, nowMs, hmacFails, rfl, state, active, left⟩ := recorded
  have times : failureTimes (past ++ [.verifyProof proof nowMs hmacFails (-eacces)]) =
      failureTimes past ++ [nowMs] := by
    rw [failureTimes_snoc]
    rfl
  obtain ⟨count, cooldown⟩ :=
    recordFailure_spacing (clearSession (clearChallenge s.core)) nowMs paced.count
  refine ⟨agree, ?_, ?_, ?_, ?_, ?_⟩
  · intro _
    rw [left]
    exact state
  · rw [times, left, count, List.length_append]
    rfl
  · rw [times, left]
    intro last isLast
    have atNow : nowMs = last := by simpa using isLast
    rw [cooldown, atNow, List.length_append]
    rfl
  · intro survived
    rw [left] at survived
    cases survived
  · rw [times]
    refine paced.spaced.snoc ?_
    intro last isLast
    -- The challenge was issued once the cooldown of the last failure was over.
    have deadline := paced.cooldown last isLast
    rcases paced.challenge active with zero | ⟨reading, member, cooled⟩
    · have positive := List.length_pos_of_mem (List.mem_of_mem_getLast? isLast)
      rw [paced.count] at zero
      unfold failureCountMax at zero
      omega
    · have late := ordered.before_last rfl member
      omega

/-- Without a failure there is only the challenge to look at, which is not
issued during the cooldown. -/
theorem Paced.kept (paced : Paced past s) (step : Step cfg hmac s event s')
    (kept : FailuresKept s.core event s'.core) : Paced (past ++ [event]) s' := by
  obtain ⟨silent, state, counter⟩ := kept
  have times : failureTimes (past ++ [event]) = failureTimes past := by
    rw [failureTimes_snoc, silent]
    exact List.append_nil _
  have empty : s.core.state ≠ .stateProtected → failureTimes past = [] := by
    intro unguarded
    by_contra failed
    exact unguarded (paced.guarded failed)
  refine ⟨step_flags step paced.agree, ?_, ?_, ?_, ?_, ?_⟩
  · rw [times, state]
    exact paced.guarded
  · rw [times]
    rcases counter with ⟨same, _⟩ | ⟨unguarded, zero⟩
    · rw [same]
      exact paced.count
    · rw [zero, empty unguarded]
      rfl
  · rw [times]
    intro last isLast
    rcases counter with ⟨_, same⟩ | ⟨unguarded, _⟩
    · rw [same]
      exact paced.cooldown last isLast
    · rw [empty unguarded] at isLast
      cases isLast
  · intro active
    rcases counter with ⟨sameCount, sameDeadline⟩ | ⟨_, zero⟩
    · rw [sameCount, sameDeadline, List.filterMap_append]
      rcases step_challenge step active with issued | kept
      · obtain ⟨nowMs, nonce, rfl, _, _, cool⟩ := issued
        rcases cool with zero | cooled
        · exact Or.inl zero
        · exact Or.inr ⟨nowMs, by simp [Event.time], cooled⟩
      · rcases paced.challenge kept.1 with zero | ⟨reading, member, cooled⟩
        · exact Or.inl zero
        · exact Or.inr ⟨reading, List.mem_append_left _ member, cooled⟩
    · exact Or.inl zero
  · rw [times]
    exact paced.spaced

/-- Readings in order, and no call that forgives earlier failures. -/
def Strict (events : List Event) : Prop :=
  Nondecreasing events ∧ ∀ event ∈ events, forgives event = false

theorem Strict.front (strict : Strict (past ++ [event])) : Strict past :=
  ⟨strict.1.front, fun earlier member => strict.2 earlier (List.mem_append_left _ member)⟩

theorem run_paced {start final : System} {events : List Event} (agree : FlagsAgree start.core)
    (unfailed : start.core.failureCount = 0) (run : Run (Step cfg hmac) start events final)
    (strict : Strict events) : Paced events final := by
  refine Run.history_of run _ _ strict (fun _ _ => Strict.front) ?_ ?_
  · refine ⟨agree, ?_, unfailed, ?_, fun _ => Or.inl unfailed, ?_⟩
    · exact fun failed => absurd rfl failed
    · intro last isLast
      cases isLast
    · intro n first second atFirst
      simp [failureTimes] at atFirst
  · intro past s event s' strict _ paced step
    rcases step_failures step paced.agree (strict.2 event (by simp)) with recorded | kept
    · exact paced.recorded strict.1 step recorded
    · exact paced.kept step kept

/-- From a reachable core that has recorded no failure, the wrong proofs of a
run that nothing forgives keep the doubling distance: at least 1, 2, 4 and from
then on 8 seconds. -/
theorem failures_spaced {before events : List Event} {start final : System}
    (reached : Run (Step cfg hmac) (.boot settings) before start)
    (unfailed : start.core.failureCount = 0) (run : Run (Step cfg hmac) start events final)
    (ordered : Nondecreasing events) (strict : ∀ event ∈ events, forgives event = false) :
    ∀ (n : Nat) (first second : Int), (failureTimes events)[n]? = some first →
      (failureTimes events)[n + 1]? = some second →
      1000 * (min (2 ^ n) 8 : Nat) ≤ second - first :=
  (run_paced (run_flags reached) unfailed run ⟨ordered, strict⟩).spaced

def sampleSetup : List Event := [.setCredential (some sampleCredential) 0 0 0]

/-- Two wrong proofs as fast as the device lets them be made; a LOCK in between
does not help. -/
def sampleGuesses : List Event :=
  let nonce : Nonce := Vector.replicate 16 5
  let guess := some (List.replicate 16 0)
  [.generateChallenge (some nonceSize) 10 (some nonce) (.ok nonce),
    .verifyProof guess 20 false (-eacces), .lock,
    .generateChallenge (some nonceSize) 1019 (some nonce) (.error (-eagain)),
    .generateChallenge (some nonceSize) 1020 (some nonce) (.ok nonce),
    .verifyProof guess 1020 false (-eacces)]

/-- The second challenge is refused at 1019 and handed out at 1020, a second
after the first failure. -/
theorem failures_spaced_sample :
    failureTimes sampleGuesses = [20, 1020] ∧ (1000 : Int) ≤ 1020 - 20 := by
  have ordered : Nondecreasing sampleGuesses := by
    unfold Nondecreasing
    decide
  refine ⟨by decide, ?_⟩
  exact failures_spaced (run_of_next .default sampleHmac (.boot .empty) sampleSetup (by decide))
    (by decide) (run_of_next .default sampleHmac _ sampleGuesses (by decide)) ordered (by decide)
    0 20 1020 (by decide) (by decide)

end RuntimeMacro.Guarantees.RateLimit
