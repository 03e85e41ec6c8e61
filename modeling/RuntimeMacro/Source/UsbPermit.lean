import RuntimeMacro.Source.UsbRuns

/-!
# The IN permit

runtime_macro_usb_hid.c:84-149,287-312,329-408. Where the one permit of the IN
endpoint is: in its semaphore, with the work handler, with the endpoint, with a
completion callback or with a reset that reclaims it. Only a reset can give a
second one.
-/
namespace RuntimeMacro.Source.UsbHid
open Foundations.Runs
open AuthCore (Hmac)

/-- The handler has taken the permit, and neither given it back nor left it to
a transfer. -/
def HandlerPhase.holds : HandlerPhase → Bool
  | .idle | .resubmitting | .written _ | .unlocking _ => false
  | _ => true

/-- The handler has marked a transfer that the endpoint has not accepted. -/
def HandlerPhase.marks : HandlerPhase → Bool
  | .marked _ | .withdrawing => true
  | _ => false

theorem HandlerPhase.marks_of_unlocked {phase : HandlerPhase} (unlocked : phase.locked = false) :
    phase.marks = false := by
  cases phase with
  | idle | permitted | resubmitting => rfl
  | _ => cases unlocked

/-- Outside the mutex only the handler that is about to enter has the
permit. -/
theorem HandlerPhase.holds_of_unlocked {phase : HandlerPhase} (unlocked : phase.locked = false)
    (outside : phase ≠ .permitted) : phase.holds = false := by
  cases phase with
  | idle | resubmitting => rfl
  | permitted => exact absurd rfl outside
  | _ => cases unlocked

/-- The endpoint owns the response buffer once more, or no longer: a write is
accepted, a transfer completes, or the bus has passed a boundary. -/
def ownership (outstanding : Nat) : Event → Nat
  | .handler (.write err) => if err = 0 then outstanding + 1 else outstanding
  | .ready _ .complete => outstanding - 1
  | .reset .unflag => 0
  | _ => outstanding

/-- The accepted writes that have neither completed nor ended at a boundary. -/
def outstanding (events : List Event) : Nat := events.foldl ownership 0

theorem outstanding_snoc (past : List Event) (event : Event) :
    outstanding (past ++ [event]) = ownership (outstanding past) event := by
  rw [outstanding, List.foldl_append]
  rfl

/-- `int_in_ready` is called at most once for an accepted write, and not for
one that ended at a boundary. -/
def CompletedOnce (events : List Event) : Prop :=
  ∀ front caller back, events = front ++ .ready caller .complete :: back → 0 < outstanding front

theorem CompletedOnce.front {front back : List Event} (once : CompletedOnce (front ++ back)) :
    CompletedOnce front := by
  intro before caller after split
  refine once before caller (after ++ back) ?_
  rw [split, List.append_assoc, List.cons_append]

/-- The response buffer is written. -/
def Event.writesResponse : Event → Bool
  | .handler (.process _) => true
  | _ => false

/-- A reset that gives the permit back does so while no handler run is on its
way from `k_sem_take` to the mutex and no callback on its way from its
compare-and-swap to `k_sem_give`. -/
def Orderly (s : Transport) (event : Event) : Prop :=
  event = .reset .give → s.handler ≠ .permitted ∧ ∀ caller, s.readies caller ≠ .completed

/-- No ready callback stands between the flag and the permit it gives. -/
def Transport.Quiet (s : Transport) : Prop := ∀ caller, s.readies caller ≠ .completed

/-- A reset has taken the permit from wherever it was and will give it
again. -/
def Transport.Reclaiming (s : Transport) : Prop :=
  ∃ reset statusAfter, s.reset = some reset ∧
    (reset.point = .unflagged statusAfter ∨ reset.point = .emptied statusAfter)

/-- Where the permit is. -/
inductive Permit (s : Transport) (outstanding : Nat) : Prop
  | free (count : s.inSem = 1) (flag : s.inFlight = false) (unowned : outstanding = 0)
      (released : s.handler.holds = false) (quiet : s.Quiet) : Permit s outstanding
  | held (count : s.inSem = 0) (flag : s.inFlight = s.handler.marks) (unowned : outstanding = 0)
      (holds : s.handler.holds = true) (quiet : s.Quiet) : Permit s outstanding
  | sent (count : s.inSem = 0) (flag : s.inFlight = true) (owned : outstanding = 1)
      (released : s.handler.holds = false) (quiet : s.Quiet) : Permit s outstanding
  | completed {caller : Caller} (count : s.inSem = 0) (flag : s.inFlight = false)
      (unowned : outstanding = 0) (released : s.handler.holds = false)
      (completing : s.readies caller = .completed)
      (others : ∀ other, s.readies other = .completed → other = caller) : Permit s outstanding
  | reclaimed (count : s.inSem = 0) (flag : s.inFlight = false) (unowned : outstanding = 0)
      (released : s.handler.holds = false) (quiet : s.Quiet) (reclaiming : s.Reclaiming) :
      Permit s outstanding

variable {cfg : Config} {hmac : Hmac} {settings : Settings} {s s' : Transport}
  {event : Event} {n : Nat} {caller : Caller}

theorem step_txResponse (step : Step cfg hmac s event s') (silent : event.writesResponse = false) :
    s'.txResponse = s.txResponse := by
  cases step with
  | report step => cases step <;> rfl
  | ready step => cases step <;> rfl
  | handler step =>
    cases step with
    | process => cases silent
    | _ => rfl
  | reset step => cases step <;> rfl
  | outside | bind => rfl

/-- A step that neither takes nor gives leaves the permit where it is. -/
theorem Permit.frame (permit : Permit s n) (count : s'.inSem = s.inSem)
    (flag : s'.inFlight = s.inFlight) (holds : s'.handler.holds = s.handler.holds)
    (marks : s'.handler.marks = s.handler.marks)
    (readies : ∀ caller, s'.readies caller = .completed ↔ s.readies caller = .completed)
    (resets : s.Reclaiming → s'.Reclaiming) : Permit s' n := by
  have quiet : s.Quiet → s'.Quiet := fun quiet caller completing =>
    quiet caller ((readies caller).mp completing)
  cases permit with
  | free given unflagged unowned released silent =>
    exact .free (count.trans given) (flag.trans unflagged) unowned (holds.trans released)
      (quiet silent)
  | held taken marked unowned holding silent =>
    exact .held (count.trans taken) (by rw [flag, marks, marked]) unowned (holds.trans holding)
      (quiet silent)
  | sent taken flagged owned released silent =>
    exact .sent (count.trans taken) (flag.trans flagged) owned (holds.trans released)
      (quiet silent)
  | completed taken unflagged unowned released completing others =>
    exact .completed (count.trans taken) (flag.trans unflagged) unowned (holds.trans released)
      ((readies _).mpr completing) fun other same => others other ((readies other).mp same)
  | reclaimed taken unflagged unowned released silent reclaiming =>
    exact .reclaimed (count.trans taken) (flag.trans unflagged) unowned (holds.trans released)
      (quiet silent) (resets reclaiming)

/-- A callback that is not about to give the permit moves on. -/
theorem readying_completed {phase : ReadyPhase} (before : s.readies caller ≠ .completed)
    (after : phase ≠ .completed) (other : Caller) :
    (s.readying caller phase).readies other = .completed ↔ s.readies other = .completed := by
  by_cases same : other = caller
  · subst same
    simp [Transport.readying, before, after]
  · simp [Transport.readying, same]

/-- The permit is with the handler while it holds it. -/
theorem Permit.of_holds (permit : Permit s n) (holds : s.handler.holds = true) :
    s.inSem = 0 ∧ s.inFlight = s.handler.marks ∧ n = 0 ∧ s.Quiet := by
  cases permit with
  | held count flag unowned _ quiet => exact ⟨count, flag, unowned, quiet⟩
  | free _ _ _ released | sent _ _ _ released | completed _ _ _ released
  | reclaimed _ _ _ released => cases released.symm.trans holds

/-- The handler keeps the permit. -/
theorem Permit.keeps {phase next : HandlerPhase} (permit : Permit s n) (here : s.handler = phase)
    (holds : phase.holds = true) (moved : s'.handler = next) (holding : next.holds = true)
    (count : s'.inSem = s.inSem) (flag : s'.inFlight = next.marks)
    (readies : s'.readies = s.readies) : Permit s' n := by
  obtain ⟨taken, _, unowned, quiet⟩ := permit.of_holds (by rw [here]; exact holds)
  refine .held (count.trans taken) (by rw [moved]; exact flag) unowned
    (by rw [moved]; exact holding) ?_
  unfold Transport.Quiet
  rw [readies]
  exact quiet

theorem giveIn_inSem (s : Transport) : s.giveIn.inSem = 1 := by
  unfold Transport.giveIn inSemLimit
  dsimp only
  omega

theorem Permit.report {event : ReportEvent} (permit : Permit s n)
    (step : ReportStep caller s event s') : Permit s' n := by
  cases step <;> exact permit.frame rfl rfl rfl rfl (fun _ => Iff.rfl) id

theorem Permit.ready {event : ReadyEvent} (permit : Permit s n)
    (once : event = .complete → 0 < n) (step : ReadyStep caller s event s') :
    Permit s' (ownership n (.ready caller event)) := by
  cases step with
  | late idle unowned =>
    have owned := once rfl
    cases permit with
    | sent _ flag => cases flag.symm.trans unowned
    | free _ _ none | held _ _ none | completed _ _ none | reclaimed _ _ none => omega
  | complete idle flag =>
    have owned := once rfl
    cases permit with
    | sent taken _ one released quiet =>
      refine .completed taken rfl ?_ released (Function.update_self ..) ?_
      · simp only [ownership]
        omega
      · intro other completing
        by_contra different
        exact quiet other ((Function.update_of_ne different ..).symm.trans completing)
    | free _ _ none | held _ _ none | completed _ _ none | reclaimed _ _ none => omega
  | give completing =>
    cases permit with
    | completed taken flag unowned released at' others =>
      refine .free (giveIn_inSem s) flag unowned released ?_
      intro other still
      by_cases same : other = caller
      · subst same
        simp [Transport.readying] at still
      · have before : s.readies other = .completed := by
          simpa [Transport.readying, Transport.giveIn, same] using still
        exact same ((others other before).trans (others caller completing).symm)
    | free _ _ _ _ quiet | held _ _ _ _ quiet | sent _ _ _ _ quiet | reclaimed _ _ _ _ quiet =>
      exact absurd completing (quiet caller)
  | offline given | online given =>
    exact permit.frame rfl rfl rfl rfl
      (readying_completed (by rw [given]; decide) (by decide)) id
  | submit resubmitting =>
    exact permit.frame rfl rfl rfl rfl
      (readying_completed (s := s.submit _) (by
        change s.readies caller ≠ .completed
        rw [resubmitting]
        decide) (by decide)) id

theorem Permit.handler {event : HandlerEvent} (permit : Permit s n) (guarded : Guarded s)
    (step : HandlerStep cfg hmac s event s') : Permit s' (ownership n (.handler event)) := by
  have same : ∀ {phase next : HandlerPhase} {s' : Transport}, s.handler = phase →
      s'.handler = next → next.holds = phase.holds → next.marks = phase.marks →
      s'.inSem = s.inSem → s'.inFlight = s.inFlight → s'.readies = s.readies →
      s'.reset = s.reset → Permit s' n := by
    intro phase next s' here moved holds marks count flag readies reset
    refine permit.frame count flag (by rw [here, moved, holds]) (by rw [here, moved, marks]) ?_ ?_
    · intro caller
      rw [readies]
    · unfold Transport.Reclaiming
      rw [reset]
      exact id
  cases step with
  | busy => exact permit.frame rfl rfl rfl rfl (fun _ => Iff.rfl) id
  | take idle pending free =>
    cases permit with
    | free count flag unowned _ quiet =>
      exact .held (by simp [Transport.handling, count]) flag unowned rfl quiet
    | held count | sent count | completed count | reclaimed count => exact absurd count free
  | lock here | sampleGeneration here | offline here | online here | purge here | empty here
  | get here | stale here | current here | unbound here | process here =>
    exact same here rfl rfl rfl rfl rfl rfl rfl
  | mark here => exact permit.keeps here rfl rfl rfl rfl rfl rfl
  | written here =>
    obtain ⟨count, flag, unowned, quiet⟩ := permit.of_holds (by rw [here]; rfl)
    rw [here] at flag
    refine .sent count flag ?_ rfl quiet
    simp [ownership, unowned]
  | unwritten here failed =>
    obtain ⟨_, flag, _, _⟩ := permit.of_holds (by rw [here]; rfl)
    rw [here] at flag
    simp only [ownership, if_neg failed]
    exact permit.keeps here rfl rfl rfl rfl flag rfl
  | moved here changed => exact absurd (guarded.stamp _ (by rw [here]; rfl)) changed
  | sent here => exact same here rfl rfl rfl rfl rfl rfl rfl
  | withdraw here => exact permit.keeps here rfl rfl rfl rfl rfl rfl
  | give here =>
    obtain ⟨_, flag, unowned, quiet⟩ := permit.of_holds (by rw [here]; rfl)
    rw [here] at flag
    exact .free (giveIn_inSem s) flag unowned rfl quiet
  | @unlock resubmit here =>
    refine same here rfl ?_ ?_ rfl rfl rfl rfl
    · cases resubmit <;> rfl
    · cases resubmit <;> rfl
  | submit here => exact same here rfl rfl rfl rfl rfl rfl rfl

/-- While a reset reclaims, no transfer is marked. -/
def Unflagged (s : Transport) : Prop := s.Reclaiming → s.inFlight = false

theorem Permit.reset {event : ResetEvent} (permit : Permit s n) (guarded : Guarded s)
    (unflagged : Unflagged s) (orderly : Orderly s (.reset event))
    (step : ResetStep cfg s event s') : Permit s' (ownership n (.reset event)) := by
  have waits : ∀ {reset : Reset} {s' : Transport}, s.reset = some reset →
      (∀ status, reset.point ≠ .unflagged status ∧ reset.point ≠ .emptied status) →
      s'.inSem = s.inSem → s'.inFlight = s.inFlight → s'.handler = s.handler →
      s'.readies = s.readies → Permit s' n := by
    intro reset s' held elsewhere count flag handler readies
    refine permit.frame count flag (by rw [handler]) (by rw [handler]) (fun _ => by rw [readies]) ?_
    rintro ⟨found, status, same, unflagged | emptied⟩
    · rw [held, Option.some.injEq] at same
      exact absurd (same ▸ unflagged) (elsewhere status).1
    · rw [held, Option.some.injEq] at same
      exact absurd (same ▸ emptied) (elsewhere status).2
  cases step with
  | lock free =>
    refine permit.frame rfl rfl rfl rfl (fun _ => Iff.rfl) ?_
    rintro ⟨found, _, same, _⟩
    cases free.1.symm.trans same
  | setOffline held point | advance held point | authReset held point | discard held point
  | purge held point | readStatus held point | keep held point | clear held point
  | publish held point | unlock held point =>
    exact waits held (fun status => by rw [point]; simp) rfl rfl rfl rfl
  | @unflag reset statusAfter held point reclaims =>
    have unlocked := guarded.unlocked held
    have reclaiming : ({ s with inFlight := false }.resetting
        (reset.goes (.unflagged statusAfter))).Reclaiming := ⟨_, statusAfter, rfl, Or.inl rfl⟩
    cases permit with
    | free count _ _ released quiet => exact .free count rfl rfl released quiet
    | held count _ _ holds quiet =>
      exact .held count (HandlerPhase.marks_of_unlocked unlocked).symm rfl holds quiet
    | sent count _ _ released quiet => exact .reclaimed count rfl rfl released quiet reclaiming
    | completed count _ _ released completing others =>
      exact .completed count rfl rfl released completing others
    | reclaimed count _ _ released quiet _ =>
      exact .reclaimed count rfl rfl released quiet reclaiming
  | @empty reset statusAfter held point =>
    have clear := unflagged ⟨reset, statusAfter, held, Or.inl point⟩
    have reclaiming : ({ s with inSem := 0 }.resetting
        (reset.goes (.emptied statusAfter))).Reclaiming := ⟨_, statusAfter, rfl, Or.inr rfl⟩
    cases permit with
    | free _ _ unowned released quiet =>
      exact .reclaimed rfl clear unowned released quiet reclaiming
    | held _ flag unowned holds quiet => exact .held rfl flag unowned holds quiet
    | sent _ flag => cases clear.symm.trans flag
    | completed _ _ unowned released completing others =>
      exact .completed rfl clear unowned released completing others
    | reclaimed _ _ unowned released quiet _ =>
      exact .reclaimed rfl clear unowned released quiet reclaiming
  | @give reset statusAfter held point =>
    obtain ⟨outside, quiet⟩ := orderly rfl
    have clear := unflagged ⟨reset, statusAfter, held, Or.inr point⟩
    have unlocked := guarded.unlocked held
    have released := HandlerPhase.holds_of_unlocked unlocked outside
    cases permit with
    | sent _ flag => cases clear.symm.trans flag
    | held _ _ _ holds => cases released.symm.trans holds
    | free _ _ unowned | completed _ _ unowned | reclaimed _ _ unowned =>
      exact .free (giveIn_inSem s) clear unowned released quiet

theorem Unflagged.step (unflagged : Unflagged s) (guarded : Guarded s)
    (step : Step cfg hmac s event s') : Unflagged s' := by
  have kept : s'.reset = s.reset → (s'.inFlight = s.inFlight ∨ s'.inFlight = false) →
      Unflagged s' := by
    intro reset flag reclaiming
    unfold Transport.Reclaiming at reclaiming
    rw [reset] at reclaiming
    rcases flag with same | clear
    · rw [same]
      exact unflagged reclaiming
    · exact clear
  cases step with
  | report step => cases step <;> exact kept rfl (Or.inl rfl)
  | ready step =>
    cases step with
    | complete => exact kept rfl (Or.inr rfl)
    | _ => exact kept rfl (Or.inl rfl)
  | outside | bind => exact kept rfl (Or.inl rfl)
  | handler step =>
    cases step with
    | mark here =>
      rintro ⟨reset, _, held, _⟩
      have free := guarded.exclusive (by rw [here]; rfl)
      cases free.symm.trans held
    | withdraw => exact kept rfl (Or.inr rfl)
    | _ => exact kept rfl (Or.inl rfl)
  | reset step =>
    have elsewhere : ∀ {reset : Reset}, s'.reset = some reset →
        (∀ status, reset.point ≠ .unflagged status ∧ reset.point ≠ .emptied status) →
        Unflagged s' := by
      intro reset held outside
      rintro ⟨found, status, same, point | point⟩
      · rw [held, Option.some.injEq] at same
        exact absurd (same ▸ point) (outside status).1
      · rw [held, Option.some.injEq] at same
        exact absurd (same ▸ point) (outside status).2
    cases step with
    | unflag => exact fun _ => rfl
    | empty held point => exact fun _ => unflagged ⟨_, _, held, Or.inl point⟩
    | unlock =>
      rintro ⟨_, _, held, _⟩
      cases held
    | _ => exact elsewhere rfl fun status => by simp [Reset.goes]

theorem Permit.step (permit : Permit s n) (guarded : Guarded s) (unflagged : Unflagged s)
    (orderly : Orderly s event) (once : ∀ caller, event = .ready caller .complete → 0 < n)
    (step : Step cfg hmac s event s') : Permit s' (ownership n event) := by
  cases step with
  | report step => exact permit.report step
  | ready step => exact permit.ready (fun complete => once _ (by rw [complete])) step
  | handler step => exact permit.handler guarded step
  | reset step => exact permit.reset guarded unflagged orderly step
  | outside | bind => exact permit.frame rfl rfl rfl rfl (fun _ => Iff.rfl) id

theorem Permit.boot : Permit (.boot cfg settings) 0 :=
  .free rfl rfl rfl rfl fun _ completing => by cases completing

/-- In a run whose resets are orderly, the permit is in one place
throughout. -/
theorem run_permit {moments : List (Moment Transport Event)}
    (run : Run (Traced (Step cfg hmac)) (.boot cfg settings) moments s)
    (orderly : ∀ moment ∈ moments, Orderly moment.before moment.event)
    (once : CompletedOnce (moments.map Moment.event)) :
    Permit s (outstanding (moments.map Moment.event)) := by
  have both := run.history_of
    (fun past s => Permit s (outstanding (past.map Moment.event)) ∧ Unflagged s)
    (fun past => (∀ moment ∈ past, Orderly moment.before moment.event) ∧
      CompletedOnce (past.map Moment.event)) ⟨orderly, once⟩ ?_ ?_ ?_
  · exact both.1
  · intro past moment ordered
    obtain ⟨orderly, once⟩ := ordered
    rw [List.map_append] at once
    exact ⟨fun earlier member => orderly earlier (List.mem_append_left _ member), once.front⟩
  · refine ⟨Permit.boot, ?_⟩
    rintro ⟨_, _, held, _⟩
    cases held
  · intro past before moment after ordered earlier sound taken
    obtain ⟨rfl, rfl, step⟩ := taken
    obtain ⟨permit, unflagged⟩ := sound
    have guarded := (run_sound earlier.untraced).1
    refine ⟨?_, unflagged.step guarded step⟩
    rw [List.map_append, List.map_singleton, outstanding_snoc]
    refine permit.step guarded unflagged (ordered.1 moment (by simp)) ?_ step
    intro caller completing
    exact ordered.2 _ caller [] (by rw [List.map_append, List.map_singleton, completing])

end RuntimeMacro.Source.UsbHid
