import RuntimeMacro.Guarantees.ResponseBuffer
import RuntimeMacro.Guarantees.UsbEpochs

/-!
# Reports that are refused

runtime_macro_usb_hid.c:236-285. SET_REPORT answers the host with an error at
five points. The last of them, a work submission that fails, comes after the
request has been queued, and nothing takes it out of the queue again.
-/
namespace RuntimeMacro.Guarantees.RefusedReports
open Source Source.UsbHid Foundations.Runs
open AuthCore (Hmac)
open UsbEpochs (served)
open ResponseBuffer (reportEvents fetchEvents sampleReport sampleWorld)

variable {cfg : Config} {hmac : Hmac} {s s' : Transport} {caller : Caller} {event : Event}
  {events : List Event} {moments : List (Moment Transport Event)} {request : Request}

/-! ## One call -/

/-- `runtime_macro_usb_hid_set_report` in one go: what it returns and what it
leaves. -/
def setReport (report : Report) (putErr submitErr : Int) (s : Transport) : Int × Transport :=
  match report.frame with
  | none => (-einval, s)
  | some frame =>
    let generation := s.generation
    if s.online = false then (-enodev, s)
    else if putErr ≠ 0 then (-enospc, s)
    else
      let s := (s.put frame generation).submit submitErr
      if submitErr < 0 then (submitErr, s) else (0, s)

/-- The steps the call takes before the one that returns, and that one. -/
def callEvents (report : Report) (putErr submitErr : Int) (s : Transport) :
    List ReportEvent × ReportEvent :=
  match report.frame with
  | none => ([], .refuse report)
  | some _ =>
    if s.online = false then ([.sample report], .checkOnline)
    else if putErr ≠ 0 then ([.sample report, .checkOnline], .put putErr)
    else ([.sample report, .checkOnline, .put 0], .submit submitErr)

theorem reporting_reporting (first second : ReportPhase) (s : Transport) :
    (s.reporting caller first).reporting caller second = s.reporting caller second := by
  simp [Transport.reporting]

theorem reporting_idle (idle : s.reports caller = .idle) : s.reporting caller .idle = s := by
  simp [Transport.reporting, ← idle]

/-- A call that nothing interrupts takes these steps, and the last one returns
the result. -/
theorem setReport_run (report : Report) (putErr submitErr : Int)
    (idle : s.reports caller = .idle) (room : putErr = 0 → s.queue.length < queueDepth) :
    ∃ before,
      Run (Step cfg hmac) s ((callEvents report putErr submitErr s).1.map (.report caller)) before ∧
      Step cfg hmac before (.report caller (callEvents report putErr submitErr s).2)
        (setReport report putErr submitErr s).2 ∧
      (callEvents report putErr submitErr s).2.result before =
        some (setReport report putErr submitErr s).1 := by
  unfold setReport callEvents
  cases taken : report.frame with
  | none => exact ⟨s, .nil s, .report (.refuse idle taken), rfl⟩
  | some frame =>
    have sampled := ReportStep.sample idle taken
    have here := Transport.reporting_reports_self caller (.sampled frame s.generation) s
    have there := Transport.reporting_reports_self caller (.checked frame s.generation) s
    by_cases down : s.online = false
    · have refused := ReportStep.offline here down
      rw [reporting_reporting, reporting_idle idle] at refused
      simp only [down, if_true]
      refine ⟨_, .single (.report sampled), .report refused, ?_⟩
      simp [ReportEvent.result, Transport.reporting, down]
    · have up : s.online = true := by simpa using down
      have checked := ReportStep.online here up
      rw [reporting_reporting] at checked
      simp only [up, Bool.true_eq_false, if_false]
      by_cases failed : putErr = 0
      · subst failed
        have queued : ReportStep caller (s.reporting caller (.checked frame s.generation)) (.put 0)
            (((s.put frame s.generation).reporting caller
              (.checked frame s.generation)).reporting caller .queued) :=
          .queued there (room rfl)
        rw [reporting_reporting] at queued
        have submitted : ReportStep caller ((s.put frame s.generation).reporting caller .queued)
            (.submit submitErr) ((((s.put frame s.generation).submit submitErr).reporting caller
              .queued).reporting caller .idle) :=
          .submit (Transport.reporting_reports_self ..)
        have quiet : ((s.put frame s.generation).submit submitErr).reports caller = .idle := idle
        rw [reporting_reporting, reporting_idle quiet] at submitted
        refine ⟨_, .cons (.report sampled) (.cons (.report checked) (.single (.report queued))), ?_⟩
        by_cases negative : submitErr < 0
        · simp only [negative, ne_eq, not_true_eq_false, if_false, if_true, ReportEvent.result]
          exact ⟨.report submitted, trivial⟩
        · simp only [negative, ne_eq, not_true_eq_false, if_false, ReportEvent.result]
          exact ⟨.report submitted, trivial⟩
      · have refused := ReportStep.unqueued there failed
        rw [reporting_reporting, reporting_idle idle] at refused
        simp only [ne_eq, failed, not_false_eq_true, if_true]
        refine ⟨_, .cons (.report sampled) (.single (.report checked)), .report refused, ?_⟩
        simp [ReportEvent.result, failed]

/-! ## What is left of it -/

/-- The request an event queues. -/
def queued (s : Transport) : Event → Option Request
  | .report caller (.put err) =>
    match s.reports caller with
    | .checked frame generation =>
      if err = 0 then some ⟨frame, generation, s.arrivals⟩ else none
    | _ => none
  | _ => none

/-- Nothing is left of a call: the queue is the one before, and whatever is
handed to the protocol in any continuation waited before the call or is queued
after it. -/
structure Undone (cfg : Config) (hmac : Hmac) (before after : Transport) : Prop where
  queue : after.queue = before.queue
  unserved : ∀ moments final, Run (Traced (Step cfg hmac)) after moments final →
    ∀ request ∈ served moments, request ∈ waiting before ∨
      ∃ moment ∈ moments, queued moment.before moment.event = some request

theorem step_queued (step : Step cfg hmac s event s') (request : Request)
    (either : request ∈ (handed s event).toList ++ waiting s') :
    request ∈ waiting s ∨ queued s event = some request := by
  rcases step_waiting step with ⟨owner, frame, generation, rfl, here, line, _⟩ | ⟨_, _, line⟩
  · rw [line] at either
    simp only [handed, Option.toList_none, List.nil_append, List.mem_append,
      List.mem_singleton] at either
    rcases either with earlier | rfl
    · exact Or.inl earlier
    · exact Or.inr (by simp [queued, here])
  · exact Or.inl (line.subset either)

/-- What is served or waits at the end of a run waited at its start or was
queued in it. -/
theorem run_queued (run : Run (Traced (Step cfg hmac)) s moments s') :
    ∀ request ∈ served moments ++ waiting s', request ∈ waiting s ∨
      ∃ moment ∈ moments, queued moment.before moment.event = some request := by
  induction run with
  | nil => exact fun request member => Or.inl member
  | @snoc middle final past last _ step ih =>
    obtain ⟨rfl, rfl, taken⟩ := step
    have later : ∀ {request : Request}, (request ∈ waiting s ∨ ∃ moment ∈ past,
        queued moment.before moment.event = some request) → request ∈ waiting s ∨
          ∃ moment ∈ past ++ [last], queued moment.before moment.event = some request := by
      rintro request (waited | ⟨moment, member, put⟩)
      · exact Or.inl waited
      · exact Or.inr ⟨moment, List.mem_append_left _ member, put⟩
    intro request member
    have split : request ∈ served past ∨
        request ∈ (handed last.before last.event).toList ++ waiting last.after := by
      rw [served, List.filterMap_append] at member
      cases handing : handed last.before last.event <;>
        simp_all [served]
    rcases split with earlier | recent
    · exact later (ih request (List.mem_append_left _ earlier))
    · rcases step_queued taken request recent with waited | put
      · exact later (ih request (List.mem_append_right _ waited))
      · exact Or.inr ⟨last, by simp, put⟩

theorem Undone.refl (s : Transport) : Undone cfg hmac s s := by
  constructor
  · rfl
  · intro moments final run request member
    exact run_queued run request (List.mem_append_left _ member)

/-- A call that is not queued changes nothing: it looks at the transport and
returns. -/
theorem setReport_unqueued {report : Report} {putErr submitErr : Int}
    (unqueued : ¬ (report.frame.isSome ∧ s.online = true ∧ putErr = 0)) :
    (setReport report putErr submitErr s).2 = s := by
  unfold setReport
  cases taken : report.frame with
  | none => rfl
  | some frame =>
    dsimp only
    split
    · rfl
    next up =>
      split
      · rfl
      next room =>
        refine absurd ⟨by rw [taken]; rfl, by simpa using up, ?_⟩ unqueued
        simpa using room

/-- One that is queued puts its request at the end of the queue. -/
theorem setReport_queued {report : Report} {frame : Frame} (taken : report.frame = some frame)
    (up : s.online = true) (submitErr : Int) :
    (setReport report 0 submitErr s).1 = (if submitErr < 0 then submitErr else 0) ∧
      (setReport report 0 submitErr s).2 = (s.put frame s.generation).submit submitErr := by
  simp only [setReport, taken, up, Bool.true_eq_false, if_false, ne_eq, not_true_eq_false]
  split <;> exact ⟨rfl, rfl⟩

/-! ## Calls between other steps -/

/-- The same state with the caller's callback not entered. -/
def withdrawn (caller : Caller) (s : Transport) : Transport := s.reporting caller .idle

theorem withdrawn_of_own {event : ReportEvent} (step : ReportStep caller s event s')
    (unqueued : event ≠ .put 0) (unsubmitted : s.reports caller ≠ .queued) :
    withdrawn caller s' = withdrawn caller s ∧ s'.reports caller ≠ .queued := by
  cases step with
  | refuse => exact ⟨rfl, unsubmitted⟩
  | queued => exact absurd rfl unqueued
  | submit here => exact absurd here unsubmitted
  | _ => exact ⟨reporting_reporting .., by simp⟩

theorem queued_of_put (step : ReportStep caller s (.put 0) s') : s'.reports caller = .queued := by
  cases step with
  | unqueued _ failed => exact absurd rfl failed
  | queued => exact Transport.reporting_reports_self ..

theorem submits_of_queued {event : ReportEvent} (step : ReportStep caller s event s')
    (here : s.reports caller = .queued) : ∃ err, event = .submit err := by
  cases step with
  | submit => exact ⟨_, rfl⟩
  | refuse idle | sample idle => cases here.symm.trans idle
  | offline sampled | online sampled => cases here.symm.trans sampled
  | unqueued checked | queued checked => cases here.symm.trans checked

/-- The other callbacks keep their own phases, and this one's phase is not
theirs. -/
theorem withdrawn_of_other {other : Caller} {event : ReportEvent} (different : other ≠ caller)
    (step : ReportStep other s event s') :
    ReportStep other (withdrawn caller s) event (withdrawn caller s') := by
  have same : (withdrawn caller s).reports other = s.reports other :=
    Transport.reporting_reports_of_ne different _ _
  have commutes : ∀ (phase : ReportPhase) (t : Transport),
      withdrawn caller (t.reporting other phase) = (withdrawn caller t).reporting other phase := by
    intro phase t
    simp only [withdrawn, Transport.reporting, Function.update_comm different]
  cases step with
  | refuse idle refused => exact .refuse (same.trans idle) refused
  | sample idle taken =>
    rw [commutes]
    exact .sample (same.trans idle) taken
  | offline sampled down =>
    rw [commutes]
    exact .offline (same.trans sampled) down
  | online sampled up =>
    rw [commutes]
    exact .online (same.trans sampled) up
  | unqueued checked failed =>
    rw [commutes]
    exact .unqueued (same.trans checked) failed
  | queued checked room =>
    rw [commutes]
    exact .queued (same.trans checked) room
  | submit queued =>
    rw [commutes]
    exact .submit (same.trans queued)

/-- No other party reads where the callback stands, so it can be put back to
its start. -/
theorem withdrawn_of_step (step : Step cfg hmac s event s') (other : event.reporter ≠ some caller) :
    Step cfg hmac (withdrawn caller s) event (withdrawn caller s') := by
  cases step with
  | report step =>
    apply Step.report
    exact withdrawn_of_other (fun same => other (by rw [same]; rfl)) step
  | ready step =>
    apply Step.ready
    cases step <;> constructor <;> assumption
  | handler step =>
    apply Step.handler
    cases step <;> constructor <;> assumption
  | reset step =>
    apply Step.reset
    cases step <;> constructor <;> assumption
  | outside elsewhere step => exact .outside elsewhere step
  | bind => exact .bind

/-- What the caller's callback returns at a moment of the history. -/
def returned (caller : Caller) (moment : Moment Transport Event) : Option Int :=
  match moment.event with
  | .report owner event => if owner = caller then event.result moment.before else none
  | _ => none

/-- Every call of the caller that returns is answered with an error, and not by
a failed submission. -/
structure TurnedAway (caller : Caller) (moments : List (Moment Transport Event)) : Prop where
  errors : ∀ moment ∈ moments, returned caller moment ≠ some 0
  submits : ∀ moment ∈ moments, ∀ err < 0, moment.event ≠ .report caller (.submit err)

theorem TurnedAway.unsubmitted (away : TurnedAway caller moments)
    {moment : Moment Transport Event} (member : moment ∈ moments) (err : Int) :
    moment.event ≠ .report caller (.submit err) := by
  intro submitted
  by_cases negative : err < 0
  · exact away.submits moment member err negative submitted
  · apply away.errors moment member
    simp [returned, submitted, ReportEvent.result, negative]

/-- The events of everybody else. -/
def others (caller : Caller) (events : List Event) : List Event :=
  events.filter fun event => event.reporter != some caller

/-- Until a request of the caller's is queued, the others run as if there were
no callback. -/
theorem run_others (run : Run (Traced (Step cfg hmac)) s moments s')
    (idle : s.reports caller = .idle) (away : TurnedAway caller moments) :
    s'.reports caller = .queued ∨
      (s'.reports caller ≠ .queued ∧
        Run (Step cfg hmac) s (others caller (moments.map Moment.event))
          (withdrawn caller s')) := by
  induction run with
  | nil =>
    refine Or.inr ⟨by rw [idle]; nofun, ?_⟩
    rw [withdrawn, reporting_idle idle]
    exact .nil s
  | @snoc middle final past last _ step ih =>
    obtain ⟨rfl, rfl, taken⟩ := step
    have before := ih ⟨fun moment member => away.errors moment (List.mem_append_left _ member),
      fun moment member => away.submits moment (List.mem_append_left _ member)⟩
    have here : last ∈ past ++ [last] := by simp
    by_cases own : last.event.reporter = some caller
    · have skipped : others caller ((past ++ [last]).map Moment.event) =
          others caller (past.map Moment.event) := by simp [others, own]
      rw [skipped]
      cases event : last.event with
      | report owner called =>
        rw [event] at own taken
        cases own
        cases taken with
        | report taken =>
          rcases before with queued | ⟨unqueued, run⟩
          · obtain ⟨err, rfl⟩ := submits_of_queued taken queued
            exact absurd event (away.unsubmitted here err)
          · by_cases put : called = .put 0
            · subst put
              exact Or.inl (queued_of_put taken)
            · obtain ⟨same, still⟩ := withdrawn_of_own taken put unqueued
              rw [same]
              exact Or.inr ⟨still, run⟩
      | _ =>
        rw [event] at own
        cases own
    · have kept : others caller ((past ++ [last]).map Moment.event) =
          others caller (past.map Moment.event) ++ [last.event] := by simp [others, own]
      rw [step_reports_of_ne taken own, kept]
      rcases before with queued | ⟨unqueued, run⟩
      · exact Or.inl queued
      · exact Or.inr ⟨unqueued, run.snoc (withdrawn_of_step taken own)⟩

/-! ## Refused reports -/

/-- A call leaves nothing behind when it returns an error, exactly if it is not
the submission that fails after the request is queued. And whatever steps fall
between those of a call that is refused earlier, the others go the way they go
without it. -/
theorem refused_report_undone (report : Report) (putErr submitErr : Int) (s : Transport) :
    (((setReport report putErr submitErr s).1 ≠ 0 →
        Undone cfg hmac s (setReport report putErr submitErr s).2) ↔
      ¬ (report.frame.isSome ∧ s.online = true ∧ putErr = 0 ∧ submitErr < 0)) ∧
    ∀ caller moments s', Run (Traced (Step cfg hmac)) s moments s' →
      s.reports caller = .idle → s'.reports caller = .idle → TurnedAway caller moments →
      Run (Step cfg hmac) s (others caller (moments.map Moment.event)) s' := by
  constructor
  · constructor
    · rintro undone ⟨valid, up, rfl, negative⟩
      obtain ⟨frame, taken⟩ := Option.isSome_iff_exists.mp valid
      obtain ⟨result, left⟩ := setReport_queued taken up submitErr
      have kept := (undone (by rw [result, if_pos negative]; omega)).queue
      rw [left] at kept
      simp [Transport.submit, Transport.put] at kept
    · intro sound error
      by_cases unqueued : report.frame.isSome ∧ s.online = true ∧ putErr = 0
      · obtain ⟨valid, up, rfl⟩ := unqueued
        obtain ⟨frame, taken⟩ := Option.isSome_iff_exists.mp valid
        obtain ⟨result, _⟩ := setReport_queued taken up submitErr
        rw [result] at error
        split at error
        next negative => exact absurd ⟨valid, up, rfl, negative⟩ sound
        · exact absurd rfl error
      · rw [setReport_unqueued unqueued]
        exact .refl s
  · intro caller moments s' run idle back away
    rcases run_others run idle away with queued | ⟨_, alone⟩
    · cases back.symm.trans queued
    · rw [withdrawn, reporting_idle back] at alone
      exact alone

/-- Two callbacks at a time: the queue takes the request of the one and refuses
that of the other. -/
def crossingEvents : List Event :=
  [.bind, .report 1 (.sample sampleReport), .report 0 (.sample sampleReport),
    .report 0 .checkOnline, .report 1 .checkOnline, .report 0 (.put 0), .report 1 (.put (-35)),
    .report 0 (.submit 0)]

/-- The steps of the refused callback are taken out of the run, and the rest is
a run to the same state. -/
theorem refused_report_undone_sample : ∃ s,
    Run (Step .default AuthCore.sampleHmac) (.boot .default .empty) crossingEvents s ∧
      Run (Step .default AuthCore.sampleHmac) (.boot .default .empty)
        (others 1 crossingEvents) s := by
  have crossing : ∃ s, Run (Step .default AuthCore.sampleHmac) (.boot .default .empty)
      crossingEvents s ∧ s.reports 1 = .idle :=
    ⟨_, .cons .bind <| .cons (.report (.sample rfl rfl)) <|
      .cons (.report (.sample rfl rfl)) <| .cons (.report (.online rfl rfl)) <|
      .cons (.report (.online rfl rfl)) <| .cons (.report (.queued rfl (by decide))) <|
      .cons (.report (.unqueued rfl (by decide))) <| .cons (.report (.submit rfl)) <| .nil _, rfl⟩
  obtain ⟨s, run, back⟩ := crossing
  obtain ⟨moments, events, traced⟩ := run.traced
  have away : TurnedAway 1 moments := by
    have quiet : ∀ moment ∈ moments, moment.event ∈ crossingEvents := by
      intro moment member
      rw [← events]
      exact List.mem_map_of_mem member
    constructor
    · intro moment member
      have listed := quiet moment member
      simp only [crossingEvents, List.mem_cons, List.not_mem_nil, or_false] at listed
      rcases listed with same | same | same | same | same | same | same | same <;>
        simp [returned, same, ReportEvent.result, enospc, enodev]
    · intro moment member err negative submitted
      have listed := quiet moment member
      rw [submitted] at listed
      simp [crossingEvents] at listed
  refine ⟨s, run, ?_⟩
  rw [← events]
  exact (refused_report_undone sampleReport 0 0 (.boot .default .empty)).2 1 moments s traced rfl
    back away

/-! ## A submission that fails -/

/-- An ordinary request for the list of slots. -/
def listFrame : Frame := .build .list 1 listSlot 0 0 []

def listReport : Report := { sampleReport with data := some listFrame }

def listEvent : Event :=
  .handler (.process (exchangeOf .default AuthCore.sampleHmac usbContext (.still 0) listFrame
    sampleWorld))

/-- The work queue rejects the submission, and the host gets the error. The
next report wakes the handler, which serves the request of the first. -/
theorem refused_report_served : ∃ s before final,
    Run (Step .default AuthCore.sampleHmac) (.boot .default .empty) [.bind] s ∧
      (∃ earlier, Run (Step .default AuthCore.sampleHmac) s
          ((callEvents listReport 0 (-enodev) s).1.map (.report 0)) earlier ∧
        Step .default AuthCore.sampleHmac earlier
          (.report 0 (callEvents listReport 0 (-enodev) s).2)
          (setReport listReport 0 (-enodev) s).2 ∧
        (callEvents listReport 0 (-enodev) s).2.result earlier = some (-enodev)) ∧
      ¬ Undone .default AuthCore.sampleHmac s (setReport listReport 0 (-enodev) s).2 ∧
      Run (Step .default AuthCore.sampleHmac) (setReport listReport 0 (-enodev) s).2
        (reportEvents ++ .handler .take :: fetchEvents) before ∧
      Step .default AuthCore.sampleHmac before listEvent final ∧
      handed before listEvent = some ⟨listFrame, s.generation, s.arrivals⟩ := by
  refine ⟨_, _, _, .single .bind, setReport_run listReport 0 (-enodev) rfl fun _ => by decide, ?_,
    .cons (.report (.sample rfl rfl)) <| .cons (.report (.online rfl rfl)) <|
    .cons (.report (.queued rfl (by decide))) <| .cons (.report (.submit rfl)) <|
    .cons (.handler (.take rfl rfl (by decide))) <| .cons (.handler (.lock rfl rfl)) <|
    .cons (.handler (.sampleGeneration rfl)) <| .cons (.handler (.online rfl rfl)) <|
    .cons (.handler (.get rfl rfl)) <| .cons (.handler (.current rfl rfl)) <| .nil _,
    .handler (.process rfl rfl rfl rfl rfl), rfl⟩
  intro undone
  exact absurd (congrArg List.length undone.queue) (by decide)

end RuntimeMacro.Guarantees.RefusedReports
