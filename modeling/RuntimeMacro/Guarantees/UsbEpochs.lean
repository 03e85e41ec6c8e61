import RuntimeMacro.Source.UsbRuns
import RuntimeMacro.Foundations.Generations

/-!
# Requests of one USB connection stay in it

runtime_macro_usb_hid.c:151-285,329-408. SET_REPORT callbacks take no lock, so
a request may be queued long after the reset that ended its connection. Its
stamp is followed through the history from the sample to the queue and from the
queue to the handler, which lets a request through only if no reset has moved
the generation in between.
-/
namespace RuntimeMacro.Guarantees.UsbEpochs
open Source Source.UsbHid Foundations.Runs Foundations.Generations
open AuthCore (Hmac)

variable {cfg : Config} {hmac : Hmac} {settings : Settings} {s s' : Transport}
  {past front during since after : List Event} {event : Event} {caller : Caller} {frame : Frame}
  {request : Request} {moments : List (Moment Transport Event)}

/-- The caller's callback takes a new report. -/
def samples (caller : Caller) : Event → Bool
  | .report owner (.sample _) => owner == caller
  | _ => false

/-- The caller's latest report carried `frame` and was sampled before the
events `since`. -/
def SampledAt (caller : Caller) (frame : Frame) (past since : List Event) : Prop :=
  ∃ front report, past = front ++ .report caller (.sample report) :: since ∧
    report.frame = some frame ∧ ∀ event ∈ since, samples caller event = false

/-- The report was sampled before the events `during` and queued before the
events `after`; it was the `arrival`-th to be queued. -/
def QueuedAt (request : Request) (past during after : List Event) : Prop :=
  ∃ caller front, past = front ++ .report caller (.put 0) :: after ∧
    SampledAt caller request.frame front during ∧
    front.countP Event.isPut = request.arrival

/-- Sampled after the latest reset moved the generation, and queued since. -/
def SampledSinceReset (past : List Event) (request : Request) : Prop :=
  ∃ during after, QueuedAt request past during after ∧
    ∀ event ∈ during ++ after, event.isAdvance = false

theorem SampledAt.later (sampled : SampledAt caller frame past since)
    (other : samples caller event = false) :
    SampledAt caller frame (past ++ [event]) (since ++ [event]) := by
  obtain ⟨front, report, split, taken, alone⟩ := sampled
  refine ⟨front, report, by rw [split]; simp, taken, fun later member => ?_⟩
  rcases List.mem_append.mp member with early | last
  · exact alone later early
  · rw [List.mem_singleton.mp last]
    exact other

theorem QueuedAt.later (queued : QueuedAt request past during after) :
    QueuedAt request (past ++ [event]) during (after ++ [event]) := by
  obtain ⟨caller, front, split, rest⟩ := queued
  exact ⟨caller, front, by rw [split]; simp, rest⟩

/-! ## Stamps -/

/-- The stamp in a callback's locals, with the resets since it was sampled. -/
def ReportStamped (past : List Event) (s : Transport) : Prop :=
  ∀ caller frame generation, s.reports caller = .sampled frame generation ∨
      s.reports caller = .checked frame generation →
    ∃ since, SampledAt caller frame past since ∧
      s.generation = advanced generation (since.countP Event.isAdvance)

/-- The stamp of a waiting request, with the resets since it was sampled. -/
def RequestStamped (past : List Event) (s : Transport) : Prop :=
  ∀ request ∈ waiting s, ∃ during after, QueuedAt request past during after ∧
    s.generation = advanced request.generation ((during ++ after).countP Event.isAdvance)

/-- A callback that has sampled the generation holds the number of resets
before its sample. -/
theorem ReportStamped.step (stamped : ReportStamped past s) (step : Step cfg hmac s event s') :
    ReportStamped (past ++ [event]) s' := by
  intro caller frame generation pending
  have moved := step_generation step
  by_cases acting : event.reporter = some caller
  · cases step with
    | ready | handler | reset | outside | bind => cases acting
    | report step =>
      cases acting
      cases step with
      | refuse idle =>
        rw [idle] at pending
        rcases pending with impossible | impossible
        · cases impossible
        · cases impossible
      | sample idle taken =>
        rw [Transport.reporting_reports_self] at pending
        rcases pending with current | impossible
        · cases current
          exact ⟨[], ⟨past, _, rfl, taken, by simp⟩, (advanced_zero _).symm⟩
        · cases impossible
      | online sampled =>
        rw [Transport.reporting_reports_self] at pending
        rcases pending with impossible | current
        · cases impossible
        · cases current
          obtain ⟨since, earlier, counted⟩ := stamped _ _ _ (Or.inl sampled)
          exact ⟨_, earlier.later rfl, advanced_snoc counted moved⟩
      | offline | unqueued | queued | submit =>
        rw [Transport.reporting_reports_self] at pending
        rcases pending with impossible | impossible
        · cases impossible
        · cases impossible
  · rw [step_reports_of_ne step acting] at pending
    obtain ⟨since, earlier, counted⟩ := stamped caller frame generation pending
    refine ⟨_, earlier.later ?_, advanced_snoc counted moved⟩
    cases event with
    | report owner event =>
      cases event with
      | sample => simpa [samples, Event.reporter] using acting
      | _ => rfl
    | _ => rfl

/-- A queued request has the stamp of its callback, and its place among the
requests ever queued. -/
theorem RequestStamped.step (requests : RequestStamped past s) (reports : ReportStamped past s)
    (counted : s.arrivals = past.countP Event.isPut) (step : Step cfg hmac s event s') :
    RequestStamped (past ++ [event]) s' := by
  intro request member
  have moved := step_generation step
  have old : request ∈ waiting s → ∃ during after, QueuedAt request (past ++ [event]) during after ∧
      s'.generation = advanced request.generation ((during ++ after).countP Event.isAdvance) := by
    intro earlier
    obtain ⟨during, after, queued, stamp⟩ := requests request earlier
    refine ⟨during, after ++ [event], queued.later, ?_⟩
    rw [← List.append_assoc]
    exact advanced_snoc stamp moved
  rcases step_waiting step with ⟨owner, frame, generation, rfl, checked, line, _⟩ | ⟨_, _, line⟩
  · rw [line] at member
    rcases List.mem_append.mp member with earlier | latest
    · exact old earlier
    · cases List.mem_singleton.mp latest
      obtain ⟨since, sampled, stamp⟩ := reports owner frame generation (Or.inr checked)
      refine ⟨since, [], ⟨owner, past, rfl, sampled, counted.symm⟩, ?_⟩
      rw [List.append_nil]
      exact moved.trans stamp
  · exact old (line.subset (List.mem_append_right _ member))

theorem step_arrivals (counted : s.arrivals = past.countP Event.isPut)
    (step : Step cfg hmac s event s') : s'.arrivals = (past ++ [event]).countP Event.isPut := by
  rw [List.countP_append, List.countP_singleton, ← counted]
  rcases step_waiting step with ⟨_, _, _, rfl, _, _, next⟩ | ⟨silent, same, _⟩
  · exact next
  · rw [same, silent]
    rfl

/-- Along a run both stamps say what they stand for. -/
theorem run_stamped (run : Run (Step cfg hmac) (.boot cfg settings) past s) :
    RequestStamped past s := by
  have all : RequestStamped past s ∧ ReportStamped past s ∧
      s.arrivals = past.countP Event.isPut := by
    refine run.history (fun past s => RequestStamped past s ∧ ReportStamped past s ∧
      s.arrivals = past.countP Event.isPut) ⟨?_, ?_, rfl⟩ ?_
    · intro request member
      cases member
    · intro caller frame generation pending
      rcases pending with impossible | impossible
      · cases impossible
      · cases impossible
    · intro past s event s' _ stamped step
      obtain ⟨requests, reports, counted⟩ := stamped
      exact ⟨requests.step reports counted step, reports.step step, step_arrivals counted step⟩
  exact all.1

/-- The handler has compared the stamp under the mutex, so it still is the
generation: no reset can be under way. The counter must not have come round for
this. -/
theorem current_sampled {generation : UInt32}
    (run : Run (Step cfg hmac) (.boot cfg settings) past s)
    (unwrapped : past.countP Event.isAdvance < 2 ^ 32)
    (current : s.handler = .current generation request) :
    s.online = true ∧ SampledSinceReset past request := by
  have guarded := (run_sound run).1
  have online := guarded.online (by rw [current]; rfl)
  have now := guarded.stamp generation (by rw [current]; rfl)
  have same := guarded.current generation request current
  have member : request ∈ waiting s := by
    rw [waiting, current]
    exact List.mem_cons_self
  obtain ⟨during, after, queued, stamp⟩ := run_stamped run request member
  have part : (during ++ after).countP Event.isAdvance ≤ past.countP Event.isAdvance := by
    obtain ⟨caller, front, split, ⟨_, report, sampled, _⟩, _⟩ := queued
    rw [split, sampled]
    simp only [List.countP_append, List.countP_cons]
    omega
  rw [now, ← same] at stamp
  have none := (advanced_eq_iff _ (by omega)).mp stamp.symm
  refine ⟨online, during, after, queued, fun event member => ?_⟩
  simpa using List.countP_eq_zero.mp none event member

/-! ## Order -/

/-- The requests handed to the protocol, in order. -/
def served (moments : List (Moment Transport Event)) : List Request :=
  moments.filterMap fun moment => handed moment.before moment.event

/-- Served and waiting requests are in the order of their arrival. -/
def Ordered (moments : List (Moment Transport Event)) (s : Transport) : Prop :=
  ((served moments ++ waiting s).map Request.arrival).Pairwise (· < ·) ∧
    ∀ request ∈ served moments ++ waiting s, request.arrival < s.arrivals

/-- The queue hands out its requests in order, and purging it takes them
all. -/
theorem Ordered.step (ordered : Ordered moments s) (step : Step cfg hmac s event s') :
    Ordered (moments ++ [⟨s, event, s'⟩]) s' := by
  obtain ⟨increasing, bounded⟩ := ordered
  have next : served (moments ++ [⟨s, event, s'⟩]) = served moments ++ (handed s event).toList := by
    rw [served, List.filterMap_append]
    cases handing : handed s event <;> simp [handing, served]
  rw [Ordered, next]
  rcases step_waiting step with ⟨owner, frame, generation, rfl, _, line, arrivals⟩ | ⟨_, same, line⟩
  · have silent : (handed s (.report owner (.put 0))).toList = [] := rfl
    rw [silent, List.append_nil, line, ← List.append_assoc, arrivals]
    constructor
    · rw [List.map_append, List.pairwise_append]
      refine ⟨increasing, List.pairwise_singleton _ _, ?_⟩
      intro first member last latest
      obtain ⟨request, earlier, rfl⟩ := List.mem_map.mp member
      rw [List.map_singleton, List.mem_singleton] at latest
      rw [latest]
      exact bounded request earlier
    · intro request member
      rcases List.mem_append.mp member with earlier | latest
      · exact Nat.lt_succ_of_lt (bounded request earlier)
      · cases List.mem_singleton.mp latest
        exact Nat.lt_succ_self _
  · have part : (served moments ++ (handed s event).toList ++ waiting s').Sublist
        (served moments ++ waiting s) := by
      rw [List.append_assoc]
      exact line.append_left _
    rw [same]
    exact ⟨increasing.sublist (part.map _),
      fun request member => bounded request (part.subset member)⟩

theorem run_ordered (run : Run (Traced (Step cfg hmac)) (.boot cfg settings) moments s) :
    Ordered moments s := by
  refine run.history Ordered ⟨List.Pairwise.nil, fun _ member => by cases member⟩ ?_
  intro past before moment after' _ ordered step
  obtain ⟨rfl, rfl, taken⟩ := step
  exact ordered.step taken

/-! ## A completed reset -/

/-- Nothing of an earlier connection: the context is a new one, the
authentication core has no session, no challenge and no failure, and no upload
is staged or timed. -/
structure Fresh (cfg : Config) (w : World) : Prop where
  context : w.contexts usbContext = .zero cfg
  session : w.auth.sessionActive = false
  challenge : w.auth.challengeActive = false
  failures : w.auth.failureCount = 0
  forgotten : AuthCore.transportReset w.auth = w.auth
  staging : w.dynamic.stagingActive = false
  timeout : w.timeoutOwner ≠ some usbContext

theorem Fresh.of_reset {w : World} (auth : AuthCore.transportReset w.auth = w.auth)
    (discarded : Discarded cfg w) : Fresh cfg w where
  context := discarded.context
  session := by
    rw [← auth]
    rfl
  challenge := by
    rw [← auth]
    rfl
  failures := by
    rw [← auth]
    rfl
  forgotten := auth
  staging := discarded.staging
  timeout := discarded.timeout

theorem unlock_fresh (run : Run (Step cfg hmac) (.boot cfg settings) past s)
    (step : Step cfg hmac s (.reset .unlock) s') : Fresh cfg s'.world := by
  have progress := (run_sound run).2
  cases step with
  | reset step =>
    cases step with
    | unlock held point =>
      have auth := progress.auth _ held (by rw [point]; decide)
      exact Fresh.of_reset auth (progress.discarded _ held (by rw [point]; decide))

/-! ## Isolation -/

/-- Every request handed to the protocol was sampled after the latest reset had
moved the generation and is handed over while the transport is online; requests
are served at most once and in the order of their arrival; and a reset leaves
the firmware as after boot, as far as the connection goes. -/
theorem usb_epochs_isolated
    (run : Run (Traced (Step cfg hmac)) (.boot cfg settings) moments s)
    (unwrapped : (moments.map Moment.event).countP Event.isAdvance < 2 ^ 32) :
    (∀ front moment back, moments = front ++ moment :: back →
      ∀ exchange, moment.event = .handler (.process exchange) →
        moment.before.online = true ∧
        ∃ request, handed moment.before moment.event = some request ∧
          exchange.id = usbContext ∧ exchange.request = request.frame ∧
          SampledSinceReset (front.map Moment.event) request) ∧
    ((served moments).map Request.arrival).Pairwise (· < ·) ∧
    (∀ moment ∈ moments, moment.event = .reset .unlock → Fresh cfg moment.after.world) := by
  refine ⟨?_, ?_, ?_⟩
  · intro front moment back split exchange processing
    rw [split] at run unwrapped
    obtain ⟨before, after, earlier, ⟨rfl, rfl, step⟩, _⟩ := run.around
    have few : (front.map Moment.event).countP Event.isAdvance < 2 ^ 32 := by
      rw [List.map_append, List.countP_append] at unwrapped
      omega
    rw [processing] at step ⊢
    obtain ⟨generation, request, current, owner, given⟩ := step_process step
    obtain ⟨online, sampled⟩ := current_sampled earlier.untraced few current
    refine ⟨online, request, ?_, owner, given, sampled⟩
    rw [handed, current]
  · have ordered := (run_ordered run).1
    rw [List.map_append] at ordered
    exact (List.pairwise_append.mp ordered).1
  · intro moment member unlocking
    obtain ⟨front, back, split⟩ := List.append_of_mem member
    rw [split] at run
    obtain ⟨before, after, earlier, ⟨rfl, rfl, step⟩, _⟩ := run.around
    rw [unlocking] at step
    exact unlock_fresh earlier.untraced step

def sampleReport : Report where
  setup := some ⟨usbHidSetReport, reportTypeOutput⟩
  len := some frameSize
  data := some .zero

def sampleEvents : List Event :=
  [.bind, .report 1 (.sample sampleReport), .report 1 .checkOnline,
    .reset (.lock .hid .resume), .reset .setOffline, .reset .advance, .reset .authReset,
    .reset (.discard 0), .reset .purge, .reset (.readStatus .resume), .reset .keep,
    .reset (.clear (.still 0)), .reset .publish, .reset .unlock, .report 1 (.put 0),
    .report 0 (.sample sampleReport), .report 0 .checkOnline, .report 0 (.put 0),
    .report 0 (.submit 0), .handler .take, .handler .lock, .handler .sampleGeneration,
    .handler .checkOnline, .handler .get, .handler .compare, .handler .give, .handler .unlock,
    .handler (.submit 0), .handler .take, .handler .lock, .handler .sampleGeneration,
    .handler .checkOnline, .handler .get, .handler .compare,
    .handler (.process (exchangeOf .default AuthCore.sampleHmac usbContext (.still 0) .zero
      ((World.boot .default .empty).transportReset .default usbContext (.still 0))))]

/-- A report that a reset overtakes is dropped, the next one is served. -/
theorem sample_run : ∃ s, Run (Step .default AuthCore.sampleHmac) (.boot .default .empty)
    sampleEvents s := by
  refine ⟨_, .cons .bind <| .cons (.report (.sample rfl rfl)) <|
    .cons (.report (.online rfl rfl)) <| .cons (.reset (.lock ⟨rfl, rfl⟩)) <|
    .cons (.reset (.setOffline rfl rfl)) <|
    .cons (.reset (.advance rfl rfl)) <| .cons (.reset (.authReset rfl rfl)) <|
    .cons (.reset (.discard rfl rfl)) <| .cons (.reset (.purge rfl rfl)) <|
    .cons (.reset (.readStatus rfl rfl)) <| .cons (.reset (.keep rfl rfl rfl)) <|
    .cons (.reset (.clear rfl rfl)) <| .cons (.reset (.publish rfl rfl)) <|
    .cons (.reset (.unlock rfl rfl)) <| .cons (.report (.queued rfl (by decide))) <|
    .cons (.report (.sample rfl rfl)) <| .cons (.report (.online rfl rfl)) <|
    .cons (.report (.queued rfl (by decide))) <| .cons (.report (.submit rfl)) <|
    .cons (.handler (.take rfl rfl (by decide))) <| .cons (.handler (.lock rfl rfl)) <|
    .cons (.handler (.sampleGeneration rfl)) <| .cons (.handler (.online rfl rfl)) <|
    .cons (.handler (.get rfl rfl)) <| .cons (.handler (.stale rfl (by decide))) <|
    .cons (.handler (.give rfl)) <| .cons (.handler (.unlock rfl)) <|
    .cons (.handler (.submit rfl)) <| .cons (.handler (.take rfl rfl (by decide))) <|
    .cons (.handler (.lock rfl rfl)) <| .cons (.handler (.sampleGeneration rfl)) <|
    .cons (.handler (.online rfl rfl)) <| .cons (.handler (.get rfl rfl)) <|
    .cons (.handler (.current rfl rfl)) <| .cons (.handler (.process rfl rfl rfl rfl rfl)) <|
    .nil _⟩

/-- A reset falls between the sample of a report and its put, so that request
is taken off the queue unserved; the report after it is served. -/
theorem usb_epochs_isolated_sample : ∃ moments s,
    Run (Traced (Step .default AuthCore.sampleHmac)) (.boot .default .empty) moments s ∧
      moments.map Moment.event = sampleEvents ∧
      ((served moments).map Request.arrival).Pairwise (· < ·) := by
  obtain ⟨s, run⟩ := sample_run
  obtain ⟨moments, events, traced⟩ := run.traced
  have few : (moments.map Moment.event).countP Event.isAdvance < 2 ^ 32 := by
    rw [events]
    decide
  exact ⟨moments, s, traced, events, (usb_epochs_isolated traced few).2.1⟩

end RuntimeMacro.Guarantees.UsbEpochs
