import RuntimeMacro.Source.UsbPermit

/-!
# The IN response buffer

runtime_macro_usb_hid.c:84-86,145-208,287-312,329-408. The semaphore is meant
to cover a whole transfer. It does as long as no reset gives it back while a
work-handler run or a completion callback still has it.
-/
namespace RuntimeMacro.Guarantees.ResponseBuffer
open Source Source.UsbHid Foundations.Runs
open AuthCore (Hmac)

variable {cfg : Config} {hmac : Hmac} {settings : Settings} {s s' : Transport}
  {moments : List (Moment Transport Event)}

theorem writes_holds {event : Event} (writes : event.writesResponse = true)
    (step : Step cfg hmac s event s') : s.handler.holds = true := by
  cases step with
  | handler step =>
    cases step with
    | process current =>
      rw [current]
      rfl
    | _ => cases writes
  | _ => cases writes

/-- As long as every reset that gives the permit back is orderly, the permit is
not free while a transfer is in flight, and the buffer is written only between
transfers. -/
theorem response_buffer_owned (run : Run (Traced (Step cfg hmac)) (.boot cfg settings) moments s)
    (orderly : ∀ moment ∈ moments, Orderly moment.before moment.event)
    (once : CompletedOnce (moments.map Moment.event)) :
    ¬ (s.inSem = 1 ∧ s.inFlight = true) ∧
    (∀ front moment back, moments = front ++ moment :: back →
      moment.event.writesResponse = true → outstanding (front.map Moment.event) = 0) ∧
    ∀ moment ∈ moments, moment.event.writesResponse = false →
      moment.after.txResponse = moment.before.txResponse := by
  refine ⟨?_, ?_, ?_⟩
  · rintro ⟨free, flying⟩
    have permit := run_permit run orderly once
    cases permit with
    | free _ flag => cases flag.symm.trans flying
    | held count | sent count | completed count | reclaimed count => omega
  · intro front moment back split writes
    rw [split] at run orderly once
    rw [List.map_append] at once
    obtain ⟨_, _, earlier, ⟨rfl, rfl, step⟩, _⟩ := run.around
    have permit := run_permit earlier (fun past member =>
      orderly past (List.mem_append_left _ member)) once.front
    exact (permit.of_holds (writes_holds writes step)).2.2.1
  · intro moment member silent
    exact step_txResponse (run.moment_step moment member) silent

/-! ## Two windows -/

def sampleReport : Report where
  setup := some ⟨usbHidSetReport, reportTypeOutput⟩
  len := some frameSize
  data := some .zero

/-- The calls of the interface are in order when each completion finds an
accepted write. -/
def completes : Nat → List Event → Bool
  | _, [] => true
  | n, .ready _ .complete :: rest => decide (0 < n) && completes (n - 1) rest
  | n, event :: rest => completes (ownership n event) rest

/-- The checker counts the completions that are owed along the run, so a run it
passes has at most one for each write. -/
theorem completedOnce_of {events : List Event} (checked : completes 0 events = true) :
    CompletedOnce events := by
  have general : ∀ (events : List Event) (n : Nat), completes n events = true →
      ∀ front caller back, events = front ++ .ready caller .complete :: back →
        0 < front.foldl ownership n := by
    intro events
    induction events with
    | nil =>
      intro n _ front caller back split
      cases front <;> cases split
    | cons first rest ih =>
      intro n checked front caller back split
      cases front with
      | nil =>
        cases split
        simp only [completes, Bool.and_eq_true, decide_eq_true_eq] at checked
        exact checked.1
      | cons head front =>
        simp only [List.cons_append, List.cons.injEq] at split
        obtain ⟨rfl, split⟩ := split
        refine ih (ownership n first) ?_ front caller back split
        unfold completes at checked
        split at checked
        · cases ‹_ :: _ = []›
        · simp_all [ownership]
        · simp_all
  exact general events 0 checked

/-- A frame is queued while the transport is online. -/
def reportEvents : List Event :=
  [.report 0 (.sample sampleReport), .report 0 .checkOnline, .report 0 (.put 0),
    .report 0 (.submit 0)]

/-- The bus has been configured, and the reset for it runs through. -/
def resetEvents : List Event :=
  [.reset (.lock .hid .configured), .reset .setOffline, .reset .advance, .reset .authReset,
    .reset (.discard 0), .reset .purge, .reset (.readStatus .configured), .reset .unflag,
    .reset .empty, .reset .give, .reset (.clear (.still 0)), .reset .publish, .reset .unlock]

/-- The handler has the mutex and takes the next frame from the queue. -/
def fetchEvents : List Event :=
  [.handler .lock, .handler .sampleGeneration, .handler .checkOnline, .handler .get,
    .handler .compare]

def processEvent (w : World) : Event :=
  .handler (.process (exchangeOf .default AuthCore.sampleHmac usbContext (.still 0) .zero w))

/-- The endpoint accepts the response, and the handler is done with its
turn. -/
def writeEvents : List Event :=
  [.handler .mark, .handler (.write 0), .handler .recheck, .handler .unlock]

def sampleWorld : World := .boot .default .empty

def sampleReset (w : World) : World := w.transportReset .default usbContext (.still 0)

def sampleServed (w : World) : World :=
  (Protocol.processFrame .default AuthCore.sampleHmac (.still 0) usbContext .zero w).2

/-- One frame, one response and its completion. -/
def sampleEvents : List Event :=
  .bind :: (reportEvents ++ .handler .take :: (fetchEvents ++ processEvent sampleWorld ::
    (writeEvents ++ [.ready 0 .complete, .ready 0 .give])))

theorem sample_run : ∃ s, Run (Step .default AuthCore.sampleHmac) (.boot .default .empty)
    sampleEvents s := by
  refine ⟨_, .cons .bind <|
    .cons (.report (.sample rfl rfl)) <| .cons (.report (.online rfl rfl)) <|
    .cons (.report (.queued rfl (by decide))) <| .cons (.report (.submit rfl)) <|
    .cons (.handler (.take rfl rfl (by decide))) <|
    .cons (.handler (.lock rfl rfl)) <| .cons (.handler (.sampleGeneration rfl)) <|
    .cons (.handler (.online rfl rfl)) <| .cons (.handler (.get rfl rfl)) <|
    .cons (.handler (.current rfl rfl)) <| .cons (.handler (.process rfl rfl rfl rfl rfl)) <|
    .cons (.handler (.mark rfl)) <| .cons (.handler (.written rfl)) <|
    .cons (.handler (.sent rfl rfl)) <| .cons (.handler (.unlock rfl)) <|
    .cons (.ready (.complete rfl rfl)) <| .cons (.ready (.give rfl)) <| .nil _⟩

/-- A run without a reset that gives a permit: after the completion the permit
is free and nothing is in flight. -/
theorem response_buffer_owned_sample : ∃ moments s,
    Run (Traced (Step .default AuthCore.sampleHmac)) (.boot .default .empty) moments s ∧
      moments.map Moment.event = sampleEvents ∧ ¬ (s.inSem = 1 ∧ s.inFlight = true) := by
  obtain ⟨s, run⟩ := sample_run
  obtain ⟨moments, events, traced⟩ := run.traced
  have ungiven : ∀ event ∈ sampleEvents, event ≠ .reset .give := by
    simp [sampleEvents, reportEvents, fetchEvents, writeEvents, processEvent]
  have orderly : ∀ moment ∈ moments, Orderly moment.before moment.event := by
    intro moment member give
    refine absurd give (ungiven moment.event ?_)
    rw [← events]
    exact List.mem_map_of_mem member
  have once : CompletedOnce (moments.map Moment.event) := by
    rw [events]
    exact completedOnce_of rfl
  exact ⟨moments, s, traced, events, (response_buffer_owned traced orderly once).1⟩

/-- A reset falls between `k_sem_take` and the mutex. -/
def takeWindow : List Event :=
  .bind :: (reportEvents ++ .handler .take :: (resetEvents ++ (reportEvents ++ (fetchEvents ++
    processEvent (sampleReset sampleWorld) :: writeEvents))))

/-- A reset and a new transfer fall between the compare-and-swap of a
completion and its `k_sem_give`. -/
def completionWindow : List Event :=
  .bind :: (reportEvents ++ .handler .take :: (fetchEvents ++ processEvent sampleWorld ::
    (writeEvents ++ .ready 0 .complete :: (resetEvents ++ (reportEvents ++ .handler .take ::
      (fetchEvents ++ processEvent (sampleReset (sampleServed sampleWorld)) ::
        (writeEvents ++ [.ready 0 .give])))))))

/-- In either window a reset gives a second permit: it is free while a transfer
is in flight, and the next frame overwrites the response that the endpoint
still owns. -/
theorem second_permit :
    (∃ s, Run (Step .default AuthCore.sampleHmac) (.boot .default .empty) takeWindow s ∧
      CompletedOnce takeWindow ∧ s.handler = .idle ∧ s.inSem = 1 ∧ s.inFlight = true ∧
      ∃ s' s'', Run (Step .default AuthCore.sampleHmac) s
          (reportEvents ++ .handler .take :: fetchEvents) s' ∧
        Step .default AuthCore.sampleHmac s'
          (processEvent (sampleServed (sampleReset sampleWorld))) s'' ∧
        outstanding (takeWindow ++ (reportEvents ++ .handler .take :: fetchEvents)) = 1) ∧
    ∃ s, Run (Step .default AuthCore.sampleHmac) (.boot .default .empty) completionWindow s ∧
      CompletedOnce completionWindow ∧ s.handler = .idle ∧ s.inSem = 1 ∧ s.inFlight = true := by
  constructor
  · refine ⟨_, .cons .bind <|
      .cons (.report (.sample rfl rfl)) <| .cons (.report (.online rfl rfl)) <|
      .cons (.report (.queued rfl (by decide))) <| .cons (.report (.submit rfl)) <|
      .cons (.handler (.take rfl rfl (by decide))) <|
      .cons (.reset (.lock ⟨rfl, rfl⟩)) <| .cons (.reset (.setOffline rfl rfl)) <|
      .cons (.reset (.advance rfl rfl)) <| .cons (.reset (.authReset rfl rfl)) <|
      .cons (.reset (.discard rfl rfl)) <| .cons (.reset (.purge rfl rfl)) <|
      .cons (.reset (.readStatus rfl rfl)) <| .cons (.reset (.unflag rfl rfl rfl)) <|
      .cons (.reset (.empty rfl rfl)) <| .cons (.reset (.give rfl rfl)) <|
      .cons (.reset (.clear rfl rfl)) <| .cons (.reset (.publish rfl rfl)) <|
      .cons (.reset (.unlock rfl rfl)) <|
      .cons (.report (.sample rfl rfl)) <| .cons (.report (.online rfl rfl)) <|
      .cons (.report (.queued rfl (by decide))) <| .cons (.report (.submit rfl)) <|
      .cons (.handler (.lock rfl rfl)) <| .cons (.handler (.sampleGeneration rfl)) <|
      .cons (.handler (.online rfl rfl)) <| .cons (.handler (.get rfl rfl)) <|
      .cons (.handler (.current rfl rfl)) <| .cons (.handler (.process rfl rfl rfl rfl rfl)) <|
      .cons (.handler (.mark rfl)) <| .cons (.handler (.written rfl)) <|
      .cons (.handler (.sent rfl rfl)) <| .cons (.handler (.unlock rfl)) <| .nil _,
      completedOnce_of rfl, rfl, rfl, rfl, _, _,
      .cons (.report (.sample rfl rfl)) <| .cons (.report (.online rfl rfl)) <|
      .cons (.report (.queued rfl (by decide))) <| .cons (.report (.submit rfl)) <|
      .cons (.handler (.take rfl rfl (by decide))) <| .cons (.handler (.lock rfl rfl)) <|
      .cons (.handler (.sampleGeneration rfl)) <| .cons (.handler (.online rfl rfl)) <|
      .cons (.handler (.get rfl rfl)) <| .cons (.handler (.current rfl rfl)) <| .nil _,
      .handler (.process rfl rfl rfl rfl rfl), rfl⟩
  · refine ⟨_, .cons .bind <|
      .cons (.report (.sample rfl rfl)) <| .cons (.report (.online rfl rfl)) <|
      .cons (.report (.queued rfl (by decide))) <| .cons (.report (.submit rfl)) <|
      .cons (.handler (.take rfl rfl (by decide))) <|
      .cons (.handler (.lock rfl rfl)) <| .cons (.handler (.sampleGeneration rfl)) <|
      .cons (.handler (.online rfl rfl)) <| .cons (.handler (.get rfl rfl)) <|
      .cons (.handler (.current rfl rfl)) <| .cons (.handler (.process rfl rfl rfl rfl rfl)) <|
      .cons (.handler (.mark rfl)) <| .cons (.handler (.written rfl)) <|
      .cons (.handler (.sent rfl rfl)) <| .cons (.handler (.unlock rfl)) <|
      .cons (.ready (.complete rfl rfl)) <|
      .cons (.reset (.lock ⟨rfl, rfl⟩)) <| .cons (.reset (.setOffline rfl rfl)) <|
      .cons (.reset (.advance rfl rfl)) <| .cons (.reset (.authReset rfl rfl)) <|
      .cons (.reset (.discard rfl rfl)) <| .cons (.reset (.purge rfl rfl)) <|
      .cons (.reset (.readStatus rfl rfl)) <| .cons (.reset (.unflag rfl rfl rfl)) <|
      .cons (.reset (.empty rfl rfl)) <| .cons (.reset (.give rfl rfl)) <|
      .cons (.reset (.clear rfl rfl)) <| .cons (.reset (.publish rfl rfl)) <|
      .cons (.reset (.unlock rfl rfl)) <|
      .cons (.report (.sample rfl rfl)) <| .cons (.report (.online rfl rfl)) <|
      .cons (.report (.queued rfl (by decide))) <| .cons (.report (.submit rfl)) <|
      .cons (.handler (.take rfl rfl (by decide))) <|
      .cons (.handler (.lock rfl rfl)) <| .cons (.handler (.sampleGeneration rfl)) <|
      .cons (.handler (.online rfl rfl)) <| .cons (.handler (.get rfl rfl)) <|
      .cons (.handler (.current rfl rfl)) <| .cons (.handler (.process rfl rfl rfl rfl rfl)) <|
      .cons (.handler (.mark rfl)) <| .cons (.handler (.written rfl)) <|
      .cons (.handler (.sent rfl rfl)) <| .cons (.handler (.unlock rfl)) <|
      .cons (.ready (.give rfl)) <| .nil _, completedOnce_of rfl, rfl, rfl, rfl⟩

end RuntimeMacro.Guarantees.ResponseBuffer
