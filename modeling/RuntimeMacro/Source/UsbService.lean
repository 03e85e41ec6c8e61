import Mathlib.Tactic.Linarith
import RuntimeMacro.Source.UsbBus

/-!
# An undisturbed exchange on the USB transport

runtime_macro_usb_hid.c:236-408. A transport that is up and has nothing to do
takes one request through the callback, the queue, the handler and the
endpoint, and has nothing to do again.
-/
namespace RuntimeMacro.Source.UsbHid
open Foundations.Runs Relation
open AuthCore (Hmac)
open HidTransport (inputReport)
open RuntimeMacroClient (answersTo)

variable {cfg : Config} {hmac : Hmac} {b : Bus} {s s' : Transport}

/-- A transport that is up and has nothing to do. -/
structure AtRest (s : Transport) : Prop where
  online : s.online = true
  unreset : s.reset = none
  handler : s.handler = .idle
  queue : s.queue = []
  report : s.reports controlCaller = .idle
  readies : ∀ caller, s.readies caller = .idle
  permit : s.inSem = 1
  flag : s.inFlight = false

/-- Nothing is on its way, and the protocol has served `served`. -/
def settled (s : Transport) (issued : Nat) (served : List (Moment World Exchange)) : Bus :=
  ⟨s, [], [], none, .idle, [], issued, served⟩

/-- Nothing is on its way, and nothing has been served. -/
abbrev resting (s : Transport) (issued : Nat) : Bus := settled s issued []

/-- The transport after `runtime_macro_usb_hid_init`. -/
def connected : Transport := { Transport.boot .default .empty with bound := true }

theorem connected_atRest : AtRest connected :=
  ⟨rfl, rfl, rfl, rfl, rfl, fun _ => rfl, rfl, rfl⟩

/-- What changes while one request is served. -/
structure Service where
  world : World
  report : ReportPhase
  queue : List Request
  arrivals : Nat
  pending : Bool
  handler : HandlerPhase
  permit : Nat
  flag : Bool
  response : Frame
  ready : ReadyPhase

/-- The transport at that point; the rest of it is as in `s`. -/
def Service.of (s : Transport) (service : Service) : Transport :=
  { s with
    world := service.world
    reports := Function.update s.reports controlCaller service.report
    queue := service.queue
    arrivals := service.arrivals
    workPending := service.pending
    handler := service.handler
    inSem := service.permit
    inFlight := service.flag
    txResponse := service.response
    readies := Function.update s.readies controlCaller service.ready }

theorem Service.of_reports (s : Transport) (service : Service) :
    (service.of s).reports controlCaller = service.report := by
  simp [Service.of]

theorem Service.of_readies (s : Transport) (service : Service) :
    (service.of s).readies controlCaller = service.ready := by
  simp [Service.of]

/-- A step of the bus in which nothing but the transport takes part. -/
inductive ServiceStep (cfg : Config) (hmac : Hmac) (b : Bus) : Bus → Prop
  | device {event : Event} {s' : Transport} (own : event.onUsb = true) (admits : b.Admits event)
      (step : Step cfg hmac b.transport event s') : ServiceStep cfg hmac b (b.follow event s')
  | fetch (armed : b.endpoint = .armed) :
      ServiceStep cfg hmac b { b with
        endpoint := .fetched, answering := none, incoming := b.incoming ++ b.answered }

theorem ServiceStep.bus {b' : Bus} (step : ServiceStep cfg hmac b b') : BusStep cfg hmac b b' := by
  cases step with
  | device _ admits step => exact .device admits step
  | fetch armed => exact .fetch armed

theorem ServiceStep.to {after : Bus} (event : Event) (own : event.onUsb = true)
    (admits : b.Admits event) (step : Step cfg hmac b.transport event s')
    (same : b.follow event s' = after) : ServiceStep cfg hmac b after :=
  same ▸ .device own admits step

/-- The call in which the protocol serves a request. -/
def momentOf (cfg : Config) (hmac : Hmac) (env : Env) (request : Frame) (w : World) :
    Moment World Exchange :=
  ⟨w, exchangeOf cfg hmac usbContext env request w,
    (Protocol.processFrame cfg hmac env usbContext request w).2⟩

/-- From the callback to the queue. -/
theorem served_queued (s : Transport) (w : World) (n : Nat) (p : Bool) (tx request : Frame)
    (issued : Nat) (log : List (Moment World Exchange)) (online : s.online = true) :
    ReflTransGen (ServiceStep cfg hmac)
      ⟨Service.of s ⟨w, .idle, [], n, p, .idle, 1, false, tx, .idle⟩, [(issued, request)], [],
        none, .idle, [], issued + 1, log⟩
      ⟨Service.of s ⟨w, .idle, [⟨request, s.generation, n⟩], n + 1, true, .idle, 1, false, tx,
        .idle⟩, [], [issued], none, .idle, [], issued + 1, log⟩ := by
  let report : Report := ⟨some ⟨usbHidSetReport, reportTypeOutput⟩, some frameSize, some request⟩
  have taken : report.frame = some request := rfl
  refine .head (show ServiceStep cfg hmac _ ⟨Service.of s ⟨w, .sampled request s.generation, [], n,
      p, .idle, 1, false, tx, .idle⟩, [], [issued], none, .idle, [], issued + 1, log⟩ from
    .to (.report controlCaller (.sample report)) rfl ⟨rfl, issued, request, [], rfl, taken⟩
      (.report (.sample (Service.of_reports ..) taken))
      (by simp [Bus.follow, Service.of, Transport.reporting])) ?_
  refine .head (show ServiceStep cfg hmac _ ⟨Service.of s ⟨w, .checked request s.generation, [], n,
      p, .idle, 1, false, tx, .idle⟩, [], [issued], none, .idle, [], issued + 1, log⟩ from
    .to (.report controlCaller .checkOnline) rfl rfl
      (.report (.online (Service.of_reports ..) online))
      (by simp [Bus.follow, Service.of, Transport.reporting, online])) ?_
  refine .head (show ServiceStep cfg hmac _ ⟨Service.of s ⟨w, .queued, [⟨request, s.generation, n⟩],
      n + 1, p, .idle, 1, false, tx, .idle⟩, [], [issued], none, .idle, [], issued + 1, log⟩ from
    .to (.report controlCaller (.put 0)) rfl rfl
      (.report (.queued (Service.of_reports ..) (by simp [Service.of, queueDepth])))
      (by simp [Bus.follow, Service.of, Transport.reporting, Transport.put])) ?_
  exact .single (.to (.report controlCaller (.submit 0)) rfl rfl
    (.report (.submit (Service.of_reports ..)))
    (by simp [Bus.follow, Service.of, Transport.reporting, Transport.submit]))

/-- From the queue to the endpoint. -/
theorem queued_written (s : Transport) (w : World) (n : Nat) (tx request : Frame) (issued : Nat)
    (log : List (Moment World Exchange)) (env : Env) (online : s.online = true)
    (unreset : s.reset = none) (bound : s.bound = true) :
    ReflTransGen (ServiceStep cfg hmac)
      ⟨Service.of s ⟨w, .idle, [⟨request, s.generation, n⟩], n + 1, true, .idle, 1, false, tx,
        .idle⟩, [], [issued], none, .idle, [], issued + 1, log⟩
      ⟨Service.of s ⟨(Protocol.processFrame cfg hmac env usbContext request w).2, .idle, [], n + 1,
        false, .idle, 0, true, (Protocol.processFrame cfg hmac env usbContext request w).1, .idle⟩,
        [], [], some issued, .armed, [], issued + 1, log ++ [momentOf cfg hmac env request w]⟩ := by
  refine .head (show ServiceStep cfg hmac _ ⟨Service.of s ⟨w, .idle, [⟨request, s.generation, n⟩],
      n + 1, false, .permitted, 0, false, tx, .idle⟩, [], [issued], none, .idle, [], issued + 1,
      log⟩
    from .to (.handler .take) rfl trivial (.handler (.take rfl rfl (by simp [Service.of]))) rfl) ?_
  refine .head (show ServiceStep cfg hmac _ ⟨Service.of s ⟨w, .idle, [⟨request, s.generation, n⟩],
      n + 1, false, .entered, 0, false, tx, .idle⟩, [], [issued], none, .idle, [], issued + 1,
      log⟩
    from .to (.handler .lock) rfl trivial (.handler (.lock rfl unreset)) rfl) ?_
  refine .head (show ServiceStep cfg hmac _ ⟨Service.of s ⟨w, .idle, [⟨request, s.generation, n⟩],
      n + 1, false, .sampled s.generation, 0, false, tx, .idle⟩, [], [issued], none, .idle, [],
      issued + 1, log⟩
    from .to (.handler .sampleGeneration) rfl trivial (.handler (.sampleGeneration rfl)) rfl) ?_
  refine .head (show ServiceStep cfg hmac _ ⟨Service.of s ⟨w, .idle, [⟨request, s.generation, n⟩],
      n + 1, false, .online s.generation, 0, false, tx, .idle⟩, [], [issued], none, .idle, [],
      issued + 1, log⟩
    from .to (.handler .checkOnline) rfl trivial (.handler (.online rfl online)) rfl) ?_
  refine .head (show ServiceStep cfg hmac _ ⟨Service.of s ⟨w, .idle, [], n + 1, false,
      .fetched s.generation ⟨request, s.generation, n⟩, 0, false, tx, .idle⟩, [], [issued], none,
      .idle, [], issued + 1, log⟩
    from .to (.handler .get) rfl trivial (.handler (.get rfl rfl)) rfl) ?_
  refine .head (show ServiceStep cfg hmac _ ⟨Service.of s ⟨w, .idle, [], n + 1, false,
      .current s.generation ⟨request, s.generation, n⟩, 0, false, tx, .idle⟩, [], [issued], none,
      .idle, [], issued + 1, log⟩
    from .to (.handler .compare) rfl trivial (.handler (.current rfl rfl)) rfl) ?_
  refine .head (show ServiceStep cfg hmac _ ⟨Service.of s ⟨
      (Protocol.processFrame cfg hmac env usbContext request w).2, .idle, [], n + 1, false,
      .answered s.generation, 0, false,
      (Protocol.processFrame cfg hmac env usbContext request w).1, .idle⟩, [], [], some issued,
      .idle, [], issued + 1, log ++ [momentOf cfg hmac env request w]⟩
    from .to (.handler (.process (exchangeOf cfg hmac usbContext env request w))) rfl trivial
      (.handler (.process rfl bound rfl rfl rfl)) rfl) ?_
  refine .head (show ServiceStep cfg hmac _ ⟨Service.of s ⟨
      (Protocol.processFrame cfg hmac env usbContext request w).2, .idle, [], n + 1, false,
      .marked s.generation, 0, true,
      (Protocol.processFrame cfg hmac env usbContext request w).1, .idle⟩, [], [], some issued,
      .idle, [], issued + 1, log ++ [momentOf cfg hmac env request w]⟩
    from .to (.handler .mark) rfl trivial (.handler (.mark rfl)) rfl) ?_
  refine .head (show ServiceStep cfg hmac _ ⟨Service.of s ⟨
      (Protocol.processFrame cfg hmac env usbContext request w).2, .idle, [], n + 1, false,
      .written s.generation, 0, true,
      (Protocol.processFrame cfg hmac env usbContext request w).1, .idle⟩, [], [], some issued,
      .armed, [], issued + 1, log ++ [momentOf cfg hmac env request w]⟩
    from .to (.handler (.write 0)) rfl trivial (.handler (.written rfl)) rfl) ?_
  refine .head (show ServiceStep cfg hmac _ ⟨Service.of s ⟨
      (Protocol.processFrame cfg hmac env usbContext request w).2, .idle, [], n + 1, false,
      .unlocking false, 0, true,
      (Protocol.processFrame cfg hmac env usbContext request w).1, .idle⟩, [], [], some issued,
      .armed, [], issued + 1, log ++ [momentOf cfg hmac env request w]⟩
    from .to (.handler .recheck) rfl trivial (.handler (.sent rfl rfl)) rfl) ?_
  exact .single (.to (.handler .unlock) rfl trivial (.handler (.unlock rfl)) rfl)

/-- From the endpoint to the host, and the permit back. -/
theorem written_fetched (s : Transport) (w : World) (n : Nat) (response : Frame) (issued : Nat)
    (log : List (Moment World Exchange)) (online : s.online = true) :
    ReflTransGen (ServiceStep cfg hmac)
      ⟨Service.of s ⟨w, .idle, [], n, false, .idle, 0, true, response, .idle⟩, [], [],
        some issued, .armed, [], issued + 1, log⟩
      ⟨Service.of s ⟨w, .idle, [], n, true, .idle, 1, false, response, .idle⟩, [], [], none,
        .idle, [(issued, response)], issued + 1, log⟩ := by
  refine .head (.fetch rfl) ?_
  refine .head (show ServiceStep cfg hmac _ ⟨Service.of s ⟨w, .idle, [], n, false, .idle, 0, false,
      response, .completed⟩, [], [], none, .idle, [(issued, response)], issued + 1, log⟩
    from .to (.ready controlCaller .complete) rfl rfl
      (.ready (.complete (Service.of_readies ..) rfl))
      (by simp [Bus.follow, Service.of, Transport.readying, Bus.answered])) ?_
  refine .head (show ServiceStep cfg hmac _ ⟨Service.of s ⟨w, .idle, [], n, false, .idle, 1, false,
      response, .given⟩, [], [], none, .idle, [(issued, response)], issued + 1, log⟩
    from .to (.ready controlCaller .give) rfl trivial (.ready (.give (Service.of_readies ..)))
      (by simp [Bus.follow, Service.of, Transport.readying, Transport.giveIn, inSemLimit])) ?_
  refine .head (show ServiceStep cfg hmac _ ⟨Service.of s ⟨w, .idle, [], n, false, .idle, 1, false,
      response, .resubmitting⟩, [], [], none, .idle, [(issued, response)], issued + 1, log⟩
    from .to (.ready controlCaller .checkOnline) rfl trivial
      (.ready (.online (Service.of_readies ..) online))
      (by simp [Bus.follow, Service.of, Transport.readying])) ?_
  exact .single (.to (.ready controlCaller (.submit 0)) rfl trivial
    (.ready (.submit (Service.of_readies ..)))
    (by simp [Bus.follow, Service.of, Transport.readying, Transport.submit]))

/-- The bus serves a request and is at rest again, but for the answer that
waits in the host. -/
theorem bus_serves (cfg : Config) (hmac : Hmac) (env : Env) (request : Frame) (issued : Nat)
    (log : List (Moment World Exchange)) (rest : AtRest s) (bound : s.bound = true) :
    ∃ s', ReflTransGen (ServiceStep cfg hmac) ((settled s issued log).write true request)
        ⟨s', [], [], none, .idle,
          [(issued, (Protocol.processFrame cfg hmac env usbContext request s.world).1)],
          issued + 1, log ++ [momentOf cfg hmac env request s.world]⟩ ∧
      AtRest s' ∧ s'.bound = true ∧
      s'.world = (Protocol.processFrame cfg hmac env usbContext request s.world).2 := by
  obtain ⟨online, unreset, handler, queue, report, readies, permit, flag⟩ := rest
  have start : s = Service.of s ⟨s.world, .idle, [], s.arrivals, s.workPending, .idle, 1, false,
      s.txResponse, .idle⟩ := by
    simp [Service.of, ← handler, ← queue, ← permit, ← flag, ← report, ← readies controlCaller]
  have written : (settled s issued log).write true request =
      ⟨Service.of s ⟨s.world, .idle, [], s.arrivals, s.workPending, .idle, 1, false,
        s.txResponse, .idle⟩, [(issued, request)], [], none, .idle, [], issued + 1, log⟩ := by
    rw [← start]
    rfl
  have taken : ReflTransGen (ServiceStep cfg hmac) _ _ :=
    served_queued s s.world s.arrivals s.workPending s.txResponse request issued log online
  have answered : ReflTransGen (ServiceStep cfg hmac) _ _ :=
    queued_written s s.world s.arrivals s.txResponse request issued log env online unreset bound
  have fetched : ReflTransGen (ServiceStep cfg hmac) _ _ := written_fetched s
    (Protocol.processFrame cfg hmac env usbContext request s.world).2 (s.arrivals + 1)
    (Protocol.processFrame cfg hmac env usbContext request s.world).1 issued
    (log ++ [momentOf cfg hmac env request s.world]) online
  have whole := taken.trans (answered.trans fetched)
  rw [← written] at whole
  refine ⟨_, whole, ?_, bound, rfl⟩
  refine ⟨online, unreset, rfl, rfl, Service.of_reports .., ?_, rfl, rfl⟩
  intro caller
  by_cases same : caller = controlCaller
  · rw [same]
    exact Service.of_readies ..
  · simp [Service.of, same, readies caller]

/-- So a client that waits hears the answer to its request. -/
theorem bus_exchanges (cfg : Config) (hmac : Hmac) {timeoutMs : Int} (env : Env) (request : Frame)
    (issued : Nat) (log : List (Moment World Exchange)) (rest : AtRest s)
    (bound : s.bound = true) (positive : 0 < timeoutMs) :
    ∃ s', BusExchanged cfg hmac timeoutMs (settled s issued log) request
        (.ok (Protocol.processFrame cfg hmac env usbContext request s.world).1)
        (settled s' (issued + 1) (log ++ [momentOf cfg hmac env request s.world])) ∧
      AtRest s' ∧ s'.bound = true ∧
      s'.world = (Protocol.processFrame cfg hmac env usbContext request s.world).2 := by
  obtain ⟨s', serves, rest', bound', world⟩ := bus_serves cfg hmac env request issued log rest bound
  have waits := serves.lift id fun _ _ => ServiceStep.bus
  refine ⟨s', ?_, rest', bound', world⟩
  have echoes := Protocol.processFrame_echoes cfg hmac env usbContext request s.world
  generalize (Protocol.processFrame cfg hmac env usbContext request s.world).1 = response
    at waits echoes ⊢
  have fits : answersTo response request = true := by
    simp [answersTo, echoes.requestId, echoes.opcode, echoes.slot]
  have early := HidTransport.deadline_pos positive
  refine ⟨_, true, .returned 33, .ofInt 0, [⟨.ofInt 0, .returned (inputReport response)⟩], .refl,
    ?_, .turn waits (.heard rfl (fun _ => by simp) (Or.inl rfl)) (.nil _)⟩
  exact HidTransport.awaitResponse_decides
    (.answered early (HidTransport.readFrame_eq_ok_iff.mpr (Or.inl rfl)) fits)

/-- A client that hears nothing gives up. -/
theorem exchange_silent {timeoutMs : Int} (request : Frame) (positive : 0 < timeoutMs) :
    HidTransport.exchange request timeoutMs (.returned 33) (.ofInt 0)
      [⟨.ofInt 0, .returned []⟩] = some (.error (.transportError .timeoutError), []) := by
  have silent : HidTransport.Decides request (HidTransport.deadline (.ofInt 0) timeoutMs)
      ⟨.ofInt 0, .returned []⟩ (.error (.transportError .timeoutError)) :=
    .failed (HidTransport.deadline_pos positive) rfl
  exact HidTransport.awaitResponse_decides silent

/-- A request that is lost has changed nothing when the client gives up. -/
theorem bus_loses_request (cfg : Config) (hmac : Hmac) {timeoutMs : Int} (request : Frame)
    (s : Transport) (issued : Nat) (log : List (Moment World Exchange))
    (positive : 0 < timeoutMs) :
    BusExchanged cfg hmac timeoutMs (settled s issued log) request
      (.error (.transportError .timeoutError)) (settled s (issued + 1) log) :=
  ⟨_, false, .returned 33, .ofInt 0, [⟨.ofInt 0, .returned []⟩], .refl,
    exchange_silent request positive, .turn .refl .silent (.nil _)⟩

/-- A client whose answer is lost gives up like one whose request is, but it
was served. -/
theorem bus_loses_answer (cfg : Config) (hmac : Hmac) {timeoutMs : Int} (env : Env)
    (request : Frame) (issued : Nat) (log : List (Moment World Exchange)) (rest : AtRest s)
    (bound : s.bound = true) (positive : 0 < timeoutMs) :
    ∃ s', BusExchanged cfg hmac timeoutMs (settled s issued log) request
        (.error (.transportError .timeoutError))
        (settled s' (issued + 1) (log ++ [momentOf cfg hmac env request s.world])) ∧
      AtRest s' ∧ s'.bound = true ∧
      s'.world = (Protocol.processFrame cfg hmac env usbContext request s.world).2 := by
  obtain ⟨s', serves, rest', bound', world⟩ :=
    bus_serves cfg hmac env request issued log rest bound
  have waits := serves.lift id fun _ _ => ServiceStep.bus
  have found : [(issued, (Protocol.processFrame cfg hmac env usbContext request s.world).1)] =
      [] ++ (issued, (Protocol.processFrame cfg hmac env usbContext request s.world).1) :: [] := rfl
  have lost := waits.tail (.loseIncoming found)
  exact ⟨s', ⟨_, true, .returned 33, .ofInt 0, [⟨.ofInt 0, .returned []⟩], .refl,
    exchange_silent request positive, .turn lost .silent (.nil _)⟩, rest', bound', world⟩

end RuntimeMacro.Source.UsbHid
