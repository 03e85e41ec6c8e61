import RuntimeMacro.Source.HidTransport
import RuntimeMacro.Source.LossyCalls
import RuntimeMacro.Source.UsbPermit

/-!
# The client at the other end of the USB transport

tools/runtime_macro_cli.py:382-463; runtime_macro_usb_hid.c:236-408.
`HidTransport` on the host and the transport of the firmware during one
connection: no lifecycle reset and no settings callback falls into it. One
control endpoint passes the reports to the callback. What has been written
waits in the host until the callback takes it, and an IN report waits in the
endpoint until the host fetches it. The numbers say which request a frame
stands for; nothing reads them but the statements.
-/
namespace RuntimeMacro.Source.UsbHid
open Foundations.Links Foundations.Runs Relation
open AuthCore (Hmac)
open HidTransport (Read Seconds Turn inputReport)
open RuntimeMacroClient (Answer ClientError answersTo)

/-- The thread in which the callbacks of the control endpoint run. -/
def controlCaller : Caller := 0

/-- The IN endpoint: a report is `armed` when a write is accepted and `fetched`
when the host has it; the completion callback makes it idle again. -/
inductive Endpoint where
  | idle | armed | fetched
  deriving DecidableEq

/-- The transfers that `int_in_ready` has to complete. -/
def Endpoint.owned : Endpoint → Nat
  | .idle => 0
  | .armed | .fetched => 1

/-- The transport, what waits before it and after it, and the calls that the
protocol has served over it, oldest first. -/
structure Bus where
  transport : Transport
  outgoing : List (Nat × Frame)
  line : List Nat
  answering : Option Nat
  endpoint : Endpoint
  incoming : List (Nat × Frame)
  issued : Nat
  served : List (Moment World Exchange)

/-- The frame in the locals of a callback. -/
def ReportPhase.carried : ReportPhase → List Frame
  | .sampled frame _ | .checked frame _ => [frame]
  | _ => []

/-- The requests that the transport has taken and not dealt with. -/
def pipeline (s : Transport) : List Frame :=
  (waiting s).map Request.frame ++ (s.reports controlCaller).carried

namespace Bus

/-- The response that is not with the host yet. -/
def answered (b : Bus) : List (Nat × Frame) :=
  b.answering.toList.map fun number => (number, b.transport.txResponse)

/-- What may happen during a connection. -/
def Admits (b : Bus) : Event → Prop
  | .report caller (.refuse _) => caller = controlCaller ∧ b.outgoing ≠ []
  | .report caller (.sample report) => caller = controlCaller ∧
      ∃ number frame rest, b.outgoing = (number, frame) :: rest ∧ report.frame = some frame
  | .report caller _ => caller = controlCaller
  | .ready _ .complete => b.endpoint = .fetched
  | .reset _ => False
  | .outside event => event.background = true
  | _ => True

/-- The bus after a step of the transport. -/
def follow (event : Event) (after : Transport) (b : Bus) : Bus :=
  match event with
  | .report _ (.refuse _) => { b with transport := after, outgoing := b.outgoing.tail }
  | .report _ (.sample _) =>
    { b with transport := after
             outgoing := b.outgoing.tail
             line := b.line ++ (b.outgoing.head?.map Prod.fst).toList }
  | .report _ .checkOnline =>
    { b with transport := after, line := if b.transport.online then b.line else b.line.dropLast }
  | .report _ (.put err) =>
    { b with transport := after, line := if err = 0 then b.line else b.line.dropLast }
  | .handler .checkDevice => { b with transport := after, line := b.line.tail }
  | .handler (.process exchange) =>
    { b with
      transport := after
      line := b.line.tail
      answering := b.line.head?
      served := b.served ++ [⟨b.transport.world, exchange, after.world⟩] }
  | .handler (.write err) =>
    if err = 0 then { b with transport := after, endpoint := .armed }
    else { b with transport := after, answering := none }
  | .ready _ .complete => { b with transport := after, endpoint := .idle }
  | _ => { b with transport := after }

/-- `device.write`: the report is on its way, or it is not. -/
def write (arrives : Bool) (request : Frame) (b : Bus) : Bus :=
  { b with
    outgoing := b.outgoing ++ if arrives then [(b.issued, request)] else []
    issued := b.issued + 1 }

end Bus

section
variable (cfg : Config) (hmac : Hmac)

/-- The keyboard takes a step, the host fetches what the endpoint offers, or a
report is lost on its way. -/
inductive BusStep (b : Bus) : Bus → Prop
  | device {event : Event} {s' : Transport} (admits : b.Admits event)
      (step : Step cfg hmac b.transport event s') : BusStep b (b.follow event s')
  | fetch (armed : b.endpoint = .armed) :
      BusStep b { b with
        endpoint := .fetched, answering := none, incoming := b.incoming ++ b.answered }
  | loseOutgoing {front back : List (Nat × Frame)} {item : Nat × Frame}
      (found : b.outgoing = front ++ item :: back) :
      BusStep b { b with outgoing := front ++ back }
  | loseIncoming {front back : List (Nat × Frame)} {item : Nat × Frame}
      (found : b.incoming = front ++ item :: back) :
      BusStep b { b with incoming := front ++ back }

/-- What a turn of the exchange does on the bus. An answer is heard before 256
further requests are issued. -/
inductive BusRead (request : Frame) (deadline : Seconds) (b : Bus) : Turn → Bus → Prop
  | late {turn : Turn} (past : deadline ≤ turn.clock) : BusRead request deadline b turn b
  | silent {clock : Seconds} : BusRead request deadline b ⟨clock, .returned []⟩ b
  | broken {clock : Seconds} : BusRead request deadline b ⟨clock, .raised⟩ b
  | heard {clock : Seconds} {number : Nat} {frame : Frame} {rest : List (Nat × Frame)}
      {data : List Int} (first : b.incoming = (number, frame) :: rest)
      (recent : answersTo frame request = true → b.issued ≤ number + 256)
      (report : data = inputReport frame ∨ data = 0 :: inputReport frame) :
      BusRead request deadline b ⟨clock, .returned data⟩ { b with incoming := rest }

/-- The turns of an exchange, with what happens while the client waits. -/
inductive BusTurns (request : Frame) (deadline : Seconds) : Bus → List Turn → Bus → Prop
  | nil (b : Bus) : BusTurns request deadline b [] b
  | turn {b waited heard b' : Bus} {turn : Turn} {turns : List Turn}
      (waits : ReflTransGen (BusStep cfg hmac) b waited)
      (reads : BusRead request deadline waited turn heard)
      (rest : BusTurns request deadline heard turns b') :
      BusTurns request deadline b (turn :: turns) b'

/-- `HidTransport.exchange` on the bus. -/
def BusExchanged (timeoutMs : Int) (b : Bus) (request : Frame)
    (outcome : Except ClientError Frame) (b' : Bus) : Prop :=
  ∃ before arrives written start turns, ReflTransGen (BusStep cfg hmac) b before ∧
    HidTransport.exchange request timeoutMs written start turns = some (outcome, []) ∧
    BusTurns cfg hmac request (HidTransport.deadline start timeoutMs)
      (before.write arrives request) turns b'

end

/-- What a call hears of the transport. -/
def outcomeOf : Answer → Except ClientError Frame
  | .ok response => .ok response
  | .error fault => .error (.transportError fault)

variable {cfg : Config} {hmac : Hmac} {b b' : Bus} {s s' : Transport} {event : Event}
  {link link' : Link Station Frame Frame}

/-! ## What holds during a connection -/

/-- The handler has answered a request and not handed the answer to the
endpoint. -/
def HandlerPhase.answers : HandlerPhase → Bool
  | .answered _ | .marked _ => true
  | _ => false

theorem HandlerPhase.answers_of_released {phase : HandlerPhase} (released : phase.holds = false) :
    phase.answers = false := by
  cases phase with
  | answered | marked => cases released
  | _ => rfl

/-- While a transfer is with the endpoint, the handler has no permit. -/
theorem Permit.released_of_owned (permit : Permit s 1) : s.handler.holds = false := by
  cases permit with
  | sent _ _ _ released => exact released
  | free _ _ unowned | held _ _ unowned | completed _ _ unowned | reclaimed _ _ unowned =>
    cases unowned

/-- The transport is up and stays so. -/
structure Steady (s : Transport) : Prop where
  online : s.online = true
  unreset : s.reset = none
  inside : s.handler ≠ .offline
  guarded : Guarded s
  current : ∀ request ∈ waiting s, request.generation = s.generation
  sampled : ∀ frame generation, s.reports controlCaller = .sampled frame generation ∨
    s.reports controlCaller = .checked frame generation → generation = s.generation

/-- The ghosts of the bus agree with the transport: a number for every request
that it holds, and one for the response while the handler or the endpoint has
it. -/
structure Connected (b : Bus) : Prop where
  steady : Steady b.transport
  permit : Permit b.transport b.endpoint.owned
  line : b.line.length = (pipeline b.transport).length
  answering : b.answering.isSome = true ↔
    b.transport.handler.answers = true ∨ b.endpoint = .armed

theorem Steady.unflagged (steady : Steady s) : Unflagged s := by
  rintro ⟨reset, _, held, _⟩
  cases steady.unreset.symm.trans held

/-- A step that leaves the queue, the generation and the callback of the
control endpoint. -/
theorem Steady.congr (steady : Steady s) (guarded : Guarded s') (online : s'.online = s.online)
    (unreset : s'.reset = s.reset) (inside : s'.handler ≠ .offline)
    (generation : s'.generation = s.generation) (line : (waiting s').Sublist (waiting s))
    (reports : s'.reports = s.reports) : Steady s' := by
  constructor
  · exact online.trans steady.online
  · exact unreset.trans steady.unreset
  · exact inside
  · exact guarded
  · intro request member
    rw [generation]
    exact steady.current request (line.subset member)
  · intro frame stamp
    rw [reports, generation]
    exact steady.sampled frame stamp

/-- The callback of the control endpoint moves on. -/
theorem Steady.reporting {phase : ReportPhase} (steady : Steady s)
    (fresh : ∀ frame generation, phase = .sampled frame generation ∨
      phase = .checked frame generation → generation = s.generation) :
    Steady (s.reporting controlCaller phase) := by
  constructor
  · exact steady.online
  · exact steady.unreset
  · exact steady.inside
  · exact steady.guarded.congr rfl rfl rfl rfl
  · exact steady.current
  · intro frame generation
    rw [Transport.reporting_reports_self]
    exact fresh frame generation

/-- It has left its locals behind. -/
theorem Steady.returns {phase : ReportPhase} (steady : Steady s) (empty : phase.carried = []) :
    Steady (s.reporting controlCaller phase) := by
  apply steady.reporting
  rintro frame generation (rfl | rfl)
  · cases empty
  · cases empty

theorem Steady.put {frame : Frame} {generation : UInt32} (steady : Steady s)
    (checked : s.reports controlCaller = .checked frame generation) :
    Steady (s.put frame generation) := by
  constructor
  · exact steady.online
  · exact steady.unreset
  · exact steady.inside
  · exact steady.guarded.congr rfl rfl rfl rfl
  · intro request member
    have line : waiting (s.put frame generation) =
        waiting s ++ [⟨frame, generation, s.arrivals⟩] := by
      simp [waiting, Transport.put]
    rw [line] at member
    rcases List.mem_append.mp member with earlier | latest
    · exact steady.current request earlier
    · rw [List.mem_singleton.mp latest]
      exact steady.sampled frame generation (Or.inr checked)
  · exact steady.sampled

theorem Steady.handler {event : HandlerEvent} (steady : Steady s)
    (step : HandlerStep cfg hmac s event s') : Steady s' := by
  have whole : Step cfg hmac s (.handler event) s' := .handler step
  have line : (waiting s').Sublist (waiting s) := by
    rcases step_waiting whole with
      ⟨_, _, _, impossible, _⟩ | ⟨_, _, line⟩
    · cases impossible
    · exact (List.sublist_append_right _ _).trans line
  have inside : s'.handler ≠ .offline := by
    cases step with
    | offline _ down => cases steady.online.symm.trans down
    | busy => exact steady.inside
    | unlock => simp only [Transport.handling]; split <;> simp
    | _ => simp [Transport.handling]
  refine steady.congr (steady.guarded.step whole) ?_ ?_ inside (step_generation whole) line ?_
  · cases step <;> rfl
  · cases step <;> rfl
  · cases step <;> rfl

theorem Steady.step (steady : Steady b.transport) (admits : b.Admits event)
    (step : Step cfg hmac b.transport event s') : Steady s' := by
  have guarded := steady.guarded.step step
  cases step with
  | @report caller call _ step =>
    have control : caller = controlCaller := by
      cases call with
      | refuse | sample => exact admits.1
      | checkOnline | put | submit => exact admits
    subst control
    cases step with
    | refuse => exact steady
    | sample =>
      apply steady.reporting
      rintro frame generation (same | other)
      · cases same
        rfl
      · cases other
    | online sampled =>
      apply steady.reporting
      rintro frame generation (other | same)
      · cases other
      · cases same
        exact steady.sampled _ _ (Or.inl sampled)
    | queued checked => exact (steady.put checked).returns rfl
    | submit =>
      refine Steady.returns ?_ rfl
      exact steady.congr (steady.guarded.congr rfl rfl rfl rfl) rfl rfl steady.inside rfl
        (List.Sublist.refl _) rfl
    | offline | unqueued => exact steady.returns rfl
  | ready step =>
    cases step <;>
      exact steady.congr guarded rfl rfl steady.inside rfl (List.Sublist.refl _) rfl
  | handler step => exact steady.handler step
  | reset => exact admits.elim
  | outside | bind =>
    exact steady.congr guarded rfl rfl steady.inside rfl (List.Sublist.refl _) rfl

/-! ## The permit during a connection -/

theorem Bus.follow_transport (event : Event) (after : Transport) (b : Bus) :
    (b.follow event after).transport = after := by
  unfold Bus.follow
  split
  any_goals rfl
  split <;> rfl

theorem Connected.follow_permit (connected : Connected b) (admits : b.Admits event)
    (step : Step cfg hmac b.transport event s') :
    Permit s' (b.follow event s').endpoint.owned := by
  have once : ∀ caller, event = .ready caller .complete → 0 < b.endpoint.owned := by
    rintro caller rfl
    have fetched : b.endpoint = .fetched := admits
    rw [fetched]
    decide
  have orderly : Orderly b.transport event := by
    rintro rfl
    exact admits.elim
  have permit := connected.permit.step connected.steady.guarded connected.steady.unflagged orderly
    once step
  suffices same : ownership b.endpoint.owned event = (b.follow event s').endpoint.owned by
    rw [← same]
    exact permit
  cases event with
  | report caller call => cases call <;> rfl
  | ready caller call =>
    cases call with
    | complete =>
      have fetched : b.endpoint = .fetched := admits
      simp [ownership, Bus.follow, fetched, Endpoint.owned]
    | _ => rfl
  | handler call =>
    cases call with
    | write err =>
      by_cases accepted : err = 0
      · subst accepted
        have unowned : b.endpoint.owned = 0 := by
          cases step with
          | handler step =>
            cases step with
            | written marked => exact (connected.permit.of_holds (by rw [marked]; rfl)).2.2.1
            | unwritten _ failed => exact absurd rfl failed
        simp only [ownership, if_true, unowned]
        rfl
      · simp [ownership, Bus.follow, accepted]
    | _ => rfl
  | reset => exact admits.elim
  | outside | bind => rfl

/-! ## The link that the bus is -/

/-- The requests on the link are those that the transport holds and those that
wait before it; the responses are those that wait after it. -/
structure Mirrors (link : Link Station Frame Frame) (b : Bus) : Prop where
  connected : Connected b
  state : link.state.world = b.transport.world
  requests : link.requests = b.line.zip (pipeline b.transport) ++ b.outgoing
  responses : link.responses = b.incoming ++ b.answered
  issued : link.issued = b.issued
  served : link.state.served = b.served

theorem Mirrors.station (mirrors : Mirrors link b) :
    link.state = ⟨b.transport.world, b.served⟩ := by
  rw [← mirrors.state, ← mirrors.served]

/-- A step that the client cannot notice. -/
theorem Mirrors.quietly (mirrors : Mirrors link b) (steady : Steady s')
    (permit : Permit s' b.endpoint.owned) (world : s'.world = b.transport.world)
    (line : pipeline s' = pipeline b.transport)
    (answers : s'.handler.answers = b.transport.handler.answers)
    (response : s'.txResponse = b.transport.txResponse) :
    Mirrors link { b with transport := s' } := by
  obtain ⟨⟨_, _, length, answering⟩, state, requests, responses, issued, served⟩ := mirrors
  refine ⟨⟨steady, permit, ?_, ?_⟩, state.trans world.symm, ?_, ?_, issued, served⟩
  · rw [length, line]
  · rw [answering, answers]
  · rw [requests, line]
  · rw [responses, Bus.answered, Bus.answered, response]

theorem pipeline_reporting (phase : ReportPhase) (s : Transport) :
    pipeline (s.reporting controlCaller phase) =
      (waiting s).map Request.frame ++ phase.carried := by
  rw [pipeline, Transport.reporting_reports_self]
  rfl

theorem pipeline_of_report {phase : ReportPhase} (here : s.reports controlCaller = phase) :
    pipeline s = (waiting s).map Request.frame ++ phase.carried := by
  rw [pipeline, here]

/-- The last request the transport has taken is refused. -/
theorem zip_dropLast {numbers : List Nat} {frames : List Frame} {frame : Frame}
    (length : numbers.length = (frames ++ [frame]).length) :
    ∃ number, numbers.zip (frames ++ [frame]) =
      numbers.dropLast.zip frames ++ [(number, frame)] := by
  obtain ⟨front, last, rfl⟩ : ∃ front last, numbers = front ++ [last] := by
    rcases List.eq_nil_or_concat' numbers with rfl | found
    · simp at length
    · exact found
  refine ⟨last, ?_⟩
  have same : front.length = frames.length := by simpa using length
  rw [List.zip_append same, List.dropLast_concat]
  rfl

theorem Mirrors.report {call : ReportEvent} (mirrors : Mirrors link b)
    (admits : b.Admits (.report controlCaller call))
    (step : Step cfg hmac b.transport (.report controlCaller call) s') :
    ∃ link', ReflTransGen (LinkStep (device cfg hmac usbContext)) link link' ∧
      Mirrors link' (b.follow (.report controlCaller call) s') := by
  have steady := mirrors.connected.steady.step admits step
  have permit := mirrors.connected.follow_permit admits step
  obtain ⟨⟨_, _, length, answering⟩, state, requests, responses, issued, served⟩ := mirrors
  have inner : ReportStep controlCaller b.transport call s' := by
    cases step with
    | report step => exact step
  cases inner with
  | refuse =>
    obtain ⟨_, nonempty⟩ := admits
    obtain ⟨item, rest, waits⟩ := List.exists_cons_of_ne_nil nonempty
    rw [waits] at requests
    refine ⟨_, .single (.loseRequest requests), ?_⟩
    refine ⟨⟨steady, permit, length, answering⟩, state, ?_, responses, issued, served⟩
    simp only [Bus.follow, waits, List.tail_cons]
  | @sample report frame idle taken =>
    obtain ⟨_, number, carried, rest, waits, same⟩ := admits
    cases taken.symm.trans same
    have before : pipeline b.transport = (waiting b.transport).map Request.frame ++ [] :=
      pipeline_of_report idle
    have after := pipeline_reporting (.sampled frame b.transport.generation) b.transport
    rw [List.append_nil] at before
    rw [← before] at after
    refine ⟨link, .refl, ⟨steady, permit, ?_, answering⟩, state, ?_, responses, issued, served⟩
    · simp only [Bus.follow, after, waits, List.length_append, length]
      rfl
    · simp only [Bus.follow, after, waits, List.head?_cons, Option.map_some, Option.toList_some,
        List.tail_cons, ReportPhase.carried]
      rw [List.zip_append length, requests, waits]
      simp
  | offline _ down => cases steady.online.symm.trans down
  | @online frame generation sampled up =>
    have before : pipeline b.transport = (waiting b.transport).map Request.frame ++ [frame] :=
      pipeline_of_report sampled
    have after := pipeline_reporting (.checked frame generation) b.transport
    refine ⟨link, .refl, ⟨steady, permit, ?_, answering⟩, state, ?_, responses, issued, served⟩
    · simp only [Bus.follow, up, if_true, after]
      rw [length, before]
      rfl
    · simp only [Bus.follow, up, if_true, after]
      rw [requests, before]
      rfl
  | @unqueued frame generation err checked failed =>
    have before : pipeline b.transport = (waiting b.transport).map Request.frame ++ [frame] :=
      pipeline_of_report checked
    have after := pipeline_reporting .idle b.transport
    have shape : pipeline (b.transport.reporting controlCaller .idle) =
        (waiting b.transport).map Request.frame := after.trans (List.append_nil _)
    rw [before] at length requests
    obtain ⟨number, last⟩ := zip_dropLast length
    rw [last, List.append_assoc, List.singleton_append] at requests
    refine ⟨_, .single (.loseRequest requests), ?_⟩
    refine ⟨⟨steady, permit, ?_, answering⟩, state, ?_, responses, issued, served⟩
    · simp only [Bus.follow, if_neg failed, shape, List.length_dropLast, length]
      simp
    · simp only [Bus.follow, if_neg failed, shape]
  | @queued frame generation checked room =>
    have before : pipeline b.transport = (waiting b.transport).map Request.frame ++ [frame] :=
      pipeline_of_report checked
    have after : pipeline ((b.transport.put frame generation).reporting controlCaller .queued) =
        pipeline b.transport := by
      rw [pipeline_reporting, before]
      simp [waiting, Transport.put, ReportPhase.carried]
    refine ⟨link, .refl, ⟨steady, permit, ?_, answering⟩, state, ?_, responses, issued, served⟩
    · simp only [Bus.follow, if_true, after, length]
    · simp only [Bus.follow, if_true, after, requests]
  | @submit err queued =>
    have before : pipeline b.transport = (waiting b.transport).map Request.frame ++ [] :=
      pipeline_of_report queued
    have after : pipeline ((b.transport.submit err).reporting controlCaller .idle) =
        pipeline b.transport := by
      rw [pipeline_reporting, before]
      rfl
    refine ⟨link, .refl, ⟨steady, permit, ?_, answering⟩, state, ?_, responses, issued, served⟩
    · simp only [Bus.follow, after, length]
    · simp only [Bus.follow, after, requests]

theorem Mirrors.ready {caller : Caller} {call : ReadyEvent} (mirrors : Mirrors link b)
    (admits : b.Admits (.ready caller call))
    (step : Step cfg hmac b.transport (.ready caller call) s') :
    Mirrors link (b.follow (.ready caller call) s') := by
  have steady := mirrors.connected.steady.step admits step
  have permit := mirrors.connected.follow_permit admits step
  have completed : ∀ {s' : Transport}, b.endpoint = .fetched → Steady s' →
      Permit s' Endpoint.idle.owned → s'.world = b.transport.world →
      pipeline s' = pipeline b.transport → s'.handler = b.transport.handler →
      s'.txResponse = b.transport.txResponse →
      Mirrors link { b with transport := s', endpoint := .idle } := by
    intro s' fetched steady permit world line handler response
    obtain ⟨⟨_, _, length, answering⟩, state, requests, responses, issued, served⟩ := mirrors
    refine ⟨⟨steady, permit, ?_, ?_⟩, state.trans world.symm, ?_, ?_, issued, served⟩
    · rw [length, line]
    · rw [answering, handler, fetched]
      simp
    · rw [requests, line]
    · rw [responses, Bus.answered, Bus.answered, response]
  cases step with
  | ready step =>
    cases step with
    | late | complete => exact completed admits steady permit rfl rfl rfl rfl
    | give | offline | online | submit =>
      exact mirrors.quietly steady permit rfl rfl rfl rfl

/-- The handler moves on and holds what it held. -/
theorem pipeline_kept {phase next : HandlerPhase} (here : s.handler = phase)
    (moved : s'.handler = next) (queue : s'.queue = s.queue) (reports : s'.reports = s.reports)
    (kept : next.held = phase.held) : pipeline s' = pipeline s := by
  rw [pipeline, pipeline, waiting, waiting, here, moved, queue, reports, kept]

/-- The request in the hands of the handler is the first on the link. -/
theorem Mirrors.held {request : Request} (mirrors : Mirrors link b)
    (held : b.transport.handler.held = [request]) :
    ∃ number line, b.line = number :: line ∧
      pipeline b.transport = request.frame :: (b.transport.queue.map Request.frame ++
        (b.transport.reports controlCaller).carried) ∧
      line.length = (b.transport.queue.map Request.frame ++
        (b.transport.reports controlCaller).carried).length ∧
      link.requests = (number, request.frame) :: (line.zip (b.transport.queue.map Request.frame ++
        (b.transport.reports controlCaller).carried) ++ b.outgoing) := by
  have shape : pipeline b.transport = request.frame :: (b.transport.queue.map Request.frame ++
      (b.transport.reports controlCaller).carried) := by
    rw [pipeline, waiting, held]
    simp
  have length := mirrors.connected.line
  rw [shape, List.length_cons] at length
  obtain ⟨number, line, split⟩ := List.exists_cons_of_length_eq_add_one length
  refine ⟨number, line, split, shape, ?_, ?_⟩
  · rw [split, List.length_cons] at length
    omega
  · rw [mirrors.requests, split, shape]
    rfl

/-- While the handler has no answer, the endpoint has none either. -/
theorem Mirrors.unanswered (mirrors : Mirrors link b)
    (holds : b.transport.handler.holds = true) (silent : b.transport.handler.answers = false) :
    b.answering = none ∧ b.endpoint = .idle := by
  have unowned := (mirrors.connected.permit.of_holds holds).2.2.1
  have idle : b.endpoint = .idle := by
    cases at' : b.endpoint with
    | idle => rfl
    | armed | fetched =>
      rw [at'] at unowned
      cases unowned
  refine ⟨?_, idle⟩
  rw [← Option.not_isSome_iff_eq_none, mirrors.connected.answering, silent, idle]
  simp

theorem Mirrors.handler {call : HandlerEvent} (mirrors : Mirrors link b)
    (step : Step cfg hmac b.transport (.handler call) s') :
    ∃ link', ReflTransGen (LinkStep (device cfg hmac usbContext)) link link' ∧
      Mirrors link' (b.follow (.handler call) s') := by
  have admits : b.Admits (.handler call) := trivial
  have steady := mirrors.connected.steady.step admits step
  have permit := mirrors.connected.follow_permit admits step
  have quiet : ∀ {phase next : HandlerPhase} {s' : Transport}, b.transport.handler = phase →
      s'.handler = next → Steady s' → Permit s' b.endpoint.owned →
      s'.world = b.transport.world → s'.queue = b.transport.queue →
      s'.reports = b.transport.reports → s'.txResponse = b.transport.txResponse →
      next.held = phase.held → next.answers = phase.answers →
      Mirrors link { b with transport := s' } := by
    intro phase next s' here moved steady permit world queue reports response held answers
    refine mirrors.quietly steady permit world (pipeline_kept here moved queue reports held) ?_
      response
    rw [moved, here, answers]
  have inner : HandlerStep cfg hmac b.transport call s' := by
    cases step with
    | handler step => exact step
  cases inner with
  | busy => exact ⟨link, .refl, mirrors.quietly steady permit rfl rfl rfl rfl⟩
  | take here | lock here | sampleGeneration here | online here | empty here | current here
  | mark here | sent here | withdraw here | give here | submit here =>
    exact ⟨link, .refl, quiet here rfl steady permit rfl rfl rfl rfl rfl rfl⟩
  | @unlock resubmit here =>
    refine ⟨link, .refl, quiet here rfl steady permit rfl rfl rfl rfl ?_ ?_⟩
    · cases resubmit <;> rfl
    · cases resubmit <;> rfl
  | offline _ down => cases mirrors.connected.steady.online.symm.trans down
  | purge here => exact absurd here mirrors.connected.steady.inside
  | @stale generation request here moved =>
    have stamp := mirrors.connected.steady.guarded.stamp generation (by rw [here]; rfl)
    have current := mirrors.connected.steady.current request (by
      rw [waiting, here]
      exact List.mem_cons_self)
    exact absurd (current.trans stamp) moved
  | moved here moved =>
    exact absurd (mirrors.connected.steady.guarded.stamp _ (by rw [here]; rfl)) moved
  | @get generation request rest here first =>
    refine ⟨link, .refl, mirrors.quietly steady permit rfl ?_ (by rw [here]; rfl) rfl⟩
    rw [pipeline, pipeline, waiting, waiting, here, first]
    rfl
  | @unbound generation request here missing =>
    obtain ⟨number, line, split, shape, length, requests⟩ := mirrors.held (by rw [here]; rfl)
    obtain ⟨⟨_, _, _, answering⟩, state, _, responses, issued, served⟩ := mirrors
    rw [← List.nil_append (_ :: _)] at requests
    refine ⟨_, .single (.loseRequest requests), ?_⟩
    refine ⟨⟨steady, permit, ?_, ?_⟩, state, ?_, responses, issued, served⟩
    · simp only [Bus.follow, split, List.tail_cons, length]
      rfl
    · simp only [Bus.follow]
      rw [answering, here]
      rfl
    · simp only [Bus.follow, split, List.tail_cons]
      rfl
  | @process generation request exchange err world here bound owner given processed =>
    obtain ⟨number, line, split, shape, length, requests⟩ := mirrors.held (by rw [here]; rfl)
    obtain ⟨nothing, idle⟩ := mirrors.unanswered (by rw [here]; rfl) (by rw [here]; rfl)
    simp only [Protocol.process, Prod.mk.injEq, Option.some.injEq] at processed
    obtain ⟨rfl, answer, left⟩ := processed
    have called : FrameStep cfg hmac link.state.world
        ⟨usbContext, exchange.env, request.frame, exchange.response⟩ world := by
      rw [mirrors.state, ← owner, ← given]
      exact Prod.ext answer left
    refine ⟨_, .single (.deliver requests (s := link.state.serve _ world)
      ⟨exchange.env, world, trivial, called, rfl⟩), ?_⟩
    obtain ⟨⟨_, _, _, answering⟩, state, _, responses, issued, served⟩ := mirrors
    refine ⟨⟨steady, permit, ?_, ?_⟩, rfl, ?_, ?_, issued, ?_⟩
    · simp only [Bus.follow, split, List.tail_cons, length]
      rfl
    · simp [Bus.follow, split, Transport.handling, HandlerPhase.answers]
    · simp only [Bus.follow, split, List.tail_cons]
      rfl
    · have before : b.answered = [] := by rw [Bus.answered, nothing]; rfl
      rw [responses, before, List.append_nil]
      simp [Bus.follow, Bus.answered, split, Transport.handling]
    · simp only [Bus.follow, Transport.handling, Station.serve, served, state, ← owner, ← given]
  | @written generation here =>
    obtain ⟨⟨_, _, length, answering⟩, state, requests, responses, issued, served⟩ := mirrors
    have line : pipeline (b.transport.handling (.written generation)) = pipeline b.transport :=
      pipeline_kept here rfl rfl rfl rfl
    refine ⟨link, .refl, ⟨steady, permit, ?_, ?_⟩, state, ?_, responses, issued, served⟩
    · simp only [Bus.follow, if_true, line, length]
    · simp only [Bus.follow, if_true]
      rw [answering, here]
      simp [HandlerPhase.answers]
    · simp only [Bus.follow, if_true, line, requests]
  | @unwritten generation err here failed =>
    obtain ⟨⟨_, before, length, answering⟩, state, requests, responses, issued, served⟩ := mirrors
    have unowned := (before.of_holds (by rw [here]; rfl)).2.2.1
    have line : pipeline (b.transport.handling .withdrawing) = pipeline b.transport :=
      pipeline_kept here rfl rfl rfl rfl
    obtain ⟨number, some⟩ := Option.isSome_iff_exists.mp
      (answering.mpr (Or.inl (by rw [here]; rfl)))
    have last : b.answered = [(number, b.transport.txResponse)] := by rw [Bus.answered, some]; rfl
    simp only [Bus.follow, if_neg failed] at steady permit ⊢
    rw [last] at responses
    refine ⟨_, .single (.loseResponse responses), ?_⟩
    refine ⟨⟨steady, permit, ?_, ?_⟩, state, ?_, ?_, issued, served⟩
    · rw [line, length]
    · have idle : b.endpoint ≠ .armed := by
        intro armed
        rw [armed] at unowned
        cases unowned
      simp [idle, Transport.handling, HandlerPhase.answers]
    · rw [line, requests]
    · simp [Bus.answered]

/-- Every step of the bus is a step of the link, or none. -/
theorem Mirrors.step (mirrors : Mirrors link b) (step : BusStep cfg hmac b b') :
    ∃ link', ReflTransGen (LinkStep (device cfg hmac usbContext)) link link' ∧
      Mirrors link' b' := by
  cases step with
  | @device event s' admits step =>
    have steady := mirrors.connected.steady.step admits step
    have permit := mirrors.connected.follow_permit admits step
    cases event with
    | report caller call =>
      have control : caller = controlCaller := by
        cases call with
        | refuse | sample => exact admits.1
        | checkOnline | put | submit => exact admits
      subst control
      exact mirrors.report admits step
    | ready caller call => exact ⟨link, .refl, mirrors.ready admits step⟩
    | handler call => exact mirrors.handler step
    | reset => exact admits.elim
    | outside call =>
      cases step with
      | @outside _ world elsewhere step =>
        have rested : Station.Rests cfg hmac link.state { link.state with world := world } :=
          ⟨call, world, admits, by rw [mirrors.state]; exact step, rfl⟩
        refine ⟨_, .single (.rest rested), ?_⟩
        obtain ⟨⟨_, _, length, answering⟩, state, requests, responses, issued, served⟩ := mirrors
        exact ⟨⟨steady, permit, length, answering⟩, rfl, requests, responses, issued, served⟩
    | bind =>
      cases step
      exact ⟨link, .refl, mirrors.quietly steady permit rfl rfl rfl rfl⟩
  | fetch armed =>
    obtain ⟨connected, state, requests, responses, issued, served⟩ := mirrors
    obtain ⟨steady, permit, length, answering⟩ := connected
    rw [armed] at permit
    refine ⟨link, .refl, ⟨steady, permit, length, ?_⟩, state, requests, ?_, issued, served⟩
    · have silent := HandlerPhase.answers_of_released permit.released_of_owned
      simp [silent]
    · simp [responses, Bus.answered]
  | loseOutgoing found =>
    obtain ⟨connected, state, requests, responses, issued, served⟩ := mirrors
    refine ⟨_, .single (.loseRequest (requests.trans (by rw [found, ← List.append_assoc]))), ?_⟩
    obtain ⟨steady, permit, length, answering⟩ := connected
    exact ⟨⟨steady, permit, length, answering⟩, state, by simp, responses, issued, served⟩
  | loseIncoming found =>
    obtain ⟨connected, state, requests, responses, issued, served⟩ := mirrors
    have split := responses.trans (congrArg (· ++ b.answered) found)
    rw [List.append_assoc] at split
    refine ⟨_, .single (.loseResponse split), ?_⟩
    obtain ⟨steady, permit, length, answering⟩ := connected
    refine ⟨⟨steady, permit, length, answering⟩, state, requests, ?_, issued, served⟩
    simp [Bus.answered]

end RuntimeMacro.Source.UsbHid
