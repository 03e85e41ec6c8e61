import RuntimeMacro.Source.WorldRuns

/-!
# USB HID transport

runtime_macro_usb_hid.c:46-449. SET_REPORT callbacks queue requests without a
lock, the work handler serves one request at a time under the transport mutex
and the IN permit, `int_in_ready` gives the permit back, and a lifecycle
notification resets the transport under the mutex. Every access to an atomic,
the queue, the semaphore or the mutex is a step of its own. A phase is where a
party stands and what its locals hold.
-/
namespace RuntimeMacro.Source.UsbHid
open AuthCore (Hmac)

abbrev Caller := Nat

def queueDepth : Nat := 4
def reportTypeOutput : UInt16 := 0x0200
def reportId : UInt16 := 0
def frameSize : Int := 32
def inSemLimit : Nat := 1

/-- `USB_HID_SET_REPORT`. -/
def usbHidSetReport : UInt8 := 9

/-- `runtime_macro_usb_hid_protocol`. -/
def usbContext : ContextId := 0

/-! ## Status of the bus -/

/-- `enum zmk_usb_conn_state`. -/
inductive ConnState where
  | none | powered | hid
  deriving DecidableEq

/-- `enum usb_dc_status_code`. -/
inductive UsbStatus where
  | error | reset | connected | configured | disconnected | suspend | resume | interface
  | setHalt | clearHalt | sof | unknown
  deriving DecidableEq

/-- `runtime_macro_usb_hid_conn_state_for_status`
(runtime_macro_usb_hid.c:103-118). -/
def connStateForStatus : UsbStatus → ConnState
  | .suspend | .configured | .resume | .clearHalt | .sof => .hid
  | .disconnected | .unknown => .none
  | _ => .powered

/-- `runtime_macro_usb_hid_status_reclaims_in`
(runtime_macro_usb_hid.c:120-143): the statuses after which the endpoint no
longer has the response buffer. -/
def statusReclaimsIn : UsbStatus → Bool
  | .reset | .disconnected | .configured => true
  | _ => false

/-! ## Requests -/

/-- `struct usb_setup_packet`, as far as it is read. -/
structure SetupPacket where
  bRequest : UInt8
  wValue : UInt16

/-- The arguments of one SET_REPORT callback. -/
structure Report where
  setup : Option SetupPacket
  len : Option Int
  data : Option Frame

/-- The frame of a report that passes the checks at the head of the
callback. -/
def Report.frame (report : Report) : Option Frame :=
  match report.setup, report.len, report.data with
  | some setup, some len, some data =>
    if setup.bRequest ≠ usbHidSetReport ∨ setup.wValue &&& 0xff00 ≠ reportTypeOutput ∨
        setup.wValue &&& 0x00ff ≠ reportId ∨ len ≠ frameSize then none
    else some data
  | _, _, _ => none

/-- `struct runtime_macro_usb_hid_request`. `arrival` numbers the requests ever
queued; no step reads it. -/
structure Request where
  frame : Frame
  generation : UInt32
  arrival : Nat

/-- `runtime_macro_usb_hid_init_error_response`
(runtime_macro_usb_hid.c:314-327). -/
def initErrorResponse (request : Frame) : Frame :=
  (Frame.initResponse (some request)).setStatus .internal

/-! ## The parties -/

/-- Where a caller of `runtime_macro_usb_hid_set_report` stands, with the
generation it sampled. -/
inductive ReportPhase where
  | idle
  | sampled (frame : Frame) (generation : UInt32)
  | checked (frame : Frame) (generation : UInt32)
  | queued

/-- Where a caller of `runtime_macro_usb_hid_int_in_ready` stands. -/
inductive ReadyPhase where
  | idle | completed | given | resubmitting
  deriving DecidableEq

/-- `releasing` is before the semaphore is given and `unlocking` before the
mutex is; the flag says whether the work is submitted again afterwards. -/
inductive HandlerPhase where
  | idle
  | permitted
  | entered
  | sampled (generation : UInt32)
  | offline
  | online (generation : UInt32)
  | fetched (generation : UInt32) (request : Request)
  | current (generation : UInt32) (request : Request)
  | answered (generation : UInt32)
  | marked (generation : UInt32)
  | written (generation : UInt32)
  | withdrawing
  | releasing (resubmit : Bool)
  | unlocking (resubmit : Bool)
  | resubmitting

/-- The handler holds the transport mutex. -/
def HandlerPhase.locked : HandlerPhase → Bool
  | .idle | .permitted | .resubmitting => false
  | _ => true

/-- How far a reset has come, and the second status sample once it is taken. -/
inductive ResetPoint where
  | entered | offline | advanced | authReset | discarded | purged
  | sampled (statusAfter : UsbStatus)
  | unflagged (statusAfter : UsbStatus)
  | emptied (statusAfter : UsbStatus)
  | reclaimed (statusAfter : UsbStatus)
  | cleared (statusAfter : UsbStatus)
  | published
  deriving DecidableEq

/-- A `runtime_macro_usb_hid_transport_reset` that holds the mutex. -/
structure Reset where
  eventConnState : ConnState
  statusBefore : UsbStatus
  point : ResetPoint

namespace Reset

/-- The reset gets to its next point. -/
def goes (point : ResetPoint) (reset : Reset) : Reset := { reset with point := point }

/-- `status_stable`: both samples of the status agree. -/
def statusStable (statusAfter : UsbStatus) (reset : Reset) : Bool :=
  reset.statusBefore == statusAfter

/-- `event_matches_raw`: the status is stable and the notification speaks of
the same state. -/
def eventMatchesRaw (statusAfter : UsbStatus) (reset : Reset) : Bool :=
  reset.statusStable statusAfter && connStateForStatus statusAfter == reset.eventConnState

/-- `actual_management_usb_disconnect`: the one case in which the dynamic slots
are cleared. -/
def actualManagementUsbDisconnect (statusAfter : UsbStatus) (reset : Reset) : Bool :=
  reset.statusStable statusAfter && statusAfter == .disconnected &&
    reset.eventMatchesRaw statusAfter && reset.eventConnState == .none

/-- Whether the response buffer is taken back. -/
def reclaims (statusAfter : UsbStatus) (reset : Reset) : Bool :=
  reset.statusStable statusAfter && statusReclaimsIn statusAfter

/-- Whether the endpoint goes online at the end. -/
def publishes (statusAfter : UsbStatus) (reset : Reset) : Bool :=
  reset.eventMatchesRaw statusAfter && reset.eventConnState == .hid

end Reset

/-! ## The transport -/

/-- The statics of the file (runtime_macro_usb_hid.c:70-86), the firmware
behind them and the parties. `bound` says that `runtime_macro_usb_hid_dev` is
not NULL, `arrivals` counts the requests ever queued. -/
structure Transport where
  world : World
  bound : Bool
  online : Bool
  generation : UInt32
  inFlight : Bool
  inSem : Nat
  queue : List Request
  workPending : Bool
  txResponse : Frame
  reports : Caller → ReportPhase
  readies : Caller → ReadyPhase
  handler : HandlerPhase
  reset : Option Reset
  arrivals : Nat

namespace Transport

/-- After `runtime_macro_usb_hid_init` (runtime_macro_usb_hid.c:415-449) has
registered the callbacks, and before it sets the device pointer: the host can
already send. -/
def boot (cfg : Config) (settings : Settings) : Transport where
  world := .boot cfg settings
  bound := false
  online := true
  generation := 0
  inFlight := false
  inSem := inSemLimit
  queue := []
  workPending := false
  txResponse := .zero
  reports := fun _ => .idle
  readies := fun _ => .idle
  handler := .idle
  reset := none
  arrivals := 0

/-- A caller of the report callback moves on. -/
def reporting (caller : Caller) (phase : ReportPhase) (s : Transport) : Transport :=
  { s with reports := Function.update s.reports caller phase }

/-- A caller of the ready callback moves on. -/
def readying (caller : Caller) (phase : ReadyPhase) (s : Transport) : Transport :=
  { s with readies := Function.update s.readies caller phase }

/-- The work handler moves on. -/
def handling (phase : HandlerPhase) (s : Transport) : Transport := { s with handler := phase }

/-- The reset moves on. -/
def resetting (reset : Reset) (s : Transport) : Transport := { s with reset := some reset }

/-- `k_msgq_put` of a request there is room for. -/
def put (frame : Frame) (generation : UInt32) (s : Transport) : Transport :=
  { s with queue := s.queue ++ [⟨frame, generation, s.arrivals⟩], arrivals := s.arrivals + 1 }

/-- `k_work_submit`, answering `err`. -/
def submit (err : Int) (s : Transport) : Transport :=
  { s with workPending := s.workPending || decide (0 ≤ err) }

/-- `k_sem_give`. -/
def giveIn (s : Transport) : Transport := { s with inSem := min (s.inSem + 1) inSemLimit }

/-- Neither a reset nor the handler is inside the transport mutex. -/
def mutexFree (s : Transport) : Prop := s.reset = none ∧ s.handler.locked = false

end Transport

/-! ## Steps of `runtime_macro_usb_hid_set_report` -/

/-- The atomic operations of a report callback. -/
inductive ReportEvent where
  | refuse (report : Report)
  | sample (report : Report)
  | checkOnline
  | put (err : Int)
  | submit (err : Int)

/-- The steps of `runtime_macro_usb_hid_set_report`
(runtime_macro_usb_hid.c:236-285), which takes no lock: any other party may
stand between two of them. -/
inductive ReportStep (caller : Caller) (s : Transport) : ReportEvent → Transport → Prop
  | refuse {report : Report} (idle : s.reports caller = .idle) (refused : report.frame = none) :
      ReportStep caller s (.refuse report) s
  | sample {report : Report} {frame : Frame} (idle : s.reports caller = .idle)
      (taken : report.frame = some frame) :
      ReportStep caller s (.sample report) (s.reporting caller (.sampled frame s.generation))
  | offline {frame : Frame} {generation : UInt32}
      (sampled : s.reports caller = .sampled frame generation) (down : s.online = false) :
      ReportStep caller s .checkOnline (s.reporting caller .idle)
  | online {frame : Frame} {generation : UInt32}
      (sampled : s.reports caller = .sampled frame generation) (up : s.online = true) :
      ReportStep caller s .checkOnline (s.reporting caller (.checked frame generation))
  | unqueued {frame : Frame} {generation : UInt32} {err : Int}
      (checked : s.reports caller = .checked frame generation) (failed : err ≠ 0) :
      ReportStep caller s (.put err) (s.reporting caller .idle)
  | queued {frame : Frame} {generation : UInt32}
      (checked : s.reports caller = .checked frame generation)
      (room : s.queue.length < queueDepth) :
      ReportStep caller s (.put 0) ((s.put frame generation).reporting caller .queued)
  | submit {err : Int} (queued : s.reports caller = .queued) :
      ReportStep caller s (.submit err) ((s.submit err).reporting caller .idle)

/-- What the callback returns in the step, if it returns. -/
def ReportEvent.result (s : Transport) : ReportEvent → Option Int
  | .refuse _ => some (-einval)
  | .sample _ => none
  | .checkOnline => if s.online then none else some (-enodev)
  | .put err => if err = 0 then none else some (-enospc)
  | .submit err => some (if err < 0 then err else 0)

/-! ## Steps of `runtime_macro_usb_hid_int_in_ready` -/

/-- The atomic operations of a ready callback. -/
inductive ReadyEvent where
  | complete | give | checkOnline
  | submit (err : Int)

/-- The steps of `runtime_macro_usb_hid_int_in_ready`
(runtime_macro_usb_hid.c:287-312), which takes no lock either. -/
inductive ReadyStep (caller : Caller) (s : Transport) : ReadyEvent → Transport → Prop
  | late (idle : s.readies caller = .idle) (unowned : s.inFlight = false) :
      ReadyStep caller s .complete s
  | complete (idle : s.readies caller = .idle) (owned : s.inFlight = true) :
      ReadyStep caller s .complete ({ s with inFlight := false }.readying caller .completed)
  | give (completed : s.readies caller = .completed) :
      ReadyStep caller s .give (s.giveIn.readying caller .given)
  | offline (given : s.readies caller = .given) (down : s.online = false) :
      ReadyStep caller s .checkOnline (s.readying caller .idle)
  | online (given : s.readies caller = .given) (up : s.online = true) :
      ReadyStep caller s .checkOnline (s.readying caller .resubmitting)
  | submit {err : Int} (resubmitting : s.readies caller = .resubmitting) :
      ReadyStep caller s (.submit err) ((s.submit err).readying caller .idle)

/-! ## Steps of `runtime_macro_usb_hid_work_handler` -/

/-- The atomic operations of the work handler, in the order of the code. -/
inductive HandlerEvent where
  | take | lock | sampleGeneration | checkOnline | purge | get | compare | checkDevice
  | process (exchange : Exchange)
  | mark
  | write (err : Int)
  | recheck | withdraw | give | unlock
  | submit (err : Int)

section
variable (cfg : Config) (hmac : Hmac)

/-- The steps of `runtime_macro_usb_hid_work_handler`
(runtime_macro_usb_hid.c:329-408). The permit is taken before the mutex, and
between the two a reset can run. -/
inductive HandlerStep (s : Transport) : HandlerEvent → Transport → Prop
  | busy (idle : s.handler = .idle) (pending : s.workPending = true) (taken : s.inSem = 0) :
      HandlerStep s .take { s with workPending := false }
  | take (idle : s.handler = .idle) (pending : s.workPending = true) (free : s.inSem ≠ 0) :
      HandlerStep s .take
        ({ s with workPending := false, inSem := s.inSem - 1 }.handling .permitted)
  | lock (permitted : s.handler = .permitted) (free : s.reset = none) :
      HandlerStep s .lock (s.handling .entered)
  | sampleGeneration (entered : s.handler = .entered) :
      HandlerStep s .sampleGeneration (s.handling (.sampled s.generation))
  | offline {generation : UInt32} (sampled : s.handler = .sampled generation)
      (down : s.online = false) :
      HandlerStep s .checkOnline (s.handling .offline)
  | online {generation : UInt32} (sampled : s.handler = .sampled generation)
      (up : s.online = true) :
      HandlerStep s .checkOnline (s.handling (.online generation))
  | purge (offline : s.handler = .offline) :
      HandlerStep s .purge ({ s with queue := [] }.handling (.releasing false))
  | empty {generation : UInt32} (online : s.handler = .online generation)
      (drained : s.queue = []) :
      HandlerStep s .get (s.handling (.releasing false))
  | get {generation : UInt32} {request : Request} {rest : List Request}
      (online : s.handler = .online generation) (first : s.queue = request :: rest) :
      HandlerStep s .get ({ s with queue := rest }.handling (.fetched generation request))
  | stale {generation : UInt32} {request : Request}
      (fetched : s.handler = .fetched generation request)
      (moved : request.generation ≠ generation) :
      HandlerStep s .compare (s.handling (.releasing true))
  | current {generation : UInt32} {request : Request}
      (fetched : s.handler = .fetched generation request)
      (same : request.generation = generation) :
      HandlerStep s .compare (s.handling (.current generation request))
  | unbound {generation : UInt32} {request : Request}
      (current : s.handler = .current generation request) (missing : s.bound = false) :
      HandlerStep s .checkDevice (s.handling (.releasing false))
  | process {generation : UInt32} {request : Request} {exchange : Exchange} {err : Int}
      {world : World} (current : s.handler = .current generation request)
      (bound : s.bound = true) (owner : exchange.id = usbContext)
      (handed : exchange.request = request.frame)
      (processed : Protocol.process cfg hmac exchange.env (some exchange.id)
        (some exchange.request) (some s.txResponse) s.world =
          (err, some exchange.response, world)) :
      HandlerStep s (.process exchange) ({ s with
        world := world
        txResponse :=
          if err ≠ 0 then initErrorResponse request.frame else exchange.response }.handling
            (.answered generation))
  | mark {generation : UInt32} (answered : s.handler = .answered generation) :
      HandlerStep s .mark ({ s with inFlight := true }.handling (.marked generation))
  | written {generation : UInt32} (marked : s.handler = .marked generation) :
      HandlerStep s (.write 0) (s.handling (.written generation))
  | unwritten {generation : UInt32} {err : Int} (marked : s.handler = .marked generation)
      (failed : err ≠ 0) :
      HandlerStep s (.write err) (s.handling .withdrawing)
  | moved {generation : UInt32} (written : s.handler = .written generation)
      (moved : s.generation ≠ generation) :
      HandlerStep s .recheck (s.handling .withdrawing)
  | sent {generation : UInt32} (written : s.handler = .written generation)
      (same : s.generation = generation) :
      HandlerStep s .recheck (s.handling (.unlocking false))
  | withdraw (withdrawing : s.handler = .withdrawing) :
      HandlerStep s .withdraw ({ s with inFlight := false }.handling (.releasing false))
  | give {resubmit : Bool} (releasing : s.handler = .releasing resubmit) :
      HandlerStep s .give (s.giveIn.handling (.unlocking resubmit))
  | unlock {resubmit : Bool} (unlocking : s.handler = .unlocking resubmit) :
      HandlerStep s .unlock (s.handling (if resubmit then .resubmitting else .idle))
  | submit {err : Int} (resubmitting : s.handler = .resubmitting) :
      HandlerStep s (.submit err) ((s.submit err).handling .idle)

/-! ## Steps of `runtime_macro_usb_hid_transport_reset` -/

/-- The atomic operations of a reset, in the order of the code. -/
inductive ResetEvent where
  | lock (eventConnState : ConnState) (statusBefore : UsbStatus)
  | setOffline | advance | authReset
  | discard (nowMs : Int)
  | purge
  | readStatus (statusAfter : UsbStatus)
  | unflag | empty | give | keep
  | clear (env : Env)
  | publish | unlock

/-- The steps of `runtime_macro_usb_hid_transport_reset`
(runtime_macro_usb_hid.c:151-208), all under the transport mutex, with the
status its caller sampled before taking it. -/
inductive ResetStep (s : Transport) : ResetEvent → Transport → Prop
  | lock {eventConnState : ConnState} {statusBefore : UsbStatus} (free : s.mutexFree) :
      ResetStep s (.lock eventConnState statusBefore)
        (s.resetting ⟨eventConnState, statusBefore, .entered⟩)
  | setOffline {reset : Reset} (held : s.reset = some reset) (point : reset.point = .entered) :
      ResetStep s .setOffline ({ s with online := false }.resetting (reset.goes .offline))
  | advance {reset : Reset} (held : s.reset = some reset) (point : reset.point = .offline) :
      ResetStep s .advance
        ({ s with generation := s.generation + 1 }.resetting (reset.goes .advanced))
  | authReset {reset : Reset} (held : s.reset = some reset) (point : reset.point = .advanced) :
      ResetStep s .authReset
        ({ s with world := s.world.withAuth (AuthCore.transportReset s.world.auth) }.resetting
          (reset.goes .authReset))
  | discard {reset : Reset} {nowMs : Int} (held : s.reset = some reset)
      (point : reset.point = .authReset) :
      ResetStep s (.discard nowMs)
        ({ s with world := s.world.discard cfg usbContext nowMs }.resetting
          (reset.goes .discarded))
  | purge {reset : Reset} (held : s.reset = some reset) (point : reset.point = .discarded) :
      ResetStep s .purge ({ s with queue := [] }.resetting (reset.goes .purged))
  | readStatus {reset : Reset} {statusAfter : UsbStatus} (held : s.reset = some reset)
      (point : reset.point = .purged) :
      ResetStep s (.readStatus statusAfter) (s.resetting (reset.goes (.sampled statusAfter)))
  | unflag {reset : Reset} {statusAfter : UsbStatus} (held : s.reset = some reset)
      (point : reset.point = .sampled statusAfter)
      (reclaims : reset.reclaims statusAfter = true) :
      ResetStep s .unflag
        ({ s with inFlight := false }.resetting (reset.goes (.unflagged statusAfter)))
  | empty {reset : Reset} {statusAfter : UsbStatus} (held : s.reset = some reset)
      (point : reset.point = .unflagged statusAfter) :
      ResetStep s .empty ({ s with inSem := 0 }.resetting (reset.goes (.emptied statusAfter)))
  | give {reset : Reset} {statusAfter : UsbStatus} (held : s.reset = some reset)
      (point : reset.point = .emptied statusAfter) :
      ResetStep s .give (s.giveIn.resetting (reset.goes (.reclaimed statusAfter)))
  | keep {reset : Reset} {statusAfter : UsbStatus} (held : s.reset = some reset)
      (point : reset.point = .sampled statusAfter)
      (owned : reset.reclaims statusAfter = false) :
      ResetStep s .keep (s.resetting (reset.goes (.reclaimed statusAfter)))
  | clear {reset : Reset} {statusAfter : UsbStatus} {env : Env} (held : s.reset = some reset)
      (point : reset.point = .reclaimed statusAfter) :
      ResetStep s (.clear env) ({ s with
        world :=
          if cfg.dynamicClearOnUsbDisconnect ∧ reset.actualManagementUsbDisconnect statusAfter
          then s.world.clearAll cfg env else s.world }.resetting
            (reset.goes (.cleared statusAfter)))
  | publish {reset : Reset} {statusAfter : UsbStatus} (held : s.reset = some reset)
      (point : reset.point = .cleared statusAfter) :
      ResetStep s .publish
        ({ s with online := s.online || reset.publishes statusAfter }.resetting
          (reset.goes .published))
  | unlock {reset : Reset} (held : s.reset = some reset) (point : reset.point = .published) :
      ResetStep s .unlock { s with reset := none }

/-! ## The system -/

/-- The calls that reach the firmware state on other ways than the transport:
settings callbacks, work items, executions and the clear of the other lifecycle
listeners. -/
def Elsewhere : WorldEvent → Prop
  | .auth (.settingsSet ..) | .auth .settingsCommit => True
  | .timeoutWork _ | .ttlWork _ | .execute .. | .executorWork _ | .clearAll _ => True
  | _ => False

/-- A party takes a step, something else happens in the firmware, or the device
pointer is set. -/
inductive Event where
  | report (caller : Caller) (event : ReportEvent)
  | ready (caller : Caller) (event : ReadyEvent)
  | handler (event : HandlerEvent)
  | reset (event : ResetEvent)
  | outside (event : WorldEvent)
  | bind

/-- The interleavings of all parties: any step that its own party can take
next. -/
inductive Step (s : Transport) : Event → Transport → Prop
  | report {caller : Caller} {event : ReportEvent} {s' : Transport}
      (step : ReportStep caller s event s') : Step s (.report caller event) s'
  | ready {caller : Caller} {event : ReadyEvent} {s' : Transport}
      (step : ReadyStep caller s event s') : Step s (.ready caller event) s'
  | handler {event : HandlerEvent} {s' : Transport} (step : HandlerStep cfg hmac s event s') :
      Step s (.handler event) s'
  | reset {event : ResetEvent} {s' : Transport} (step : ResetStep cfg s event s') :
      Step s (.reset event) s'
  | outside {event : WorldEvent} {world : World} (elsewhere : Elsewhere event)
      (step : WorldStep cfg hmac s.world event world) :
      Step s (.outside event) { s with world := world }
  | bind : Step s .bind { s with bound := true }

end

end RuntimeMacro.Source.UsbHid
