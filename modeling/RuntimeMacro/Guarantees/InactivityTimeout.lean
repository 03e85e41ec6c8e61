import RuntimeMacro.Guarantees.UploadGrammar
import RuntimeMacro.Source.TimeoutWork

/-!
# Uploads time out after 30 seconds of silence

runtime_macro_protocol.c:60-138; docs/DYNAMIC_PROTOCOL.md:329-342. The handler
of the timeout work may run late, because it waits for the mutex, and then find
an upload younger than the one it was scheduled for. Whatever the order of
frames, clears and runs of the handler, an active upload has a run scheduled in
time or waiting, and no run ends an upload before 30 s have passed since its
last accepted frame.
-/
namespace RuntimeMacro.Guarantees.InactivityTimeout
open Source Source.Protocol Foundations.Runs
open AuthCore (Hmac)
open ContextInvariant
open UploadGrammar (Idle clearDynamic_idle)
open DynamicStore (OnlyExpired)

variable {cfg : Config} {hmac : Hmac} {env : Env} {id : ContextId} {w : World} {nowMs : Int}

/-! ## Runs with the work item -/

/-- The firmware, and how many runs of the handler were submitted and wait for
the mutex. -/
structure Watched where
  world : World
  waiting : Nat

/-- A step of the firmware or of its host, the work item falling due, and its
handler running. -/
inductive WatchEvent where
  | call (event : ContextEvent)
  | due (nowMs : Int)
  | firing (env : Env)

/-- The effect of a call on the runs that wait: those that it cancels go. After
a cancellation the item has no owner, unless the call scheduled it again. -/
def Waits (s s' : Watched) : Prop :=
  s'.waiting = s.waiting ∨
    (s'.waiting < s.waiting ∧
      (s'.world.timeoutOwner = none ∨ s'.world.timeoutWork.isSome = true))

/-- A call of the firmware, the time coming for which the item is scheduled, or
a run of the handler, whether or not one is waiting. -/
def WatchStep (cfg : Config) (hmac : Hmac) (s : Watched) : WatchEvent → Watched → Prop
  | .call event, s' => (∀ env, event ≠ .world (.timeoutWork env)) ∧
    ContextStep cfg hmac s.world event s'.world ∧ Waits s s'
  | .due nowMs, s' => ∃ atMs ≤ nowMs, s.world.timeoutWork = some atMs ∧
    s' = ⟨{ s.world with timeoutWork := none }, s.waiting + 1⟩
  | .firing env, s' => s'.world = s.world.dynamicTimeoutWorkHandler cfg env ∧
    s'.waiting ≤ s.waiting

/-- The call is one instant of the clock, which counts from boot, and
rescheduling succeeds. -/
def AtInstant (env : Env) (nowMs : Int) : Prop :=
  0 ≤ nowMs ∧ env.clock = (fun _ => nowMs) ∧ 0 ≤ env.rescheduleErr

/-- All frames arrive on the context. -/
def Watchable (id : ContextId) : WatchEvent → Prop
  | .call (.world (.frame exchange)) => exchange.id = id ∧ ∃ nowMs, AtInstant exchange.env nowMs
  | .firing env => ∃ nowMs, AtInstant env nowMs
  | _ => True

/-- When a BEGIN or DATA was accepted. -/
def acceptedMs : WatchEvent → Option Int
  | .call (.world (.frame exchange)) =>
    if begins exchange || appends exchange then some (exchange.env.clock .timeout) else none
  | _ => none

/-- When the last BEGIN or DATA was accepted. -/
def lastAccepted (events : List WatchEvent) : Option Int :=
  (events.filterMap acceptedMs).getLast?

theorem lastAccepted_some {events : List WatchEvent} {event : WatchEvent} {last : Int}
    (accepted : acceptedMs event = some last) : lastAccepted (events ++ [event]) = some last := by
  simp [lastAccepted, List.filterMap_append, accepted]

theorem lastAccepted_none {events : List WatchEvent} {event : WatchEvent}
    (silent : acceptedMs event = none) :
    lastAccepted (events ++ [event]) = lastAccepted events := by
  simp [lastAccepted, List.filterMap_append, silent]

/-! ## The handler -/

/-- What a run of the handler does, by the state of the upload of the one
context. -/
inductive Firing (cfg : Config) (env : Env) (id : ContextId) (w w' : World) : Prop
  | early (active : (w.contexts id).dynamicActive = true)
      (before : env.clock .timeout < (w.contexts id).dynamicDeadlineMs)
      (left : w' = { w with timeoutWork := some (w.contexts id).dynamicDeadlineMs })
  | cancelled (active : (w.contexts id).dynamicActive = true)
      (passed : (w.contexts id).dynamicDeadlineMs ≤ env.clock .timeout)
      (left : w' = w.clearDynamic cfg id (env.clock .cleanup))
  | stale (inactive : (w.contexts id).dynamicActive = false)
      (context : (w'.contexts id).dynamicActive = false) (slots : w'.slots = w.slots)
      (store : w'.dynamic = w.dynamic ∨
        w'.dynamic = w.dynamic.cancelStagingNow cfg (env.clock .cleanup))

theorem owned_of_active (shape : ContextShape cfg id w)
    (active : (w.contexts id).dynamicActive = true) : w.timeoutOwner = some id := by
  cases shape.dynamic with
  | active _ _ _ _ _ owned => exact owned
  | idle gone => exact absurd (gone.symm.trans active) (by decide)

/-- What a run of the handler does, by the deadline of the owner: nothing, a
re-arming for what is left, or the end of the upload. -/
theorem firing_cases (shape : ContextShape cfg id w) (schedulable : 0 ≤ env.rescheduleErr) :
    Firing cfg env id w (w.dynamicTimeoutWorkHandler cfg env) := by
  unfold World.dynamicTimeoutWorkHandler
  cases active : (w.contexts id).dynamicActive with
  | true =>
    have scheduled : ¬ env.rescheduleErr < 0 := by omega
    have owned := owned_of_active shape active
    rw [owned]
    dsimp only
    rw [if_neg (by simp [active]), if_neg scheduled]
    split
    next before => exact .early active before (by rw [owned])
    next passed => exact .cancelled active (Int.not_lt.mp passed) rfl
  | false =>
    have cleared : ∀ owner, ((w.clearDynamic cfg owner (env.clock .cleanup)).contexts
        id).dynamicActive = false := by
      intro owner
      rw [← Bool.not_eq_true]
      intro staged
      have before := ((WorkKept.clearDynamic_any cfg id owner _ w).kept staged).1
      exact absurd (before.symm.trans active) (by decide)
    split
    · exact .stale active active rfl (Or.inl rfl)
    · dsimp only
      split
      · exact .stale active active rfl (Or.inl rfl)
      · split
        · exact .stale active active rfl (Or.inl rfl)
        · exact .stale active (cleared _) rfl (Or.inr rfl)

/-! ## The invariant -/

/-- The work item of an active upload whose last accepted frame came at
`last`. -/
structure Guarded (id : ContextId) (last : Int) (s : Watched) : Prop where
  deadline : (s.world.contexts id).dynamicDeadlineMs = last + 30000
  inTime : ∀ atMs, s.world.timeoutWork = some atMs → atMs = last + 30000
  armed : s.world.timeoutWork.isSome = true ∨ 0 < s.waiting

/-- While an upload is active, a deadline counted from the last frame it
accepted guards it. -/
structure Watching (cfg : Config) (id : ContextId) (past : List WatchEvent) (s : Watched) :
    Prop where
  shape : ContextShape cfg id s.world
  guarded : (s.world.contexts id).dynamicActive = true →
    ∃ last, lastAccepted past = some last ∧ Guarded id last s

/-- A call that leaves the deadline and the work item alone leaves the upload
guarded. It accepts no frame, so the last one is the same. -/
theorem Watching.call {past : List WatchEvent} {s s' : Watched} {event : WatchEvent}
    (watching : Watching cfg id past s) (silent : acceptedMs event = none)
    (work : WorkKept id s.world s'.world) (waits : Waits s s')
    (active : (s'.world.contexts id).dynamicActive = true) :
    ∃ last, lastAccepted (past ++ [event]) = some last ∧ Guarded id last s' := by
  obtain ⟨before, deadline, scheduled⟩ := work.kept active
  obtain ⟨last, known, guarded⟩ := watching.guarded before
  obtain ⟨owned, same⟩ := scheduled (owned_of_active watching.shape before)
  refine ⟨last, (lastAccepted_none silent).trans known, deadline.trans guarded.deadline, ?_, ?_⟩
  · rw [same]
    exact guarded.inTime
  · rcases waits with unchanged | ⟨_, unowned | rescheduled⟩
    · rw [same, unchanged]
      exact guarded.armed
    · exact absurd (unowned.symm.trans owned) (by simp)
    · exact Or.inl rescheduled

/-- The calls that are no frames. They leave the work item, or end the upload
that it guards. -/
theorem call_work {event : ContextEvent} {w w' : World} (step : ContextStep cfg hmac w event w')
    (notFrame : ∀ exchange, event ≠ .world (.frame exchange))
    (notWork : ∀ env, event ≠ .world (.timeoutWork env)) : WorkKept id w w' := by
  cases event with
  | discard owner nowMs =>
    rw [step]
    exact .discard_any ..
  | checkExpiry nowMs rearmMs =>
    rw [step]
    exact .of_same rfl rfl rfl rfl
  | world event =>
    cases event with
    | frame exchange => exact absurd rfl (notFrame exchange)
    | timeoutWork env => exact absurd rfl (notWork env)
    | transportReset owner env =>
      rw [step]
      exact (WorkKept.withAuth ..).trans (.discard_any ..)
    | auth event =>
      obtain ⟨system, _, rfl⟩ := step
      exact .of_same rfl rfl rfl rfl
    | execute slot env result =>
      have left : w' = (w.executeSlot cfg slot env).2 := by
        rw [step]
      rw [left]
      exact .of_same rfl rfl rfl rfl
    | ttlWork env =>
      rw [step]
      exact .of_same rfl rfl rfl rfl
    | executorWork env =>
      rw [step]
      exact .of_same rfl rfl rfl rfl
    | clearAll env =>
      rw [step]
      exact .of_same rfl rfl rfl rfl

theorem acceptedMs_frame {exchange : Exchange} (accepted : aboutUpload exchange.request)
    (ok : exchange.response.status = Status.ok.code) :
    acceptedMs (.call (.world (.frame exchange))) = some (exchange.env.clock .timeout) := by
  have taken := accepted_iff.mpr ok
  have upload : (begins exchange || appends exchange) = true := by
    rw [Bool.or_eq_true, begins_iff, appends_iff]
    rcases accepted with isBegin | isData
    · exact Or.inl ⟨isBegin, taken⟩
    · exact Or.inr ⟨isData, taken⟩
  exact if_pos upload

theorem acceptedMs_refused {exchange : Exchange}
    (refused : aboutUpload exchange.request → exchange.response.status ≠ Status.ok.code) :
    acceptedMs (.call (.world (.frame exchange))) = none := by
  obtain ⟨notBegun, notAppended⟩ := silent_of_refused refused
  simp [acceptedMs, notBegun, notAppended]

theorem acceptedMs_call {event : ContextEvent}
    (notFrame : ∀ exchange, event ≠ .world (.frame exchange)) :
    acceptedMs (.call event) = none := by
  unfold acceptedMs
  split
  next exchange same =>
    cases same
    exact absurd rfl (notFrame exchange)
  · rfl

/-- A frame that is accepted moves the deadline and re-arms the item for it.
Any other leaves both, or the upload is gone. -/
theorem Watching.frame {past : List WatchEvent} {s s' : Watched} {exchange : Exchange}
    (watching : Watching cfg id past s) (own : exchange.id = id)
    (schedulable : 0 ≤ exchange.env.rescheduleErr)
    (step : FrameStep cfg hmac s.world exchange s'.world) (waits : Waits s s')
    (active : (s'.world.contexts id).dynamicActive = true) :
    ∃ last, lastAccepted (past ++ [.call (.world (.frame exchange))]) = some last ∧
      Guarded id last s' := by
  subst own
  have effect := processFrame_work cfg hmac exchange.id schedulable exchange.request s.world
  rw [step.result] at effect
  cases effect with
  | dropped gone => exact absurd (gone.symm.trans active) (by decide)
  | kept silent work => exact watching.call (acceptedMs_refused silent) work waits active
  | rearmed upload accepted deadline owner work =>
    refine ⟨_, lastAccepted_some (acceptedMs_frame upload accepted), deadline, ?_, ?_⟩
    · intro atMs scheduled
      exact Option.some.inj (scheduled.symm.trans work)
    · rw [work]
      exact Or.inl rfl

/-- One case for each kind of event. When the item falls due it becomes a run
that waits, which guards as well. -/
theorem Watching.step {past : List WatchEvent} {s s' : Watched} {event : WatchEvent}
    (watching : Watching cfg id past s) (watchable : Watchable id event)
    (step : WatchStep cfg hmac s event s') : Watching cfg id (past ++ [event]) s' := by
  cases event with
  | call event =>
    obtain ⟨notWork, called, waits⟩ := step
    by_cases isFrame : ∃ exchange, event = .world (.frame exchange)
    · obtain ⟨exchange, rfl⟩ := isFrame
      obtain ⟨own, nowMs, counted, clock, schedulable⟩ := watchable
      have allowed : OneContext id (.world (.frame exchange)) := by
        refine ⟨own, fun site => ?_⟩
        rw [clock]
        exact counted
      exact ⟨step_shape watching.shape allowed called,
        watching.frame own schedulable called waits⟩
    · have notFrame : ∀ exchange, event ≠ .world (.frame exchange) :=
        fun exchange same => isFrame ⟨exchange, same⟩
      have allowed : OneContext id event := by
        unfold OneContext
        split
        next exchange => exact absurd rfl (notFrame exchange)
        · trivial
      exact ⟨step_shape watching.shape allowed called,
        watching.call (acceptedMs_call notFrame) (call_work called notFrame notWork) waits⟩
  | due nowMs =>
    obtain ⟨atMs, _, scheduled, rfl⟩ := step
    refine ⟨watching.shape.kept rfl rfl (.refl _), fun active => ?_⟩
    obtain ⟨last, known, guarded⟩ := watching.guarded active
    exact ⟨last, (lastAccepted_none rfl).trans known, guarded.deadline, nofun,
      Or.inr (Nat.succ_pos _)⟩
  | firing env =>
    obtain ⟨nowMs, _, clock, schedulable⟩ := watchable
    obtain ⟨left, _⟩ := step
    constructor
    · rw [left]
      exact timeoutWork_shape watching.shape env
    · intro active
      rw [left] at active
      cases firing_cases watching.shape schedulable with
      | early before _ result =>
        obtain ⟨last, known, guarded⟩ := watching.guarded before
        refine ⟨last, (lastAccepted_none rfl).trans known, ?_⟩
        rw [result] at left
        refine ⟨?_, ?_, ?_⟩
        · rw [left]
          exact guarded.deadline
        · rw [left]
          intro atMs scheduled
          exact (Option.some.inj scheduled).symm.trans guarded.deadline
        · rw [left]
          exact Or.inl rfl
      | cancelled _ _ result =>
        rw [result, clearDynamic_gone] at active
        cases active
      | stale _ gone => exact absurd (gone.symm.trans active) (by decide)

theorem run_watching {start : World} {bootMs : Int} {events : List WatchEvent} {s : Watched}
    (run : Run (WatchStep cfg hmac) ⟨start.discard cfg id bootMs, 0⟩ events s)
    (watchable : ∀ event ∈ events, Watchable id event) : Watching cfg id events s := by
  apply run.history_of (Watching cfg id) (fun past => ∀ event ∈ past, Watchable id event) watchable
  · intro past event watchable earlier member
    exact watchable earlier (List.mem_append_left _ member)
  · refine ⟨discard_shape .., fun active => ?_⟩
    have gone : ((start.discard cfg id bootMs).contexts id).dynamicActive = false := by
      rw [World.discard_contexts_self]
      rfl
    exact absurd (gone.symm.trans active) (by decide)
  · intro past s event s' watchable _ watching step
    exact watching.step (watchable event (by simp)) step

/-! ## What a run of the handler and a late frame do -/

/-- 30 s have passed since the last accepted frame. -/
def Silent (events : List WatchEvent) (nowMs : Int) : Prop :=
  ∀ last, lastAccepted events = some last → last + 30000 ≤ nowMs

/-- No run of the handler is due or waits. -/
def NothingDue (s : Watched) (nowMs : Int) : Prop :=
  s.waiting = 0 ∧ ∀ atMs, s.world.timeoutWork = some atMs → nowMs < atMs

theorem cleared_onlyExpired (cfg : Config) (id : ContextId) (nowMs : Int) (w : World) :
    OnlyExpired nowMs w.dynamic.slots (w.clearDynamic cfg id nowMs).dynamic.slots := by
  rw [World.clearDynamic_dynamic, DynamicStore.cancelStagingNow_slots]
  exact DynamicStore.expiredSlots_onlyExpired cfg nowMs w.dynamic

/-- A run of the handler in time leaves the upload and re-arms the item, for
the time that is left since the last accepted frame. -/
theorem Watching.firing_early {past : List WatchEvent} {s : Watched}
    (watching : Watching cfg id past s) (instant : AtInstant env nowMs)
    (recent : ¬ Silent past nowMs) (active : (s.world.contexts id).dynamicActive = true) :
    ∃ last, lastAccepted past = some last ∧ s.world.dynamicTimeoutWorkHandler cfg env =
      { s.world with timeoutWork := some (last + 30000) } := by
  obtain ⟨_, clock, schedulable⟩ := instant
  obtain ⟨last, known, guarded⟩ := watching.guarded active
  refine ⟨last, known, ?_⟩
  cases firing_cases watching.shape schedulable with
  | early _ _ left => rw [left, guarded.deadline]
  | cancelled _ passed =>
    rw [guarded.deadline, clock] at passed
    apply absurd _ recent
    intro other same
    cases same.symm.trans known
    exact passed
  | stale inactive => exact absurd (inactive.symm.trans active) (by decide)

/-- A run of the handler after 30 s of silence ends the upload, and commits
nothing: it cancels the staging. -/
theorem Watching.firing_late {past : List WatchEvent} {s : Watched}
    (watching : Watching cfg id past s) (instant : AtInstant env nowMs)
    (silent : Silent past nowMs) :
    Idle id (s.world.dynamicTimeoutWorkHandler cfg env) ∧
      (s.world.dynamicTimeoutWorkHandler cfg env).slots = s.world.slots ∧
      OnlyExpired nowMs s.world.dynamic.slots
        (s.world.dynamicTimeoutWorkHandler cfg env).dynamic.slots := by
  obtain ⟨_, clock, schedulable⟩ := instant
  cases firing_cases watching.shape schedulable with
  | early active before =>
    obtain ⟨last, known, guarded⟩ := watching.guarded active
    have passed := silent last known
    rw [guarded.deadline, clock] at before
    dsimp only at before
    omega
  | cancelled _ _ left =>
    rw [left, clock]
    exact ⟨clearDynamic_idle .., rfl, cleared_onlyExpired cfg id nowMs s.world⟩
  | stale inactive context slots store =>
    have unstaged : s.world.dynamic.stagingActive = false := by
      rw [← Bool.not_eq_true]
      intro staged
      obtain ⟨active, _⟩ := watching.shape.store staged
      exact absurd (inactive.symm.trans active) (by decide)
    rw [clock] at store
    rcases store with kept | cancelled
    · rw [kept]
      exact ⟨⟨context, kept ▸ unstaged⟩, slots, .refl _ _⟩
    · refine ⟨⟨context, ?_⟩, slots, ?_⟩
      · rw [cancelled]
        rfl
      · rw [cancelled]
        exact cleared_onlyExpired cfg id nowMs s.world

/-- A DATA to a context without an upload is refused and commits nothing. The
store is not asked to append. -/
theorem data_refused {request : Frame} (instant : AtInstant env nowMs)
    (inactive : (w.contexts id).dynamicActive = false)
    (isData : Opcode.ofByte request.opcode = some .dynamicData) :
    (processFrame cfg hmac env id request w).1.status ≠ Status.ok.code ∧
      OnlyExpired nowMs w.dynamic.slots
        (processFrame cfg hmac env id request w).2.dynamic.slots := by
  obtain ⟨_, clock, _⟩ := instant
  have ordered : env.Ordered := by
    intro first second _
    rw [clock]
  have untaken : ¬ DataTaken cfg env id request w := fun data =>
    absurd (inactive.symm.trans data.valid.active) (by decide)
  cases processFrame_dynamic cfg hmac env id request w with
  | passive refused store =>
    have expired := store.slots.onlyExpired ordered
    rw [Env.latest, clock] at expired
    exact ⟨refused (Or.inr isData), expired⟩
  | cleared isClear => cases isClear.symm.trans isData
  | started isBegin => cases isBegin.symm.trans isData
  | completed data => exact absurd data untaken
  | received data => exact absurd data untaken
  | failed data => exact absurd data untaken

/-- In every reachable state an active upload has a run of the handler
scheduled at most 30 s after its last accepted frame, or waiting. A run within
these 30 s leaves the upload and re-arms the item; a later one leaves no upload
and commits nothing. So a DATA that comes after 30 s of silence is refused and
commits nothing, if no run of the handler is overdue by then. -/
theorem inactive_uploads_time_out {start : World} {bootMs : Int} {events : List WatchEvent}
    {s : Watched} (run : Run (WatchStep cfg hmac) ⟨start.discard cfg id bootMs, 0⟩ events s)
    (watchable : ∀ event ∈ events, Watchable id event) :
    ((s.world.contexts id).dynamicActive = true → ∃ last, lastAccepted events = some last ∧
      ((∃ atMs ≤ last + 30000, s.world.timeoutWork = some atMs) ∨ 0 < s.waiting)) ∧
    (∀ env nowMs s', AtInstant env nowMs → WatchStep cfg hmac s (.firing env) s' →
      (¬ Silent events nowMs → (s.world.contexts id).dynamicActive = true →
        ∃ last, lastAccepted events = some last ∧
          s'.world = { s.world with timeoutWork := some (last + 30000) }) ∧
      (Silent events nowMs → Idle id s'.world ∧ s'.world.slots = s.world.slots ∧
        OnlyExpired nowMs s.world.dynamic.slots s'.world.dynamic.slots)) ∧
    (∀ exchange nowMs s', exchange.id = id → AtInstant exchange.env nowMs →
      WatchStep cfg hmac s (.call (.world (.frame exchange))) s' →
      Opcode.ofByte exchange.request.opcode = some .dynamicData →
      Silent events nowMs → NothingDue s nowMs →
      exchange.response.status ≠ Status.ok.code ∧
        OnlyExpired nowMs s.world.dynamic.slots s'.world.dynamic.slots) := by
  have watching : Watching cfg id events s := run_watching run watchable
  have scheduled : (s.world.contexts id).dynamicActive = true →
      ∃ last, lastAccepted events = some last ∧
        ((∃ atMs ≤ last + 30000, s.world.timeoutWork = some atMs) ∨ 0 < s.waiting) := by
    intro active
    obtain ⟨last, known, guarded⟩ := watching.guarded active
    refine ⟨last, known, ?_⟩
    rcases guarded.armed with isScheduled | waits
    · obtain ⟨atMs, at'⟩ := Option.isSome_iff_exists.mp isScheduled
      exact Or.inl ⟨atMs, Int.le_of_eq (guarded.inTime atMs at'), at'⟩
    · exact Or.inr waits
  refine ⟨scheduled, ?_, ?_⟩
  · rintro env nowMs s' instant ⟨left, _⟩
    rw [left]
    exact ⟨watching.firing_early instant, watching.firing_late instant⟩
  · rintro exchange nowMs s' rfl instant ⟨_, step, _⟩ isData silent ⟨none, nothingDue⟩
    have inactive : (s.world.contexts exchange.id).dynamicActive = false := by
      rw [← Bool.not_eq_true]
      intro active
      obtain ⟨last, known, ⟨atMs, inTime, at'⟩ | waits⟩ := scheduled active
      · have passed := silent last known
        have later := nothingDue atMs at'
        omega
      · omega
    have refused := @data_refused cfg hmac _ _ _ _ _ instant inactive isData
    rw [FrameStep.result step] at refused
    exact refused

/-! ## A run of the handler that waited while a chunk was accepted, and one in its time -/

def sampleExchange (nowMs : Int) (request : Frame) (w : World) : Exchange :=
  exchangeOf .default AuthCore.sampleHmac 0 (.still nowMs) request w

def sampleBegun : World := sampleFrame 1000 sampleBegin sampleStart

def sampleOverdue : World := { sampleBegun with timeoutWork := none }

def sampleContinued : World := sampleFrame 31000 sampleData sampleOverdue

def sampleRearmed : World := sampleContinued.dynamicTimeoutWorkHandler .default (.still 31500)

def sampleDue : World := { sampleRearmed with timeoutWork := none }

def sampleEnded : World := sampleDue.dynamicTimeoutWorkHandler .default (.still 61200)

/-- A BEGIN at 1000; the item falls due at 31000, and before its handler runs a
DATA is accepted. -/
def sampleEvents : List WatchEvent :=
  [.call (.world (.frame (sampleExchange 1000 sampleBegin sampleStart))), .due 31000,
    .call (.world (.frame (sampleExchange 31000 sampleData sampleOverdue))),
    .firing (.still 31500)]

/-- Nothing comes for 30 s: the item falls due again, and its handler ends the
upload. -/
def sampleLater : List WatchEvent := [.due 61000, .firing (.still 61200)]

theorem sample_framed (nowMs : Int) (request : Frame) (w : World) (waiting : Nat) :
    WatchStep .default AuthCore.sampleHmac ⟨w, waiting⟩
      (.call (.world (.frame (sampleExchange nowMs request w))))
      ⟨sampleFrame nowMs request w, waiting⟩ :=
  ⟨fun _ => nofun, rfl, Or.inl rfl⟩

theorem sample_due {w : World} {nowMs : Int} (scheduled : w.timeoutWork = some nowMs) :
    WatchStep .default AuthCore.sampleHmac ⟨w, 0⟩ (.due nowMs)
      ⟨{ w with timeoutWork := none }, 1⟩ :=
  ⟨nowMs, Int.le_refl nowMs, scheduled, rfl⟩

theorem sample_fired (nowMs : Int) (w : World) :
    WatchStep .default AuthCore.sampleHmac ⟨w, 1⟩ (.firing (.still nowMs))
      ⟨w.dynamicTimeoutWorkHandler .default (.still nowMs), 0⟩ :=
  ⟨rfl, Nat.zero_le 1⟩

theorem sample_run : Run (WatchStep .default AuthCore.sampleHmac) ⟨sampleStart, 0⟩ sampleEvents
    ⟨sampleRearmed, 0⟩ := by
  have scheduled : sampleBegun.timeoutWork = some 31000 := by decide +kernel
  exact .cons (sample_framed 1000 sampleBegin sampleStart 0) (.cons (sample_due scheduled)
    (.cons (sample_framed 31000 sampleData sampleOverdue 1)
      (.single (sample_fired 31500 sampleContinued))))

theorem sample_ends : Run (WatchStep .default AuthCore.sampleHmac) ⟨sampleStart, 0⟩
    (sampleEvents ++ sampleLater) ⟨sampleEnded, 0⟩ := by
  have scheduled : sampleRearmed.timeoutWork = some 61000 := by decide +kernel
  exact sample_run.append (.cons (sample_due scheduled) (.single (sample_fired 61200 sampleDue)))

theorem still_atInstant (nowMs : Int) (counted : 0 ≤ nowMs) : AtInstant (.still nowMs) nowMs :=
  ⟨counted, rfl, Int.le_refl 0⟩

theorem sample_watchable : ∀ event ∈ sampleEvents ++ sampleLater, Watchable 0 event := by
  have framed : ∀ nowMs request w, 0 ≤ nowMs →
      Watchable 0 (.call (.world (.frame (sampleExchange nowMs request w)))) :=
    fun nowMs _ _ counted => ⟨rfl, nowMs, still_atInstant nowMs counted⟩
  simp only [sampleEvents, sampleLater, List.cons_append, List.nil_append, List.forall_mem_cons]
  exact ⟨framed _ _ _ (by decide), trivial, framed _ _ _ (by decide),
    ⟨31500, still_atInstant _ (by decide)⟩, trivial, ⟨61200, still_atInstant _ (by decide)⟩,
    nofun⟩

/-- The overdue run at 31500 leaves the upload and re-arms the item. After the
silence the DATA at 70000 is refused. -/
theorem inactive_uploads_time_out_sample :
    (∃ last, lastAccepted sampleEvents = some last ∧
      ((∃ atMs ≤ last + 30000, sampleRearmed.timeoutWork = some atMs) ∨ 0 < 0)) ∧
    (sampleExchange 70000 sampleData sampleEnded).response.status ≠ Status.ok.code := by
  constructor
  · apply (inactive_uploads_time_out sample_run ?_).1 (by decide +kernel)
    intro event member
    exact sample_watchable event (List.mem_append_left _ member)
  · have silent : Silent (sampleEvents ++ sampleLater) 70000 := by
      have known : lastAccepted (sampleEvents ++ sampleLater) = some 31000 := by decide +kernel
      intro last same
      cases same.symm.trans known
      omega
    have idle : sampleEnded.timeoutWork = none := by decide +kernel
    have nothingDue : NothingDue ⟨sampleEnded, 0⟩ 70000 :=
      ⟨rfl, fun atMs scheduled => by cases idle.symm.trans scheduled⟩
    exact ((inactive_uploads_time_out sample_ends sample_watchable).2.2 _ 70000 _ rfl
      (still_atInstant _ (by decide)) (sample_framed 70000 sampleData sampleEnded 0) (by decide)
      silent nothingDue).1

end RuntimeMacro.Guarantees.InactivityTimeout
