import RuntimeMacro.Source.DynamicUploads
import RuntimeMacro.Source.UsbHid

/-!
# Runs of the USB HID transport

runtime_macro_usb_hid.c:151-408. What one step of a party can do to the
generation, to the requests that wait and to the firmware state. The transport
mutex makes the handler's locals agree with the statics, and what a reset has
cleared stays cleared while it holds the mutex.
-/
namespace RuntimeMacro.Source.UsbHid
open Foundations.Runs
open AuthCore (Hmac)

variable {cfg : Config} {hmac : Hmac} {settings : Settings} {s s' : Transport}
  {event : Event} {events : List Event} {caller : Caller}

/-- A reset increments the generation. -/
def Event.isAdvance : Event → Bool
  | .reset .advance => true
  | _ => false

/-- A request is queued. -/
def Event.isPut : Event → Bool
  | .report _ (.put err) => err == 0
  | _ => false

/-- The steps of the transport itself, and those of the two work items of the
dynamic macros. -/
def Event.onUsb : Event → Bool
  | .outside (.timeoutWork _) | .outside (.ttlWork _) => true
  | .outside _ => false
  | _ => true

/-- The caller whose report the event belongs to. -/
def Event.reporter : Event → Option Caller
  | .report caller _ => some caller
  | _ => none

/-- The request a step hands to `zmk_runtime_macro_protocol_process`. -/
def handed (s : Transport) : Event → Option Request
  | .handler (.process _) =>
    match s.handler with
    | .current _ request => some request
    | _ => none
  | _ => none

/-- The request the handler has taken from the queue and not yet dealt with. -/
def HandlerPhase.held : HandlerPhase → List Request
  | .fetched _ request | .current _ request => [request]
  | _ => []

/-- The requests that are still to be served, in order. -/
def waiting (s : Transport) : List Request := s.handler.held ++ s.queue

/-- The generation the handler has sampled. -/
def HandlerPhase.stamp : HandlerPhase → Option UInt32
  | .sampled generation | .online generation | .fetched generation _ | .current generation _
  | .answered generation | .marked generation | .written generation => some generation
  | _ => none

/-- The handler has found the transport online. -/
def HandlerPhase.admitted : HandlerPhase → Bool
  | .online _ | .fetched .. | .current .. | .answered _ | .marked _ | .written _ => true
  | _ => false

theorem HandlerPhase.stamp_of_unlocked {phase : HandlerPhase} (unlocked : phase.locked = false) :
    phase.stamp = none := by
  cases phase with
  | idle | permitted | resubmitting => rfl
  | _ => cases unlocked

theorem HandlerPhase.admitted_of_unlocked {phase : HandlerPhase}
    (unlocked : phase.locked = false) : phase.admitted = false := by
  cases phase with
  | idle | permitted | resubmitting => rfl
  | _ => cases unlocked

namespace Transport

@[simp] theorem reporting_reports_self (caller : Caller) (phase : ReportPhase) (s : Transport) :
    (s.reporting caller phase).reports caller = phase := by
  simp [reporting]

theorem reporting_reports_of_ne {other : Caller} (different : other ≠ caller)
    (phase : ReportPhase) (s : Transport) :
    (s.reporting caller phase).reports other = s.reports other := by
  simp [reporting, different]

end Transport

/-! ## What one step does -/

theorem step_generation (step : Step cfg hmac s event s') :
    s'.generation = if event.isAdvance then s.generation + 1 else s.generation := by
  cases step with
  | report step => cases step <;> rfl
  | ready step => cases step <;> rfl
  | handler step => cases step <;> rfl
  | reset step => cases step <;> rfl
  | outside | bind => rfl

theorem step_reports_of_ne (step : Step cfg hmac s event s')
    (other : event.reporter ≠ some caller) : s'.reports caller = s.reports caller := by
  cases step with
  | report step =>
    cases step with
    | refuse => rfl
    | _ =>
      refine Transport.reporting_reports_of_ne (fun same => other ?_) _ _
      rw [same]
      rfl
  | ready step => cases step <;> rfl
  | handler step => cases step <;> rfl
  | reset step => cases step <;> rfl
  | outside | bind => rfl

theorem step_process {exchange : Exchange}
    (step : Step cfg hmac s (.handler (.process exchange)) s') :
    ∃ generation request, s.handler = .current generation request ∧ exchange.id = usbContext ∧
      exchange.request = request.frame := by
  cases step with
  | handler step =>
    cases step with
    | process current _ owner given _ => exact ⟨_, _, current, owner, given⟩

/-- The handler moves on and holds what it held. -/
theorem waiting_kept {phase next : HandlerPhase} (here : s.handler = phase)
    (moved : s'.handler = next) (queue : s'.queue = s.queue) (kept : next.held = phase.held) :
    (waiting s').Sublist (waiting s) := by
  rw [waiting, waiting, here, moved, queue, kept]

/-- Requests join the line at its end and leave it from the front, or are
dropped. -/
theorem step_waiting (step : Step cfg hmac s event s') :
    (∃ caller frame generation, event = .report caller (.put 0) ∧
      s.reports caller = .checked frame generation ∧
      waiting s' = waiting s ++ [⟨frame, generation, s.arrivals⟩] ∧
      s'.arrivals = s.arrivals + 1) ∨
    (event.isPut = false ∧ s'.arrivals = s.arrivals ∧
      ((handed s event).toList ++ waiting s').Sublist (waiting s)) := by
  cases step with
  | report step =>
    cases step with
    | queued checked room =>
      refine Or.inl ⟨_, _, _, rfl, checked, ?_, rfl⟩
      simp [waiting, Transport.put, Transport.reporting]
    | unqueued checked failed =>
      exact Or.inr ⟨by simpa [Event.isPut] using failed, rfl, List.Sublist.refl _⟩
    | _ => exact Or.inr ⟨rfl, rfl, List.Sublist.refl _⟩
  | ready step => cases step <;> exact Or.inr ⟨rfl, rfl, List.Sublist.refl _⟩
  | handler step =>
    refine Or.inr ⟨rfl, by cases step <;> rfl, ?_⟩
    cases step with
    | busy idle => exact List.Sublist.refl _
    | take here | lock here | sampleGeneration here | offline here | online here | empty here
    | current here | mark here | written here | unwritten here | moved here | sent here
    | withdraw here | give here | submit here => exact waiting_kept here rfl rfl rfl
    | unlock here =>
      refine waiting_kept here rfl rfl ?_
      split <;> rfl
    | purge here => exact List.nil_sublist _
    | @get _ request rest here first =>
      have line : waiting s = request :: rest := by
        rw [waiting, here, first]
        rfl
      rw [line]
      exact List.Sublist.refl _
    | @stale _ request here | @unbound _ request here =>
      have line : waiting s = request :: s.queue := by
        rw [waiting, here]
        rfl
      rw [line]
      exact List.sublist_cons_self _ _
    | @process _ request _ _ _ here =>
      have line : waiting s = request :: s.queue := by
        rw [waiting, here]
        rfl
      rw [line, handed, here]
      exact List.Sublist.refl _
  | reset step =>
    refine Or.inr ⟨rfl, by cases step <;> rfl, ?_⟩
    cases step with
    | purge =>
      simp [handed, waiting, Transport.resetting]
    | _ => exact List.Sublist.refl _
  | outside | bind => exact Or.inr ⟨rfl, rfl, List.Sublist.refl _⟩

/-! ## What the mutex guards -/

/-- While the handler holds the mutex no reset does, and its locals are the
statics. -/
structure Guarded (s : Transport) : Prop where
  exclusive : s.handler.locked = true → s.reset = none
  stamp : ∀ generation, s.handler.stamp = some generation → s.generation = generation
  online : s.handler.admitted = true → s.online = true
  current : ∀ generation request, s.handler = .current generation request →
    request.generation = generation

theorem Guarded.boot : Guarded (.boot cfg settings) :=
  ⟨fun _ => rfl, fun _ sampled => (by cases sampled), fun _ => rfl, fun _ _ here => (by cases here)⟩

theorem Guarded.congr (guarded : Guarded s) (handler : s'.handler = s.handler)
    (reset : s'.reset = s.reset) (generation : s'.generation = s.generation)
    (online : s'.online = s.online) : Guarded s' := by
  constructor
  · rw [handler, reset]
    exact guarded.exclusive
  · rw [handler, generation]
    exact guarded.stamp
  · rw [handler, online]
    exact guarded.online
  · rw [handler]
    exact guarded.current

/-- Nothing is guarded while the handler is out of the mutex. -/
theorem Guarded.of_unlocked (unlocked : s.handler.locked = false) : Guarded s := by
  constructor
  · intro locked
    exact absurd (unlocked.symm.trans locked) (by decide)
  · intro generation sampled
    cases (HandlerPhase.stamp_of_unlocked unlocked).symm.trans sampled
  · intro admitted
    cases (HandlerPhase.admitted_of_unlocked unlocked).symm.trans admitted
  · intro generation request here
    rw [here] at unlocked
    cases unlocked

theorem Guarded.unlocked {reset : Reset} (guarded : Guarded s) (held : s.reset = some reset) :
    s.handler.locked = false := by
  by_contra locked
  rw [Bool.not_eq_false] at locked
  rw [guarded.exclusive locked] at held
  cases held

/-- The handler moves on inside the mutex. -/
theorem Guarded.moves {phase next : HandlerPhase} (guarded : Guarded s) (here : s.handler = phase)
    (locked : phase.locked = true) (moved : s'.handler = next) (reset : s'.reset = s.reset)
    (generation : s'.generation = s.generation) (online : s'.online = s.online)
    (stamp : next.stamp = none ∨ next.stamp = phase.stamp)
    (admitted : next.admitted = false ∨ phase.admitted = true)
    (current : ∀ generation request, next = .current generation request →
      request.generation = generation) : Guarded s' := by
  constructor
  · intro _
    rw [reset]
    exact guarded.exclusive (by rw [here]; exact locked)
  · intro stamped sampled
    rw [moved] at sampled
    rw [generation]
    rcases stamp with none | same
    · rw [none] at sampled
      cases sampled
    · exact guarded.stamp stamped (by rw [here, ← same]; exact sampled)
  · intro entered
    rw [moved] at entered
    rw [online]
    rcases admitted with outside | before
    · exact absurd (outside.symm.trans entered) (by decide)
    · exact guarded.online (by rw [here]; exact before)
  · rw [moved]
    exact current

theorem Guarded.step (guarded : Guarded s) (step : Step cfg hmac s event s') : Guarded s' := by
  cases step with
  | report step => cases step <;> exact guarded.congr rfl rfl rfl rfl
  | ready step => cases step <;> exact guarded.congr rfl rfl rfl rfl
  | outside | bind => exact guarded.congr rfl rfl rfl rfl
  | handler step =>
    cases step with
    | busy => exact guarded.congr rfl rfl rfl rfl
    | take | submit => exact .of_unlocked rfl
    | unlock =>
      refine .of_unlocked ?_
      simp only [Transport.handling]
      split <;> rfl
    | lock here free =>
      exact ⟨fun _ => free, fun _ sampled => (by cases sampled),
        fun admitted => (by cases admitted), fun _ _ here => (by cases here)⟩
    | sampleGeneration here =>
      refine ⟨fun _ => guarded.exclusive (by rw [here]; rfl), ?_,
        fun admitted => (by cases admitted), fun _ _ here => (by cases here)⟩
      intro generation sampled
      exact Option.some.inj sampled
    | online here up =>
      refine ⟨fun _ => guarded.exclusive (by rw [here]; rfl), ?_, fun _ => up,
        fun _ _ here => (by cases here)⟩
      intro generation sampled
      exact guarded.stamp generation (by rw [here]; exact sampled)
    | current here same =>
      refine guarded.moves here rfl rfl rfl rfl rfl (.inr rfl) (.inr rfl) ?_
      intro generation request next
      cases next
      exact same
    | offline here | purge here | empty here | stale here | unbound here | unwritten here
    | moved here | sent here | withdraw here | give here =>
      exact guarded.moves here rfl rfl rfl rfl rfl (.inl rfl) (.inl rfl) fun _ _ next => by
        cases next
    | get here | process here | mark here | written here =>
      exact guarded.moves here rfl rfl rfl rfl rfl (.inr rfl) (.inr rfl) fun _ _ next => by
        cases next
  | reset step =>
    cases step with
    | lock free => exact .of_unlocked free.2
    | setOffline held | advance held | authReset held | discard held | purge held
    | readStatus held | unflag held | empty held | give held | keep held | clear held
    | publish held | unlock held => exact .of_unlocked (guarded.unlocked held)

/-! ## What a reset has cleared -/

/-- The points of a reset in their order. -/
def ResetPoint.rank : ResetPoint → Nat
  | .entered => 0 | .offline => 1 | .advanced => 2 | .authReset => 3 | .discarded => 4
  | .purged => 5 | .sampled _ => 6 | .unflagged _ => 7 | .emptied _ => 8 | .reclaimed _ => 9
  | .cleared _ => 10 | .published => 11

/-- Nothing of an earlier connection is left in the protocol: its context is a
new one, and no upload is staged or timed. -/
structure Discarded (cfg : Config) (w : World) : Prop where
  context : w.contexts usbContext = .zero cfg
  staging : w.dynamic.stagingActive = false
  timeout : w.timeoutOwner ≠ some usbContext

theorem Discarded.discard (cfg : Config) (nowMs : Int) (w : World) :
    Discarded cfg (w.discard cfg usbContext nowMs) := by
  refine ⟨World.discard_contexts_self .., rfl, ?_⟩
  simp only [World.discard, World.modify_timeoutOwner, World.clearDynamic]
  split
  · simp
  · assumption

theorem Discarded.clearDynamic {w : World} (discarded : Discarded cfg w) (owner : ContextId)
    (nowMs : Int) : Discarded cfg (w.clearDynamic cfg owner nowMs) := by
  refine ⟨?_, rfl, ?_⟩
  · by_cases same : usbContext = owner
    · subst same
      rw [World.clearDynamic_contexts_self, discarded.context]
      rfl
    · rw [World.clearDynamic_contexts_of_ne _ _ _ _ _ same]
      exact discarded.context
  · simp only [World.clearDynamic]
    split
    · simp
    · exact discarded.timeout

theorem Discarded.quiet {w : World} (discarded : Discarded cfg w) {dynamic : DynamicStore}
    (quiet : w.dynamic.Quiet dynamic) : Discarded cfg (w.withDynamic dynamic) := by
  refine ⟨discarded.context, ?_, discarded.timeout⟩
  rcases quiet.staging with same | idle
  · have active := congrArg DynamicStore.Staging.active same
    exact active.trans discarded.staging
  · exact idle

theorem Discarded.elsewhere {w w' : World} {event : WorldEvent} (discarded : Discarded cfg w)
    (elsewhere : Elsewhere event) (step : WorldStep cfg hmac w event w') : Discarded cfg w' := by
  cases event with
  | frame | transportReset => exact elsewhere.elim
  | auth call =>
    obtain ⟨system, _, rfl⟩ := step
    exact ⟨discarded.context, discarded.staging, discarded.timeout⟩
  | timeoutWork env =>
    cases step
    unfold World.dynamicTimeoutWorkHandler
    split
    · exact discarded
    next owner _ =>
      dsimp only
      split
      · exact ⟨discarded.context, discarded.staging, by simp⟩
      · split
        · exact ⟨discarded.context, discarded.staging, discarded.timeout⟩
        · exact discarded.clearDynamic owner _
  | ttlWork env =>
    cases step
    exact discarded.quiet (DynamicStore.ttlWorkHandler_quiet cfg _ _ _)
  | execute slot env result =>
    have executed : w' = (w.executeSlot cfg slot env).2 := (congrArg Prod.snd step).symm
    subst executed
    obtain ⟨context, staging, timeout⟩ := discarded.quiet
      (DynamicStore.executeSlot_quiet cfg slot (env.clock .operation) (env.clock .rearm)
        env.executorErr w.dynamic w.executor)
    exact ⟨context, staging, timeout⟩
  | executorWork env =>
    cases step
    exact ⟨discarded.context, discarded.staging, discarded.timeout⟩
  | clearAll env =>
    cases step
    exact discarded.quiet (DynamicStore.clearAll_quiet cfg _ _)

/-- Settings callbacks open no session and count no failure. -/
theorem Elsewhere.auth {w w' : World} {event : WorldEvent} (elsewhere : Elsewhere event)
    (step : WorldStep cfg hmac w event w') (fresh : AuthCore.transportReset w.auth = w.auth) :
    AuthCore.transportReset w'.auth = w'.auth := by
  cases event with
  | frame | transportReset => exact elsewhere.elim
  | auth call =>
    obtain ⟨system, called, rfl⟩ := step
    cases call with
    | settingsSet name length readCb result =>
      change AuthCore.transportReset system.core = system.core
      rcases AuthCore.settingsSet_cases called.1 with
        ⟨_, _, left⟩ | ⟨_, _, _, left⟩ | ⟨_, _, _, _, left⟩
      · rw [left]
        exact fresh
      · rw [left]
        rfl
      · rw [left]
        rfl
    | settingsCommit =>
      change AuthCore.transportReset system.core = system.core
      rw [called.1]
      unfold AuthCore.settingsCommit
      split
      · rfl
      · split
        · rfl
        · exact fresh
    | _ => exact elsewhere.elim
  | timeoutWork env =>
    have same : w'.auth = w.auth := by
      rw [step]
      unfold World.dynamicTimeoutWorkHandler
      split
      · rfl
      · dsimp only
        split
        · rfl
        · split <;> rfl
    rw [same]
    exact fresh
  | execute slot env result =>
    have same : w'.auth = w.auth := congrArg (fun outcome => outcome.2.auth) step.symm
    rw [same]
    exact fresh
  | ttlWork env | executorWork env | clearAll env =>
    cases step
    exact fresh

/-- How far the reset that holds the mutex has come. -/
structure Progress (cfg : Config) (s : Transport) : Prop where
  auth : ∀ reset, s.reset = some reset → 3 ≤ reset.point.rank →
    AuthCore.transportReset s.world.auth = s.world.auth
  discarded : ∀ reset, s.reset = some reset → 4 ≤ reset.point.rank → Discarded cfg s.world

theorem Progress.of_free (free : s.reset = none) : Progress cfg s := by
  constructor
  · intro reset held
    cases free.symm.trans held
  · intro reset held
    cases free.symm.trans held

theorem Progress.congr (progress : Progress cfg s) (reset : s'.reset = s.reset)
    (world : s'.world = s.world) : Progress cfg s' := by
  constructor
  · rw [reset, world]
    exact progress.auth
  · rw [reset, world]
    exact progress.discarded

/-- The reset moves on and leaves the firmware state alone. -/
theorem Progress.goes {reset : Reset} {point : ResetPoint} (progress : Progress cfg s)
    (held : s.reset = some reset) (moved : s'.reset = some (reset.goes point))
    (world : s'.world = s.world) (late : 4 ≤ point.rank → 4 ≤ reset.point.rank)
    (later : 3 ≤ point.rank → 3 ≤ reset.point.rank) : Progress cfg s' := by
  constructor
  · intro current here reached
    rw [moved] at here
    cases here
    rw [world]
    exact progress.auth reset held (later reached)
  · intro current here reached
    rw [moved] at here
    cases here
    rw [world]
    exact progress.discarded reset held (late reached)

theorem Progress.step (progress : Progress cfg s) (guarded : Guarded s)
    (step : Step cfg hmac s event s') : Progress cfg s' := by
  cases step with
  | report step => cases step <;> exact progress.congr rfl rfl
  | ready step => cases step <;> exact progress.congr rfl rfl
  | bind => exact progress.congr rfl rfl
  | outside elsewhere step =>
    constructor
    · intro reset held reached
      exact elsewhere.auth step (progress.auth reset held reached)
    · intro reset held reached
      exact (progress.discarded reset held reached).elsewhere elsewhere step
  | handler step =>
    cases step with
    | process here => exact .of_free (guarded.exclusive (by rw [here]; rfl))
    | _ => exact progress.congr rfl rfl
  | reset step =>
    cases step with
    | lock =>
      constructor
      · intro reset here reached
        cases here
        simp [ResetPoint.rank] at reached
      · intro reset here reached
        cases here
        simp [ResetPoint.rank] at reached
    | unlock => exact .of_free rfl
    | authReset held point =>
      constructor
      · intro _ _ _
        rfl
      · intro reset here reached
        cases here
        simp [Reset.goes, ResetPoint.rank] at reached
    | discard held point =>
      constructor
      · intro _ _ _
        exact progress.auth _ held (by rw [point]; decide)
      · intro _ _ _
        exact Discarded.discard ..
    | clear held point =>
      have auth := progress.auth _ held (by rw [point]; simp [ResetPoint.rank])
      have discarded := progress.discarded _ held (by rw [point]; simp [ResetPoint.rank])
      constructor
      · intro _ _ _
        simp only [Transport.resetting]
        split
        · exact auth
        · exact auth
      · intro _ _ _
        simp only [Transport.resetting]
        split
        · exact discarded.quiet (DynamicStore.clearAll_quiet cfg _ _)
        · exact discarded
    | setOffline held point | advance held point | purge held point | readStatus held point
    | unflag held point | empty held point | give held point | keep held point
    | publish held point =>
      exact progress.goes held rfl rfl (by rw [point]; simp [ResetPoint.rank])
        (by rw [point]; simp [ResetPoint.rank])

/-! ## The firmware behind the transport -/

/-- A step of the transport is at most one call of the firmware. -/
theorem step_world (progress : Progress cfg s) (step : Step cfg hmac s event s') :
    s'.world = s.world ∨ ∃ called, WorldStep cfg hmac s.world called s'.world := by
  cases step with
  | report step => cases step <;> exact Or.inl rfl
  | ready step => cases step <;> exact Or.inl rfl
  | bind => exact Or.inl rfl
  | outside _ step => exact Or.inr ⟨_, step⟩
  | handler step =>
    cases step with
    | @process _ _ exchange _ world _ _ _ _ processed =>
      refine Or.inr ⟨.frame exchange, ?_⟩
      simp only [Protocol.process, Prod.mk.injEq, Option.some.injEq] at processed
      exact Prod.ext processed.2.1 processed.2.2
    | _ => exact Or.inl rfl
  | reset step =>
    cases step with
    | authReset => exact Or.inr ⟨.auth .transportReset, ⟨_, s.world.settings⟩, ⟨rfl, rfl⟩, rfl⟩
    | @discard _ nowMs held point =>
      refine Or.inr ⟨.transportReset usbContext (Env.still nowMs), ?_⟩
      have fresh := progress.auth _ held (by rw [point]; decide)
      change s.world.discard cfg usbContext nowMs =
        (s.world.withAuth (AuthCore.transportReset s.world.auth)).discard cfg usbContext nowMs
      rw [fresh]
      rfl
    | @clear _ _ env held point =>
      simp only [Transport.resetting]
      split
      · exact Or.inr ⟨.clearAll env, rfl⟩
      · exact Or.inl rfl
    | _ => exact Or.inl rfl

theorem run_sound (run : Run (Step cfg hmac) (.boot cfg settings) events s) :
    Guarded s ∧ Progress cfg s := by
  refine run.invariant (fun s => Guarded s ∧ Progress cfg s) ⟨Guarded.boot, .of_free rfl⟩ ?_
  intro _ _ _ sound step
  exact ⟨sound.1.step step, sound.2.step sound.1 step⟩

/-- What holds of every run of the firmware holds behind the transport. -/
theorem usb_world_run (run : Run (Step cfg hmac) (.boot cfg settings) events s) :
    ∃ calls, Run (WorldStep cfg hmac) (.boot cfg settings) calls s.world := by
  induction run with
  | nil => exact ⟨[], Run.nil _⟩
  | snoc earlier step ih =>
    obtain ⟨calls, world⟩ := ih
    rcases step_world (run_sound earlier).2 step with same | ⟨called, next⟩
    · exact ⟨calls, same ▸ world⟩
    · exact ⟨_, world.snoc next⟩

end RuntimeMacro.Source.UsbHid
