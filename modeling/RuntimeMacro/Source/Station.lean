import RuntimeMacro.Foundations.Links
import RuntimeMacro.Source.ClientCalls
import RuntimeMacro.Source.Device

/-!
# The firmware at one end of a link

runtime_macro_protocol.c:1288-1425; tools/runtime_macro_cli.py:629-653. The
firmware as a device that serves the frames of one client on one context.
Between the frames only its own work items, executions and lifecycle clears
run. It keeps a record of the calls it has served. Then the rule of `_call` on
a direct link to it.
-/
namespace RuntimeMacro.Source
open Foundations.Dialogues Foundations.Dialogues.Procedure Foundations.Links Foundations.Runs
open Relation
open AuthCore (Hmac)
open Protocol (okFrame errorFrame Carries)
open RuntimeMacroClient (Answer Client ClientError answersTo)

/-- What runs without a host. -/
def WorldEvent.background : WorldEvent → Bool
  | .timeoutWork _ | .ttlWork _ | .execute _ _ _ | .executorWork _ | .clearAll _ => true
  | _ => false

/-- The firmware and the calls it has served, oldest first. -/
structure Station where
  world : World
  served : List (Moment World Exchange)

namespace Station

/-- Nothing served yet. -/
def fresh (w : World) : Station := ⟨w, []⟩

/-- The station after a call. -/
def serve (exchange : Exchange) (w' : World) (s : Station) : Station :=
  ⟨w', s.served ++ [⟨s.world, exchange, w'⟩]⟩

/-- One frame served in an environment the link permits, and added to the
record of the station. -/
def Serves (cfg : Config) (hmac : Hmac) (id : ContextId) (permits : Env → World → Prop)
    (s : Station) (request response : Frame) (s' : Station) : Prop :=
  ∃ env w', permits env s.world ∧ FrameStep cfg hmac s.world ⟨id, env, request, response⟩ w' ∧
    s' = s.serve ⟨id, env, request, response⟩ w'

/-- One step of the keyboard that no frame causes. -/
def Rests (cfg : Config) (hmac : Hmac) (s s' : Station) : Prop :=
  ∃ event w', event.background = true ∧ WorldStep cfg hmac s.world event w' ∧
    s' = { s with world := w' }

theorem Serves.echoes {cfg : Config} {hmac : Hmac} {id : ContextId} {permits : Env → World → Prop}
    {s s' : Station} {request response : Frame}
    (serves : Serves cfg hmac id permits s request response s') :
    Protocol.Echoes request response := by
  obtain ⟨env, w', _, step, _⟩ := serves
  have echoes := Protocol.processFrame_echoes cfg hmac env id request s.world
  rw [step.result] at echoes
  exact echoes

end Station

/-- The calls that `permits` admits, on one context. -/
def firmware (cfg : Config) (hmac : Hmac) (id : ContextId) (permits : Env → World → Prop) :
    Server Station Frame Frame where
  serves := Station.Serves cfg hmac id permits
  rests := Station.Rests cfg hmac
  fits := answersTo
  key := Frame.requestId
  keyed := by
    intro s request response s' other serves fits
    simp only [answersTo, Bool.and_eq_true, beq_iff_eq] at fits
    exact serves.echoes.requestId.symm.trans fits.1.1

variable {cfg : Config} {hmac : Hmac} {id : ContextId} {permits : Env → World → Prop}
  {w w' : World} {s s' : Station} {request response : Frame} {opcode : Opcode}

/-! ## Between the frames -/

/-- Nothing but the dynamic macros, the executor and the dynamic upload
changed. -/
structure QuietKept (w w' : World) : Prop where
  auth : w'.auth = w.auth
  settings : w'.settings = w.settings
  slots : w'.slots = w.slots
  calls : w'.calls = w.calls
  set : ∀ id, (w'.contexts id).upload .set = (w.contexts id).upload .set
  passwordSet : ∀ id, (w'.contexts id).upload .passwordSet = (w.contexts id).upload .passwordSet
  record : ∀ id, (w'.contexts id).record = (w.contexts id).record

theorem QuietKept.refl (w : World) : QuietKept w w := by
  constructor
  all_goals intros; rfl

theorem QuietKept.trans {w'' : World} (first : QuietKept w w') (second : QuietKept w' w'') :
    QuietKept w w'' := by
  constructor
  · exact second.auth.trans first.auth
  · exact second.settings.trans first.settings
  · exact second.slots.trans first.slots
  · exact second.calls.trans first.calls
  · exact fun id => (second.set id).trans (first.set id)
  · exact fun id => (second.passwordSet id).trans (first.passwordSet id)
  · exact fun id => (second.record id).trans (first.record id)

theorem clearDynamic_quietKept (nowMs : Int) : QuietKept w (w.clearDynamic cfg id nowMs) := by
  have contexts : ∀ other, (w.clearDynamic cfg id nowMs).contexts other =
      if other = id then (w.contexts id).clearDynamic else w.contexts other := by
    intro other
    by_cases same : other = id
    · subst same
      simp
    · rw [World.clearDynamic_contexts_of_ne _ _ _ _ _ same, if_neg same]
  constructor
  · rfl
  · rfl
  · rfl
  · rfl
  all_goals
    intro other
    rw [contexts]
    split
    next same =>
      subst same
      rfl
    · rfl

theorem quietKept_of_contexts (contexts : w'.contexts = w.contexts) (auth : w'.auth = w.auth)
    (settings : w'.settings = w.settings) (slots : w'.slots = w.slots)
    (calls : w'.calls = w.calls) : QuietKept w w' := by
  constructor
  · exact auth
  · exact settings
  · exact slots
  · exact calls
  all_goals
    intro id
    rw [contexts]

theorem background_quietKept {event : WorldEvent} (quiet : event.background = true)
    (step : WorldStep cfg hmac w event w') : QuietKept w w' := by
  cases event with
  | frame | transportReset | auth => cases quiet
  | timeoutWork env =>
    rw [step]
    unfold World.dynamicTimeoutWorkHandler
    split
    · exact QuietKept.refl w
    · dsimp only
      split
      · apply quietKept_of_contexts <;> rfl
      · split
        · apply quietKept_of_contexts <;> rfl
        · exact clearDynamic_quietKept _
  | execute slot env result =>
    have result := congrArg Prod.snd step
    rw [← show (w.executeSlot cfg slot env).2 = w' from result]
    apply quietKept_of_contexts <;> rfl
  | ttlWork | executorWork | clearAll =>
    rw [step]
    apply quietKept_of_contexts <;> rfl

theorem rests_quietKept (rested : ReflTransGen (Station.Rests cfg hmac) s s') :
    QuietKept s.world s'.world := by
  induction rested with
  | refl => exact QuietKept.refl _
  | tail _ step ih =>
    obtain ⟨event, w', quiet, step, rfl⟩ := step
    exact ih.trans (background_quietKept quiet step)

theorem rests_served (rested : ReflTransGen (Station.Rests cfg hmac) s s') :
    s'.served = s.served := by
  induction rested with
  | refl => rfl
  | tail _ step ih =>
    obtain ⟨event, w', quiet, step, rfl⟩ := step
    exact ih

theorem DeviceSound.rests (sound : DeviceSound cfg s.world)
    (rested : ReflTransGen (Station.Rests cfg hmac) s s') : DeviceSound cfg s'.world := by
  induction rested with
  | refl => exact sound
  | tail _ step ih =>
    obtain ⟨event, w', quiet, step, rfl⟩ := step
    exact ih.world step

theorem DeviceSound.serves (sound : DeviceSound cfg s.world)
    (serves : Station.Serves cfg hmac id permits s request response s') :
    DeviceSound cfg s'.world := by
  obtain ⟨env, w', _, step, rfl⟩ := serves
  have step : WorldStep cfg hmac s.world (.frame ⟨id, env, request, response⟩) w' := step
  exact DeviceSound.world sound step

/-! ## Calls on a direct link -/

/-- The two forms of an answer, with what it carries. -/
theorem processFrame_forms {env : Env} (passed : Protocol.baseCheck request = .ok opcode)
    (result : Protocol.processFrame cfg hmac env id request w = (response, w')) :
    (∃ status, status ≠ .ok ∧ response = errorFrame request status) ∨
    ∃ data offset total, data.length ≤ payloadSize ∧ offset < 65536 ∧ total < 65536 ∧
      Carries cfg env w request opcode data offset total ∧
      response = okFrame request data offset total := by
  have answer := Protocol.processFrame_answer cfg hmac env id w passed
  simp only [result] at answer
  cases answer with
  | refused status bad => exact Or.inl ⟨status, bad, rfl⟩
  | accepted data offset total carried sized placed fits =>
    exact Or.inr ⟨data, offset, total, sized, placed, fits, carried, rfl⟩

/-- What was asked and what came back, oldest first. -/
abbrev Talk := List (Frame × Answer)

/-- The frame passes the base validation. -/
def WellFormed (request : Frame) : Prop := ∃ opcode, Protocol.baseCheck request = .ok opcode

/-- A direct link to the firmware. -/
def directLink (cfg : Config) (hmac : Hmac) (id : ContextId) (permits : Env → World → Prop)
    (willing : World → Prop) : Partner Station Frame Answer :=
  (firmware cfg hmac id permits).direct fun s => willing s.world

/-- The link with its talk, on which only well-formed frames are sent. -/
def checkedLink (cfg : Config) (hmac : Hmac) (id : ContextId) (permits : Env → World → Prop)
    (willing : World → Prop) : Partner (Station × Talk) Frame Answer :=
  (directLink cfg hmac id permits willing).recorded fun _ => WellFormed

/-- A willing firmware that has an admitted call answers. -/
theorem directLink_responsive {willing : World → Prop}
    (admits : ∀ w, willing w → ∃ env, permits env w) (s : Station) (request : Frame)
    (ready : (directLink cfg hmac id permits willing).allows s request) :
    ∃ answer s', (directLink cfg hmac id permits willing).answers s request answer s' := by
  obtain ⟨env, permitted⟩ := admits s.world ready
  rcases result : Protocol.processFrame cfg hmac env id request s.world with ⟨response, w'⟩
  have serves : Station.Serves cfg hmac id permits s request response
      (s.serve ⟨id, env, request, response⟩ w') := ⟨env, w', permitted, result, rfl⟩
  refine ⟨.ok response, _, s, response, .refl, serves, Or.inl ⟨?_, rfl⟩⟩
  have echoes := serves.echoes
  simp [firmware, answersTo, echoes.requestId, echoes.opcode, echoes.slot]

/-- The firmware that answers at once, with the same environment each time. -/
def Station.answer (cfg : Config) (hmac : Hmac) (id : ContextId) (env : Env) (s : Station)
    (request : Frame) : Answer × Station :=
  let (response, w') := Protocol.processFrame cfg hmac env id request s.world
  (.ok response, s.serve ⟨id, env, request, response⟩ w')

theorem Station.answer_direct {env : Env} {willing : World → Prop}
    (permitted : ∀ w, permits env w) (s : Station) (request : Frame) :
    (directLink cfg hmac id permits willing).answers s request (s.answer cfg hmac id env request).1
      (s.answer cfg hmac id env request).2 := by
  have serves : Station.Serves cfg hmac id permits s request
      (Protocol.processFrame cfg hmac env id request s.world).1
      (s.answer cfg hmac id env request).2 := ⟨env, _, permitted s.world, rfl, rfl⟩
  refine ⟨s, _, .refl, serves, Or.inl ⟨?_, rfl⟩⟩
  have echoes := serves.echoes
  simp [firmware, answersTo, echoes.requestId, echoes.opcode, echoes.slot]

namespace RuntimeMacroClient

/-- The rule of `_call` on a direct link. -/
theorem meets_directCall {wanted : Frame → UInt8 → Station × Talk → Prop}
    {raised : ClientError → UInt8 → Station × Talk → Prop} {next : UInt8} {past : Talk}
    {willing : World → Prop} (ready : willing s.world)
    (passed : Protocol.baseCheck request = .ok opcode)
    (refused : ∀ quiet env w' status, ReflTransGen (Station.Rests cfg hmac) s quiet →
      permits env quiet.world → status ≠ .ok →
      Protocol.processFrame cfg hmac env id request quiet.world = (errorFrame request status, w') →
      raised (ofStatus status) next
        (quiet.serve ⟨id, env, request, errorFrame request status⟩ w',
          past ++ [(request, .ok (errorFrame request status))]))
    (accepted : ∀ quiet env w' data offset total, ReflTransGen (Station.Rests cfg hmac) s quiet →
      permits env quiet.world → data.length ≤ payloadSize → offset < 65536 → total < 65536 →
      Carries cfg env quiet.world request opcode data offset total →
      Protocol.processFrame cfg hmac env id request quiet.world =
        (okFrame request data offset total, w') →
      wanted (okFrame request data offset total) next
        (quiet.serve ⟨id, env, request, okFrame request data offset total⟩ w',
          past ++ [(request, .ok (okFrame request data offset total))])) :
    (call request).Meets (checkedLink cfg hmac id permits willing) wanted raised next
      (s, past) := by
  have fitting : ∀ {quiet response s'}, Station.Serves cfg hmac id permits quiet request response
      s' → answersTo response request = true := by
    intro quiet response s' serves
    simp [answersTo, serves.echoes.requestId, serves.echoes.opcode, serves.echoes.slot]
  apply meets_call
  · exact ⟨ready, opcode, passed⟩
  · rintro fault ⟨final, past'⟩ ⟨⟨quiet, response, _, serves, ⟨_, impossible⟩ | ⟨misfit, _⟩⟩, _⟩
    · cases impossible
    · exact absurd ((fitting serves).symm.trans misfit) (by decide)
  · rintro response ⟨final, past'⟩ ⟨⟨quiet, heard, rested, serves, outcome⟩, record⟩
    have same : response = heard := by
      rcases outcome with ⟨_, same⟩ | ⟨_, _, impossible⟩
      · cases same
        rfl
      · cases impossible
    subst same
    clear outcome
    obtain ⟨env, w', permitted, step, left⟩ := serves
    have left : final = quiet.serve ⟨id, env, request, response⟩ w' := left
    have record : past' = past ++ [(request, .ok response)] := record
    rw [left, record]
    rcases processFrame_forms passed step.result with
      ⟨status, bad, rfl⟩ | ⟨data, offset, total, sized, placed, fits, carried, rfl⟩
    · exact Or.inl ⟨status, bad, rfl, refused quiet env w' status rested permitted bad step⟩
    · exact Or.inr ⟨data, offset, total, sized, rfl,
        accepted quiet env w' data offset total rested permitted sized placed fits carried step⟩

/-! ## Calls on a lossy link -/

/-- The firmware as a client sees it on a lossy link, with the talk so far. -/
abbrev delayedLink (cfg : Config) (hmac : Hmac) (id : ContextId) (permits : Env → World → Prop)
    (lawful : Talk → Frame → Prop) : Partner (Delayed Station Frame × Talk) Frame Answer :=
  (delayed (firmware cfg hmac id permits)).recorded lawful

/-- What it may hear. -/
abbrev Hears (cfg : Config) (hmac : Hmac) (id : ContextId) (permits : Env → World → Prop)
    (d : Delayed Station Frame) (request : Frame) (answer : Answer)
    (d' : Delayed Station Frame) : Prop :=
  DelayedAnswer (firmware cfg hmac id permits) d request answer d'

/-- The rule of `_call` on a lossy link. -/
theorem meets_delayedCall {wanted : Frame → UInt8 → Delayed Station Frame × Talk → Prop}
    {raised : ClientError → UInt8 → Delayed Station Frame × Talk → Prop} {next : UInt8}
    {past : Talk} {lawful : Talk → Frame → Prop} {d : Delayed Station Frame}
    (keyed : request.requestId = d.key + 1 ∨ (d.answered = true ∧ request.requestId = d.key))
    (lawfully : lawful past request) (passed : Protocol.baseCheck request = .ok opcode)
    (lost : ∀ fault d', Hears cfg hmac id permits d request (.error fault) d' →
      raised (.transportError fault) next (d', past ++ [(request, .error fault)]))
    (refused : ∀ status response d', status ≠ .ok → response.status = status.code →
      Hears cfg hmac id permits d request (.ok response) d' →
      raised (ofStatus status) next (d', past ++ [(request, .ok response)]))
    (accepted : ∀ response d', response.status = Status.ok.code →
      Hears cfg hmac id permits d request (.ok response) d' →
      wanted response next (d', past ++ [(request, .ok response)])) :
    (call request).Meets (delayedLink cfg hmac id permits lawful) wanted raised next
      (d, past) := by
  apply meets_call
  · exact ⟨keyed, lawfully⟩
  · rintro fault ⟨d', past'⟩ ⟨answered, record⟩
    have record : past' = past ++ [(request, .error fault)] := record
    rw [record]
    exact lost fault d' answered
  · rintro response ⟨d', past'⟩ ⟨answered, record⟩
    have record : past' = past ++ [(request, .ok response)] := record
    have answered : Hears cfg hmac id permits d request (.ok response) d' := answered
    rw [record]
    obtain ⟨before, after, serves⟩ : ∃ before after,
        Station.Serves cfg hmac id permits before request response after := by
      cases answered with
      | answered _ serves _ => exact ⟨_, _, serves⟩
    obtain ⟨env, w', _, step, _⟩ := serves
    rcases processFrame_forms passed step.result with
      ⟨status, bad, shape⟩ | ⟨data, offset, total, sized, _, _, _, shape⟩
    · have known := (congrArg Frame.status shape).trans (Protocol.status_errorFrame request status)
      exact Or.inl ⟨status, bad, shape, refused status response d' bad known answered⟩
    · have known := (congrArg Frame.status shape).trans
        (Protocol.status_okFrame request data offset total)
      exact Or.inr ⟨data, offset, total, sized, shape, accepted response d' known answered⟩

end RuntimeMacroClient

end RuntimeMacro.Source
