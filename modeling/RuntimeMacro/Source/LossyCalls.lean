import RuntimeMacro.Foundations.Transactions
import RuntimeMacro.Source.Station

/-!
# The requests of a transaction on a lossy link

tools/runtime_macro_cli.py:629-653. The rule of `_call` for a client whose
requests form a transaction: what an answered request met on the firmware, and
what is left of one that was not answered.
-/
namespace RuntimeMacro.Source
open Foundations.Dialogues Foundations.Dialogues.Procedure Foundations.Links Foundations.Runs
open Relation
open AuthCore (Hmac)
open RuntimeMacroClient (Answer Client ClientError)

variable {cfg : Config} {hmac : Hmac} {id : ContextId} {Only : Moment World Exchange → Prop}
  {s s' : Station}

/-- The firmware with any clock, storage and random source. -/
abbrev device (cfg : Config) (hmac : Hmac) (id : ContextId) : Server Station Frame Frame :=
  firmware cfg hmac id fun _ _ => True

/-- Whatever the station has served is as `Only` says. -/
def Kept (Only : Moment World Exchange → Prop) (s : Station) : Prop :=
  ∀ moment ∈ s.served, Only moment

theorem Kept.fresh (w : World) : Kept Only (.fresh w) := by
  intro moment impossible
  cases impossible

theorem Kept.serve {exchange : Exchange} {w' : World} (kept : Kept Only s)
    (last : Only ⟨s.world, exchange, w'⟩) : Kept Only (s.serve exchange w') := by
  intro moment member
  rcases List.mem_append.mp member with earlier | latest
  · exact kept moment earlier
  · rw [List.mem_singleton.mp latest]
    exact last

theorem Kept.rests (kept : Kept Only s) (rested : Station.Rests cfg hmac s s') : Kept Only s' := by
  intro moment member
  rw [rests_served (.single rested)] at member
  exact kept moment member

namespace RuntimeMacroClient

variable {t t' : Delayed Station Frame × Talk} {Sends Opens : Frame → Prop}
  {Sound Mine : Station → Prop} {lawful : Talk → Frame → Prop} {request response : Frame}
  {opcode : Opcode} {next : UInt8} {before after : Station}

/-- The client may send a request: under the next id, or again under that of an
answer. -/
def Keyed (requestId : UInt8) (d : Delayed Station Frame) : Prop :=
  requestId = d.key + 1 ∨ (d.answered = true ∧ requestId = d.key)

/-- A request that was answered OK. -/
structure Acknowledged (cfg : Config) (hmac : Hmac) (id : ContextId) (Opens : Frame → Prop)
    (Sound Mine : Station → Prop) (t t' : Delayed Station Frame × Talk)
    (request response : Frame) (before after : Station) : Prop where
  status : response.status = Status.ok.code
  talk : t'.2 = t.2 ++ [(request, .ok response)]
  served : Served (device cfg hmac id) Opens Sound Mine t.1 request response t'.1 before after
  key : t'.1.key = request.requestId

/-- A request without an answer, or with an error. -/
inductive Failed (cfg : Config) (hmac : Hmac) (id : ContextId) (Opens : Frame → Prop)
    (Sound Mine : Station → Prop) (t t' : Delayed Station Frame × Talk) (request : Frame) :
    ClientError → Prop
  | lost (fault : TransportFault) (talk : t'.2 = t.2 ++ [(request, .error fault)]) :
      Failed cfg hmac id Opens Sound Mine t t' request (.transportError fault)
  | refused (status : Status) (response : Frame) (before after : Station) (bad : status ≠ .ok)
      (stated : response.status = status.code) (talk : t'.2 = t.2 ++ [(request, .ok response)])
      (served : Served (device cfg hmac id) Opens Sound Mine t.1 request response t'.1 before
        after) :
      Failed cfg hmac id Opens Sound Mine t t' request (ofStatus status)

theorem meets_sent (transaction : Transaction (device cfg hmac id) Sends Opens Sound Mine)
    (guarded : Guarded Sends Opens Sound Mine t.1) (keyed : Keyed request.requestId t.1)
    (lawfully : lawful t.2 request) (passed : Protocol.baseCheck request = .ok opcode)
    (sends : Sends request) (covered : Mine t.1.state ∨ Opens request) :
    (call request).Meets (delayedLink cfg hmac id (fun _ _ => True) lawful)
      (fun response next' t' => next' = next ∧ Guarded Sends Opens Sound Mine t'.1 ∧
        ∃ before after, Acknowledged cfg hmac id Opens Sound Mine t t' request response before
          after)
      (fun error next' t' => next' = next ∧ Guarded Sends Opens Sound Mine t'.1 ∧
        t'.1.key = request.requestId ∧ Failed cfg hmac id Opens Sound Mine t t' request error)
      next t := by
  obtain ⟨d, past⟩ := t
  have heard : ∀ {answer d'}, Hears cfg hmac id (fun _ _ => True) d request answer d' →
      d'.key = request.requestId := by
    intro answer d' answered
    cases answered with
    | answered => rfl
    | failed => rfl
  apply meets_delayedCall keyed lawfully passed
  · intro fault d' answered
    exact ⟨rfl, (guarded.failed transaction sends covered answered).1, heard answered,
      .lost fault rfl⟩
  · intro status response d' bad stated answered
    obtain ⟨still, before, after, served⟩ :=
      guarded.answered transaction sends covered answered
    exact ⟨rfl, still, heard answered, .refused status response before after bad stated rfl served⟩
  · intro response d' success answered
    obtain ⟨still, before, after, served⟩ :=
      guarded.answered transaction sends covered answered
    exact ⟨rfl, still, before, after, success, rfl, served, heard answered⟩

/-- The last call the station has served is the one that was answered. -/
theorem served_last
    (served : Served (device cfg hmac id) Opens Sound Mine t.1 request response t'.1 before after) :
    ∃ env w', FrameStep cfg hmac before.world ⟨id, env, request, response⟩ w' ∧
      QuietKept w' t'.1.state.world ∧
      t'.1.state.served = before.served ++ [⟨before.world, ⟨id, env, request, response⟩, w'⟩] := by
  obtain ⟨env, w', _, step, left⟩ := served.serves
  have quiet := rests_quietKept served.rested
  rw [left] at quiet
  refine ⟨env, w', step, quiet, ?_⟩
  rw [rests_served served.rested, left]
  rfl

/-- Every answer the client has taken is that of the same request, when it was
served. -/
def Witnessed (id : ContextId) (t : Delayed Station Frame × Talk) : Prop :=
  ∀ request response, (request, .ok response) ∈ t.2 → ∃ moment ∈ t.1.state.served,
    moment.event.id = id ∧ moment.event.request = request ∧ moment.event.response = response

theorem serves_served (serves : (device cfg hmac id).serves s request response s') :
    ∃ env w', s'.served = s.served ++ [⟨s.world, ⟨id, env, request, response⟩, w'⟩] := by
  obtain ⟨env, w', _, _, rfl⟩ := serves
  exact ⟨env, w', rfl⟩

theorem drains_served {requests : List Frame}
    (drains : (device cfg hmac id).Drains s requests s') :
    ∃ more, s'.served = s.served ++ more := by
  apply drains.invariant fun s' => ∃ more, s'.served = s.served ++ more
  · exact ⟨[], by simp⟩
  · rintro s₁ s₂ ⟨more, same⟩ rested
    exact ⟨more, (rests_served (.single rested)).trans same⟩
  · rintro s₁ request response s₂ _ ⟨more, same⟩ serves
    obtain ⟨env, w', last⟩ := serves_served serves
    exact ⟨more ++ [_], by rw [last, same, List.append_assoc]⟩

/-- The record of a station only grows. -/
theorem answers_served {answer : Answer}
    (answered : (delayedLink cfg hmac id (fun _ _ => True) lawful).answers t request answer t') :
    t.1.state.served <+: t'.1.state.served := by
  obtain ⟨d, past⟩ := t
  obtain ⟨d', past'⟩ := t'
  obtain ⟨heard, _⟩ := answered
  have heard : Hears cfg hmac id (fun _ _ => True) d request answer d' := heard
  cases heard with
  | answered drained serves rested =>
    obtain ⟨more, same⟩ := drains_served drained
    obtain ⟨env, w', last⟩ := serves_served serves
    exact ⟨more ++ [_], by rw [rests_served rested, last, same, List.append_assoc]⟩
  | failed fault split drained kept =>
    obtain ⟨more, same⟩ := drains_served drained
    exact ⟨more, same.symm⟩

theorem Witnessed.answers {answer : Answer} (witnessed : Witnessed id t)
    (answered : (delayedLink cfg hmac id (fun _ _ => True) lawful).answers t request answer t') :
    Witnessed id t' := by
  have grows := answers_served answered
  obtain ⟨d, past⟩ := t
  obtain ⟨d', past'⟩ := t'
  obtain ⟨heard, record⟩ := answered
  have record : past' = past ++ [(request, answer)] := record
  have heard : Hears cfg hmac id (fun _ _ => True) d request answer d' := heard
  intro request' response member
  rw [record] at member
  rcases List.mem_append.mp member with earlier | latest
  · obtain ⟨moment, found, holds⟩ := witnessed request' response earlier
    exact ⟨moment, grows.subset found, holds⟩
  · have turn := List.mem_singleton.mp latest
    cases heard with
    | @answered before after final taken drained serves rested =>
      obtain ⟨env, w', last⟩ := serves_served serves
      rw [Prod.mk.injEq, Except.ok.injEq] at turn
      refine ⟨⟨before.world, ⟨id, env, request, taken⟩, w'⟩, ?_, rfl, turn.1.symm, turn.2.symm⟩
      rw [rests_served rested, last]
      simp
    | failed => cases turn

end RuntimeMacroClient

end RuntimeMacro.Source
