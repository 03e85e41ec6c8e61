import RuntimeMacro.Foundations.Links

/-!
# What a procedure asks and raises

A procedure that sends requests of one kind only, whatever it hears, leaves
alone what these requests leave alone, also on a link that loses and delays
them. One rule for each way to build a procedure, and the frame rule.
-/
namespace RuntimeMacro.Foundations.Dialogues
open Dialogue

variable {ρ ω κ ε ε' α β σ τ : Type} {sends : ρ → Prop} {raises raises' : ε → Prop}

namespace Procedure

/-- Whatever it hears, it sends only such requests and raises only such
exceptions. -/
def Asks (sends : ρ → Prop) (raises : ε → Prop) (procedure : Procedure ρ ω κ ε α) : Prop :=
  ∀ vars, procedure.Meets (listener (fun _ => sends) fun (s : Unit) _ => s)
    (fun _ _ _ => True) (fun error _ _ => raises error) vars ()

variable {procedure : Procedure ρ ω κ ε α}

theorem Asks.pure (value : α) : (pure value : Procedure ρ ω κ ε α).Asks sends raises :=
  fun _ => trivial

theorem Asks.throw {error : ε} (raised : raises error) :
    (throw error : Procedure ρ ω κ ε α).Asks sends raises :=
  fun _ => raised

theorem Asks.get : (get : Procedure ρ ω κ ε κ).Asks sends raises := fun _ => trivial

theorem Asks.set (vars : κ) : (set vars : Procedure ρ ω κ ε PUnit).Asks sends raises :=
  fun _ => trivial

theorem Asks.ask {request : ρ} (sent : sends request) :
    (ask request : Procedure ρ ω κ ε ω).Asks sends raises :=
  fun _ => ⟨sent, fun _ _ _ => trivial⟩

theorem Asks.weaken (asks : procedure.Asks sends raises)
    (weaker : ∀ error, raises error → raises' error) : procedure.Asks sends raises' :=
  fun vars => (asks vars).mono (fun _ _ _ returned => returned) fun error _ _ raised =>
    weaker error raised

theorem Asks.bind (asks : procedure.Asks sends raises) {next : α → Procedure ρ ω κ ε β}
    (later : ∀ value, (next value).Asks sends raises) : (procedure >>= next).Asks sends raises := by
  intro vars
  rw [meets_bind]
  exact (asks vars).mono (fun value vars' _ _ => later value vars') fun _ _ _ raised => raised

theorem Asks.tryCatch (asks : procedure.Asks sends raises') {handler : ε → Procedure ρ ω κ ε α}
    (handles : ∀ error, raises' error → (handler error).Asks sends raises) :
    (tryCatch procedure handler).Asks sends raises := by
  intro vars
  rw [meets_tryCatch]
  exact (asks vars).mono (fun _ _ _ _ => trivial) fun error vars' _ raised =>
    handles error raised vars'

theorem Asks.attempts (asks : procedure.Asks sends raises) (again : ε → Bool) (retries : Nat) :
    (attempts again procedure retries).Asks sends raises := by
  intro vars
  apply meets_attempts (fun _ _ => True) _ retries trivial
  intro vars _ _
  exact (asks vars).mono (fun _ _ _ _ => trivial) fun _ _ _ raised => ⟨raised, fun _ => trivial⟩

/-- An attempt that may also give errors back to be tried again. -/
def AsksOnce (sends : ρ → Prop) (raises gives : ε → Prop)
    (attempt : Procedure ρ ω κ ε (Except ε α)) : Prop :=
  ∀ vars, attempt.Meets (listener (fun _ => sends) fun (s : Unit) _ => s)
    (fun outcome _ _ => ∀ error, outcome = .error error → gives error)
    (fun error _ _ => raises error) vars ()

section Attempts
variable {gives : ε → Prop} {attempt : Procedure ρ ω κ ε (Except ε α)}

theorem AsksOnce.returned (value : α) :
    (Pure.pure (.ok value) : Procedure ρ ω κ ε (Except ε α)).AsksOnce sends raises gives := by
  intro vars error same
  cases same

theorem AsksOnce.gaveUp {error : ε} (given : gives error) :
    (Pure.pure (.error error) : Procedure ρ ω κ ε (Except ε α)).AsksOnce sends raises gives := by
  intro vars error' same
  cases same
  exact given

theorem AsksOnce.throw {error : ε} (raised : raises error) :
    (throw error : Procedure ρ ω κ ε (Except ε α)).AsksOnce sends raises gives :=
  fun _ => raised

theorem AsksOnce.bind {procedure : Procedure ρ ω κ ε β} (asks : procedure.Asks sends raises)
    {next : β → Procedure ρ ω κ ε (Except ε α)}
    (later : ∀ value, (next value).AsksOnce sends raises gives) :
    (procedure >>= next).AsksOnce sends raises gives := by
  intro vars
  rw [meets_bind]
  exact (asks vars).mono (fun value vars' _ _ => later value vars') fun _ _ _ raised => raised

theorem AsksOnce.tryCatch (asks : attempt.AsksOnce sends raises' gives)
    {handler : ε → Procedure ρ ω κ ε (Except ε α)}
    (handles : ∀ error, raises' error → (handler error).AsksOnce sends raises gives) :
    (tryCatch attempt handler).AsksOnce sends raises gives := by
  intro vars
  rw [meets_tryCatch]
  exact (asks vars).mono (fun _ _ _ returned => returned) fun error vars' _ raised =>
    handles error raised vars'

theorem Asks.untilReturned (asks : attempt.AsksOnce sends raises raises) (retries : Nat) :
    (untilReturned attempt retries).Asks sends raises := by
  intro vars
  apply meets_untilReturned (fun _ _ => True) _ retries trivial
  intro vars _ _
  apply (asks vars).mono _ fun _ _ _ raised => raised
  rintro (error | value) _ _ holds
  · exact ⟨holds _ rfl, trivial⟩
  · exact trivial

end Attempts

theorem Asks.forM {body : β → Procedure ρ ω κ ε PUnit}
    (asks : ∀ item, (body item).Asks sends raises) (items : List β) :
    (items.forM body).Asks sends raises := by
  induction items with
  | nil => exact .pure _
  | cons item rest ih => exact (asks item).bind fun _ => ih

theorem Asks.foldlM {body : α → β → Procedure ρ ω κ ε α}
    (asks : ∀ state item, (body state item).Asks sends raises) (state : α) (items : List β) :
    (items.foldlM body state).Asks sends raises := by
  induction items generalizing state with
  | nil => exact .pure _
  | cons item rest ih =>
    rw [List.foldlM_cons]
    exact (asks state item).bind ih

end Procedure

/-- Frame rule: what the requests of a dialogue keep, whatever is answered,
holds at its end. -/
theorem Dialogue.Ensures.keeps {answers : τ → ρ → ω → τ → Prop} {hear : σ → ρ × ω → σ}
    {dialogue : Dialogue ρ ω α} {wanted : α → σ → Prop} {s : σ} {t t' : τ} {talk : List (ρ × ω)}
    {value : α} (ensures : dialogue.Ensures (listener (fun _ => sends) hear) wanted s)
    (runs : Runs answers dialogue t talk value t') (Inv : τ → Prop) (initially : Inv t)
    (kept : ∀ t request answer t', sends request → Inv t → answers t request answer t' →
      Inv t') : Inv t' := by
  induction runs generalizing s with
  | done => exact initially
  | ask answered _ ih =>
    exact ih (ensures.2 _ _ rfl) (kept _ _ _ _ ensures.1 initially answered)

/-- It raises what it may raise, whoever answers. -/
theorem Procedure.Asks.raised {answers : τ → ρ → ω → τ → Prop} {procedure : Procedure ρ ω κ ε α}
    (asks : procedure.Asks sends raises) {vars vars' : κ} {t t' : τ} {talk : List (ρ × ω)}
    {error : ε} (runs : Runs answers (procedure.dialogue vars) t talk (.error error, vars') t') :
    raises error := by
  obtain ⟨raised, _⟩ := (asks vars).heard runs
  exact raised

end RuntimeMacro.Foundations.Dialogues

namespace RuntimeMacro.Foundations.Links
open Dialogues Dialogue Procedure Relation

variable {σ ρ ω φ κ ε α : Type} {server : Server σ ρ ω} {link link' : Link σ ρ ω}
  {sends : ρ → Prop} {raises : ε → Prop} {Inv : σ → Prop}

/-- A state of the server, and the requests that may still be served. -/
structure Framed (sends : ρ → Prop) (Inv : σ → Prop) (link : Link σ ρ ω) : Prop where
  state : Inv link.state
  requests : ∀ item ∈ link.requests, sends item.2

section Frame
variable (rested : ∀ s s', Inv s → server.rests s s' → Inv s')
  (served : ∀ s request response s', sends request → Inv s →
    server.serves s request response s' → Inv s')
include rested served

/-- No step of the link puts anything else into it: what waits was sent, and
what the server did keeps its invariant. -/
theorem Framed.step (framed : Framed sends Inv link) (step : LinkStep server link link') :
    Framed sends Inv link' := by
  obtain ⟨state, requests⟩ := framed
  cases step with
  | rest moved => exact ⟨rested _ _ state moved, requests⟩
  | @deliver number request rest _ _ next serves =>
    have member : (number, request) ∈ link.requests := by
      rw [next]
      exact List.mem_cons_self
    refine ⟨served _ _ _ _ (requests _ member) state serves, fun item found => requests item ?_⟩
    rw [next]
    exact List.mem_cons_of_mem _ found
  | loseRequest found =>
    refine ⟨state, fun item member => requests item ?_⟩
    rw [found]
    rcases List.mem_append.mp member with front | back
    · exact List.mem_append_left _ front
    · exact List.mem_append_right _ (List.mem_cons_of_mem _ back)
  | loseResponse => exact ⟨state, requests⟩

/-- An exchange is an issue and then steps, so the request that is sent is all
that has to be checked. -/
theorem Framed.exchanged {request : ρ} {answer : Except φ ω} (framed : Framed sends Inv link)
    (sent : sends request) (exchanged : Exchanged server link request answer link') :
    Framed sends Inv link' := by
  have issued : Framed sends Inv (link.issue request) := by
    refine ⟨framed.state, fun item member => ?_⟩
    rcases List.mem_append.mp member with earlier | last
    · exact framed.requests item earlier
    · rw [List.mem_singleton.mp last]
      exact sent
  have waiting : ∀ {middle : Link σ ρ ω},
      ReflTransGen (LinkStep server) (link.issue request) middle → Framed sends Inv middle := by
    intro middle waited
    induction waited with
    | refl => exact issued
    | tail _ step ih => exact ih.step rested served step
  cases exchanged with
  | answered waited =>
    obtain ⟨state, requests⟩ := waiting waited
    exact ⟨state, requests⟩
  | failed fault waited => exact waiting waited

/-- Frame rule for a procedure on a lossy link. -/
theorem Framed.runs {procedure : Procedure ρ (Except φ ω) κ ε α} {vars : κ}
    {talk : List (ρ × Except φ ω)} {outcome : Except ε α × κ} (framed : Framed sends Inv link)
    (asks : procedure.Asks sends raises)
    (runs : Runs (lossy server).answers (procedure.dialogue vars) link talk outcome link') :
    Framed sends Inv link' :=
  Ensures.keeps (asks vars) runs (Framed sends Inv) framed
    fun _ _ _ _ sent framed exchanged => framed.exchanged rested served sent exchanged

end Frame

end RuntimeMacro.Foundations.Links
