import Mathlib.Data.List.Induction

/-!
# Finite runs of a labelled step relation

A system is a relation `Step before event after`: an event carries the inputs
of one step together with what the step answered. `Run Step start events final`
says that `events`, oldest first, lead from `start` to `final`. Runs grow at
their end, so an invariant that also speaks about the history is proved event
by event.
-/
namespace RuntimeMacro.Foundations.Runs

variable {σ ε ι : Type*} {Step : σ → ε → σ → Prop}

/-- The runs of a system, built up at their end: the step that came last is the
one an induction takes off. -/
inductive Run (Step : σ → ε → σ → Prop) : σ → List ε → σ → Prop
  | nil (start : σ) : Run Step start [] start
  | snoc {start middle final : σ} {events : List ε} {event : ε}
      (earlier : Run Step start events middle) (step : Step middle event final) :
      Run Step start (events ++ [event]) final

theorem Run.append {start middle final : σ} {front back : List ε}
    (first : Run Step start front middle) (second : Run Step middle back final) :
    Run Step start (front ++ back) final := by
  induction second with
  | nil => simpa using first
  | snoc _ step ih =>
    rw [← List.append_assoc]
    exact ih.snoc step

theorem Run.single {start final : σ} {event : ε} (step : Step start event final) :
    Run Step start [event] final :=
  (Run.nil start).snoc step

theorem Run.cons {start middle final : σ} {event : ε} {events : List ε}
    (step : Step start event middle) (rest : Run Step middle events final) :
    Run Step start (event :: events) final :=
  (Run.single step).append rest

theorem Run.nil_inv {start final : σ} (run : Run Step start [] final) : final = start := by
  generalize reached : ([] : List ε) = events at run
  cases run with
  | nil => rfl
  | snoc => simp at reached

theorem Run.snoc_inv {start final : σ} {events : List ε} {event : ε}
    (run : Run Step start (events ++ [event]) final) :
    ∃ middle, Run Step start events middle ∧ Step middle event final := by
  generalize reached : events ++ [event] = all at run
  cases run with
  | nil => simp at reached
  | snoc earlier step =>
    obtain ⟨rfl, tail⟩ := List.append_inj' reached rfl
    cases tail
    exact ⟨_, earlier, step⟩

/-- A run is cut at any point of its history. -/
theorem Run.split {start final : σ} (front back : List ε)
    (run : Run Step start (front ++ back) final) :
    ∃ middle, Run Step start front middle ∧ Run Step middle back final := by
  induction back using List.reverseRecOn generalizing final with
  | nil => exact ⟨final, by simpa using run, Run.nil final⟩
  | append_singleton back event ih =>
    rw [← List.append_assoc] at run
    obtain ⟨last, earlier, step⟩ := run.snoc_inv
    obtain ⟨middle, first, second⟩ := ih earlier
    exact ⟨middle, first, second.snoc step⟩

theorem Run.cons_inv {start final : σ} {event : ε} {events : List ε}
    (run : Run Step start (event :: events) final) :
    ∃ middle, Step start event middle ∧ Run Step middle events final := by
  obtain ⟨middle, first, second⟩ := Run.split [event] events run
  have alone : Run Step start ([] ++ [event]) middle := first
  obtain ⟨origin, earlier, step⟩ := alone.snoc_inv
  rw [earlier.nil_inv] at step
  exact ⟨middle, step, second⟩

/-- The two states around an event of the history. -/
theorem Run.around {start final : σ} {front back : List ε} {event : ε}
    (run : Run Step start (front ++ event :: back) final) :
    ∃ before after, Run Step start front before ∧ Step before event after ∧
      Run Step after back final := by
  obtain ⟨before, first, rest⟩ := Run.split front (event :: back) run
  obtain ⟨after, step, second⟩ := rest.cons_inv
  exact ⟨before, after, first, step, second⟩

/-- Runs of an executable step function. -/
def execute (next : σ → ε → Option σ) : σ → List ε → Option σ
  | s, [] => some s
  | s, event :: events => (next s event).bind fun s' => execute next s' events

theorem Run.of_execute {next : σ → ε → Option σ} {start final : σ} {events : List ε}
    (sound : ∀ s event s', next s event = some s' → Step s event s')
    (executed : execute next start events = some final) : Run Step start events final := by
  induction events generalizing start with
  | nil =>
    cases executed
    exact Run.nil final
  | cons event events ih =>
    obtain ⟨middle, step, rest⟩ := Option.bind_eq_some_iff.mp executed
    exact (Run.single (sound _ _ _ step)).append (ih rest)

/-- Invariant rule: what one step preserves, a run preserves. -/
theorem Run.invariant {start final : σ} {events : List ε}
    (run : Run Step start events final) (Inv : σ → Prop) (initially : Inv start)
    (preserved : ∀ s event s', Inv s → Step s event s' → Inv s') : Inv final := by
  induction run with
  | nil => exact initially
  | snoc _ step ih => exact preserved _ _ _ ih step

/-- Invariant rule with a side condition that every event of the run meets. -/
theorem Run.invariant_of {Allowed : ε → Prop} {start final : σ} {events : List ε}
    (run : Run Step start events final) (Inv : σ → Prop) (initially : Inv start)
    (allowed : ∀ event ∈ events, Allowed event)
    (preserved : ∀ s event s', Inv s → Allowed event → Step s event s' → Inv s') :
    Inv final := by
  induction run with
  | nil => exact initially
  | snoc _ step ih =>
    refine preserved _ _ _ (ih fun event member => allowed event ?_) (allowed _ ?_) step
    · exact List.mem_append_left _ member
    · simp

/-- History rule: an invariant of the state and of the events that led to it.
The run up to a step is at hand when the step is taken. -/
theorem Run.history {start final : σ} {events : List ε}
    (run : Run Step start events final) (Inv : List ε → σ → Prop) (initially : Inv [] start)
    (preserved : ∀ past s event s', Run Step start past s → Inv past s → Step s event s' →
      Inv (past ++ [event]) s') :
    Inv events final := by
  induction run with
  | nil => exact initially
  | snoc earlier step ih => exact preserved _ _ _ _ earlier ih step

/-- History rule under a property of the whole history that its prefixes
inherit. -/
theorem Run.history_of {start final : σ} {events : List ε} (run : Run Step start events final)
    (Inv : List ε → σ → Prop) (Ordered : List ε → Prop) (ordered : Ordered events)
    (inherited : ∀ past event, Ordered (past ++ [event]) → Ordered past)
    (initially : Inv [] start)
    (preserved : ∀ past s event s', Ordered (past ++ [event]) → Run Step start past s →
      Inv past s → Step s event s' → Inv (past ++ [event]) s') :
    Inv events final := by
  induction run with
  | nil => exact initially
  | snoc earlier step ih =>
    exact preserved _ _ _ _ ordered earlier (ih (inherited _ _ ordered)) step

/-- Lockstep rule for two runs on the same inputs: when related states answer
alike and stay related, the two histories are equal. -/
theorem Run.lockstep {input : ε → ι} {Allowed : ε → Prop}
    {left right left' right' : σ} {leftEvents rightEvents : List ε}
    (leftRun : Run Step left leftEvents left') (rightRun : Run Step right rightEvents right')
    (Related : σ → σ → Prop)
    (initially : Related left right)
    (sameInputs : leftEvents.map input = rightEvents.map input)
    (allowed : ∀ event ∈ leftEvents, Allowed event)
    (stepped : ∀ s t e f s' t', Related s t → input e = input f → Allowed e → Step s e s' →
      Step t f t' → e = f ∧ Related s' t') :
    leftEvents = rightEvents ∧ Related left' right' := by
  induction leftRun generalizing rightEvents right' with
  | nil =>
    have empty : rightEvents = [] := by simpa using sameInputs.symm
    subst empty
    exact ⟨rfl, rightRun.nil_inv ▸ initially⟩
  | @snoc middle final events event earlier step ih =>
    obtain ⟨front, last, rfl⟩ : ∃ front last, rightEvents = front ++ [last] := by
      rcases List.eq_nil_or_concat rightEvents with rfl | ⟨front, last, rfl⟩
      · simp at sameInputs
      · exact ⟨front, last, List.concat_eq_append⟩
    simp only [List.map_append, List.map_cons, List.map_nil] at sameInputs
    obtain ⟨frontSame, lastSame⟩ := List.append_inj' sameInputs rfl
    obtain ⟨middle', rightEarlier, rightStep⟩ := rightRun.snoc_inv
    obtain ⟨rfl, related⟩ := ih rightEarlier frontSame
      (fun event member => allowed event (List.mem_append_left _ member))
    obtain ⟨rfl, related'⟩ := stepped _ _ _ _ _ _ related (by simpa using lastSame)
      (allowed _ (by simp)) step rightStep
    exact ⟨rfl, related'⟩

/-- Refinement rule: what a step of one system does, a step of another does, or
nothing when the label has no counterpart. -/
theorem Run.refines {σ' ε' : Type*} {Step' : σ' → ε' → σ' → Prop} {label : ε → Option ε'}
    {start final : σ} {start' : σ'} {events : List ε} (run : Run Step start events final)
    (Represents : σ → σ' → Prop) (initially : Represents start start')
    (simulates : ∀ s t event s', Represents s t → Step s event s' →
      ∃ t', Represents s' t' ∧ (label event).elim (t' = t) fun event' => Step' t event' t') :
    ∃ final', Run Step' start' (events.filterMap label) final' ∧ Represents final final' := by
  induction run with
  | nil => exact ⟨start', Run.nil _, initially⟩
  | @snoc middle final events event _ step ih =>
    obtain ⟨middle', earlier, represents⟩ := ih
    obtain ⟨final', represents', moved⟩ := simulates _ _ _ _ represents step
    rw [List.filterMap_append]
    cases labelled : label event with
    | none =>
      rw [labelled] at moved
      refine ⟨final', ?_, represents'⟩
      simpa [labelled, show final' = middle' from moved] using earlier
    | some event' =>
      rw [labelled] at moved
      refine ⟨final', ?_, represents'⟩
      simpa [labelled] using earlier.snoc moved

/-! ## Histories with their states -/

/-- An event of a history together with the states around it. -/
structure Moment (σ ε : Type*) where
  before : σ
  event : ε
  after : σ

/-- The same system, with the states in the labels. -/
def Traced (Step : σ → ε → σ → Prop) (s : σ) (moment : Moment σ ε) (s' : σ) : Prop :=
  moment.before = s ∧ moment.after = s' ∧ Step s moment.event s'

/-- Every run has its traced history. -/
theorem Run.traced {start final : σ} {events : List ε} (run : Run Step start events final) :
    ∃ moments : List (Moment σ ε), moments.map Moment.event = events ∧
      Run (Traced Step) start moments final := by
  induction run with
  | nil => exact ⟨[], rfl, Run.nil _⟩
  | @snoc middle final events event earlier step ih =>
    obtain ⟨moments, rfl, traced⟩ := ih
    exact ⟨moments ++ [⟨middle, event, final⟩], by simp, traced.snoc ⟨rfl, rfl, step⟩⟩

theorem Run.untraced {start final : σ} {moments : List (Moment σ ε)}
    (run : Run (Traced Step) start moments final) :
    Run Step start (moments.map Moment.event) final := by
  induction run with
  | nil => exact Run.nil _
  | snoc _ step ih =>
    obtain ⟨rfl, rfl, taken⟩ := step
    rw [List.map_append]
    exact ih.snoc taken

theorem Run.moment_step {start final : σ} {moments : List (Moment σ ε)}
    (run : Run (Traced Step) start moments final) :
    ∀ moment ∈ moments, Step moment.before moment.event moment.after := by
  induction run with
  | nil => simp
  | @snoc _ _ events last _ step ih =>
    intro moment member
    rcases List.mem_append.mp member with earlier | latest
    · exact ih moment earlier
    · cases List.mem_singleton.mp latest
      obtain ⟨before, after, taken⟩ := step
      rw [before, after]
      exact taken

end RuntimeMacro.Foundations.Runs
