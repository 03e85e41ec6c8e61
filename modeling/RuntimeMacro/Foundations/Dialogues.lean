import Mathlib.Data.List.Basic

/-!
# Programs that talk to their environment

A dialogue ends with a value, or sends a request and goes on with the answer it
gets. A procedure is a dialogue with variables and exceptions. What may be
answered, and what may be asked, is said by a `Partner` on a state of its own;
`Ensures` and `Meets` are the weakest preconditions of dialogues and procedures
against it.
-/
namespace RuntimeMacro.Foundations.Dialogues

/-- A program over an interface, as what it asks for and how it goes on from
the answer. No answer is given here, so that the same program can be played
against different partners. -/
inductive Dialogue (ρ ω α : Type) where
  | done (value : α)
  | ask (request : ρ) (next : ω → Dialogue ρ ω α)

variable {ρ ω κ ε α β σ τ : Type}

namespace Dialogue

/-- The bind of the monad: `next` takes over where the first dialogue is
done. -/
def andThen : Dialogue ρ ω α → (α → Dialogue ρ ω β) → Dialogue ρ ω β
  | .done value, next => next value
  | .ask request rest, next => .ask request fun answer => (rest answer).andThen next

instance : Monad (Dialogue ρ ω) where
  pure := .done
  bind := andThen

/-- An execution: what was asked and answered, oldest first, and how it
ended. -/
inductive Runs (answers : σ → ρ → ω → σ → Prop) :
    Dialogue ρ ω α → σ → List (ρ × ω) → α → σ → Prop
  | done (value : α) (s : σ) : Runs answers (.done value) s [] value s
  | ask {request : ρ} {next : ω → Dialogue ρ ω α} {answer : ω} {s middle final : σ}
      {talk : List (ρ × ω)} {value : α} (answered : answers s request answer middle)
      (rest : Runs answers (next answer) middle talk value final) :
      Runs answers (.ask request next) s ((request, answer) :: talk) value final

/-- A partner that may answer more has the executions of one that may answer
less. -/
theorem Runs.mono {answers answers' : σ → ρ → ω → σ → Prop} {dialogue : Dialogue ρ ω α} {s s' : σ}
    {talk : List (ρ × ω)} {value : α} (runs : Runs answers dialogue s talk value s')
    (weaker : ∀ s request answer s', answers s request answer s' →
      answers' s request answer s') : Runs answers' dialogue s talk value s' := by
  induction runs with
  | done value s => exact .done value s
  | ask answered _ ih => exact .ask (weaker _ _ _ _ answered) ih

/-- Forward simulation: a partner whose answers another one can give as well
has no other executions. -/
theorem Runs.simulated {answers : σ → ρ → ω → σ → Prop} {answers' : τ → ρ → ω → τ → Prop}
    {dialogue : Dialogue ρ ω α} {t t' : τ} {s : σ} {talk : List (ρ × ω)} {value : α}
    (Represents : τ → σ → Prop)
    (answered : ∀ t s request answer t', Represents t s → answers' t request answer t' →
      ∃ s', answers s request answer s' ∧ Represents t' s')
    (runs : Runs answers' dialogue t talk value t') (initially : Represents t s) :
    ∃ s', Runs answers dialogue s talk value s' ∧ Represents t' s' := by
  induction runs generalizing s with
  | done value t => exact ⟨s, .done value s, initially⟩
  | ask taken _ ih =>
    obtain ⟨middle, matching, represents⟩ := answered _ _ _ _ _ initially taken
    obtain ⟨s', rest, last⟩ := ih represents
    exact ⟨s', .ask matching rest, last⟩

/-- The execution against a partner that is a function. -/
def drive (serve : σ → ρ → ω × σ) : Dialogue ρ ω α → σ → List (ρ × ω) × α × σ
  | .done value, s => ([], value, s)
  | .ask request next, s =>
    let (answer, middle) := serve s request
    let (talk, final) := (next answer).drive serve middle
    ((request, answer) :: talk, final)

theorem runs_drive {answers : σ → ρ → ω → σ → Prop} {serve : σ → ρ → ω × σ}
    (sound : ∀ s request, answers s request (serve s request).1 (serve s request).2)
    (dialogue : Dialogue ρ ω α) (s : σ) :
    Runs answers dialogue s (dialogue.drive serve s).1 (dialogue.drive serve s).2.1
      (dialogue.drive serve s).2.2 := by
  induction dialogue generalizing s with
  | done value => exact .done value s
  | ask request next ih => exact .ask (sound s request) (ih _ _)

end Dialogue

/-- What may be asked in a state, and what may be answered there. -/
structure Partner (σ ρ ω : Type) where
  allows : σ → ρ → Prop
  answers : σ → ρ → ω → σ → Prop

/-- The partner with the talk so far, and what may be asked after it. -/
def Partner.recorded (partner : Partner σ ρ ω) (lawful : List (ρ × ω) → ρ → Prop) :
    Partner (σ × List (ρ × ω)) ρ ω where
  allows s request := partner.allows s.1 request ∧ lawful s.2 request
  answers s request answer s' := partner.answers s.1 request answer s'.1 ∧
    s'.2 = s.2 ++ [(request, answer)]

theorem Partner.recorded_responsive {partner : Partner σ ρ ω}
    {lawful : List (ρ × ω) → ρ → Prop}
    (responsive : ∀ s request, partner.allows s request →
      ∃ answer s', partner.answers s request answer s')
    (s : σ × List (ρ × ω)) (request : ρ) (allowed : (partner.recorded lawful).allows s request) :
    ∃ answer s', (partner.recorded lawful).answers s request answer s' := by
  obtain ⟨answer, s', answered⟩ := responsive s.1 request allowed.1
  exact ⟨answer, (s', s.2 ++ [(request, answer)]), answered, rfl⟩

/-- An execution against the recorded partner is one against the partner, and
its record. -/
theorem Dialogue.Runs.of_recorded {partner : Partner σ ρ ω} {lawful : List (ρ × ω) → ρ → Prop}
    {dialogue : Dialogue ρ ω α} {s s' : σ × List (ρ × ω)} {talk : List (ρ × ω)} {value : α}
    (runs : Runs (partner.recorded lawful).answers dialogue s talk value s') :
    Runs partner.answers dialogue s.1 talk value s'.1 := by
  induction runs with
  | done value s => exact .done value s.1
  | ask answered _ ih => exact .ask answered.1 ih

variable {partner : Partner σ ρ ω}

namespace Dialogue

/-- However the partner answers, only what is allowed is asked, and the end is
as wanted. -/
def Ensures (partner : Partner σ ρ ω) : Dialogue ρ ω α → (α → σ → Prop) → σ → Prop
  | .done value, wanted, s => wanted value s
  | .ask request next, wanted, s => partner.allows s request ∧
      ∀ answer s', partner.answers s request answer s' → (next answer).Ensures partner wanted s'

theorem Ensures.mono {dialogue : Dialogue ρ ω α} {wanted wanted' : α → σ → Prop} {s : σ}
    (ensures : dialogue.Ensures partner wanted s)
    (weaker : ∀ value s', wanted value s' → wanted' value s') :
    dialogue.Ensures partner wanted' s := by
  induction dialogue generalizing s with
  | done value => exact weaker value s ensures
  | ask request next ih =>
    exact ⟨ensures.1, fun answer s' answered => ih answer (ensures.2 answer s' answered)⟩

theorem ensures_andThen (dialogue : Dialogue ρ ω α) (next : α → Dialogue ρ ω β)
    (wanted : β → σ → Prop) (s : σ) :
    (dialogue.andThen next).Ensures partner wanted s ↔
      dialogue.Ensures partner (fun value s' => (next value).Ensures partner wanted s') s := by
  induction dialogue generalizing s with
  | done value => exact Iff.rfl
  | ask request rest ih =>
    simp only [andThen, Ensures, ih]

/-- Invariant rule: what every exchange keeps holds at the end as well. -/
theorem Ensures.invariant {dialogue : Dialogue ρ ω α} {wanted : α → σ → Prop} {s : σ}
    (ensures : dialogue.Ensures partner wanted s) (Inv : σ → Prop) (initially : Inv s)
    (kept : ∀ s request answer s', Inv s → partner.answers s request answer s' → Inv s') :
    dialogue.Ensures partner (fun value s' => wanted value s' ∧ Inv s') s := by
  induction dialogue generalizing s with
  | done value => exact ⟨ensures, initially⟩
  | ask request next ih =>
    exact ⟨ensures.1, fun answer s' answered => ih answer (ensures.2 answer s' answered)
      (kept s request answer s' initially answered)⟩

/-- Every execution ends as wanted. -/
theorem Ensures.sound {dialogue : Dialogue ρ ω α} {wanted : α → σ → Prop} {s s' : σ}
    {talk : List (ρ × ω)} {value : α} (ensures : dialogue.Ensures partner wanted s)
    (runs : Runs partner.answers dialogue s talk value s') : wanted value s' := by
  induction runs with
  | done => exact ensures
  | ask answered _ ih => exact ih (ensures.2 _ _ answered)

/-- A partner that answers whatever is allowed lets the dialogue end. -/
theorem Ensures.runs {dialogue : Dialogue ρ ω α} {wanted : α → σ → Prop} {s : σ}
    (ensures : dialogue.Ensures partner wanted s)
    (responsive : ∀ s request, partner.allows s request →
      ∃ answer s', partner.answers s request answer s') :
    ∃ talk value s', Runs partner.answers dialogue s talk value s' := by
  induction dialogue generalizing s with
  | done value => exact ⟨[], value, s, .done value s⟩
  | ask request next ih =>
    obtain ⟨answer, middle, answered⟩ := responsive s request ensures.1
    obtain ⟨talk, value, s', rest⟩ := ih answer (ensures.2 answer middle answered)
    exact ⟨(request, answer) :: talk, value, s', .ask answered rest⟩

/-- What is ensured of a partner with its record holds of the talk of every
execution. Every turn was lawful after what came before it, and the record ends
as the past with the talk behind it. -/
theorem Ensures.recorded {dialogue : Dialogue ρ ω α} {lawful : List (ρ × ω) → ρ → Prop}
    {wanted : α → σ × List (ρ × ω) → Prop} {s s' : σ} {past talk : List (ρ × ω)} {value : α}
    (ensures : dialogue.Ensures (partner.recorded lawful) wanted (s, past))
    (runs : Runs partner.answers dialogue s talk value s') :
    wanted value (s', past ++ talk) ∧
      ∀ front turn back, talk = front ++ turn :: back → lawful (past ++ front) turn.1 := by
  induction runs generalizing past with
  | done =>
    constructor
    · rw [List.append_nil]
      exact ensures
    · intro front turn back split
      simp at split
  | @ask request next answer s middle final talk value answered rest ih =>
    obtain ⟨⟨_, lawfully⟩, continues⟩ := ensures
    obtain ⟨holds, later⟩ := ih (continues answer (middle, past ++ [(request, answer)])
      ⟨answered, rfl⟩)
    constructor
    · rw [List.append_cons]
      exact holds
    · intro front turn back split
      cases front with
      | nil =>
        cases split
        rw [List.append_nil]
        exact lawfully
      | cons first front =>
        cases split
        rw [List.append_cons]
        exact later front turn back rfl

/-- Simulation rule: what is ensured against one partner is ensured against
another whose answers the first one can give as well. -/
theorem Ensures.simulated {other : Partner τ ρ ω} {dialogue : Dialogue ρ ω α}
    {wanted : α → σ → Prop} {s : σ} {t : τ} (Represents : τ → σ → Prop)
    (ensures : dialogue.Ensures partner wanted s) (initially : Represents t s)
    (allowed : ∀ t s request, Represents t s → partner.allows s request →
      other.allows t request)
    (answered : ∀ t s request answer t', Represents t s → partner.allows s request →
      other.answers t request answer t' →
      ∃ s', partner.answers s request answer s' ∧ Represents t' s') :
    dialogue.Ensures other (fun value t' => ∃ s', Represents t' s' ∧ wanted value s') t := by
  induction dialogue generalizing s t with
  | done value => exact ⟨s, initially, ensures⟩
  | ask request next ih =>
    refine ⟨allowed t s request initially ensures.1, fun answer t' taken => ?_⟩
    obtain ⟨s', matching, represents⟩ :=
      answered t s request answer t' initially ensures.1 taken
    exact ih answer (ensures.2 answer s' matching) represents

/-- A partner that may answer anything; its state is what was heard. -/
def listener (allows : σ → ρ → Prop) (hear : σ → ρ × ω → σ) : Partner σ ρ ω where
  allows := allows
  answers s request answer s' := s' = hear s (request, answer)

/-- What is ensured of any answers holds of the executions against any partner,
and every request is allowed after what was heard before it. -/
theorem Ensures.heard {answers : τ → ρ → ω → τ → Prop} {allows : σ → ρ → Prop}
    {hear : σ → ρ × ω → σ} {dialogue : Dialogue ρ ω α} {wanted : α → σ → Prop} {s : σ} {t t' : τ}
    {talk : List (ρ × ω)} {value : α} (ensures : dialogue.Ensures (listener allows hear) wanted s)
    (runs : Runs answers dialogue t talk value t') :
    wanted value (talk.foldl hear s) ∧
      ∀ front turn back, talk = front ++ turn :: back → allows (front.foldl hear s) turn.1 := by
  induction runs generalizing s with
  | done =>
    refine ⟨ensures, fun front turn back split => ?_⟩
    simp at split
  | @ask request next answer _ _ _ talk value _ _ ih =>
    obtain ⟨holds, later⟩ := ih (ensures.2 answer _ rfl)
    refine ⟨holds, fun front turn back split => ?_⟩
    cases front with
    | nil =>
      cases split
      exact ensures.1
    | cons first front =>
      cases split
      exact later front turn back rfl

end Dialogue

/-! ## Procedures -/

/-- A dialogue over variables `κ` that may raise an exception `ε`. -/
abbrev Procedure (ρ ω κ ε : Type) : Type → Type := ExceptT ε (StateT κ (Dialogue ρ ω))

namespace Procedure

/-- The dialogue of a call with given variables. -/
def dialogue (procedure : Procedure ρ ω κ ε α) (vars : κ) : Dialogue ρ ω (Except ε α × κ) :=
  StateT.run (ExceptT.run procedure) vars

/-- Ask one question in a `Procedure`; the answer is the value. -/
def ask (request : ρ) : Procedure ρ ω κ ε ω :=
  ExceptT.lift (StateT.lift (Dialogue.ask request .done))

/-- The call ends normally as `wanted` says, or with an exception as `raised`
says. -/
def Meets (partner : Partner σ ρ ω) (procedure : Procedure ρ ω κ ε α)
    (wanted : α → κ → σ → Prop) (raised : ε → κ → σ → Prop) (vars : κ) (s : σ) : Prop :=
  (procedure.dialogue vars).Ensures partner (fun outcome s' =>
    match outcome with
    | (.ok value, vars') => wanted value vars' s'
    | (.error error, vars') => raised error vars' s') s

section Rules
variable {wanted wanted' : α → κ → σ → Prop} {raised raised' : ε → κ → σ → Prop}
  {vars : κ} {s : σ}

@[simp] theorem meets_pure (value : α) :
    (pure value : Procedure ρ ω κ ε α).Meets partner wanted raised vars s ↔
      wanted value vars s := Iff.rfl

@[simp] theorem meets_throw (error : ε) :
    (throw error : Procedure ρ ω κ ε α).Meets partner wanted raised vars s ↔
      raised error vars s := Iff.rfl

@[simp] theorem meets_get {wanted : κ → κ → σ → Prop} :
    (get : Procedure ρ ω κ ε κ).Meets partner wanted raised vars s ↔ wanted vars vars s := Iff.rfl

@[simp] theorem meets_set {wanted : PUnit → κ → σ → Prop} (vars' : κ) :
    (set vars' : Procedure ρ ω κ ε PUnit).Meets partner wanted raised vars s ↔
      wanted ⟨⟩ vars' s := Iff.rfl

theorem meets_ask {wanted : ω → κ → σ → Prop} (request : ρ) :
    (ask request : Procedure ρ ω κ ε ω).Meets partner wanted raised vars s ↔
      partner.allows s request ∧
        ∀ answer s', partner.answers s request answer s' → wanted answer vars s' := Iff.rfl

theorem Meets.mono {procedure : Procedure ρ ω κ ε α}
    (meets : procedure.Meets partner wanted raised vars s)
    (normal : ∀ value vars' s', wanted value vars' s' → wanted' value vars' s')
    (exceptional : ∀ error vars' s', raised error vars' s' → raised' error vars' s') :
    procedure.Meets partner wanted' raised' vars s := by
  apply Dialogue.Ensures.mono meets
  rintro ⟨value | error, vars'⟩ s' holds
  · exact exceptional _ vars' s' holds
  · exact normal _ vars' s' holds

/-- Invariant rule for a call: what every exchange keeps holds however the call
ends. -/
theorem Meets.invariant {procedure : Procedure ρ ω κ ε α}
    (meets : procedure.Meets partner wanted raised vars s) (Inv : σ → Prop) (initially : Inv s)
    (kept : ∀ s request answer s', Inv s → partner.answers s request answer s' → Inv s') :
    procedure.Meets partner (fun value vars' s' => wanted value vars' s' ∧ Inv s')
      (fun error vars' s' => raised error vars' s' ∧ Inv s') vars s := by
  apply (Dialogue.Ensures.invariant meets Inv initially kept).mono
  rintro ⟨value | error, vars'⟩ s' holds
  · exact holds
  · exact holds

/-- The rule of sequence: what is wanted of the first part is all that the
second needs. The variables are threaded through. -/
@[simp] theorem meets_bind {wanted : β → κ → σ → Prop} (procedure : Procedure ρ ω κ ε α)
    (next : α → Procedure ρ ω κ ε β) :
    (procedure >>= next).Meets partner wanted raised vars s ↔
      procedure.Meets partner
        (fun value vars' s' => (next value).Meets partner wanted raised vars' s')
        raised vars s := by
  unfold Meets
  have split : (procedure >>= next).dialogue vars = (procedure.dialogue vars).andThen
      fun outcome => match outcome with
        | (.ok value, vars') => (next value).dialogue vars'
        | (.error error, vars') => .done (.error error, vars') := by
    change ((procedure.dialogue vars).andThen fun outcome =>
      StateT.run (ExceptT.bindCont next outcome.1) outcome.2) = _
    congr 1
    funext outcome
    obtain ⟨value | error, vars'⟩ := outcome
    · rfl
    · rfl
  rw [split, Dialogue.ensures_andThen]
  constructor
  · intro ensures
    apply ensures.mono
    rintro ⟨value | error, vars'⟩ s' holds
    · exact holds
    · exact holds
  · intro ensures
    apply ensures.mono
    rintro ⟨value | error, vars'⟩ s' holds
    · exact holds
    · exact holds

/-- The rule of exceptions: what is wanted of an error is all that the handler
needs. -/
@[simp] theorem meets_tryCatch (procedure : Procedure ρ ω κ ε α)
    (handler : ε → Procedure ρ ω κ ε α) :
    (tryCatch procedure handler).Meets partner wanted raised vars s ↔
      procedure.Meets partner wanted
        (fun error vars' s' => (handler error).Meets partner wanted raised vars' s') vars s := by
  unfold Meets
  have split : (tryCatch procedure handler).dialogue vars = (procedure.dialogue vars).andThen
      fun outcome => match outcome with
        | (.ok value, vars') => .done (.ok value, vars')
        | (.error error, vars') => (handler error).dialogue vars' := by
    change ((procedure.dialogue vars).andThen _) = _
    congr 1
    funext outcome
    obtain ⟨value | error, vars'⟩ := outcome
    · rfl
    · rfl
  rw [split, Dialogue.ensures_andThen]
  constructor
  · intro ensures
    apply ensures.mono
    rintro ⟨value | error, vars'⟩ s' holds
    · exact holds
    · exact holds
  · intro ensures
    apply ensures.mono
    rintro ⟨value | error, vars'⟩ s' holds
    · exact holds
    · exact holds

/-- Tries again after an exception of a given kind, at most `retries` times;
the last exception is raised. -/
def attempts (again : ε → Bool) (attempt : Procedure ρ ω κ ε α) : Nat → Procedure ρ ω κ ε α
  | 0 => attempt
  | retries + 1 => tryCatch attempt fun error =>
      if again error then attempts again attempt retries else throw error

/-- Invariant rule for attempts: a failure that is tried again leaves the
invariant. By induction on the retries; the last failure is raised. -/
theorem meets_attempts {again : ε → Bool} {attempt : Procedure ρ ω κ ε α} (Inv : κ → σ → Prop)
    (each : ∀ vars s, Inv vars s → attempt.Meets partner wanted
      (fun error vars' s' => raised error vars' s' ∧ (again error = true → Inv vars' s')) vars s)
    (retries : Nat) (initially : Inv vars s) :
    (attempts again attempt retries).Meets partner wanted raised vars s := by
  induction retries generalizing vars s with
  | zero => exact (each vars s initially).mono (fun _ _ _ holds => holds) fun _ _ _ holds => holds.1
  | succ retries ih =>
    rw [attempts, meets_tryCatch]
    apply (each vars s initially).mono (fun _ _ _ holds => holds)
    rintro error vars' s' ⟨failed, kept⟩
    by_cases retried : again error = true
    · rw [if_pos retried]
      exact ih (kept retried)
    · rw [if_neg retried]
      exact failed

/-- Tries again after an attempt that returned an error, at most `retries`
times; the last error is raised. An exception ends the attempts. -/
def untilReturned (attempt : Procedure ρ ω κ ε (Except ε α)) : Nat → Procedure ρ ω κ ε α
  | 0 => do
    match ← attempt with
    | .ok value => return value
    | .error error => throw error
  | retries + 1 => do
    match ← attempt with
    | .ok value => return value
    | .error _ => untilReturned attempt retries

/-- Invariant rule for attempts that return their error, where an exception is
raised at once. -/
theorem meets_untilReturned {attempt : Procedure ρ ω κ ε (Except ε α)} (Inv : κ → σ → Prop)
    (each : ∀ vars s, Inv vars s → attempt.Meets partner
      (fun outcome vars' s' =>
        match outcome with
        | .ok value => wanted value vars' s'
        | .error error => raised error vars' s' ∧ Inv vars' s') raised vars s)
    (retries : Nat) (initially : Inv vars s) :
    (untilReturned attempt retries).Meets partner wanted raised vars s := by
  induction retries generalizing vars s with
  | zero =>
    rw [untilReturned, meets_bind]
    apply (each vars s initially).mono _ fun _ _ _ failed => failed
    rintro (error | value) vars' s' holds
    · exact holds.1
    · exact holds
  | succ retries ih =>
    rw [untilReturned, meets_bind]
    apply (each vars s initially).mono _ fun _ _ _ failed => failed
    rintro (error | value) vars' s' holds
    · exact ih holds.2
    · exact holds

/-- Loop rule: one iteration takes the invariant from its index to the next. By
induction on the number of iterations left. -/
theorem meets_forM_range {body : Nat → Procedure ρ ω κ ε PUnit} {step : Nat}
    (Inv : Nat → κ → σ → Prop) (count first : Nat)
    (each : ∀ index < count, ∀ vars s, Inv index vars s →
      (body (first + step * index)).Meets partner
        (fun _ vars' s' => Inv (index + 1) vars' s') raised vars s)
    (initially : Inv 0 vars s) :
    ((List.range' first count step).forM body).Meets partner
      (fun _ vars' s' => Inv count vars' s') raised vars s := by
  induction count generalizing first Inv vars s with
  | zero => exact initially
  | succ count ih =>
    have unrolled : (List.range' first (count + 1) step).forM body =
        (body first >>= fun _ => (List.range' (first + step) count step).forM body) := rfl
    rw [unrolled, meets_bind]
    have begins := each 0 (Nat.zero_lt_succ count) vars s initially
    rw [Nat.mul_zero, Nat.add_zero] at begins
    apply begins.mono _ fun _ _ _ failed => failed
    intro _ vars' s' held
    apply ih (fun index => Inv (index + 1)) (first + step) _ held
    intro index below vars'' s'' holds
    have next := each (index + 1) (Nat.succ_lt_succ below) vars'' s'' holds
    rw [Nat.mul_succ, Nat.add_comm (step * index), ← Nat.add_assoc] at next
    exact next

end Rules

end Procedure

end RuntimeMacro.Foundations.Dialogues
