import RuntimeMacro.Foundations.Dialogues

/-!
# Requests that are calls of another dialogue

A dialogue with an abstract partner is carried out by procedures, one for each
request, on a partner of their own. When every call answers as the abstract
partner could have, so does the whole dialogue; when a call raises an
exception, the abstract partner has heard the requests so far, and perhaps the
one that failed. What the abstract partner answers may depend on a log that
grows meanwhile: an answer that some log allows is allowed by every longer one.
-/
namespace RuntimeMacro.Foundations.Dialogues

variable {ρ ω ρ' ω' κ ε α σ τ ν : Type}

namespace Dialogue

/-- Each request is carried out by a call. -/
def carriedOut (call : ρ → Procedure ρ' ω' κ ε ω) : Dialogue ρ ω α → Procedure ρ' ω' κ ε α
  | .done value => pure value
  | .ask request next => do
    let answer ← call request
    (next answer).carriedOut call

/-- The front of an execution. -/
inductive Begun (answers : σ → ρ → ω → σ → Prop) :
    Dialogue ρ ω α → σ → List (ρ × ω) → σ → Prop
  | here (dialogue : Dialogue ρ ω α) (s : σ) : Begun answers dialogue s [] s
  | ask {request : ρ} {next : ω → Dialogue ρ ω α} {answer : ω} {s middle final : σ}
      {talk : List (ρ × ω)} (answered : answers s request answer middle)
      (rest : Begun answers (next answer) middle talk final) :
      Begun answers (.ask request next) s ((request, answer) :: talk) final

theorem Runs.begun {answers : σ → ρ → ω → σ → Prop} {dialogue : Dialogue ρ ω α} {s s' : σ}
    {talk : List (ρ × ω)} {value : α} (runs : Runs answers dialogue s talk value s') :
    Begun answers dialogue s talk s' := by
  induction runs with
  | done value s => exact .here _ s
  | ask answered _ ih => exact .ask answered ih

/-! ## A growing log -/

/-- The log grows, and the answer is one that it allows at the end. -/
def Logged (answers : List ν → σ → ρ → ω → σ → Prop) (s : σ × List ν) (request : ρ) (answer : ω)
    (s' : σ × List ν) : Prop :=
  s.2 <+: s'.2 ∧ answers s'.2 s.1 request answer s'.1

/-- A longer log allows what a shorter one does. -/
def Cumulative (answers : List ν → σ → ρ → ω → σ → Prop) : Prop :=
  ∀ log log', log <+: log' → ∀ s request answer s', answers log s request answer s' →
    answers log' s request answer s'

section Logs
variable {answers : List ν → σ → ρ → ω → σ → Prop} {dialogue : Dialogue ρ ω α}
  {s s' : σ × List ν} {talk : List (ρ × ω)} {value : α} {log : List ν}

theorem Begun.log_prefix (begun : Begun (Logged answers) dialogue s talk s') : s.2 <+: s'.2 := by
  induction begun with
  | here => exact List.prefix_rfl
  | ask answered _ ih => exact answered.1.trans ih

/-- Every answer is one that the log allows in the end. -/
theorem Begun.of_logged (cumulative : Cumulative answers)
    (begun : Begun (Logged answers) dialogue s talk s') (later : s'.2 <+: log) :
    Begun (answers log) dialogue s.1 talk s'.1 := by
  induction begun with
  | here dialogue s => exact .here dialogue s.1
  | ask answered rest ih =>
    have allowed := cumulative _ _ (rest.log_prefix.trans later) _ _ _ _ answered.2
    exact .ask allowed (ih later)

theorem Runs.of_logged (cumulative : Cumulative answers)
    (runs : Runs (Logged answers) dialogue s talk value s') (later : s'.2 <+: log) :
    Runs (answers log) dialogue s.1 talk value s'.1 := by
  induction runs with
  | done value s => exact .done value s.1
  | ask answered rest ih =>
    have allowed := cumulative _ _ (rest.begun.log_prefix.trans later) _ _ _ _ answered.2
    exact .ask allowed (ih later)

end Logs

end Dialogue

open Dialogue Procedure

/-- The calls answer as the abstract partner could have. What a call that
raised an exception leaves is `Left` by the state before the request or by one
after it. -/
structure Implements (partner : Partner τ ρ' ω') (call : ρ → Procedure ρ' ω' κ ε ω)
    (answers : σ → ρ → ω → σ → Prop) (Represents : σ → κ → τ → Prop) (Left : σ → τ → Prop) :
    Prop where
  called : ∀ {s request vars t}, Represents s vars t → (call request).Meets partner
    (fun answer vars' t' => ∃ s', answers s request answer s' ∧ Represents s' vars' t')
    (fun _ _ t' => Left s t' ∨ ∃ answer s', answers s request answer s' ∧ Left s' t') vars t

/-- Refinement rule: a dialogue that is carried out ends as with the abstract
partner, or breaks off as it could have stood with it. -/
theorem Implements.meets {partner : Partner τ ρ' ω'} {call : ρ → Procedure ρ' ω' κ ε ω}
    {answers : σ → ρ → ω → σ → Prop} {Represents : σ → κ → τ → Prop} {Left : σ → τ → Prop}
    (implements : Implements partner call answers Represents Left) (dialogue : Dialogue ρ ω α)
    {s : σ} {vars : κ} {t : τ} (represents : Represents s vars t) :
    (dialogue.carriedOut call).Meets partner
      (fun value vars' t' => ∃ talk s', Runs answers dialogue s talk value s' ∧
        Represents s' vars' t')
      (fun _ _ t' => ∃ talk s', Begun answers dialogue s talk s' ∧ Left s' t') vars t := by
  induction dialogue generalizing s vars t with
  | done value => exact ⟨[], s, .done value s, represents⟩
  | ask request next ih =>
    rw [carriedOut, meets_bind]
    apply (implements.called represents).mono
    · rintro answer vars' t' ⟨middle, answered, represents'⟩
      apply (ih answer represents').mono
      · rintro value vars'' t'' ⟨talk, s', rest, final⟩
        exact ⟨_, s', .ask answered rest, final⟩
      · rintro error vars'' t'' ⟨talk, s', rest, left⟩
        exact ⟨_, s', .ask answered rest, left⟩
    · rintro error vars' t' (left | ⟨answer, s', answered, left⟩)
      · exact ⟨[], s, .here _ s, left⟩
      · exact ⟨_, s', .ask answered (.here _ s'), left⟩

end RuntimeMacro.Foundations.Dialogues
