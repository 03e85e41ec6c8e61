import RuntimeMacro.Foundations.Scans
import RuntimeMacro.Source.TextRuns

/-!
# The work item behind the deadlines

runtime_macro_dynamic.c:68-170. A run of the work item first waits for the
mutex, while other calls may re-arm or cancel it; a cancel also takes back runs
that are queued and have not started. Scheduling the work item succeeds and
replaces its pending time.
-/
namespace RuntimeMacro.Source
open Foundations Foundations.Runs
open DynamicStore (armed earliestDeadline expireDue rearmTtl slotIsValid)

namespace DynamicStore

/-- A slot below the count holds a text. -/
def Committed (cfg : Config) (s : DynamicStore) (slot : Nat) : Prop :=
  slot < cfg.dynamicSlotCount ∧ (s.slots slot).committedValid = true

/-- The earliest deadline of the committed slots. -/
structure Earliest (cfg : Config) (s : DynamicStore) (deadline : Int) : Prop where
  attained : ∃ slot, s.Committed cfg slot ∧ (s.slots slot).ttlDeadlineMs = deadline
  least : ∀ slot, s.Committed cfg slot → deadline ≤ (s.slots slot).ttlDeadlineMs

/-- The deadlines of texts are positive. -/
def Timed (cfg : Config) (s : DynamicStore) : Prop :=
  ∀ slot, s.Committed cfg slot → 0 < (s.slots slot).ttlDeadlineMs

variable {cfg : Config} {s : DynamicStore}

theorem armed_iff (timed : s.Timed cfg) {slot : Nat} (inside : slot < cfg.dynamicSlotCount) :
    armed (s.slots slot) = true ↔ s.Committed cfg slot := by
  unfold armed
  rw [Bool.and_eq_true, bne_iff_ne]
  constructor
  · intro isArmed
    exact ⟨inside, isArmed.1⟩
  · intro committed
    have positive := timed slot committed
    exact ⟨committed.2, by omega⟩

/-- The loop finds the earliest deadline, and 0 when no text is there. -/
theorem earliestDeadline_cases (timed : s.Timed cfg) :
    (earliestDeadline cfg s = 0 ∧ ∀ slot, ¬ s.Committed cfg slot) ∨
      (0 < earliestDeadline cfg s ∧ s.Earliest cfg (earliestDeadline cfg s)) := by
  have found : Scans.Least (fun slot => armed (s.slots slot))
      (fun slot => (s.slots slot).ttlDeadlineMs) (List.range cfg.dynamicSlotCount)
      (earliestDeadline cfg s) := by
    apply Scans.scan_least
    intro slot member isArmed
    exact timed slot ((armed_iff timed (List.mem_range.mp member)).mp isArmed)
  rcases found with ⟨zero, none⟩ | ⟨⟨slot, member, isArmed, attained⟩, least⟩
  · refine Or.inl ⟨zero, fun slot committed => ?_⟩
    have isArmed := (armed_iff timed committed.1).mpr committed
    exact absurd ((none slot (List.mem_range.mpr committed.1)).symm.trans isArmed) (by decide)
  · have committed := (armed_iff timed (List.mem_range.mp member)).mp isArmed
    refine Or.inr ⟨?_, ⟨slot, committed, attained⟩, fun other there => ?_⟩
    · rw [← attained]
      exact timed slot committed
    · exact least other (List.mem_range.mpr there.1) ((armed_iff timed there.1).mpr there)

/-- The work item comes for every text in time: by its deadline, or at most a
millisecond after `armedMs` when the deadline had passed by then. -/
def InTime (cfg : Config) (armedMs : Int) (s : DynamicStore) : Prop :=
  ∀ slot, s.Committed cfg slot → ∃ atMs, s.ttlWork = some atMs ∧
    (atMs ≤ (s.slots slot).ttlDeadlineMs ∨
      ((s.slots slot).ttlDeadlineMs ≤ armedMs ∧ atMs ≤ armedMs + 1))

/-- Re-arming puts the work item in time, or leaves it unscheduled when no text
is there. -/
theorem rearmTtl_inTime (timed : s.Timed cfg) (nowMs : Int) :
    InTime cfg nowMs (rearmTtl cfg nowMs s) ∧
      ((∀ slot, ¬ s.Committed cfg slot) → (rearmTtl cfg nowMs s).ttlWork = none) := by
  rcases earliestDeadline_cases timed with ⟨zero, none⟩ | ⟨positive, earliest⟩
  · exact ⟨fun slot committed => absurd committed (none slot), fun _ => if_pos zero⟩
  · constructor
    · intro slot committed
      have least := earliest.least slot committed
      change _ ≤ (s.slots slot).ttlDeadlineMs at least
      refine ⟨_, if_neg (by omega), ?_⟩
      change _ ≤ (s.slots slot).ttlDeadlineMs ∨ ((s.slots slot).ttlDeadlineMs ≤ nowMs ∧ _)
      split
      · apply Or.inl
        omega
      · by_cases passed : (s.slots slot).ttlDeadlineMs ≤ nowMs
        · exact Or.inr ⟨passed, Int.le_refl _⟩
        · apply Or.inl
          omega
    · intro none
      obtain ⟨slot, committed, _⟩ := earliest.attained
      exact absurd committed (none slot)

/-- Fewer texts need the work item no sooner. -/
theorem InTime.fewer {s' : DynamicStore} {armedMs : Int} (inTime : InTime cfg armedMs s)
    (work : s'.ttlWork = s.ttlWork)
    (fewer : ∀ slot, s'.slots slot = s.slots slot ∨ (s'.slots slot).committedValid = false) :
    InTime cfg armedMs s' := by
  intro slot committed
  rcases fewer slot with same | gone
  · have before : s.Committed cfg slot := ⟨committed.1, by rw [← same]; exact committed.2⟩
    rw [work, same]
    exact inTime slot before
  · exact absurd (gone.symm.trans committed.2) (by decide)

end DynamicStore

/-! ## Calls that re-arm -/

/-- The reading at which a call re-arms the work item, when it gets there. -/
def rearmedMs (cfg : Config) (s : Texts) : TextEvent → Option Int
  | .appendSlot slot offset data nowMs commitMs rearmMs result =>
    if (commitOf cfg s (.appendSlot slot offset data nowMs commitMs rearmMs result)).isSome then
      some rearmMs
    else none
  | .clearSlot slot rearmMs => if slotIsValid cfg slot then some rearmMs else none
  | .clearAll rearmMs | .checkExpiry _ rearmMs | .ttlWork _ rearmMs => some rearmMs
  | .executeSlot slot nowMs rearmMs scheduled result =>
    if accepts cfg s slot (.executeSlot slot nowMs rearmMs scheduled result) = true ∧
        (s.dynamic.slots slot).committedConsumeOnAccept = true then some rearmMs
    else none
  | _ => none

/-- What a call does to the work item. -/
inductive WorkEffect (cfg : Config) (s : Texts) (event : TextEvent) (d : DynamicStore) : Prop
  | kept (unarmed : rearmedMs cfg s event = none) (notReset : event ≠ .reset)
      (work : d.ttlWork = s.dynamic.ttlWork)
      (fewer : ∀ slot, d.slots slot = s.dynamic.slots slot ∨
        (d.slots slot).committedValid = false)
  | rearmed {nowMs : Int} {before : DynamicStore} (at' : rearmedMs cfg s event = some nowMs)
      (left : d = rearmTtl cfg nowMs before)
  | reset (isReset : event = .reset) (left : d = s.dynamic.reset cfg)

section Steps
variable {cfg : Config} {s s' : Texts} {event : TextEvent}

theorem expireDue_ttlWork (cfg : Config) (nowMs : Int) (d : DynamicStore) :
    (expireDue cfg nowMs d).ttlWork = d.ttlWork := by
  rw [DynamicStore.expireDue_eq]
  split
  · rfl
  · rfl

/-- Expiry at the head of a call, and staging changes behind it, do not touch
the work item. -/
theorem WorkEffect.of_expiry {nowMs : Int} {d : DynamicStore}
    (unarmed : rearmedMs cfg s event = none) (notReset : event ≠ .reset)
    (work : d.ttlWork = (expireDue cfg nowMs s.dynamic).ttlWork)
    (slots : d.slots = (expireDue cfg nowMs s.dynamic).slots) : WorkEffect cfg s event d := by
  apply WorkEffect.kept unarmed notReset
  · rw [work, expireDue_ttlWork]
  · rw [slots]
    exact (DynamicStore.expireDue_quiet cfg nowMs s.dynamic).slots

theorem beginLocked_ttlWork (cfg : Config) (slot total maxLength ttl : Nat) (consume : Bool)
    (d : DynamicStore) :
    (d.beginLocked cfg slot total maxLength ttl consume).2.ttlWork = d.ttlWork := by
  unfold DynamicStore.beginLocked
  split
  · rfl
  · rfl

theorem appendSlot_work {slot offset : Nat} {data : List UInt8}
    {nowMs commitMs rearmMs result : Int}
    (step : TextStep cfg s (.appendSlot slot offset data nowMs commitMs rearmMs result) s') :
    WorkEffect cfg s (.appendSlot slot offset data nowMs commitMs rearmMs result) s'.dynamic := by
  have appended : s.dynamic.appendSlot cfg slot offset data nowMs commitMs rearmMs =
      (result, s'.dynamic) := step.1
  by_cases taken : result = 0
  · obtain ⟨valid, made⟩ :=
      DynamicStore.appendSlot_taken ((congrArg Prod.fst appended).trans taken)
    rw [appended] at made
    split at made
    next complete =>
      apply WorkEffect.rearmed
      · exact if_pos (by rw [commitOf, if_pos ⟨taken, complete⟩]; rfl)
      · exact made
    next partly =>
      apply WorkEffect.of_expiry
      · have uncommitted : commitOf cfg s
            (.appendSlot slot offset data nowMs commitMs rearmMs result) = none :=
          if_neg fun both => partly both.2
        exact if_neg (by rw [uncommitted]; decide)
      · intro impossible
        cases impossible
      · rw [show s'.dynamic = _ from made]
        rfl
      · rw [show s'.dynamic = _ from made]
        rfl
  · have refused : (s.dynamic.appendSlot cfg slot offset data nowMs commitMs rearmMs).1 ≠ 0 := by
      rw [appended]
      exact taken
    have uncommitted : commitOf cfg s
        (.appendSlot slot offset data nowMs commitMs rearmMs result) = none :=
      if_neg fun both => taken both.1
    have unarmed : rearmedMs cfg s
        (.appendSlot slot offset data nowMs commitMs rearmMs result) = none :=
      if_neg (by rw [uncommitted]; decide)
    have notReset : TextEvent.appendSlot slot offset data nowMs commitMs rearmMs result ≠
        .reset := by
      intro impossible
      cases impossible
    rcases DynamicStore.appendSlot_refused refused with kept | cancelled
    · rw [appended] at kept
      rw [show s'.dynamic = _ from kept]
      exact .of_expiry unarmed notReset rfl rfl
    · rw [appended] at cancelled
      rw [show s'.dynamic = _ from cancelled]
      exact .of_expiry unarmed notReset rfl rfl

theorem executeSlot_work {slot : Nat} {nowMs rearmMs scheduled result : Int}
    (step : TextStep cfg s (.executeSlot slot nowMs rearmMs scheduled result) s') :
    WorkEffect cfg s (.executeSlot slot nowMs rearmMs scheduled result) s'.dynamic := by
  rcases executeSlot_cases step with
    ⟨none, left, _⟩ | ⟨entry, handed, same, _, _, _, ⟨accepted, policy, left⟩ | ⟨denied, left⟩⟩
  · apply WorkEffect.of_expiry
    · apply if_neg
      rw [accepts, none]
      simp
    · intro impossible
      cases impossible
    · rw [left]
    · rw [left]
  · apply WorkEffect.rearmed
    · apply if_pos
      rw [accepts, handed, accepted, ← same]
      exact ⟨by simp, policy⟩
    · exact left
  · apply WorkEffect.of_expiry
    · apply if_neg
      rw [accepts, handed, ← same]
      rintro ⟨accepted, policy⟩
      rcases denied with failed | keeps
      · simp [failed] at accepted
      · exact absurd (keeps.symm.trans policy) (by decide)
    · intro impossible
      cases impossible
    · rw [left]
    · rw [left]

theorem step_work (step : TextStep cfg s event s') : WorkEffect cfg s event s'.dynamic := by
  cases event with
  | beginSlot slot total ttl consume nowMs result =>
    have left : s'.dynamic = (s.dynamic.beginSlot cfg slot total ttl consume nowMs).2 := by
      rw [step.1]
    rw [left]
    exact .of_expiry rfl nofun (beginLocked_ttlWork ..) (beginLocked_slots ..)
  | beginWithOptions total ttl consume nowMs result =>
    have left : s'.dynamic = (s.dynamic.beginWithOptions cfg total ttl consume nowMs).2 := by
      rw [step.1]
    rw [left]
    exact .of_expiry rfl nofun (beginLocked_ttlWork ..) (beginLocked_slots ..)
  | appendSlot slot offset data nowMs commitMs rearmMs result => exact appendSlot_work step
  | cancelStaging nowMs =>
    rw [step]
    exact .of_expiry rfl nofun rfl rfl
  | clearSlot slot rearmMs =>
    rw [step]
    change WorkEffect cfg s _ (s.dynamic.clearSlot cfg slot rearmMs)
    unfold DynamicStore.clearSlot
    split
    next outside =>
      apply WorkEffect.kept
      · exact if_neg (by simp [outside])
      · nofun
      · rfl
      · exact fun _ => Or.inl rfl
    next inside =>
      rw [Bool.not_eq_false] at inside
      exact .rearmed (if_pos inside) rfl
  | clearAll rearmMs =>
    rw [step]
    exact .rearmed rfl rfl
  | checkExpiry nowMs rearmMs =>
    rw [step]
    exact .rearmed rfl rfl
  | executeSlot slot nowMs rearmMs scheduled result => exact executeSlot_work step
  | reset =>
    rw [step]
    exact .reset rfl rfl
  | ttlWork nowMs rearmMs =>
    rw [step]
    exact .rearmed rfl rfl
  | executorStart text length scheduled result =>
    rw [step.2]
    exact .kept rfl nofun rfl fun _ => Or.inl rfl
  | executorWork scheduled =>
    rw [step]
    exact .kept rfl nofun rfl fun _ => Or.inl rfl

end Steps

/-! ## Runs of the work item -/

/-- The store, the runs of the work item that wait for the mutex or to be
started, and the reading of the last arming, which no function reads. -/
structure Armament where
  texts : Texts
  waiting : Nat
  armedMs : Int

/-- A call, the timer running out, and the handler that then runs. -/
inductive ArmEvent where
  | call (event : TextEvent)
  | fire
  | handler (nowMs rearmMs : Int)

/-- A call may take back waiting runs when it cancels the work item. -/
def Cancels (cfg : Config) (s : Texts) (event : TextEvent) (s' : Texts) : Prop :=
  s'.dynamic.ttlWork = none ∧ (event = .reset ∨ (rearmedMs cfg s event).isSome = true)

/-- A call can re-arm the timer, or cancel a handler that waits; it never makes
one wait. -/
def Calls (cfg : Config) (s : Armament) (waiting : Nat) (event : TextEvent) (s' : Armament) :
    Prop :=
  TextStep cfg s.texts event s'.texts ∧
    s'.armedMs = (rearmedMs cfg s.texts event).getD s.armedMs ∧
    (s'.waiting = waiting ∨ (s'.waiting < waiting ∧ Cancels cfg s.texts event s'.texts))

/-- The entry points, the pending time coming, and a run of the handler that
got the mutex. -/
def ArmStep (cfg : Config) (s : Armament) : ArmEvent → Armament → Prop
  | .call event, s' =>
    (∀ nowMs rearmMs, event ≠ .ttlWork nowMs rearmMs) ∧ Calls cfg s s.waiting event s'
  | .fire, s' =>
    s.texts.dynamic.ttlWork.isSome = true ∧ s' = { s with
      texts := { s.texts with dynamic := { s.texts.dynamic with ttlWork := none } }
      waiting := s.waiting + 1 }
  | .handler nowMs rearmMs, s' =>
    ∃ others, s.waiting = others + 1 ∧ Calls cfg s others (.ttlWork nowMs rearmMs) s'

end RuntimeMacro.Source
