import RuntimeMacro.Source.TextRuns

/-!
# A text lives exactly as long as its TTL

runtime_macro_dynamic.c:119-169,206-229. Expiry runs in the work handler and at
the head of most calls, over all slots at once. Neither takes a text before its
deadline, and no execution hands it over afterwards, whatever the work item
does.
-/
namespace RuntimeMacro.Guarantees.TtlExactness
open Source Foundations.Runs
open DynamicStore (due expiredSlots slotIsValid)

variable {cfg : Config} {s s' : Texts} {event : TextEvent} {commit : Commit}
  {entry : DynamicSlot} {slot : Nat} {moments : List (Moment Texts TextEvent)}

/-- The calls that may remove a text at any time: a commit to its slot, a clear
of it, of all slots or a reset, and an accepted execution that consumes. -/
def Removes (cfg : Config) (slot : Nat) (s : Texts) (event : TextEvent) : Prop :=
  Commits cfg slot s event ∨ event.clears cfg slot = true ∨
    (accepts cfg s slot event = true ∧
      (s.dynamic.slots slot).committedConsumeOnAccept = true)

/-- Before the deadline every other call leaves the text alone. -/
theorem step_retains (holds : Holds commit entry) (here : s.dynamic.slots slot = entry)
    (spared : ¬ Removes cfg slot s event)
    (early : ∀ reading, event.expiryMs = some reading → reading < commit.deadlineMs)
    (step : TextStep cfg s event s') : s'.dynamic.slots slot = entry := by
  have effect := step_slot step slot
  generalize s'.dynamic.slots slot = left at effect
  cases effect with
  | kept => exact here
  | expired read late =>
    rw [here, due, holds.deadline, Bool.and_eq_true, decide_eq_true_eq] at late
    have before := early _ read
    omega
  | cleared asked => exact absurd (Or.inr (Or.inl asked)) spared
  | consumed accepted policy => exact absurd (Or.inr (Or.inr ⟨accepted, policy⟩)) spared
  | committed made target => exact absurd (Or.inl ⟨_, made, target⟩) spared

/-- The expiry at the head of an execution takes a text that is due, so the
executor is handed nothing. -/
theorem execute_expired {nowMs rearmMs scheduled result : Int} (holds : Holds commit entry)
    (timed : 0 < commit.deadlineMs)
    (here : s.dynamic.slots slot = entry ∨ Emptied (s.dynamic.slots slot))
    (late : commit.deadlineMs ≤ nowMs)
    (step : TextStep cfg s (.executeSlot slot nowMs rearmMs scheduled result) s') :
    handedOver cfg s (.executeSlot slot nowMs rearmMs scheduled result) = none ∧
      s'.executor = s.executor := by
  rcases executeSlot_cases step with ⟨none, _, same, _⟩ | ⟨found, handed, at', valid, kept, _⟩
  · exact ⟨none, same⟩
  · exfalso
    rcases here with same | gone
    · have isDue : due nowMs (s.dynamic.slots slot) = true := by
        rw [same, due, DynamicStore.armed, holds.valid, holds.deadline]
        simp only [Bool.true_and, Bool.and_eq_true, bne_iff_ne, decide_eq_true_eq]
        omega
      have inside : slotIsValid cfg slot = true := by
        by_contra outside
        rw [Bool.not_eq_true] at outside
        simp [handedOver, outside] at handed
      rw [expiredSlots, inside, isDue] at kept
      rw [← kept] at valid
      cases valid
    · rw [at', gone.valid] at valid
      cases valid

theorem commit_timed (staged : Staged s.dynamic)
    (counted : ∀ reading ∈ event.readings, 0 ≤ reading)
    (made : commitOf cfg s event = some commit) (step : TextStep cfg s event s') :
    0 < commit.deadlineMs := by
  obtain ⟨ttl, _, read⟩ := commitOf_sound staged step made
  have early := counted _ read
  unfold Commit.deadlineMs
  omega

/-- A committed text is removed before its deadline by a commit to its slot, a
clear, a reset or a consuming execution only, and from its deadline on no
execution hands it to the executor. -/
theorem ttl_exact (run : Run (Traced (TextStep cfg)) .boot moments s)
    (uptime : Uptime (moments.map Moment.event)) :
    ∀ front made middle last back, moments = front ++ made :: (middle ++ last :: back) →
      ∀ commit, commitOf cfg made.before made.event = some commit →
        Holds commit (made.after.dynamic.slots commit.slot) ∧
        ((∀ moment ∈ middle ++ [last], ¬ Removes cfg commit.slot moment.before moment.event) →
          (∀ moment ∈ middle ++ [last], ∀ reading, moment.event.expiryMs = some reading →
            reading < commit.deadlineMs) →
          last.after.dynamic.slots commit.slot = made.after.dynamic.slots commit.slot) ∧
        (∀ nowMs rearmMs scheduled result,
          last.event = .executeSlot commit.slot nowMs rearmMs scheduled result →
          commit.deadlineMs ≤ nowMs →
          (∀ moment ∈ middle, ¬ Commits cfg commit.slot moment.before moment.event) →
          handedOver cfg last.before last.event = none ∧
            last.after.executor = last.before.executor) := by
  intro front made middle last back split commit committed
  rw [split] at run uptime
  obtain ⟨before, after, earlier, ⟨rfl, rfl, step⟩, later⟩ := run.around
  obtain ⟨_, _, between, ⟨rfl, rfl, lastStep⟩, _⟩ := later.around
  have counted : ∀ reading ∈ made.event.readings, 0 ≤ reading := by
    intro reading member
    exact uptime.2 reading (List.mem_flatMap.mpr ⟨made.event, by simp, member⟩)
  rw [List.map_append] at uptime
  obtain ⟨staged, _⟩ := run_bounded earlier.untraced uptime.front
  have holds := commit_holds step committed
  have timed := commit_timed staged counted committed step
  refine ⟨holds, fun spared early => ?_,
    fun nowMs rearmMs scheduled result executes late kept => ?_⟩
  · have all : Run (Traced (TextStep cfg)) _ (_ ++ [last]) _ :=
      between.snoc ⟨rfl, rfl, lastStep⟩
    refine all.invariant_of (fun t => t.dynamic.slots commit.slot =
      made.after.dynamic.slots commit.slot) rfl (fun moment member =>
        And.intro (spared moment member) (early moment member)) ?_
    intro _ moment _ here allowed taken
    obtain ⟨rfl, rfl, taken⟩ := taken
    exact step_retains holds here allowed.1 allowed.2 taken
  · have here := between.invariant_of (fun t => t.dynamic.slots commit.slot =
      made.after.dynamic.slots commit.slot ∨ Emptied (t.dynamic.slots commit.slot))
      (Or.inl rfl) kept (by
        intro _ moment _ here allowed taken
        obtain ⟨rfl, rfl, taken⟩ := taken
        exact step_keeps_or_empties here allowed taken)
    rw [executes] at lastStep ⊢
    exact execute_expired holds timed here late lastStep

/-! ## A text of slot 1, committed at 1000 for two seconds -/

def sampleBegun : Texts :=
  textAfter .default .boot (.beginSlot 1 2 2 false 900 0) (by decide +kernel)

def sampleCommit : Texts :=
  textAfter .default sampleBegun (.appendSlot 1 0 [72, 105] 1000 1000 1000 0) (by decide +kernel)

def sampleWorked : Texts := textAfter .default sampleCommit (.ttlWork 2999 2999) (by decide +kernel)

def sampleLate : Texts :=
  textAfter .default sampleWorked (.executeSlot 1 3000 3000 0 0) (by decide +kernel)

def sampleRun : List (Moment Texts TextEvent) :=
  [⟨.boot, .beginSlot 1 2 2 false 900 0, sampleBegun⟩] ++
    ⟨sampleBegun, .appendSlot 1 0 [72, 105] 1000 1000 1000 0, sampleCommit⟩ ::
      ([⟨sampleCommit, .ttlWork 2999 2999, sampleWorked⟩] ++
        ⟨sampleWorked, .executeSlot 1 3000 3000 0 0, sampleLate⟩ :: [])

theorem sampleRun_taken : Run (Traced (TextStep .default)) .boot sampleRun sampleLate :=
  .cons ⟨rfl, rfl, textAfter_step _ _ _ (by decide +kernel)⟩ <|
    .cons ⟨rfl, rfl, textAfter_step _ _ _ (by decide +kernel)⟩ <|
    .cons ⟨rfl, rfl, textAfter_step _ _ _ (by decide +kernel)⟩ <|
    .cons ⟨rfl, rfl, textAfter_step _ _ _ (by decide +kernel)⟩ <| .nil _

/-- A text committed at 1000 for two seconds. The handler at 2999 leaves it,
and the execution at 3000 types nothing. -/
theorem ttl_exact_sample :
    Holds ⟨1, 2, 1000, 2, false⟩ (sampleCommit.dynamic.slots 1) ∧
      sampleLate.executor = sampleWorked.executor := by
  have uptime : Uptime (sampleRun.map Moment.event) := by
    constructor
    · decide
    · decide
  have made : commitOf .default sampleBegun (.appendSlot 1 0 [72, 105] 1000 1000 1000 0) =
      some ⟨1, 2, 1000, 2, false⟩ := by
    decide +kernel
  obtain ⟨holds, _, unexecuted⟩ := ttl_exact sampleRun_taken uptime _ _ _ _ _ rfl _ made
  refine ⟨holds, (unexecuted 3000 3000 0 0 rfl (by decide) ?_).2⟩
  intro moment member
  rw [List.mem_singleton.mp member]
  rintro ⟨_, impossible, _⟩
  cases impossible

end RuntimeMacro.Guarantees.TtlExactness
