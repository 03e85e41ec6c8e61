import RuntimeMacro.Source.TextRuns

/-!
# A one-shot text is typed at most once

runtime_macro_dynamic.c:362-395. `zmk_runtime_macro_dynamic_execute_slot`
consumes a text only once the executor has taken its own snapshot of it. A
refused execution leaves the text for the next press, and a text of the keep
policy outlives every execution.
-/
namespace RuntimeMacro.Guarantees.ConsumeOnce
open Source Foundations.Runs
open DynamicStore (due expiredSlots slotIsValid)

variable {cfg : Config} {s s' : Texts} {event : TextEvent} {commit : Commit}
  {entry : DynamicSlot} {slot target : Nat} {nowMs rearmMs scheduled result : Int}
  {moments : List (Moment Texts TextEvent)}

/-- Only a text that is there is accepted, and it is gone at once if its policy
is to consume. -/
theorem accepted_text (step : TextStep cfg s event s')
    (accepted : accepts cfg s slot event = true) :
    (s.dynamic.slots slot).committedValid = true ∧
      ((s.dynamic.slots slot).committedConsumeOnAccept = true →
        Emptied (s'.dynamic.slots slot)) := by
  cases event with
  | executeSlot target nowMs rearmMs scheduled result =>
    simp only [accepts, Bool.and_eq_true, beq_iff_eq] at accepted
    obtain ⟨⟨rfl, rfl⟩, handed⟩ := accepted
    rcases executeSlot_cases step with
      ⟨none, _⟩ | ⟨entry, _, same, valid, _, _, ⟨_, _, left⟩ | ⟨refused, _⟩⟩
    · rw [none] at handed
      cases handed
    · rw [← same]
      refine ⟨valid, fun _ => ?_⟩
      rw [left, DynamicStore.rearmTtl_slots]
      simpa [DynamicStore.clearCommitted] using clearedSlot_emptied _
    · rw [← same]
      refine ⟨valid, fun consumes => ?_⟩
      rcases refused with failed | keeps
      · exact absurd rfl failed
      · cases keeps.symm.trans consumes
  | _ => cases accepted

/-- An execution that is refused leaves the text of its slot as it was. -/
theorem refused_keeps (step : TextStep cfg s (.executeSlot slot nowMs rearmMs scheduled result) s')
    (refused : result ≠ 0) : s'.dynamic.slots slot = s.dynamic.slots slot := by
  rcases executeSlot_cases step with
    ⟨_, left, _, answered⟩ | ⟨entry, _, same, _, kept, _, ⟨accepted, _⟩ | ⟨_, left⟩⟩
  · have outside : slotIsValid cfg slot = false := by
      by_contra inside
      rw [Bool.not_eq_false] at inside
      exact refused (answered inside)
    rw [left, DynamicStore.expireDue_slots, expiredSlots, outside]
    rfl
  · exact absurd accepted refused
  · rw [left, DynamicStore.expireDue_slots, kept, same]

/-- No execution, of this slot or of another, removes a text of the keep policy
before it is due. -/
theorem keep_policy_kept
    (step : TextStep cfg s (.executeSlot target nowMs rearmMs scheduled result) s')
    (keeps : (s.dynamic.slots slot).committedConsumeOnAccept = false)
    (early : due nowMs (s.dynamic.slots slot) = false) :
    s'.dynamic.slots slot = s.dynamic.slots slot := by
  have effect := step_slot step slot
  generalize s'.dynamic.slots slot = left at effect
  cases effect with
  | kept => rfl
  | expired read late =>
    cases read
    cases early.symm.trans late
  | cleared asked => cases asked
  | consumed _ policy => cases keeps.symm.trans policy
  | committed made => cases made

/-- The executor refuses a text of the store only because it is busy or cannot
be scheduled. -/
theorem refused_reason (bounded : Bounded s.dynamic)
    (step : TextStep cfg s (.executeSlot slot nowMs rearmMs scheduled result) s')
    (inside : slotIsValid cfg slot = true) (refused : result ≠ 0) :
    (s.executor.busy = true ∧ result = -ebusy) ∨ (scheduled < 0 ∧ result = scheduled) := by
  rcases executeSlot_cases step with ⟨_, _, _, answered⟩ | ⟨entry, _, same, _, _, started, _⟩
  · exact absurd (answered inside) refused
  · have fits : ¬ entry.committedLength > executorMaxTextLen := by
      rw [same, Nat.not_lt]
      exact bounded.fits slot
    unfold Executor.start at started
    rw [if_neg fits] at started
    by_cases busy : s.executor.busy = true
    · rw [if_pos busy] at started
      exact Or.inl ⟨busy, (Prod.mk.inj started).1.symm⟩
    · rw [if_neg busy] at started
      dsimp only at started
      split at started
      · exact absurd (Prod.mk.inj started).1.symm refused
      · split at started
        next failed => exact Or.inr ⟨failed, (Prod.mk.inj started).1.symm⟩
        next => exact absurd (Prod.mk.inj started).1.symm refused

/-- Once accepted, a text that is consumed stays away until its slot is
committed to again. -/
theorem emptied_stays (run : Run (Traced (TextStep cfg)) s moments s')
    (emptied : Emptied (s.dynamic.slots slot))
    (uncommitted : ∀ moment ∈ moments, ¬ Commits cfg slot moment.before moment.event) :
    ∀ moment ∈ moments, accepts cfg moment.before slot moment.event = false ∧
      Emptied (moment.after.dynamic.slots slot) := by
  intro moment member
  obtain ⟨front, back, rfl⟩ := List.append_of_mem member
  obtain ⟨_, _, earlier, ⟨rfl, rfl, step⟩, _⟩ := run.around
  have gone := earlier.invariant_of (fun t => Emptied (t.dynamic.slots slot)) emptied
    (fun past inFront => uncommitted past (List.mem_append_left _ inFront)) (by
      intro _ past _ here allowed taken
      obtain ⟨rfl, rfl, taken⟩ := taken
      exact here.step allowed taken)
  constructor
  · by_contra accepted
    rw [Bool.not_eq_false] at accepted
    have valid := (accepted_text step accepted).1
    rw [gone.valid] at valid
    cases valid
  · exact gone.step (uncommitted moment member) step

/-- Between two commits to a slot, a text that was committed to be consumed is
accepted at most once, and from then on the slot is empty. Every execution that
is refused leaves its text as it was, for one of two reasons that are not its
length, and no execution removes a text of the keep policy. -/
theorem consumed_once (run : Run (Traced (TextStep cfg)) .boot moments s)
    (uptime : Uptime (moments.map Moment.event)) :
    (∀ front made middle back, moments = front ++ made :: (middle ++ back) →
      ∀ commit, commitOf cfg made.before made.event = some commit →
        commit.consumeOnAccept = true →
        (∀ moment ∈ middle, ¬ Commits cfg commit.slot moment.before moment.event) →
        ∀ earlier taken later, middle = earlier ++ taken :: later →
          accepts cfg taken.before commit.slot taken.event = true →
          taken.before.dynamic.slots commit.slot = made.after.dynamic.slots commit.slot ∧
            Emptied (taken.after.dynamic.slots commit.slot) ∧
            ∀ moment ∈ later, accepts cfg moment.before commit.slot moment.event = false ∧
              Emptied (moment.after.dynamic.slots commit.slot)) ∧
    ∀ moment ∈ moments, ∀ target nowMs rearmMs scheduled result,
      moment.event = .executeSlot target nowMs rearmMs scheduled result →
      (result ≠ 0 → moment.after.dynamic.slots target = moment.before.dynamic.slots target) ∧
      (slotIsValid cfg target = true → result ≠ 0 →
        (moment.before.executor.busy = true ∧ result = -ebusy) ∨
          (scheduled < 0 ∧ result = scheduled)) ∧
      ∀ slot, (moment.before.dynamic.slots slot).committedConsumeOnAccept = false →
        due nowMs (moment.before.dynamic.slots slot) = false →
        moment.after.dynamic.slots slot = moment.before.dynamic.slots slot := by
  constructor
  · intro front made middle back split commit committed consumes uncommitted earlier taken later
      cut accepted
    subst cut
    rw [split, List.append_assoc, List.cons_append] at run
    obtain ⟨_, _, _, ⟨rfl, rfl, step⟩, rest⟩ := run.around
    obtain ⟨_, _, between, ⟨rfl, rfl, accepting⟩, rest⟩ := rest.around
    obtain ⟨_, after, _⟩ := Run.split later back rest
    have holds := commit_holds step committed
    have here : taken.before.dynamic.slots commit.slot = made.after.dynamic.slots commit.slot ∨
        Emptied (taken.before.dynamic.slots commit.slot) :=
      between.invariant_of (fun t => t.dynamic.slots commit.slot =
        made.after.dynamic.slots commit.slot ∨ Emptied (t.dynamic.slots commit.slot))
        (Or.inl rfl) (fun past member => uncommitted past (List.mem_append_left _ member)) (by
          intro _ past _ here allowed taken
          obtain ⟨rfl, rfl, taken⟩ := taken
          exact step_keeps_or_empties here allowed taken)
    obtain ⟨valid, consumed⟩ := accepted_text accepting accepted
    have same : taken.before.dynamic.slots commit.slot =
        made.after.dynamic.slots commit.slot := by
      rcases here with same | gone
      · exact same
      · cases gone.valid.symm.trans valid
    have emptied := consumed (by rw [same, holds.policy, consumes])
    refine ⟨same, emptied, emptied_stays after emptied fun moment member => ?_⟩
    exact uncommitted moment (List.mem_append_right _ (List.mem_cons_of_mem _ member))
  · intro moment member target nowMs rearmMs scheduled result executes
    obtain ⟨front, back, rfl⟩ := List.append_of_mem member
    obtain ⟨_, _, earlier, ⟨rfl, rfl, step⟩, _⟩ := run.around
    rw [List.map_append] at uptime
    obtain ⟨_, bounded⟩ := run_bounded earlier.untraced uptime.front
    rw [executes] at step
    exact ⟨refused_keeps step, refused_reason bounded step, fun slot => keep_policy_kept step⟩

/-! ## A text of slot 1 that a busy executor refuses once -/

def sampleBegun : Texts :=
  textAfter .default .boot (.beginSlot 1 1 60 true 100 0) (by decide +kernel)

def sampleCommit : Texts :=
  textAfter .default sampleBegun (.appendSlot 1 0 [72] 200 200 200 0) (by decide +kernel)

def sampleBusy : Texts :=
  textAfter .default sampleCommit (.executorStart [120] 1 0 0) (by decide +kernel)

def sampleRefused : Texts :=
  textAfter .default sampleBusy (.executeSlot 1 300 300 0 (-ebusy)) (by decide +kernel)

def sampleReleasing : Texts :=
  textAfter .default sampleRefused (.executorWork 0) (by decide +kernel)

def sampleIdle : Texts := textAfter .default sampleReleasing (.executorWork 0) (by decide +kernel)

def sampleTaken : Texts :=
  textAfter .default sampleIdle (.executeSlot 1 400 400 0 0) (by decide +kernel)

def sampleRun : List (Moment Texts TextEvent) :=
  [⟨.boot, .beginSlot 1 1 60 true 100 0, sampleBegun⟩] ++
    ⟨sampleBegun, .appendSlot 1 0 [72] 200 200 200 0, sampleCommit⟩ ::
      (([⟨sampleCommit, .executorStart [120] 1 0 0, sampleBusy⟩,
          ⟨sampleBusy, .executeSlot 1 300 300 0 (-ebusy), sampleRefused⟩,
          ⟨sampleRefused, .executorWork 0, sampleReleasing⟩,
          ⟨sampleReleasing, .executorWork 0, sampleIdle⟩] ++
        ⟨sampleIdle, .executeSlot 1 400 400 0 0, sampleTaken⟩ :: []) ++ [])

theorem sampleRun_taken : Run (Traced (TextStep .default)) .boot sampleRun sampleTaken :=
  .cons ⟨rfl, rfl, textAfter_step _ _ _ (by decide +kernel)⟩ <|
    .cons ⟨rfl, rfl, textAfter_step _ _ _ (by decide +kernel)⟩ <|
    .cons ⟨rfl, rfl, textAfter_step _ _ _ (by decide +kernel)⟩ <|
    .cons ⟨rfl, rfl, textAfter_step _ _ _ (by decide +kernel)⟩ <|
    .cons ⟨rfl, rfl, textAfter_step _ _ _ (by decide +kernel)⟩ <|
    .cons ⟨rfl, rfl, textAfter_step _ _ _ (by decide +kernel)⟩ <|
    .cons ⟨rfl, rfl, textAfter_step _ _ _ (by decide +kernel)⟩ <| .nil _

/-- The executor is busy when the text is first executed, and keeps it; once
idle it takes the text, and the slot is empty. -/
theorem consumed_once_sample :
    sampleRefused.dynamic.slots 1 = sampleBusy.dynamic.slots 1 ∧
      sampleIdle.dynamic.slots 1 = sampleCommit.dynamic.slots 1 ∧
      Emptied (sampleTaken.dynamic.slots 1) := by
  have uptime : Uptime (sampleRun.map Moment.event) := by
    constructor
    · decide
    · decide
  have made : commitOf .default sampleBegun (.appendSlot 1 0 [72] 200 200 200 0) =
      some ⟨1, 1, 200, 60, true⟩ := by
    decide +kernel
  have accepted : accepts .default sampleIdle 1 (.executeSlot 1 400 400 0 0) = true := by
    decide +kernel
  obtain ⟨once, refused⟩ := consumed_once sampleRun_taken uptime
  obtain ⟨kept, _⟩ := refused ⟨sampleBusy, .executeSlot 1 300 300 0 (-ebusy), sampleRefused⟩
    (by simp [sampleRun]) 1 300 300 0 (-ebusy) rfl
  obtain ⟨same, emptied, _⟩ := once _ _ _ _ rfl _ made rfl (by
    intro moment member
    simp only [List.cons_append, List.nil_append, List.mem_cons, List.not_mem_nil, or_false]
      at member
    rcases member with rfl | rfl | rfl | rfl | rfl
    all_goals
      rintro ⟨_, impossible, _⟩
      cases impossible) _ _ _ rfl accepted
  dsimp only at kept same emptied
  exact ⟨kept (by decide), same, emptied⟩

end RuntimeMacro.Guarantees.ConsumeOnce
