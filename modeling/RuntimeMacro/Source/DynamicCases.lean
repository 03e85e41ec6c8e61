import RuntimeMacro.Source.DynamicStore

/-!
# What the dynamic store operations can do

runtime_macro_dynamic.c:68-360. `expireDue_eq` replaces the expiry loop by a
closed form; the other operations are described over it. `OnlyExpired` is the
effect on committed texts that every operation may have.
-/
namespace RuntimeMacro.Source.DynamicStore

variable {cfg : Config} {nowMs : Int} {s s' s'' : DynamicStore}

/-! ## The expiry loop -/

/-- The staged upload aims at a slot that is due. -/
def stagingDue (cfg : Config) (nowMs : Int) (s : DynamicStore) : Bool :=
  s.stagingActive && slotIsValid cfg s.stagingSlot && due nowMs (s.slots s.stagingSlot)

/-- The slots after all that are due have expired. -/
def expiredSlots (cfg : Config) (nowMs : Int) (s : DynamicStore) (slot : Nat) : DynamicSlot :=
  if slotIsValid cfg slot && due nowMs (s.slots slot) then clearedSlot (s.slots slot)
  else s.slots slot

theorem expire_loop (nowMs : Int) (order : List Nat) (s : DynamicStore) (distinct : order.Nodup) :
    order.foldl (fun s slot => if due nowMs (s.slots slot) then expireSlot slot s else s) s =
      { (if s.stagingActive ∧ s.stagingSlot ∈ order ∧ due nowMs (s.slots s.stagingSlot) then
          cancelStaging s else s) with
        slots := fun slot =>
          if slot ∈ order ∧ due nowMs (s.slots slot) then clearedSlot (s.slots slot)
          else s.slots slot } := by
  induction order generalizing s with
  | nil => simp
  | cons head tail ih =>
    obtain ⟨fresh, distinct⟩ := List.nodup_cons.mp distinct
    rw [List.foldl_cons, ih _ distinct]
    by_cases late : due nowMs (s.slots head) = true
    · rw [if_pos late]
      -- Later rounds meet every other slot as it was, and the head no more.
      have others : ∀ slot ∈ tail, (expireSlot head s).slots slot = s.slots slot := by
        intro slot member
        have different : slot ≠ head := fun same => fresh (same ▸ member)
        unfold expireSlot clearCommitted cancelStaging
        dsimp only
        split <;> simp [different]
      have slots : ∀ slot, (if slot ∈ tail ∧ due nowMs ((expireSlot head s).slots slot) = true then
            clearedSlot ((expireSlot head s).slots slot) else (expireSlot head s).slots slot) =
          if slot ∈ head :: tail ∧ due nowMs (s.slots slot) = true then clearedSlot (s.slots slot)
          else s.slots slot := by
        intro slot
        by_cases member : slot ∈ tail
        · simp [member, others slot member]
        · by_cases atHead : slot = head
          · subst atHead
            have cleared : (expireSlot slot s).slots slot = clearedSlot (s.slots slot) := by
              unfold expireSlot clearCommitted cancelStaging
              dsimp only
              split <;> simp
            simp [member, late, cleared]
          · have kept : (expireSlot head s).slots slot = s.slots slot := by
              unfold expireSlot clearCommitted cancelStaging
              dsimp only
              split <;> simp [atHead]
            simp [member, atHead, kept]
      simp only [slots]
      by_cases aimed : s.stagingActive = true ∧ s.stagingSlot = head
      · obtain ⟨active, target⟩ := aimed
        have idle : (expireSlot head s).stagingActive = false := by
          simp [expireSlot, clearCommitted, cancelStaging, active, target]
        rw [if_neg (by simp [idle]), if_pos ⟨active, by simp [target], by rw [target]; exact late⟩]
        simp [expireSlot, clearCommitted, cancelStaging, active, target]
      · have same : expireSlot head s = clearCommitted head s := by
          unfold expireSlot
          dsimp only
          rw [if_neg]
          exact aimed
        rw [same]
        have elsewhere : s.stagingActive = true → s.stagingSlot ≠ head :=
          fun active target => aimed ⟨active, target⟩
        by_cases active : s.stagingActive = true
        · have different := elsewhere active
          by_cases due' : s.stagingSlot ∈ tail ∧ due nowMs (s.slots s.stagingSlot) = true
          · rw [if_pos (by simpa [clearCommitted, active, different] using due'),
              if_pos (by simp [active, due'])]
            rfl
          · rw [if_neg (by simpa [clearCommitted, active, different] using due'),
              if_neg (by simpa [active, different] using due')]
            rfl
        · rw [if_neg (by simp [clearCommitted, active]), if_neg (by simp [active])]
          rfl
    · rw [if_neg late]
      have slots : ∀ slot, (if slot ∈ tail ∧ due nowMs (s.slots slot) = true then
            clearedSlot (s.slots slot) else s.slots slot) =
          if slot ∈ head :: tail ∧ due nowMs (s.slots slot) = true then clearedSlot (s.slots slot)
          else s.slots slot := by
        intro slot
        by_cases atHead : slot = head
        · subst atHead
          simp [late]
        · simp [atHead]
      simp only [slots]
      by_cases target : s.stagingSlot = head
      · rw [if_neg (by simp [target, late]), if_neg (by simp [target, late])]
      · simp [target]

theorem expireDue_eq (cfg : Config) (nowMs : Int) (s : DynamicStore) :
    expireDue cfg nowMs s =
      { (if stagingDue cfg nowMs s then cancelStaging s else s) with
        slots := expiredSlots cfg nowMs s } := by
  have slots : expiredSlots cfg nowMs s = fun slot =>
      if slot ∈ List.range cfg.dynamicSlotCount ∧ due nowMs (s.slots slot) = true then
        clearedSlot (s.slots slot) else s.slots slot := by
    funext slot
    simp [expiredSlots, slotIsValid]
  rw [expireDue, expire_loop nowMs _ s List.nodup_range, slots]
  simp [stagingDue, slotIsValid, and_assoc]

/-- The staging fields. -/
structure Staging where
  bytes : List UInt8
  slot : Nat
  expectedLength : Nat
  received : Nat
  active : Bool
  ttlSeconds : Nat
  consumeOnAccept : Bool

/-- The fields of the store that belong to the upload under way. -/
def stagingOf (s : DynamicStore) : Staging :=
  ⟨s.staging, s.stagingSlot, s.stagingExpectedLength, s.stagingReceived, s.stagingActive,
    s.stagingTtlSeconds, s.stagingConsumeOnAccept⟩

@[simp] theorem expireDue_slots : (expireDue cfg nowMs s).slots = expiredSlots cfg nowMs s := by
  rw [expireDue_eq]

@[simp] theorem cancelStaging_slots : (cancelStaging s).slots = s.slots := rfl

@[simp] theorem cancelStaging_active : (cancelStaging s).stagingActive = false := rfl

@[simp] theorem cancelStagingNow_slots :
    (cancelStagingNow cfg nowMs s).slots = expiredSlots cfg nowMs s := expireDue_slots

@[simp] theorem cancelStagingNow_active : (cancelStagingNow cfg nowMs s).stagingActive = false :=
  rfl

@[simp] theorem rearmTtl_slots : (rearmTtl cfg nowMs s).slots = s.slots := rfl

@[simp] theorem rearmTtl_staging : (rearmTtl cfg nowMs s).stagingOf = s.stagingOf := rfl

/-- The expiry loop leaves a staging alone whose slot is not due. -/
theorem expireDue_stagingOf (alone : stagingDue cfg nowMs s = false) :
    (expireDue cfg nowMs s).stagingOf = s.stagingOf := by
  rw [expireDue_eq, alone]
  rfl

/-- Staging that survives the expiry loop is untouched. -/
theorem expireDue_staging (active : (expireDue cfg nowMs s).stagingActive = true) :
    (expireDue cfg nowMs s).stagingOf = s.stagingOf := by
  rw [expireDue_eq] at active ⊢
  split at active
  · cases active
  next alive =>
    rw [if_neg alive]
    rfl

/-! ## The effect every operation may have on committed texts -/

/-- Some slots whose deadline had passed were emptied; the others are as they
were. -/
def OnlyExpired (nowMs : Int) (slots slots' : Nat → DynamicSlot) : Prop :=
  ∀ slot, slots' slot = slots slot ∨
    (due nowMs (slots slot) = true ∧ slots' slot = clearedSlot (slots slot))

theorem OnlyExpired.refl (nowMs : Int) (slots : Nat → DynamicSlot) :
    OnlyExpired nowMs slots slots := fun _ => Or.inl rfl

theorem due_mono {entry : DynamicSlot} {early late : Int} (ordered : early ≤ late)
    (isDue : due early entry = true) : due late entry = true := by
  unfold due at *
  simp only [Bool.and_eq_true, decide_eq_true_eq] at *
  exact ⟨isDue.1, Int.le_trans isDue.2 ordered⟩

theorem clearedSlot_not_due (nowMs : Int) (entry : DynamicSlot) :
    due nowMs (clearedSlot entry) = false := rfl

theorem OnlyExpired.trans {nowMs : Int} {slots slots' slots'' : Nat → DynamicSlot}
    (first : OnlyExpired nowMs slots slots') (second : OnlyExpired nowMs slots' slots'') :
    OnlyExpired nowMs slots slots'' := by
  intro slot
  rcases second slot with same | ⟨isDue, emptied⟩
  · rw [same]
    exact first slot
  · rcases first slot with same | ⟨_, before⟩
    · rw [same] at isDue emptied
      exact Or.inr ⟨isDue, emptied⟩
    · rw [before, clearedSlot_not_due] at isDue
      cases isDue

theorem expiredSlots_onlyExpired (cfg : Config) (nowMs : Int) (s : DynamicStore) :
    OnlyExpired nowMs s.slots (expiredSlots cfg nowMs s) := by
  intro slot
  unfold expiredSlots
  split
  next isDue =>
    rw [Bool.and_eq_true] at isDue
    exact Or.inr ⟨isDue.2, rfl⟩
  · exact Or.inl rfl

/-! ## Begin and append -/

theorem beginSlot_slots (cfg : Config) (slot total ttl : Nat) (consume : Bool) (nowMs : Int)
    (s : DynamicStore) :
    (beginSlot cfg slot total ttl consume nowMs s).2.slots = expiredSlots cfg nowMs s := by
  unfold beginSlot beginLocked
  split
  · exact expireDue_slots
  · exact expireDue_slots

theorem beginSlot_of_valid {slot total ttl : Nat} {consume : Bool}
    (valid : slotIsValid cfg slot = true) (positive : total ≠ 0)
    (fits : total ≤ dynamicSlotMaxTextLen) (atLeast : dynamicMinTtlSeconds ≤ ttl)
    (atMost : ttl ≤ dynamicMaxTtlSeconds) :
    beginSlot cfg slot total ttl consume nowMs s = (0, { cancelStaging (expireDue cfg nowMs s) with
      stagingSlot := slot
      stagingExpectedLength := total
      stagingTtlSeconds := ttl
      stagingConsumeOnAccept := consume
      stagingActive := true }) := by
  unfold beginSlot beginLocked
  rw [if_neg]
  simp only [valid, not_or, Nat.not_lt, Bool.true_eq_false, not_false_eq_true, true_and]
  exact ⟨positive, fits, atLeast, atMost⟩

/-- What an append has to satisfy. -/
structure AppendValid (cfg : Config) (slot offset : Nat) (data : List UInt8)
    (s : DynamicStore) : Prop where
  active : s.stagingActive = true
  slotValid : slotIsValid cfg slot = true
  slot : slot = s.stagingSlot
  nonempty : data.length ≠ 0
  placed : offset = s.stagingReceived
  inside : offset ≤ s.stagingExpectedLength
  fits : data.length ≤ s.stagingExpectedLength - offset
  alphabet : data.all Ascii.byteIsValid = true

/-- The staging after an append. -/
def appended (offset : Nat) (data : List UInt8) (s : DynamicStore) : DynamicStore :=
  { s with
    staging := Foundations.ByteBuffer.write s.staging offset data
    stagingReceived := s.stagingReceived + data.length }

theorem appendLocked_of_valid {slot offset : Nat} {data : List UInt8}
    (valid : AppendValid cfg slot offset data s) (commitMs rearmMs : Int) :
    appendLocked cfg slot offset data commitMs rearmMs s =
      (0, if (appended offset data s).stagingReceived = s.stagingExpectedLength then
          commit cfg commitMs rearmMs (appended offset data s)
        else appended offset data s) := by
  have placed : ¬ (data.length = 0 ∨ offset ≠ s.stagingReceived ∨
      offset > s.stagingExpectedLength ∨ data.length > s.stagingExpectedLength - offset) := by
    have nonempty := valid.nonempty
    have atEnd := valid.placed
    have inside := valid.inside
    have fits := valid.fits
    omega
  unfold appendLocked
  rw [if_neg (by simp [valid.active]), if_neg (by simp [valid.slotValid, ← valid.slot]),
    if_neg placed, if_neg (by simp [valid.alphabet])]
  dsimp only
  by_cases complete : (appended offset data s).stagingReceived = s.stagingExpectedLength
  · rw [if_pos complete]
    exact if_pos complete
  · rw [if_neg complete]
    exact if_neg complete

theorem appendLocked_cases (cfg : Config) (slot offset : Nat) (data : List UInt8)
    (commitMs rearmMs : Int) (s : DynamicStore) :
    (∃ err, err ≠ 0 ∧ (appendLocked cfg slot offset data commitMs rearmMs s = (err, s) ∨
        appendLocked cfg slot offset data commitMs rearmMs s = (err, cancelStaging s))) ∨
    (AppendValid cfg slot offset data s ∧
      (((appended offset data s).stagingReceived ≠ s.stagingExpectedLength ∧
          appendLocked cfg slot offset data commitMs rearmMs s = (0, appended offset data s)) ∨
        ((appended offset data s).stagingReceived = s.stagingExpectedLength ∧
          appendLocked cfg slot offset data commitMs rearmMs s =
            (0, commit cfg commitMs rearmMs (appended offset data s))))) := by
  by_cases accepted : AppendValid cfg slot offset data s
  · rw [appendLocked_of_valid accepted]
    refine Or.inr ⟨accepted, ?_⟩
    by_cases complete : (appended offset data s).stagingReceived = s.stagingExpectedLength
    · exact Or.inr ⟨complete, by rw [if_pos complete]⟩
    · exact Or.inl ⟨complete, by rw [if_neg complete]⟩
  unfold appendLocked
  split
  · exact Or.inl ⟨-enoent, by decide, Or.inl rfl⟩
  next active =>
  split
  · exact Or.inl ⟨-einval, by decide, Or.inr rfl⟩
  next aimed =>
  split
  · exact Or.inl ⟨-einval, by decide, Or.inr rfl⟩
  next placed =>
  split
  · exact Or.inl ⟨-einval, by decide, Or.inr rfl⟩
  next alphabet =>
  simp only [not_or, Bool.not_eq_false, ne_eq, Decidable.not_not, Nat.not_lt] at active aimed placed
  exact absurd ⟨active, aimed.1, aimed.2, placed.1, placed.2.1, placed.2.2.1, placed.2.2.2,
    by simpa using alphabet⟩ accepted

/-- An append the store takes. -/
theorem appendSlot_taken {slot offset : Nat} {data : List UInt8} {commitMs rearmMs : Int}
    (taken : (appendSlot cfg slot offset data nowMs commitMs rearmMs s).1 = 0) :
    AppendValid cfg slot offset data (expireDue cfg nowMs s) ∧
      (appendSlot cfg slot offset data nowMs commitMs rearmMs s).2 =
        if (appended offset data (expireDue cfg nowMs s)).stagingReceived =
            (expireDue cfg nowMs s).stagingExpectedLength then
          commit cfg commitMs rearmMs (appended offset data (expireDue cfg nowMs s))
        else appended offset data (expireDue cfg nowMs s) := by
  unfold appendSlot at taken ⊢
  rcases appendLocked_cases cfg slot offset data commitMs rearmMs (expireDue cfg nowMs s) with
    ⟨err, bad, result | result⟩ | ⟨valid, _⟩
  · rw [result] at taken
    exact absurd taken bad
  · rw [result] at taken
    exact absurd taken bad
  · refine ⟨valid, ?_⟩
    rw [appendLocked_of_valid valid]

/-- An append the store refuses keeps the staging or cancels it. -/
theorem appendSlot_refused {slot offset : Nat} {data : List UInt8} {commitMs rearmMs : Int}
    (refused : (appendSlot cfg slot offset data nowMs commitMs rearmMs s).1 ≠ 0) :
    (appendSlot cfg slot offset data nowMs commitMs rearmMs s).2 = expireDue cfg nowMs s ∨
      (appendSlot cfg slot offset data nowMs commitMs rearmMs s).2 =
        cancelStaging (expireDue cfg nowMs s) := by
  unfold appendSlot at refused ⊢
  rcases appendLocked_cases cfg slot offset data commitMs rearmMs (expireDue cfg nowMs s) with
    ⟨err, _, result | result⟩ | ⟨valid, _⟩
  · rw [result]
    exact Or.inl rfl
  · rw [result]
    exact Or.inr rfl
  · rw [appendLocked_of_valid valid] at refused
    exact absurd rfl refused

theorem commit_slots (cfg : Config) (commitMs rearmMs : Int) (s : DynamicStore) :
    (commit cfg commitMs rearmMs s).slots = Function.update s.slots s.stagingSlot
      (committedSlot commitMs (s.slots s.stagingSlot) s) := rfl

/-! ## Operations that commit nothing -/

/-- The staging is kept or dropped, and every text is kept or removed. -/
structure Quiet (s s' : DynamicStore) : Prop where
  staging : s'.stagingOf = s.stagingOf ∨ s'.stagingActive = false
  slots : ∀ slot, s'.slots slot = s.slots slot ∨ (s'.slots slot).committedValid = false

theorem Quiet.refl (s : DynamicStore) : Quiet s s := ⟨Or.inl rfl, fun _ => Or.inl rfl⟩

theorem stagingOf_active : s.stagingOf.active = s.stagingActive := rfl

theorem Quiet.trans (first : Quiet s s') (second : Quiet s' s'') : Quiet s s'' := by
  constructor
  · rcases second.staging with kept | dropped
    · rcases first.staging with before | before
      · exact Or.inl (kept.trans before)
      · refine Or.inr ?_
        rw [← stagingOf_active, kept, stagingOf_active]
        exact before
    · exact Or.inr dropped
  · intro slot
    rcases second.slots slot with kept | removed
    · rw [kept]
      exact first.slots slot
    · exact Or.inr removed

theorem OnlyExpired.quiet {slots slots' : Nat → DynamicSlot}
    (expired : OnlyExpired nowMs slots slots') (slot : Nat) :
    slots' slot = slots slot ∨ (slots' slot).committedValid = false := by
  rcases expired slot with same | ⟨_, removed⟩
  · exact Or.inl same
  · rw [removed]
    exact Or.inr rfl

theorem expireDue_quiet (cfg : Config) (nowMs : Int) (s : DynamicStore) :
    Quiet s (expireDue cfg nowMs s) := by
  constructor
  · by_cases active : (expireDue cfg nowMs s).stagingActive = true
    · exact Or.inl (expireDue_staging active)
    · exact Or.inr (by simpa using active)
  · rw [expireDue_slots]
    exact (expiredSlots_onlyExpired cfg nowMs s).quiet

theorem cancelStaging_quiet (s : DynamicStore) : Quiet s (cancelStaging s) :=
  ⟨Or.inr rfl, fun _ => Or.inl rfl⟩

theorem rearmTtl_quiet (cfg : Config) (nowMs : Int) (s : DynamicStore) :
    Quiet s (rearmTtl cfg nowMs s) :=
  ⟨Or.inl rfl, fun _ => Or.inl rfl⟩

theorem clearCommitted_quiet (slot : Nat) (s : DynamicStore) : Quiet s (clearCommitted slot s) := by
  refine ⟨Or.inl rfl, fun other => ?_⟩
  unfold clearCommitted
  by_cases same : other = slot
  · subst same
    exact Or.inr (by simp [clearedSlot])
  · exact Or.inl (by simp [same])

theorem expireSlot_quiet (slot : Nat) (s : DynamicStore) : Quiet s (expireSlot slot s) := by
  unfold expireSlot
  dsimp only
  split
  · exact (clearCommitted_quiet slot s).trans (cancelStaging_quiet _)
  · exact clearCommitted_quiet slot s

theorem cancelStagingNow_quiet (cfg : Config) (nowMs : Int) (s : DynamicStore) :
    Quiet s (cancelStagingNow cfg nowMs s) :=
  (expireDue_quiet cfg nowMs s).trans (cancelStaging_quiet _)

theorem clearSlot_quiet (cfg : Config) (slot : Nat) (rearmMs : Int) (s : DynamicStore) :
    Quiet s (clearSlot cfg slot rearmMs s) := by
  unfold clearSlot
  split
  · exact Quiet.refl s
  · exact (expireSlot_quiet slot s).trans (rearmTtl_quiet cfg rearmMs _)

theorem clearAll_quiet (cfg : Config) (rearmMs : Int) (s : DynamicStore) :
    Quiet s (clearAll cfg rearmMs s) := by
  have cleared : ∀ (order : List Nat) (s : DynamicStore),
      Quiet s (order.foldl (fun s slot => clearCommitted slot s) s) := by
    intro order
    induction order with
    | nil => exact fun s => Quiet.refl s
    | cons slot order ih => exact fun s => (clearCommitted_quiet slot s).trans (ih _)
  unfold clearAll
  exact (cleared _ s).trans ((cancelStaging_quiet _).trans (rearmTtl_quiet cfg rearmMs _))

theorem ttlWorkHandler_quiet (cfg : Config) (nowMs rearmMs : Int) (s : DynamicStore) :
    Quiet s (ttlWorkHandler cfg nowMs rearmMs s) := by
  unfold ttlWorkHandler
  dsimp only
  split
  · exact (expireDue_quiet cfg nowMs s).trans (rearmTtl_quiet cfg rearmMs _)
  · exact rearmTtl_quiet cfg rearmMs s

theorem executeSlot_quiet (cfg : Config) (slot : Nat) (nowMs rearmMs scheduled : Int)
    (s : DynamicStore) (executor : Executor) :
    Quiet s (executeSlot cfg slot nowMs rearmMs scheduled s executor).2.1 := by
  have expired := expireDue_quiet cfg nowMs s
  unfold executeSlot
  dsimp only
  split
  · exact expired
  · split
    · exact expired
    · split
      · exact expired.trans ((clearCommitted_quiet slot _).trans (rearmTtl_quiet cfg rearmMs _))
      · exact expired

end RuntimeMacro.Source.DynamicStore
