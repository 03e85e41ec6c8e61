import RuntimeMacro.Source.DynamicCases

/-!
# The dynamic store without its texts

runtime_macro_dynamic.c:68-431. Two stores are veiled copies of each other when
they differ in the contents of their texts only. Every operation of
runtime_macro_dynamic.c keeps them so, with equal return codes: what a text
says decides nothing but the outcome of its execution.
-/
namespace RuntimeMacro.Source.DynamicStore

variable {cfg : Config} {nowMs : Int} {s s' s'' : DynamicStore}

/-- A slot without the bytes of its text. -/
def blankSlot (entry : DynamicSlot) : DynamicSlot := { entry with committed := [] }

/-- The store with the contents of its texts blanked, the committed ones and
the staged one. -/
def blank (s : DynamicStore) : DynamicStore :=
  { s with
    slots := fun slot => blankSlot (s.slots slot)
    staging := [] }

/-- Two stores that differ in the bytes of their texts only. -/
def Veiled (s s' : DynamicStore) : Prop := blank s = blank s'

/-- The store with other contents. -/
def retext (texts : Nat → List UInt8) (staging : List UInt8) (s : DynamicStore) : DynamicStore :=
  { s with
    slots := fun slot => { s.slots slot with committed := texts slot }
    staging := staging }

theorem Veiled.slot (veiled : Veiled s s') (slot : Nat) :
    blankSlot (s.slots slot) = blankSlot (s'.slots slot) :=
  congrFun (congrArg DynamicStore.slots veiled) slot

theorem Veiled.retext (veiled : Veiled s s') :
    ∃ texts staging, s' = s.retext texts staging := by
  refine ⟨fun slot => (s'.slots slot).committed, s'.staging, ?_⟩
  have slots : s'.slots = fun slot =>
      { s.slots slot with committed := (s'.slots slot).committed } := by
    funext slot
    have entry := veiled.slot slot
    unfold blankSlot at entry
    have restored := congrArg
      (fun entry => ({ entry with committed := (s'.slots slot).committed } : DynamicSlot)) entry
    exact restored.symm
  have restored := congrArg
    (fun blanked => ({ blanked with slots := s'.slots, staging := s'.staging } : DynamicStore))
    veiled
  unfold DynamicStore.retext
  rw [← slots]
  exact restored.symm

/-! ## What veiled copies share -/

theorem Veiled.active (veiled : Veiled s s') : s.stagingActive = s'.stagingActive := by
  obtain ⟨_, _, rfl⟩ := veiled.retext
  rfl

theorem Veiled.target (veiled : Veiled s s') : s.stagingSlot = s'.stagingSlot := by
  obtain ⟨_, _, rfl⟩ := veiled.retext
  rfl

theorem Veiled.expected (veiled : Veiled s s') :
    s.stagingExpectedLength = s'.stagingExpectedLength := by
  obtain ⟨_, _, rfl⟩ := veiled.retext
  rfl

theorem Veiled.received (veiled : Veiled s s') : s.stagingReceived = s'.stagingReceived := by
  obtain ⟨_, _, rfl⟩ := veiled.retext
  rfl

theorem Veiled.generations (veiled : Veiled s s') :
    s.ttlWorkGeneration = s'.ttlWorkGeneration ∧ s.ttlGeneration = s'.ttlGeneration := by
  obtain ⟨_, _, rfl⟩ := veiled.retext
  exact ⟨rfl, rfl⟩

theorem Veiled.valid (veiled : Veiled s s') (slot : Nat) :
    (s.slots slot).committedValid = (s'.slots slot).committedValid := by
  obtain ⟨_, _, rfl⟩ := veiled.retext
  rfl

theorem Veiled.length (veiled : Veiled s s') (slot : Nat) :
    (s.slots slot).committedLength = (s'.slots slot).committedLength := by
  obtain ⟨_, _, rfl⟩ := veiled.retext
  rfl

theorem Veiled.policy (veiled : Veiled s s') (slot : Nat) :
    (s.slots slot).committedConsumeOnAccept = (s'.slots slot).committedConsumeOnAccept := by
  obtain ⟨_, _, rfl⟩ := veiled.retext
  rfl

theorem Veiled.due (veiled : Veiled s s') (slot : Nat) :
    due nowMs (s.slots slot) = due nowMs (s'.slots slot) := by
  obtain ⟨_, _, rfl⟩ := veiled.retext
  rfl

/-! ## The operations -/

theorem Veiled.cancelStaging (veiled : Veiled s s') :
    Veiled (cancelStaging s) (cancelStaging s') := by
  obtain ⟨_, _, rfl⟩ := veiled.retext
  rfl

theorem Veiled.rearmTtl (veiled : Veiled s s') :
    Veiled (rearmTtl cfg nowMs s) (rearmTtl cfg nowMs s') := by
  obtain ⟨_, _, rfl⟩ := veiled.retext
  rfl

/-- Entries that agree but for their texts replace a slot in both stores. -/
theorem Veiled.update (veiled : Veiled s s') {slot : Nat} {entry entry' : DynamicSlot}
    (same : blankSlot entry = blankSlot entry') :
    Veiled { s with slots := Function.update s.slots slot entry }
      { s' with slots := Function.update s'.slots slot entry' } := by
  have slots : (fun other => blankSlot (Function.update s.slots slot entry other)) =
      fun other => blankSlot (Function.update s'.slots slot entry' other) := by
    funext other
    by_cases here : other = slot
    · subst here
      simp only [Function.update_self]
      exact same
    · simp only [Function.update_of_ne here]
      exact veiled.slot other
  have replaced := congrArg (fun blanked => ({ blanked with
    slots := fun other => blankSlot (Function.update s.slots slot entry other) } : DynamicStore))
    veiled
  unfold Veiled blank at replaced ⊢
  dsimp only at replaced ⊢
  rw [← slots]
  exact replaced

theorem Veiled.clearCommitted (veiled : Veiled s s') (slot : Nat) :
    Veiled (clearCommitted slot s) (clearCommitted slot s') := by
  apply veiled.update
  obtain ⟨_, _, rfl⟩ := veiled.retext
  rfl

theorem Veiled.expireSlot (veiled : Veiled s s') (slot : Nat) :
    Veiled (expireSlot slot s) (expireSlot slot s') := by
  have cleared := veiled.clearCommitted slot
  unfold DynamicStore.expireSlot
  dsimp only
  rw [cleared.active, cleared.target]
  split
  · exact cleared.cancelStaging
  · exact cleared

theorem Veiled.expireDue (veiled : Veiled s s') :
    Veiled (expireDue cfg nowMs s) (expireDue cfg nowMs s') := by
  unfold DynamicStore.expireDue
  generalize List.range cfg.dynamicSlotCount = order
  induction order generalizing s s' with
  | nil => exact veiled
  | cons slot order ih =>
    rw [List.foldl_cons, List.foldl_cons]
    apply ih
    rw [veiled.due slot]
    split
    · exact veiled.expireSlot slot
    · exact veiled

theorem Veiled.cancelStagingNow (veiled : Veiled s s') :
    Veiled (cancelStagingNow cfg nowMs s) (cancelStagingNow cfg nowMs s') :=
  veiled.expireDue.cancelStaging

theorem Veiled.clearSlot (veiled : Veiled s s') (slot : Nat) (rearmMs : Int) :
    Veiled (clearSlot cfg slot rearmMs s) (clearSlot cfg slot rearmMs s') := by
  unfold DynamicStore.clearSlot
  split
  · exact veiled
  · exact (veiled.expireSlot slot).rearmTtl

theorem Veiled.clearAll (veiled : Veiled s s') (rearmMs : Int) :
    Veiled (clearAll cfg rearmMs s) (clearAll cfg rearmMs s') := by
  unfold DynamicStore.clearAll
  dsimp only
  generalize List.range cfg.dynamicSlotCount = order
  induction order generalizing s s' with
  | nil => exact veiled.cancelStaging.rearmTtl
  | cons slot order ih =>
    rw [List.foldl_cons, List.foldl_cons]
    exact ih (veiled.clearCommitted slot)

theorem Veiled.ttlWorkHandler (veiled : Veiled s s') (rearmMs : Int) :
    Veiled (ttlWorkHandler cfg nowMs rearmMs s) (ttlWorkHandler cfg nowMs rearmMs s') := by
  unfold DynamicStore.ttlWorkHandler
  rw [veiled.generations.1, veiled.generations.2]
  dsimp only
  split
  · exact veiled.expireDue.rearmTtl
  · exact veiled.rearmTtl

theorem Veiled.beginSlot (veiled : Veiled s s') (cfg : Config) (slot totalLength ttlSeconds : Nat)
    (consumeOnAccept : Bool) (nowMs : Int) :
    (beginSlot cfg slot totalLength ttlSeconds consumeOnAccept nowMs s).1 =
      (beginSlot cfg slot totalLength ttlSeconds consumeOnAccept nowMs s').1 ∧
    Veiled (beginSlot cfg slot totalLength ttlSeconds consumeOnAccept nowMs s).2
      (beginSlot cfg slot totalLength ttlSeconds consumeOnAccept nowMs s').2 := by
  have expired : Veiled (DynamicStore.expireDue cfg nowMs s)
      (DynamicStore.expireDue cfg nowMs s') := veiled.expireDue
  unfold DynamicStore.beginSlot beginLocked
  split
  · exact ⟨rfl, expired.cancelStaging⟩
  · obtain ⟨_, _, same⟩ := expired.retext
    rw [same]
    exact ⟨rfl, rfl⟩

theorem Veiled.commit (veiled : Veiled s s') (rearmMs : Int) :
    Veiled (commit cfg nowMs rearmMs s) (commit cfg nowMs rearmMs s') := by
  have entries : blankSlot (committedSlot nowMs (s.slots s.stagingSlot) s) =
      blankSlot (committedSlot nowMs (s'.slots s.stagingSlot) s') := by
    obtain ⟨_, _, rfl⟩ := veiled.retext
    rfl
  unfold DynamicStore.commit
  dsimp only
  rw [← veiled.target]
  exact (veiled.update entries).cancelStaging.rearmTtl

/-- Two chunks of one length, both of accepted bytes or both not. -/
structure ChunksAlike (data data' : List UInt8) : Prop where
  length : data.length = data'.length
  alphabet : data.all Ascii.byteIsValid = data'.all Ascii.byteIsValid

theorem Veiled.appendLocked (veiled : Veiled s s') {data data' : List UInt8}
    (alike : ChunksAlike data data') (slot offset : Nat) (commitMs rearmMs : Int) :
    (appendLocked cfg slot offset data commitMs rearmMs s).1 =
      (appendLocked cfg slot offset data' commitMs rearmMs s').1 ∧
    Veiled (appendLocked cfg slot offset data commitMs rearmMs s).2
      (appendLocked cfg slot offset data' commitMs rearmMs s').2 := by
  have cancelled := veiled.cancelStaging
  unfold DynamicStore.appendLocked
  dsimp only
  rw [veiled.active, veiled.target, veiled.expected, veiled.received, alike.length, alike.alphabet]
  split
  · exact ⟨rfl, veiled⟩
  · split
    · exact ⟨rfl, cancelled⟩
    · split
      · exact ⟨rfl, cancelled⟩
      · split
        · exact ⟨rfl, cancelled⟩
        · split
          · refine ⟨rfl, Veiled.commit ?_ rearmMs⟩
            obtain ⟨_, _, rfl⟩ := veiled.retext
            rfl
          · refine ⟨rfl, ?_⟩
            obtain ⟨_, _, rfl⟩ := veiled.retext
            rfl

theorem Veiled.appendSlot (veiled : Veiled s s') {data data' : List UInt8}
    (alike : ChunksAlike data data') (slot offset : Nat) (commitMs rearmMs : Int) :
    (appendSlot cfg slot offset data nowMs commitMs rearmMs s).1 =
      (appendSlot cfg slot offset data' nowMs commitMs rearmMs s').1 ∧
    Veiled (appendSlot cfg slot offset data nowMs commitMs rearmMs s).2
      (appendSlot cfg slot offset data' nowMs commitMs rearmMs s').2 :=
  veiled.expireDue.appendLocked alike slot offset commitMs rearmMs

/-- An execution with the same outcome does the same to both stores, whatever
the executors were busy with. -/
theorem Veiled.executeSlot (veiled : Veiled s s') {slot : Nat} {rearmMs : Int}
    {scheduled scheduled' result : Int} {executor executor' after after' : Executor}
    {t t' : DynamicStore}
    (executed : executeSlot cfg slot nowMs rearmMs scheduled s executor = (result, t, after))
    (executed' : executeSlot cfg slot nowMs rearmMs scheduled' s' executor' =
      (result, t', after')) :
    Veiled t t' := by
  have expired : Veiled (DynamicStore.expireDue cfg nowMs s)
      (DynamicStore.expireDue cfg nowMs s') := veiled.expireDue
  unfold DynamicStore.executeSlot at executed executed'
  dsimp only at executed executed'
  generalize DynamicStore.expireDue cfg nowMs s = u at executed expired
  generalize DynamicStore.expireDue cfg nowMs s' = u' at executed' expired
  rw [← expired.valid, ← expired.length, ← expired.policy] at executed'
  split at executed
  next invalid =>
    rw [if_pos invalid] at executed'
    cases executed
    cases executed'
    exact expired
  next valid =>
    rw [if_neg valid] at executed'
    split at executed
    next empty =>
      rw [if_pos empty] at executed'
      cases executed
      cases executed'
      exact expired
    next filled =>
      rw [if_neg filled] at executed'
      -- The result tells whether the executor took the text, the policy whether it goes.
      split at executed
      next consumed =>
        simp only [Prod.mk.injEq] at executed
        obtain ⟨answer, rfl, _⟩ := executed
        split at executed'
        next =>
          simp only [Prod.mk.injEq] at executed'
          obtain ⟨_, rfl, _⟩ := executed'
          exact (expired.clearCommitted slot).rearmTtl
        next kept =>
          simp only [Prod.mk.injEq] at executed'
          exact absurd ⟨executed'.1.trans (answer.symm.trans consumed.1), consumed.2⟩ kept
      next kept =>
        simp only [Prod.mk.injEq] at executed
        obtain ⟨answer, rfl, _⟩ := executed
        split at executed'
        next consumed =>
          simp only [Prod.mk.injEq] at executed'
          exact absurd ⟨answer.trans (executed'.1.symm.trans consumed.1), consumed.2⟩ kept
        next =>
          simp only [Prod.mk.injEq] at executed'
          obtain ⟨_, rfl, _⟩ := executed'
          exact expired

end RuntimeMacro.Source.DynamicStore
