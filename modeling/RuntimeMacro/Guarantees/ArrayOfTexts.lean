import RuntimeMacro.Guarantees.ClientCommits
import RuntimeMacro.Guarantees.UsbLink
import RuntimeMacro.Source.Pages
import RuntimeMacro.Source.SlotArray

/-!
# Over USB the keyboard is an array of texts

tools/runtime_macro_cli.py:1103-1244; docs/CLI.md:318-380. Any program over the
slots that ends normally has seen and left what an array of texts would have
shown it and become, whatever was lost, delayed and sent again on the way. A
program that an exception ends has left the array as it was between two of its
calls.
-/
namespace RuntimeMacro.Guarantees.ArrayOfTexts
open Source Source.Protocol Source.RuntimeMacroClient Foundations.Links Foundations.Runs
open Foundations.Dialogues Foundations.Dialogues.Dialogue Foundations.Dialogues.Procedure
open ChunkTransactions ClientCommits
open SlotStore (textOf Sized)
open UsbHid (Transport Bus AtRest resting usbContext)
open AuthCore (Hmac)

variable {cfg : Config} {hmac : Hmac} {id : ContextId} {texts texts' : SlotTexts} {s s' : Station}
  {t t' : Delayed Station Frame × Talk} {opcode : Opcode} {name : String} {slot offset : Nat}
  {data object : List UInt8} {next : UInt8} {α : Type}

/-- The slots of the station hold these texts. -/
structure Stands (cfg : Config) (texts : SlotTexts) (s : Station) : Prop where
  sized : Sized cfg s.world.slots
  spelled : SlotStore.Spelled s.world.slots
  holds : textOf s.world.slots = texts

theorem Stands.kept (stands : Stands cfg texts s) (same : s'.world.slots = s.world.slots) :
    Stands cfg texts s' := by
  obtain ⟨sized, spelled, holds⟩ := stands
  rw [← same] at sized spelled holds
  exact ⟨sized, spelled, holds⟩

theorem Stands.replaced (stands : Stands cfg texts s) (fits : data.length ≤ cfg.maxTextLen)
    (alphabet : SlotStore.textIsValid data = true)
    (same : s'.world.slots = s.world.slots.slotReplace slot data) :
    Stands cfg (Function.update texts slot data) s' := by
  refine ⟨by rw [same]; exact stands.sized.slotReplace slot fits,
    by rw [same]; exact stands.spelled.slotReplace alphabet slot, ?_⟩
  funext other
  rw [same]
  by_cases target : other = slot
  · rw [target, SlotStore.textOf_slotReplace, Function.update_self]
  · rw [SlotStore.textOf_slotReplace_of_ne target, Function.update_of_ne target, stands.holds]

theorem Stands.erased (stands : Stands cfg texts s)
    (same : s'.world.slots = s.world.slots.slotErase cfg slot) :
    Stands cfg (Function.update texts slot []) s' := by
  refine ⟨by rw [same]; exact stands.sized.slotErase slot,
    by rw [same]; exact stands.spelled.slotErase slot, ?_⟩
  funext other
  rw [same]
  by_cases target : other = slot
  · rw [target, Function.update_self]
    simp [textOf, SlotStore.slotErase]
  · rw [Function.update_of_ne target, ← stands.holds]
    simp [textOf, SlotStore.slotErase, target]

/-- The array before an update, or after it. -/
def Torn (cfg : Config) (texts texts' : SlotTexts) (s : Station) : Prop :=
  Stands cfg texts s ∨ Stands cfg texts' s

theorem Torn.kept (torn : Torn cfg texts texts' s) (same : s'.world.slots = s.world.slots) :
    Torn cfg texts texts' s' :=
  torn.imp (fun stands => stands.kept same) fun stands => stands.kept same

/-- The same update, whether it has been made already or not. -/
theorem Torn.updated (torn : Torn cfg texts (Function.update texts slot data) s)
    (each : ∀ {texts}, Stands cfg texts s → Stands cfg (Function.update texts slot data) s') :
    Stands cfg (Function.update texts slot data) s' := by
  rcases torn with stands | stands
  · exact each stands
  · have again := each stands
    rw [Function.update_idem] at again
    exact again

theorem rested_slots (rested : Station.Rests cfg hmac s s') : s'.world.slots = s.world.slots :=
  (rests_quietKept (.single rested)).slots

/-- No request is on its way, and the next id is fresh. -/
structure Waiting (cfg : Config) (texts : SlotTexts) (next : UInt8)
    (t : Delayed Station Frame × Talk) : Prop where
  pending : t.1.pending = []
  keyed : next = t.1.key + 1
  stands : Stands cfg texts t.1.state

theorem Waiting.guarded (waiting : Waiting cfg texts next t) {Sends Opens : Frame → Prop}
    {Sound Mine : Station → Prop} (sound : Sound t.1.state) :
    Guarded Sends Opens Sound Mine t.1 := by
  refine ⟨sound, ?_, Or.inr ?_⟩
  · simp [waiting.pending]
  · simp [waiting.pending]

/-! ## Reading -/

theorem pageTransaction (cfg : Config) (hmac : Hmac) (id : ContextId) (texts : SlotTexts)
    (paged : opcode = .list ∨ opcode = .get) :
    Transaction (device cfg hmac id) (fun request => baseCheck request = .ok opcode)
      (fun _ => True) (Stands cfg texts) (fun _ => True) := by
  constructor
  · intro s s' rested
    exact ⟨fun stands => stands.kept (rested_slots rested), fun _ => trivial⟩
  · rintro s request response s' ⟨env, w', _, step, rfl⟩ passed stands _
    refine ⟨stands.kept ?_, fun _ => trivial⟩
    have same := pageFrame_slots cfg hmac env id paged passed s.world
    rw [step.result] at same
    exact same

/-- A page comes from an array that has not changed: requests that wait from
before are older than this call, and whatever they did is done when it
starts. -/
theorem meets_pageCall (paged : opcode = .list ∨ opcode = .get) (small : slot ≤ 0xFF)
    (fits : object.length < 65536) (inside : offset ≤ object.length)
    (carried : ∀ {s : Station} {env request data place total}, Stands cfg texts s →
      request.slot.toNat = slot → Carries cfg env s.world request opcode data place total →
      data = pageOf object request.offset ∧ place = request.offset ∧ total = object.length)
    (retries : Nat) (waiting : Waiting cfg texts next t) :
    (callWithTimeoutRetry retries fun id => buildFrame opcode id slot [] offset 0).Meets
      (link cfg hmac id)
      (fun response next' t' => Waiting cfg texts next' t' ∧ ∃ request,
        response = okFrame request (pageOf object offset) offset object.length)
      (fun _ _ t' => Stands cfg texts t'.1.state) next t := by
  have transaction := pageTransaction cfg hmac id texts paged
  apply meets_attempts fun next (t : Delayed Station Frame × Talk) =>
    Guarded (fun request => baseCheck request = .ok opcode) (fun _ => True) (Stands cfg texts)
      (fun _ => True) t.1 ∧ next = t.1.key + 1
  · rintro next t ⟨guarded, keyed⟩
    have built : buildFrame opcode next slot [] offset 0 =
        .ok (pageRequest opcode next slot offset) :=
      buildFrame_ok opcode next small (by simp) (by omega) (by omega)
    have passed := baseCheck_pageRequest opcode next slot offset
    have identified : (pageRequest opcode next slot offset).requestId = next :=
      Frame.requestId_build ..
    have aimed : (pageRequest opcode next slot offset).slot.toNat = slot := by
      rw [pageRequest, Frame.slot_build, UInt8.toNat_ofNat']
      omega
    have placed : (pageRequest opcode next slot offset).offset = offset :=
      Frame.offset_build _ _ _ _ _ _ (by omega)
    rw [meets_bind, meets_requestId, meets_bind]
    dsimp only
    rw [built, meets_fromExcept_ok]
    generalize pageRequest opcode next slot offset = request at passed identified aimed placed
    have fresh : Keyed request.requestId t.1 := Or.inl (identified.trans keyed)
    apply (meets_sent transaction guarded fresh trivial passed passed (Or.inr trivial)).mono
    · rintro response next' t' ⟨rfl, still, before, after, acknowledged⟩
      have ready : next + 1 = t'.1.key + 1 := by rw [acknowledged.key, identified]
      refine ⟨⟨acknowledged.served.pending, ready, still.sound⟩, request, ?_⟩
      obtain ⟨env, w', step, _⟩ := served_last acknowledged.served
      rcases processFrame_forms passed step.result with
        ⟨status, bad, rfl⟩ | ⟨data, place, total, _, _, _, carries, rfl⟩
      · have success := acknowledged.status
        rw [status_errorFrame, Status.code_inj] at success
        exact absurd success bad
      · obtain ⟨rfl, rfl, rfl⟩ := carried acknowledged.served.sound aimed carries
        rw [placed]
    · rintro error next' t' ⟨rfl, still, key, _⟩
      exact ⟨still.sound, fun _ => ⟨still, by rw [key, identified]⟩⟩
  · exact ⟨waiting.guarded waiting.stands, waiting.keyed⟩

theorem validateSlot_le (ranged : validateSlot slot = .ok ()) : slot ≤ 0xFE := by
  by_contra large
  rw [validateSlot, if_neg large] at ranged
  cases ranged

/-- The pages put together are the text of the slot, and the array is as it
was. -/
theorem meets_getSlot (retries slot : Nat) (waiting : Waiting cfg texts next t) :
    (getSlot retries slot).Meets (link cfg hmac id)
      (fun found next' t' => found = texts slot ∧ Waiting cfg texts next' t')
      (fun _ _ t' => Stands cfg texts t'.1.state) next t := by
  have fits : (texts slot).length < 65536 := by
    have length := textOf_length waiting.stands.sized slot
    have small := length_le_of_sized waiting.stands.sized slot
    rw [waiting.stands.holds] at length
    omega
  unfold getSlot
  rw [meets_bind]
  apply meets_fromExcept_of _ fun _ _ => waiting.stands
  intro _ ranged
  have small := validateSlot_le ranged
  rw [meets_bind]
  apply (meets_numberedPages fits _ (by simp) (Nat.zero_le _) [] waiting).mono _
    fun _ _ _ left => left
  · intro offset next t inside waiting
    apply meets_pageCall (Or.inr rfl) (by omega) fits inside _ retries waiting
    intro s env request data place total stands aimed carries
    obtain ⟨page, same, whole⟩ := carries_get carries
    rw [aimed, stands.holds] at page whole
    exact ⟨page, same, whole⟩
  · rintro found next' t' ⟨waiting', rfl⟩
    have spelled := decodeText_textOf waiting'.stands.spelled slot
    rw [waiting'.stands.holds] at spelled
    dsimp only
    rw [List.nil_append, List.drop_zero, spelled, meets_fromExcept_ok]
    exact ⟨rfl, waiting'⟩

theorem listObject_congr (stands : Stands cfg texts s) (stands' : Stands cfg texts s') :
    listObject cfg s.world.slots = listObject cfg s'.world.slots := by
  have same : ∀ slot, (s.world.slots.slots slot).length = (s'.world.slots.slots slot).length := by
    intro slot
    rw [← textOf_length stands.sized, ← textOf_length stands'.sized, stands.holds, stands'.holds]
  have bytes : lengthBytes s.world.slots = lengthBytes s'.world.slots := by
    funext slot
    unfold lengthBytes
    rw [same]
  rw [listObject, listObject, bytes]

/-- The pages put together are the lengths of all texts, and the array is as it
was. -/
theorem meets_listSlots (retries : Nat) (waiting : Waiting cfg texts next t) :
    (listSlots retries).Meets (link cfg hmac id)
      (fun found next' t' => found = ((List.range cfg.slotCount).map fun slot =>
        ⟨slot, (texts slot).length⟩) ∧ Waiting cfg texts next' t')
      (fun _ _ t' => Stands cfg texts t'.1.state) next t := by
  have stands := waiting.stands
  have fits := (Reads.list.small stands.sized).1
  unfold listSlots
  rw [meets_bind]
  apply (meets_numberedPages fits _ (by simp) (Nat.zero_le _) [] waiting).mono _
    fun _ _ _ left => left
  · intro offset next t inside waiting
    apply meets_pageCall (Or.inl rfl) (by decide) fits inside _ retries waiting
    intro s env request data place total stands' _ carries
    rw [listObject_congr stands stands']
    exact carries_list carries
  · rintro found next' t' ⟨waiting', rfl⟩
    dsimp only
    rw [List.nil_append, List.drop_zero, decodeSlots_listObject (length_le_of_sized stands.sized),
      meets_fromExcept_ok]
    refine ⟨?_, waiting'⟩
    simp only [← stands.holds, textOf_length stands.sized]

/-! ## Writing -/

/-- What a frame of the call does to the slots, and whether storage has
accepted it: nothing, or exactly the text of the call in its slot. -/
theorem static_effect {moment : Moment World Exchange} (only : StaticOnly cfg slot data moment) :
    (moment.after.slots = moment.before.slots ∧
      moment.after.calls ≠ moment.before.calls ++ [.slotSet slot data 0]) ∨
    (data.length ≤ cfg.maxTextLen ∧ SlotStore.textIsValid data = true ∧
      moment.after.slots = moment.before.slots.slotReplace slot data) := by
  rcases only.static with ⟨calls, same⟩ | ⟨place, text, err, ⟨aimed, sent⟩, calls, set⟩
  · exact Or.inl ⟨same, by simp [calls]⟩
  · rw [aimed, sent] at calls set
    rcases SlotStore.slotSet_cases cfg slot data data.length moment.event.env.saveErr
      moment.before.slots moment.before.settings with refused | ⟨_, fits, alphabet, accepted⟩
    · rw [refused, Prod.mk.injEq, Prod.mk.injEq] at set
      refine Or.inl ⟨set.2.1.symm, ?_⟩
      rw [calls, ← set.1]
      simp [einval]
    · rw [accepted, Prod.mk.injEq, Prod.mk.injEq, List.take_length] at set
      rw [List.take_length] at alphabet
      exact Or.inr ⟨fits, alphabet, set.2.1.symm⟩

/-- The frames of a SET call as a transaction: until its commit the array is
the old one or has the new text already, as a commit whose answer was lost
leaves it. -/
theorem writeTransaction (cfg : Config) (hmac : Hmac) (id : ContextId) (texts : SlotTexts)
    (slot : Nat) (data : List UInt8) :
    Transaction (device cfg hmac id)
      (fun request => ∃ offset, ChunkOf .set slot data offset request)
      (fun request => request.offset = 0) (Torn cfg texts (Function.update texts slot data))
      (fun s => Owned id slot data s.world) := by
  constructor
  · intro s s' rested
    exact ⟨fun torn => torn.kept (rested_slots rested),
      ((setTransaction cfg hmac id slot data).rested rested).2⟩
  · rintro s request response s' ⟨env, w', _, step, rfl⟩ ⟨offset, chunk⟩ torn before
    obtain ⟨mine, only, _⟩ := setChunk_step chunk before step
    refine ⟨?_, fun _ => mine⟩
    rcases static_effect only with ⟨same, _⟩ | ⟨fits, alphabet, replaced⟩
    · exact torn.kept same
    · exact Or.inr (torn.updated fun stands => stands.replaced fits alphabet replaced)

/-- The last chunk found no request behind it and has stored the text, so the
array is the new one. -/
theorem write_done {requestId : UInt8} {request response : Frame} {before after : Station}
    (acknowledged : ChunkAcknowledged cfg hmac id (fun request => request.offset = 0)
      (Torn cfg texts (Function.update texts slot data)) (fun s => Owned id slot data s.world)
      .set slot data requestId offset t t' request response before after) :
    Owned id slot data t'.1.state.world ∧ (offset + request.payloadLength = data.length →
      t'.1.pending = [] ∧ Stands cfg (Function.update texts slot data) t'.1.state) := by
  obtain ⟨chunk, ⟨status, _, served, _⟩, _⟩ := acknowledged
  obtain ⟨env, w', _, step, left⟩ := served.serves
  obtain ⟨owned, only, stored⟩ := setChunk_step chunk served.covered step
  have transaction := writeTransaction cfg hmac id texts slot data
  have world : after.world = w' := by rw [left]; rfl
  have quiet := rests_quietKept served.rested
  constructor
  · rw [← world] at owned
    exact (transaction.rests served.rested).2 owned
  · intro whole
    refine ⟨served.pending, ?_⟩
    rcases static_effect only with ⟨_, refused⟩ | ⟨fits, alphabet, replaced⟩
    · exact absurd (stored status whole).1 refused
    · apply served.sound.updated
      intro texts stands
      apply stands.replaced fits alphabet
      rw [quiet.slots, world]
      exact replaced

theorem meets_setSlot (retries slot : Nat) (data : List UInt8)
    (waiting : Waiting cfg texts next t) :
    (setSlot retries slot data).Meets (link cfg hmac id)
      (fun _ next' t' => Waiting cfg (Function.update texts slot data) next' t')
      (fun _ _ t' => Torn cfg texts (Function.update texts slot data) t'.1.state) next t := by
  have transaction := writeTransaction cfg hmac id texts slot data
  apply (meets_setTransaction transaction (fun acknowledged => write_done acknowledged) retries
    (waiting.guarded (Or.inl waiting.stands)) waiting.keyed).mono
  · rintro _ next' t' ⟨keyed, _, pending, stands⟩
    exact ⟨pending, keyed, stands⟩
  · intro _ _ _ torn
    exact torn

/-! ## Clearing -/

/-- A CLEAR erases the slot it names, or is refused. RAM is erased even if
storage then fails. -/
theorem clearFrame_slots {env : Env} {request : Frame} (passed : baseCheck request = .ok .clear)
    (w : World) :
    ((processFrame cfg hmac env id request w).2.slots = w.slots ∧
      (processFrame cfg hmac env id request w).1.status ≠ Status.ok.code) ∨
    (processFrame cfg hmac env id request w).2.slots =
      w.slots.slotErase cfg request.slot.toNat := by
  have synced := syncAuthState_slots cfg env id w
  have whole : processFrame cfg hmac env id request w = processManagement cfg env id
      (processClear cfg env request (Frame.initResponse (some request)))
      (Frame.initResponse (some request)) (syncAuthState cfg env id w) := by
    simp only [processFrame, passed, dispatch]
  rw [whole]
  obtain ⟨auth, _, ⟨_, _, _, shut⟩ | ⟨_, _, granted⟩⟩ := processManagement_cases cfg env id
    (processClear cfg env request (Frame.initResponse (some request)))
    (Frame.initResponse (some request)) (syncAuthState cfg env id w)
  · rw [shut]
    refine Or.inl ⟨synced, ?_⟩
    rw [Frame.status_setError, ne_eq, Status.code_inj]
    exact gateStatus_ne_ok _
  · rw [granted]
    rcases processClear_cases cfg env request (Frame.initResponse (some request))
      ((syncAuthState cfg env id w).withAuth auth) with ⟨status, bad, _, result⟩ | ⟨_, result⟩
    · have refused : ((Frame.initResponse (some request)).setError status).status ≠
          Status.ok.code := by
        rw [Frame.status_setError, ne_eq, Status.code_inj]
        exact bad
      rw [result, afterHandler, if_neg refused]
      exact Or.inl ⟨synced, refused⟩
    · rw [afterHandler_slots, result, ← synced]
      exact Or.inr rfl

theorem clearTransaction (cfg : Config) (hmac : Hmac) (id : ContextId) (texts : SlotTexts)
    (slot : Nat) :
    Transaction (device cfg hmac id)
      (fun request => baseCheck request = .ok .clear ∧ request.slot.toNat = slot) (fun _ => True)
      (Torn cfg texts (Function.update texts slot [])) (fun _ => True) := by
  constructor
  · intro s s' rested
    exact ⟨fun torn => torn.kept (rested_slots rested), fun _ => trivial⟩
  · rintro s request response s' ⟨env, w', _, step, rfl⟩ ⟨passed, rfl⟩ torn _
    refine ⟨?_, fun _ => trivial⟩
    have effect := @clearFrame_slots cfg hmac id env request passed s.world
    rw [step.result] at effect
    rcases effect with ⟨same, _⟩ | erased
    · exact torn.kept same
    · exact Or.inr (torn.updated fun stands => stands.erased erased)

/-- A CLEAR that is answered has emptied its slot. One whose answer was lost
may have, which a second one repeats. -/
theorem meets_clearSlot (retries slot : Nat) (waiting : Waiting cfg texts next t) :
    (clearSlot retries slot).Meets (link cfg hmac id)
      (fun _ next' t' => Waiting cfg (Function.update texts slot []) next' t')
      (fun _ _ t' => Torn cfg texts (Function.update texts slot []) t'.1.state) next t := by
  have transaction := clearTransaction cfg hmac id texts slot
  have unsent : Torn cfg texts (Function.update texts slot []) t.1.state := Or.inl waiting.stands
  unfold clearSlot
  rw [meets_bind]
  apply meets_fromExcept_of _ fun _ _ => unsent
  intro _ ranged
  have small : slot ≤ 0xFE := validateSlot_le ranged
  apply meets_attempts fun next (t : Delayed Station Frame × Talk) =>
    Guarded (fun request => baseCheck request = .ok .clear ∧ request.slot.toNat = slot)
      (fun _ => True) (Torn cfg texts (Function.update texts slot [])) (fun _ => True) t.1 ∧
      next = t.1.key + 1
  · rintro next t ⟨guarded, keyed⟩
    have built := buildFrame_ok .clear next (by omega : slot ≤ 0xFF)
      (by decide : ([] : List UInt8).length ≤ payloadSize) (by decide : 0 ≤ 0xFFFF)
      (by decide : 0 ≤ 0xFFFF)
    have passed := baseCheck_build .clear next (UInt8.ofNat slot) 0 0 [] (by decide)
    have identified := Frame.requestId_build .clear next (UInt8.ofNat slot) 0 0 []
    have aimed : (Frame.build .clear next (UInt8.ofNat slot) 0 0 []).slot.toNat = slot := by
      rw [Frame.slot_build, UInt8.toNat_ofNat']
      omega
    rw [meets_bind, meets_requestId, meets_bind, built, meets_fromExcept_ok, meets_bind]
    generalize Frame.build .clear next (UInt8.ofNat slot) 0 0 [] = request
      at passed identified aimed
    have fresh : Keyed request.requestId t.1 := Or.inl (identified.trans keyed)
    apply (meets_sent transaction guarded fresh trivial passed ⟨passed, aimed⟩
      (Or.inr trivial)).mono
    · rintro response next' t' ⟨rfl, still, before, after, acknowledged⟩
      have ready : next + 1 = t'.1.key + 1 := by rw [acknowledged.key, identified]
      apply meets_require_of _ fun _ => ⟨still.sound, fun _ => ⟨still, ready⟩⟩
      refine ⟨acknowledged.served.pending, ready, ?_⟩
      obtain ⟨env, w', step, quiet, _⟩ := served_last acknowledged.served
      have effect := @clearFrame_slots cfg hmac id env request passed before.world
      rw [step.result, aimed] at effect
      rcases effect with ⟨_, refused⟩ | erased
      · exact absurd acknowledged.status refused
      · exact acknowledged.served.sound.updated fun stands =>
          stands.erased (quiet.slots.trans erased)
    · rintro error next' t' ⟨rfl, still, key, _⟩
      exact ⟨still.sound, fun _ => ⟨still, by rw [key, identified]⟩⟩
  · exact ⟨waiting.guarded unsent, waiting.keyed⟩

/-! ## Programs -/

/-- The methods of the client answer as an array of texts: one case for each
operation, by what was shown of its method. -/
theorem slotCalls_implement (cfg : Config) (hmac : Hmac) (id : ContextId) (retries : Nat) :
    Implements (link cfg hmac id) (SlotCall.client retries) (SlotTexts.Answers cfg) (Waiting cfg)
      fun texts t => Stands cfg texts t.1.state := by
  constructor
  intro texts call next t waiting
  cases call with
  | list =>
    rw [SlotCall.client, meets_bind]
    apply (meets_listSlots retries waiting).mono
    · rintro infos next' t' ⟨rfl, waiting'⟩
      exact ⟨texts, rfl, waiting'⟩
    · intro _ _ _ stands
      exact Or.inl stands
  | get slot =>
    rw [SlotCall.client, meets_bind]
    apply (meets_getSlot retries slot waiting).mono
    · rintro data next' t' ⟨rfl, waiting'⟩
      exact ⟨texts, rfl, waiting'⟩
    · intro _ _ _ stands
      exact Or.inl stands
  | set slot data =>
    rw [SlotCall.client, meets_bind]
    apply (meets_setSlot retries slot data waiting).mono
    · intro _ next' t' waiting'
      exact ⟨_, rfl, waiting'⟩
    · intro _ _ _ torn
      exact torn.imp_right fun stands => ⟨_, _, rfl, stands⟩
  | clear slot =>
    rw [SlotCall.client, meets_bind]
    apply (meets_clearSlot retries slot waiting).mono
    · intro _ next' t' waiting'
      exact ⟨_, rfl, waiting'⟩
    · intro _ _ _ torn
      exact torn.imp_right fun stands => ⟨_, _, rfl, stands⟩

/-- A program over the slots that is run over USB sees and leaves what an array
of texts would have shown it; if an exception ends it, the slots are as the
array was before one of its calls. -/
theorem usb_is_array_of_texts (cfg : Config) (hmac : Hmac) (timeoutMs : Int) (retries : Nat)
    (s : Transport) (issued : Nat) (next : UInt8) (rest : AtRest s)
    (reachable : Reachable cfg hmac s.world)
    (program : Dialogue SlotCall SlotAnswer α) (talk : Talk)
    (outcome : Except ClientError α × UInt8) (b : Bus)
    (runs : Runs (UsbLink.hears cfg hmac timeoutMs)
      ((program.carriedOut (SlotCall.client retries)).dialogue next) (resting s issued) talk
      outcome b) :
    (∃ calls, Begun (SlotTexts.Answers cfg) program (textOf s.world.slots) calls
      (textOf b.transport.world.slots)) ∧
    ∀ value, outcome.1 = .ok value → ∃ calls, Runs (SlotTexts.Answers cfg) program
      (textOf s.world.slots) calls value (textOf b.transport.world.slots) := by
  have sound := reachable.sound
  have waiting : Waiting cfg (textOf s.world.slots) next
      (⟨.fresh s.world, [], next - 1, false⟩, []) :=
    ⟨rfl, by simp, sound.sized, sound.spelled, rfl⟩
  obtain ⟨t, same, ⟨_, calls, texts, failed, begun, stands⟩ | ⟨value, calls, texts, returned, run,
    waiting'⟩⟩ := UsbLink.implemented rest (slotCalls_implement cfg hmac usbContext retries)
      waiting runs
  · have holds := stands.holds
    rw [same] at holds
    rw [holds, failed]
    exact ⟨⟨calls, begun⟩, fun _ impossible => by cases impossible⟩
  · have holds := waiting'.stands.holds
    rw [same] at holds
    rw [holds, returned]
    refine ⟨⟨calls, run.begun⟩, ?_⟩
    rintro _ ⟨⟩
    exact ⟨calls, run⟩

/-- An open keyboard on the bus. -/
def sampleTransport : Transport := { UsbHid.connected with world := RoundTrip.sampleDevice }

def sampleProgram : Dialogue SlotCall SlotAnswer SlotAnswer :=
  .ask (.set 0 [72, 105]) .done

/-- The answer to the first SET is lost, and so is the second SET. -/
theorem usb_is_array_of_texts_sample :
    ∃ talk outcome b, Runs (UsbLink.hears .default AuthCore.sampleHmac 1000)
        ((sampleProgram.carriedOut (SlotCall.client 2)).dialogue 7) (resting sampleTransport 0)
        talk outcome b ∧
      textOf b.transport.world.slots 0 = [72, 105] ∧ talk.length = 3 := by
  have rest : AtRest sampleTransport := ⟨rfl, rfl, rfl, rfl, rfl, fun _ => rfl, rfl, rfl⟩
  have reachable : Reachable .default AuthCore.sampleHmac RoundTrip.sampleDevice :=
    ⟨.empty, [.settingsCommit fun _ => 0], .single rfl⟩
  obtain ⟨s', issued', log, runs, _⟩ := UsbLink.stumbles .default AuthCore.sampleHmac (.still 0)
    [.answerLost, .requestLost] 0 [] rest rfl (by decide : 0 < (1000 : Int))
    ((sampleProgram.carriedOut (SlotCall.client 2)).dialogue 7)
  have returned : ((((sampleProgram.carriedOut (SlotCall.client 2)).dialogue 7).drive
      (UsbLink.stumblingAnswer .default AuthCore.sampleHmac (.still 0))
      (sampleTransport.world, [.answerLost, .requestLost])).2.1).1 = .ok .done := by
    rfl
  obtain ⟨calls, onArray⟩ := (usb_is_array_of_texts .default AuthCore.sampleHmac 1000 2
    sampleTransport 0 7 rest reachable sampleProgram _ _ _ runs).2 .done returned
  refine ⟨_, _, _, runs, ?_, rfl⟩
  generalize textOf (UsbHid.settled s' issued' log).transport.world.slots = texts at onArray ⊢
  cases onArray with
  | ask answered ended =>
    cases ended
    have stored : Function.update (textOf sampleTransport.world.slots) 0 [72, 105] = texts :=
      congrArg Prod.snd answered
    rw [← stored, Function.update_self]

end RuntimeMacro.Guarantees.ArrayOfTexts
