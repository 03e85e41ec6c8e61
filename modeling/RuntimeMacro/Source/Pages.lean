import Mathlib.Data.List.GetD
import RuntimeMacro.Source.Answers
import RuntimeMacro.Source.Client
import RuntimeMacro.Source.Device
import RuntimeMacro.Source.SetChunks

/-!
# Paged reads

runtime_macro_protocol.c:712-829. LIST and GET while the device is open or the
session lives: the page of the object from the offset that was asked for.
-/
namespace RuntimeMacro.Source.Protocol
open AuthCore (Hmac)

variable {cfg : Config} {hmac : Hmac} {env : Env} {id : ContextId} {request response : Frame}
  {w w' : World} {slots : SlotStore} {opcode : Opcode} {slot offset : Nat} {object : List UInt8}

/-- The LIST object: the slot count and the length of every slot. -/
def listObject (cfg : Config) (slots : SlotStore) : List UInt8 :=
  UInt8.ofNat cfg.slotCount :: (List.range cfg.slotCount).flatMap (lengthBytes slots)

theorem listData_some (small : ∀ slot, (slots.slots slot).length ≤ 65535) :
    listData cfg slots = some (listObject cfg slots) := by
  rw [listData_if, if_pos fun slot _ => small slot]
  rfl

/-- What a reader pages through, by opcode and slot byte. -/
inductive Reads (cfg : Config) (slots : SlotStore) : Opcode → Nat → List UInt8 → Prop
  | list : Reads cfg slots .list 0xFF (listObject cfg slots)
  | get (slot : Nat) (valid : SlotStore.slotIsValid cfg slot = true) :
      Reads cfg slots .get slot (SlotStore.textOf slots slot)

theorem textOf_length (sized : SlotStore.Sized cfg slots) (slot : Nat) :
    (SlotStore.textOf slots slot).length = (slots.slots slot).length := by
  obtain ⟨capacity, fits⟩ := sized slot
  rw [SlotStore.textOf, List.length_take]
  omega

theorem length_le_of_sized (sized : SlotStore.Sized cfg slots) (slot : Nat) :
    (slots.slots slot).length ≤ 65535 := by
  have fits := (sized slot).2
  have range := cfg.maxTextLen_range.2
  omega

theorem Reads.small (reads : Reads cfg slots opcode slot object)
    (sized : SlotStore.Sized cfg slots) : object.length < 65536 ∧ slot ≤ 0xFF := by
  cases reads with
  | list =>
    have length := listData_length (@listData_some cfg slots (length_le_of_sized sized))
    have range := cfg.slotCount_range.2
    rw [length]
    omega
  | get slot valid =>
    have fits := (sized slot).2
    have inside : slot < cfg.slotCount := of_decide_eq_true valid
    have range := cfg.maxTextLen_range.2
    have count := cfg.slotCount_range.2
    rw [textOf_length sized]
    omega

/-- The request for a page. -/
def pageRequest (opcode : Opcode) (requestId : UInt8) (slot offset : Nat) : Frame :=
  .build opcode requestId (UInt8.ofNat slot) offset 0 []

section Request
variable (opcode : Opcode) (requestId : UInt8) (slot offset : Nat)

theorem baseCheck_pageRequest : baseCheck (pageRequest opcode requestId slot offset) = .ok opcode :=
  baseCheck_build _ _ _ _ _ _ (by simp)

theorem pageRequest_empty : (pageRequest opcode requestId slot offset).payloadLength = 0 ∧
    (pageRequest opcode requestId slot offset).totalLength = 0 ∧
    (pageRequest opcode requestId slot offset).payloadTailIsZero 0 = true := by
  refine ⟨Frame.payloadLength_build _ _ _ _ _ _ (by simp), ?_, ?_⟩
  · exact Frame.totalLength_build _ _ _ _ _ _ (by decide)
  · exact Frame.payloadTailIsZero_build _ _ _ _ _ [] (by simp)

end Request

theorem processList_page (slots : SlotStore) (requestId : UInt8)
    (small : ∀ slot, (slots.slots slot).length ≤ 65535)
    (inside : offset ≤ (listObject cfg slots).length) (fits : offset < 65536) :
    let request := pageRequest .list requestId 0xFF offset
    processList cfg request (Frame.initResponse (some request)) slots =
      okFrame request (pageOf (listObject cfg slots) offset) offset
        (listObject cfg slots).length := by
  obtain ⟨payload, total, padded⟩ := pageRequest_empty .list requestId 0xFF offset
  have place : (pageRequest .list requestId 0xFF offset).offset = offset :=
    Frame.offset_build _ _ _ _ _ _ fits
  have aimed : (pageRequest .list requestId 0xFF offset).slot = listSlot := Frame.slot_build ..
  dsimp only
  unfold processList
  rw [if_neg (by simp [aimed]), if_neg (by simp [payload, total]), if_neg (by simp [padded]),
    listData_some small]
  dsimp only
  rw [respondPage_eq (by rw [place]; exact inside), place]

theorem processGet_page (slots : SlotStore) (requestId : UInt8)
    (sized : SlotStore.Sized cfg slots) (valid : SlotStore.slotIsValid cfg slot = true)
    (inside : offset ≤ (SlotStore.textOf slots slot).length) (fits : offset < 65536) :
    let request := pageRequest .get requestId slot offset
    processGet cfg request (Frame.initResponse (some request)) slots =
      okFrame request (pageOf (SlotStore.textOf slots slot) offset) offset
        (SlotStore.textOf slots slot).length := by
  obtain ⟨payload, total, padded⟩ := pageRequest_empty .get requestId slot offset
  have place : (pageRequest .get requestId slot offset).offset = offset :=
    Frame.offset_build _ _ _ _ _ _ fits
  have aimed : (pageRequest .get requestId slot offset).slot.toNat = slot := by
    have below : slot < cfg.slotCount := of_decide_eq_true valid
    have range := cfg.slotCount_range.2
    rw [pageRequest, Frame.slot_build, UInt8.toNat_ofNat']
    omega
  have length := (sized slot).2
  have range := cfg.maxTextLen_range.2
  have copied : slots.slotCopy cfg slot (cfg.maxTextLen + 1) =
      .ok ((slots.slots slot).text.take ((slots.slots slot).length + 1),
        (slots.slots slot).length) := by
    unfold SlotStore.slotCopy
    dsimp only
    rw [if_neg (by simp [valid]), if_neg (by omega)]
  have snapshot : ((slots.slots slot).text.take ((slots.slots slot).length + 1)).take
      (slots.slots slot).length = SlotStore.textOf slots slot := by
    rw [List.take_take, Nat.min_eq_left (by omega)]
    rfl
  dsimp only
  unfold processGet
  dsimp only
  rw [aimed, if_neg (by simp [valid]), if_neg (by simp [payload, total]),
    if_neg (by simp [padded]), copied]
  dsimp only
  rw [if_neg (by omega), snapshot, respondPage_eq (by rw [place]; exact inside), place]

/-- LIST and GET keep the slots. -/
theorem pageFrame_slots (cfg : Config) (hmac : Hmac) (env : Env) (id : ContextId)
    (paged : opcode = .list ∨ opcode = .get) (passed : baseCheck request = .ok opcode)
    (w : World) : (processFrame cfg hmac env id request w).2.slots = w.slots := by
  have managed : ∀ handler : World → Frame × World, (∀ w₁, (handler w₁).2 = w₁) →
      (processManagement cfg env id handler (Frame.initResponse (some request))
        (syncAuthState cfg env id w)).2.slots = w.slots := by
    intro handler reads
    have synced := syncAuthState_slots cfg env id w
    obtain ⟨auth, _, ⟨_, _, _, result⟩ | ⟨_, _, result⟩⟩ := processManagement_cases cfg env id
      handler (Frame.initResponse (some request)) (syncAuthState cfg env id w)
    · rw [result]
      exact synced
    · rw [result, afterHandler_slots, reads]
      exact synced
  rcases paged with rfl | rfl
  · simp only [processFrame, passed, dispatch]
    exact managed _ fun _ => rfl
  · simp only [processFrame, passed, dispatch]
    exact managed _ fun _ => rfl

/-- A page of the LIST object. -/
theorem carries_list {data : List UInt8} {place total : Nat}
    (carried : Carries cfg env w request .list data place total) :
    data = pageOf (listObject cfg w.slots) request.offset ∧ place = request.offset ∧
      total = (listObject cfg w.slots).length := by
  obtain ⟨object, listed, _, _, page, same, whole⟩ := carried
  obtain rfl : object = listObject cfg w.slots := (listData_eq listed).1
  exact ⟨page, same, whole⟩

/-- A page of the text of a slot. -/
theorem carries_get {data : List UInt8} {place total : Nat}
    (carried : Carries cfg env w request .get data place total) :
    data = pageOf (SlotStore.textOf w.slots request.slot.toNat) request.offset ∧
      place = request.offset ∧
      total = (SlotStore.textOf w.slots request.slot.toNat).length := by
  obtain ⟨snapshot, length, copied, _, _, page, same, whole⟩ := carried
  have found : snapshot.take length = SlotStore.textOf w.slots request.slot.toNat := by
    unfold SlotStore.slotCopy at copied
    dsimp only at copied
    split at copied
    · cases copied
    split at copied
    · cases copied
    · cases copied
      rw [List.take_take, Nat.min_eq_left (by omega)]
      rfl
  rw [found] at page whole
  exact ⟨page, same, whole⟩

/-- A page that is asked for while the device is open or the session lives. -/
theorem pageFrame_ready (cfg : Config) (hmac : Hmac) (id : ContextId) (ready : Ready env w.auth)
    (sized : SlotStore.Sized cfg w.slots) (reads : Reads cfg w.slots opcode slot object)
    (requestId : UInt8) (inside : offset ≤ object.length)
    (result : processFrame cfg hmac env id (pageRequest opcode requestId slot offset) w =
      (response, w')) :
    response = okFrame (pageRequest opcode requestId slot offset) (pageOf object offset) offset
      object.length ∧ Admits w'.auth ∧ w'.slots = w.slots := by
  have fits : offset < 65536 := by
    have small := (reads.small sized).1
    omega
  have passed := baseCheck_pageRequest opcode requestId slot offset
  -- Behind the open gate the handler reads the slots, and the refresh keeps the answer.
  have managed : ∀ {handler : World → Frame × World} {answer : Frame},
      processManagement cfg env id handler
        (Frame.initResponse (some (pageRequest opcode requestId slot offset)))
        (syncAuthState cfg env id w) = (response, w') →
      (∀ w₁ : World, w₁.slots = w.slots → handler w₁ = (answer, w₁)) →
      response = answer ∧ Admits w'.auth ∧ w'.slots = w.slots := by
    intro handler answer result handled
    obtain ⟨auth, still, _, granted⟩ := ready.managed cfg id handler
      (Frame.initResponse (some (pageRequest opcode requestId slot offset)))
    rw [granted, handled _ (by simp)] at result
    obtain ⟨_, admits, _, after⟩ := Ready.after cfg id
      (w := (syncAuthState cfg env id w).withAuth auth) still answer
    rw [after] at result
    cases result
    exact ⟨rfl, admits, by simp⟩
  cases reads with
  | list =>
    simp only [processFrame, passed, dispatch] at result
    apply managed result
    intro w₁ same
    rw [same, processList_page w.slots requestId (length_le_of_sized sized) inside fits]
  | get slot valid =>
    simp only [processFrame, passed, dispatch] at result
    apply managed result
    intro w₁ same
    rw [same, processGet_page w.slots requestId sized valid inside fits]

/-! ## What the client makes of them -/

open RuntimeMacroClient (validateAscii textByte decodeText decodeSlots SlotInfo)

theorem validateAscii_of_valid {text : List UInt8}
    (alphabet : SlotStore.textIsValid text = true) :
    validateAscii text = .ok () := by
  have table : ∀ n : Fin 256, Ascii.byteIsValid (.ofNat n.val) = true →
      textByte (.ofNat n.val) = true := by
    decide +kernel
  have bytes : ∀ value : UInt8, Ascii.byteIsValid value = true → textByte value = true := by
    intro value valid
    have known := table ⟨value.toNat, value.toNat_lt⟩
    rw [UInt8.ofNat_toNat] at known
    exact known valid
  have none : (text.find? fun value => !textByte value) = none := by
    rw [List.find?_eq_none]
    intro value member
    rw [SlotStore.textIsValid, List.all_eq_true] at alphabet
    simp [bytes value (alphabet value member)]
  rw [validateAscii, none]

theorem decodeText_textOf (spelled : SlotStore.Spelled slots) (slot : Nat) :
    decodeText (SlotStore.textOf slots slot).length (SlotStore.textOf slots slot) =
      .ok (SlotStore.textOf slots slot) := by
  rw [decodeText, if_neg (by simp), validateAscii_of_valid (spelled slot)]

theorem getD_lengths (slots : SlotStore) {count place half : Nat} (inside : place < count)
    (byte : half < 2) :
    ((List.range count).flatMap (lengthBytes slots)).getD (2 * place + half) 0 =
      (lengthBytes slots place).getD half 0 := by
  induction count with
  | zero => omega
  | succ count ih =>
    rw [List.range_succ, List.flatMap_append, List.flatMap_singleton]
    by_cases earlier : place < count
    · rw [List.getD_append _ _ _ _ (by rw [length_lengths]; omega)]
      exact ih earlier
    · obtain rfl : place = count := by omega
      rw [List.getD_append_right _ _ _ _ (by rw [length_lengths]; omega), length_lengths,
        Nat.add_sub_cancel_left]

/-- One entry per slot, with its length. -/
theorem decodeSlots_listObject (small : ∀ slot, (slots.slots slot).length ≤ 65535) :
    decodeSlots (listObject cfg slots).length (listObject cfg slots) =
      .ok ((List.range cfg.slotCount).map fun slot => ⟨slot, (slots.slots slot).length⟩) := by
  have length := listData_length (@listData_some cfg slots small)
  have count : ((listObject cfg slots).getD 0 0).toNat = cfg.slotCount := by
    have range := cfg.slotCount_range.2
    rw [listObject, List.getD_cons_zero, UInt8.toNat_ofNat']
    omega
  unfold decodeSlots
  dsimp only
  rw [count, length, if_neg (by omega), if_neg (by omega)]
  congr 1
  apply List.map_congr_left
  intro place member
  have inside : place < cfg.slotCount := List.mem_range.mp member
  have bounded := small place
  have low := getD_lengths slots inside (by decide : 0 < 2)
  have high := getD_lengths slots inside (by decide : 1 < 2)
  rw [listObject, Nat.add_comm 1 (2 * place), List.getD_cons_succ,
    show 2 + 2 * place = (2 * place + 1) + 1 from by omega, List.getD_cons_succ, high]
  rw [Nat.add_zero] at low
  rw [low]
  congr 1
  exact Frame.getU16_split _ (by omega)

end RuntimeMacro.Source.Protocol
