import RuntimeMacro.Foundations.Runs
import RuntimeMacro.Source.Pages
import RuntimeMacro.Source.Station

/-!
# Static texts written and read over the wire

tools/runtime_macro_cli.py:1103-1226; runtime_macro_protocol.c:712-829. The
client's `set_slot`, `get_slot` and `list_slots` against the firmware on a
direct link, while the device is open or stays authenticated and storage
succeeds. Then the pages of LIST and GET, frame by frame, from any offset.
-/
namespace RuntimeMacro.Guarantees.RoundTrip
open Source Source.Protocol Source.RuntimeMacroClient Foundations.Checks
open Foundations.Dialogues Foundations.Dialogues.Dialogue Foundations.Dialogues.Procedure
open Foundations.Runs Relation
open AuthCore (Hmac)

variable {cfg : Config} {hmac : Hmac} {id : ContextId} {w w' : World} {slots : SlotStore}
  {opcode : Opcode} {slot offset : Nat} {object text : List UInt8} {α : Type} {next : UInt8}
  {t : Station × Talk} {s : Station}

/-! ## Executions -/

/-- A call while the device is open or the session lives, with storage
succeeding. -/
def Granted (env : Env) (w : World) : Prop := Ready env w.auth ∧ env.saveErr = 0

/-- The device is open, or a session lives. -/
def Willing (w : World) : Prop := Admits w.auth

theorem granted_of_willing (willing : Willing w) : ∃ env, Granted env w := by
  refine ⟨.still (w.auth.sessionDeadlineMs - 1), ?_, rfl⟩
  rcases willing with unguarded | ⟨guarded, active⟩
  · exact Or.inl unguarded
  · refine Or.inr ⟨guarded, active, fun site => ?_⟩
    simp only [Env.still]
    omega

/-- The procedure has an execution on the link, and every one returns as
wanted. -/
def Returns (cfg : Config) (hmac : Hmac) (id : ContextId) (procedure : Client α) (next : UInt8)
    (s : Station) (wanted : α → Station → Prop) : Prop :=
  (∃ talk outcome s', Runs (directLink cfg hmac id Granted Willing).answers
      (procedure.dialogue next) s talk outcome s') ∧
    ∀ talk outcome s', Runs (directLink cfg hmac id Granted Willing).answers
      (procedure.dialogue next) s talk outcome s' →
      ∃ value next', outcome = (.ok value, next') ∧ wanted value s'

/-- The direct link on which the gate is open and the settings can be
written. -/
abbrev link (cfg : Config) (hmac : Hmac) (id : ContextId) : Partner (Station × Talk) Frame Answer :=
  checkedLink cfg hmac id Granted Willing

theorem returns_of_meets {procedure : Client α} {wanted : α → Station → Prop}
    (meets : procedure.Meets (link cfg hmac id) (fun value _ t => wanted value t.1)
      (fun _ _ _ => False) next (s, [])) :
    Returns cfg hmac id procedure next s wanted := by
  constructor
  · obtain ⟨talk, outcome, t, runs⟩ := Ensures.runs meets
      (Partner.recorded_responsive (directLink_responsive fun _ => granted_of_willing))
    exact ⟨talk, outcome, t.1, runs.of_recorded⟩
  · intro talk outcome s' runs
    have ended := (Ensures.recorded meets runs).1
    obtain ⟨value | error, next'⟩ := outcome
    · exact ended.elim
    · exact ⟨_, next', rfl, ended⟩

/-! ## Reading -/

/-- The slots are these, and the device keeps answering. -/
structure Steady (slots : SlotStore) (t : Station × Talk) : Prop where
  slots : t.1.world.slots = slots
  willing : Willing t.1.world

/-- A page request on the link is answered with the page. Nothing on the link
writes slots in between. -/
theorem meets_pageCall (sized : SlotStore.Sized cfg slots)
    (reads : Reads cfg slots opcode slot object) (inside : offset ≤ object.length)
    (retries : Nat) (steady : Steady slots t) :
    (callWithTimeoutRetry retries fun id => buildFrame opcode id slot [] offset 0).Meets
      (link cfg hmac id)
      (fun response _ t' => Steady slots t' ∧ ∃ requestId, response = okFrame
        (pageRequest opcode requestId slot offset) (pageOf object offset) offset object.length)
      (fun _ _ _ => False) next t := by
  obtain ⟨small, byte⟩ := reads.small sized
  apply meets_attempts fun _ t => Steady slots t
  · rintro next ⟨s, past⟩ steady
    have built : buildFrame opcode next slot [] offset 0 =
        .ok (pageRequest opcode next slot offset) :=
      buildFrame_ok opcode next byte (by simp) (by omega) (by omega)
    rw [meets_bind, meets_requestId, meets_bind]
    dsimp only
    rw [built, meets_fromExcept_ok]
    have answered : ∀ {quiet env w' response}, ReflTransGen (Station.Rests cfg hmac) s quiet →
        Granted env quiet.world → processFrame cfg hmac env id
          (pageRequest opcode next slot offset) quiet.world = (response, w') →
        response = okFrame (pageRequest opcode next slot offset) (pageOf object offset) offset
          object.length ∧ Willing w' ∧ w'.slots = slots := by
      intro quiet env w' response rested granted result
      have kept := (rests_quietKept rested).slots.trans steady.slots
      rw [← kept] at sized reads ⊢
      exact pageFrame_ready cfg hmac id granted.1 sized reads next inside result
    apply meets_directCall steady.willing (baseCheck_pageRequest opcode next slot offset)
    · intro quiet env w' status rested granted bad result
      have impossible := congrArg Frame.status (answered rested granted result).1
      rw [status_errorFrame, status_okFrame, Status.code_inj] at impossible
      exact absurd impossible bad
    · intro quiet env w' data place total rested granted _ _ _ _ result
      obtain ⟨same, willing, kept⟩ := answered rested granted result
      exact ⟨⟨kept, willing⟩, next, same⟩
  · exact steady

/-- The pages from an offset on are the rest of the object. -/
theorem meets_pages (sized : SlotStore.Sized cfg slots)
    (reads : Reads cfg slots opcode slot object) (retries : Nat) (name : String)
    {previous : Option Nat} (known : ∀ total ∈ previous, total = object.length)
    (inside : offset ≤ object.length) (front : List UInt8) (steady : Steady slots t) :
    (pages retries opcode name slot previous offset front).Meets (link cfg hmac id)
      (fun found _ t' => Steady slots t' ∧ found = (object.length, front ++ object.drop offset))
      (fun _ _ _ => False) next t := by
  apply RuntimeMacroClient.meets_pages (reads.small sized).1 _ known inside front steady
  intro offset next t inside steady
  apply (meets_pageCall sized reads inside retries steady).mono _ fun _ _ _ never => never
  rintro response next' t' ⟨steady, requestId, shape⟩
  exact ⟨steady, _, shape⟩

/-- `get_slot` returns the text of the slot: its pages put together. -/
theorem meets_getSlot (sized : SlotStore.Sized cfg slots) (spelled : SlotStore.Spelled slots)
    (valid : SlotStore.slotIsValid cfg slot = true) (retries : Nat) (steady : Steady slots t) :
    (getSlot retries slot).Meets (link cfg hmac id)
      (fun found _ t' => Steady slots t' ∧ found = SlotStore.textOf slots slot)
      (fun _ _ _ => False) next t := by
  have ranged : validateSlot slot = .ok () := by
    have inside : slot < cfg.slotCount := of_decide_eq_true valid
    have count := cfg.slotCount_range.2
    exact if_pos (by omega)
  unfold getSlot
  rw [meets_bind, ranged, meets_fromExcept_ok, meets_bind]
  apply (meets_pages sized (.get slot valid) retries "GET" (by simp) (Nat.zero_le _) []
    steady).mono _ fun _ _ _ never => never
  rintro found next' t' ⟨steady', rfl⟩
  dsimp only
  rw [List.nil_append, List.drop_zero, decodeText_textOf spelled, meets_fromExcept_ok]
  exact ⟨steady', rfl⟩

theorem meets_listSlots (sized : SlotStore.Sized cfg slots) (retries : Nat)
    (steady : Steady slots t) :
    (listSlots retries).Meets (link cfg hmac id)
      (fun found _ t' => Steady slots t' ∧ found = (List.range cfg.slotCount).map fun slot =>
        ⟨slot, (SlotStore.textOf slots slot).length⟩) (fun _ _ _ => False) next t := by
  unfold listSlots
  rw [meets_bind]
  apply (meets_pages sized .list retries "LIST" (by simp) (Nat.zero_le _) []
    steady).mono _ fun _ _ _ never => never
  rintro found next' t' ⟨steady', rfl⟩
  dsimp only
  rw [List.nil_append, List.drop_zero, decodeSlots_listObject (length_le_of_sized sized),
    meets_fromExcept_ok]
  refine ⟨steady', ?_⟩
  simp only [textOf_length sized]

/-! ## Writing -/

/-- The slots are still as before, and the text is received up to an offset. -/
structure Writing (id : ContextId) (slots : SlotStore) (requestId : UInt8) (slot : Nat)
    (text : List UInt8) (sent : Nat) (w : World) : Prop where
  slots : w.slots = slots
  staged : sent = 0 ∨ Receives requestId slot text sent w.auth.state (w.contexts id)

theorem Writing.rests {requestId : UInt8} {sent : Nat} {quiet : Station}
    (writing : Writing id slots requestId slot text sent s.world)
    (rested : ReflTransGen (Station.Rests cfg hmac) s quiet) :
    Writing id slots requestId slot text sent quiet.world := by
  have kept := rests_quietKept rested
  constructor
  · exact kept.slots.trans writing.slots
  · rcases writing.staged with start | receives
    · exact Or.inl start
    · apply Or.inr
      rw [kept.auth]
      exact receives.congr (kept.set id) (kept.record id)

/-- What a chunk leaves: more of the text received, or the whole text in its
slot. -/
def Written (id : ContextId) (slots : SlotStore) (requestId : UInt8) (slot : Nat)
    (text : List UInt8) (sent : Nat) (w : World) : Prop :=
  Willing w ∧ ((sent < text.length ∧ Writing id slots requestId slot text sent w) ∨
    (sent = text.length ∧ w.slots = slots.slotReplace slot text))

/-- A text for a slot of the device. -/
structure Fits (cfg : Config) (slot : Nat) (text : List UInt8) : Prop where
  slot : SlotStore.slotIsValid cfg slot = true
  length : text.length ≤ cfg.maxTextLen
  alphabet : SlotStore.textIsValid text = true

theorem Fits.small (fits : Fits cfg slot text) : slot ≤ 0xFE ∧ text.length < 65536 := by
  have inside : slot < cfg.slotCount := of_decide_eq_true fits.slot
  have count := cfg.slotCount_range.2
  have range := cfg.maxTextLen_range.2
  have length := fits.length
  omega

/-- One chunk of a SET on the link: the last one stores the text, any other
leaves its front staged. -/
theorem meets_setChunk {requestId : UInt8} {sent : Nat} (fits : Fits cfg slot text)
    (remaining : text.length ≠ 0 → sent < text.length) (inside : sent ≤ text.length)
    (willing : Willing t.1.world) (writing : Writing id slots requestId slot text sent t.1.world) :
    (setChunk slot text requestId sent).Meets (link cfg hmac id)
      (fun _ _ t' => Written id slots requestId slot text (min (sent + payloadSize) text.length)
        t'.1.world) (fun _ _ _ => False) next t := by
  obtain ⟨s, past⟩ := t
  obtain ⟨byte, small⟩ := fits.small
  have chunk := chunkOf_build .set requestId (by omega : slot ≤ 0xFF) small inside
  have built : buildFrame .set requestId slot ((text.drop sent).take payloadSize) sent text.length =
      .ok (.build .set requestId (UInt8.ofNat slot) sent text.length
        ((text.drop sent).take payloadSize)) :=
    buildFrame_ok .set requestId (by omega) (List.length_take_le _ _) (by omega) (by omega)
  have identified : (Frame.build .set requestId (UInt8.ofNat slot) sent text.length
      ((text.drop sent).take payloadSize)).requestId = requestId := Frame.requestId_build ..
  unfold setChunk
  simp only [slice_chunk, built, meets_bind, meets_fromExcept_ok]
  generalize Frame.build .set requestId (UInt8.ofNat slot) sent text.length
    ((text.drop sent).take payloadSize) = request at chunk identified
  have ends : sent + request.payloadLength = min (sent + payloadSize) text.length := by
    rw [chunk.length]
    omega
  have answered : ∀ {quiet env w' response}, ReflTransGen (Station.Rests cfg hmac) s quiet →
      Granted env quiet.world → processFrame cfg hmac env id request quiet.world =
        (response, w') → response.status = Status.ok.code ∧
      Written id slots requestId slot text (min (sent + payloadSize) text.length) w' := by
    intro quiet env w' response rested granted result
    have still := writing.rests rested
    have before := still.staged
    rw [← identified] at before
    obtain ⟨status, admits, outcome⟩ := setChunk_ready cfg hmac id granted.1 granted.2 chunk
      before fits.slot fits.length fits.alphabet remaining result
    rw [ends, still.slots, identified] at outcome
    refine ⟨status, admits, ?_⟩
    rcases outcome with ⟨partly, kept, receives⟩ | ⟨complete, replaced⟩
    · exact Or.inl ⟨by omega, kept, Or.inr receives⟩
    · exact Or.inr ⟨complete, replaced⟩
  apply meets_directCall willing chunk.passed
  · intro quiet env w' status rested granted bad result
    have impossible := (answered rested granted result).1
    rw [status_errorFrame, Status.code_inj] at impossible
    exact absurd impossible bad
  · rintro quiet env w' data place total rested granted - placed - ⟨rfl, rfl, -, rfl⟩ result
    have acknowledged : sent + ((text.drop sent).take payloadSize).length =
        request.offset + request.payloadLength := by
      rw [chunk.place, chunk.length, List.length_take, List.length_drop]
    have written := (answered rested granted result).2
    have total := chunk.total
    rw [acknowledged]
    generalize min (sent + payloadSize) text.length = received at written ⊢
    rw [← total, meets_validateChunkAck _ placed request.totalLength_lt]
    exact written

/-- `set_slot` returns at its first attempt, with the text in the slot. On this
link no frame is lost. -/
theorem meets_setSlot (fits : Fits cfg slot text) (retries : Nat) (steady : Steady slots t) :
    (setSlot retries slot text).Meets (link cfg hmac id)
      (fun _ _ t' => Steady (slots.slotReplace slot text) t') (fun _ _ _ => False) next t := by
  have ranged : validateSlot slot = .ok () := if_pos fits.small.1
  unfold setSlot
  simp only [meets_bind, ranged, validateAscii_of_valid fits.alphabet, meets_fromExcept_ok]
  apply meets_attempts fun _ t => Steady slots t
  · intro next t steady
    rw [meets_bind, meets_requestId]
    have done : ∀ t' : Station × Talk, Written id slots next slot text text.length t'.1.world →
        Steady (slots.slotReplace slot text) t' := by
      rintro t' ⟨willing, ⟨impossible, _⟩ | ⟨_, replaced⟩⟩
      · omega
      · exact ⟨replaced, willing⟩
    have start : Writing id slots next slot text 0 t.1.world := ⟨steady.slots, Or.inl rfl⟩
    unfold setOnce
    by_cases empty : text.length = 0
    · rw [if_pos empty]
      have single : [0].forM (setChunk slot text next) =
          (setChunk slot text next 0 >>= fun _ => pure ()) := rfl
      rw [single, meets_bind]
      apply (meets_setChunk fits (fun positive => absurd empty positive) (Nat.zero_le _)
        steady.willing start).mono _ fun _ _ _ never => False.elim never
      intro _ next' t' written
      rw [meets_pure]
      rw [Nat.min_eq_right (by omega)] at written
      exact done t' written
    · rw [if_neg empty]
      apply (meets_chunks text.length
        (fun sent _ t => Written id slots next slot text sent t.1.world) _ _).mono
        (fun _ _ t' written => done t' written) fun _ _ _ never => False.elim never
      · rintro sent next' t' before ⟨willing, ⟨_, writing⟩ | ⟨impossible, _⟩⟩
        · exact meets_setChunk fits (fun _ => before) (by omega) willing writing
        · omega
      · exact ⟨steady.willing, Or.inl ⟨by omega, start⟩⟩
  · exact steady

/-! ## Pages frame by frame -/

/-- A reader asks for the page at its offset and moves by what it gets. -/
def PageStep (cfg : Config) (hmac : Hmac) (id : ContextId) (opcode : Opcode) (slot : Nat)
    (t : Station × Nat) (response : Frame) (t' : Station × Nat) : Prop :=
  ∃ quiet requestId, ReflTransGen (Station.Rests cfg hmac) t.1 quiet ∧
    Station.Serves cfg hmac id Granted quiet (pageRequest opcode requestId slot t.2) response
      t'.1 ∧ t'.2 = t.2 + response.payloadLength

/-- The bytes that a series of pages carries, in order. -/
def payloads (responses : List Frame) : List UInt8 :=
  responses.flatMap fun response => response.payload response.payloadLength

/-- What the pages so far have given, at an offset from the start on. -/
structure Paged (slots : SlotStore) (object : List UInt8) (start : Nat)
    (responses : List Frame) (t : Station × Nat) : Prop where
  slots : t.1.world.slots = slots
  willing : Willing t.1.world
  place : t.2 = min (start + payloadSize * responses.length) object.length
  bytes : payloads responses ++ object.drop t.2 = object.drop start
  answers : ∀ response ∈ responses, response.status = Status.ok.code ∧
    response.totalLength = object.length

/-- One more page is the next piece of the object, and the reader's offset
moves behind it. -/
theorem Paged.step {start : Nat} {responses : List Frame} {response : Frame}
    {p p' : Station × Nat} (sized : SlotStore.Sized cfg slots)
    (reads : Reads cfg slots opcode slot object)
    (paged : Paged slots object start responses p)
    (step : PageStep cfg hmac id opcode slot p response p') :
    Paged slots object start (responses ++ [response]) p' := by
  obtain ⟨quiet, requestId, rested, ⟨env, w', granted, step, left⟩, moved⟩ := step
  have kept := (rests_quietKept rested).slots.trans paged.slots
  have small := (reads.small sized).1
  have inside : p.2 ≤ object.length := by
    rw [paged.place]
    omega
  have length := length_pageOf object p.2
  have sizedPage : (pageOf object p.2).length ≤ payloadSize := by omega
  rw [← kept] at sized reads
  obtain ⟨rfl, willing, same⟩ := pageFrame_ready cfg hmac id granted.1 sized reads requestId inside
    step.result
  have world : p'.1.world = w' := by rw [left]; rfl
  have carried := payloadLength_okFrame (pageRequest opcode requestId slot p.2)
    (pageOf object p.2) p.2 object.length sizedPage
  have bytes := payload_okFrame (pageRequest opcode requestId slot p.2)
    (pageOf object p.2) p.2 object.length sizedPage
  rw [carried] at moved
  constructor
  · rw [world, same, kept]
  · rw [world]
    exact willing
  · rw [moved, length, paged.place, List.length_append, List.length_singleton, Nat.mul_succ]
    omega
  · have further : pageOf object p.2 ++ object.drop p'.2 = object.drop p.2 := by
      rw [moved]
      exact pageOf_append_drop object p.2
    rw [payloads, List.flatMap_append, List.flatMap_singleton, carried, bytes, List.append_assoc,
      further]
    exact paged.bytes
  · intro other member
    rcases List.mem_append.mp member with earlier | latest
    · exact paged.answers other earlier
    · rw [List.mem_singleton.mp latest]
      exact ⟨status_okFrame .., totalLength_okFrame _ _ _ _ small⟩

theorem Paged.run {start : Nat} {responses : List Frame} {p : Station × Nat}
    (sized : SlotStore.Sized cfg slots) (reads : Reads cfg slots opcode slot object)
    (steady : s.world.slots = slots) (willing : Willing s.world) (inside : start ≤ object.length)
    (run : Run (PageStep cfg hmac id opcode slot) (s, start) responses p) :
    Paged slots object start responses p := by
  apply run.history (Paged slots object start)
  · constructor
    · exact steady
    · exact willing
    · rw [List.length_nil, Nat.mul_zero, Nat.add_zero, Nat.min_eq_left inside]
    · rfl
    · intro response impossible
      cases impossible
  · intro responses p response p' _ paged step
    exact paged.step sized reads step

/-- A reader can always go on, as often as asked: at the end of the object the
page is empty. -/
theorem pages_run {start : Nat} (sized : SlotStore.Sized cfg slots)
    (reads : Reads cfg slots opcode slot object) (steady : s.world.slots = slots)
    (willing : Willing s.world) (inside : start ≤ object.length) (count : Nat) :
    ∃ responses p, responses.length = count ∧
      Run (PageStep cfg hmac id opcode slot) (s, start) responses p := by
  induction count with
  | zero => exact ⟨[], (s, start), rfl, .nil _⟩
  | succ count ih =>
    obtain ⟨responses, p, length, run⟩ := ih
    obtain ⟨env, granted⟩ := granted_of_willing
      (Paged.run sized reads steady willing inside run).willing
    rcases result : processFrame cfg hmac env id (pageRequest opcode 0 slot p.2) p.1.world with
      ⟨response, w'⟩
    have step : PageStep cfg hmac id opcode slot p response
        (p.1.serve ⟨id, env, pageRequest opcode 0 slot p.2, response⟩ w',
          p.2 + response.payloadLength) :=
      ⟨p.1, 0, .refl, ⟨env, w', granted, result, rfl⟩, rfl⟩
    exact ⟨responses ++ [response], _, by simp [length], run.snoc step⟩

/-- A text that the client writes is what it reads back. Every other slot reads
as before, and the list has the length of every slot. From any offset of an
object on, the pages are the rest of it, and a reader reaches its end. -/
theorem static_round_trip (reachable : Reachable cfg hmac w) (willing : Willing w)
    (fits : Fits cfg slot text) (retries : Nat) (next : UInt8) :
    Returns cfg hmac id (setSlot retries slot text) next (.fresh w) (fun _ written =>
      (∀ next, Returns cfg hmac id (getSlot retries slot) next written
        fun found _ => found = text) ∧
      (∀ other next, SlotStore.slotIsValid cfg other = true → other ≠ slot →
        Returns cfg hmac id (getSlot retries other) next written
          fun found _ => found = SlotStore.textOf w.slots other) ∧
      ∀ next, Returns cfg hmac id (listSlots retries) next written fun found _ =>
        found = (List.range cfg.slotCount).map fun place =>
          ⟨place, if place = slot then text.length
            else (SlotStore.textOf w.slots place).length⟩) ∧
    (∀ other next, SlotStore.slotIsValid cfg other = true →
      Returns cfg hmac id (getSlot retries other) next (.fresh w)
        fun found _ => found = SlotStore.textOf w.slots other) ∧
    ∀ opcode place object start, Reads cfg w.slots opcode place object →
      start ≤ object.length →
      (∀ count, ∃ responses p, responses.length = count ∧
        Run (PageStep cfg hmac id opcode place) (.fresh w, start) responses p) ∧
      ∀ responses p, Run (PageStep cfg hmac id opcode place) (.fresh w, start) responses p →
        (∀ response ∈ responses, response.status = Status.ok.code ∧
          response.totalLength = object.length) ∧
        payloads responses ++ object.drop p.2 = object.drop start ∧
        (object.length ≤ start + payloadSize * responses.length →
          p.2 = object.length ∧ payloads responses = object.drop start) := by
  obtain ⟨_, _, sized, spelled⟩ := reachable.sound
  have initially : Steady w.slots (Station.fresh w, []) := ⟨rfl, willing⟩
  refine ⟨?_, ?_, ?_⟩
  · apply returns_of_meets
    apply (meets_setSlot fits retries initially).mono _ fun _ _ _ never => never
    rintro _ _ ⟨written, past⟩ ⟨replaced, admitted⟩
    have steady : Steady (w.slots.slotReplace slot text) (written, []) := ⟨replaced, admitted⟩
    have sized' := sized.slotReplace slot fits.length
    have spelled' := spelled.slotReplace fits.alphabet slot
    refine ⟨fun next => ?_, fun other next valid different => ?_, fun next => ?_⟩
    · apply returns_of_meets
      apply (meets_getSlot sized' spelled' fits.slot retries steady).mono _ fun _ _ _ never => never
      rintro found _ _ ⟨_, rfl⟩
      exact SlotStore.textOf_slotReplace slot text w.slots
    · apply returns_of_meets
      apply (meets_getSlot sized' spelled' valid retries steady).mono _ fun _ _ _ never => never
      rintro found _ _ ⟨_, rfl⟩
      exact SlotStore.textOf_slotReplace_of_ne different text w.slots
    · apply returns_of_meets
      apply (meets_listSlots sized' retries steady).mono _ fun _ _ _ never => never
      rintro found _ _ ⟨_, rfl⟩
      apply List.map_congr_left
      intro place _
      by_cases same : place = slot
      · rw [if_pos same, same, SlotStore.textOf_slotReplace]
      · rw [if_neg same, SlotStore.textOf_slotReplace_of_ne same]
  · intro other next valid
    apply returns_of_meets
    apply (meets_getSlot sized spelled valid retries initially).mono _ fun _ _ _ never => never
    rintro found _ _ ⟨_, rfl⟩
    rfl
  · intro opcode place object start reads inside
    refine ⟨pages_run sized reads rfl willing inside, fun responses p run => ?_⟩
    have paged := Paged.run sized reads rfl willing inside run
    refine ⟨paged.answers, paged.bytes, fun enough => ?_⟩
    have reached : p.2 = object.length := by
      rw [paged.place]
      omega
    have whole := paged.bytes
    rw [reached, List.drop_length, List.append_nil] at whole
    exact ⟨reached, whole⟩

/-- An open device after its first boot. -/
def sampleDevice : World := (World.boot .default .empty).settingsCommit .default fun _ => 0

/-- A text of three chunks. -/
def sampleText : List UInt8 := ascii "The quick brown fox jumps over the lazy dog, twice"

/-- It is written over the default of slot 0, and read back from there; the
default of slot 1 is read as before, and the list shows the new length. -/
theorem static_round_trip_sample :
    ∃ talk outcome written,
      Runs (directLink .default AuthCore.sampleHmac 0 Granted Willing).answers
        ((setSlot 0 0 sampleText).dialogue 7) (.fresh sampleDevice) talk outcome written ∧
      (Returns .default AuthCore.sampleHmac 0 (getSlot 0 0) 9 written
        fun found _ => found = sampleText) ∧
      (Returns .default AuthCore.sampleHmac 0 (getSlot 0 1) 12 written
        fun found _ => found = SlotStore.defaultText .default 1) ∧
      Returns .default AuthCore.sampleHmac 0 (listSlots 0) 13 written
        fun found _ => (found.map SlotInfo.length).take 2 = [50, 15] := by
  have reachable : Reachable .default AuthCore.sampleHmac sampleDevice :=
    ⟨.empty, [.settingsCommit fun _ => 0], .single rfl⟩
  have fits : Fits .default 0 sampleText :=
    ⟨by decide +kernel, by decide +kernel, by decide +kernel⟩
  obtain ⟨⟨⟨talk, outcome, written, runs⟩, every⟩, _⟩ :=
    @static_round_trip _ _ 0 _ _ _ reachable (Or.inl rfl) fits 0 7
  obtain ⟨_, _, _, reads, others, lists⟩ := every talk outcome written runs
  have other : SlotStore.textOf sampleDevice.slots 1 = SlotStore.defaultText .default 1 := by
    decide +kernel
  refine ⟨talk, outcome, written, runs, reads 9, ?_, ?_⟩
  · rw [← other]
    exact others 1 12 (by decide) (by decide)
  · obtain ⟨ends, every⟩ := lists 13
    refine ⟨ends, fun talk outcome s' runs => ?_⟩
    obtain ⟨found, next, returned, listed⟩ := every talk outcome s' runs
    refine ⟨found, next, returned, ?_⟩
    subst listed
    show List.take 2 (List.map SlotInfo.length _) = [50, 15]
    decide +kernel

end RuntimeMacro.Guarantees.RoundTrip
