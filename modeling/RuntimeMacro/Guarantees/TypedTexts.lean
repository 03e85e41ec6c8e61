import RuntimeMacro.Guarantees.DynamicCommit
import RuntimeMacro.Guarantees.SlotIsolation
import RuntimeMacro.Guarantees.TypingTrace
import RuntimeMacro.Source.KeyboardService

/-!
# Where the key events come from

behavior_runtime_macro_dynamic.c:21-48;
runtime_macro_dynamic.c:184-268,362-395. On every run of the keyboard the key
events are those of the presses it accepted, one block each, and the text of a
dynamic block is that of one upload: it was staged without interruption, it was
complete, and from its commit to the press nothing cleared, replaced or
consumed it.
-/
namespace RuntimeMacro.Guarantees.TypedTexts
open Source Source.Protocol Foundations Foundations.Runs Foundations.Transfers
open AuthCore (Hmac)
open Context (KeepsOrDrops)
open UsbHid (Transport usbContext)
open DynamicCommit (Replaced Completes replaced_by_upload)

variable {cfg : Config} {hmac : Hmac} {settings : Settings} {s s' : Transport}
  {moment : KeyMoment} {moments past : List KeyMoment} {exchange : Exchange}

/-! ## The upload of the history -/

theorem key_quiet (effect : KeyEffect cfg hmac moment) (silent : frameOf moment = none) :
    moment.before.world.dynamic.Quiet moment.after.world.dynamic ∧
      KeepsOrDrops .dynamic (moment.before.world.contexts usbContext)
        (moment.after.world.contexts usbContext) := by
  cases effect with
  | called event step frame => exact quiet_of_event step (frame.trans silent) usbContext
  | discarded nowMs _ same =>
    rw [same, World.discard_contexts_self]
    exact ⟨DynamicStore.cancelStagingNow_quiet cfg nowMs _, Or.inr rfl⟩
  | loaded _ _ _ _ same | committed _ _ same =>
    rw [same]
    exact ⟨DynamicStore.Quiet.refl _, KeepsOrDrops.refl _ _⟩
  | typed _ _ same =>
    rw [same]
    exact ⟨DynamicStore.Quiet.refl _, KeepsOrDrops.refl _ _⟩

/-- The staging and the context hold the upload of the frames so far. -/
structure Follows (past : List KeyMoment) (s : Transport) : Prop where
  composed : Composed (framesOf past) s.world.dynamic
  identifies : Identifies usbContext (framesOf past) (s.world.contexts usbContext)
  own : ∀ exchange ∈ framesOf past, exchange.id = usbContext

/-- The store follows the frames of the history through every event of the
keyboard. -/
theorem Follows.step (follows : Follows past moment.before) (effect : KeyEffect cfg hmac moment) :
    Follows (past ++ [moment]) moment.after := by
  cases frame : frameOf moment with
  | none =>
    have same : framesOf (past ++ [moment]) = framesOf past := by
      rw [framesOf_snoc, frame]
      exact List.append_nil _
    obtain ⟨store, upload⟩ := key_quiet effect frame
    exact ⟨same ▸ follows.composed.of_quiet store,
      same ▸ follows.identifies.of_keepsOrDrops upload, same ▸ follows.own⟩
  | some exchange =>
    have grown : framesOf (past ++ [moment]) = framesOf past ++ [exchange] := by
      rw [framesOf_snoc, frame]
      rfl
    obtain ⟨step, owned⟩ := key_frame effect frame
    refine ⟨grown ▸ follows.composed.frame step, grown ▸ follows.identifies.frame step, ?_⟩
    rw [grown]
    intro other member
    rcases List.mem_append.mp member with early | last
    · exact follows.own other early
    · rw [List.mem_singleton.mp last]
      exact owned

theorem Follows.tracks (follows : Follows past s) :
    Tracks usbContext (framesOf past) s.world := by
  intro active
  obtain ⟨own, current, describes⟩ := follows.identifies active
  have all : exchangesOn usbContext (framesOf past) = framesOf past :=
    List.filter_eq_self.mpr fun exchange member => by simpa using follows.own exchange member
  rw [all] at current
  refine ⟨own.first, own.parts, current, describes, fun staging => ?_⟩
  obtain ⟨source, isSource, stages⟩ := follows.composed staging
  cases isSource.symm.trans current
  exact stages

/-! ## The staging is alive from the BEGIN on -/

/-- The store is staging a text for the slot. -/
def StagedFor (slot : Nat) (s : Transport) : Prop :=
  s.world.dynamic.stagingActive = true ∧ s.world.dynamic.stagingSlot = slot

/-- An upload that nothing has cancelled since its BEGIN. -/
structure Alive (cfg : Config) (past earlier : List KeyMoment) (begin : KeyMoment)
    (since : List KeyMoment) (opening : Exchange) : Prop where
  history : past = earlier ++ begin :: since
  frame : frameOf begin = some opening
  opened : begins opening = true
  valid : BeginValid cfg opening.request
  unopened : ∀ exchange ∈ framesOf since, begins exchange = false
  staged : ∀ moment ∈ since, StagedFor opening.request.slot.toNat moment.after

/-- The upload a history is in, when no BEGIN was accepted since that of
`begin`. -/
theorem latest_of_history {earlier since : List KeyMoment} {begin : KeyMoment}
    {opening : Exchange} (history : past = earlier ++ begin :: since)
    (frame : frameOf begin = some opening) (opened : begins opening = true)
    (unopened : ∀ exchange ∈ framesOf since, begins exchange = false) :
    latest begins appends (framesOf past) =
      some ⟨opening, (framesOf since).filter appends⟩ := by
  have frames : framesOf past = framesOf earlier ++ opening :: framesOf since := by
    rw [history]
    simp [framesOf, frame]
  rw [frames]
  exact latest_of_split opened unopened

/-- An active staging belongs to an upload that is alive. -/
def Staging (cfg : Config) (past : List KeyMoment) (s : Transport) : Prop :=
  s.world.dynamic.stagingActive = true →
    ∃ earlier begin since opening, Alive cfg past earlier begin since opening

theorem quiet_active {d d' : DynamicStore} (quiet : d.Quiet d')
    (active : d'.stagingActive = true) : d.stagingActive = true := by
  rcases quiet.staging with kept | dropped
  · have same := congrArg DynamicStore.Staging.active kept
    exact same.symm.trans active
  · cases dropped.symm.trans active

/-- Nothing but an accepted BEGIN makes the staging active. -/
theorem active_before (effect : KeyEffect cfg hmac moment)
    (active : moment.after.world.dynamic.stagingActive = true)
    (unopened : ∀ exchange, frameOf moment = some exchange → begins exchange = false) :
    moment.before.world.dynamic.stagingActive = true := by
  cases frame : frameOf moment with
  | none => exact quiet_active (key_quiet effect frame).1 active
  | some exchange =>
    obtain ⟨step, _⟩ := key_frame effect frame
    cases step.dynamic with
    | passive _ store => exact quiet_active store.quiet active
    | cleared _ _ store => exact quiet_active store active
    | started isBegin status =>
      have begun : begins exchange = true := begins_iff.mpr ⟨isBegin, accepted_iff.mpr status⟩
      exact absurd begun (by simp [unopened exchange frame])
    | completed data | received data | failed data => exact data.stagingActive

/-- While no BEGIN is accepted, what is staged is for the slot of the last one.
Nothing in between has cleared that slot or discarded the staging, or it would
not be active. -/
theorem Alive.extend {earlier since : List KeyMoment} {begin : KeyMoment} {opening : Exchange}
    (alive : Alive cfg past earlier begin since opening)
    (follows : Follows (past ++ [moment]) moment.after)
    (active : moment.after.world.dynamic.stagingActive = true)
    (unopened : ∀ exchange, frameOf moment = some exchange → begins exchange = false) :
    Alive cfg (past ++ [moment]) earlier begin (since ++ [moment]) opening := by
  have history : past ++ [moment] = earlier ++ begin :: (since ++ [moment]) := by
    rw [alive.history]
    simp
  have quiet : ∀ exchange ∈ framesOf (since ++ [moment]), begins exchange = false := by
    intro exchange member
    rw [framesOf_snoc, List.mem_append, Option.mem_toList] at member
    rcases member with early | last
    · exact alive.unopened exchange early
    · exact unopened exchange last
  obtain ⟨source, isSource, stages⟩ := follows.composed active
  cases isSource.symm.trans (latest_of_history history alive.frame alive.opened quiet)
  refine ⟨history, alive.frame, alive.opened, alive.valid, quiet, ?_⟩
  intro other member
  rcases List.mem_append.mp member with early | last
  · exact alive.staged other early
  · rw [List.mem_singleton.mp last]
    exact ⟨active, stages.slot⟩

theorem begins_valid {w w' : World} (step : FrameStep cfg hmac w exchange w')
    (begun : begins exchange = true) : BeginValid cfg exchange.request := by
  obtain ⟨isBegin, accepted⟩ := begins_iff.mp begun
  have ok := accepted_iff.mp accepted
  cases step.dynamic with
  | passive refused => exact absurd ok (refused (Or.inl isBegin))
  | cleared isClear => cases isClear.symm.trans isBegin
  | started _ _ valid => exact valid
  | completed data | received data | failed data => cases data.isData.symm.trans isBegin

theorem Staging.step (staging : Staging cfg past moment.before)
    (follows : Follows (past ++ [moment]) moment.after) (effect : KeyEffect cfg hmac moment) :
    Staging cfg (past ++ [moment]) moment.after := by
  intro active
  by_cases opened : ∃ opening, frameOf moment = some opening ∧ begins opening = true
  · obtain ⟨opening, frame, begun⟩ := opened
    exact ⟨past, moment, [], opening, rfl, frame, begun,
      begins_valid (key_frame effect frame).1 begun, by simp [framesOf], by simp⟩
  · have unopened : ∀ exchange, frameOf moment = some exchange → begins exchange = false := by
      intro exchange frame
      rw [← Bool.not_eq_true]
      exact fun begun => opened ⟨exchange, frame, begun⟩
    obtain ⟨earlier, begin, since, opening, alive⟩ :=
      staging (active_before effect active unopened)
    exact ⟨earlier, begin, since ++ [moment], opening, alive.extend follows active unopened⟩

/-! ## The upload a slot holds -/

/-- A history in which an upload is committed. -/
structure Origin where
  earlier : List KeyMoment
  begin : KeyMoment
  since : List KeyMoment
  commit : KeyMoment
  later : List KeyMoment
  opening : Exchange
  closing : Exchange

namespace Origin

/-- The whole history, with BEGIN, the chunks and the commit in their
places. -/
def history (origin : Origin) : List KeyMoment :=
  origin.earlier ++ origin.begin :: origin.since ++ origin.commit :: origin.later

/-- The DATA frames accepted since the BEGIN. -/
def chunks (origin : Origin) : List Exchange :=
  (framesOf origin.since).filter appends ++ [origin.closing]

/-- What the chunks say together. -/
def text (origin : Origin) : List UInt8 := uploadText origin.chunks

/-- When the time to live asked for is over. -/
def deadlineMs (origin : Origin) : Int :=
  origin.closing.env.clock .commit + (beginTtlSeconds origin.opening.request : Int) * 1000

/-- The same origin one moment later. -/
def follow (moment : KeyMoment) (origin : Origin) : Origin :=
  { origin with later := origin.later ++ [moment] }

end Origin

/-- An accepted DATA frame completes an upload to the slot. -/
def Commits (slot : Nat) (moment : KeyMoment) : Prop :=
  ∃ exchange, frameOf moment = some exchange ∧ appends exchange = true ∧
    exchange.request.slot.toNat = slot ∧
    exchange.request.offset + exchange.request.payloadLength = exchange.request.totalLength

/-- The slot has held the text of the upload since its commit. -/
structure Kept (cfg : Config) (past : List KeyMoment) (slot : Nat) (entry : DynamicSlot)
    (origin : Origin) : Prop where
  inside : DynamicStore.slotIsValid cfg slot = true
  history : past = origin.history
  alive : Alive cfg (origin.earlier ++ origin.begin :: origin.since) origin.earlier origin.begin
    origin.since origin.opening
  frame : frameOf origin.commit = some origin.closing
  completes : appends origin.closing = true
  target : origin.opening.request.slot.toNat = slot
  same : ∀ chunk ∈ origin.chunks, chunk.request.requestId = origin.opening.request.requestId ∧
    chunk.request.slot = origin.opening.request.slot ∧
    chunk.request.totalLength = origin.opening.request.totalLength
  whole : origin.text.length = origin.opening.request.totalLength
  holds : HoldsText origin.opening.request origin.text (origin.closing.env.clock .commit) entry
  kept : ∀ moment ∈ origin.later, moment.before.world.dynamic.slots slot = entry ∧
    moment.after.world.dynamic.slots slot = entry
  unreplaced : ∀ moment ∈ origin.later, ¬ Commits slot moment

/-- A text in a slot is that of an upload. -/
def Uploaded (cfg : Config) (past : List KeyMoment) (s : Transport) : Prop :=
  ∀ slot, (s.world.dynamic.slots slot).committedValid = true →
    ∃ origin, Kept cfg past slot (s.world.dynamic.slots slot) origin

/-- A commit changes its slot: the generation of the entry moves on. So an
entry that is the same was not committed again. -/
theorem commits_changes (follows : Follows past moment.before) (effect : KeyEffect cfg hmac moment)
    {slot : Nat} (commits : Commits slot moment) :
    moment.after.world.dynamic.slots slot ≠ moment.before.world.dynamic.slots slot := by
  obtain ⟨exchange, frame, appended, target, whole⟩ := commits
  obtain ⟨step, owned⟩ := key_frame effect frame
  obtain ⟨isData, accepted⟩ := appends_iff.mp appended
  have ok := accepted_iff.mp accepted
  cases step.dynamic with
  | passive refused => exact absurd ok (refused (Or.inr isData))
  | cleared isClear => cases isClear.symm.trans isData
  | started isBegin => cases isBegin.symm.trans isData
  | received _ _ partly | failed _ _ partly => exact absurd whole partly
  | completed data _ _ _ store =>
    obtain ⟨begin, chunks, _, describes, staged⟩ := follows.tracks (owned ▸ data.valid.active)
    rw [← owned] at describes
    obtain ⟨s, slots, stages, _, _, result⟩ := dataAppend_of_tracked data describes staged
    have aimed : exchange.request.slot.toNat = begin.request.slot.toNat :=
      data.valid.slot.trans (congrArg Source.Upload.slot describes.upload)
    have here : s.stagingSlot = slot := stages.slot.trans (aimed.symm.trans target)
    rw [if_pos whole] at result
    have committed : ∃ staged, moment.after.world.dynamic.slots slot =
        DynamicStore.committedSlot (exchange.env.clock .commit)
          (DynamicStore.expiredSlots cfg (exchange.env.clock .operation)
            moment.before.world.dynamic slot) staged := by
      rw [show moment.after.world.dynamic = _ from store, result, DynamicStore.commit_slots]
      simp only [DynamicStore.appended, here, Function.update_self, slots]
      exact ⟨_, rfl⟩
    obtain ⟨_, entry⟩ := committed
    intro same
    have generation := congrArg DynamicSlot.ttlGeneration (entry.symm.trans same)
    simp only [DynamicStore.committedSlot] at generation
    rcases DynamicStore.expiredSlots_onlyExpired cfg (exchange.env.clock .operation)
      moment.before.world.dynamic slot with kept | ⟨_, gone⟩
    · rw [kept] at generation
      grind
    · rw [gone] at generation
      simp only [DynamicStore.clearedSlot] at generation
      grind

/-- A moment that leaves the entry and commits nothing to it is one more of
those behind its commit. -/
theorem Kept.extend {slot : Nat} {entry : DynamicSlot} {origin : Origin}
    (kept : Kept cfg past slot entry origin)
    (before : moment.before.world.dynamic.slots slot = entry)
    (after : moment.after.world.dynamic.slots slot = entry) (uncommitted : ¬ Commits slot moment) :
    Kept cfg (past ++ [moment]) slot entry (origin.follow moment) := by
  refine ⟨kept.inside, ?_, kept.alive, kept.frame, kept.completes, kept.target, kept.same,
    kept.whole, kept.holds, ?_, ?_⟩
  · rw [kept.history]
    simp [Origin.history, Origin.follow]
  · intro other member
    rcases List.mem_append.mp member with early | last
    · exact kept.kept other early
    · rw [List.mem_singleton.mp last]
      exact ⟨before, after⟩
  · intro other member
    rcases List.mem_append.mp member with early | last
    · exact kept.unreplaced other early
    · rw [List.mem_singleton.mp last]
      exact uncommitted

theorem exchanges_frames (frames : List Exchange) :
    exchanges (frames.map WorldEvent.frame) = frames := by
  unfold exchanges
  rw [List.filterMap_map]
  exact List.filterMap_some

/-- A text that a step puts in a slot is that of the upload which the step
completes. Its chunks are the DATA accepted since the BEGIN. -/
theorem Kept.committed (follows : Follows past moment.before)
    (staging : Staging cfg past moment.before) (effect : KeyEffect cfg hmac moment) {slot : Nat}
    (replaced : Replaced (moment.before.world.dynamic.slots slot)
      (moment.after.world.dynamic.slots slot)) :
    ∃ origin, Kept cfg (past ++ [moment]) slot (moment.after.world.dynamic.slots slot) origin := by
  cases frame : frameOf moment with
  | none =>
    exact absurd replaced (DynamicCommit.not_replaced_of_quiet (key_quiet effect frame).1 slot)
  | some closing =>
    obtain ⟨step, owned⟩ := key_frame effect frame
    have tracks := follows.tracks
    rw [← exchanges_frames (framesOf past)] at tracks
    have own : onContext usbContext (.frame closing) = true := by simpa [onContext] using owned
    have called : WorldStep cfg hmac _ (.frame closing) _ := step
    obtain ⟨other, opening, chunks, isFrame, completes, target, holds⟩ :=
      replaced_by_upload tracks called own replaced
    cases isFrame
    obtain ⟨⟨front, recent, split, begun, quiet, parts⟩, final, _, same, whole⟩ := completes
    have data := appends_taken step final
    have active := data.stagingActive
    obtain ⟨earlier, begin, since, first, alive⟩ := staging active
    have there : latest begins appends (front ++ opening :: recent) = _ :=
      latest_of_split begun quiet
    have known := latest_of_history alive.history alive.frame alive.opened alive.unopened
    rw [← split, exchanges_frames, known] at there
    simp only [Option.some.injEq, Transfer.mk.injEq] at there
    obtain ⟨rfl, filtered⟩ := there
    rw [← filtered] at parts
    subst parts
    have aimed : closing.request.slot = first.request.slot := (same closing (by simp)).2.1
    refine ⟨⟨earlier, begin, since, moment, [], first, closing⟩, ?_, ?_, ?_, frame, final,
      target.symm, same, whole, holds, by simp, by simp⟩
    · rw [target, ← aimed]
      exact data.valid.slotValid
    · rw [alive.history]
      rfl
    · exact alive.history ▸ alive

theorem Uploaded.step (uploaded : Uploaded cfg past moment.before)
    (follows : Follows past moment.before) (staging : Staging cfg past moment.before)
    (effect : KeyEffect cfg hmac moment) : Uploaded cfg (past ++ [moment]) moment.after := by
  intro slot valid
  by_cases same : moment.after.world.dynamic.slots slot = moment.before.world.dynamic.slots slot
  · rw [same] at valid ⊢
    obtain ⟨origin, kept⟩ := uploaded slot valid
    exact ⟨_, kept.extend rfl same fun commits => commits_changes follows effect commits same⟩
  · exact Kept.committed follows staging effect ⟨valid, same⟩

theorem Uploaded.holdsTexts (uploaded : Uploaded cfg past s) : HoldsTexts s.world.dynamic := by
  intro slot valid
  obtain ⟨origin, kept⟩ := uploaded slot valid
  have taken := congrArg List.length kept.holds.text
  have length := kept.holds.length
  rw [List.length_take] at taken
  omega

/-! ## What a text outlives -/

/-- A lifecycle event on which the build clears the dynamic macros. -/
def Clears (cfg : Config) (moment : KeyMoment) : Prop :=
  match moment.event with
  | .profileChanged _ => cfg.dynamicClearOnBleProfileChange = true
  | .endpointChanged _ => cfg.dynamicClearOnEndpointChange = true
  | .usb (.reset (.clear _)) =>
    cfg.dynamicClearOnUsbDisconnect = true ∧ ∃ reset statusAfter,
      moment.before.reset = some reset ∧ reset.point = .reclaimed statusAfter ∧
        reset.actualManagementUsbDisconnect statusAfter = true
  | _ => False

/-- A reset of the transport discards the upload on its context. -/
def Discards (moment : KeyMoment) : Prop := ∃ nowMs, moment.event = .usb (.reset (.discard nowMs))

/-- The inactivity timeout of an upload is over when its work item runs. -/
def TimesOut (moment : KeyMoment) : Prop :=
  ∃ env id, moment.event = .usb (.outside (.timeoutWork env)) ∧
    moment.before.world.timeoutOwner = some id ∧
    (moment.before.world.contexts id).dynamicActive = true ∧
    (moment.before.world.contexts id).dynamicDeadlineMs ≤ env.clock .timeout

/-- A DYNAMIC_CLEAR of the slot is accepted. -/
def ClearsSlot (slot : Nat) (moment : KeyMoment) : Prop :=
  ∃ exchange, frameOf moment = some exchange ∧ exchange.opcode = some .dynamicClear ∧
    exchange.accepted = true ∧ exchange.request.slot.toNat = slot

/-- A press types the text of the slot. -/
def TypesSlot (cfg : Config) (slot : Nat) (moment : KeyMoment) : Prop :=
  ∃ param1 env result, moment.event = .pressed .runtimeMacroDynamic param1 env result ∧
    param1.toNat = slot ∧ (typedText cfg moment).isSome

theorem clearCommitted_fold_gone {order : List Nat} {slot : Nat} (member : slot ∈ order)
    (d : DynamicStore) :
    ((order.foldl (fun d slot => DynamicStore.clearCommitted slot d) d).slots
      slot).committedValid = false := by
  induction order generalizing d with
  | nil => cases member
  | cons head tail ih =>
    rw [List.foldl_cons]
    rcases clearCommitted_fold_slots tail (DynamicStore.clearCommitted head d) slot with
      same | ⟨_, emptied⟩
    · rcases List.mem_cons.mp member with rfl | later
      · rw [same]
        simp [DynamicStore.clearCommitted, DynamicStore.clearedSlot]
      · exact ih later _
    · exact emptied.valid

theorem resetClear_world {env : Env} (step : UsbHid.Step cfg hmac s (.reset (.clear env)) s') :
    ∃ reset statusAfter, s.reset = some reset ∧ reset.point = .reclaimed statusAfter ∧
      s'.world = if cfg.dynamicClearOnUsbDisconnect = true ∧
        reset.actualManagementUsbDisconnect statusAfter = true then s.world.clearAll cfg env
      else s.world := by
  cases step with
  | reset step =>
    cases step with
    | clear held point => exact ⟨_, _, held, point, rfl⟩

theorem resetDiscard_world {nowMs : Int}
    (step : UsbHid.Step cfg hmac s (.reset (.discard nowMs)) s') :
    s'.world = s.world.discard cfg usbContext nowMs := by
  cases step with
  | reset step =>
    cases step
    rfl

/-- The lifecycle events that clear do what
`zmk_runtime_macro_dynamic_clear_all` does, and nothing else to the world. -/
theorem clears_world (step : KeyboardStep cfg hmac moment.before moment.event moment.after)
    (clears : Clears cfg moment) :
    ∃ env, moment.after.world = moment.before.world.clearAll cfg env := by
  obtain ⟨before, event, after⟩ := moment
  have listened : ∀ {listens : Bool} {env : Env}, listens = true →
      after.world = (dynamicListener cfg listens true env before.world).2 →
      ∃ env, after.world = before.world.clearAll cfg env := by
    intro listens env on world
    rw [dynamicListener_world, if_pos on] at world
    exact ⟨env, world⟩
  cases event with
  | profileChanged env | endpointChanged env =>
    exact listened clears (congrArg Transport.world step)
  | usb event =>
    cases event with
    | reset event =>
      cases event with
      | clear env =>
        obtain ⟨on, reset, statusAfter, held, point, disconnected⟩ := clears
        obtain ⟨_, _, held', point', world⟩ := resetClear_world step.2
        cases held'.symm.trans held
        cases point'.symm.trans point
        rw [if_pos ⟨on, disconnected⟩] at world
        exact ⟨env, world⟩
      | _ => exact clears.elim
    | _ => exact clears.elim
  | _ => exact clears.elim

theorem clears_gone {slot : Nat}
    (step : KeyboardStep cfg hmac moment.before moment.event moment.after)
    (clears : Clears cfg moment) (inside : DynamicStore.slotIsValid cfg slot = true) :
    moment.after.world.dynamic.stagingActive = false ∧
      (moment.after.world.dynamic.slots slot).committedValid = false := by
  obtain ⟨env, world⟩ := clears_world step clears
  have member : slot ∈ List.range cfg.dynamicSlotCount := by
    simpa [DynamicStore.slotIsValid] using inside
  rw [world]
  exact ⟨rfl, clearCommitted_fold_gone member moment.before.world.dynamic⟩

theorem discards_gone (step : KeyboardStep cfg hmac moment.before moment.event moment.after)
    (discards : Discards moment) : moment.after.world.dynamic.stagingActive = false := by
  obtain ⟨nowMs, event⟩ := discards
  rw [event] at step
  rw [resetDiscard_world step.2]
  rfl

theorem timeoutWork_world {env : Env}
    (step : UsbHid.Step cfg hmac s (.outside (.timeoutWork env)) s') :
    s'.world = s.world.dynamicTimeoutWorkHandler cfg env := by
  cases step with
  | outside elsewhere step => exact step

theorem timesOut_gone (step : KeyboardStep cfg hmac moment.before moment.event moment.after)
    (timesOut : TimesOut moment) : moment.after.world.dynamic.stagingActive = false := by
  obtain ⟨env, id, event, owner, active, past⟩ := timesOut
  rw [event] at step
  rw [timeoutWork_world step.2, World.dynamicTimeoutWorkHandler, owner]
  dsimp only
  rw [if_neg (by simp [active]), if_neg (by omega)]
  rfl

theorem expireSlot_unstaged (slot : Nat) (d : DynamicStore) :
    ¬ ((DynamicStore.expireSlot slot d).stagingActive = true ∧
      (DynamicStore.expireSlot slot d).stagingSlot = slot) := by
  unfold DynamicStore.expireSlot
  dsimp only
  split
  · simp [DynamicStore.cancelStaging]
  next other => exact other

/-- Nothing is staged for a slot that was cleared. -/
theorem clearsSlot_unstaged {slot : Nat} (effect : KeyEffect cfg hmac moment)
    (clears : ClearsSlot slot moment) : ¬ StagedFor slot moment.after := by
  obtain ⟨exchange, frame, isClear, accepted, rfl⟩ := clears
  obtain ⟨step, _⟩ := key_frame effect frame
  have result := step.result
  rcases SlotIsolation.processFrame_clear cfg hmac exchange.env exchange.id
    moment.before.world isClear with ⟨_, refused⟩ | ⟨valid, cleared⟩
  · rw [result] at refused
    exact absurd (accepted_iff.mp accepted) refused
  · rw [result] at cleared
    rw [StagedFor, show moment.after.world = _ from cleared, SlotIsolation.slotCleared_dynamic,
      DynamicStore.clearSlot, if_neg (by simp [valid])]
    exact expireSlot_unstaged _ _

theorem clearsSlot_gone {slot : Nat} (effect : KeyEffect cfg hmac moment)
    (clears : ClearsSlot slot moment) :
    (moment.after.world.dynamic.slots slot).committedValid = false := by
  obtain ⟨exchange, frame, isClear, accepted, rfl⟩ := clears
  exact SlotIsolation.clear_gone (key_frame effect frame).1 isClear (accepted_iff.mp accepted)

/-- A text that is still there after it was typed was to be kept. -/
theorem types_consumes {slot : Nat}
    (step : KeyboardStep cfg hmac moment.before moment.event moment.after)
    (types : TypesSlot cfg slot moment)
    (valid : (moment.after.world.dynamic.slots slot).committedValid = true) :
    (moment.after.world.dynamic.slots slot).committedConsumeOnAccept = false := by
  obtain ⟨before, event, after⟩ := moment
  obtain ⟨param1, env, result, rfl, rfl, typed⟩ := types
  obtain ⟨text, typed⟩ := Option.isSome_iff_exists.mp typed
  cases typedText_pressed typed
  obtain ⟨world, pressed, same⟩ := step
  have left : after.world = world := congrArg Transport.world same
  rcases runtimeMacroDynamic_pressed pressed with ⟨_, refused, _⟩ | ⟨_, executed⟩
  · cases refused
  dsimp only at valid ⊢
  rw [left] at valid ⊢
  rcases executeSlot_cases (executeSlot_world executed) with
    ⟨handed, _⟩ | ⟨entry, _, _, _, expired, _, ⟨_, _, consumed⟩ | ⟨refused | policy, kept⟩⟩
  · simp [typedText, handed] at typed
  · rw [show world.dynamic = _ from consumed, DynamicStore.rearmTtl_slots] at valid
    simp [DynamicStore.clearCommitted, DynamicStore.clearedSlot] at valid
  · exact absurd rfl refused
  · rw [show world.dynamic = _ from kept, DynamicStore.expireDue_slots, expired]
    exact policy

/-- A text comes from one complete upload. From its BEGIN to its commit the
store was staging it, and no reset, clear or timeout came; since its commit it
was neither replaced nor cleared, nor typed if it was to be typed once. -/
structure Genuine (cfg : Config) (slot : Nat) (origin : Origin) : Prop where
  begun : frameOf origin.begin = some origin.opening ∧ begins origin.opening = true
  completed : frameOf origin.commit = some origin.closing ∧ appends origin.closing = true
  target : origin.opening.request.slot.toNat = slot
  same : ∀ chunk ∈ origin.chunks, chunk.request.requestId = origin.opening.request.requestId ∧
    chunk.request.slot = origin.opening.request.slot ∧
    chunk.request.totalLength = origin.opening.request.totalLength
  whole : origin.text.length = origin.opening.request.totalLength
  unopened : ∀ exchange ∈ framesOf origin.since, begins exchange = false
  staged : ∀ moment ∈ origin.since, StagedFor slot moment.after
  uninterrupted : ∀ moment ∈ origin.since, ¬ Clears cfg moment ∧ ¬ Discards moment ∧
    ¬ TimesOut moment ∧ ¬ ClearsSlot slot moment
  uncleared : ∀ moment ∈ origin.later, ¬ Clears cfg moment ∧ ¬ ClearsSlot slot moment
  unreplaced : ∀ moment ∈ origin.later, ¬ Commits slot moment
  unconsumed : beginConsumes origin.opening.request = true →
    ∀ moment ∈ origin.later, ¬ TypesSlot cfg slot moment

/-- What was collected step by step is what the statement asks of an origin. -/
theorem Kept.genuine {slot : Nat} {entry : DynamicSlot} {origin : Origin}
    (kept : Kept cfg past slot entry origin)
    (steps : ∀ moment ∈ past, KeyboardStep cfg hmac moment.before moment.event moment.after) :
    Genuine cfg slot origin := by
  have since : ∀ moment ∈ origin.since, moment ∈ past := by
    intro moment member
    rw [kept.history]
    simp [Origin.history, member]
  have later : ∀ moment ∈ origin.later, moment ∈ past := by
    intro moment member
    rw [kept.history]
    simp [Origin.history, member]
  have there : ∀ moment ∈ origin.later,
      (moment.after.world.dynamic.slots slot).committedValid = true := by
    intro moment member
    rw [(kept.kept moment member).2]
    exact kept.holds.valid
  have staged : ∀ moment ∈ origin.since, StagedFor slot moment.after := by
    intro moment member
    rw [← kept.target]
    exact kept.alive.staged moment member
  refine ⟨⟨kept.alive.frame, kept.alive.opened⟩, ⟨kept.frame, kept.completes⟩, kept.target,
    kept.same, kept.whole, kept.alive.unopened, staged, ?_, ?_, kept.unreplaced, ?_⟩
  · intro moment member
    have step := steps moment (since moment member)
    have active := (staged moment member).1
    refine ⟨fun clears => ?_, fun discards => ?_, fun timesOut => ?_, fun clears => ?_⟩
    · cases (clears_gone step clears kept.inside).1.symm.trans active
    · cases (discards_gone step discards).symm.trans active
    · cases (timesOut_gone step timesOut).symm.trans active
    · exact clearsSlot_unstaged (key_effect step) clears (staged moment member)
  · intro moment member
    have step := steps moment (later moment member)
    constructor
    · intro clears
      cases (clears_gone step clears kept.inside).2.symm.trans (there moment member)
    · intro clears
      cases (clearsSlot_gone (key_effect step) clears).symm.trans (there moment member)
  · intro consumes moment member types
    have policy := types_consumes (steps moment (later moment member)) types (there moment member)
    rw [(kept.kept moment member).2, kept.holds.policy, consumes] at policy
    cases policy

/-! ## The blocks of a history -/

theorem keyBlocks_snoc (past : List KeyMoment) (moment : KeyMoment) :
    keyBlocks cfg (past ++ [moment]) = recordKeys cfg (keyBlocks cfg past) moment := by
  rw [keyBlocks, List.foldl_append]
  rfl

/-- A block is opened for each text that is accepted. -/
theorem recordKeys_texts (blocks : List Block) (moment : KeyMoment) :
    (recordKeys cfg blocks moment).reverse.map Block.text =
      blocks.reverse.map Block.text ++ (typedText cfg moment).toList := by
  unfold recordKeys
  cases typedText cfg moment with
  | some text => simp
  | none =>
    dsimp only
    split
    · simp [Block.extend]
    · simp

/-- Key events are raised in the newest block only, since the executor holds
one text at a time. -/
theorem recordKeys_raised {blocks : List Block}
    (tracks : TracksBlocks moment.before.world.executor blocks)
    (step : KeyboardStep cfg hmac moment.before moment.event moment.after) :
    (recordKeys cfg blocks moment).reverse.flatMap Block.raised =
      blocks.reverse.flatMap Block.raised ++ raisedKeys [moment] := by
  obtain ⟨before, event, after⟩ := moment
  cases event with
  | pressed =>
    unfold recordKeys
    split
    · simp [raisedKeys]
    · simp [raisedKeys]
  | executorWork env raised =>
    cases tracks with
    | idle _ unscheduled => cases unscheduled.symm.trans step.1
    | busy => simp [recordKeys, typedText, raisedKeys, Block.extend]
  | _ => simp [recordKeys, typedText, raisedKeys]

/-- The invariant of the keyboard: staging and slots have their origins in the
history, and the key events raised so far are those of the texts the executor
has taken. -/
structure Sound (cfg : Config) (past : List KeyMoment) (s : Transport) : Prop where
  device : DeviceSound cfg s.world
  follows : Follows past s
  staging : Staging cfg past s
  uploaded : Uploaded cfg past s
  tracks : TracksBlocks s.world.executor (keyBlocks cfg past)
  raised : raisedKeys past = (keyBlocks cfg past).reverse.flatMap Block.raised
  texts : (keyBlocks cfg past).reverse.map Block.text = past.filterMap (typedText cfg)

theorem DeviceSound.key (sound : DeviceSound cfg moment.before.world)
    (effect : KeyEffect cfg hmac moment) : DeviceSound cfg moment.after.world := by
  cases effect with
  | called _ step => exact sound.world step
  | loaded name length readCb _ same =>
    have step : DeviceStep cfg hmac _ (.settingsSet name length readCb) _ := same
    exact sound.step step
  | committed saveErr _ same =>
    have step : DeviceStep cfg hmac _ (.settingsCommit saveErr) _ := same
    exact sound.step step
  | discarded _ _ same | typed _ _ same =>
    rw [same]
    exact ⟨sound.core, sound.credentialed, sound.sized, sound.spelled⟩

/-- The whole invariant along a run, each part by its own step lemma. -/
theorem run_sound (run : Run (Traced (KeyboardStep cfg hmac)) (.boot cfg settings) moments s) :
    Sound cfg moments s := by
  refine run.history (Sound cfg) ?_ ?_
  · refine ⟨DeviceSound.boot settings, ⟨Composed.of_idle rfl, Identifies.of_dropped rfl, ?_⟩, ?_,
      ?_, .idle rfl rfl ⟨rfl, rfl, rfl, rfl⟩ ?_, rfl, rfl⟩
    · simp [framesOf]
    · exact fun active => by cases active
    · exact fun slot valid => by cases valid
    · simp [keyBlocks]
  · intro past before moment after _ sound step
    obtain ⟨rfl, rfl, step⟩ := step
    have effect := key_effect step
    have follows := sound.follows.step effect
    refine ⟨DeviceSound.key sound.device effect, follows,
      sound.staging.step follows effect,
      sound.uploaded.step sound.follows sound.staging effect, ?_, ?_, ?_⟩
    · rw [keyBlocks_snoc]
      exact sound.tracks.key sound.device.sized sound.uploaded.holdsTexts step
    · rw [keyBlocks_snoc, recordKeys_raised sound.tracks step, ← sound.raised]
      exact List.flatMap_append
    · rw [keyBlocks_snoc, recordKeys_texts, sound.texts, List.filterMap_append]
      cases typed : typedText cfg moment <;> simp [typed]

/-- What an accepted press of a dynamic binding types is the text in its slot,
which is not due. -/
theorem typed_entry {before after : Transport} {param1 : UInt32} {env : Env} {text : List UInt8}
    (step : KeyboardStep cfg hmac before (.pressed .runtimeMacroDynamic param1 env 0) after)
    (typed : typedText cfg ⟨before, .pressed .runtimeMacroDynamic param1 env 0, after⟩ =
      some text) :
    param1.toNat < cfg.dynamicSlotCount ∧
      (before.world.dynamic.slots param1.toNat).committedValid = true ∧
      text = (before.world.dynamic.slots param1.toNat).committed.take
        (before.world.dynamic.slots param1.toNat).committedLength ∧
      DynamicStore.due (env.clock .operation) (before.world.dynamic.slots param1.toNat) =
        false := by
  obtain ⟨world, pressed, _⟩ := step
  rcases runtimeMacroDynamic_pressed pressed with ⟨_, refused, _⟩ | ⟨inside, executed⟩
  · cases refused
  rcases executeSlot_cases (executeSlot_world executed) with
    ⟨handed, _⟩ | ⟨entry, handed, rfl, valid, expired, _, _⟩
  · simp [typedText, handed] at typed
  · simp only [typedText, handed, if_true, Option.map_some, Option.some.injEq] at typed
    refine ⟨inside, valid, typed.symm, ?_⟩
    rw [← Bool.not_eq_true]
    intro late
    have emptied : DynamicStore.expiredSlots cfg (env.clock .operation) before.world.dynamic
        param1.toNat = DynamicStore.clearedSlot (before.world.dynamic.slots param1.toNat) := by
      simp [DynamicStore.expiredSlots, DynamicStore.slotIsValid, inside, late]
    rw [emptied] at expired
    rw [← expired] at valid
    cases valid

/-- Until the deadline of its upload, and no longer, a text can be typed. -/
theorem Kept.timely {slot : Nat} {entry : DynamicSlot} {origin : Origin} {nowMs : Int}
    (kept : Kept cfg past slot entry origin) (alive : DynamicStore.due nowMs entry = false)
    (uptime : 0 ≤ origin.closing.env.clock .commit) : nowMs < origin.deadlineMs := by
  have deadline : entry.ttlDeadlineMs = origin.deadlineMs := kept.holds.deadline
  have positive : 1 ≤ beginTtlSeconds origin.opening.request := kept.alive.valid.atLeast
  have later : 0 < origin.deadlineMs := by
    unfold Origin.deadlineMs
    omega
  simp only [DynamicStore.due, DynamicStore.armed, kept.holds.valid, deadline, Bool.true_and,
    Bool.and_eq_false_iff, bne_eq_false_iff_eq, decide_eq_false_iff_not] at alive
  omega

/-- On every run of the keyboard the key events are those of the texts that
accepted presses handed over, one block each and in order, whole unless the
work could not be scheduled. The text of a static press is that of its slot.
The text of a dynamic press is that of one upload to its slot, complete, not
interrupted and not expired, and from its commit on not replaced, cleared or
already consumed. -/
theorem key_events_have_origins
    (run : Run (Traced (KeyboardStep cfg hmac)) (.boot cfg settings) moments s) :
    raisedKeys moments = (keyBlocks cfg moments).reverse.flatMap Block.raised ∧
    (keyBlocks cfg moments).reverse.map Block.text = moments.filterMap (typedText cfg) ∧
    (s.world.executor.busy = false → s.world.executor.Zeroed ∧
      ∀ block ∈ keyBlocks cfg moments, block.Ended) ∧
    (s.world.executor.busy = true → ∃ newest older, keyBlocks cfg moments = newest :: older ∧
      TypingTrace.UnderWay s.world.executor newest ∧ ∀ block ∈ older, block.Ended) ∧
    ∀ front press back text, moments = front ++ press :: back →
      typedText cfg press = some text →
      (∃ param1 env, press.event = .pressed .runtimeMacro param1 env 0 ∧
        param1.toNat < cfg.slotCount ∧
        text = press.before.world.slots.textOf param1.toNat) ∨
      ∃ param1 env origin, press.event = .pressed .runtimeMacroDynamic param1 env 0 ∧
        param1.toNat < cfg.dynamicSlotCount ∧ front = origin.history ∧
        Genuine cfg param1.toNat origin ∧ text = origin.text ∧
        (0 ≤ origin.closing.env.clock .commit → env.clock .operation < origin.deadlineMs) := by
  have sound := run_sound run
  refine ⟨sound.raised, sound.texts, ?_, ?_, ?_⟩
  · intro idle
    have tracks := sound.tracks
    generalize keyBlocks cfg moments = blocks at tracks
    cases tracks with
    | idle _ _ zeroed ended => exact ⟨zeroed, ended⟩
    | busy busy => cases idle.symm.trans busy
  · intro busy
    have tracks := sound.tracks
    generalize keyBlocks cfg moments = blocks at tracks
    cases tracks with
    | idle idle => cases idle.symm.trans busy
    | busy _ _ running ended =>
      exact ⟨_, _, rfl, TypingTrace.underWay_of_running running busy, ended⟩
  · rintro front press back text rfl typed
    obtain ⟨_, _, earlier, ⟨rfl, rfl, step⟩, _⟩ := run.around
    obtain ⟨before, event, after⟩ := press
    cases event with
    | pressed behavior param1 env result =>
      cases typedText_pressed typed
      cases behavior with
      | runtimeMacro =>
        obtain ⟨world, pressed, _⟩ := step
        rcases runtimeMacro_pressed pressed with ⟨_, refused, _⟩ | ⟨inside, _⟩
        · cases refused
        · exact Or.inl ⟨param1, env, rfl, inside, (Option.some.inj typed).symm⟩
      | runtimeMacroDynamic =>
        obtain ⟨inside, valid, rfl, alive⟩ := typed_entry step typed
        obtain ⟨origin, kept⟩ := (run_sound earlier).uploaded param1.toNat valid
        exact Or.inr ⟨param1, env, origin, rfl, inside, kept.history,
          kept.genuine earlier.moment_step, kept.holds.text, kept.timely alive⟩
    | _ => cases typed

/-! ## A text uploaded over USB and typed -/

/-- The upload is typed at once. -/
theorem key_events_have_origins_sample :
    ∃ front origin, front = origin.history ∧ Genuine .default 1 origin ∧
      origin.text = [72, 105, 33] := by
  have bind : Traced (KeyboardStep .default AuthCore.sampleHmac) (.boot .default .empty)
      ⟨.boot .default .empty, .usb .bind, UsbHid.connected⟩ UsbHid.connected :=
    ⟨rfl, rfl, rfl, .bind⟩
  obtain ⟨first, s₁, began, _, _, rest, bound, world₁⟩ := keyboard_serves .default
    AuthCore.sampleHmac (.still 0) DynamicCommit.samplePlan.beginFrame UsbHid.connected_atRest rfl
  obtain ⟨second, s₂, sent, _, _, rest, bound, world₂⟩ := keyboard_serves .default
    AuthCore.sampleHmac (.still 5) (DynamicCommit.samplePlan.dataFrame [] [72]) rest bound
  obtain ⟨third, s₃, ended, _, _, _, _, world₃⟩ := keyboard_serves .default AuthCore.sampleHmac
    (.still 9) (DynamicCommit.samplePlan.dataFrame [72] [105, 33]) rest bound
  have uploaded : s₃.world = DynamicCommit.sampleLast.2 := by
    rw [world₃, world₂, world₁]
    rfl
  have granted : (MacroBehavior.runtimeMacroDynamic.bindingPressed .default (.still 20) 1
      s₃.world).1 = 0 := by
    rw [uploaded]
    decide +kernel
  let press : KeyMoment := ⟨s₃, .pressed .runtimeMacroDynamic 1 (.still 20) 0, { s₃ with
    world := (MacroBehavior.runtimeMacroDynamic.bindingPressed .default (.still 20) 1
      s₃.world).2 }⟩
  have pressed : Traced (KeyboardStep .default AuthCore.sampleHmac) s₃ press press.after :=
    ⟨rfl, rfl, _, Prod.ext granted rfl, rfl⟩
  have typed : typedText .default press = some [72, 105, 33] := by
    simp only [typedText, press, uploaded]
    decide +kernel
  have run := ((((Run.single bind).append began).append sent).append ended).snoc pressed
  obtain ⟨_, _, _, _, origins⟩ := key_events_have_origins run
  rcases origins _ press [] _ rfl typed with ⟨_, _, static, _⟩ | ⟨_, _, origin, dynamic, _, history,
    genuine, text, _⟩
  · cases static
  · cases dynamic
    exact ⟨_, origin, history, genuine, text.symm⟩

end RuntimeMacro.Guarantees.TypedTexts
