import RuntimeMacro.Guarantees.DynamicCommit

/-!
# Dynamic uploads of several contexts

runtime_macro_dynamic.c:184-268; docs/DYNAMIC_PROTOCOL.md:275-308. The contexts
share one staging, and the staging knows an upload by its slot and by the
number of bytes received. What a DATA frame commits is therefore the upload of
the frames on all contexts: the BEGIN accepted last and the DATA frames
accepted since, wherever they arrived. It is the upload of the frame's own
context exactly when that BEGIN was.
-/
namespace RuntimeMacro.Guarantees.ContextMixing
open Source Source.Protocol Foundations.Runs Foundations.Transfers
open AuthCore (Hmac)
open DynamicCommit (Replaced replaced_of_append replaced_of_empty not_replaced_of_quiet
  not_replaced_of_expired)

variable {cfg : Config} {hmac : Hmac} {settings : Settings} {w w' : World}
  {history : List WorldEvent} {event : WorldEvent} {last : Exchange} {past : List Exchange}
  {source own : Transfer Exchange} {slot : Nat} {id : ContextId}

/-! ## What a commit is made of -/

/-- The text in the slot is the one uploaded by the frames of `upload` and by
`last`. -/
def HoldsUpload (upload : Transfer Exchange) (last : Exchange) (entry : DynamicSlot) : Prop :=
  HoldsText upload.first.request (uploadText (upload.parts ++ [last])) (last.env.clock .commit)
    entry

/-- The upload of the context of `last`: the BEGIN accepted last on it, the
DATA frames accepted on it since, and `last` accepted as well. -/
structure OwnUpload (history : List WorldEvent) (last : Exchange) (upload : Transfer Exchange) :
    Prop where
  current : latest begins appends (exchangesOn last.id (exchanges history)) = some upload
  accepted : appends last = true

/-- The BEGIN accepted last on any context was one on `id`. -/
def LastBeganOn (id : ContextId) (past : List Exchange) : Prop :=
  ∃ begin, (past.filter begins).getLast? = some begin ∧ begin.id = id

/-- Only a DATA frame replaces a text, by the upload of the frames on all
contexts. Which context they came on does not matter to the store. -/
theorem replaced_by_data (composed : Composed (exchanges history) w.dynamic)
    (step : WorldStep cfg hmac w event w')
    (replaced : Replaced (w.dynamic.slots slot) (w'.dynamic.slots slot)) :
    ∃ last source, event = .frame last ∧ DataTaken cfg last.env last.id last.request w ∧
      (last.request.offset + last.request.payloadLength = last.request.totalLength →
        appends last = true) ∧
      latest begins appends (exchanges history) = some source ∧
      Stages source.first.request (uploadText source.parts) w.dynamic ∧
      (uploadText (source.parts ++ [last])).length = source.first.request.totalLength ∧
      slot = source.first.request.slot.toNat ∧ HoldsUpload source last (w'.dynamic.slots slot) := by
  cases event with
  | frame last =>
    have made : ∀ data : DataTaken cfg last.env last.id last.request w,
        w'.dynamic.slots slot = (dataAppend cfg last.env last.request w).2.slots slot →
        ∃ source, latest begins appends (exchanges history) = some source ∧
          Stages source.first.request (uploadText source.parts) w.dynamic ∧
          (uploadText (source.parts ++ [last])).length = source.first.request.totalLength ∧
          slot = source.first.request.slot.toNat ∧
          HoldsUpload source last (w'.dynamic.slots slot) := by
      intro data same
      obtain ⟨source, current, stages⟩ := composed data.stagingActive
      rw [same] at replaced ⊢
      obtain ⟨whole, target, holds⟩ := replaced_of_append data stages replaced
      exact ⟨source, current, stages, whole, target, holds⟩
    cases FrameStep.dynamic step with
    | passive _ store => exact absurd replaced (not_replaced_of_quiet store.quiet slot)
    | cleared _ _ store => exact absurd replaced (not_replaced_of_quiet store slot)
    | started _ _ _ _ slots => exact absurd replaced (not_replaced_of_expired slots slot)
    | completed data status _ _ store =>
      obtain ⟨source, composed⟩ := made data (by rw [store])
      have accepted : appends last = true :=
        appends_iff.mpr ⟨data.isData, accepted_iff.mpr status⟩
      exact ⟨last, source, rfl, data, fun _ => accepted, composed⟩
    | received data status _ store =>
      obtain ⟨source, composed⟩ := made data (by rw [store])
      have accepted : appends last = true :=
        appends_iff.mpr ⟨data.isData, accepted_iff.mpr status⟩
      exact ⟨last, source, rfl, data, fun _ => accepted, composed⟩
    | failed data _ partly _ store =>
      -- The commit came before the timeout failed; its text is not among those that expired.
      have same : w'.dynamic.slots slot =
          (dataAppend cfg last.env last.request w).2.slots slot := by
        have passive : Passive last.env _ _ := cancelStagingNow_passive cfg .cleanup
          (dataAppend cfg last.env last.request w).2
        rw [← store] at passive
        rcases passive.slots slot with kept | ⟨_, _, emptied⟩
        · exact kept
        · have valid := replaced.1
          rw [emptied] at valid
          cases valid
      obtain ⟨source, composed⟩ := made data same
      exact ⟨last, source, rfl, data, fun complete => absurd complete partly, composed⟩
  | _ => exact absurd replaced (not_replaced_of_quiet (quiet_of_event step rfl 0).1 slot)

/-! ## Whose upload it is -/

/-- Accepted DATA frames carry something, since the length check refuses an
empty one. -/
theorem run_chunks_nonempty (run : Run (WorldStep cfg hmac) (.boot cfg settings) history w) :
    ∀ exchange ∈ exchanges history, appends exchange = true → exchange.chunk ≠ [] := by
  refine run.history (fun past _ => ∀ exchange ∈ exchanges past, appends exchange = true →
    exchange.chunk ≠ []) (by simp [exchanges]) ?_
  intro past w event w' _ nonempty step exchange member appended
  rw [exchanges_append, List.mem_append] at member
  rcases member with earlier | newest
  · exact nonempty exchange earlier appended
  · cases event with
    | frame last =>
      cases List.mem_singleton.mp newest
      have data := appends_taken step appended
      intro empty
      have length := Exchange.chunk_length data.sized
      rw [empty] at length
      exact data.valid.nonempty length.symm
    | _ => cases newest

/-- A context that staged as many bytes as the store staged all of them, when
its own BEGIN opened the staging. -/
theorem own_of_same_length (current : latest begins appends past = some source)
    (onOwn : latest begins appends (exchangesOn id past) = some own)
    (nonempty : ∀ exchange ∈ past, appends exchange = true → exchange.chunk ≠ [])
    (opened : source.first.id = id)
    (same : (uploadText own.parts).length = (uploadText source.parts).length) : own = source := by
  have filtered : latest begins appends (exchangesOn id past) =
      some ⟨source.first, source.parts.filter fun exchange => exchange.id == id⟩ :=
    latest_filter current (by simpa using opened)
  cases onOwn.symm.trans filtered
  have carry : ∀ part ∈ source.parts, part.chunk ≠ [] := by
    intro part member
    obtain ⟨front, since, split, _, _, parts⟩ := latest_split current
    rw [parts, List.mem_filter] at member
    exact nonempty part (by simp [split, member.1]) member.2
  rw [filter_of_carried carry same]

/-- The BEGIN that opens the upload of a context was a frame on it. -/
theorem own_first (onOwn : latest begins appends (exchangesOn id past) = some own) :
    own.first.id = id := by
  obtain ⟨front, since, split, _⟩ := latest_split onOwn
  have member : own.first ∈ exchangesOn id past := by simp [split]
  simpa using (List.mem_filter.mp member).2

/-- On every run, with frames on any contexts in any order: a text is
replaced only by a DATA frame, it is made of the BEGIN accepted last on any
context and of the DATA since, and that is the upload of the frame's own
context exactly when no other context had a BEGIN accepted after the last one
accepted there. -/
theorem commit_is_own (cfg : Config) (hmac : Hmac) (settings : Settings)
    (history : List WorldEvent) (w : World) (event : WorldEvent) (w' : World) (slot : Nat)
    (run : Run (WorldStep cfg hmac) (.boot cfg settings) history w)
    (step : WorldStep cfg hmac w event w')
    (replaced : Replaced (w.dynamic.slots slot) (w'.dynamic.slots slot)) :
    ∃ last source, event = .frame last ∧ last.opcode = some .dynamicData ∧
      latest begins appends (exchanges history) = some source ∧
      slot = source.first.request.slot.toNat ∧ HoldsUpload source last (w'.dynamic.slots slot) ∧
      (OwnUpload history last source ↔ LastBeganOn last.id (exchanges history)) := by
  obtain ⟨last, source, rfl, data, accepted, current, stages, whole, target, holds⟩ :=
    replaced_by_data (run_composed run) step replaced
  refine ⟨last, source, rfl, data.isData, current, target, holds, ?_⟩
  have latestBegin := latest_first current
  constructor
  · intro isOwn
    exact ⟨source.first, latestBegin, own_first isOwn.current⟩
  · rintro ⟨begin, isLast, onOwn⟩
    cases isLast.symm.trans latestBegin
    obtain ⟨own, ownCurrent, describes⟩ := run_identifies run last.id data.valid.active
    obtain ⟨_, _, _, _, offset, _⟩ := dataAppend_of_stages data stages
    have received := congrArg Upload.receivedLength describes.upload
    have total := congrArg Upload.totalLength describes.upload
    have same : (uploadText own.parts).length = (uploadText source.parts).length := by
      rw [← offset, data.valid.received]
      exact received.symm
    cases own_of_same_length current ownCurrent (run_chunks_nonempty run) onOwn same
    refine ⟨ownCurrent, accepted ?_⟩
    have length := whole
    rw [uploadText_append, List.length_append, Exchange.chunk_length data.sized] at length
    rw [offset, length, ← data.valid.total]
    exact total.symm

/-! ## Two contexts on one slot -/

def samplePlan : Plan where
  requestId := 7
  slot := 1
  options := ⟨none, none⟩
  chunks := [[97, 98], [99, 100]]

/-- The upload of a second client: same slot and same length, under its own
request id. -/
def otherPlan : Plan where
  requestId := 9
  slot := 1
  options := ⟨some 600, some true⟩
  chunks := [[120, 121], [122, 122]]

def sampleFrame (id : ContextId) (request : Frame) (w : World) : Exchange × World :=
  (exchangeOf .default AuthCore.sampleHmac id (.still 5) request w,
    (processFrame .default AuthCore.sampleHmac (.still 5) id request w).2)

/-- The upload of context 0, up to its last frame ... -/
def sampleBegin (w : World) : Exchange × World := sampleFrame 0 samplePlan.beginFrame w

def sampleData (w : World) : Exchange × World :=
  sampleFrame 0 (samplePlan.dataFrame [] [97, 98]) (sampleBegin w).2

/-- ... and its last frame. -/
def sampleLast (w : World) : Exchange × World :=
  sampleFrame 0 (samplePlan.dataFrame [97, 98] [99, 100]) w

/-- Context 1 opens an upload of the same slot ... -/
def otherBegin (w : World) : Exchange × World := sampleFrame 1 otherPlan.beginFrame w

/-- ... and stages as many bytes as context 0 does before its last frame. -/
def otherData (w : World) : Exchange × World :=
  sampleFrame 1 (otherPlan.dataFrame [] [120, 121]) (otherBegin w).2

theorem sampleFrame_step (id : ContextId) (request : Frame) (w : World) :
    WorldStep .default AuthCore.sampleHmac w (.frame (sampleFrame id request w).1)
      (sampleFrame id request w).2 := exchangeOf_step ..

theorem sampleFrame_id (id : ContextId) (request : Frame) (w : World) :
    (sampleFrame id request w).1.id = id := rfl

theorem latest_begin_data {first part : Exchange} (front : List Exchange)
    (begun : begins first = true) (appended : appends part = true) :
    latest begins appends (front ++ [first] ++ [part]) = some ⟨first, [part]⟩ := by
  have opened : latest begins appends (front ++ [first]) = some ⟨first, []⟩ :=
    latest_of_opens begun
  have other : begins part = false := begins_of_data (appends_iff.mp appended).1
  exact latest_of_continues opened other appended

/-- Context 1 restarts the staging between the frames of context 0. -/
def mixed : World := (otherData (sampleData (.boot .default .empty)).2).2

/-- Two clients on two contexts, the second starting while the first is
halfway. -/
def mixedHistory : List WorldEvent :=
  let w := World.boot .default .empty
  [.frame (sampleBegin w).1] ++ [.frame (sampleData w).1] ++
    [.frame (otherBegin (sampleData w).2).1] ++ [.frame (otherData (sampleData w).2).1]

theorem mixed_run :
    Run (WorldStep .default AuthCore.sampleHmac) (.boot .default .empty) mixedHistory mixed :=
  (((Run.single (sampleFrame_step ..)).snoc (sampleFrame_step ..)).snoc
    (sampleFrame_step ..)).snoc (sampleFrame_step ..)

theorem mixed_replaced :
    Replaced (mixed.dynamic.slots 1) ((sampleLast mixed).2.dynamic.slots 1) :=
  replaced_of_empty (by decide +kernel) (by decide +kernel)

/-- The DATA frame of context 0 puts its bytes behind those of context 1 and
commits them with the TTL of context 1. -/
theorem contexts_mixed :
    ((sampleLast mixed).2.dynamic.slots 1).committed.take 4 = [120, 121, 99, 100] ∧
    ¬ ∀ history w event w' slot,
      Run (WorldStep .default AuthCore.sampleHmac) (.boot .default .empty) history w →
      WorldStep .default AuthCore.sampleHmac w event w' →
      Replaced (w.dynamic.slots slot) (w'.dynamic.slots slot) →
      ∃ last own, event = .frame last ∧ OwnUpload history last own ∧
        HoldsUpload own last (w'.dynamic.slots slot) := by
  refine ⟨by decide +kernel, fun owned => ?_⟩
  obtain ⟨last, own, isFrame, isOwn, holds⟩ := owned mixedHistory mixed
    (.frame (sampleLast mixed).1) (sampleLast mixed).2 1 mixed_run (sampleFrame_step ..)
    mixed_replaced
  cases isFrame
  have onContext : exchangesOn 0 (exchanges mixedHistory) =
      [] ++ [(sampleBegin (.boot .default .empty)).1] ++
        [(sampleData (.boot .default .empty)).1] := rfl
  have current := isOwn.current
  rw [show (sampleLast mixed).1.id = 0 from rfl, onContext,
    latest_begin_data [] (by decide) (by decide)] at current
  cases current
  have deadline := holds.deadline
  have committed : ((sampleLast mixed).2.dynamic.slots 1).ttlDeadlineMs = 600005 := by
    decide +kernel
  rw [committed] at deadline
  revert deadline
  decide

/-- Context 1 opens the staging before context 0 restarts it. -/
def restarted : World := (otherBegin (.boot .default .empty)).2

/-- The second client starts first and is overtaken: nothing of its upload is
left in the staging. -/
def restartedHistory : List WorldEvent :=
  [.frame (otherBegin (.boot .default .empty)).1] ++ [.frame (sampleBegin restarted).1] ++
    [.frame (sampleData restarted).1]

/-- The upload of context 1 is overtaken by a BEGIN of context 0, whose DATA
then commits its own text. -/
theorem commit_is_own_sample :
    OwnUpload restartedHistory (sampleLast (sampleData restarted).2).1
      ⟨(sampleBegin restarted).1, [(sampleData restarted).1]⟩ := by
  have run : Run (WorldStep .default AuthCore.sampleHmac) (.boot .default .empty) restartedHistory
      (sampleData restarted).2 :=
    ((Run.single (sampleFrame_step ..)).snoc (sampleFrame_step ..)).snoc (sampleFrame_step ..)
  have replaced : Replaced ((sampleData restarted).2.dynamic.slots 1)
      ((sampleLast (sampleData restarted).2).2.dynamic.slots 1) :=
    replaced_of_empty (by decide +kernel) (by decide +kernel)
  obtain ⟨last, source, isFrame, _, current, _, _, own⟩ := commit_is_own .default
    AuthCore.sampleHmac .empty restartedHistory (sampleData restarted).2
    (.frame (sampleLast (sampleData restarted).2).1) (sampleLast (sampleData restarted).2).2 1 run
    (sampleFrame_step 0 (samplePlan.dataFrame [97, 98] [99, 100]) (sampleData restarted).2) replaced
  have sameFrame := WorldEvent.frame.inj isFrame
  have latestUpload : latest begins appends (exchanges restartedHistory) =
      some ⟨(sampleBegin restarted).1, [(sampleData restarted).1]⟩ :=
    latest_begin_data [(otherBegin (.boot .default .empty)).1] (by decide +kernel)
      (by decide +kernel)
  have sameUpload := Option.some.inj (current.symm.trans latestUpload)
  rw [sameUpload, ← sameFrame] at own
  refine own.mpr ⟨(sampleBegin restarted).1, latest_first latestUpload, ?_⟩
  unfold sampleBegin sampleLast
  rw [sampleFrame_id, sampleFrame_id]

end RuntimeMacro.Guarantees.ContextMixing
