import RuntimeMacro.Guarantees.TypedTexts
import RuntimeMacro.Source.Computer

/-!
# What the computer reads

runtime_macro_ascii.c:24-138; runtime_macro_executor.c:99-191. On every run of
the keyboard a computer with the US layout reads the texts of the presses that
were accepted, one after the other and nothing else. A text is cut short only
where the work item could not be scheduled, and no key is left down.
-/
namespace RuntimeMacro.Guarantees.ReadTexts
open Source Foundations Foundations.Runs Foundations.KeyReaders
open Foundations.KeyReaders.Layout
open AuthCore (Hmac)
open UsbHid (Transport)
open SlotStore (textIsValid)
open TypedTexts (run_sound keyBlocks_snoc typed_entry Origin)

variable {cfg : Config} {hmac : Hmac} {settings : Settings} {s : Transport}
  {moments : List KeyMoment} {blocks : List Block}

/-! ## The texts of the presses -/

/-- What an accepted DATA frame carries is over the alphabet. -/
theorem chunk_valid {moment : KeyMoment}
    (step : KeyboardStep cfg hmac moment.before moment.event moment.after) {exchange : Exchange}
    (frame : frameOf moment = some exchange) (appended : appends exchange = true) :
    textIsValid exchange.chunk = true := by
  obtain ⟨served, _⟩ := key_frame (key_effect step) frame
  exact (appends_taken served appended).valid.alphabet

/-- The bytes of an upload were checked chunk by chunk when they came. -/
theorem origin_valid {origin : Origin} (steps : ∀ moment ∈ origin.history,
      KeyboardStep cfg hmac moment.before moment.event moment.after)
    (frame : frameOf origin.commit = some origin.closing)
    (completes : appends origin.closing = true) : textIsValid origin.text = true := by
  have chunks : ∀ exchange ∈ origin.chunks, textIsValid exchange.chunk = true := by
    intro exchange member
    rcases List.mem_append.mp member with earlier | last
    · obtain ⟨since, appended⟩ := List.mem_filter.mp earlier
      obtain ⟨moment, found, carried⟩ := List.mem_filterMap.mp since
      refine chunk_valid (steps moment ?_) carried appended
      simp [Origin.history, found]
    · cases List.mem_singleton.mp last
      refine chunk_valid (steps origin.commit ?_) frame completes
      simp [Origin.history]
  unfold textIsValid Origin.text uploadText
  rw [List.all_eq_true]
  intro byte member
  obtain ⟨chunk, found, inside⟩ := List.mem_flatten.mp member
  obtain ⟨exchange, listed, rfl⟩ := List.mem_map.mp found
  exact List.all_eq_true.mp (chunks exchange listed) byte inside

/-- Every text that is handed over is over the alphabet, whether it is static
or dynamic. -/
theorem typed_valid (run : Run (Traced (KeyboardStep cfg hmac)) (.boot cfg settings) moments s) :
    ∀ text ∈ moments.filterMap (typedText cfg), textIsValid text = true := by
  intro text member
  obtain ⟨press, found, typed⟩ := List.mem_filterMap.mp member
  obtain ⟨front, back, rfl⟩ := List.append_of_mem found
  obtain ⟨_, _, earlier, ⟨rfl, rfl, step⟩, _⟩ := run.around
  have sound := run_sound earlier
  obtain ⟨before, event, after⟩ := press
  cases event with
  | pressed behavior param1 env result =>
    cases typedText_pressed typed
    cases behavior with
    | runtimeMacro =>
      cases Option.some.inj typed
      exact sound.device.spelled _
    | runtimeMacroDynamic =>
      obtain ⟨_, valid, rfl, _⟩ := typed_entry step typed
      obtain ⟨origin, kept⟩ := sound.uploaded param1.toNat valid
      rw [kept.holds.text]
      exact origin_valid (kept.history ▸ earlier.moment_step) kept.frame kept.completes
  | _ => cases typed

/-! ## The blocks -/

/-- Blocks that are over were read as fronts of their texts, and as whole texts
unless the work could not be scheduled. -/
theorem ended_reads (ended : ∀ block ∈ blocks, block.Ended)
    (valid : ∀ block ∈ blocks, textIsValid block.text = true) :
    ∃ parts, usLayout.Reads (blocks.flatMap Block.raised) parts.flatten [] ∧
      List.Forall₂ (· <+: ·) parts (blocks.map Block.text) ∧
      ((∀ block ∈ blocks, block.scheduleFailed = false) → parts = blocks.map Block.text) := by
  induction blocks with
  | nil => exact ⟨[], .nil, .nil, fun _ => rfl⟩
  | cons block blocks ih =>
    rw [List.forall_mem_cons] at ended valid
    obtain ⟨part, read, front, whole⟩ := ended.1.reads valid.1
    obtain ⟨parts, reads, fronts, wholes⟩ := ih ended.2 valid.2
    refine ⟨part :: parts, ?_, .cons front fronts, fun unfailed => ?_⟩
    · rw [List.flatMap_cons, List.flatten_cons]
      exact read.append reads
    · rw [List.forall_mem_cons] at unfailed
      rw [List.map_cons, whole unfailed.1, wholes unfailed.2]

/-- The work item could always be scheduled again. -/
def Unfailing (moments : List KeyMoment) : Prop :=
  ∀ moment ∈ moments, ∀ env raised, moment.event = .executorWork env raised → 0 ≤ env.executorErr

theorem recordKeys_unfailing {moment : KeyMoment}
    (unfailed : ∀ block ∈ blocks, block.scheduleFailed = false)
    (scheduled : ∀ env raised, moment.event = .executorWork env raised → 0 ≤ env.executorErr) :
    ∀ block ∈ recordKeys cfg blocks moment, block.scheduleFailed = false := by
  unfold recordKeys
  split
  · exact List.forall_mem_cons.mpr ⟨rfl, unfailed⟩
  · split
    next env raised newest older event =>
      rw [List.forall_mem_cons] at unfailed ⊢
      refine ⟨?_, unfailed.2⟩
      have accepted := scheduled env raised event
      simp [Block.extend, unfailed.1, accepted]
    · exact unfailed

theorem keyBlocks_unfailing (unfailing : Unfailing moments) :
    ∀ block ∈ keyBlocks cfg moments, block.scheduleFailed = false := by
  induction moments using List.reverseRecOn with
  | nil => simp [keyBlocks]
  | append_singleton past moment ih =>
    rw [keyBlocks_snoc]
    apply recordKeys_unfailing
    · exact ih fun other member => unfailing other (List.mem_append_left _ member)
    · exact unfailing moment (List.mem_append_right _ (List.mem_singleton_self moment))

/-- When nothing is typed every text has been read, whole if the work item
could always be scheduled. -/
theorem idle_reads (run : Run (Traced (KeyboardStep cfg hmac)) (.boot cfg settings) moments s)
    (idle : s.world.executor.busy = false) :
    ∃ parts, computerReads (raisedKeys moments) = ⟨[], parts.flatten⟩ ∧
      List.Forall₂ (· <+: ·) parts (moments.filterMap (typedText cfg)) ∧
      (Unfailing moments → parts = moments.filterMap (typedText cfg)) := by
  have sound := run_sound run
  have tracks := sound.tracks
  have texts := typed_valid run
  have unfailed : Unfailing moments → _ := @keyBlocks_unfailing cfg moments
  rw [computerReads, sound.raised]
  rw [← sound.texts] at texts ⊢
  generalize keyBlocks cfg moments = blocks at tracks texts unfailed
  cases tracks with
  | busy busy => cases idle.symm.trans busy
  | idle _ _ _ ended =>
    obtain ⟨parts, reads, fronts, whole⟩ := @ended_reads blocks.reverse
      (fun block member => ended block (List.mem_reverse.mp member))
      fun block member => texts _ (List.mem_map_of_mem member)
    refine ⟨parts, reads [], fronts, fun unfailing => whole fun block member => ?_⟩
    exact unfailed unfailing block (List.mem_reverse.mp member)

/-- While a text is typed the ones before it have been read, and a front of it.
At most one key is down then. -/
theorem busy_reads (run : Run (Traced (KeyboardStep cfg hmac)) (.boot cfg settings) moments s)
    (busy : s.world.executor.busy = true) :
    ∃ parts texts part last down,
      computerReads (raisedKeys moments) = ⟨down, parts.flatten ++ part⟩ ∧
      moments.filterMap (typedText cfg) = texts ++ [last] ∧
      List.Forall₂ (· <+: ·) parts texts ∧ part <+: last ∧ down.length ≤ 1 ∧
      (Unfailing moments → parts = texts) := by
  have sound := run_sound run
  have tracks := sound.tracks
  have texts := typed_valid run
  have unfailed : Unfailing moments → _ := @keyBlocks_unfailing cfg moments
  rw [computerReads, sound.raised]
  rw [← sound.texts] at texts ⊢
  generalize keyBlocks cfg moments = blocks at tracks texts unfailed
  cases tracks with
  | idle idle => cases idle.symm.trans busy
  | @busy newest older codes _ _ running ended =>
    rw [List.reverse_cons, List.map_append] at texts ⊢
    obtain ⟨parts, reads, fronts, whole⟩ := @ended_reads older.reverse
      (fun block member => ended block (List.mem_reverse.mp member))
      fun block member => texts _ (List.mem_append_left _ (List.mem_map_of_mem member))
    obtain ⟨part, down, last, front, single⟩ := running.reads
    refine ⟨parts, _, part, _, down, ?_, rfl, fronts, front, single, fun unfailing => ?_⟩
    · rw [List.flatMap_append, List.flatMap_singleton]
      exact reads.append last []
    · refine whole fun block member => unfailed unfailing block ?_
      exact List.mem_cons_of_mem _ (List.mem_reverse.mp member)

/-- A computer with the US layout reads the accepted texts in order, each of
them or a front of it. At most one key is down, and none when nothing is typed.
Where the work item could always be scheduled, it has read every text but the
one under way as a whole. -/
theorem computer_reads_texts
    (run : Run (Traced (KeyboardStep cfg hmac)) (.boot cfg settings) moments s) :
    (∃ parts, List.Forall₂ (· <+: ·) parts (moments.filterMap (typedText cfg)) ∧
      (computerReads (raisedKeys moments)).read = parts.flatten) ∧
    (computerReads (raisedKeys moments)).down.length ≤ 1 ∧
    (s.world.executor.busy = false → (computerReads (raisedKeys moments)).down = []) ∧
    (Unfailing moments →
      (s.world.executor.busy = false →
        (computerReads (raisedKeys moments)).read =
          (moments.filterMap (typedText cfg)).flatten) ∧
      (s.world.executor.busy = true → ∃ texts last part,
        moments.filterMap (typedText cfg) = texts ++ [last] ∧ part <+: last ∧
        (computerReads (raisedKeys moments)).read = texts.flatten ++ part)) := by
  cases busy : s.world.executor.busy with
  | false =>
    obtain ⟨parts, reads, fronts, whole⟩ := idle_reads run busy
    rw [reads]
    refine ⟨⟨parts, fronts, rfl⟩, Nat.zero_le 1, fun _ => rfl, fun unfailing => ⟨fun _ => ?_, ?_⟩⟩
    · rw [whole unfailing]
    · intro impossible
      cases impossible
  | true =>
    obtain ⟨parts, texts, part, last, down, reads, split, fronts, front, single, whole⟩ :=
      busy_reads run busy
    rw [reads, split]
    refine ⟨⟨parts ++ [part], List.rel_append fronts (.cons front .nil), ?_⟩, single, ?_,
      fun unfailing => ⟨?_, fun _ => ⟨texts, last, part, rfl, front, ?_⟩⟩⟩
    · rw [List.flatten_append, List.flatten_singleton]
    · intro impossible
      cases impossible
    · intro impossible
      cases impossible
    · rw [whole unfailing]

/-! ## The two letters of one key -/

def sampleLoading : KeyMoment :=
  let boot : Transport := .boot .default .empty
  let readCb : SettingsReadCb := fun _ => (2, [97, 65])
  ⟨boot, .settingsSet (some (ascii "slot/0")) 2 (some readCb),
    { boot with world := boot.world.settingsSet .default (some (ascii "slot/0")) 2 (some readCb) }⟩

def samplePress : KeyMoment :=
  let s := sampleLoading.after
  ⟨s, .pressed .runtimeMacro 0 (.still 7) 0, { s with
    world := (MacroBehavior.runtimeMacro.bindingPressed .default (.still 7) 0 s.world).2 }⟩

def sampleWork (s : Transport) : KeyMoment :=
  let worked := s.world.executor.workHandler 0
  ⟨s, .executorWork (.still 7) worked.1, { s with
    world := { s.world with executor := worked.2 } }⟩

def sampleMoments : List KeyMoment :=
  let first := sampleWork samplePress.after
  let second := sampleWork first.after
  let third := sampleWork second.after
  [sampleLoading, samplePress, first, second, third, sampleWork third.after]

/-- The computer reads "aA". -/
theorem computer_reads_texts_sample :
    (computerReads (raisedKeys sampleMoments)).read = [97, 65] := by
  have loaded : Traced (KeyboardStep .default AuthCore.sampleHmac) (.boot .default .empty)
      sampleLoading sampleLoading.after := ⟨rfl, rfl, rfl⟩
  have granted : (MacroBehavior.runtimeMacro.bindingPressed .default (.still 7) 0
      sampleLoading.after.world).1 = 0 := by decide +kernel
  have pressed : Traced (KeyboardStep .default AuthCore.sampleHmac) sampleLoading.after samplePress
      samplePress.after := ⟨rfl, rfl, _, Prod.ext granted rfl, rfl⟩
  have works : ∀ s : Transport, s.world.executor.work = true →
      Traced (KeyboardStep .default AuthCore.sampleHmac) s (sampleWork s) (sampleWork s).after :=
    fun s pending => ⟨rfl, rfl, pending, _, rfl, rfl⟩
  have run : Run (Traced (KeyboardStep .default AuthCore.sampleHmac)) (.boot .default .empty)
      sampleMoments _ := .cons loaded <| .cons pressed <| .cons (works _ (by decide +kernel)) <|
    .cons (works _ (by decide +kernel)) <| .cons (works _ (by decide +kernel)) <|
      .cons (works _ (by decide +kernel)) <| .nil _
  have unfailing : Unfailing sampleMoments := by
    intro moment member env raised event
    have still : env = .still 7 := by
      simp only [sampleMoments, List.mem_cons, List.not_mem_nil, or_false] at member
      rcases member with rfl | rfl | rfl | rfl | rfl | rfl
      · cases event
      · cases event
      all_goals exact (KeyboardEvent.executorWork.inj event).1.symm
    rw [still]
    exact Int.le_refl 0
  obtain ⟨_, _, _, whole⟩ := computer_reads_texts run
  rw [(whole unfailing).1 (by decide +kernel)]
  decide +kernel

end RuntimeMacro.Guarantees.ReadTexts
