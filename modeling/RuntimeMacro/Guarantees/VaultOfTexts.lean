import RuntimeMacro.Guarantees.ClientCommits
import RuntimeMacro.Guarantees.SlotIsolation
import RuntimeMacro.Guarantees.UsbLink
import RuntimeMacro.Guarantees.WireAgreement
import RuntimeMacro.Source.DynamicVault
import RuntimeMacro.Source.FrameFootprint

/-!
# Over USB the dynamic slots are a vault

tools/runtime_macro_cli.py:766-905; docs/DYNAMIC_PROTOCOL.md:201-216. Any
program of uploads and clears leaves in each dynamic slot what a vault would
hold, whatever was lost, delayed and sent again on the way, and whatever
expired, was typed or was cleared meanwhile. A clear-all reports the slots it
has cleared and no others.
-/
namespace RuntimeMacro.Guarantees.VaultOfTexts
open Source Source.Protocol Source.RuntimeMacroClient Foundations.Links Foundations.Runs
open Foundations.Dialogues Foundations.Dialogues.Dialogue Foundations.Dialogues.Procedure
open ChunkTransactions ClientCommits Relation
open DynamicCommit (Replaced)
open UsbHid (Transport Bus AtRest resting usbContext)
open AuthCore (Hmac)

variable {cfg : Config} {hmac : Hmac} {id : ContextId} {vault vault' : Vault} {s s' : Station}
  {t t' : Delayed Station Frame × Talk} {slot offset : Nat} {next : UInt8} {w w' : World}
  {exchange : Exchange} {text : DynamicText} {α : Type}

/-! ## What a step leaves in the vault -/

theorem held_of_invalid {entry : DynamicSlot} (invalid : entry.committedValid = false) :
    entry.held = none := by
  unfold DynamicSlot.held
  rw [invalid]
  rfl

theorem fades_of_kept {d d' : DynamicStore}
    (kept : ∀ slot, d'.slots slot = d.slots slot ∨ (d'.slots slot).committedValid = false) :
    d.vault.Fades d'.vault := by
  intro slot
  rcases kept slot with same | removed
  · exact Or.inl (congrArg DynamicSlot.held same)
  · exact Or.inr (held_of_invalid removed)

theorem rests_fade (rested : Station.Rests cfg hmac s s') :
    s.world.dynamic.vault.Fades s'.world.dynamic.vault := by
  obtain ⟨event, w', quiet, step, rfl⟩ := rested
  have other : event.exchange? = none := by
    cases event with
    | frame => cases quiet
    | _ => rfl
  exact fades_of_kept (quiet_of_event step other 0).1.slots

theorem rested_fade (rested : ReflTransGen (Station.Rests cfg hmac) s s') :
    s.world.dynamic.vault.Fades s'.world.dynamic.vault := by
  induction rested with
  | refl => exact .refl _
  | tail _ step ih => exact ih.trans (rests_fade step)

/-- The requests after which no slot holds a text it did not hold. -/
def BringsNone (request : Frame) : Prop :=
  baseCheck request = .ok .capabilities ∨ baseCheck request = .ok .dynamicClear

theorem bringsNone_quiet (brings : BringsNone exchange.request)
    (step : FrameStep cfg hmac w exchange w') : w.dynamic.Quiet w'.dynamic := by
  have known : exchange.opcode = some .capabilities ∨ exchange.opcode = some .dynamicClear :=
    brings.imp baseCheck_opcode baseCheck_opcode
  apply frame_quiet step
  · rcases known with same | same <;> simp [same]
  · rcases known with same | same <;> simp [same]

/-- What is in the vault once an upload was committed at `nowMs`. -/
def DynamicText.committedAt (text : DynamicText) (nowMs : Int) : CommittedText :=
  ⟨text.data, nowMs + (text.ttlSeconds : Int) * 1000, text.consume⟩

/-- One of the calls has put the text in the slot, and its clock read `nowMs`
at the commit. -/
def CommittedBy (served : List (Moment World Exchange)) (slot : Nat) (held : CommittedText)
    (nowMs : Int) : Prop :=
  ∃ moment ∈ served, Replaced (moment.before.dynamic.slots slot) (moment.after.dynamic.slots slot) ∧
    moment.after.dynamic.vault slot = some held ∧ moment.event.env.clock .commit = nowMs

theorem CommittedBy.mono {served served' : List (Moment World Exchange)}
    {held : CommittedText} {nowMs : Int} (committed : CommittedBy served slot held nowMs)
    (longer : served <+: served') : CommittedBy served' slot held nowMs := by
  obtain ⟨moment, member, holds⟩ := committed
  exact ⟨moment, longer.subset member, holds⟩

/-- The upload was committed, and since then the vault has only faded. -/
def Placed (vault : Vault) (text : DynamicText) (s : Station) : Prop :=
  ∃ nowMs, CommittedBy s.served text.slot (DynamicText.committedAt text nowMs) nowMs ∧
    Vault.Fades (Function.update vault text.slot (some (DynamicText.committedAt text nowMs)))
      s.world.dynamic.vault

/-- The vault before an upload, or after it. -/
def Torn (vault : Vault) (text : DynamicText) (s : Station) : Prop :=
  vault.Fades s.world.dynamic.vault ∨ Placed vault text s

theorem Placed.faded (placed : Placed vault text s) (longer : s.served <+: s'.served)
    (fades : s.world.dynamic.vault.Fades s'.world.dynamic.vault) : Placed vault text s' := by
  obtain ⟨nowMs, committed, stored⟩ := placed
  exact ⟨nowMs, committed.mono longer, stored.trans fades⟩

theorem Torn.faded (torn : Torn vault text s) (longer : s.served <+: s'.served)
    (fades : s.world.dynamic.vault.Fades s'.world.dynamic.vault) : Torn vault text s' :=
  torn.imp (fun before => before.trans fades) fun placed => placed.faded longer fades

theorem held_of_stored {nowMs : Int} {entry : DynamicSlot} (stored : text.Stored nowMs entry) :
    entry.held = some (DynamicText.committedAt text nowMs) := by
  unfold DynamicSlot.held
  rw [stored.valid, if_pos rfl, stored.text, stored.deadline, stored.policy]
  rfl

/-- Besides the slot of the upload nothing is replaced. -/
theorem Torn.elsewhere (torn : Torn vault text s) {other : Nat} (away : other ≠ text.slot) :
    s.world.dynamic.vault other = vault other ∨ s.world.dynamic.vault other = none := by
  rcases torn with before | ⟨nowMs, _, stored⟩
  · exact before other
  · have faded := stored other
    rw [Function.update_of_ne away] at faded
    exact faded

theorem only_fades {moment : Moment World Exchange} (only : text.Only cfg moment) {other : Nat}
    (away : other ≠ text.slot) :
    moment.after.dynamic.vault other = moment.before.dynamic.vault other ∨
      moment.after.dynamic.vault other = none := by
  by_cases valid : (moment.after.dynamic.slots other).committedValid = true
  · left
    by_contra changed
    have replaced : Replaced (moment.before.dynamic.slots other)
        (moment.after.dynamic.slots other) := by
      refine ⟨valid, fun same => changed ?_⟩
      exact congrArg DynamicSlot.held same
    exact away (only.dynamic other replaced).1
  · exact Or.inr (held_of_invalid (Bool.eq_false_iff.mpr valid))

/-- The call that stores the text of the upload. -/
theorem Torn.placed (torn : Torn vault text s) {exchange : Exchange} {w' : World}
    (only : text.Only cfg ⟨s.world, exchange, w'⟩)
    (replaced : Replaced (s.world.dynamic.slots text.slot) (w'.dynamic.slots text.slot)) :
    Placed vault text (s.serve exchange w') := by
  have held := held_of_stored (only.dynamic text.slot replaced).2
  refine ⟨exchange.env.clock .commit, ?_, Vault.Fades.updated ?_ held⟩
  · exact ⟨⟨s.world, exchange, w'⟩, List.mem_append_right _ (by simp), replaced, held, rfl⟩
  · intro other away
    rcases only_fades only away with same | gone
    · rw [show (s.serve exchange w').world.dynamic.vault other = _ from same]
      exact torn.elsewhere away
    · exact Or.inr gone

/-- A frame of the upload stores its text, or fades the vault. -/
theorem Torn.served (torn : Torn vault text s) {exchange : Exchange} {w' : World}
    (only : text.Only cfg ⟨s.world, exchange, w'⟩) : Torn vault text (s.serve exchange w') := by
  by_cases replaced : Replaced (s.world.dynamic.slots text.slot) (w'.dynamic.slots text.slot)
  · exact Or.inr (torn.placed only replaced)
  · apply torn.faded (List.prefix_append _ _)
    intro other
    by_cases same : other = text.slot
    · subst same
      by_cases valid : (w'.dynamic.slots text.slot).committedValid = true
      · refine Or.inl (congrArg DynamicSlot.held ?_)
        by_contra changed
        exact replaced ⟨valid, changed⟩
      · exact Or.inr (held_of_invalid (Bool.eq_false_iff.mpr valid))
    · exact only_fades only same

/-! ## Between the calls -/

/-- No request on its way brings a text, and the next id is fresh. -/
structure Waiting (vault : Vault) (next : UInt8) (t : Delayed Station Frame × Talk) : Prop where
  pending : ∀ request ∈ t.1.pending, BringsNone request
  keyed : next = t.1.key + 1
  holds : t.1.state.world.dynamic.vault = vault

theorem clearTransaction (cfg : Config) (hmac : Hmac) (id : ContextId) (vault : Vault) :
    Transaction (device cfg hmac id) BringsNone (fun _ => True)
      (fun s => vault.Fades s.world.dynamic.vault) (fun _ => True) := by
  constructor
  · intro s s' rested
    exact ⟨fun fades => fades.trans (rests_fade rested), fun _ => trivial⟩
  · rintro s request response s' ⟨env, w', _, step, rfl⟩ brings fades _
    exact ⟨fades.trans (fades_of_kept (bringsNone_quiet brings step).slots), fun _ => trivial⟩

theorem Waiting.guarded (waiting : Waiting vault next t) {Sends Opens : Frame → Prop}
    {Sound Mine : Station → Prop} (sound : Sound t.1.state)
    (sends : ∀ request, BringsNone request → Sends request ∧ Opens request) :
    Guarded Sends Opens Sound Mine t.1 :=
  ⟨sound, fun request member => (sends request (waiting.pending request member)).1,
    Or.inr fun request member => (sends request (waiting.pending request member)).2⟩

/-- What a call of the clearing transaction leaves, however it ends. -/
theorem waiting_of_guarded
    (guarded : Guarded BringsNone (fun _ => True) (fun s => vault.Fades s.world.dynamic.vault)
      (fun _ => True) t.1) (keyed : next = t.1.key + 1) :
    Waiting t.1.state.world.dynamic.vault next t ∧ vault.Fades t.1.state.world.dynamic.vault :=
  ⟨⟨guarded.sends, keyed, rfl⟩, guarded.sound⟩

/-! ## Clearing -/

/-- One slot is cleared, or the vault has only faded. -/
theorem meets_clearDynamicOnce (retries : Nat) (small : slot ≤ 0xFF)
    (waiting : Waiting vault next t) :
    (retryCall retries (clearDynamicOnce slot)).Meets (link cfg hmac id)
      (fun _ next' t' => Waiting t'.1.state.world.dynamic.vault next' t' ∧
        Vault.Fades (Function.update vault slot none) t'.1.state.world.dynamic.vault)
      (fun _ next' t' => Waiting t'.1.state.world.dynamic.vault next' t' ∧
        vault.Fades t'.1.state.world.dynamic.vault) next t := by
  have transaction := clearTransaction cfg hmac id vault
  apply meets_attempts fun next (t : Delayed Station Frame × Talk) =>
    Guarded BringsNone (fun _ => True) (fun s => vault.Fades s.world.dynamic.vault)
      (fun _ => True) t.1 ∧ next = t.1.key + 1
  · rintro next t ⟨guarded, keyed⟩
    have built := buildFrame_ok .dynamicClear next small
      (by decide : ([] : List UInt8).length ≤ payloadSize) (by decide : 0 ≤ 0xFFFF)
      (by decide : 0 ≤ 0xFFFF)
    have passed := baseCheck_build .dynamicClear next (UInt8.ofNat slot) 0 0 [] (by decide)
    have identified := Frame.requestId_build .dynamicClear next (UInt8.ofNat slot) 0 0 []
    have aimed : (Frame.build .dynamicClear next (UInt8.ofNat slot) 0 0 []).slot.toNat = slot := by
      rw [Frame.slot_build, UInt8.toNat_ofNat']
      omega
    unfold clearDynamicOnce
    rw [meets_bind, meets_requestId, meets_bind, built, meets_fromExcept_ok, meets_bind]
    generalize Frame.build .dynamicClear next (UInt8.ofNat slot) 0 0 [] = request
      at passed identified aimed
    have fresh : Keyed request.requestId t.1 := Or.inl (identified.trans keyed)
    apply (meets_sent transaction guarded fresh trivial passed (Or.inr passed)
      (Or.inr trivial)).mono
    · rintro response next' t' ⟨rfl, still, before, after, acknowledged⟩
      have ready : next + 1 = t'.1.key + 1 := by rw [acknowledged.key, identified]
      apply meets_require_of _ fun _ => ⟨waiting_of_guarded still ready, fun _ => ⟨still, ready⟩⟩
      refine ⟨(waiting_of_guarded still ready).1, ?_⟩
      obtain ⟨env, w', _, step, left⟩ := acknowledged.served.serves
      have gone : (w'.dynamic.slots slot).committedValid = false := by
        rw [← aimed]
        exact SlotIsolation.clear_gone step (baseCheck_opcode passed) acknowledged.status
      have cleared : Vault.Fades (Function.update vault slot none) after.world.dynamic.vault := by
        rw [left]
        apply Vault.Fades.updated
        · intro other _
          have fades := fades_of_kept (bringsNone_quiet (Or.inr passed) step).slots
          exact (acknowledged.served.sound.trans fades) other
        · exact held_of_invalid gone
      exact cleared.trans (rested_fade acknowledged.served.rested)
    · rintro error next' t' ⟨rfl, still, key, _⟩
      have ready : next + 1 = t'.1.key + 1 := by rw [key, identified]
      exact ⟨waiting_of_guarded still ready, fun _ => ⟨still, ready⟩⟩
  · refine ⟨waiting.guarded ?_ fun _ brings => ⟨brings, trivial⟩, waiting.keyed⟩
    rw [waiting.holds]
    exact .refl vault

theorem meets_vaultCapabilities (retries : Nat) (waiting : Waiting vault next t) :
    (getCapabilities retries).Meets (link cfg hmac id)
      (fun capabilities next' t' => capabilities.dynamicObjectCount = cfg.dynamicSlotCount ∧
        Waiting t'.1.state.world.dynamic.vault next' t' ∧
        vault.Fades t'.1.state.world.dynamic.vault)
      (fun _ _ t' => vault.Fades t'.1.state.world.dynamic.vault) next t := by
  have transaction := clearTransaction cfg hmac id vault
  have guarded : Guarded BringsNone (fun _ => True)
      (fun s => vault.Fades s.world.dynamic.vault) (fun _ => True) t.1 := by
    refine waiting.guarded ?_ fun _ brings => ⟨brings, trivial⟩
    rw [waiting.holds]
    exact .refl vault
  apply (meets_getCapabilities transaction (fun _ passed => ⟨Or.inl passed, trivial⟩) retries
    guarded waiting.keyed).mono _ fun _ _ _ left => left
  rintro capabilities next' t' ⟨rfl, still, keyed⟩
  refine ⟨?_, waiting_of_guarded still keyed⟩
  rw [WireAgreement.decodeCapabilities_payload]

theorem meets_clearDynamic (retries slot : Nat) (waiting : Waiting vault next t) :
    (clearDynamic retries slot).Meets (link cfg hmac id)
      (fun _ next' t' => Waiting t'.1.state.world.dynamic.vault next' t' ∧
        Vault.Fades (Function.update vault slot none) t'.1.state.world.dynamic.vault)
      (fun _ _ t' => vault.Fades t'.1.state.world.dynamic.vault) next t := by
  have unsent : vault.Fades t.1.state.world.dynamic.vault := by
    rw [waiting.holds]
    exact .refl vault
  unfold clearDynamic
  rw [meets_bind]
  apply meets_fromExcept_of _ fun _ _ => unsent
  intro place valid
  obtain ⟨rfl, small⟩ : place = slot ∧ slot ≤ 0xFF := by
    unfold validateDynamicSlot at valid
    split at valid
    next inside =>
      cases valid
      unfold dynamicObjectCountMax at inside
      exact ⟨rfl, by omega⟩
    · cases valid
  rw [meets_bind]
  apply (meets_vaultCapabilities retries waiting).mono _ fun _ _ _ left => left
  rintro capabilities next' t' ⟨_, waiting', fades⟩
  rw [meets_bind]
  apply meets_require_of _ fun _ => fades
  apply (meets_clearDynamicOnce retries small waiting').mono
  · rintro _ next'' t'' ⟨still, cleared⟩
    exact ⟨still, (fades.update place none).trans cleared⟩
  · rintro _ _ t'' ⟨_, faded⟩
    exact fades.trans faded

/-- Every slot of the loop is cleared or listed. -/
structure Attempted (slots : List Nat) (outcome outcome' : List (Nat × ClientError) × List Nat)
    (failed : List (Nat × ClientError)) (vault : Vault) : Prop where
  failures : outcome'.1 = outcome.1 ++ failed
  cleared : failed = [] → outcome'.2 = outcome.2 ++ slots
  listed : (failed.map Prod.fst).Sublist slots
  gone : ∀ slot ∈ slots, slot ∉ failed.map Prod.fst → vault slot = none

theorem meets_clearSlots (retries : Nat) (slots : List Nat) (small : ∀ slot ∈ slots, slot ≤ 0xFF)
    (outcome : List (Nat × ClientError) × List Nat) (waiting : Waiting vault next t) :
    (slots.foldlM (clearOrFail retries) outcome).Meets (link cfg hmac id)
      (fun outcome' next' t' => Waiting t'.1.state.world.dynamic.vault next' t' ∧
        vault.Fades t'.1.state.world.dynamic.vault ∧
        ∃ failed, Attempted slots outcome outcome' failed t'.1.state.world.dynamic.vault)
      (fun _ _ t' => vault.Fades t'.1.state.world.dynamic.vault) next t := by
  induction slots generalizing outcome vault next t with
  | nil =>
    obtain ⟨pending, keyed, rfl⟩ := waiting
    exact ⟨⟨pending, keyed, rfl⟩, .refl _, [], by simp, by simp, by simp, by simp⟩
  | cons slot rest ih =>
    have later : ∀ slot ∈ rest, slot ≤ 0xFF := fun slot member =>
      small slot (List.mem_cons_of_mem _ member)
    rw [List.foldlM_cons, meets_bind, clearOrFail, meets_tryCatch, meets_bind]
    apply (meets_clearDynamicOnce retries (small slot List.mem_cons_self) waiting).mono
    · rintro _ next' t' ⟨waiting', cleared⟩
      have faded := (Vault.Fades.erased vault slot).trans cleared
      apply (ih later _ waiting').mono
      · rintro outcome' next'' t'' ⟨waiting'', fades, failed, attempted⟩
        refine ⟨waiting'', faded.trans fades, failed, ?_⟩
        constructor
        · exact attempted.failures
        · intro none
          simp [attempted.cleared none]
        · exact attempted.listed.cons slot
        · intro other member unlisted
          rcases List.mem_cons.mp member with rfl | member
          · exact fades.gone (cleared.gone (Function.update_self ..))
          · exact attempted.gone other member unlisted
      · exact fun _ _ t'' fades => faded.trans fades
    · rintro error next' t' ⟨waiting', faded⟩
      split
      · apply (ih later _ waiting').mono
        · rintro outcome' next'' t'' ⟨waiting'', fades, failed, attempted⟩
          refine ⟨waiting'', faded.trans fades, (slot, error) :: failed, ?_⟩
          constructor
          · simp [attempted.failures]
          · intro none
            cases none
          · exact attempted.listed.cons_cons slot
          · intro other member unlisted
            rw [List.map_cons, List.mem_cons, not_or] at unlisted
            rcases List.mem_cons.mp member with same | member
            · exact absurd same unlisted.1
            · exact attempted.gone other member unlisted.2
        · exact fun _ _ t'' fades => faded.trans fades
      · exact faded

theorem meets_clearAllDynamic (retries : Nat) (waiting : Waiting vault next t) :
    (clearAllDynamic retries).Meets (link cfg hmac id)
      (fun outcome next' t' => Waiting t'.1.state.world.dynamic.vault next' t' ∧
        vault.Fades t'.1.state.world.dynamic.vault ∧
        match outcome with
        | .ok cleared => cleared = List.range cfg.dynamicSlotCount ∧
          ∀ slot < cfg.dynamicSlotCount, t'.1.state.world.dynamic.vault slot = none
        | .error error => error.failures ≠ [] ∧
          error.failedSlots.Sublist (List.range cfg.dynamicSlotCount) ∧
          ∀ slot < cfg.dynamicSlotCount, slot ∉ error.failedSlots →
            t'.1.state.world.dynamic.vault slot = none)
      (fun _ _ t' => vault.Fades t'.1.state.world.dynamic.vault) next t := by
  unfold clearAllDynamic
  rw [meets_bind]
  apply (meets_vaultCapabilities retries waiting).mono _ fun _ _ _ left => left
  rintro capabilities next' t' ⟨count, waiting', fades⟩
  have range := cfg.dynamicSlotCount_range
  have small : ∀ slot ∈ List.range capabilities.dynamicObjectCount, slot ≤ 0xFF := by
    intro slot member
    rw [List.mem_range, count] at member
    omega
  rw [meets_bind]
  apply (meets_clearSlots retries _ small ([], []) waiting').mono
  · rintro ⟨failures, cleared⟩ next'' t'' ⟨waiting'', faded, failed, attempted⟩
    have same : failures = failed := attempted.failures
    have whole := attempted.cleared
    have gone := attempted.gone
    have listed := attempted.listed
    subst same
    rw [count] at whole gone listed
    refine ⟨waiting'', fades.trans faded, ?_⟩
    by_cases none : failures = []
    · rw [if_neg (not_not.mpr none)]
      refine ⟨whole none, fun slot inside => gone slot (List.mem_range.mpr inside) ?_⟩
      simp [none]
    · rw [if_pos none]
      exact ⟨none, listed, fun slot inside => gone slot (List.mem_range.mpr inside)⟩
  · exact fun _ _ _ faded => fades.trans faded

/-! ## Uploading -/

/-- The frames of this upload, and DYNAMIC_CLEAR. -/
def VaultSends (text : DynamicText) (request : Frame) : Prop :=
  UploadSends text request ∨ baseCheck request = .ok .dynamicClear

theorem bringsNone_sends {request : Frame} (brings : BringsNone request) :
    VaultSends text request ∧ UploadOpens request := by
  rcases brings with passed | passed
  · exact ⟨Or.inl (Or.inl passed), fun other => by cases passed.symm.trans other⟩
  · exact ⟨Or.inr passed, fun other => by cases passed.symm.trans other⟩

theorem vaultTransaction (cfg : Config) (hmac : Hmac) (id : ContextId) (vault : Vault)
    (text : DynamicText) :
    Transaction (device cfg hmac id) (VaultSends text) UploadOpens (Torn vault text)
      (fun s => text.Mine s.world) := by
  constructor
  · intro s s' rested
    refine ⟨fun torn => torn.faded ?_ (rests_fade rested),
      ((uploadTransaction cfg hmac id text).rested rested).2⟩
    rw [rests_served (.single rested)]
  · rintro s request response s' ⟨env, w', _, step, rfl⟩ sends torn before
    rcases sends with (passed | opened | ⟨offset, chunk⟩) | passed
    · obtain ⟨mine, only⟩ := @DynamicText.other_step _ _ _ _ _ _ _ _ text _ passed rfl rfl step
      exact ⟨torn.served only, mine⟩
    · obtain ⟨mine, only, _⟩ := DynamicText.begin_step opened step
      exact ⟨torn.served only, mine⟩
    · have mine := before.resolve_right fun opens => opens chunk.passed
      obtain ⟨still, only, _⟩ := DynamicText.data_step chunk mine step
      exact ⟨torn.served only, fun _ => still⟩
    · have quiet := bringsNone_quiet (Or.inr passed) step
      exact ⟨torn.faded (List.prefix_append _ _) (fades_of_kept quiet.slots),
        fun mine => mine.of_quiet quiet⟩

/-- The last chunk has stored the text, and no request is behind it. -/
theorem upload_stored {requestId : UInt8} {request response : Frame} {before after : Station}
    (acknowledged : ChunkAcknowledged cfg hmac id UploadOpens (Torn vault text)
      (fun s => text.Mine s.world) .dynamicData text.slot text.data requestId offset t t' request
      response before after) :
    text.Mine t'.1.state.world ∧ (offset + request.payloadLength = text.data.length →
      t'.1.pending = [] ∧ Placed vault text t'.1.state) := by
  obtain ⟨chunk, ⟨status, _, served, _⟩, _⟩ := acknowledged
  have mine := served.covered.resolve_right fun opens => opens chunk.passed
  obtain ⟨env, w', _, step, left⟩ := served.serves
  obtain ⟨still, only, stored⟩ := DynamicText.data_step chunk mine step
  have world : after.world = w' := by rw [left]; rfl
  constructor
  · rw [← world] at still
    exact ((uploadTransaction cfg hmac id text).rests served.rested).2 still
  · intro whole
    have placed := served.sound.placed only (stored status whole).1
    rw [← left] at placed
    refine ⟨served.pending, placed.faded ?_ (rested_fade served.rested)⟩
    rw [rests_served served.rested]

theorem meets_vaultUpload (retries slot : Nat) (data : List UInt8) (ttlSeconds : Option Nat)
    (keepAfterExecute : Bool) (waiting : Waiting vault next t) :
    (uploadDynamic retries slot data ttlSeconds keepAfterExecute).Meets (link cfg hmac id)
      (fun _ next' t' => Waiting t'.1.state.world.dynamic.vault next' t' ∧
        Placed vault (asked slot data ttlSeconds keepAfterExecute) t'.1.state)
      (fun _ _ t' => Torn vault (asked slot data ttlSeconds keepAfterExecute) t'.1.state)
      next t := by
  have unsent : Torn vault (asked slot data ttlSeconds keepAfterExecute) t.1.state := by
    refine Or.inl ?_
    rw [waiting.holds]
    exact .refl vault
  apply (meets_uploadTransaction rfl
    (vaultTransaction cfg hmac id vault (asked slot data ttlSeconds keepAfterExecute))
    (fun _ sent => Or.inl sent) (fun acknowledged => upload_stored acknowledged) retries
    (waiting.guarded unsent fun _ brings => bringsNone_sends brings) waiting.keyed).mono _
    fun _ _ _ torn => torn
  rintro _ next' t' ⟨keyed, _, pending, stored⟩
  exact ⟨⟨by simp [pending], keyed, rfl⟩, stored⟩

/-! ## Programs -/

/-- A vault that tells the commits of a record. -/
def VaultAnswers (cfg : Config) (served : List (Moment World Exchange)) (vault : Vault) :
    VaultCall → VaultAnswer → Vault → Prop :=
  vault.Answers cfg (CommittedBy served)

theorem vaultAnswers_cumulative (cfg : Config) : Cumulative (VaultAnswers cfg) :=
  fun _ _ longer _ _ _ _ answers => answers.mono fun _ _ _ committed => committed.mono longer

/-- The client waits between two calls, and the record is that of the
station. -/
def Standing (state : Vault × List (Moment World Exchange)) (next : UInt8)
    (t : Delayed Station Frame × Talk) : Prop :=
  Waiting state.1 next t ∧ state.2 = t.1.state.served

/-- The methods of the client answer as a vault. -/
theorem vaultCalls_implement (cfg : Config) (hmac : Hmac) (id : ContextId) (retries : Nat) :
    Implements (link cfg hmac id) (VaultCall.client retries) (Logged (VaultAnswers cfg)) Standing
      fun state t => state.2 <+: t.1.state.served ∧
        state.1.Fades t.1.state.world.dynamic.vault := by
  constructor
  rintro ⟨vault, served⟩ call next t ⟨waiting, rfl⟩
  have grows : ∀ {wanted : VaultAnswer → UInt8 → Delayed Station Frame × Talk → Prop}
      {raised : ClientError → UInt8 → Delayed Station Frame × Talk → Prop},
      (call.client retries).Meets (link cfg hmac id) wanted raised next t →
      (call.client retries).Meets (link cfg hmac id)
        (fun answer next' t' => wanted answer next' t' ∧ t.1.state.served <+: t'.1.state.served)
        (fun error next' t' => raised error next' t' ∧ t.1.state.served <+: t'.1.state.served)
        next t := by
    intro wanted raised meets
    refine meets.invariant (fun t' => t.1.state.served <+: t'.1.state.served)
      List.prefix_rfl ?_
    exact fun _ _ _ _ longer answered => longer.trans (answers_served answered)
  cases call with
  | upload slot data ttlSeconds keepAfterExecute =>
    have meets : (VaultCall.client retries (.upload slot data ttlSeconds keepAfterExecute)).Meets
        (link cfg hmac id) (fun answer next' t' => answer = .done ∧
          Waiting t'.1.state.world.dynamic.vault next' t' ∧
          Placed vault (asked slot data ttlSeconds keepAfterExecute) t'.1.state)
        (fun _ _ t' => Torn vault (asked slot data ttlSeconds keepAfterExecute) t'.1.state)
        next t := by
      rw [VaultCall.client, meets_bind]
      apply (meets_vaultUpload retries slot data ttlSeconds keepAfterExecute waiting).mono
      · exact fun _ _ _ met => ⟨rfl, met⟩
      · exact fun _ _ _ torn => torn
    apply (grows meets).mono
    · rintro _ next' t' ⟨⟨rfl, waiting', nowMs, committed, stored⟩, longer⟩
      exact ⟨(_, _), ⟨longer, .upload nowMs committed stored⟩, waiting', rfl⟩
    · rintro _ _ t' ⟨fades | ⟨nowMs, committed, stored⟩, longer⟩
      · exact Or.inl ⟨longer, fades⟩
      · exact Or.inr ⟨.done, (_, _), ⟨longer, .upload nowMs committed stored⟩, List.prefix_rfl,
          .refl _⟩
  | clear slot =>
    have meets : (VaultCall.client retries (.clear slot)).Meets (link cfg hmac id)
        (fun answer next' t' => answer = .done ∧
          Waiting t'.1.state.world.dynamic.vault next' t' ∧
          Vault.Fades (Function.update vault slot none) t'.1.state.world.dynamic.vault)
        (fun _ _ t' => vault.Fades t'.1.state.world.dynamic.vault) next t := by
      rw [VaultCall.client, meets_bind]
      apply (meets_clearDynamic retries slot waiting).mono
      · exact fun _ _ _ met => ⟨rfl, met⟩
      · exact fun _ _ _ fades => fades
    apply (grows meets).mono
    · rintro _ next' t' ⟨⟨rfl, waiting', gone⟩, longer⟩
      exact ⟨(_, _), ⟨longer, .clear gone⟩, waiting', rfl⟩
    · exact fun _ _ _ ⟨fades, longer⟩ => Or.inl ⟨longer, fades⟩
  | clearAll =>
    have meets : (VaultCall.client retries .clearAll).Meets (link cfg hmac id)
        (fun answer next' t' => Waiting t'.1.state.world.dynamic.vault next' t' ∧
          ∀ commits, vault.Answers cfg commits .clearAll answer t'.1.state.world.dynamic.vault)
        (fun _ _ t' => vault.Fades t'.1.state.world.dynamic.vault) next t := by
      rw [VaultCall.client, meets_bind]
      apply (meets_clearAllDynamic retries waiting).mono
      · rintro (error | cleared) next' t' ⟨waiting', fades, ended⟩
        · obtain ⟨any, listed, gone⟩ := ended
          exact ⟨waiting', fun _ => .clearAllFailed any listed fades gone⟩
        · obtain ⟨rfl, gone⟩ := ended
          exact ⟨waiting', fun _ => .cleared fades gone⟩
      · exact fun _ _ _ fades => fades
    apply (grows meets).mono
    · rintro answer next' t' ⟨⟨waiting', answered⟩, longer⟩
      exact ⟨(_, _), ⟨longer, answered _⟩, waiting', rfl⟩
    · exact fun _ _ _ ⟨fades, longer⟩ => Or.inl ⟨longer, fades⟩

/-- A program of uploads and clears that is run over USB leaves what a vault
would hold, and is told what it would tell; if an exception ends it, the
dynamic slots are as the vault was between two of its calls, but for what has
faded since. The TTL of every upload counts from the clock of a call that has
put its text in the slot. -/
theorem usb_is_vault_of_texts (cfg : Config) (hmac : Hmac) (timeoutMs : Int) (retries : Nat)
    (s : Transport) (issued : Nat) (next : UInt8) (rest : AtRest s)
    (program : Dialogue VaultCall VaultAnswer α) (talk : Talk)
    (outcome : Except ClientError α × UInt8) (b : Bus)
    (runs : Runs (UsbLink.hears cfg hmac timeoutMs)
      ((program.carriedOut (VaultCall.client retries)).dialogue next) (resting s issued) talk
      outcome b) :
    (∃ calls vault, Begun (VaultAnswers cfg b.served) program s.world.dynamic.vault calls vault ∧
      vault.Fades b.transport.world.dynamic.vault) ∧
    ∀ value, outcome.1 = .ok value → ∃ calls, Runs (VaultAnswers cfg b.served) program
      s.world.dynamic.vault calls value b.transport.world.dynamic.vault := by
  have standing : Standing (s.world.dynamic.vault, []) next
      (⟨.fresh s.world, [], next - 1, false⟩, []) := ⟨⟨by simp, by simp, rfl⟩, rfl⟩
  have cumulative := vaultAnswers_cumulative cfg
  obtain ⟨t, same, ⟨_, calls, state, failed, begun, longer, fades⟩ | ⟨value, calls, state,
    returned, run, waiting', logged⟩⟩ := UsbLink.implemented rest
      (vaultCalls_implement cfg hmac usbContext retries) standing runs
  · rw [same] at longer fades
    rw [failed]
    refine ⟨⟨calls, state.1, begun.of_logged cumulative longer, fades⟩, ?_⟩
    exact fun _ impossible => by cases impossible
  · have holds := waiting'.holds
    rw [same] at holds logged
    have later : state.2 <+: b.served := by rw [logged]
    have whole := run.of_logged cumulative later
    rw [← show _ = state.1 from holds] at whole
    rw [returned]
    refine ⟨⟨calls, _, whole.begun, .refl _⟩, ?_⟩
    rintro _ ⟨⟩
    exact ⟨calls, whole⟩

def sampleProgram : Dialogue VaultCall VaultAnswer VaultAnswer :=
  .ask (.upload 1 [72, 105] none true) fun _ => .ask .clearAll .done

/-- The answer to the commit is lost, and the text is uploaded again. It has
its deadline, and is gone after a clear-all. -/
theorem usb_is_vault_of_texts_sample :
    ∃ talk outcome b, Runs (UsbLink.hears .default AuthCore.sampleHmac 1000)
        ((sampleProgram.carriedOut (VaultCall.client 2)).dialogue 7)
        (resting UsbHid.connected 0) talk outcome b ∧
      (∃ nowMs, CommittedBy b.served 1 ⟨[72, 105], nowMs + 300000, false⟩ nowMs) ∧
      b.transport.world.dynamic.vault 1 = none := by
  obtain ⟨s', issued', log, runs, _⟩ := UsbLink.stumbles .default AuthCore.sampleHmac (.still 0)
    [.answered, .answered, .answerLost] 0 [] UsbHid.connected_atRest rfl
    (by decide : 0 < (1000 : Int)) ((sampleProgram.carriedOut (VaultCall.client 2)).dialogue 7)
  have returned : ((((sampleProgram.carriedOut (VaultCall.client 2)).dialogue 7).drive
      (UsbLink.stumblingAnswer .default AuthCore.sampleHmac (.still 0))
      (UsbHid.connected.world, [.answered, .answered, .answerLost])).2.1).1 =
        .ok (.cleared (List.range 8)) := by
    rfl
  obtain ⟨calls, onVault⟩ := (usb_is_vault_of_texts .default AuthCore.sampleHmac 1000 2
    UsbHid.connected 0 7 UsbHid.connected_atRest sampleProgram _ _ _ runs).2 _ returned
  refine ⟨_, _, _, runs, ?_⟩
  generalize UsbHid.settled s' issued' log = b at onVault ⊢
  cases onVault with
  | ask uploaded rest =>
    cases rest with
    | ask answered ended =>
      cases ended
      cases answered with
      | cleared _ gone =>
        cases uploaded with
        | upload nowMs committed => exact ⟨⟨nowMs, committed⟩, gone 1 (by decide)⟩

end RuntimeMacro.Guarantees.VaultOfTexts
