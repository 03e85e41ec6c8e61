import RuntimeMacro.Guarantees.ArrayOfTexts
import RuntimeMacro.Guarantees.PasswordOverLoss
import RuntimeMacro.Guarantees.VaultOfTexts
import RuntimeMacro.Source.ClientRequests
import RuntimeMacro.Source.KeyboardView

/-!
# The command line tool does what it says

tools/runtime_macro_cli.py:1376-1487; docs/CLI.md:238-287. Over USB, whatever
is lost, delayed and sent again, a run of the tool that exits with 0 has done
what its command says and has left the rest of the keyboard alone, and what it
has printed is so. A run that fails has done all of it or nothing. Refused
input sends nothing.
-/
namespace RuntimeMacro.Guarantees.ToolEffects
open Source Source.Protocol Source.RuntimeMacroClient Source.CommandLine
open Foundations.Links Foundations.Runs
open Foundations.Dialogues Foundations.Dialogues.Dialogue Foundations.Dialogues.Procedure
open UsbHid (Transport Bus AtRest resting usbContext)
open AuthCore (Hmac)
open PasswordChunks (AuthFrame persistent_kept)

variable {cfg : Config} {hmac : Hmac} {timeoutMs : Int} {host : Host} {retries : Nat}
  {action : Action} {s : Transport} {b : Bus} {next : UInt8} {issued : Nat} {talk : Talk}
  {w w' : World} {exchange : Exchange} {opcode : Opcode} {opcodes : List Opcode} {σ α : Type}

/-! ## What the rest of the keyboard does meanwhile -/

theorem rests_view {t t' : Station} (rested : Station.Rests cfg hmac t t') :
    t.world.view.Fades t'.world.view := by
  have quiet := rests_quietKept (.single rested)
  refine ⟨congrArg SlotStore.textOf quiet.slots, VaultOfTexts.rests_fade rested, ?_, ?_⟩
  · simp only [World.view, quiet.auth]
  · simp only [World.view, quiet.auth]
    exact id

theorem view_protection {core core' : AuthCore.State} (same : core'.persistent = core.persistent) :
    (if core'.state = .stateProtected then some core'.credential else none) =
      if core.state = .stateProtected then some core.credential else none := by
  have state := congrArg AuthCore.Persistent.state same
  have credential := congrArg AuthCore.Persistent.credential same
  simp only [AuthCore.State.persistent] at state credential
  rw [state, credential]

theorem frame_view (step : FrameStep cfg hmac w exchange w')
    (sent : Calls opcodes exchange.request) : Spared opcodes w.view w'.view := by
  obtain ⟨opcode, member, passed⟩ := sent
  have known : exchange.opcode = some opcode := baseCheck_opcode passed
  have apart : ∀ {other}, other ∉ opcodes → exchange.opcode ≠ some other := by
    intro other absent same
    rw [known, Option.some.injEq] at same
    exact absent (same ▸ member)
  constructor
  · intro noSet noClear
    rcases frame_slots step (apart noSet) with same | ⟨isClear, _⟩
    · exact congrArg SlotStore.textOf same
    · exact absurd isClear (apart noClear)
  · intro noBegin noData
    exact VaultOfTexts.fades_of_kept (frame_quiet step (apart noBegin) (apart noData)).slots
  · intro noPassword
    exact view_protection (persistent_kept step fun same =>
      absurd same (apart noPassword))
  · intro guarded
    simp only [World.view, Option.isSome_ite] at guarded ⊢
    exact frame_guarded step guarded
  · intro noProof
    exact frame_session step (apart noProof)

/-- What the requests of a call do not touch is left alone. -/
theorem spared {procedure : Client α} {outcome : Except ClientError α × UInt8} (rest : AtRest s)
    {raises : ClientError → Prop} (asks : procedure.Asks (Calls opcodes) raises)
    (runs : Runs (UsbLink.hears cfg hmac timeoutMs) (procedure.dialogue next) (resting s issued)
      talk outcome b) : Spared opcodes s.world.view b.transport.world.view := by
  apply UsbLink.framed rest asks runs fun w => Spared opcodes s.world.view w.view
  · exact .of_fades (.refl _)
  · exact fun t t' kept rested => kept.trans (.of_fades (rests_view rested))
  · exact fun w exchange w' sent kept step => kept.trans (frame_view step sent)

/-- The opcodes of an action. -/
def opcodesOf : Action → List Opcode
  | .list => [.list]
  | .get _ _ => [.get]
  | .set _ _ => [.set]
  | .clear _ => [.clear]
  | .authInfo => [.authInfo]
  | .login _ => authOpcodes
  | .setPassword _ _ => .passwordSet :: authOpcodes
  | .lock => [.lock]
  | .capabilities => [.capabilities]
  | .dynamicSet _ _ _ _ => [.capabilities, .dynamicBegin, .dynamicData]
  | .dynamicClear _ | .dynamicClearAll => [.capabilities, .dynamicClear]

theorem asks_perform (host : Host) (retries : Nat) (action : Action) :
    (perform host retries action).Asks (Calls (opcodesOf action)) Reported := by
  cases action with
  | list => exact (asks_listSlots retries).bind fun _ => .pure _
  | get slot raw => exact (asks_getSlot retries slot).bind fun _ => .pure _
  | set slot data => exact (asks_setSlot retries slot data).bind fun _ => .pure _
  | clear slot => exact (asks_clearSlot retries slot).bind fun _ => .pure _
  | authInfo => exact (asks_authInfo retries (by simp [opcodesOf])).bind fun _ => .pure _
  | login password =>
    exact (asks_authenticate host retries password fun _ member => member).bind fun _ => .pure _
  | setPassword password salt =>
    exact (asks_setPassword host retries password _ salt).bind fun _ => .pure _
  | lock => exact (asks_lock retries).bind fun _ => .pure _
  | capabilities =>
    exact (asks_getCapabilities retries (by simp [opcodesOf])).bind fun _ => .pure _
  | dynamicSet slot data ttl keepAfterExecute =>
    exact (asks_uploadDynamic retries slot data ttl keepAfterExecute).bind fun _ => .pure _
  | dynamicClear slot => exact (asks_clearDynamic retries slot).bind fun _ => .pure _
  | dynamicClearAll =>
    refine (asks_clearAllDynamic retries).bind fun outcome => ?_
    cases outcome with
    | ok cleared => exact .pure _
    | error error => exact .pure _

/-- `main` lets no exception through. -/
theorem asks_carryOut (host : Host) (retries : Nat) (action : Action) :
    (carryOut host retries action).Asks (Calls (opcodesOf action)) fun _ => False := by
  refine ((asks_perform host retries action).bind fun outcome => ?_).tryCatch
    fun error reported => ?_
  · cases outcome with
    | ok stdout => exact .pure _
    | error error => exact .pure _
  · rw [reported]
    exact .pure _

/-- Every run of an action over USB ends as it should. -/
def Faithful (cfg : Config) (hmac : Hmac) (host : Host) (s : Transport) (action : Action) : Prop :=
  ∀ {timeoutMs retries next issued talk outcome b},
    Runs (UsbLink.hears cfg hmac timeoutMs) ((carryOut host retries action).dialogue next)
      (resting s issued) talk outcome b →
    ∃ exit, outcome.1 = .ok exit ∧ s.world.view.Ends cfg host
      (VaultOfTexts.CommittedBy b.served) action exit b.transport.world.view

/-- The branch of the command decides how the tool ends; what its requests do
not touch is left alone. -/
theorem faithful_of_meets (rest : AtRest s) {lawful : Talk → Frame → Prop}
    (printed : List UInt8 → Station → Prop) (failed : DynamicClearAllError → Station → Prop)
    (raised : Station → Prop)
    (meets : ∀ retries next, (perform host retries action).Meets
      (delayedLink cfg hmac usbContext (fun _ _ => True) lawful)
      (fun result _ t =>
        match result with
        | .ok stdout => printed stdout t.1.state
        | .error error => failed error t.1.state)
      (fun _ _ t => raised t.1.state) next (⟨.fresh s.world, [], next - 1, false⟩, []))
    (done : ∀ {t stdout}, Spared (opcodesOf action) s.world.view t.world.view →
      printed stdout t → s.world.view.Done cfg host (VaultOfTexts.CommittedBy t.served) action
        stdout t.world.view)
    (uncleared : ∀ {t error}, Spared (opcodesOf action) s.world.view t.world.view →
      failed error t → s.world.view.Uncleared cfg action error t.world.view)
    (stopped : ∀ {t}, Spared (opcodesOf action) s.world.view t.world.view → raised t →
      s.world.view.Stopped cfg host (VaultOfTexts.CommittedBy t.served) action t.world.view) :
    Faithful cfg hmac host s action := by
  intro timeoutMs retries next issued talk outcome b runs
  have left := spared rest (asks_carryOut host retries action) runs
  have whole : (carryOut host retries action).Meets
      (delayedLink cfg hmac usbContext (fun _ _ => True) lawful)
      (fun exit _ t => Spared (opcodesOf action) s.world.view t.1.state.world.view →
        s.world.view.Ends cfg host (VaultOfTexts.CommittedBy t.1.state.served) action exit
          t.1.state.world.view)
      (fun _ _ _ => True) next (⟨.fresh s.world, [], next - 1, false⟩, []) := by
    unfold carryOut
    rw [meets_tryCatch, meets_bind]
    apply (meets retries next).mono
    · rintro (error | stdout) next' t ended
      · exact fun left => .uncleared (uncleared left ended)
      · exact fun left => .done (done left ended)
    · intro error next' t ended
      split
      · exact fun left => .stopped (stopped left ended)
      · trivial
  obtain ⟨t, same, ended⟩ := UsbLink.ends rest whole runs
  obtain ⟨error | exit, next'⟩ := outcome
  · exact ((asks_carryOut host retries action).raised runs).elim
  · refine ⟨exit, rfl, ?_⟩
    rw [same] at ended
    exact ended left

/-! ## Static texts -/

theorem static_waiting (reachable : Reachable cfg hmac s.world) (next : UInt8) :
    ArrayOfTexts.Waiting cfg s.world.view.texts next
      (⟨.fresh s.world, [], next - 1, false⟩, []) :=
  ⟨rfl, by simp, reachable.sound.sized, reachable.sound.spelled, rfl⟩

/-- Requests that only read leave everything alone. -/
theorem fades_of_reading {v v' : View} (left : Spared opcodes v v')
    (reading : ∀ opcode ∈ [Opcode.set, .clear, .dynamicBegin, .dynamicData, .passwordSet,
      .authProve], opcode ∉ opcodes) : v.Fades v' := by
  refine ⟨left.texts (reading _ ?_) (reading _ ?_), left.vault (reading _ ?_) (reading _ ?_),
    left.protection (reading _ ?_), left.session (reading _ ?_)⟩
  all_goals decide

theorem faithful_list (rest : AtRest s) (reachable : Reachable cfg hmac s.world) :
    Faithful cfg hmac host s .list := by
  apply faithful_of_meets rest
    (fun stdout t => stdout = slotLines ((List.range cfg.slotCount).map fun slot =>
      ⟨slot, (t.world.view.texts slot).length⟩)) (fun _ _ => False) fun _ => True
  · intro retries next
    rw [perform, meets_bind]
    apply (ArrayOfTexts.meets_listSlots retries (static_waiting reachable next)).mono
    · rintro infos next' t ⟨rfl, waiting⟩
      simp only [meets_pure, World.view, waiting.stands.holds]
    · exact fun _ _ _ _ => trivial
  · rintro t stdout left rfl
    exact ⟨⟨0, trivial, fades_of_reading left (by simp [opcodesOf])⟩, .list⟩
  · exact fun _ impossible => impossible.elim
  · exact fun left _ => .unchanged (fades_of_reading left (by simp [opcodesOf]))

theorem faithful_get (rest : AtRest s) (reachable : Reachable cfg hmac s.world) (slot : Nat)
    (raw : Bool) : Faithful cfg hmac host s (.get slot raw) := by
  apply faithful_of_meets rest
    (fun stdout t => stdout = shownText raw (t.world.view.texts slot)) (fun _ _ => False)
    fun _ => True
  · intro retries next
    rw [perform, meets_bind]
    apply (ArrayOfTexts.meets_getSlot retries slot (static_waiting reachable next)).mono
    · rintro result next' t ⟨rfl, waiting⟩
      simp only [meets_pure, World.view, waiting.stands.holds]
    · exact fun _ _ _ _ => trivial
  · rintro t stdout left rfl
    exact ⟨⟨0, trivial, fades_of_reading left (by simp [opcodesOf])⟩, .get slot raw⟩
  · exact fun _ impossible => impossible.elim
  · exact fun left _ => .unchanged (fades_of_reading left (by simp [opcodesOf]))

/-- Requests that write static texts leave the rest alone. -/
theorem fades_of_texts {v v' : View} {texts : SlotTexts} (left : Spared opcodes v v')
    (static : ∀ opcode ∈ [Opcode.dynamicBegin, .dynamicData, .passwordSet, .authProve],
      opcode ∉ opcodes) (holds : v'.texts = texts) : View.Fades { v with texts := texts } v' := by
  refine ⟨holds, left.vault (static _ ?_) (static _ ?_), left.protection (static _ ?_),
    left.session (static _ ?_)⟩
  all_goals decide

/-- A call that writes one slot. -/
theorem faithful_write (rest : AtRest s) {stdout : List UInt8} {texts : SlotTexts}
    (static : ∀ opcode ∈ [Opcode.dynamicBegin, .dynamicData, .passwordSet, .authProve],
      opcode ∉ opcodesOf action)
    (timed : ∀ commits, action.Timed commits 0)
    (after : s.world.view.after cfg host 0 action = { s.world.view with texts := texts })
    (shown : ∀ v : View, v.Shows cfg action stdout)
    (meets : ∀ retries next, (perform host retries action).Meets
      (ClientCommits.link cfg hmac usbContext)
      (fun result _ t => result = .ok stdout ∧ ArrayOfTexts.Stands cfg texts t.1.state)
      (fun _ _ t => ArrayOfTexts.Torn cfg s.world.view.texts texts t.1.state) next
      (⟨.fresh s.world, [], next - 1, false⟩, [])) :
    Faithful cfg hmac host s action := by
  apply faithful_of_meets rest (fun stdout' t => stdout' = stdout ∧ t.world.view.texts = texts)
    (fun _ _ => False)
    fun t => t.world.view.texts = s.world.view.texts ∨ t.world.view.texts = texts
  · intro retries next
    apply (meets retries next).mono
    · rintro _ next' t ⟨rfl, stands⟩
      exact ⟨rfl, stands.holds⟩
    · intro _ _ t torn
      exact torn.imp (fun stands => stands.holds) fun stands => stands.holds
  · rintro t _ left ⟨rfl, holds⟩
    exact ⟨⟨0, timed _, after ▸ fades_of_texts left static holds⟩, shown _⟩
  · exact fun _ impossible => impossible.elim
  · rintro t left (same | holds)
    · exact .unchanged (fades_of_texts left static same)
    · exact .changed 0 (timed _) (after ▸ fades_of_texts left static holds)

theorem faithful_set (rest : AtRest s) (reachable : Reachable cfg hmac s.world) (slot : Nat)
    (data : List UInt8) : Faithful cfg hmac host s (.set slot data) := by
  refine faithful_write rest (by simp [opcodesOf]) ?_ rfl (fun _ => .set slot data) ?_
  · exact fun _ => trivial
  intro retries next
  rw [perform, meets_bind]
  apply (ArrayOfTexts.meets_setSlot retries slot data (static_waiting reachable next)).mono
  · exact fun _ _ _ waiting => ⟨rfl, waiting.stands⟩
  · exact fun _ _ _ torn => torn

theorem faithful_clear (rest : AtRest s) (reachable : Reachable cfg hmac s.world) (slot : Nat) :
    Faithful cfg hmac host s (.clear slot) := by
  refine faithful_write rest (by simp [opcodesOf]) ?_ rfl (fun _ => .clear slot) ?_
  · exact fun _ => trivial
  intro retries next
  rw [perform, meets_bind]
  apply (ArrayOfTexts.meets_clearSlot retries slot (static_waiting reachable next)).mono
  · exact fun _ _ _ waiting => ⟨rfl, waiting.stands⟩
  · exact fun _ _ _ torn => torn

/-! ## Dynamic texts -/

theorem vault_waiting (s : Transport) (next : UInt8) :
    VaultOfTexts.Waiting s.world.view.vault next (⟨.fresh s.world, [], next - 1, false⟩, []) :=
  ⟨by simp, by simp, rfl⟩

/-- Requests about dynamic texts leave the rest alone. -/
theorem fades_of_vault {v v' : View} {vault : Vault} (left : Spared opcodes v v')
    (dynamic : ∀ opcode ∈ [Opcode.set, .clear, .passwordSet, .authProve], opcode ∉ opcodes)
    (fades : vault.Fades v'.vault) : View.Fades { v with vault := vault } v' := by
  refine ⟨left.texts (dynamic _ ?_) (dynamic _ ?_), fades, left.protection (dynamic _ ?_),
    left.session (dynamic _ ?_)⟩
  all_goals decide

theorem faithful_capabilities (rest : AtRest s) : Faithful cfg hmac host s .capabilities := by
  apply faithful_of_meets rest (fun stdout _ => stdout = capabilitiesLine cfg.capabilities)
    (fun _ _ => False) fun _ => True
  · intro retries next
    have waiting := vault_waiting s next
    have unsent : s.world.view.vault.Fades s.world.view.vault := .refl _
    have decoded : decodeCapabilities (capabilityPayload cfg) = cfg.capabilities := by
      rw [WireAgreement.decodeCapabilities_payload]
      rfl
    rw [perform, meets_bind]
    apply (ClientCommits.meets_getCapabilities
      (VaultOfTexts.clearTransaction cfg hmac usbContext s.world.view.vault)
      (fun _ passed => ⟨Or.inl passed, trivial⟩) retries
      (waiting.guarded unsent fun _ brings => ⟨brings, trivial⟩) waiting.keyed).mono
    · rintro capabilities next' t ⟨rfl, _, _⟩
      rw [decoded, meets_pure]
    · exact fun _ _ _ _ => trivial
  · intro t stdout left printed
    rw [printed]
    exact ⟨⟨0, trivial, fades_of_reading left (by simp [opcodesOf])⟩, .capabilities⟩
  · exact fun _ impossible => impossible.elim
  · exact fun left _ => .unchanged (fades_of_reading left (by simp [opcodesOf]))

theorem faithful_dynamicSet (rest : AtRest s) (slot : Nat) (data : List UInt8) (ttl : Option Nat)
    (keepAfterExecute : Bool) :
    Faithful cfg hmac host s (.dynamicSet slot data ttl keepAfterExecute) := by
  have apart : ∀ opcode ∈ [Opcode.set, .clear, .passwordSet, .authProve],
      opcode ∉ opcodesOf (.dynamicSet slot data ttl keepAfterExecute) := by simp [opcodesOf]
  have placed : ∀ {t : Station}, Spared (opcodesOf (.dynamicSet slot data ttl keepAfterExecute))
      s.world.view t.world.view →
      VaultOfTexts.Placed s.world.view.vault
        (ClientCommits.asked slot data ttl keepAfterExecute) t →
      ∃ nowMs, Action.Timed (VaultOfTexts.CommittedBy t.served) nowMs
        (.dynamicSet slot data ttl keepAfterExecute) ∧
        (s.world.view.after cfg host nowMs (.dynamicSet slot data ttl keepAfterExecute)).Fades
          t.world.view := by
    rintro t left ⟨nowMs, committed, stored⟩
    exact ⟨nowMs, committed, fades_of_vault left apart stored⟩
  apply faithful_of_meets rest
    (fun stdout t => stdout = dynamicSetLine slot data ttl keepAfterExecute ∧
      VaultOfTexts.Placed s.world.view.vault (ClientCommits.asked slot data ttl keepAfterExecute) t)
    (fun _ _ => False)
    fun t => VaultOfTexts.Torn s.world.view.vault
      (ClientCommits.asked slot data ttl keepAfterExecute) t
  · intro retries next
    rw [perform, meets_bind]
    apply (VaultOfTexts.meets_vaultUpload retries slot data ttl keepAfterExecute
      (vault_waiting s next)).mono
    · rintro _ _ _ ⟨_, stored⟩
      exact ⟨rfl, stored⟩
    · exact fun _ _ _ torn => torn
  · rintro t _ left ⟨rfl, stored⟩
    exact ⟨placed left stored, .dynamicSet slot data ttl keepAfterExecute⟩
  · exact fun _ impossible => impossible.elim
  · rintro t left (same | stored)
    · exact .unchanged (fades_of_vault left apart same)
    · obtain ⟨nowMs, timed, fades⟩ := placed left stored
      exact .changed nowMs timed fades

theorem faithful_dynamicClear (rest : AtRest s) (slot : Nat) :
    Faithful cfg hmac host s (.dynamicClear slot) := by
  have apart : ∀ opcode ∈ [Opcode.set, .clear, .passwordSet, .authProve],
      opcode ∉ opcodesOf (.dynamicClear slot) := by simp [opcodesOf]
  apply faithful_of_meets rest
    (fun stdout t => stdout = dynamicClearLine slot ∧
      Vault.Fades (Function.update s.world.view.vault slot none) t.world.view.vault)
    (fun _ _ => False) fun t => s.world.view.vault.Fades t.world.view.vault
  · intro retries next
    rw [perform, meets_bind]
    apply (VaultOfTexts.meets_clearDynamic retries slot (vault_waiting s next)).mono
    · rintro _ _ _ ⟨_, gone⟩
      exact ⟨rfl, gone⟩
    · exact fun _ _ _ fades => fades
  · rintro t _ left ⟨rfl, gone⟩
    exact ⟨⟨0, trivial, fades_of_vault left apart gone⟩, .dynamicClear slot⟩
  · exact fun _ impossible => impossible.elim
  · exact fun left fades => .unchanged (fades_of_vault left apart fades)

theorem faithful_dynamicClearAll (rest : AtRest s) :
    Faithful cfg hmac host s .dynamicClearAll := by
  have apart : ∀ opcode ∈ [Opcode.set, .clear, .passwordSet, .authProve],
      opcode ∉ opcodesOf .dynamicClearAll := by simp [opcodesOf]
  apply faithful_of_meets rest
    (fun stdout t => stdout = dynamicClearAllLine (List.range cfg.dynamicSlotCount) ∧
      s.world.view.vault.Fades t.world.view.vault ∧
      ∀ slot < cfg.dynamicSlotCount, t.world.view.vault slot = none)
    (fun error t => s.world.view.vault.Fades t.world.view.vault ∧ error.failures ≠ [] ∧
      error.failedSlots.Sublist (List.range cfg.dynamicSlotCount) ∧
      ∀ slot < cfg.dynamicSlotCount, slot ∉ error.failedSlots → t.world.view.vault slot = none)
    fun t => s.world.view.vault.Fades t.world.view.vault
  · intro retries next
    rw [perform, meets_bind]
    apply (VaultOfTexts.meets_clearAllDynamic retries (vault_waiting s next)).mono
    · rintro (error | cleared) next' t ⟨_, fades, ended⟩
      · exact ⟨fades, ended⟩
      · obtain ⟨rfl, gone⟩ := ended
        exact ⟨rfl, fades, gone⟩
    · exact fun _ _ _ fades => fades
  · rintro t _ left ⟨rfl, fades, gone⟩
    have cleared : Vault.Fades (fun slot => if slot < cfg.dynamicSlotCount then none
        else s.world.view.vault slot) t.world.view.vault := by
      intro slot
      by_cases inside : slot < cfg.dynamicSlotCount
      · exact Or.inr (gone slot inside)
      · simp only [if_neg inside]
        exact fades slot
    exact ⟨⟨0, trivial, fades_of_vault left apart cleared⟩, .dynamicClearAll⟩
  · rintro t error left ⟨fades, any, listed, gone⟩
    exact ⟨rfl, any, listed, fades_of_vault left apart fades, gone⟩
  · exact fun left fades => .unchanged (fades_of_vault left apart fades)

/-! ## The password -/

theorem processAuthInfo_ok {env : Env} {request : Frame}
    (success : (processAuthInfo env request (Frame.initResponse (some request)) w).1.status =
      Status.ok.code) :
    w.auth.state ≠ .stateErrorLocked ∧
      processAuthInfo env request (Frame.initResponse (some request)) w =
        (okFrame request (authInfoPayload (AuthCore.getInfo (env.clock .operation) w.auth).1) 0
          authInfoLength, w.withAuth (AuthCore.getInfo (env.clock .operation) w.auth).2) := by
  have length := authInfoPayload_length (AuthCore.getInfo (env.clock .operation) w.auth).1
  have refused : ∀ status : Status, status ≠ .ok →
      ((Frame.initResponse (some request)).setError status).status ≠ Status.ok.code := by
    intro status bad
    rw [Frame.status_setError, ne_eq, Status.code_inj]
    exact bad
  unfold processAuthInfo at success ⊢
  dsimp only at success ⊢
  split at success
  · exact absurd success (refused _ (by decide))
  next passed =>
  split at success
  · exact absurd success (refused _ (by decide))
  next unlocked =>
    rw [if_neg passed, if_neg unlocked, okFrame, length]
    refine ⟨fun locked => unlocked ?_, rfl⟩
    simp [AuthCore.getInfo, locked]

/-- What the client reads of an unlocked core is its state, its session and its
parameters, bit by bit. -/
theorem reads_info {core : AuthCore.State} {nowMs : Int} {info : AuthInfo}
    (unlocked : core.state ≠ .stateErrorLocked)
    (fits : core.state = .stateProtected → core.credential.iterations < 2 ^ 32)
    (decoded : decodeAuthInfo (authInfoPayload (AuthCore.getInfo nowMs core).1) = .ok info) :
    info.configured = decide (core.state = .stateProtected) ∧
      info.authenticated = (AuthCore.getInfo nowMs core).2.sessionActive ∧
      info.iterations = if core.state = .stateProtected then core.credential.iterations
        else authIterationsDefault := by
  have read := decodeAuthInfo_ok decoded
  rw [flag_configured, flag_authenticated] at read
  have iterations := slice_iterations (AuthCore.getInfo nowMs core).1
  rw [AuthCore.getInfo_core]
  cases state : core.state with
  | stateErrorLocked => exact absurd state unlocked
  | stateOpen =>
    have small : AuthCore.iterationsDefault < 2 ^ 32 := by decide
    rw [AuthCore.getInfo_open nowMs state] at read iterations
    rw [iterations small] at read
    rw [read]
    exact ⟨rfl, rfl, rfl⟩
  | stateProtected =>
    rw [AuthCore.getInfo_protected nowMs state] at read iterations
    rw [iterations (fits state)] at read
    rw [read]
    exact ⟨rfl, rfl, rfl⟩

/-- An answer to AUTH_INFO reports the keyboard it leaves, after the session
has been looked at. -/
theorem authInfo_view {id : ContextId} {env : Env} {request response : Frame} {info : AuthInfo}
    (passed : baseCheck request = .ok .authInfo)
    (step : FrameStep cfg hmac w ⟨id, env, request, response⟩ w')
    (success : response.status = Status.ok.code)
    (decoded : decodeAuthInfo (response.payload RuntimeMacroClient.authInfoSize) = .ok info)
    (fits : ∀ credential ∈ w.view.protection, credential.iterations < 2 ^ 32) :
    w'.view.Reports info := by
  have result := step.result
  simp only [processFrame, passed, dispatch] at result
  obtain ⟨unlocked, answered⟩ := @processAuthInfo_ok (syncAuthState cfg env id w) env request
    (by rw [result]; exact success)
  rw [answered, Prod.mk.injEq] at result
  obtain ⟨answer, left⟩ := result
  have looked := observedSession_looked env w.auth
  rw [← syncAuthState_auth cfg env id w] at looked
  generalize (syncAuthState cfg env id w).auth = core at unlocked answer left looked
  have length := authInfoPayload_length (AuthCore.getInfo (env.clock .operation) core).1
  have payload := payload_okFrame request _ 0 authInfoLength (by rw [length]; decide)
  have size : RuntimeMacroClient.authInfoSize = authInfoLength := rfl
  rw [length, answer] at payload
  rw [size, payload] at decoded
  have before : w.view.protection =
      if core.state = .stateProtected then some core.credential else none :=
    (view_protection looked.persistent).symm
  have after : w'.view.protection =
      if core.state = .stateProtected then some core.credential else none := by
    rw [← left]
    apply view_protection
    exact (congrArg AuthCore.State.persistent (AuthCore.getInfo_core _ core)).trans
      (AuthCore.expireSession_persistent _ core)
  obtain ⟨configured, authenticated, iterations⟩ := reads_info unlocked (fun guarded =>
    fits core.credential (by rw [before, if_pos guarded]; rfl)) decoded
  constructor
  · rw [configured, after]
    split <;> simp [*]
  · rw [authenticated, ← left]
    rfl
  · rw [iterations, after]
    split <;> rfl

theorem iterations_small (reachable : Reachable cfg hmac w) :
    ∀ credential ∈ w.view.protection, credential.iterations < 2 ^ 32 := by
  intro credential held
  simp only [World.view] at held
  split at held
  next guarded =>
    cases held
    obtain ⟨_, most, _⟩ := credentialIsValid_parts (reachable.sound.credentialed guarded)
    unfold authIterationsMax at most
    omega
  · cases held

theorem view_of_auth (same : w'.auth = w.auth) :
    w'.view.protection = w.view.protection ∧ w'.view.session = w.view.session := by
  simp only [World.view, same, and_self]

/-- The requests of authentication, while the credential is that of the
beginning. -/
theorem guardTransaction (cfg : Config) (hmac : Hmac) (w : World) :
    Transaction (device cfg hmac usbContext) (fun request => ∃ opcode, AuthFrame request opcode)
      (fun _ => True) (fun t => t.world.view.protection = w.view.protection) fun _ => False := by
  apply PasswordOverLoss.authTransaction
  · exact fun rested same => (rests_view rested).protection.trans same
  · intro t exchange w' kept same
    have left : w'.view.protection = t.world.view.protection := by
      simp only [World.view, kept.state, kept.credential]
    exact left.trans same

theorem auth_between (s : Transport) (next : UInt8) :
    PasswordOverLoss.Between (fun request => ∃ opcode, AuthFrame request opcode) (fun _ => True)
      (fun t => t.world.view.protection = s.world.view.protection) (fun _ => False) [] next
      (⟨.fresh s.world, [], next - 1, false⟩, []) :=
  ⟨.initially rfl, by simp, fun known => known⟩

/-- A shown state was the state when AUTH_INFO was served, and serving it may
only have ended a session. -/
theorem faithful_authInfo (rest : AtRest s) (reachable : Reachable cfg hmac s.world) :
    Faithful cfg hmac host s .authInfo := by
  apply faithful_of_meets rest (fun stdout t => ∃ info, stdout = authInfoLine info ∧
    t.world.view.Reports info) (fun _ _ => False) fun _ => True
  · intro retries next
    rw [perform, meets_bind]
    apply (@PasswordOverLoss.meets_authInfo _ _ _ host [] _ _ _ _ _ _ _
      (guardTransaction cfg hmac s.world) (fun frame => ⟨⟨_, frame⟩, trivial⟩) retries
      (auth_between s next)).mono
    · rintro info next' t ⟨_, _, request, response, before, after, frame, decoded, acknowledged⟩
      obtain ⟨env, w', step, quiet, _⟩ := served_last acknowledged.served
      have small := iterations_small reachable
      rw [← show before.world.view.protection = _ from acknowledged.served.sound] at small
      obtain ⟨configured, authenticated, iterations⟩ :=
        authInfo_view frame.passed step acknowledged.status decoded small
      obtain ⟨protection, session⟩ := view_of_auth quiet.auth
      rw [← protection] at configured iterations
      rw [← session] at authenticated
      exact ⟨info, rfl, configured, authenticated, iterations⟩
    · exact fun _ _ _ _ => trivial
  · rintro t stdout left ⟨info, rfl, reports⟩
    exact ⟨⟨0, trivial, fades_of_reading left (by simp [opcodesOf])⟩, .authInfo reports⟩
  · exact fun _ impossible => impossible.elim
  · exact fun left _ => .unchanged (fades_of_reading left (by simp [opcodesOf]))

/-- A login that is reported has opened a session. The rest of the keyboard is
as it was. -/
theorem faithful_login (rest : AtRest s) (password : String) :
    Faithful cfg hmac host s (.login password) := by
  have fades : ∀ {w : World}, Spared (opcodesOf (.login password)) s.world.view w.view →
      View.Fades { s.world.view with session := true } w.view := by
    intro w left
    refine ⟨left.texts ?_ ?_, left.vault ?_ ?_, left.protection ?_, fun _ => rfl⟩
    all_goals simp [opcodesOf, authOpcodes]
  apply faithful_of_meets rest (fun stdout t => stdout = line "authenticated" ∧
    t.world.view.protection.isSome = true ∧ t.world.view.session = true) (fun _ _ => False)
    fun _ => True
  · intro retries next
    rw [perform, meets_bind]
    apply (PasswordOverLoss.meets_authenticate (guardTransaction cfg hmac s.world)
      (fun frame => ⟨⟨_, frame⟩, trivial⟩) retries password (auth_between s next)).mono
    · rintro info next' t ⟨between, _, answered⟩
      have session := PasswordOverLoss.session_of_answered answered
      obtain ⟨request, response, before, after, frame, _, acknowledged⟩ := answered
      obtain ⟨env, w', step, _, _⟩ := served_last acknowledged.served
      obtain ⟨guarded, _⟩ := PasswordChunks.authProve_opens frame.passed step acknowledged.status
      have held : before.world.view.protection.isSome = true := by
        simp only [World.view, Option.isSome_ite]
        exact guarded
      rw [show before.world.view.protection = _ from acknowledged.served.sound] at held
      refine ⟨rfl, ?_, session⟩
      rw [show t.1.state.world.view.protection = _ from between.guarded.sound]
      exact held
    · exact fun _ _ _ _ => trivial
  · rintro t _ left ⟨rfl, guarded, session⟩
    exact ⟨⟨0, trivial, fades left⟩, .login password guarded session⟩
  · exact fun _ impossible => impossible.elim
  · exact fun left _ => .changed 0 trivial (fades left)

/-- A password change that is reported has put the new credential in force and
logged in with it. -/
theorem faithful_setPassword (rest : AtRest s) (password : String) (salt : Vector UInt8 16)
    (fresh : ∀ credential ∈ s.world.view.protection, credential.salt ≠ salt) :
    Faithful cfg hmac host s (.setPassword password salt) := by
  have fades : ∀ {w : World} {protection : Option AuthCore.Credential},
      Spared (opcodesOf (.setPassword password salt)) s.world.view w.view →
      w.view.protection = protection →
      View.Fades { s.world.view with protection := protection, session := true } w.view := by
    intro w protection left held
    refine ⟨left.texts ?_ ?_, left.vault ?_ ?_, held, fun _ => rfl⟩
    all_goals simp [opcodesOf, authOpcodes]
  apply faithful_of_meets rest (fun stdout t => stdout = line "password configured" ∧
    t.world.view.protection = some (passwordCredential host password salt) ∧
    t.world.view.session = true) (fun _ _ => False)
    fun t => t.world.auth.state = .stateProtected →
      t.world.auth.credential = passwordCredential host password salt ∨
        (s.world.auth.state = .stateProtected ∧
          t.world.auth.credential = s.world.auth.credential)
  · intro retries next
    have pausing : PasswordOverLoss.Pausing usbContext s.world
        (passwordCredential host password salt) [] next
        (⟨.fresh s.world, [], next - 1, false⟩, []) :=
      ⟨.initially ⟨fun guarded => Or.inr ⟨guarded, rfl⟩, .fresh s.world⟩, by simp,
        fun known => known⟩
    have differs : s.world.auth.state = .stateProtected → s.world.auth.credential.salt ≠ salt :=
      fun guarded => fresh _ (if_pos guarded)
    rw [perform, meets_bind]
    apply (PasswordOverLoss.meets_setPassword retries password authIterationsDefault salt rfl
      differs pausing).mono
    · rintro info next' t ⟨opened, _⟩
      exact ⟨rfl, (if_pos opened.guarded).trans (congrArg some opened.active), opened.session⟩
    · exact fun _ _ _ changing => changing.holds
  · rintro t _ left ⟨rfl, held, session⟩
    exact ⟨⟨0, trivial, fades left held⟩, .setPassword password salt session⟩
  · exact fun _ impossible => impossible.elim
  · intro t left changing
    by_cases guarded : t.world.auth.state = .stateProtected
    · have held : t.world.view.protection = some t.world.auth.credential := if_pos guarded
      rcases changing guarded with new | ⟨before, same⟩
      · rw [new] at held
        exact .changed 0 trivial (fades left held)
      · have kept : t.world.view.protection = s.world.view.protection := by
          rw [held, same]
          exact (if_pos before).symm
        exact .loggedIn rfl (fades left kept)
    · have none : t.world.view.protection = none := if_neg guarded
      have kept : t.world.view.protection = s.world.view.protection := by
        rw [none]
        by_contra some
        have still := left.guarded (Option.isSome_iff_ne_none.mpr fun same => some same.symm)
        rw [none] at still
        cases still
      exact .loggedIn rfl (fades left kept)

theorem lockTransaction (cfg : Config) (hmac : Hmac) :
    Transaction (device cfg hmac usbContext) (fun request => baseCheck request = .ok .lock)
      (fun _ => True) (fun _ => True) fun _ => True :=
  ⟨fun _ => ⟨id, id⟩, fun _ _ _ _ => ⟨trivial, fun _ => trivial⟩⟩

/-- A LOCK that is answered has ended the session, whether by itself or by an
earlier one whose answer was lost. -/
theorem meets_lock (retries : Nat) (s : Transport) (next : UInt8) :
    (lock retries).Meets (ClientCommits.link cfg hmac usbContext)
      (fun _ _ t => t.1.state.world.auth.sessionActive = false) (fun _ _ _ => True) next
      (⟨.fresh s.world, [], next - 1, false⟩, []) := by
  have transaction := lockTransaction cfg hmac
  apply meets_attempts fun next (t : Delayed Station Frame × Talk) =>
    Guarded (fun request => baseCheck request = .ok .lock) (fun _ => True) (fun _ => True)
      (fun _ => True) t.1 ∧ next = t.1.key + 1
  · rintro next t ⟨guarded, keyed⟩
    have built := buildFrame_ok .lock next (by decide : 0xFF ≤ 0xFF)
      (by decide : ([] : List UInt8).length ≤ payloadSize) (by decide : 0 ≤ 0xFFFF)
      (by decide : 0 ≤ 0xFFFF)
    have passed := baseCheck_build .lock next (UInt8.ofNat 0xFF) 0 0 [] (by decide)
    have identified := Frame.requestId_build .lock next (UInt8.ofNat 0xFF) 0 0 []
    rw [meets_bind, meets_requestId, meets_bind, built, meets_fromExcept_ok, meets_bind]
    generalize Frame.build .lock next (UInt8.ofNat 0xFF) 0 0 [] = request at passed identified
    have fresh : Keyed request.requestId t.1 := Or.inl (identified.trans keyed)
    apply (meets_sent transaction guarded fresh trivial passed passed (Or.inr trivial)).mono
    · rintro response next' t' ⟨rfl, still, before, after, acknowledged⟩
      have ready : next + 1 = t'.1.key + 1 := by rw [acknowledged.key, identified]
      apply meets_require_of _ fun _ => ⟨trivial, fun _ => ⟨still, ready⟩⟩
      obtain ⟨env, w', step, quiet, _⟩ := served_last acknowledged.served
      rw [quiet.auth]
      exact lock_closes passed step acknowledged.status
    · rintro error next' t' ⟨rfl, still, key, _⟩
      exact ⟨trivial, fun _ => ⟨still, by rw [key, identified]⟩⟩
  · exact ⟨.initially trivial, by simp⟩

theorem faithful_lock (rest : AtRest s) : Faithful cfg hmac host s .lock := by
  apply faithful_of_meets rest
    (fun stdout t => stdout = line "locked" ∧ t.world.view.session = false)
    (fun _ _ => False) fun _ => True
  · intro retries next
    rw [perform, meets_bind]
    apply (meets_lock retries s next).mono
    · exact fun _ _ _ closed => ⟨rfl, closed⟩
    · exact fun _ _ _ _ => trivial
  · rintro t _ left ⟨rfl, closed⟩
    have fades := fades_of_reading left (by simp [opcodesOf])
    refine ⟨⟨0, trivial, fades.texts, fades.vault, fades.protection, fun still => ?_⟩, .lock⟩
    cases closed.symm.trans still
  · exact fun _ impossible => impossible.elim
  · exact fun left _ => .unchanged (fades_of_reading left (by simp [opcodesOf]))

/-! ## The tool -/

/-- One case an action, by the lemma about it. -/
theorem faithful (rest : AtRest s) (reachable : Reachable cfg hmac s.world) (action : Action)
    (fresh : ∀ password salt, action = .setPassword password salt →
      ∀ credential ∈ s.world.view.protection, credential.salt ≠ salt) :
    Faithful cfg hmac host s action := by
  cases action with
  | list => exact faithful_list rest reachable
  | get slot raw => exact faithful_get rest reachable slot raw
  | set slot data => exact faithful_set rest reachable slot data
  | clear slot => exact faithful_clear rest reachable slot
  | authInfo => exact faithful_authInfo rest reachable
  | login password => exact faithful_login rest password
  | setPassword password salt => exact faithful_setPassword rest password salt (fresh _ _ rfl)
  | lock => exact faithful_lock rest
  | capabilities => exact faithful_capabilities rest
  | dynamicSet slot data ttl keep => exact faithful_dynamicSet rest slot data ttl keep
  | dynamicClear slot => exact faithful_dynamicClear rest slot
  | dynamicClearAll => exact faithful_dynamicClearAll rest

/-- What the checks before the first frame refuse is an error the tool
reports. -/
theorem clientCheck_reported {error : ClientError}
    (refused : clientCheck host action = .error error) : Reported error := by
  cases clientCheck_error refused with
  | getSlot wrong | clearSlot wrong | setSlot wrong => exact validateSlot_reported wrong
  | setText _ wrong => exact validateAscii_reported wrong
  | login wrong | setPassword wrong => exact normalizePassword_reported wrong
  | uploadSlot wrong | clearDynamicSlot wrong => exact validateDynamicSlot_reported wrong
  | uploadInput _ wrong => exact validateDynamicInput_reported wrong

/-- Input, options or a device that the tool refuses send nothing, and neither
does what the methods of the client refuse. Else it talks to the device that
the options choose, and ends as its command may: with 0 it has done what the
command says and left everything else but for what has run out, and its output
is so; with an error it has done that or nothing, and a clear-all that fails
names the slots it has not cleared. -/
theorem tool_keeps_its_word (cfg : Config) (hmac : Hmac) (host : Host) (hid : Option HidModule)
    (options : Options) (command : Command) (s : Transport) (issued : Nat) (next : UInt8)
    (rest : AtRest s) (reachable : Reachable cfg hmac s.world)
    (fresh : ∀ password salt, setUp host hid options command = .ok (.setPassword password salt) →
      ∀ credential ∈ s.world.view.protection, credential.salt ≠ salt)
    (talk : Talk) (outcome : Except ClientError Exit × UInt8) (b : Bus)
    (runs : Runs (UsbLink.hears cfg hmac options.timeoutMs)
      ((main host hid options command).dialogue next) (resting s issued) talk outcome b) :
    (∀ exit, setUp host hid options command = .error exit →
      outcome.1 = .ok exit ∧ exit.code ≠ 0 ∧ talk = [] ∧ b = resting s issued) ∧
    ∀ action, setUp host hid options command = .ok action →
      (∃ module info, hid = some module ∧ module.Chosen options.toSelection info) ∧
      (∀ error, clientCheck host action = .error error →
        outcome.1 = .ok (.failed (.clientError error)) ∧ talk = [] ∧ b = resting s issued) ∧
      ∃ exit, outcome.1 = .ok exit ∧ s.world.view.Ends cfg host
        (VaultOfTexts.CommittedBy b.served) action exit b.transport.world.view := by
  constructor
  · intro exit refused
    rw [main, refused] at runs
    cases runs
    exact ⟨rfl, setUp_error refused, rfl, rfl⟩
  · intro action ready
    rw [main, ready] at runs
    refine ⟨setUp_ok ready, fun error refused => ?_,
      faithful rest reachable action (fun password salt same => ?_) runs⟩
    · rw [show _ = _ from carryOut_refused refused (clientCheck_reported refused) next] at runs
      cases runs
      exact ⟨rfl, rfl, rfl⟩
    · exact fresh password salt (same ▸ ready)

def sampleHid : HidModule where
  enumerate := [⟨.str "/dev/hidraw3", some 0x1D50, some 0x615E, some 1, some 6, none, none⟩,
    ⟨.str "/dev/hidraw4", some 0x1D50, some 0x615E, some 0xFF60, some 0x61, none, none⟩]
  openPath _ := .ok ()
  fsdecode _ := ""

def sampleOptions : Options := ⟨⟨none, some 0x1D50, none⟩, 1000, 2⟩

/-- The exit code, when the program got to its end. -/
def exitCode {ε : Type} : Except ε Exit → Option Nat
  | .ok exit => some exit.code
  | .error _ => none

/-- `set 0 --stdin` finds its device among two. The answer to its first frame
is lost; it sends the text again, exits with 0 and has set it. -/
theorem tool_keeps_its_word_sample :
    ∃ talk outcome b, Runs (UsbLink.hears .default AuthCore.sampleHmac 1000)
        ((main PasswordOverLoss.sampleHost (some sampleHid) sampleOptions
          (.set 0 (.stdin [72, 105]))).dialogue 7) (resting ArrayOfTexts.sampleTransport 0) talk
        outcome b ∧
      exitCode outcome.1 = some 0 ∧ b.transport.world.view.texts 0 = [72, 105] := by
  have rest : AtRest ArrayOfTexts.sampleTransport :=
    ⟨rfl, rfl, rfl, rfl, rfl, fun _ => rfl, rfl, rfl⟩
  have reachable : Reachable .default AuthCore.sampleHmac RoundTrip.sampleDevice :=
    ⟨.empty, [.settingsCommit fun _ => 0], .single rfl⟩
  have ready : setUp PasswordOverLoss.sampleHost (some sampleHid) sampleOptions
      (.set 0 (.stdin [72, 105])) = .ok (.set 0 [72, 105]) := by rfl
  obtain ⟨s', issued', log, runs, _⟩ := UsbLink.stumbles .default AuthCore.sampleHmac (.still 0)
    [.answerLost] 0 [] rest rfl (by decide : 0 < (1000 : Int))
    ((main PasswordOverLoss.sampleHost (some sampleHid) sampleOptions
      (.set 0 (.stdin [72, 105]))).dialogue 7)
  have returned : exitCode ((((main PasswordOverLoss.sampleHost (some sampleHid) sampleOptions
      (.set 0 (.stdin [72, 105]))).dialogue 7).drive
      (UsbLink.stumblingAnswer .default AuthCore.sampleHmac (.still 0))
      (ArrayOfTexts.sampleTransport.world, [.answerLost])).2.1).1 = some 0 := by
    rfl
  obtain ⟨_, exit, ended, ends⟩ := (tool_keeps_its_word .default AuthCore.sampleHmac
    PasswordOverLoss.sampleHost (some sampleHid) sampleOptions (.set 0 (.stdin [72, 105]))
    ArrayOfTexts.sampleTransport 0 7 rest reachable
    (fun password salt same => by cases ready.symm.trans same) _ _ _ runs).2 _ ready |>.2
  refine ⟨_, _, _, runs, returned, ?_⟩
  rw [ended] at returned
  cases ends with
  | done done =>
    obtain ⟨nowMs, _, fades⟩ := done.effect
    rw [fades.texts]
    simp [View.after]
  | uncleared | stopped => cases returned

end RuntimeMacro.Guarantees.ToolEffects
