import RuntimeMacro.Foundations.Implementations
import RuntimeMacro.Source.Client
import RuntimeMacro.Source.DynamicStore

/-!
# The dynamic slots as a vault

tools/runtime_macro_cli.py:749-905. What the dynamic slots are to a program on
the host: a text goes in, can be taken out, and may be gone at any time, for it
expires, is typed, and is cleared by lifecycle events. The calls of the client
that make it so, with `clear_all_dynamic` among them.
-/
namespace RuntimeMacro.Source
open Foundations.Dialogues

namespace RuntimeMacroClient

/-- `except (RuntimeMacroError, OSError)` catches it. -/
def ClientError.isCaught : ClientError → Bool
  | .valueError _ | .passwordSetTimeout _ _ => false
  | _ => true

/-- `DynamicClearAllError` (runtime_macro_cli.py:205-214) by its `failures`. -/
structure DynamicClearAllError where
  failures : List (Nat × ClientError)

/-- The slots that could not be cleared. -/
def DynamicClearAllError.failedSlots (error : DynamicClearAllError) : List Nat :=
  error.failures.map Prod.fst

/-- The body of the loop of `clear_all_dynamic`, on `failures` and
`cleared`. -/
def clearOrFail (retries : Nat) (outcome : List (Nat × ClientError) × List Nat) (slot : Nat) :
    Client (List (Nat × ClientError) × List Nat) :=
  tryCatch (do
      retryCall retries (clearDynamicOnce slot)
      return (outcome.1, outcome.2 ++ [slot]))
    fun error =>
      if error.isCaught then return (outcome.1 ++ [(slot, error)], outcome.2)
      else throw error

/-- `clear_all_dynamic` (runtime_macro_cli.py:883-905). The error it ends
with is a value here. A slot that fails does not keep the loop from the later
ones. -/
def clearAllDynamic (retries : Nat) : Client (Except DynamicClearAllError (List Nat)) := do
  let capabilities ← getCapabilities retries
  let (failures, cleared) ←
    (List.range capabilities.dynamicObjectCount).foldlM (clearOrFail retries) ([], [])
  return if failures ≠ [] then .error ⟨failures⟩ else .ok cleared

end RuntimeMacroClient

open RuntimeMacroClient

/-- A committed text. -/
structure CommittedText where
  text : List UInt8
  ttlDeadlineMs : Int
  consumeOnAccept : Bool

/-- What an upload puts in its slot when it is committed at `nowMs`. -/
def uploaded (data : List UInt8) (ttlSeconds : Option Nat) (keepAfterExecute : Bool)
    (nowMs : Int) : CommittedText :=
  ⟨data, nowMs + (ttlSeconds.getD dynamicDefaultTtlSeconds : Int) * 1000, !keepAfterExecute⟩

/-- The text of every slot that holds one. -/
abbrev Vault := Nat → Option CommittedText

/-- The committed text of a slot with its deadline and policy, nothing else of
the entry. -/
def DynamicSlot.held (entry : DynamicSlot) : Option CommittedText :=
  if entry.committedValid then
    some ⟨entry.committed.take entry.committedLength, entry.ttlDeadlineMs,
      entry.committedConsumeOnAccept⟩
  else none

/-- What the store holds, slot by slot. -/
def DynamicStore.vault (s : DynamicStore) : Vault := fun slot => (s.slots slot).held

/-- Texts may be gone, and no other is there. -/
def Vault.Fades (vault vault' : Vault) : Prop :=
  ∀ slot, vault' slot = vault slot ∨ vault' slot = none

/-- The operations of the tool on dynamic slots. -/
inductive VaultCall where
  | upload (slot : Nat) (data : List UInt8) (ttlSeconds : Option Nat) (keepAfterExecute : Bool)
  | clear (slot : Nat)
  | clearAll

/-- What they report. -/
inductive VaultAnswer where
  | done
  | cleared (slots : List Nat)
  | clearAllFailed (error : DynamicClearAllError)

/-- The method of the client. -/
def VaultCall.client (retries : Nat) : VaultCall → Client VaultAnswer
  | .upload slot data ttlSeconds keepAfterExecute => do
    uploadDynamic retries slot data ttlSeconds keepAfterExecute
    return .done
  | .clear slot => do
    clearDynamic retries slot
    return .done
  | .clearAll => do
    match ← clearAllDynamic retries with
    | .ok slots => return .cleared slots
    | .error error => return .clearAllFailed error

/-- What a vault answers, and what it is then. An upload counts its TTL from
the `nowMs` at which `commits` has the text in its slot; what a failed
clear-all does not list is gone. -/
inductive Vault.Answers (cfg : Config) (commits : Nat → CommittedText → Int → Prop)
    (vault : Vault) : VaultCall → VaultAnswer → Vault → Prop
  | upload {slot : Nat} {data : List UInt8} {ttlSeconds : Option Nat} {keepAfterExecute : Bool}
      {vault' : Vault} (nowMs : Int)
      (committed : commits slot (uploaded data ttlSeconds keepAfterExecute nowMs) nowMs)
      (stored : Vault.Fades (Function.update vault slot
        (some (uploaded data ttlSeconds keepAfterExecute nowMs))) vault') :
      Answers cfg commits vault (.upload slot data ttlSeconds keepAfterExecute) .done vault'
  | clear {slot : Nat} {vault' : Vault}
      (gone : Vault.Fades (Function.update vault slot none) vault') :
      Answers cfg commits vault (.clear slot) .done vault'
  | cleared {vault' : Vault} (fades : vault.Fades vault')
      (gone : ∀ slot < cfg.dynamicSlotCount, vault' slot = none) :
      Answers cfg commits vault .clearAll (.cleared (List.range cfg.dynamicSlotCount)) vault'
  | clearAllFailed {error : DynamicClearAllError} {vault' : Vault} (any : error.failures ≠ [])
      (listed : error.failedSlots.Sublist (List.range cfg.dynamicSlotCount))
      (fades : vault.Fades vault')
      (gone : ∀ slot < cfg.dynamicSlotCount, slot ∉ error.failedSlots → vault' slot = none) :
      Answers cfg commits vault .clearAll (.clearAllFailed error) vault'

namespace Vault
variable {vault vault' vault'' : Vault} {slot : Nat} {held : Option CommittedText}

/-- With more commits a vault answers what it answers with fewer. -/
theorem Answers.mono {cfg : Config} {commits commits' : Nat → CommittedText → Int → Prop}
    {call : VaultCall} {answer : VaultAnswer}
    (answers : Vault.Answers cfg commits vault call answer vault')
    (more : ∀ slot held nowMs, commits slot held nowMs → commits' slot held nowMs) :
    Vault.Answers cfg commits' vault call answer vault' := by
  cases answers with
  | upload nowMs committed stored => exact .upload nowMs (more _ _ _ committed) stored
  | clear gone => exact .clear gone
  | cleared fades gone => exact .cleared fades gone
  | clearAllFailed any listed fades gone => exact .clearAllFailed any listed fades gone

theorem Fades.refl (vault : Vault) : vault.Fades vault := fun _ => Or.inl rfl

theorem Fades.trans (first : vault.Fades vault') (second : vault'.Fades vault'') :
    vault.Fades vault'' := by
  intro slot
  rcases second slot with same | gone
  · rw [same]
    exact first slot
  · exact Or.inr gone

theorem Fades.gone (fades : vault.Fades vault') (empty : vault slot = none) :
    vault' slot = none := by
  rcases fades slot with same | gone
  · rw [same, empty]
  · exact gone

theorem Fades.erased (vault : Vault) (slot : Nat) :
    vault.Fades (Function.update vault slot none) := by
  intro other
  by_cases same : other = slot
  · rw [same, Function.update_self]
    exact Or.inr rfl
  · rw [Function.update_of_ne same]
    exact Or.inl rfl

theorem Fades.update (fades : vault.Fades vault') (slot : Nat) (held : Option CommittedText) :
    Fades (Function.update vault slot held) (Function.update vault' slot held) := by
  intro other
  by_cases same : other = slot
  · rw [same, Function.update_self, Function.update_self]
    exact Or.inl rfl
  · rw [Function.update_of_ne same, Function.update_of_ne same]
    exact fades other

/-- A slot that was given the text afterwards. -/
theorem Fades.updated (fades : ∀ other, other ≠ slot →
      vault' other = vault other ∨ vault' other = none) (stored : vault' slot = held) :
    Fades (Function.update vault slot held) vault' := by
  intro other
  by_cases same : other = slot
  · rw [same, Function.update_self]
    exact Or.inl stored
  · rw [Function.update_of_ne same]
    exact fades other same

end Vault

end RuntimeMacro.Source
