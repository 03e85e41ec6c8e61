import RuntimeMacro.Foundations.Implementations
import RuntimeMacro.Source.Client

/-!
# The static slots as an array of texts

tools/runtime_macro_cli.py:1103-1244. What the keyboard is to a program on the
host, and the calls of the client that make it so.
-/
namespace RuntimeMacro.Source
open RuntimeMacroClient (Client SlotInfo listSlots getSlot setSlot clearSlot)

/-- The text of every slot. -/
abbrev SlotTexts := Nat → List UInt8

/-- The four operations on the array of texts. -/
inductive SlotCall where
  | list
  | get (slot : Nat)
  | set (slot : Nat) (data : List UInt8)
  | clear (slot : Nat)

/-- What they return. -/
inductive SlotAnswer where
  | slots (infos : List SlotInfo)
  | text (data : List UInt8)
  | done

/-- The method of the client. -/
def SlotCall.client (retries : Nat) : SlotCall → Client SlotAnswer
  | .list => do
    let infos ← listSlots retries
    return .slots infos
  | .get slot => do
    let data ← getSlot retries slot
    return .text data
  | .set slot data => do
    setSlot retries slot data
    return .done
  | .clear slot => do
    clearSlot retries slot
    return .done

/-- What an array of texts answers, and what it is then. -/
def SlotTexts.answer (cfg : Config) (texts : SlotTexts) : SlotCall → SlotAnswer × SlotTexts
  | .list =>
    (.slots ((List.range cfg.slotCount).map fun slot => ⟨slot, (texts slot).length⟩), texts)
  | .get slot => (.text (texts slot), texts)
  | .set slot data => (.done, Function.update texts slot data)
  | .clear slot => (.done, Function.update texts slot [])

/-- The array as a partner of the tool's calls. -/
def SlotTexts.Answers (cfg : Config) (texts : SlotTexts) (call : SlotCall) (answer : SlotAnswer)
    (texts' : SlotTexts) : Prop :=
  texts.answer cfg call = (answer, texts')

end RuntimeMacro.Source
