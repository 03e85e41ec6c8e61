import RuntimeMacro.Source.VisibleText

/-!
# The text of a slot on the terminal

tools/runtime_macro_cli.py:284-300,1140-1177. What `get` prints holds no
control character and tells the bytes of the slot.
-/
namespace RuntimeMacro.Guarantees.TerminalText
open Source.RuntimeMacroClient

/-- The newline of `print` is behind the text and takes nothing away from
it. -/
theorem printedText_injective : Function.Injective printedText := by
  intro data other same
  have shown := congrArg String.toList same
  unfold printedText at shown
  rw [String.toList_append, String.toList_append, List.append_cancel_right_eq] at shown
  exact visibleText_injective (String.toList_inj.mp shown)

/-- Every text is shown in printable characters only, and no two texts are
shown alike, be they over the alphabet of the slots or not. -/
theorem visible_text_safe :
    (∀ data, ∀ c ∈ (visibleText data).toList, Printable c) ∧
    Function.Injective visibleText ∧ Function.Injective printedText :=
  ⟨visibleText_printable, visibleText_injective, printedText_injective⟩

/-- A hexadecimal escape is not the text that spells it. -/
example : visibleText [0x5C, 0x78, 0x30, 0x37] = "\\\\x07" ∧ visibleText [0x07] = "\\x07" := by
  decide

end RuntimeMacro.Guarantees.TerminalText
