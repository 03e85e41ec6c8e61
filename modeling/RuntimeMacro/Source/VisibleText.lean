import RuntimeMacro.Foundations.Codewords
import RuntimeMacro.Source.Client

/-!
# Texts on the terminal

tools/runtime_macro_cli.py:284-300. `visible_text` of the client, and what
reads it back: a printed character is a byte of its own unless it is a
backslash, which an escape of two or four characters starts.
-/
namespace RuntimeMacro.Source.RuntimeMacroClient
open Foundations.Codewords

/-- One pass of the loop of `visible_text`. -/
def visibleByte (value : UInt8) : String :=
  if value = 0x08 then "\\b"
  else if value = 0x09 then "\\t"
  else if value = 0x0A then "\\n"
  else if value = 0x5C then "\\\\"
  else if 0x20 ≤ value ∧ value ≤ 0x7E then String.singleton (Char.ofUInt8 value)
  else "\\x" ++
    String.ofList [Nat.digitChar (value.toNat / 16), Nat.digitChar (value.toNat % 16)]

/-- `visible_text` (runtime_macro_cli.py:284-300). -/
def visibleText (data : List UInt8) : String := String.join (data.map visibleByte)

/-- What the `get` command prints for a slot, without `--raw`. -/
def printedText (result : List UInt8) : String := visibleText result ++ "\n"

/-- A character of printable ASCII. -/
def Printable (c : Char) : Prop := 0x20 ≤ c.toNat ∧ c.toNat ≤ 0x7E

instance : DecidablePred Printable := fun c =>
  inferInstanceAs (Decidable (0x20 ≤ c.toNat ∧ c.toNat ≤ 0x7E))

/-- The value of a hexadecimal digit. -/
def hexValue (c : Char) : Nat := if c.toNat ≤ 0x39 then c.toNat - 0x30 else c.toNat - 0x57

/-- The byte of an escape, behind its backslash. -/
def readEscape : List Char → Option (UInt8 × List Char)
  | 'b' :: rest => some (0x08, rest)
  | 't' :: rest => some (0x09, rest)
  | 'n' :: rest => some (0x0A, rest)
  | '\\' :: rest => some (0x5C, rest)
  | 'x' :: high :: low :: rest =>
    some (UInt8.ofNat (16 * hexValue high + hexValue low), rest)
  | _ => none

/-- The first byte shown in a text, and the rest of the text. -/
def readVisible : List Char → Option (UInt8 × List Char)
  | [] => none
  | c :: rest => if c = '\\' then readEscape rest else some (c.toUInt8, rest)

/-! ## One byte -/

theorem hexDigit_table : ∀ value : Fin 16,
    hexValue (Nat.digitChar value.val) = value.val ∧ Printable (Nat.digitChar value.val) := by
  decide

theorem hexValue_digitChar {value : Nat} (small : value < 16) :
    hexValue (Nat.digitChar value) = value := (hexDigit_table ⟨value, small⟩).1

theorem printable_digitChar {value : Nat} (small : value < 16) :
    Printable (Nat.digitChar value) := (hexDigit_table ⟨value, small⟩).2

theorem toUInt8_ofUInt8 (value : UInt8) : (Char.ofUInt8 value).toUInt8 = value :=
  UInt8.toUInt8_toUInt32 value

theorem toList_hex (high low : Char) :
    ("\\x" ++ String.ofList [high, low]).toList = ['\\', 'x', high, low] := by
  rw [String.toList_append, String.toList_ofList, String.toList_ofList]
  rfl

/-- The escape of any byte is read back, whether `visible_text` uses it or
not. -/
theorem readVisible_hex (value : UInt8) (rest : List Char) :
    readVisible ('\\' :: 'x' :: Nat.digitChar (value.toNat / 16) ::
      Nat.digitChar (value.toNat % 16) :: rest) = some (value, rest) := by
  have bound := value.toNat_lt
  have high : value.toNat / 16 < 16 := by omega
  have low : value.toNat % 16 < 16 := Nat.mod_lt _ (by decide)
  have whole : 16 * hexValue (Nat.digitChar (value.toNat / 16)) +
      hexValue (Nat.digitChar (value.toNat % 16)) = value.toNat := by
    rw [hexValue_digitChar high, hexValue_digitChar low]
    omega
  rw [readVisible, if_pos rfl, readEscape, whole, UInt8.ofNat_toNat]

theorem readVisible_visibleByte (value : UInt8) (rest : List Char) :
    readVisible ((visibleByte value).toList ++ rest) = some (value, rest) := by
  unfold visibleByte
  split
  next backspace =>
    rw [backspace]
    rfl
  split
  next tab =>
    rw [tab]
    rfl
  split
  next newline =>
    rw [newline]
    rfl
  split
  next backslash =>
    rw [backslash]
    rfl
  next notBackslash =>
  split
  next printable =>
    have plain : Char.ofUInt8 value ≠ '\\' := by
      intro same
      have byte := congrArg Char.toUInt8 same
      rw [toUInt8_ofUInt8] at byte
      exact notBackslash byte
    rw [String.toList_singleton, List.singleton_append, readVisible, if_neg plain,
      toUInt8_ofUInt8]
  · rw [toList_hex]
    exact readVisible_hex value rest

theorem printable_escape {letter : Char} (printable : Printable letter) :
    ∀ c ∈ ['\\', letter], Printable c := by
  intro c member
  simp only [List.mem_cons, List.not_mem_nil, or_false] at member
  rcases member with rfl | rfl
  · decide
  · exact printable

theorem visibleByte_printable (value : UInt8) :
    ∀ c ∈ (visibleByte value).toList, Printable c := by
  have bound := value.toNat_lt
  unfold visibleByte
  split
  · exact printable_escape (by decide : Printable 'b')
  split
  · exact printable_escape (by decide : Printable 't')
  split
  · exact printable_escape (by decide : Printable 'n')
  split
  · exact printable_escape (by decide : Printable '\\')
  split
  next printable =>
    intro c member
    rw [String.toList_singleton, List.mem_singleton] at member
    rw [member]
    exact ⟨UInt8.le_iff_toNat_le.mp printable.1, UInt8.le_iff_toNat_le.mp printable.2⟩
  · intro c member
    rw [toList_hex] at member
    simp only [List.mem_cons, List.not_mem_nil, or_false] at member
    rcases member with rfl | rfl | rfl | rfl
    · decide
    · decide
    · exact printable_digitChar (by omega)
    · exact printable_digitChar (Nat.mod_lt _ (by decide))

/-! ## A whole text -/

theorem toList_visibleText (data : List UInt8) :
    (visibleText data).toList = data.flatMap fun value => (visibleByte value).toList := by
  rw [visibleText, String.toList_join, List.flatMap_map]

theorem reads_visibleByte : Reads (fun value => (visibleByte value).toList) readVisible :=
  ⟨readVisible_visibleByte, rfl⟩

theorem visibleText_injective : Function.Injective visibleText := by
  intro data other same
  apply reads_visibleByte.flatMap_injective
  dsimp only
  rw [← toList_visibleText, ← toList_visibleText, same]

theorem visibleText_printable (data : List UInt8) :
    ∀ c ∈ (visibleText data).toList, Printable c := by
  intro c member
  rw [toList_visibleText] at member
  obtain ⟨value, _, shown⟩ := List.mem_flatMap.mp member
  exact visibleByte_printable value c shown

end RuntimeMacro.Source.RuntimeMacroClient
