import RuntimeMacro.Foundations.KeyReaders
import RuntimeMacro.Source.ExecutorRuns
import RuntimeMacro.Source.Settings

/-!
# The computer behind the keyboard

A computer with the US layout, stated by the usages of its keys and not by the
table at runtime_macro_ascii.c:24-127. The keyboard is there for this computer
to read the texts.
-/
namespace RuntimeMacro.Source
open Foundations.KeyReaders
open Foundations.KeyReaders.Layout

/-- The keys of the keyboard page from a usage on, without and with shift. -/
def usRow (first : Nat) (plain shifted : String) : List (Nat × UInt8 × UInt8) :=
  (List.range' first (ascii plain).length).zip ((ascii plain).zip (ascii shifted))

/-- The key ids of a US keyboard with the byte each produces, plain and with
shift. -/
def usKeys : List (Nat × UInt8 × UInt8) :=
  usRow 0x04 "abcdefghijklmnopqrstuvwxyz" "ABCDEFGHIJKLMNOPQRSTUVWXYZ" ++
  usRow 0x1E "1234567890" "!@#$%^&*()" ++
  usRow 0x28 "\n" "\n" ++
  usRow 0x2A "\x08\t -=[]\\" "\x08\t _+\x7b\x7d|" ++
  usRow 0x33 ";'`,./" ":\"~<>?"

/-- What an encoded key types: bits 0 to 15 are its usage, bits 16 to 23 the
page and bits 24 to 31 the modifiers that are held with it. -/
def usSymbol (encoded : Nat) : Option UInt8 :=
  if encoded / 0x10000 % 0x100 = 0x07 then
    match usKeys.lookup (encoded % 0x10000), encoded / 0x1000000 with
    | some (plain, _), 0x00 => some plain
    | some (_, shifted), 0x02 => some shifted
    | _, _ => none
  else none

/-- The computer's reading of a key code: the key in its lower 24 bits, shift
in the modifiers above. -/
def usLayout : Layout Nat Nat UInt8 where
  key encoded := encoded % 0x1000000
  symbol := usSymbol

/-- What the computer reads from key events, and the keys that are down in
the end. -/
def computerReads (events : List (Nat × Bool)) : Reader Nat UInt8 := usLayout.hears ⟨[], []⟩ events

/-- The table types on the US layout what it is asked to type. -/
theorem usSymbol_asciiToKeycode {byte : UInt8} {encoded : Nat}
    (known : Ascii.asciiToKeycode byte = .ok encoded) : usSymbol encoded = some byte := by
  have table : ∀ n : Fin 256, (Ascii.asciiToKeycode (.ofNat n.val)).toOption.all
      (fun encoded => usSymbol encoded == some (.ofNat n.val)) = true := by
    decide +kernel
  have entry := table ⟨byte.toNat, byte.toNat_lt⟩
  have same : UInt8.ofNat byte.toNat = byte := by simp
  simp only [same, known] at entry
  simpa [Except.toOption] using entry

/-! ## Texts and blocks -/

variable {text : List UInt8} {codes : List Nat}

/-- Whatever has been typed of a text is read as a front of it. -/
theorem keycodes_prefix (typed : codes <+: keycodes text) :
    codes.filterMap usLayout.symbol <+: text := by
  induction text generalizing codes with
  | nil =>
    rw [List.prefix_nil.mp typed]
    exact List.nil_prefix
  | cons byte rest ih =>
    cases known : Ascii.asciiToKeycode byte with
    | error err =>
      rw [keycodes_cons_error known] at typed
      rw [List.prefix_nil.mp typed]
      exact List.nil_prefix
    | ok encoded =>
      rw [keycodes_cons_ok known] at typed
      rcases List.prefix_cons_iff.mp typed with rfl | ⟨later, rfl, front⟩
      · exact List.nil_prefix
      · have symbol : usLayout.symbol encoded = some byte := usSymbol_asciiToKeycode known
        rw [List.filterMap_cons_some symbol]
        exact List.cons_prefix_cons.mpr ⟨rfl, ih front⟩

/-- A text of the alphabet is read as it is. -/
theorem keycodes_symbols (valid : SlotStore.textIsValid text = true) :
    (keycodes text).filterMap usLayout.symbol = text := by
  induction text with
  | nil => rfl
  | cons byte rest ih =>
    simp only [SlotStore.textIsValid, List.all_cons, Bool.and_eq_true] at valid
    obtain ⟨first, later⟩ := valid
    cases known : Ascii.asciiToKeycode byte with
    | error err =>
      rw [Ascii.byteIsValid, known] at first
      cases first
    | ok encoded =>
      have symbol : usLayout.symbol encoded = some byte := usSymbol_asciiToKeycode known
      rw [keycodes_cons_ok known, List.filterMap_cons_some symbol, ih later]

/-- A block that is over was read as a front of its text, and whole if the work
could always be scheduled. -/
theorem Block.Ended.reads {block : Block} (ended : block.Ended)
    (valid : SlotStore.textIsValid block.text = true) :
    ∃ part, usLayout.Reads block.raised part [] ∧ part <+: block.text ∧
      (block.scheduleFailed = false → part = block.text) := by
  obtain ⟨codes, typed, raised, whole⟩ := ended
  refine ⟨codes.filterMap usLayout.symbol, ?_, keycodes_prefix typed, fun unfailed => ?_⟩
  · rw [raised]
    exact reads_strokes codes
  · rw [whole unfailed]
    exact keycodes_symbols valid

/-- Of a block under way a front of its text was read, and at most one key is
down. -/
theorem Block.Running.reads {block : Block} {e : Executor} (running : block.Running e codes) :
    ∃ part down, usLayout.Reads block.raised part down ∧ part <+: block.text ∧
      down.length ≤ 1 := by
  cases phase : e.phase with
  | press =>
    obtain ⟨left, raised⟩ := running.pressing phase
    refine ⟨codes.filterMap usLayout.symbol, [], ?_, keycodes_prefix ⟨_, left.symm⟩,
      Nat.zero_le 1⟩
    rw [raised]
    exact reads_strokes codes
  | release =>
    obtain ⟨left, raised⟩ := running.releasing phase
    refine ⟨codes.filterMap usLayout.symbol ++ (usLayout.symbol e.encoded).toList,
      [usLayout.key e.encoded], ?_, ?_, Nat.le_refl 1⟩
    · rw [raised]
      exact (reads_strokes codes).append (reads_press e.encoded)
    · have typed : codes ++ [e.encoded] <+: keycodes block.text := by
        refine ⟨keycodes (block.text.drop (e.index + 1)), ?_⟩
        rw [left, List.append_assoc]
        rfl
      have front := keycodes_prefix typed
      rw [List.filterMap_append] at front
      exact front

end RuntimeMacro.Source
