import Mathlib.Data.List.Basic

/-!
# What is read from key events

A reader knows which keys are down, and takes the symbol of a key when it goes
down. A key that is down already types nothing, so what is read from a text
typed key by key is the text only if each key goes up before it goes down
again.
-/
namespace RuntimeMacro.Foundations.KeyReaders

variable {κ ι α : Type*}

/-- The key that a code stands for, and the symbol that it types. -/
structure Layout (κ ι α : Type*) where
  key : κ → ι
  symbol : κ → Option α

/-- The keys held down, and what they have produced so far, oldest first. -/
@[ext]
structure Reader (ι α : Type*) where
  down : List ι
  read : List α

namespace Layout
variable [DecidableEq ι] (layout : Layout κ ι α)

/-- One event: a code, and whether its key goes down. -/
def hear (reader : Reader ι α) (event : κ × Bool) : Reader ι α :=
  if event.2 then
    if layout.key event.1 ∈ reader.down then reader
    else ⟨layout.key event.1 :: reader.down, reader.read ++ (layout.symbol event.1).toList⟩
  else { reader with down := reader.down.erase (layout.key event.1) }

/-- The reader after a whole list of key events. -/
def hears (reader : Reader ι α) (events : List (κ × Bool)) : Reader ι α :=
  events.foldl layout.hear reader

/-- Heard with no key down, the events are read as `part` and leave the keys
`down`. -/
def Reads (events : List (κ × Bool)) (part : List α) (down : List ι) : Prop :=
  ∀ read, layout.hears ⟨[], read⟩ events = ⟨down, read ++ part⟩

variable {layout} {events events' : List (κ × Bool)} {part part' : List α} {down : List ι}

theorem Reads.nil : layout.Reads [] [] [] := by
  intro read
  rw [List.append_nil]
  rfl

theorem Reads.append (first : layout.Reads events part [])
    (second : layout.Reads events' part' down) :
    layout.Reads (events ++ events') (part ++ part') down := by
  intro read
  have before := first read
  have after := second (read ++ part)
  unfold hears at before after ⊢
  rw [List.foldl_append, before, after, List.append_assoc]

theorem reads_press (code : κ) :
    layout.Reads [(code, true)] (layout.symbol code).toList [layout.key code] := by
  intro read
  simp [hears, hear]

theorem reads_stroke (code : κ) :
    layout.Reads [(code, true), (code, false)] (layout.symbol code).toList [] := by
  intro read
  simp [hears, hear]

/-- Each key goes up before the next goes down. -/
theorem reads_strokes (codes : List κ) :
    layout.Reads (codes.flatMap fun code => [(code, true), (code, false)])
      (codes.filterMap layout.symbol) [] := by
  induction codes with
  | nil => exact .nil
  | cons code codes ih =>
    rw [List.flatMap_cons, List.filterMap_cons]
    have read := (@reads_stroke κ ι α _ layout code).append ih
    cases typed : layout.symbol code with
    | none =>
      rw [typed] at read
      exact read
    | some symbol =>
      rw [typed] at read
      exact read

end Layout

end RuntimeMacro.Foundations.KeyReaders
