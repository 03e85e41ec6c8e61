import Mathlib.Data.List.Basic
import Mathlib.InformationTheory.Coding.UniquelyDecodable

/-!
# Codes read from the front

A code writes every symbol as a codeword, and a text as the codewords of its
symbols. Where a reader gets the first symbol of any text back, whatever
follows it, the code is uniquely decodable.
-/
namespace RuntimeMacro.Foundations.Codewords
open InformationTheory

variable {α β : Type*} {code : α → List β} {read : List β → Option (α × List β)}

/-- The reader takes the first symbol off any text, and nothing off the empty
text. -/
structure Reads (code : α → List β) (read : List β → Option (α × List β)) : Prop where
  front : ∀ symbol rest, read (code symbol ++ rest) = some (symbol, rest)
  stop : read [] = none

namespace Reads

theorem injective (reads : Reads code read) : Function.Injective code := by
  intro symbol other same
  have front := reads.front symbol []
  rw [same, reads.front other []] at front
  exact (Prod.mk.inj (Option.some.inj front)).1.symm

theorem nonempty (reads : Reads code read) (symbol : α) (rest : List β) :
    code symbol ++ rest ≠ [] := by
  intro empty
  have front := reads.front symbol rest
  rw [empty, reads.stop] at front
  cases front

/-- Two texts in the code are read in lockstep: each word read is one of the
code, so the first words agree and the rests are shorter. -/
theorem uniquelyDecodable (reads : Reads code read) : UniquelyDecodable (Set.range code) := by
  intro words words' written written' same
  induction words generalizing words' with
  | nil =>
    cases words' with
    | nil => rfl
    | cons word' words' =>
      obtain ⟨symbol, rfl⟩ := written' word' List.mem_cons_self
      exact absurd same.symm (reads.nonempty symbol words'.flatten)
  | cons word words ih =>
    obtain ⟨symbol, rfl⟩ := written word List.mem_cons_self
    cases words' with
    | nil => exact absurd same (reads.nonempty symbol words.flatten)
    | cons word' words' =>
      obtain ⟨symbol', rfl⟩ := written' word' List.mem_cons_self
      rw [List.flatten_cons, List.flatten_cons] at same
      have front := reads.front symbol words.flatten
      rw [same, reads.front] at front
      obtain ⟨first, rest⟩ := Prod.mk.inj (Option.some.inj front)
      have later := ih words' (fun word member => written word (List.mem_cons_of_mem _ member))
        (fun word member => written' word (List.mem_cons_of_mem _ member)) rest.symm
      rw [first, later]

theorem flatMap_injective (reads : Reads code read) :
    Function.Injective fun symbols : List α => symbols.flatMap code := by
  intro symbols symbols' same
  have written : ∀ symbols : List α, ∀ word ∈ symbols.map code, word ∈ Set.range code := by
    intro symbols word member
    obtain ⟨symbol, _, rfl⟩ := List.mem_map.mp member
    exact ⟨symbol, rfl⟩
  dsimp only at same
  rw [List.flatMap_def, List.flatMap_def] at same
  have words := reads.uniquelyDecodable _ _ (written symbols) (written symbols') same
  exact List.map_injective_iff.mpr reads.injective words

end Reads

end RuntimeMacro.Foundations.Codewords
