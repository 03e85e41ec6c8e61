import Mathlib.Data.List.Induction

/-!
# Multi-part transfers in a history

A history is read as a sequence of transfers: an event that opens one, and the
events that continue it until another opens. `latest` is the transfer a history
is in, whether or not it is still alive in the system that the history is of.
-/
namespace RuntimeMacro.Foundations.Transfers

variable {ε : Type*}

/-- The event that opened a transfer and those that continued it, oldest
first. -/
structure Transfer (ε : Type*) where
  first : ε
  parts : List ε

namespace Transfer

/-- All events of the transfer. -/
def events (transfer : Transfer ε) : List ε := transfer.first :: transfer.parts

/-- One more part behind those a transfer has. -/
def extend (transfer : Transfer ε) (event : ε) : Transfer ε :=
  { transfer with parts := transfer.parts ++ [event] }

end Transfer

variable {opens continues : ε → Bool}

/-- The open transfer after an event: opened by it, extended by it, or as it
was. -/
def advance (opens continues : ε → Bool) (current : Option (Transfer ε)) (event : ε) :
    Option (Transfer ε) :=
  if opens event then some ⟨event, []⟩
  else if continues event then current.map fun transfer => transfer.extend event
  else current

/-- The transfer that was opened last, with what continued it. -/
def latest (opens continues : ε → Bool) (history : List ε) : Option (Transfer ε) :=
  history.foldl (advance opens continues) none

theorem latest_snoc (history : List ε) (event : ε) :
    latest opens continues (history ++ [event]) =
      advance opens continues (latest opens continues history) event := by
  unfold latest
  rw [List.foldl_append]
  rfl

theorem latest_of_opens {history : List ε} {event : ε} (opened : opens event = true) :
    latest opens continues (history ++ [event]) = some ⟨event, []⟩ := by
  rw [latest_snoc, advance, if_pos opened]

theorem latest_of_continues {history : List ε} {event : ε} {transfer : Transfer ε}
    (current : latest opens continues history = some transfer) (notOpened : opens event = false)
    (continued : continues event = true) :
    latest opens continues (history ++ [event]) = some (transfer.extend event) := by
  rw [latest_snoc, advance, if_neg (by simp [notOpened]), if_pos continued, current]
  rfl

theorem latest_of_other {history : List ε} {event : ε} (notOpened : opens event = false)
    (notContinued : continues event = false) :
    latest opens continues (history ++ [event]) = latest opens continues history := by
  rw [latest_snoc, advance, if_neg (by simp [notOpened]), if_neg (by simp [notContinued])]

/-- Where the transfer stands in the history: nothing opens another one after
its first event, and its parts are exactly the continuing events since. -/
theorem latest_split {history : List ε} {transfer : Transfer ε}
    (current : latest opens continues history = some transfer) :
    ∃ front since, history = front ++ transfer.first :: since ∧ opens transfer.first = true ∧
      (∀ event ∈ since, opens event = false) ∧ transfer.parts = since.filter continues := by
  induction history using List.reverseRecOn generalizing transfer with
  | nil => cases current
  | append_singleton past event ih =>
    rw [latest_snoc, advance] at current
    split at current
    next opened =>
      cases current
      exact ⟨past, [], rfl, opened, by simp, rfl⟩
    next notOpened =>
    rw [Bool.not_eq_true] at notOpened
    have later : ∀ {since : List ε}, (∀ event ∈ since, opens event = false) →
        ∀ other ∈ since ++ [event], opens other = false := by
      intro since quiet other member
      rcases List.mem_append.mp member with early | last
      · exact quiet other early
      · rw [List.mem_singleton.mp last]
        exact notOpened
    split at current
    next continued =>
      obtain ⟨before, isBefore, rfl⟩ := Option.map_eq_some_iff.mp current
      obtain ⟨front, since, rfl, opened, quiet, parts⟩ := ih isBefore
      refine ⟨front, since ++ [event], by simp [Transfer.extend], opened, later quiet, ?_⟩
      simp [Transfer.extend, parts, continued]
    next notContinued =>
      obtain ⟨front, since, rfl, opened, quiet, parts⟩ := ih current
      refine ⟨front, since ++ [event], by simp, opened, later quiet, ?_⟩
      simp [parts, notContinued]

/-- Where an event opens a transfer and none does after it, the current
transfer is its. -/
theorem latest_of_split {front since : List ε} {first : ε} (opened : opens first = true)
    (quiet : ∀ event ∈ since, opens event = false) :
    latest opens continues (front ++ first :: since) = some ⟨first, since.filter continues⟩ := by
  induction since using List.reverseRecOn with
  | nil => exact latest_of_opens opened
  | append_singleton since event ih =>
    have earlier := ih fun other member => quiet other (List.mem_append_left _ member)
    have notOpened := quiet event (by simp)
    rw [← List.cons_append, ← List.append_assoc, List.filter_append]
    by_cases continued : continues event = true
    · rw [latest_of_continues earlier notOpened continued]
      simp [Transfer.extend, continued]
    · rw [latest_of_other notOpened (by simpa using continued), earlier]
      simp [continued]

/-- The current transfer was opened by the last event of the history that opens
one. -/
theorem latest_first {history : List ε} {transfer : Transfer ε}
    (current : latest opens continues history = some transfer) :
    (history.filter opens).getLast? = some transfer.first := by
  obtain ⟨front, since, split, opened, quiet, _⟩ := latest_split current
  have none : since.filter opens = [] :=
    List.filter_eq_nil_iff.mpr fun event member => by simp [quiet event member]
  rw [split, List.filter_append, List.filter_cons, if_pos opened, none, List.getLast?_append]
  rfl

/-- In the kept part of a history that has the first event of the current
transfer, the current transfer is what is kept of it. -/
theorem latest_filter {history : List ε} {transfer : Transfer ε} {kept : ε → Bool}
    (current : latest opens continues history = some transfer)
    (stays : kept transfer.first = true) :
    latest opens continues (history.filter kept) =
      some ⟨transfer.first, transfer.parts.filter kept⟩ := by
  induction history using List.reverseRecOn generalizing transfer with
  | nil => cases current
  | append_singleton past event ih =>
    rw [latest_snoc, advance] at current
    rw [List.filter_append]
    split at current
    next opened =>
      cases current
      have alone : [event].filter kept = [event] := by simpa using stays
      rw [alone, latest_of_opens opened]
      rfl
    next notOpened =>
    rw [Bool.not_eq_true] at notOpened
    split at current
    next continued =>
      obtain ⟨before, isBefore, rfl⟩ := Option.map_eq_some_iff.mp current
      have earlier := ih isBefore stays
      by_cases keeps : kept event = true
      · have alone : [event].filter kept = [event] := by simpa using keeps
        rw [alone, latest_of_continues earlier notOpened continued]
        simp [Transfer.extend, keeps]
      · have gone : [event].filter kept = [] := by simpa using keeps
        rw [gone, List.append_nil, earlier]
        simp [Transfer.extend, keeps]
    next notContinued =>
      rw [Bool.not_eq_true] at notContinued
      have earlier := ih current stays
      by_cases keeps : kept event = true
      · have alone : [event].filter kept = [event] := by simpa using keeps
        rw [alone, latest_of_other notOpened notContinued, earlier]
      · have gone : [event].filter kept = [] := by simpa using keeps
        rw [gone, List.append_nil, earlier]

/-- A part that is left out is missing in what the others carry. Every part
carries something, so equal lengths leave room for none. -/
theorem filter_of_carried {β : Type*} {parts : List ε} {kept : ε → Bool} {carried : ε → List β}
    (nonempty : ∀ part ∈ parts, carried part ≠ [])
    (same : ((parts.filter kept).map carried).flatten.length =
      (parts.map carried).flatten.length) :
    parts.filter kept = parts := by
  have fewer : ∀ parts : List ε, ((parts.filter kept).map carried).flatten.length ≤
      (parts.map carried).flatten.length := by
    intro parts
    induction parts with
    | nil => simp
    | cons part parts ih =>
      rw [List.filter_cons]
      split
      · simp only [List.map_cons, List.flatten_cons, List.length_append]
        omega
      · simp only [List.map_cons, List.flatten_cons, List.length_append]
        omega
  induction parts with
  | nil => rfl
  | cons part parts ih =>
    have tail := fewer parts
    have positive : 0 < (carried part).length :=
      List.length_pos_iff.mpr (nonempty part (by simp))
    by_cases keeps : kept part = true
    · rw [List.filter_cons, if_pos keeps] at same ⊢
      simp only [List.map_cons, List.flatten_cons, List.length_append,
        Nat.add_left_cancel_iff] at same
      rw [ih (fun other member => nonempty other (List.mem_cons_of_mem _ member)) same]
    · rw [List.filter_cons, if_neg keeps] at same
      simp only [List.map_cons, List.flatten_cons, List.length_append] at same
      omega

end RuntimeMacro.Foundations.Transfers
