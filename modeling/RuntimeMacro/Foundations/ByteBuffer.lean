import Mathlib.Data.List.TakeDrop

/-!
# Fixed-capacity buffers

A buffer is the list of its cells, so its length is its capacity. `write` is a
copy of `data` to the cells from `offset` on, with nothing truncated: a copy
that leaves the buffer makes the list longer, so that staying inside it is
something to prove.
-/
namespace RuntimeMacro.Foundations.ByteBuffer

variable {α : Type*}

/-- The cells below `offset` and those behind `data` keep what they held; the
cells between are `data`. -/
def write (buffer : List α) (offset : Nat) (data : List α) : List α :=
  buffer.take offset ++ data ++ buffer.drop (offset + data.length)

theorem write_length (buffer : List α) (offset : Nat) (data : List α)
    (fits : offset + data.length ≤ buffer.length) :
    (write buffer offset data).length = buffer.length := by
  simp only [write, List.length_append, List.length_take, List.length_drop]
  omega

/-- What is in front of the end of a copy is what was in front of its start,
and the data. -/
theorem write_take (buffer : List α) (offset : Nat) (data : List α) :
    (write buffer offset data).take (offset + data.length) = buffer.take offset ++ data := by
  unfold write
  by_cases inside : offset ≤ buffer.length
  · have front : (buffer.take offset ++ data).length = offset + data.length := by
      simp only [List.length_append, List.length_take]
      omega
    rw [← front, List.take_left]
  · have rest : buffer.drop (offset + data.length) = [] := List.drop_eq_nil_of_le (by omega)
    rw [rest, List.append_nil, List.take_of_length_le]
    simp only [List.length_append, List.length_take]
    omega

theorem write_take_zero (buffer data : List α) :
    (write buffer 0 data).take data.length = data := by
  simpa using write_take buffer 0 data

/-- Cells in front of the copy are untouched. -/
theorem write_take_before (buffer : List α) (offset : Nat) (data : List α)
    (inside : offset ≤ buffer.length) :
    (write buffer offset data).take offset = buffer.take offset := by
  have front : (buffer.take offset).length = offset := List.length_take_of_le inside
  rw [write, List.append_assoc]
  nth_rewrite 1 [← front]
  exact List.take_left

/-- Cells behind the copy are untouched. -/
theorem write_drop (buffer : List α) (offset : Nat) (data : List α)
    (inside : offset ≤ buffer.length) :
    (write buffer offset data).drop (offset + data.length) =
      buffer.drop (offset + data.length) := by
  have front : (buffer.take offset ++ data).length = offset + data.length := by
    rw [List.length_append, List.length_take_of_le inside]
  rw [write, ← front, List.drop_left]

/-- The first cell of a copy. -/
theorem write_getElem?_start (buffer : List α) (offset : Nat) (cell : α) (data : List α)
    (inside : offset ≤ buffer.length) :
    (write buffer offset (cell :: data))[offset]? = some cell := by
  have front : (buffer.take offset).length = offset := List.length_take_of_le inside
  rw [write, List.append_assoc, List.getElem?_append_right (by omega), front, Nat.sub_self]
  rfl

/-! ## Buffers filled from the front -/

/-- A buffer of `size` cells, the first `filled` of one kind and the others
blank. -/
structure Padded (kind : α → Prop) (blank : α) (size filled : Nat) (buffer : List α) : Prop where
  length : buffer.length = size
  front : ∀ cell ∈ buffer.take filled, kind cell
  rest : buffer.drop filled = List.replicate (size - filled) blank

section Padded
variable {kind : α → Prop} {blank : α} {size filled : Nat} {buffer data : List α}

theorem Padded.empty (kind : α → Prop) (blank : α) (size : Nat) :
    Padded kind blank size 0 (List.replicate size blank) where
  length := List.length_replicate
  front := by simp
  rest := rfl

/-- A copy to where the blank cells start. The cells behind it are still blank,
because the copy ends inside the buffer. -/
theorem Padded.write (padded : Padded kind blank size filled buffer)
    (fits : filled + data.length ≤ size) (kinds : ∀ cell ∈ data, kind cell) :
    Padded kind blank size (filled + data.length) (ByteBuffer.write buffer filled data) where
  length := by rw [write_length _ _ _ (by rw [padded.length]; exact fits), padded.length]
  front := by
    intro cell member
    rw [write_take, List.mem_append] at member
    rcases member with before | copied
    · exact padded.front cell before
    · exact kinds cell copied
  rest := by
    have inside : filled ≤ buffer.length := by
      rw [padded.length]
      omega
    rw [write_drop _ _ _ inside, ← List.drop_drop, padded.rest, List.drop_replicate]
    congr 1
    omega

/-- A copy to the start of any buffer whose remaining cells are blanked,
whatever was in it before. -/
theorem Padded.overwrite (length : buffer.length = size) (fits : data.length ≤ size)
    (kinds : ∀ cell ∈ data, kind cell) :
    Padded kind blank size data.length (ByteBuffer.write (ByteBuffer.write buffer 0 data)
      data.length (List.replicate (size - data.length) blank)) where
  length := by
    have copied : (ByteBuffer.write buffer 0 data).length = size := by
      rw [write_length _ _ _ (by omega), length]
    rw [write_length _ _ _ (by rw [List.length_replicate]; omega), copied]
  front := by
    intro cell member
    have inside : data.length ≤ (ByteBuffer.write buffer 0 data).length := by
      rw [write_length _ _ _ (by omega)]
      omega
    rw [write_take_before _ _ _ inside, write_take_zero] at member
    exact kinds cell member
  rest := by
    have copied : (ByteBuffer.write buffer 0 data).length = size := by
      rw [write_length _ _ _ (by omega), length]
    have front : ((ByteBuffer.write buffer 0 data).take data.length).length = data.length := by
      rw [List.length_take_of_le (by omega)]
    have behind : (ByteBuffer.write buffer 0 data).drop
        (data.length + (size - data.length)) = [] := by
      apply List.drop_eq_nil_of_le
      omega
    rw [ByteBuffer.write, List.length_replicate, behind, List.append_nil]
    nth_rewrite 1 [← front]
    exact List.drop_left

end Padded

end RuntimeMacro.Foundations.ByteBuffer
