import Mathlib.Data.Vector.Basic

/-! The memory of a packed structure: fields that lie next to each other at fixed
offsets, and writes that may reach from one into the next. Nothing here depends on
the structure. -/

namespace MotorInfoUpload.Machine

universe u

abbrev Packed (α : Type u) (size : Nat) := List.Vector α size

namespace Packed

variable {α : Type u} {size : Nat}

def field (memory : Packed α size) (offset length : Nat) : List α :=
  (memory.toList.drop offset).take length

def put (memory : Packed α size) (offset : Nat) (cells : List α)
    (fits : offset + cells.length ≤ size) : Packed α size :=
  ⟨memory.toList.take offset ++ cells ++ memory.toList.drop (offset + cells.length), by
    simp only [List.length_append, List.length_take, List.length_drop, List.Vector.toList_length]
    omega⟩

/-- A copy that checks no bound: what it does beyond the structure is undefined. -/
def copy (memory : Packed α size) (offset : Nat) (cells : List α) : Option (Packed α size) :=
  if fits : offset + cells.length ≤ size then some (memory.put offset cells fits) else none

variable {memory : Packed α size} {offset length position : Nat} {cells more : List α}

theorem copy_fits (fits : offset + cells.length ≤ size) :
    memory.copy offset cells = some (memory.put offset cells fits) := dif_pos fits

theorem copy_some_iff {after : Packed α size} :
    memory.copy offset cells = some after ↔
      ∃ fits : offset + cells.length ≤ size, memory.put offset cells fits = after := by
  by_cases fits : offset + cells.length ≤ size
  · simp [copy, fits]
  · simp [copy, fits]

theorem field_length (fits : offset + length ≤ size) : (memory.field offset length).length = length := by
  rw [field, List.length_take, List.length_drop, List.Vector.toList_length]
  omega

theorem put_cell (fits : offset + cells.length ≤ size) (i : Nat) :
    (memory.put offset cells fits).toList[i]? =
      if i < offset then memory.toList[i]?
      else if i < offset + cells.length then cells[i - offset]? else memory.toList[i]? := by
  have whole := memory.toList_length
  change (memory.toList.take offset ++ cells ++ memory.toList.drop (offset + cells.length))[i]? = _
  grind

theorem field_cell (i : Nat) :
    (memory.field offset length)[i]? = if i < length then memory.toList[offset + i]? else none := by
  rw [field, List.getElem?_take]
  split
  · rw [List.getElem?_drop]
  · rfl

theorem getD_of_field (known : memory.field offset length = cells) {i : Nat} (inside : i < length)
    (default : α) : memory.toList.getD (offset + i) default = cells.getD i default := by
  rw [← known, List.getD_eq_getElem?_getD, List.getD_eq_getElem?_getD, field_cell, if_pos inside]

theorem field_put {fits : offset + cells.length ≤ size} (whole : cells.length = length) :
    (memory.put offset cells fits).field offset length = cells := by
  apply List.ext_getElem?
  intro i
  rw [field_cell, put_cell]
  grind

theorem field_put_apart {fits : offset + cells.length ≤ size}
    (apart : position + length ≤ offset ∨ offset + cells.length ≤ position) :
    (memory.put offset cells fits).field position length = memory.field position length := by
  apply List.ext_getElem?
  intro i
  rw [field_cell, field_cell, put_cell]
  grind

theorem field_put_start {fits : offset + cells.length ≤ size} (within : cells.length ≤ length) :
    (memory.put offset cells fits).field offset length =
      cells ++ (memory.field offset length).drop cells.length := by
  apply List.ext_getElem?
  intro i
  rw [field_cell, put_cell, List.getElem?_append, List.getElem?_drop, field_cell]
  grind

/-- A write that begins before a field and reaches into it. -/
theorem field_put_reaching {fits : offset + cells.length ≤ size} (before : offset ≤ position)
    (within : offset + cells.length ≤ position + length) :
    (memory.put offset cells fits).field position length =
      cells.drop (position - offset) ++
        (memory.field position length).drop (offset + cells.length - position) := by
  apply List.ext_getElem?
  intro i
  rw [field_cell, put_cell, List.getElem?_append, List.getElem?_drop, List.getElem?_drop, field_cell]
  grind

theorem put_put_next {all : List α} {fits : offset + cells.length ≤ size}
    {after : position + more.length ≤ size} {both : offset + all.length ≤ size}
    (next : position = offset + cells.length) (joined : cells ++ more = all) :
    (memory.put offset cells fits).put position more after = memory.put offset all both := by
  subst next joined
  apply List.Vector.toList_injective
  apply List.ext_getElem?
  intro i
  rw [put_cell, put_cell, put_cell, List.getElem?_append]
  grind

theorem put_nil (fits : offset + ([] : List α).length ≤ size) : memory.put offset [] fits = memory := by
  apply List.Vector.toList_injective
  apply List.ext_getElem?
  intro i
  rw [put_cell]
  grind

end Packed

end MotorInfoUpload.Machine
