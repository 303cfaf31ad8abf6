import Mathlib.Data.List.Nodup
import Mathlib.Data.List.Range
import Mathlib.Data.Nat.ModEq

namespace MotorInfoUpload.Machine

namespace Cycle

/-- The number at an index, when the one at index 0 is `first + 1`. -/
def number (limit first index : Nat) : Nat := (first + index) % limit + 1

def numbers (limit first count : Nat) : List Nat := (List.range count).map (number limit first)

/-- The number that a counter stands for, which may have run one past its limit. -/
def wrap (limit counter : Nat) : Nat := if limit < counter then 1 else counter

variable {limit first index count : Nat}

theorem number_first (low : 1 ≤ counter) (high : counter ≤ limit) :
    number limit (counter - 1) 0 = counter := by
  rw [number, Nat.add_zero, Nat.mod_eq_of_lt (by omega)]
  omega

theorem wrap_number (positive : 0 < limit) :
    wrap limit (number limit first index + 1) = number limit first (index + 1) := by
  have below := Nat.mod_lt (first + index) positive
  unfold wrap number
  rw [← Nat.add_assoc, ← Nat.mod_add_mod (first + index)]
  generalize (first + index) % limit = last at below ⊢
  split
  · have full : last + 1 = limit := by omega
    rw [full, Nat.mod_self]
  · rw [Nat.mod_eq_of_lt (by omega)]

theorem numbers_succ :
    numbers limit first (count + 1) = numbers limit first count ++ [number limit first count] := by
  rw [numbers, List.range_succ, List.map_append]
  rfl

/-- No number is given out twice within one cycle. -/
theorem numbers_nodup (within : count ≤ limit) : (numbers limit first count).Nodup := by
  refine List.Nodup.map_on (fun i inside j below same => ?_) List.nodup_range
  have inside := List.mem_range.mp inside
  have below := List.mem_range.mp below
  have shifted : first + i ≡ first + j [MOD limit] := Nat.succ.inj same
  have equal := Nat.ModEq.add_left_cancel' first shifted
  exact equal.eq_of_lt_of_lt (by omega) (by omega)

end Cycle

end MotorInfoUpload.Machine
