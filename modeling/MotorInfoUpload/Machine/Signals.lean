import MotorInfoUpload.Machine.Condition
import Mathlib.Data.Set.Card

/-! Threads that wait on a condition variable until something is available, one thing
for each thread. Those that have been woken and have not resumed yet still count on
what is available; nobody sleeps on as long as there is no more than they need. -/

namespace MotorInfoUpload.Machine

variable {Thread : Type} {waiters left : List Thread} {woken after : Set Thread}
  {available fewer : Nat}

/-- Somebody sleeps only if the woken threads need all that is available. -/
def Covered (waiters : List Thread) (woken : Set Thread) (available : Nat) : Prop :=
  (∃ thread, thread ∈ waiters) → (available : ℕ∞) ≤ woken.encard

theorem Covered.nothing : Covered waiters woken 0 := fun _ => bot_le

theorem Covered.nobody : Covered [] woken available := by
  rintro ⟨thread, asleep⟩
  cases asleep

theorem Covered.weaken (covered : Covered waiters woken available) (asleep : left ⊆ waiters)
    (still : woken ⊆ after) (less : fewer ≤ available) : Covered left after fewer := by
  rintro ⟨thread, sleeps⟩
  have enough := covered ⟨thread, asleep sleeps⟩
  calc (fewer : ℕ∞) ≤ available := Nat.cast_le.mpr less
    _ ≤ woken.encard := enough
    _ ≤ after.encard := Set.encard_le_encard still

/-- A woken thread resumes and uses what it has waited for. -/
theorem Covered.resumed (covered : Covered waiters woken (available + 1))
    (still : woken \ {thread} ⊆ after) : Covered waiters after available := by
  intro asleep
  have enough : ((available + 1 : Nat) : ℕ∞) ≤ after.encard + 1 :=
    calc ((available + 1 : Nat) : ℕ∞) ≤ woken.encard := covered asleep
      _ ≤ (woken \ {thread}).encard + ({thread} : Set Thread).encard :=
        Set.encard_le_encard_sdiff_add_encard _ _
      _ ≤ after.encard + 1 := by
        rw [Set.encard_singleton]
        exact add_le_add_left (Set.encard_le_encard still) 1
  rw [Nat.cast_add_one] at enough
  exact (ENat.add_le_add_iff_right ENat.one_ne_top).mp enough

/-- Something more is available, and a sleeper is notified if there is one. -/
theorem Covered.notified [DecidableEq Thread] {chosen : Option Thread}
    (covered : Covered waiters woken available) (notified : notifyOne waiters chosen = some left)
    (still : woken ⊆ after) (added : ∀ thread ∈ chosen, thread ∈ after ∧ thread ∉ woken) :
    Covered left after (available + 1) := by
  rintro ⟨sleeper, asleep⟩
  have before : sleeper ∈ waiters := mem_of_notifyOne notified asleep
  cases chosen with
  | none =>
    simp only [notifyOne, Option.ite_none_right_eq_some] at notified
    rw [notified.1] at before
    cases before
  | some thread =>
    obtain ⟨resuming, fresh⟩ := added thread rfl
    calc ((available + 1 : Nat) : ℕ∞) = available + 1 := Nat.cast_add_one _
      _ ≤ woken.encard + 1 := add_le_add_left (covered ⟨sleeper, before⟩) 1
      _ = (insert thread woken).encard := (Set.encard_insert_of_notMem fresh).symm
      _ ≤ after.encard := Set.encard_le_encard (Set.insert_subset resuming still)

end MotorInfoUpload.Machine
