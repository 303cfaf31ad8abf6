import MotorInfoUpload.Machine.History
import MotorInfoUpload.Machine.Simulation

/-! The steps that a machine takes by itself, counted against those that come from outside.
What is left to do pays for the first, and the second add to it; a credit may be saved up
meanwhile. Nothing here depends on the machine. -/

namespace MotorInfoUpload.Machine

structure StepCounts where
  own : Nat
  outer : Nat
deriving DecidableEq

def StepCounts.note (own : Label → Bool) (counts : StepCounts) (_ : State) (label : Label) (_ : State) :
    StepCounts :=
  if own label then { counts with own := counts.own + 1 }
  else { counts with outer := counts.outer + 1 }

variable {machine : Automaton State Label} {guard : State → Label → Prop} {own : Label → Bool}

/-- The machine from the middle of a run on, with its steps counted. -/
abbrev Automaton.countingFrom (machine : Automaton State Label) (own : Label → Bool)
    (before : State) : Automaton (Recorded State StepCounts) Label :=
  (machine.startingAt before).recording ⟨0, 0⟩ (StepCounts.note own)

/-- Where each own step is paid for by the work that it does or the credit that it saves, and
each other step costs no more than `cost`, so does a whole run. -/
theorem Reach.amortized {recorded : Recorded State StepCounts} (work credit : State → Nat) {cost : Nat}
    (reach : Reach (machine.countingFrom own before) (Recorded.onState guard) recorded)
    (paid : ∀ state label after, guard state label → machine.step state label = some after →
      work after + credit state + (if own label then 1 else 0) ≤
        work state + credit after + (if own label then 0 else cost)) :
    Reach (machine.startingAt before) guard recorded.state ∧
      recorded.log.own + work recorded.state + credit before ≤
        cost * recorded.log.outer + work before + credit recorded.state := by
  apply Reach.recorded (fun state (counts : StepCounts) => counts.own + work state + credit before ≤
    cost * counts.outer + work before + credit state) reach
  · rintro state rfl
    simp
  · intro state counts label after _ holds allowed stepped
    have paid := paid state label after allowed stepped
    unfold StepCounts.note
    split at paid
    · rename_i mine
      rw [if_pos mine]
      dsimp only
      omega
    · rename_i theirs
      rw [if_neg theirs]
      dsimp only
      rw [Nat.mul_succ]
      omega

end MotorInfoUpload.Machine
