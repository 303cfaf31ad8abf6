/-! Labelled machines given by a partial step function, the states their guarded
runs reach, and the induction that carries an invariant along such a run. Nothing
here depends on the machine being verified. -/

namespace MotorInfoUpload.Machine

universe u v

/-- A start predicate and a partial step function. A label is one choice of
the scheduler or of the environment; `none` means the state does not enable it. -/
structure Automaton (State : Type u) (Label : Type v) where
  start : State → Prop
  step : State → Label → Option State

/-- The guard that admits every step. -/
def unguarded (_ : State) (_ : Label) : Prop := True

/-- States reached by runs all of whose steps satisfy the guard in the state
they are taken from. -/
inductive Reach (machine : Automaton State Label) (guard : State → Label → Prop) :
    State → Prop where
  | start (initial : machine.start state) : Reach machine guard state
  | next (earlier : Reach machine guard state) (allowed : guard state label)
      (stepped : machine.step state label = some after) : Reach machine guard after

/-- Every reachable state, whatever order its steps are taken in. -/
abbrev Reachable (machine : Automaton State Label) : State → Prop :=
  Reach machine unguarded

variable {machine : Automaton State Label} {guard : State → Label → Prop}

/-- A property of the start states that guarded steps keep holds in every state
a guarded run reaches. -/
theorem Reach.invariant {invariant : State → Prop} (reach : Reach machine guard state)
    (initial : ∀ state, machine.start state → invariant state)
    (preserved : ∀ state label after, invariant state → guard state label →
      machine.step state label = some after → invariant after) : invariant state := by
  induction reach with
  | start initially => exact initial _ initially
  | next _ allowed stepped ih => exact preserved _ _ _ ih allowed stepped

/-- Execute a whole schedule; `none` when one of its labels is not allowed or
not enabled. -/
def Automaton.run (machine : Automaton State Label) (guard : State → Label → Prop)
    [∀ state label, Decidable (guard state label)] : State → List Label → Option State
  | state, [] => some state
  | state, label :: rest =>
    if guard state label then
      (machine.step state label).bind fun after => machine.run guard after rest
    else none

instance (state : State) (label : Label) : Decidable (unguarded state label) := .isTrue trivial

theorem Reach.schedule [∀ state label, Decidable (guard state label)] {state after : State}
    {labels : List Label} (reach : Reach machine guard state)
    (executed : machine.run guard state labels = some after) : Reach machine guard after := by
  induction labels generalizing state with
  | nil =>
    have same : state = after := Option.some.inj executed
    exact same ▸ reach
  | cons label rest ih =>
    unfold Automaton.run at executed
    split at executed
    · rename_i allowed
      obtain ⟨middle, stepped, remaining⟩ := Option.bind_eq_some_iff.mp executed
      exact ih (reach.next allowed stepped) remaining
    · cases executed

/-- A state with a wanted property, reached by a schedule that can be executed. -/
theorem Reach.exists_of_schedule [∀ state label, Decidable (guard state label)]
    (wanted : State → Prop) [DecidablePred wanted] {state : State}
    (reach : Reach machine guard state) (labels : List Label)
    (found : (machine.run guard state labels).any (fun after => decide (wanted after)) = true) :
    ∃ after, Reach machine guard after ∧ wanted after := by
  cases executed : machine.run guard state labels with
  | none => simp [executed] at found
  | some after =>
    simp only [executed, Option.any_some] at found
    exact ⟨after, reach.schedule executed, of_decide_eq_true found⟩

end MotorInfoUpload.Machine
