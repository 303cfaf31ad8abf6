import MotorInfoUpload.Machine.Run

/-! Runs of one machine as runs of another: a simulation, whose steps may be matched by
any number of steps, and a projection, whose steps are matched by one step or by none.
Nothing here depends on the machines. -/

namespace MotorInfoUpload.Machine

variable {machine : Automaton State Label} {guard : State → Label → Prop}
  {abstract : Automaton Other Move} {allowed : Other → Move → Prop} {state : State}

/-- The machine in the middle of a run. -/
def Automaton.startingAt (machine : Automaton State Label) (state : State) :
    Automaton State Label where
  start := (· = state)
  step := machine.step

theorem Reach.append {allowed : State → Label → Prop} {after : State}
    (reach : Reach machine guard state) (later : Reach (machine.startingAt state) allowed after)
    (weaker : ∀ state label, allowed state label → guard state label) :
    Reach machine guard after := by
  apply later.invariant
  · rintro start rfl
    exact reach
  · intro middle label next reached permitted stepped
    exact reached.next (weaker middle label permitted) stepped

theorem Automaton.run_startingAt (machine : Automaton State Label) (before : State)
    [∀ state label, Decidable (guard state label)] (labels : List Label) :
    (machine.startingAt before).run guard state labels = machine.run guard state labels := by
  induction labels generalizing state with
  | nil => rfl
  | cons label rest ih =>
    rw [Automaton.run, Automaton.run]
    split
    · exact congrArg _ (funext fun after => ih)
    · rfl

theorem Reach.exists_later [∀ state label, Decidable (guard state label)]
    (here there : State → Prop) [DecidablePred here] [DecidablePred there]
    (reach : Reach machine guard state) (first second : List Label)
    (found : (machine.run guard state first).any (fun before => decide (here before) &&
      (machine.run guard before second).any fun after => decide (there after)) = true) :
    ∃ before after, Reach machine guard before ∧ here before ∧
      Reach (machine.startingAt before) guard after ∧ there after := by
  obtain ⟨before, executed, found⟩ := (Option.any_eq_true _ _).mp found
  obtain ⟨holds, found⟩ := Bool.and_eq_true_iff.mp found
  have middle : Reach (machine.startingAt before) guard before := .start rfl
  rw [← machine.run_startingAt before] at found
  obtain ⟨after, later, ends⟩ := middle.exists_of_schedule there second found
  exact ⟨before, after, reach.schedule executed, of_decide_eq_true holds, later, ends⟩

theorem Automaton.run_concat (machine : Automaton State Label) (guard : State → Label → Prop)
    [∀ state label, Decidable (guard state label)] (labels : List Label) (label : Label) :
    machine.run guard state (labels ++ [label]) = (machine.run guard state labels).bind fun middle =>
      if guard middle label then machine.step middle label else none := by
  induction labels generalizing state with
  | nil => simp [Automaton.run]
  | cons first rest ih =>
    rw [List.cons_append, Automaton.run, Automaton.run]
    split
    · rw [Option.bind_assoc]
      exact congrArg _ (funext fun middle => ih)
    · rfl

/-- Every state that a guarded run reaches stands for one that the other machine reaches. -/
theorem Reach.simulated (stands : State → Other → Prop) (reach : Reach machine guard state)
    (begins : ∀ state, machine.start state → ∃ other, abstract.start other ∧ stands state other)
    (follows : ∀ state other label after, Reach machine guard state → Reach abstract allowed other →
      stands state other → guard state label → machine.step state label = some after →
      ∃ next, Reach abstract allowed next ∧ stands after next) :
    ∃ other, Reach abstract allowed other ∧ stands state other := by
  induction reach with
  | start initially =>
    obtain ⟨other, started, same⟩ := begins _ initially
    exact ⟨other, .start started, same⟩
  | next earlier permitted stepped ih =>
    obtain ⟨other, reached, same⟩ := ih
    exact follows _ other _ _ earlier reached same permitted stepped

/-- The part of the states that another machine runs on. -/
theorem Reach.projected (project : State → Other) (reach : Reach machine guard state)
    (begins : ∀ state, machine.start state → abstract.start (project state))
    (follows : ∀ state label after, Reach machine guard state → guard state label →
      machine.step state label = some after → project after = project state ∨
        ∃ move, allowed (project state) move ∧
          abstract.step (project state) move = some (project after)) :
    Reach abstract allowed (project state) := by
  induction reach with
  | start initially => exact .start (begins _ initially)
  | next earlier permitted stepped ih =>
    rcases follows _ _ _ earlier permitted stepped with same | ⟨move, may, moved⟩
    · exact same ▸ ih
    · exact ih.next may moved

end MotorInfoUpload.Machine
