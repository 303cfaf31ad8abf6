import MotorInfoUpload.Machine.Run

/-! Runs with a record of what has happened in them. The record restricts no step and
is read by no step; it is there for statements about the past of a state. -/

namespace MotorInfoUpload.Machine

universe u v w

/-- A state with the record of the run that has led to it. -/
structure Recorded (State : Type u) (Log : Type w) where
  state : State
  log : Log

def Recorded.onState (guard : State → Label → Prop) (recorded : Recorded State Log)
    (label : Label) : Prop := guard recorded.state label

instance {guard : State → Label → Prop} [∀ state label, Decidable (guard state label)]
    (recorded : Recorded State Log) (label : Label) : Decidable (recorded.onState guard label) :=
  inferInstanceAs (Decidable (guard recorded.state label))

/-- The machine with a record: `note` says what a step adds to it. -/
def Automaton.recording (machine : Automaton State Label) (empty : Log)
    (note : Log → State → Label → State → Log) : Automaton (Recorded State Log) Label where
  start recorded := machine.start recorded.state ∧ recorded.log = empty
  step recorded label := (machine.step recorded.state label).map fun after =>
    ⟨after, note recorded.log recorded.state label after⟩

variable {machine : Automaton State Label} {guard other : State → Label → Prop}

theorem Reach.mono (reach : Reach machine guard state)
    (weaker : ∀ state label, guard state label → other state label) : Reach machine other state := by
  induction reach with
  | start initial => exact .start initial
  | next _ allowed stepped ih => exact ih.next (weaker _ _ allowed) stepped

/-- The record restricts no run. -/
theorem Reach.recording {empty : Log} {note : Log → State → Label → State → Log}
    (reach : Reach machine guard state) : ∃ log,
      Reach (machine.recording empty note) (Recorded.onState guard) ⟨state, log⟩ := by
  induction reach with
  | start initial => exact ⟨empty, .start ⟨initial, rfl⟩⟩
  | @next before label after earlier allowed stepped ih =>
    obtain ⟨log, recorded⟩ := ih
    refine ⟨note log before label after, recorded.next allowed ?_⟩
    exact Option.map_eq_some_iff.mpr ⟨after, stepped, rfl⟩

/-- A property of states and records that guarded steps keep. The states of a recorded
run are those of the machine, so that what is known of these may be used. -/
theorem Reach.recorded {empty : Log} {note : Log → State → Label → State → Log}
    {recorded : Recorded State Log} (holds : State → Log → Prop)
    (reach : Reach (machine.recording empty note) (Recorded.onState guard) recorded)
    (initial : ∀ state, machine.start state → holds state empty)
    (preserved : ∀ state log label after, Reach machine guard state → holds state log →
      guard state label → machine.step state label = some after →
      holds after (note log state label after)) :
    Reach machine guard recorded.state ∧ holds recorded.state recorded.log := by
  induction reach with
  | start initially =>
    obtain ⟨started, nothing⟩ := initially
    exact ⟨.start started, nothing ▸ initial _ started⟩
  | next _ allowed stepped ih =>
    obtain ⟨after, moved, same⟩ := Option.map_eq_some_iff.mp stepped
    subst same
    exact ⟨ih.1.next allowed moved, preserved _ _ _ _ ih.1 ih.2 allowed moved⟩

end MotorInfoUpload.Machine
