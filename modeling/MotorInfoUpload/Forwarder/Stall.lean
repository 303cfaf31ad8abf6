import MotorInfoUpload.Forwarder.Moves

namespace MotorInfoUpload

open Machine

/-- The uploader is asleep in `r_realtime_queue.take ()` with that queue empty, the
server is disconnected and the reissue queue holds a packet. -/
structure Stalled (state : State 1) : Prop where
  standing : state.uploader 0 = .takeRealtime
  asleep : .uploader 0 ∈ state.realtime.notEmpty
  nothing : state.realtime.queue = []
  down : state.connected 0 = false
  waiting : state.reissue.queue ≠ []

instance : DecidablePred Stalled := fun state =>
  decidable_of_iff (state.uploader 0 = .takeRealtime ∧ .uploader 0 ∈ state.realtime.notEmpty ∧
      state.realtime.queue = [] ∧ state.connected 0 = false ∧ state.reissue.queue ≠ [])
    ⟨fun ⟨standing, asleep, nothing, down, waiting⟩ => ⟨standing, asleep, nothing, down, waiting⟩,
      fun ⟨standing, asleep, nothing, down, waiting⟩ => ⟨standing, asleep, nothing, down, waiting⟩⟩

/-- The uploader is committed to the realtime queue: it has found the reissue
queue empty and has not taken a packet since. -/
abbrev Committed (state : State 1) : Prop := state.uploader 0 = .takeRealtime

/-- Where a step of the service thread strands a committed uploader: it puts a
packet into the reissue queue, or drains the last one from the realtime queue. -/
def StrandsAt (state : State 1) : ServiceAt → Prop
  | .putReissue _ | .drainPut _ _ => Committed state ∧ state.realtime.queue = [] ∧
      state.connected 0 = false ∧ state.reissue.queue.length < state.reissue.capacity
  | .drainTake _ => Committed state ∧ state.realtime.queue.length = 1 ∧
      state.connected 0 = false ∧ state.reissue.queue ≠ []
  | _ => False

/-- The steps that strand a committed uploader: those of the service thread, and
a drop of the connection with packets only in the reissue queue. -/
def Strands (state : State 1) : Action 1 → Prop
  | .drop _ => Committed state ∧ state.realtime.queue = [] ∧ state.reissue.queue ≠ []
  | .service _ => StrandsAt state state.service
  | _ => False

instance (state : State 1) (place : ServiceAt) : Decidable (StrandsAt state place) :=
  match place with
  | .putReissue _ | .drainPut _ _ | .drainTake _ => inferInstanceAs (Decidable (_ ∧ _ ∧ _ ∧ _))
  | .idle | .checking _ _ | .drainCheck _ | .putRealtime _ => .isFalse id

instance (state : State 1) (action : Action 1) : Decidable (Strands state action) :=
  match action with
  | .drop _ => inferInstanceAs (Decidable (_ ∧ _ ∧ _))
  | .service _ => inferInstanceAs (Decidable (StrandsAt _ _))
  | .start _ | .push | .signal | .accept _ | .outside _ _ | .upload _ _ | .sent _ | .failed _ _
  | .wakeRealtime _ | .wakeReissue _ => .isFalse id

/-- While the uploader is committed with nothing to take, either the connection
is up or no packet waits in the reissue queue. -/
def Watching (state : State 1) : Prop :=
  Committed state → state.realtime.queue = [] → state.connected 0 = false →
    state.reissue.queue = []

private theorem watching_elsewhere {state : State 1} (elsewhere : state.uploader 0 ≠ .takeRealtime) :
    Watching state := fun standing => absurd standing elsewhere

private theorem watching_service {before after : State 1} (watching : Watching before)
    (allowed : ¬ Strands before (.service woken)) (moved : ServiceMove before woken after) :
    Watching after := by
  cases moved with
  | found | missed | offline | drained | draining | drainSleeps | drainFull | reissueFull
  | realtimeFull => exact watching
  | @drainTook packet realtime data standing taken =>
    intro committed nothing down
    simp only [Strands, StrandsAt, standing] at allowed
    have single : before.realtime.queue.length = 1 := by
      rw [taken.queue, nothing]
      rfl
    exact Classical.byContradiction fun waiting => allowed ⟨committed, single, down, waiting⟩
  | drainStored standing stored =>
    intro committed nothing down
    simp only [Strands, StrandsAt, standing] at allowed
    exact absurd ⟨committed, nothing, down, stored.room⟩ allowed
  | reissueStored standing stored =>
    intro committed nothing down
    simp only [Strands, StrandsAt, standing] at allowed
    exact absurd ⟨committed, nothing, down, stored.room⟩ allowed
  | realtimeStored standing stored =>
    intro _ nothing
    simp [stored.queue] at nothing

private theorem watching_outside {before after : State 1}
    (standing : before.uploader i = .outside place) (moved : OutsideMove before i place after) :
    Watching after := by
  have here : before.uploader 0 = .outside place := by rw [← standing, Subsingleton.elim i 0]
  apply watching_elsewhere
  cases moved with
  | walks next => simp
  | enters ready => simp
  | connects calling down => simp [State.connection, here]
  | closes next => simp
  | online waited => simp

section Runs

variable [ByteBufferApi]

private theorem watching_upload {before after : State 1} (watching : Watching before)
    (moved : UploadMove before i woken after) : Watching after := by
  cases moved with
  | toRealtime standing nothing => exact fun _ _ _ => nothing
  | realtimeSleeps standing nothing => exact watching
  | reissueSleeps standing nothing => exact fun _ _ _ => nothing
  | putBackFull standing full =>
    apply watching_elsewhere
    rw [Subsingleton.elim i 0] at standing
    simp [standing]
  | toReissue | realtimeTook | reissueTook | reissueSpoilt | goesOn | skips | illegal
  | putBackStored => exact watching_elsewhere (by simp)

/-- Every step but a stranding one keeps the uploader from being stranded. -/
theorem watching_step {before after : State 1} (watching : Watching before)
    (allowed : ¬ Strands before action) (moved : Move before action after) : Watching after := by
  cases moved with
  | start fresh => exact watching_elsewhere (by simp)
  | push | signal | accept => exact watching
  | service moved => exact watching_service watching allowed moved
  | outside standing moved => exact watching_outside standing moved
  | upload moved => exact watching_upload watching moved
  | sent standing legal => exact watching_elsewhere (by simp)
  | failed standing legal room => exact watching_elsewhere (by simp)
  | drop up =>
    intro committed nothing _
    exact Classical.byContradiction fun waiting => allowed ⟨committed, nothing, waiting⟩
  | wakeRealtime woken =>
    intro committed nothing down
    exact watching committed ((BlockQueue.wake_cases woken).1 ▸ nothing) down
  | wakeReissue woken =>
    intro committed nothing down
    exact (BlockQueue.wake_cases woken).1.trans (watching committed nothing down)

theorem watching_of_reach {capacity : Nat} {state : State 1}
    (reach : Reach (forwarder 1 capacity) (fun state action => ¬ Strands state action) state) :
    Watching state := by
  apply reach.invariant
  · rintro state ⟨mode, rfl⟩
    exact watching_elsewhere (by simp [State.initial])
  · intro before action after watching allowed stepped
    exact watching_step watching allowed (State.step_cases stepped)

/-- As long as no step strands the uploader, it never sleeps on while packets
wait for a reconnection. -/
theorem never_stalled {capacity : Nat} {state : State 1}
    (reach : Reach (forwarder 1 capacity) (fun state action => ¬ Strands state action) state) :
    ¬ Stalled state := fun stalled =>
  stalled.waiting (watching_of_reach reach stalled.standing stalled.nothing stalled.down)

end Runs

/-- A drop strands nobody while the reissue queue is empty. -/
theorem never_stalled_dropped :
    ∃ state, (state.uploader 0 = .takeRealtime ∧ state.connected 0 = false) ∧ ¬ Stalled state := by
  let := ByteBuffer.reference
  have initial : Reach (forwarder 1 1) (fun state action => ¬ Strands state action)
      (State.initial 1 1 (some .release)) := .start ⟨_, rfl⟩
  obtain ⟨state, reach, standing⟩ := initial.exists_of_schedule
    (fun state => state.uploader 0 = .takeRealtime ∧ state.connected 0 = false)
    (loggedIn ++ [.drop 0]) (by decide +kernel)
  exact ⟨state, standing, never_stalled reach⟩

/-- The connection drops while the uploader sleeps, and a vehicle logs in. -/
theorem stalled_after_drop :
    ∃ state, Reachable (@forwarder ByteBuffer.reference 1 1) state ∧ Stalled state := by
  let := ByteBuffer.reference
  have initial : Reachable (forwarder 1 1) (State.initial 1 1 (some .release)) := .start ⟨_, rfl⟩
  refine initial.exists_of_schedule Stalled (loggedIn ++ [.drop 0,
    .accept (sampleRead .vehicleLogin), .service none, .service none, .service none,
    .service none]) ?_
  decide +kernel

end MotorInfoUpload
