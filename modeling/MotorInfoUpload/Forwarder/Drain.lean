import MotorInfoUpload.Forwarder.Moves

namespace MotorInfoUpload

open Machine

variable {n : Nat}

/-- A `realtime_queue.take ()` of the drain loop finds a packet, and the service
thread does not sleep in it. -/
structure Stocked (state : State n) : Prop where
  more : ∀ packet, state.service = .drainTake packet → state.realtime.queue ≠ []
  awake : .service ∉ state.realtime.notEmpty

/-- The service thread is between `isEmpty ()` and `take ()` of the drain loop. -/
def ServiceAt.draining : ServiceAt → Bool
  | .drainTake _ => true
  | _ => false

/-- An uploader takes the only packet that the drain loop has seen. -/
def Snatches (state : State n) : Action n → Prop
  | .upload i _ => state.service.draining ∧ state.uploader i = .takeRealtime ∧
      state.realtime.queue.length = 1
  | _ => False

instance (state : State n) (action : Action n) : Decidable (Snatches state action) :=
  match action with
  | .upload _ _ => inferInstanceAs (Decidable (_ ∧ _ ∧ _))
  | .start _ | .push | .signal | .accept _ | .service _ | .outside _ _ | .drop _ | .sent _
  | .failed _ _ | .wakeRealtime _ | .wakeReissue _ => .isFalse id

private theorem stocked_service {before after : State n} (stocked : Stocked before)
    (moved : ServiceMove before woken after) : Stocked after := by
  cases moved with
  | found | missed | offline | drained =>
    exact ⟨fun _ standing => (by cases standing), stocked.awake⟩
  | draining standing more => exact ⟨fun _ _ => more, stocked.awake⟩
  | drainSleeps standing nothing => exact absurd nothing (stocked.more _ standing)
  | drainTook standing taken =>
    exact ⟨fun _ standing => (by cases standing), taken.notEmpty ▸ stocked.awake⟩
  | drainFull | reissueFull | realtimeFull => exact ⟨stocked.more, stocked.awake⟩
  | drainStored | reissueStored => exact ⟨fun _ standing => (by cases standing), stocked.awake⟩
  | realtimeStored standing stored =>
    exact ⟨fun _ standing => (by cases standing),
      fun asleep => stocked.awake (mem_of_notifyOne stored.notified asleep)⟩

private theorem stocked_outside {before after : State n} (stocked : Stocked before)
    (moved : OutsideMove before i place after) : Stocked after := by
  cases moved <;> exact ⟨stocked.more, stocked.awake⟩

section Runs

variable [ByteBufferApi]

private theorem stocked_upload {before after : State n} (stocked : Stocked before)
    (allowed : ¬ Snatches before (.upload i woken)) (moved : UploadMove before i woken after) :
    Stocked after := by
  cases moved with
  | realtimeSleeps standing nothing =>
    refine ⟨stocked.more, fun asleep => ?_⟩
    rcases List.mem_cons.mp asleep with same | asleep
    · cases same
    · exact stocked.awake asleep
  | @realtimeTook realtime data standing taken =>
    refine ⟨fun packet draining nothing => allowed ⟨?_, standing, ?_⟩,
      taken.notEmpty ▸ stocked.awake⟩
    · have same : before.service = .drainTake packet := draining
      rw [same]
      rfl
    · have empty : realtime.queue = [] := nothing
      rw [taken.queue, empty]
      rfl
  | toRealtime | toReissue | reissueSleeps | reissueTook | reissueSpoilt | goesOn | skips | illegal
  | putBackFull | putBackStored => exact ⟨stocked.more, stocked.awake⟩

/-- Every step but a snatching one keeps the drain loop stocked. -/
theorem stocked_step {before after : State n} (stocked : Stocked before)
    (allowed : ¬ Snatches before action) (moved : Move before action after) : Stocked after := by
  cases moved with
  | start | push | signal | sent | failed | drop | wakeReissue => exact ⟨stocked.more, stocked.awake⟩
  | accept => exact ⟨fun _ standing => (by cases standing), stocked.awake⟩
  | service moved => exact stocked_service stocked moved
  | outside standing moved => exact stocked_outside stocked moved
  | upload moved => exact stocked_upload stocked allowed moved
  | @wakeRealtime _ realtime woken =>
    obtain ⟨queue, _, fewer, _⟩ := BlockQueue.wake_cases woken
    refine ⟨fun packet standing nothing => ?_, fun asleep => stocked.awake (fewer.subset asleep)⟩
    exact stocked.more packet standing (queue.symm.trans nothing)

/-- As long as no uploader snatches the packet that the drain loop has seen, the
service thread never blocks while draining. -/
theorem drain_never_blocks {capacity : Nat} {state : State n}
    (reach : Reach (forwarder n capacity) (fun state action => ¬ Snatches state action) state) :
    (∀ packet, state.service = .drainTake packet → state.realtime.queue ≠ []) ∧
      .service ∉ state.realtime.notEmpty := by
  have stocked : Stocked state := by
    apply reach.invariant
    · rintro state ⟨mode, rfl⟩
      exact ⟨fun _ standing => (by cases standing), List.not_mem_nil⟩
    · intro before action after stocked allowed stepped
      exact stocked_step stocked allowed (State.step_cases stepped)
  exact ⟨stocked.more, stocked.awake⟩

end Runs

/-- The service thread is in the drain loop of a login that arrived offline. -/
theorem drain_never_blocks_offline :
    ∃ state : State 1, state.service.draining = true ∧ .service ∉ state.realtime.notEmpty := by
  let := ByteBuffer.reference
  have initial : Reach (forwarder 1 1) (fun state action => ¬ Snatches state action)
      (State.initial 1 1 (some .release)) := .start ⟨_, rfl⟩
  obtain ⟨state, reach, draining⟩ := initial.exists_of_schedule
    (fun state => state.service.draining = true)
    (loggedIn ++ [.accept (sampleRead .vehicleLogin), .service none, .service (some (.uploader 0)),
      .drop 0, .accept (sampleRead .vehicleLogout), .service none, .service none, .service none])
    (by decide +kernel)
  exact ⟨state, draining, (drain_never_blocks reach).2⟩

/-- The uploader, woken for the only realtime packet, takes it after the drain loop
has seen it and before the drain loop takes. -/
theorem drain_blocks_when_snatched :
    ∃ state, Reachable (@forwarder ByteBuffer.reference 1 1) state ∧
      state.service.draining = true ∧ .service ∈ state.realtime.notEmpty := by
  let := ByteBuffer.reference
  have initial : Reachable (forwarder 1 1) (State.initial 1 1 (some .release)) := .start ⟨_, rfl⟩
  refine initial.exists_of_schedule
    (fun state => state.service.draining = true ∧ .service ∈ state.realtime.notEmpty)
    (loggedIn ++ [.accept (sampleRead .vehicleLogin), .service none, .service (some (.uploader 0)),
      .drop 0, .accept (sampleRead .vehicleLogout), .service none, .service none, .service none,
      .upload 0 none, .service none]) ?_
  decide +kernel

end MotorInfoUpload
