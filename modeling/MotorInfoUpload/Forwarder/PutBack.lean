import MotorInfoUpload.Forwarder.Moves

namespace MotorInfoUpload

open Machine

def UploaderAt.puttingBack : UploaderAt → Bool
  | .putBack _ => true
  | _ => false

/-- The uploader is asleep in `r_reissue_queue.put (m_carData, true)` with that
queue full. -/
structure Deadlocked (state : State 1) : Prop where
  standing : (state.uploader 0).puttingBack = true
  asleep : .uploader 0 ∈ state.reissue.notFull
  full : state.reissue.queue.length = state.reissue.capacity

instance : DecidablePred Deadlocked := fun state =>
  decidable_of_iff ((state.uploader 0).puttingBack = true ∧ .uploader 0 ∈ state.reissue.notFull ∧
      state.reissue.queue.length = state.reissue.capacity)
    ⟨fun ⟨standing, asleep, full⟩ => ⟨standing, asleep, full⟩,
      fun ⟨standing, asleep, full⟩ => ⟨standing, asleep, full⟩⟩

def ServiceAt.reissuing : ServiceAt → Bool
  | .drainPut _ _ | .putReissue _ => true
  | _ => false

/-- The steps that take the last slot from a failed packet: the send fails with
the reissue queue full, or the service thread fills it before the packet is back. -/
def TakesSlot (state : State 1) : Action 1 → Prop
  | .failed _ _ => state.reissue.queue.length = state.reissue.capacity
  | .service _ => (state.uploader 0).puttingBack ∧ state.service.reissuing ∧
      state.reissue.queue.length + 1 = state.reissue.capacity
  | _ => False

instance (state : State 1) (action : Action 1) : Decidable (TakesSlot state action) :=
  match action with
  | .failed _ _ => inferInstanceAs (Decidable (_ = _))
  | .service _ => inferInstanceAs (Decidable (_ ∧ _ ∧ _))
  | .start _ | .push | .signal | .accept _ | .outside _ _ | .upload _ _ | .drop _ | .sent _
  | .wakeRealtime _ | .wakeReissue _ => .isFalse id

/-- A failed packet finds a free slot. -/
def SlotFree (state : State 1) : Prop :=
  (state.uploader 0).puttingBack = true → state.reissue.queue.length < state.reissue.capacity

private theorem slotFree_elsewhere {state : State 1}
    (elsewhere : (state.uploader 0).puttingBack = false) : SlotFree state := fun standing => by
  rw [elsewhere] at standing
  cases standing

private theorem slotFree_stored {before after : State 1} (allowed : ¬ TakesSlot before (.service woken))
    (reissuing : before.service.reissuing = true) (same : after.uploader = before.uploader)
    (stored : before.reissue.Stored after.reissue data false woken) : SlotFree after := by
  intro standing
  rw [same] at standing
  have other : before.reissue.queue.length + 1 ≠ before.reissue.capacity :=
    fun last => allowed ⟨standing, reissuing, last⟩
  have room := stored.room
  rw [stored.queue, stored.capacity]
  simp only [Bool.false_eq_true, if_false, List.length_append, List.length_singleton]
  omega

private theorem slotFree_service {before after : State 1} (free : SlotFree before)
    (allowed : ¬ TakesSlot before (.service woken)) (moved : ServiceMove before woken after) :
    SlotFree after := by
  cases moved with
  | found | missed | offline | drained | draining | drainSleeps | drainTook | drainFull
  | reissueFull | realtimeFull | realtimeStored => exact free
  | drainStored standing stored =>
    exact slotFree_stored allowed (by rw [standing]; rfl) rfl stored
  | reissueStored standing stored =>
    exact slotFree_stored allowed (by rw [standing]; rfl) rfl stored

private theorem slotFree_outside {before after : State 1}
    (standing : before.uploader i = .outside place) (moved : OutsideMove before i place after) :
    SlotFree after := by
  have here : before.uploader 0 = .outside place := by rw [← standing, Subsingleton.elim i 0]
  apply slotFree_elsewhere
  cases moved with
  | walks next => simp [UploaderAt.puttingBack]
  | enters ready => simp [UploaderAt.puttingBack]
  | connects calling down => simp [State.connection, here, UploaderAt.puttingBack]
  | closes next => simp [UploaderAt.puttingBack]
  | online waited => simp [UploaderAt.puttingBack]

section Runs

variable [ByteBufferApi]

private theorem slotFree_upload {before after : State 1} (free : SlotFree before)
    (moved : UploadMove before i woken after) : SlotFree after := by
  cases moved with
  | realtimeSleeps | reissueSleeps | putBackFull => exact free
  | toRealtime | toReissue | realtimeTook | reissueTook | reissueSpoilt | goesOn | skips | illegal
  | putBackStored => exact slotFree_elsewhere (by simp [UploaderAt.puttingBack])

/-- Every step but one that takes the last slot leaves one for a failed packet. -/
theorem slotFree_step {before after : State 1} (free : SlotFree before)
    (allowed : ¬ TakesSlot before action) (moved : Move before action after) : SlotFree after := by
  cases moved with
  | push | signal | accept | drop | wakeRealtime => exact free
  | start fresh => exact slotFree_elsewhere (by simp [UploaderAt.puttingBack])
  | service moved => exact slotFree_service free allowed moved
  | outside standing moved => exact slotFree_outside standing moved
  | upload moved => exact slotFree_upload free moved
  | sent standing legal => exact slotFree_elsewhere (by simp [UploaderAt.puttingBack])
  | failed standing legal room =>
    intro _
    have bounded := before.reissue.bounded
    have other : before.reissue.queue.length ≠ before.reissue.capacity := allowed
    change before.reissue.queue.length < before.reissue.capacity
    omega
  | wakeReissue woken =>
    obtain ⟨queue, capacity, _⟩ := BlockQueue.wake_cases woken
    intro standing
    rw [queue, capacity]
    exact free standing

/-- As long as no step takes the last slot from a failed packet, putting it back
never deadlocks, whatever the capacity. -/
theorem putBack_never_deadlocks {capacity : Nat} {state : State 1}
    (reach : Reach (forwarder 1 capacity) (fun state action => ¬ TakesSlot state action) state) :
    ¬ Deadlocked state := by
  intro deadlocked
  have free : SlotFree state := by
    apply reach.invariant
    · rintro state ⟨mode, rfl⟩
      exact slotFree_elsewhere rfl
    · intro before action after free allowed stepped
      exact slotFree_step free allowed (State.step_cases stepped)
  have room := free deadlocked.standing
  rw [deadlocked.full] at room
  exact Nat.lt_irrefl _ room

end Runs

def sendFailed : List (Action 1) :=
  loggedIn ++ [.accept (sampleRead .vehicleLogin), .service none, .service (some (.uploader 0)),
    .upload 0 none, .upload 0 none, .drop 0]

theorem putBack_never_deadlocks_alone :
    ∃ state : State 1, (state.uploader 0).puttingBack = true ∧ ¬ Deadlocked state := by
  let := ByteBuffer.reference
  have initial : Reach (forwarder 1 1) (fun state action => ¬ TakesSlot state action)
      (State.initial 1 1 (some .release)) := .start ⟨_, rfl⟩
  obtain ⟨state, reach, standing⟩ := initial.exists_of_schedule
    (fun state => (state.uploader 0).puttingBack = true) (sendFailed ++ [.failed 0 0])
    (by decide +kernel)
  exact ⟨state, standing, putBack_never_deadlocks reach⟩

/-- The vehicle's logout fills the reissue queue before the send of its login fails. -/
theorem putBack_deadlocks :
    ∃ state, Reachable (@forwarder ByteBuffer.reference 1 1) state ∧ Deadlocked state := by
  let := ByteBuffer.reference
  have initial : Reachable (forwarder 1 1) (State.initial 1 1 (some .release)) := .start ⟨_, rfl⟩
  refine initial.exists_of_schedule Deadlocked (sendFailed ++ [.accept (sampleRead .vehicleLogout),
    .service none, .service none, .service none, .service none, .failed 0 0, .upload 0 none]) ?_
  decide +kernel

end MotorInfoUpload
