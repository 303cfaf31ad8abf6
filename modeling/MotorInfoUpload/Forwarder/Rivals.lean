import MotorInfoUpload.Forwarder.Moves

namespace MotorInfoUpload

open Machine

variable {n : Nat}

/-- The reissue queue holds a packet whenever an uploader stands before its `take ()`, and
no thread sleeps there. -/
structure Supplied (state : State n) : Prop where
  more : ∀ i, state.uploader i = .takeReissue → state.reissue.queue ≠ []
  awake : state.reissue.notEmpty = []

/-- An uploader takes the only packet of the reissue queue, which another one has seen. -/
def Robs (state : State n) : Action n → Prop
  | .upload i _ => state.uploader i = .takeReissue ∧ state.reissue.queue.length = 1 ∧
      ∃ j, j ≠ i ∧ state.uploader j = .takeReissue
  | _ => False

instance (state : State n) (action : Action n) : Decidable (Robs state action) :=
  match action with
  | .upload _ _ => inferInstanceAs (Decidable (_ ∧ _ ∧ ∃ _, _))
  | .start _ | .push | .signal | .accept _ | .service _ | .outside _ _ | .drop _ | .sent _
  | .failed _ _ | .wakeRealtime _ | .wakeReissue _ => .isFalse id

/-- The uploader is asleep in `r_reissue_queue.take ()` with that queue empty, although it
is connected and the realtime queue holds a packet. -/
structure Stuck (state : State n) (i : Fin n) : Prop where
  asleep : .uploader i ∈ state.reissue.notEmpty
  nothing : state.reissue.queue = []
  up : state.connected i = true
  waiting : state.realtime.queue ≠ []

instance (state : State n) (i : Fin n) : Decidable (Stuck state i) :=
  decidable_of_iff (.uploader i ∈ state.reissue.notEmpty ∧ state.reissue.queue = [] ∧
      state.connected i = true ∧ state.realtime.queue ≠ [])
    ⟨fun ⟨asleep, nothing, up, waiting⟩ => ⟨asleep, nothing, up, waiting⟩,
      fun ⟨asleep, nothing, up, waiting⟩ => ⟨asleep, nothing, up, waiting⟩⟩

private theorem more_moved {state : State n} {place : UploaderAt}
    (more : ∀ j, state.uploader j = .takeReissue → state.reissue.queue ≠ [])
    (elsewhere : place ≠ .takeReissue) (j : Fin n)
    (standing : (state.move i place).uploader j = .takeReissue) : state.reissue.queue ≠ [] := by
  by_cases same : j = i
  · rw [same, State.move_uploader] at standing
    exact absurd standing elsewhere
  · rw [State.move_other _ _ same] at standing
    exact more j standing

private theorem supplied_stored {before after : State n} (supplied : Supplied before)
    (stored : before.reissue.Stored after.reissue data front woken) : Supplied after := by
  constructor
  · intro i _
    rw [stored.queue]
    cases front <;> simp
  · have fewer := notifyOne_sublist stored.notified
    rw [supplied.awake] at fewer
    exact List.sublist_nil.mp fewer

private theorem supplied_service {before after : State n} (supplied : Supplied before)
    (moved : ServiceMove before woken after) : Supplied after := by
  cases moved with
  | drainStored standing stored => exact supplied_stored supplied stored
  | reissueStored standing stored => exact supplied_stored supplied stored
  | found | missed | offline | drained | draining | drainSleeps | drainTook | drainFull | reissueFull
  | realtimeFull | realtimeStored => exact ⟨supplied.more, supplied.awake⟩

private theorem supplied_outside {before after : State n} (supplied : Supplied before)
    (moved : OutsideMove before i place after) : Supplied after := by
  cases moved with
  | walks | enters | closes | online => exact ⟨more_moved supplied.more (by simp), supplied.awake⟩
  | connects => exact ⟨supplied.more, supplied.awake⟩

private theorem supplied_taken {before after : State n} {place : UploaderAt} (supplied : Supplied before)
    (allowed : ¬ Robs before (.upload i woken)) (standing : before.uploader i = .takeReissue)
    (taken : before.reissue.Taken after.reissue data woken) (elsewhere : place ≠ .takeReissue)
    (moved : after.uploader = (before.move i place).uploader) : Supplied after := by
  constructor
  · intro j there nothing
    by_cases same : j = i
    · rw [moved, same, State.move_uploader] at there
      exact elsewhere there
    · rw [moved, State.move_other _ _ same] at there
      have single : before.reissue.queue.length = 1 := by
        rw [taken.queue, nothing]
        rfl
      exact allowed ⟨standing, single, j, same, there⟩
  · rw [taken.notEmpty, supplied.awake]

section Runs

variable [ByteBufferApi]

private theorem supplied_upload {before after : State n} (supplied : Supplied before)
    (allowed : ¬ Robs before (.upload i woken)) (moved : UploadMove before i woken after) :
    Supplied after := by
  cases moved with
  | toRealtime | goesOn | skips | illegal | realtimeTook =>
    exact ⟨more_moved supplied.more (by simp), supplied.awake⟩
  | toReissue standing more => exact ⟨fun _ _ => more, supplied.awake⟩
  | realtimeSleeps | putBackFull => exact ⟨supplied.more, supplied.awake⟩
  | reissueSleeps standing nothing => exact absurd nothing (supplied.more i standing)
  | reissueTook standing taken marked =>
    exact supplied_taken supplied allowed standing taken (by simp) rfl
  | reissueSpoilt standing taken refused =>
    exact supplied_taken supplied allowed standing taken (by simp) rfl
  | putBackStored standing stored => exact supplied_stored supplied stored

/-- Every step but a robbing one keeps the uploaders supplied. -/
theorem supplied_step {before after : State n} (supplied : Supplied before)
    (allowed : ¬ Robs before action) (moved : Move before action after) : Supplied after := by
  cases moved with
  | push | signal | accept | drop | wakeRealtime => exact ⟨supplied.more, supplied.awake⟩
  | start | sent | failed => exact ⟨more_moved supplied.more (by simp), supplied.awake⟩
  | service moved => exact supplied_service supplied moved
  | outside standing moved => exact supplied_outside supplied moved
  | upload moved => exact supplied_upload supplied allowed moved
  | @wakeReissue _ reissue woken =>
    obtain ⟨queue, _, fewer, _⟩ := BlockQueue.wake_cases woken
    rw [supplied.awake] at fewer
    exact ⟨fun i standing => queue ▸ supplied.more i standing, List.sublist_nil.mp fewer⟩

theorem supplied_of_reach {capacity : Nat} {state : State n}
    (reach : Reach (forwarder n capacity) (fun state action => ¬ Robs state action) state) :
    Supplied state := by
  apply reach.invariant
  · rintro state ⟨mode, rfl⟩
    exact ⟨fun _ standing => (by cases standing), rfl⟩
  · intro before action after supplied allowed stepped
    exact supplied_step supplied allowed (State.step_cases stepped)

/-- A robbing step leaves an uploader before the `take ()` of an empty queue. -/
private theorem robbed {before after : State n} (robs : Robs before action)
    (moved : Move before action after) : ¬ Supplied after := by
  intro supplied
  cases moved with
  | upload moved =>
    obtain ⟨standing, single, j, other, there⟩ := robs
    have emptied {reissue : BlockQueue (Thread n) Packet} {data : Packet} {woken : Option (Thread n)}
        (taken : before.reissue.Taken reissue data woken) : reissue.queue = [] := by
      rw [taken.queue, List.length_cons] at single
      exact List.eq_nil_of_length_eq_zero (Nat.succ.inj single)
    cases moved with
    | reissueSleeps _ nothing => simp [nothing] at single
    | reissueTook _ taken =>
      exact supplied.more j (by rw [← there]; exact State.move_other _ _ other) (emptied taken)
    | reissueSpoilt _ taken =>
      exact supplied.more j (by rw [← there]; exact State.move_other _ _ other) (emptied taken)
    | toRealtime here | toReissue here | realtimeSleeps here | realtimeTook here | goesOn here
    | skips here | illegal here | putBackFull here | putBackStored here =>
      cases standing.symm.trans here
  | _ => exact robs

/-- As long as no uploader takes the only packet that another one has seen, none ever
sleeps at the reissue queue, and so none is stuck there. A step keeps the uploaders
supplied exactly if it is none of those. -/
theorem never_stuck {capacity : Nat} {state : State n}
    (reach : Reach (forwarder n capacity) (fun state action => ¬ Robs state action) state) :
    (∀ i, .uploader i ∉ state.reissue.notEmpty ∧ ¬ Stuck state i) ∧
      ∀ action after, state.step action = some after → (Supplied after ↔ ¬ Robs state action) := by
  have supplied := supplied_of_reach reach
  constructor
  · intro i
    have awake : .uploader i ∉ state.reissue.notEmpty := by
      rw [supplied.awake]
      exact List.not_mem_nil
    exact ⟨awake, fun stuck => awake stuck.asleep⟩
  · intro action after stepped
    have moved := State.step_cases stepped
    exact ⟨fun suppliedAfter robs => robbed robs moved suppliedAfter,
      fun allowed => supplied_step supplied allowed moved⟩

end Runs

def complies (i : Fin n) : List (Action n) :=
  let round : List Event := [.next, .next, .answered .responseOk, .next, .answered .responseOk]
  let connection : List Event := [.next, .connects, .next]
  let login : List Event := [.next, .next, .answered .responseOk, .next, .next]
  (connection ++ (List.replicate loginRounds round).flatten ++ login).map (.outside i)

/-- Two uploaders of the pool, and a login that has arrived offline: the first uploader has
seen it in the reissue queue. -/
def seenByFirst : List (Action 2) :=
  [.start 0, .push, .start 1, .push, .accept (sampleRead .vehicleLogin), .service none, .service none,
    .service none, .service none, .service none] ++ complies 0 ++ complies 1 ++ [.upload 0 none]

/-- The first one has taken the packet before the second one looks. -/
theorem never_stuck_late :
    ∃ state : State 2, state.uploader 1 = .takeRealtime ∧ ¬ Stuck state 1 := by
  let := ByteBuffer.reference
  have initial : Reach (forwarder 2 1) (fun state action => ¬ Robs state action)
      (State.initial 2 1 (some .platformCompliance)) := .start ⟨_, rfl⟩
  obtain ⟨state, reach, standing⟩ := initial.exists_of_schedule
    (fun state => state.uploader 1 = .takeRealtime)
    (seenByFirst ++ [.upload 0 none, .upload 1 none]) (by decide +kernel)
  exact ⟨state, standing, ((never_stuck reach).1 1).2⟩

/-- Both have seen the packet; the second one comes too late, and sleeps on while a
realtime packet arrives. -/
theorem stuck_at_reissue :
    ∃ state, Reachable (@forwarder ByteBuffer.reference 2 1) state ∧ Stuck state 1 := by
  let := ByteBuffer.reference
  have initial : Reachable (forwarder 2 1) (State.initial 2 1 (some .platformCompliance)) :=
    .start ⟨_, rfl⟩
  refine initial.exists_of_schedule (fun state => Stuck state 1)
    (seenByFirst ++ [.upload 1 none, .upload 0 none, .upload 1 none, .accept (sampleRead .vehicleLogout),
      .service none, .service none]) ?_
  decide +kernel

end MotorInfoUpload
