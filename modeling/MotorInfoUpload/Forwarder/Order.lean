import MotorInfoUpload.Forwarder.Ownership

namespace MotorInfoUpload

open Machine

/-- The order in which packets should reach the server. -/
def State.line (state : State 1) : List Nat :=
  (state.written ++ (state.uploader 0).held ++ state.reissue.queue ++ state.service.drained ++
    state.realtime.queue ++ state.service.fresh).map Packet.seq

/-- The uploader takes from the realtime queue while an older packet waits in the
reissue queue or is on its way there. -/
def Overtakes (state : State 1) : Action 1 → Prop
  | .upload _ _ => state.uploader 0 = .takeRealtime ∧ state.realtime.queue ≠ [] ∧
      (state.reissue.queue ≠ [] ∨ state.service.drained ≠ [])
  | _ => False

instance (state : State 1) (action : Action 1) : Decidable (Overtakes state action) :=
  match action with
  | .upload _ _ => inferInstanceAs (Decidable (_ ∧ _ ∧ _))
  | .start _ | .push | .signal | .accept _ | .service _ | .outside _ _ | .drop _ | .sent _
  | .failed _ _ | .wakeRealtime _ | .wakeReissue _ => .isFalse id

def DrainedFirst (state : State 1) : Prop :=
  ∀ packet, state.service = .putReissue packet → state.realtime.queue = []

/-- The line is in order, and the next packet accepted comes after it. -/
structure InOrder (state : State 1) : Prop where
  sorted : state.line.Pairwise (· < ·)
  older : ∀ seq ∈ state.line, seq < state.accepted.length
  drainedFirst : DrainedFirst state

private theorem InOrder.of_sublist {before after : State 1} (inOrder : InOrder before)
    (fewer : after.line.Sublist before.line) (same : after.accepted = before.accepted)
    (drainedFirst : DrainedFirst after) : InOrder after where
  sorted := inOrder.sorted.sublist fewer
  older seq member := same ▸ inOrder.older seq (fewer.subset member)
  drainedFirst := drainedFirst

private theorem same_line {before after : State 1} (same : after.line = before.line) :
    after.line.Sublist before.line := same ▸ List.Sublist.refl _

private theorem inOrder_service {before after : State 1} (inOrder : InOrder before)
    (moved : ServiceMove before woken after) : InOrder after := by
  have first := inOrder.drainedFirst
  cases moved with
  | found standing | missed standing | offline standing | draining standing =>
    refine inOrder.of_sublist (same_line ?_) rfl fun _ there => (by cases there)
    simp [State.line, standing, ServiceAt.drained, ServiceAt.fresh]
  | drained standing nothing =>
    refine inOrder.of_sublist (same_line ?_) rfl fun _ _ => nothing
    simp [State.line, standing, ServiceAt.drained, ServiceAt.fresh]
  | drainSleeps | drainFull | reissueFull | realtimeFull =>
    exact inOrder.of_sublist (List.Sublist.refl _) rfl first
  | drainTook standing taken =>
    refine inOrder.of_sublist (same_line ?_) rfl fun _ there => (by cases there)
    simp [State.line, standing, ServiceAt.drained, ServiceAt.fresh, taken.queue]
  | drainStored standing stored =>
    refine inOrder.of_sublist (same_line ?_) rfl fun _ there => (by cases there)
    simp [State.line, standing, ServiceAt.drained, ServiceAt.fresh, stored.queue]
  | reissueStored standing stored =>
    refine inOrder.of_sublist (same_line ?_) rfl fun _ there => (by cases there)
    simp [State.line, standing, ServiceAt.drained, ServiceAt.fresh, stored.queue,
      first _ standing]
  | realtimeStored standing stored =>
    refine inOrder.of_sublist (same_line ?_) rfl fun _ there => (by cases there)
    simp [State.line, standing, ServiceAt.drained, ServiceAt.fresh, stored.queue]

private theorem inOrder_move {before : State 1} (inOrder : InOrder before) (i : Fin 1)
    (place : UploaderAt) (fewer : (place.held.map Packet.seq).Sublist
      ((before.uploader 0).held.map Packet.seq)) : InOrder (before.move i place) := by
  refine inOrder.of_sublist ?_ rfl inOrder.drainedFirst
  simp only [State.line, State.move_only, List.map_append]
  exact ((((fewer.append_left _).append_right _).append_right _).append_right _).append_right _

private theorem inOrder_outside {before after : State 1} (inOrder : InOrder before)
    (moved : OutsideMove before i place after) : InOrder after := by
  cases moved with
  | walks next => exact inOrder_move inOrder i _ (List.nil_sublist _)
  | enters ready => exact inOrder_move inOrder i _ (List.nil_sublist _)
  | connects calling down => exact ⟨inOrder.sorted, inOrder.older, inOrder.drainedFirst⟩
  | closes next =>
    have dropped : InOrder (before.connection i false) :=
      ⟨inOrder.sorted, inOrder.older, inOrder.drainedFirst⟩
    exact inOrder_move dropped i _ (List.nil_sublist _)
  | online waited =>
    have moved := inOrder_move inOrder i (.outside .check) (List.nil_sublist _)
    exact ⟨moved.sorted, moved.older, moved.drainedFirst⟩

section Runs

variable [ByteBufferApi]

private theorem inOrder_upload {before after : State 1} (inOrder : InOrder before)
    (allowed : ¬ Overtakes before (.upload i woken)) (moved : UploadMove before i woken after) :
    InOrder after := by
  have first := inOrder.drainedFirst
  have only : i = 0 := Subsingleton.elim _ _
  subst only
  cases moved with
  | toRealtime standing | toReissue standing | skips standing | illegal standing =>
    exact inOrder_move inOrder 0 _ (List.nil_sublist _)
  | realtimeSleeps | reissueSleeps | putBackFull =>
    exact inOrder.of_sublist (List.Sublist.refl _) rfl first
  | @realtimeTook realtime data standing taken =>
    have more : before.realtime.queue ≠ [] := by simp [taken.queue]
    have youngest : ¬ (before.reissue.queue ≠ [] ∨ before.service.drained ≠ []) :=
      fun older => allowed ⟨standing, more, older⟩
    simp only [ne_eq, not_or, Classical.not_not] at youngest
    refine inOrder.of_sublist (same_line ?_) rfl fun packet there => ?_
    · simp [State.line, standing, UploaderAt.held, taken.queue, youngest]
    · exact absurd (first packet there) more
  | reissueTook standing taken marked =>
    refine inOrder.of_sublist (same_line ?_) rfl first
    simp [State.line, standing, UploaderAt.held, taken.queue]
  | reissueSpoilt standing taken refused =>
    refine inOrder.of_sublist ?_ rfl first
    simp [State.line, standing, UploaderAt.held, taken.queue]
  | goesOn standing more =>
    exact inOrder_move inOrder 0 _ (by rw [standing]; exact List.Sublist.refl _)
  | putBackStored standing stored =>
    refine inOrder.of_sublist (same_line ?_) rfl first
    simp [State.line, standing, UploaderAt.held, stored.queue]

/-- Every step but an overtaking one keeps the line in order. -/
theorem inOrder_step {before after : State 1} (inOrder : InOrder before)
    (allowed : ¬ Overtakes before action) (moved : Move before action after) : InOrder after := by
  have first := inOrder.drainedFirst
  cases moved with
  | @start i fresh => exact inOrder_move inOrder i _ (List.nil_sublist _)
  | push | signal | drop => exact ⟨inOrder.sorted, inOrder.older, first⟩
  | @accept buf session free serving read returned =>
    have longer : State.line { before with
        service := .checking 0 ⟨before.accepted.length, buf⟩
        accepted := before.accepted ++ [buf] } = before.line ++ [before.accepted.length] := by
      simp [State.line, free, ServiceAt.drained, ServiceAt.fresh]
    refine ⟨?_, ?_, fun _ there => (by cases there)⟩
    · rw [longer, List.pairwise_append]
      refine ⟨inOrder.sorted, List.pairwise_singleton _ _, fun seq member other last => ?_⟩
      rw [List.mem_singleton.mp last]
      exact inOrder.older seq member
    · intro seq member
      rw [longer] at member
      change seq < (before.accepted ++ [buf]).length
      rw [List.length_append, List.length_singleton]
      rcases List.mem_append.mp member with member | last
      · exact Nat.lt_succ_of_lt (inOrder.older seq member)
      · rw [List.mem_singleton.mp last]
        exact Nat.lt_succ_self _
  | service moved => exact inOrder_service inOrder moved
  | outside standing moved => exact inOrder_outside inOrder moved
  | upload moved => exact inOrder_upload inOrder allowed moved
  | @sent i packet standing legal =>
    have only : i = 0 := Subsingleton.elim _ _
    subst only
    refine inOrder.of_sublist (same_line ?_) rfl first
    simp [State.line, standing, UploaderAt.held]
  | @failed i packet progress standing legal room =>
    have only : i = 0 := Subsingleton.elim _ _
    subst only
    exact inOrder_move inOrder 0 _ (by rw [standing]; exact List.Sublist.refl _)
  | wakeRealtime woken =>
    have same := (BlockQueue.wake_cases woken).1
    refine inOrder.of_sublist (same_line ?_) rfl fun packet there => same.trans (first packet there)
    simp [State.line, same]
  | wakeReissue woken =>
    refine inOrder.of_sublist (same_line ?_) rfl first
    simp [State.line, (BlockQueue.wake_cases woken).1]

/-- As long as the uploader does not overtake the drain, packets are written in the
order in which they were accepted. -/
theorem written_in_order {capacity : Nat} {state : State 1}
    (reach : Reach (forwarder 1 capacity) (fun state action => ¬ Overtakes state action) state) :
    (state.written.map Packet.seq).Pairwise (· < ·) := by
  have inOrder : InOrder state := by
    apply reach.invariant
    · rintro state ⟨mode, rfl⟩
      exact ⟨List.Pairwise.nil, by simp [State.line, State.initial, UploaderAt.held,
        ServiceAt.drained, ServiceAt.fresh, BlockQueue.empty], fun _ there => (by cases there)⟩
    · intro before action after inOrder allowed stepped
      exact inOrder_step inOrder allowed (State.step_cases stepped)
  have sorted := inOrder.sorted
  simp only [State.line, List.map_append, List.append_assoc] at sorted
  exact (List.pairwise_append.mp sorted).1

end Runs

/-- A vehicle's login and its logout reach the server on one connection. -/
theorem written_in_order_online :
    ∃ state : State 1, state.written.length = 2 ∧
      (state.written.map Packet.seq).Pairwise (· < ·) := by
  let := ByteBuffer.reference
  have initial : Reach (forwarder 1 1) (fun state action => ¬ Overtakes state action)
      (State.initial 1 1 (some .release)) := .start ⟨_, rfl⟩
  obtain ⟨state, reach, both⟩ := initial.exists_of_schedule
    (fun state => state.written.length = 2)
    (loggedIn ++ [.accept (sampleRead .vehicleLogin), .service none, .service (some (.uploader 0)),
      .upload 0 none, .upload 0 none, .sent 0, .outside 0 .next, .outside 0 .next, .upload 0 none,
      .accept (sampleRead .vehicleLogout), .service none, .service none, .upload 0 none,
      .upload 0 none, .sent 0]) (by decide +kernel)
  exact ⟨state, both, written_in_order reach⟩

/-- The drain loop holds the vehicle's login while the uploader takes its logout;
the send fails, and after the reconnection the logout is written first. -/
theorem written_out_of_order :
    ∃ state, Reachable (@forwarder ByteBuffer.reference 1 2) state ∧
      ¬ (state.written.map Packet.seq).Pairwise (· < ·) := by
  let := ByteBuffer.reference
  have initial : Reachable (forwarder 1 2) (State.initial 1 2 (some .release)) := .start ⟨_, rfl⟩
  refine initial.exists_of_schedule (fun state => ¬ (state.written.map Packet.seq).Pairwise (· < ·))
    (loggedIn ++ [.accept (sampleRead .vehicleLogin), .service none, .service (some (.uploader 0)),
      .accept (sampleRead .vehicleLogout), .service none, .service none, .drop 0,
      .accept (sampleRead .vehicleLogin), .service none, .service none, .service none,
      .service none, .upload 0 none, .service none, .upload 0 none, .failed 0 0, .upload 0 none,
      .outside 0 .next, .outside 0 .next, .outside 0 .next, .outside 0 .connects, .outside 0 .next,
      .outside 0 .next, .outside 0 (.answered .responseOk), .upload 0 none, .upload 0 none,
      .upload 0 none, .sent 0, .outside 0 .next, .outside 0 .next, .upload 0 none, .upload 0 none,
      .upload 0 none, .sent 0]) ?_
  decide +kernel

end MotorInfoUpload
