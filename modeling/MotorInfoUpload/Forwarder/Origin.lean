import MotorInfoUpload.Forwarder.Ownership

namespace MotorInfoUpload

open Machine

variable {n : Nat} [ByteBufferApi]

inductive Comes (before : State n) (action : Action n) (place : Place n) : Packet → Prop where
  | stays (member : packet ∈ before.contents place) : Comes before action place packet
  | carried (source : Place n) (other : source ≠ .reissue)
      (member : packet ∈ before.contents source) : Comes before action place packet
  | marked (member : old ∈ before.contents .reissue) (marked : markReissue old.buf = .ok buf) :
      Comes before action place { old with buf }
  | advanced (failing : action = .failed i progress)
      (member : old ∈ before.contents (.uploader i))
      (room : old.buf.position + progress ≤ old.buf.limit) :
      Comes before action place { old with buf := old.buf.advance progress room }
  | accepted (accepting : action = .accept session) (read : session.FrameRead)
      (returned : session.returned = some buf) :
      Comes before action place ⟨before.accepted.length, buf⟩

variable {before after : State n} {action : Action n} {packet : Packet} {place : Place n}

private theorem comes_move {i j : Fin n} {next : UploaderAt}
    (held : packet ∈ next.held → Comes before action (.uploader i) packet)
    (member : packet ∈ ((before.move i next).uploader j).held) :
    Comes before action (.uploader j) packet := by
  by_cases here : j = i
  · subst here
    rw [State.move_uploader] at member
    exact held member
  · rw [State.move_other _ _ here] at member
    exact .stays member

private theorem comes_empty {i j : Fin n} {next : UploaderAt} (nothing : next.held = [])
    (member : packet ∈ ((before.move i next).uploader j).held) :
    Comes before action (.uploader j) packet :=
  comes_move (fun none => by rw [nothing] at none; cases none) member

omit [ByteBufferApi] in
private theorem stored_mem {queue stored : BlockQueue (Thread n) Packet} {data : Packet}
    (result : queue.Stored stored data front woken) (member : packet ∈ stored.queue) :
    packet ∈ queue.queue ∨ packet = data := by
  rw [result.queue] at member
  cases front <;> simp at member <;> tauto

private theorem comes_service (moved : ServiceMove before woken after)
    (member : packet ∈ after.contents place) : Comes before action place packet := by
  cases moved with
  | found standing | missed standing | offline standing | drained standing | draining standing =>
    refine .stays ?_
    cases place with
    | service => simpa [State.contents, standing, ServiceAt.drained, ServiceAt.fresh] using member
    | realtime | reissue | uploader | written => exact member
  | drainSleeps | drainFull | reissueFull | realtimeFull =>
    refine .stays ?_
    cases place <;> exact member
  | @drainTook fresh realtime data standing taken =>
    cases place with
    | realtime =>
      have left : packet ∈ realtime.queue := member
      exact .stays (by simp [State.contents, taken.queue, left])
    | service =>
      have either : packet = data ∨ packet = fresh := by
        simpa [State.contents, ServiceAt.drained, ServiceAt.fresh] using member
      rcases either with rfl | rfl
      · exact .carried .realtime (by simp) (by simp [State.contents, taken.queue])
      · exact .stays (by simp [State.contents, standing, ServiceAt.fresh])
    | reissue | uploader | written => exact .stays member
  | @drainStored fresh data reissue standing stored =>
    cases place with
    | reissue =>
      rcases stored_mem stored member with already | rfl
      · exact .stays already
      · exact .carried .service (by simp) (by simp [State.contents, standing, ServiceAt.drained])
    | service =>
      have same : packet = fresh := by
        simpa [State.contents, ServiceAt.drained, ServiceAt.fresh] using member
      exact .stays (by simp [State.contents, standing, ServiceAt.fresh, same])
    | realtime | uploader | written => exact .stays member
  | @reissueStored fresh reissue standing stored =>
    cases place with
    | reissue =>
      rcases stored_mem stored member with already | rfl
      · exact .stays already
      · exact .carried .service (by simp) (by simp [State.contents, standing, ServiceAt.fresh])
    | service => simp [State.contents, ServiceAt.drained, ServiceAt.fresh] at member
    | realtime | uploader | written => exact .stays member
  | @realtimeStored fresh realtime standing stored =>
    cases place with
    | realtime =>
      rcases stored_mem stored member with already | rfl
      · exact .stays already
      · exact .carried .service (by simp) (by simp [State.contents, standing, ServiceAt.fresh])
    | service => simp [State.contents, ServiceAt.drained, ServiceAt.fresh] at member
    | reissue | uploader | written => exact .stays member

private theorem comes_outside (moved : OutsideMove before i standing after)
    (member : packet ∈ after.contents place) : Comes before action place packet := by
  cases moved with
  | walks | online | closes | enters =>
    cases place with
    | uploader j => exact comes_empty rfl member
    | realtime | reissue | service | written => exact .stays member
  | connects =>
    refine .stays ?_
    cases place <;> exact member

private theorem comes_upload (moved : UploadMove before i woken after)
    (member : packet ∈ after.contents place) : Comes before action place packet := by
  have holding {held : UploaderAt} (standing : before.uploader i = held)
      (holds : held.held = [packet]) : packet ∈ before.contents (.uploader i) := by
    simp [State.contents, standing, holds]
  cases moved with
  | toRealtime | toReissue | skips | illegal =>
    cases place with
    | uploader j => exact comes_empty rfl member
    | realtime | reissue | service | written => exact .stays member
  | @goesOn loaded standing more =>
    cases place with
    | uploader j =>
      refine comes_move (fun held => .stays (holding standing ?_)) member
      rw [List.mem_singleton.mp held]
      rfl
    | realtime | reissue | service | written => exact .stays member
  | realtimeSleeps | reissueSleeps | putBackFull =>
    refine .stays ?_
    cases place <;> exact member
  | @realtimeTook realtime data standing taken =>
    cases place with
    | realtime =>
      have left : packet ∈ realtime.queue := member
      exact .stays (by simp [State.contents, taken.queue, left])
    | uploader j =>
      refine comes_move (fun held => .carried .realtime (by simp) ?_) member
      simp [State.contents, taken.queue, List.mem_singleton.mp held]
    | reissue | service | written => exact .stays member
  | @reissueTook reissue data buf standing taken marked =>
    cases place with
    | reissue =>
      have left : packet ∈ reissue.queue := member
      exact .stays (by simp [State.contents, taken.queue, left])
    | uploader j =>
      refine comes_move (fun held => ?_) member
      rw [List.mem_singleton.mp held]
      exact .marked (by simp [State.contents, taken.queue]) marked
    | realtime | service | written => exact .stays member
  | @reissueSpoilt reissue data exception standing taken refused =>
    cases place with
    | reissue =>
      have left : packet ∈ reissue.queue := member
      exact .stays (by simp [State.contents, taken.queue, left])
    | uploader j => exact comes_empty rfl member
    | realtime | service | written => exact .stays member
  | @putBackStored put reissue standing stored =>
    cases place with
    | reissue =>
      rcases stored_mem stored member with already | rfl
      · exact .stays already
      · exact .carried (.uploader i) (by simp) (holding standing rfl)
    | uploader j => exact comes_empty rfl member
    | realtime | service | written => exact .stays member

/-- Every packet after a step was somewhere before it, or has just been accepted. -/
theorem Move.comes (moved : Move before action after) (member : packet ∈ after.contents place) :
    Comes before action place packet := by
  cases moved with
  | start =>
    cases place with
    | uploader j => exact comes_empty rfl member
    | realtime | reissue | service | written => exact .stays member
  | push | signal | drop =>
    refine .stays ?_
    cases place <;> exact member
  | @accept buf session free serving read returned =>
    cases place with
    | service =>
      have same : packet = ⟨before.accepted.length, buf⟩ := by
        simpa [State.contents, ServiceAt.drained, ServiceAt.fresh] using member
      exact same ▸ .accepted rfl read returned
    | realtime | reissue | uploader | written => exact .stays member
  | service moved => exact comes_service moved member
  | outside standing moved => exact comes_outside moved member
  | upload moved => exact comes_upload moved member
  | @sent i sending standing legal =>
    cases place with
    | uploader j => exact comes_empty rfl member
    | written =>
      rcases List.mem_append.mp member with already | new
      · exact .stays already
      · refine .carried (.uploader i) (by simp) ?_
        simp [State.contents, standing, UploaderAt.held, List.mem_singleton.mp new]
    | realtime | reissue | service => exact .stays member
  | @failed i sending progress standing legal room =>
    cases place with
    | uploader j =>
      refine comes_move (fun held => ?_) member
      rw [List.mem_singleton.mp held]
      exact .advanced rfl (by simp [State.contents, standing, UploaderAt.held]) room
    | realtime | reissue | service | written => exact .stays member
  | wakeRealtime woken | wakeReissue woken =>
    have queue := (BlockQueue.wake_cases woken).1
    refine .stays ?_
    cases place <;> first | exact member | exact Eq.mp (congrArg (packet ∈ ·) queue) member

def Action.accepts : Action n → Option ByteBuffer
  | .accept session => session.returned
  | _ => none

theorem Move.accepted (moved : Move before action after) :
    after.accepted = before.accepted ++ action.accepts.toList := by
  cases moved with
  | accept free serving read returned => rw [Action.accepts, returned]; rfl
  | service moved => cases moved <;> exact (List.append_nil _).symm
  | outside standing moved => cases moved <;> exact (List.append_nil _).symm
  | upload moved => cases moved <;> exact (List.append_nil _).symm
  | start | push | signal | sent | failed | drop | wakeRealtime | wakeReissue =>
    exact (List.append_nil _).symm

end MotorInfoUpload
