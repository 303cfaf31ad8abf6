import MotorInfoUpload.Forwarder.Marking

/-! The packet that an uploader puts back after a failed send. A write that has sent a
part of it has moved its position, and only the path of a successful send moves that
back. -/

namespace MotorInfoUpload

open Machine

section Runs

variable {n capacity : Nat} [ByteBufferApi] {state : State n}

/-- What a failed send leaves in the hand of the uploader, and then at the front of the
reissue queue. -/
theorem failed_putBack {packet : Packet} {progress : Nat} (standing : state.uploader i = .sending packet)
    (legal : DataPacketHeader.cmdId packet.buf.array ∈ legalCmds)
    (room : packet.buf.position + progress ≤ packet.buf.limit) :
    ∃ after, state.step (.failed i progress) = some after ∧
      after.uploader i = .putBack { packet with buf := packet.buf.advance progress room } := by
  refine ⟨state.move i (.putBack { packet with buf := packet.buf.advance progress room }), ?_, ?_⟩
  · simp [State.step, State.sendStep, standing, legal, room]
  · exact State.move_uploader ..

theorem putBack_front {put : Packet} {next : State n} (standing : state.uploader i = .putBack put)
    (stepped : state.step (.upload i woken) = some next) (left : next.uploader i ≠ .putBack put) :
    next.reissue.queue = put :: state.reissue.queue := by
  cases State.step_cases stepped with
  | upload moved =>
    cases moved with
    | putBackFull held full => exact absurd standing left
    | putBackStored held stored =>
      rw [standing] at held
      cases held
      exact stored.queue
    | toRealtime held | toReissue held | realtimeSleeps held | realtimeTook held | reissueSleeps held
    | reissueTook held | reissueSpoilt held | goesOn held | skips held | illegal held =>
      rw [standing] at held
      cases held

theorem markReissue_limit {buf marked : ByteBuffer} (succeeded : markReissue buf = .ok marked) :
    marked.limit = buf.limit := by
  unfold markReissue at succeeded
  split at succeeded
  · dsimp only at succeeded
    split at succeeded
    · cases succeeded
      rfl
    · cases succeeded
  · cases succeeded
    rfl

variable [LawfulByteBuffer]

theorem Sound.whole {packet : Packet} (sound : Sound accepted packet) :
    ∃ original, accepted[packet.seq]? = some original ∧ packet.buf.position = 0 ∧
      0 < ByteBufferApi.remaining packet.buf ∧
      ByteBufferApi.remaining packet.buf = original.window.length := by
  have forwardable := sound.forwardable
  have start := forwardable.start
  have long := forwardable.long
  obtain ⟨original, found, whole, same⟩ := sound
  have limit : packet.buf.limit = original.limit := by
    rcases same with same | marked
    · rw [same]
    · exact markReissue_limit marked
  refine ⟨original, found, start, ?_, ?_⟩
  · rw [LawfulByteBuffer.remaining_eq]
    omega
  · rw [LawfulByteBuffer.remaining_eq, ByteBuffer.window_length, start, whole.start, limit]

theorem advance_whole_iff (buf : ByteBuffer) (start : buf.position = 0)
    (room : buf.position + progress ≤ buf.limit) :
    ((buf.advance progress room).position = 0 ∧
      ByteBufferApi.remaining (buf.advance progress room) = ByteBufferApi.remaining buf) ↔
        progress = 0 := by
  rw [LawfulByteBuffer.remaining_eq, LawfulByteBuffer.remaining_eq]
  change buf.position + progress = 0 ∧ buf.limit - (buf.position + progress) = _ ↔ _
  constructor
  · intro whole
    omega
  · intro nothing
    subst nothing
    exact ⟨start, rfl⟩

/-- As long as every failed write has sent nothing, each packet is whole wherever it is:
it stands at its first byte with all its bytes remaining, so that it is sent whole and
not dropped, and what makes a reissue of it changes its real last byte. The packet that
a failed write puts back at the front of the reissue queue is whole exactly when the
write has sent nothing. -/
theorem putBack_whole (reach : Reach (forwarder n capacity) FailsWhole state) :
    (∀ place, ∀ packet ∈ state.contents place, ∃ original,
      state.accepted[packet.seq]? = some original ∧ packet.buf.position = 0 ∧
        0 < ByteBufferApi.remaining packet.buf ∧
        ByteBufferApi.remaining packet.buf = original.window.length) ∧
    (∀ packet ∈ state.reissue.queue,
      DataPacketHeader.cmdId packet.buf.array = CmdCode.realtimeUpload.value →
        ∃ marked, markReissue packet.buf = .ok marked ∧
          marked.window = remarked packet.buf.window) ∧
    ∀ i packet progress, state.uploader i = .sending packet →
      progress ≤ ByteBufferApi.remaining packet.buf →
      ∃ put after, state.step (.failed i progress) = some after ∧ after.uploader i = .putBack put ∧
        (∀ woken next, after.step (.upload i woken) = some next → next.uploader i ≠ .putBack put →
          next.reissue.queue = put :: after.reissue.queue) ∧
        ((put.buf.position = 0 ∧
          ByteBufferApi.remaining put.buf = ByteBufferApi.remaining packet.buf) ↔ progress = 0) := by
  have kept := kept_of_reach reach
  refine ⟨fun place packet member => (kept.sound place packet member).whole,
    fun packet member realtime => ?_, fun i packet progress standing fits => ?_⟩
  · have forwardable := (kept.sound .reissue packet member).forwardable
    obtain ⟨marked, succeeded, -, -⟩ := markReissue_forwardable forwardable
    exact ⟨marked, succeeded, markReissue_window forwardable realtime succeeded⟩
  · have member : packet ∈ state.contents (.uploader i) := by
      simp [State.contents, standing, UploaderAt.held]
    have forwardable := (kept.sound _ packet member).forwardable
    have start := forwardable.start
    have inside := packet.buf.position_le
    have room : packet.buf.position + progress ≤ packet.buf.limit := by
      rw [LawfulByteBuffer.remaining_eq] at fits
      omega
    obtain ⟨after, stepped, put⟩ := failed_putBack standing forwardable.legal room
    exact ⟨_, after, stepped, put, fun woken next stored left => putBack_front put stored left,
      advance_whole_iff packet.buf start room⟩

end Runs

/-- A login whose send fails at once is put back whole. -/
theorem putBack_whole_unsent :
    ∃ state : State 1, ∃ packet ∈ state.reissue.queue, packet.buf.position = 0 := by
  let := ByteBuffer.reference
  have := ByteBuffer.reference_lawful
  have initial : Reach (forwarder 1 1) FailsWhole (State.initial 1 1 (some .release)) := .start ⟨_, rfl⟩
  obtain ⟨state, reach, stored⟩ := initial.exists_of_schedule
    (fun state => state.reissue.queue ≠ [])
    (loggedIn ++ [.accept (sampleRead .vehicleLogin), .service none, .service (some (.uploader 0)),
      .upload 0 none, .upload 0 none, .drop 0, .failed 0 0, .upload 0 none]) (by decide +kernel)
  obtain ⟨packet, rest, queue⟩ := List.exists_cons_of_ne_nil stored
  have member : packet ∈ state.reissue.queue := by simp [queue]
  obtain ⟨original, _, start, _⟩ := (putBack_whole reach).1 .reissue packet member
  exact ⟨state, packet, member, start⟩

/-- A login of which five bytes have been sent is put back without them. -/
theorem putBack_partly_sent :
    ∃ state, Reachable (@forwarder ByteBuffer.reference 1 1) state ∧
      ∃ packet ∈ state.reissue.queue, packet.buf.position = 5 := by
  let := ByteBuffer.reference
  have initial : Reachable (forwarder 1 1) (State.initial 1 1 (some .release)) := .start ⟨_, rfl⟩
  refine initial.exists_of_schedule
    (fun state => ∃ packet ∈ state.reissue.queue, packet.buf.position = 5)
    (loggedIn ++ [.accept (sampleRead .vehicleLogin), .service none, .service (some (.uploader 0)),
      .upload 0 none, .upload 0 none, .drop 0, .failed 0 5, .upload 0 none]) ?_
  decide +kernel

end MotorInfoUpload
