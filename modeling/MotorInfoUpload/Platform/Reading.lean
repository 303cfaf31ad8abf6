import MotorInfoUpload.Platform.ResponseReader

namespace MotorInfoUpload

def Part.start : Part → Nat
  | startCode => 0
  | header => 2
  | dataUnit _ => DataPacketHeader.size

/-- The statuses that a frame with a right check code can get. -/
def ResponseReaderStatus.judged : ResponseReaderStatus → Bool
  | responseOk | responseNotOk => true
  | _ => false

theorem ResponseReader.judged_of_forwards {reader : ResponseReader} (forwards : reader.forwards = true) :
    reader.responseStatus.judged = true := by
  unfold ResponseReader.forwards at forwards
  cases status : reader.responseStatus with
  | responseOk | responseNotOk => rfl
  | init | timeout | connectionClosed | responseFormatErr =>
    rw [status] at forwards
    cases forwards

/-- The buffer holds a frame with a right check code, and the members are those of
its header. -/
structure HoldsFrame (reader : ResponseReader) (status : ResponseReaderStatus) : Prop where
  start : reader.responseBuf.position = 0
  long : DataPacketHeader.size < reader.responseBuf.limit
  checkCode : CheckCodeRight reader.responseBuf.window
  success : status = .responseOk →
    DataPacketHeader.responseFlag reader.responseBuf.window = ResponseFlag.success.value
  command : reader.responsePacketType = DataPacketHeader.cmdId reader.responseBuf.window
  vin : reader.vin = DataPacketHeader.vin reader.responseBuf.window

/-- The members of the header are those of the bytes that have been read. -/
structure HoldsHeader (reader : ResponseReader) : Prop where
  command : reader.responsePacketType = DataPacketHeader.cmdId reader.responseBuf.array
  vin : reader.vin = DataPacketHeader.vin reader.responseBuf.array

/-- What holds of the reader between two of its steps. -/
structure ReaderSound (reader : ResponseReader) : Prop where
  capacity : reader.responseBuf.array.length = 512
  reading : ∀ part, reader.place = .reading part → reader.responseBuf.position = part.start
  header : ∀ length, reader.place = .reading (.dataUnit length) → HoldsHeader reader
  published : ∀ status, reader.place = .publishing status → status.judged = true →
    HoldsFrame reader status
  answered : reader.place = .answering → reader.responseStatus.judged = true →
    HoldsFrame reader reader.responseStatus

private theorem sound_elsewhere {reader : ResponseReader}
    (capacity : reader.responseBuf.array.length = 512)
    (reading : ∀ part, reader.place ≠ .reading part)
    (publishing : ∀ status, reader.place = .publishing status → status.judged = false)
    (answering : reader.place ≠ .answering) : ReaderSound reader where
  capacity := capacity
  reading part there := absurd there (reading part)
  header length there := absurd there (reading _)
  published status there judged := by
    rw [publishing status there] at judged
    cases judged
  answered there := absurd there answering

theorem store_header {buffer : ByteBuffer} (atUnit : buffer.position = DataPacketHeader.size)
    (room : buffer.position + bytes.length ≤ buffer.limit) :
    DataPacketHeader.cmdId (buffer.store bytes room).array = DataPacketHeader.cmdId buffer.array ∧
      DataPacketHeader.vin (buffer.store bytes room).array = DataPacketHeader.vin buffer.array := by
  have inside := buffer.limit_le
  have header : (buffer.store bytes room).array.take DataPacketHeader.size =
      buffer.array.take DataPacketHeader.size := by
    change (ByteBuffer.splice buffer.array buffer.position bytes).take DataPacketHeader.size = _
    rw [ByteBuffer.splice, atUnit, List.append_assoc]
    apply List.take_left'
    rw [List.length_take]
    omega
  exact ⟨(header_congr header).1, (header_congr header).2.1⟩

section Steps

variable [ByteBufferApi] [LawfulByteBuffer] {reader after : ResponseReader}

theorem ReaderSound.initial : ReaderSound .initial :=
  sound_elsewhere (LawfulByteBuffer.allocate_fresh 512).1 (fun _ there => by cases there)
    (fun _ there => by cases there) (fun there => by cases there)

omit [ByteBufferApi] [LawfulByteBuffer] in
theorem ReaderSound.expire (sound : ReaderSound reader) : ReaderSound reader.expire where
  capacity := sound.capacity
  reading := sound.reading
  header length there := ⟨(sound.header length there).command, (sound.header length there).vin⟩
  published status there judged :=
    have held := sound.published status there judged
    ⟨held.start, held.long, held.checkCode, held.success, held.command, held.vin⟩
  answered _ judged := by cases judged

private theorem judge_frame {buffer : ByteBuffer} (long : DataPacketHeader.size < buffer.position)
    (judged : ResponseReader.judge (ByteBufferApi.flip buffer) = .ok status)
    (right : status.judged = true) : CheckCodeRight buffer.flipped.window ∧
      (status = .responseOk →
        DataPacketHeader.responseFlag buffer.flipped.window = ResponseFlag.success.value) := by
  have computed := ResponseReader.judge_eq buffer.flipped rfl
    (show 3 < buffer.position from Nat.lt_trans (by decide) long)
  rw [LawfulByteBuffer.flip_eq] at judged
  have same := Except.ok.inj (judged.symm.trans computed)
  split at same
  · subst same
    cases right
  · rename_i valid
    refine ⟨not_not.mp valid, fun ok => ?_⟩
    split at same
    · assumption
    · rw [ok] at same
      cases same

private theorem received_sound {part : Part} (sound : ReaderSound reader)
    (reading : reader.place = .reading part) (size : bytes.length = part.size)
    (room : reader.responseBuf.position + bytes.length ≤ reader.responseBuf.limit) :
    ReaderSound (reader.received (reader.responseBuf.store bytes room) part) := by
  have inside := reader.responseBuf.limit_le
  have capacity : (reader.responseBuf.store bytes room).array.length = 512 :=
    (ByteBuffer.splice_length (Nat.le_trans room inside)).trans sound.capacity
  have position : (reader.responseBuf.store bytes room).position = part.start + part.size := by
    change reader.responseBuf.position + bytes.length = _
    rw [sound.reading part reading, size]
  cases part with
  | startCode =>
    unfold ResponseReader.received
    dsimp only
    split
    · refine ⟨capacity, fun part there => ?_, fun _ there => (by cases there),
        fun _ there => (by cases there), fun there => (by cases there)⟩
      cases there
      exact position
    · refine sound_elsewhere capacity (fun _ there => (by cases there)) (fun _ there => ?_)
        (fun there => (by cases there))
      cases there
      rfl
  | header =>
    unfold ResponseReader.received
    dsimp only
    split
    · refine sound_elsewhere capacity (fun _ there => (by cases there)) (fun _ there => ?_)
        (fun there => (by cases there))
      cases there
      rfl
    · refine ⟨capacity, fun part there => ?_, fun _ _ => ⟨rfl, rfl⟩,
        fun _ there => (by cases there), fun there => (by cases there)⟩
      cases there
      exact position
  | dataUnit length =>
    have held := sound.header length reading
    have long : DataPacketHeader.size < (reader.responseBuf.store bytes room).position := by
      rw [position]
      exact Nat.lt_add_of_pos_right (Nat.succ_pos length)
    obtain ⟨sameCommand, sameVin⟩ := store_header (sound.reading _ reading) room
    obtain ⟨windowCommand, windowVin⟩ :=
      window_header (reader.responseBuf.store bytes room).flipped rfl (Nat.le_of_lt long)
    have flipped : (ByteBufferApi.flip (reader.responseBuf.store bytes room)).array.length = 512 := by
      rw [LawfulByteBuffer.flip_eq]
      exact capacity
    unfold ResponseReader.received
    dsimp only
    split
    · rename_i status judged
      refine ⟨flipped, fun _ there => (by cases there), fun _ there => (by cases there),
        fun _ there right => ?_, fun there => (by cases there)⟩
      cases there
      obtain ⟨checkCode, success⟩ := judge_frame long judged right
      rw [LawfulByteBuffer.flip_eq]
      exact ⟨rfl, long, checkCode, success,
        held.command.trans (sameCommand.symm.trans windowCommand.symm),
        held.vin.trans (sameVin.symm.trans windowVin.symm)⟩
    · exact sound_elsewhere flipped (fun _ there => (by cases there)) (fun _ there => (by cases there))
        (fun there => (by cases there))

theorem ResponseReader.publish_buffer (status : ResponseReaderStatus)
    (start : reader.responseBuf.position = 0) :
    (reader.publish status).responseBuf = reader.responseBuf := by
  have same : ByteBufferApi.rewind reader.responseBuf = reader.responseBuf := by
    rw [LawfulByteBuffer.rewind_eq]
    exact ByteBuffer.ext rfl start.symm rfl
  unfold publish
  dsimp only
  split
  · exact same
  · exact same
  · rfl

private theorem publish_sound (sound : ReaderSound reader)
    (publishing : reader.place = .publishing status) :
    ReaderSound (reader.publish status) := by
  have capacity : (reader.publish status).responseBuf.array.length = 512 := by
    unfold ResponseReader.publish
    dsimp only
    split
    all_goals first
      | exact sound.capacity
      | rw [LawfulByteBuffer.rewind_eq]; exact sound.capacity
  refine ⟨capacity, fun _ there => (by cases there), fun _ there => (by cases there),
    fun _ there => (by cases there), fun _ judged => ?_⟩
  have held := sound.published status publishing judged
  have same := ResponseReader.publish_buffer status held.start
  refine ⟨?_, ?_, ?_, ?_, ?_, ?_⟩
  all_goals rw [same]
  · exact held.start
  · exact held.long
  · exact held.checkCode
  · exact held.success
  · exact held.command
  · exact held.vin

/-- Every step of the reader keeps its members those of the frame it reads. -/
theorem ReaderSound.step (sound : ReaderSound reader) (stepped : reader.step event = some after) :
    ReaderSound after := by
  cases ResponseReader.step_cases stepped with
  | begins standing =>
    unfold ResponseReader.readResponse
    rw [LawfulByteBuffer.clear_eq]
    refine ⟨sound.capacity, fun part there => ?_, fun _ there => (by cases there),
      fun _ there => (by cases there), fun there => (by cases there)⟩
    cases there
    rfl
  | sleeps | wakes | interrupted | throws =>
    exact sound_elsewhere sound.capacity (fun _ there => (by cases there))
      (fun _ there => (by cases there)) (fun there => (by cases there))
  | received reading size room => exact received_sound sound reading size room
  | fails standing failed =>
    refine sound_elsewhere sound.capacity (fun _ there => (by cases there)) (fun _ there => ?_)
      (fun there => (by cases there))
    cases there
    rcases failed with rfl | rfl <;> rfl
  | published publishing => exact publish_sound sound publishing
  | answered standing =>
    refine sound_elsewhere sound.capacity (fun _ there => ?_) (fun _ there => ?_) (fun there => ?_)
    all_goals
      dsimp only at there
      split at there <;> cases there

private theorem received_array {part : Part} (responseBuf : ByteBuffer) :
    (reader.received responseBuf part).responseBuf.array = responseBuf.array := by
  cases part with
  | startCode =>
    unfold ResponseReader.received
    dsimp only
    split <;> rfl
  | header => rfl
  | dataUnit length =>
    unfold ResponseReader.received
    rw [LawfulByteBuffer.flip_eq]
    dsimp only
    split <;> rfl

theorem ResponseReader.step_array (stepped : reader.step event = some after) :
    after.responseBuf.array = reader.responseBuf.array ∨ ∃ bytes, event = .read bytes ∧
      after.responseBuf.array =
        ByteBuffer.splice reader.responseBuf.array reader.responseBuf.position bytes := by
  cases ResponseReader.step_cases stepped with
  | begins standing =>
    unfold ResponseReader.readResponse
    rw [LawfulByteBuffer.clear_eq]
    exact .inl rfl
  | received standing size room => exact .inr ⟨_, rfl, received_array _⟩
  | @published status standing =>
    refine .inl ?_
    unfold ResponseReader.publish
    rw [LawfulByteBuffer.rewind_eq]
    dsimp only
    split <;> rfl
  | sleeps | wakes | interrupted | fails | throws | answered => exact .inl rfl

end Steps

end MotorInfoUpload
