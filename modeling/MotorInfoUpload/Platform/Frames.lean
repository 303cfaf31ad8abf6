import MotorInfoUpload.Platform.Reading
import MotorInfoUpload.Session.Laundering

namespace MotorInfoUpload

/-- A frame of the public server, as far as it fits into the buffer of the reader. -/
structure PlatformFrame (frame : List UInt8) : Prop where
  startCode : DataPacketHeader.startCode frame = [35, 35]
  framed : IsFrame frame
  fits : DataPacketHeader.dataUnitLength frame ≤ 487

instance (frame : List UInt8) : Decidable (PlatformFrame frame) :=
  decidable_of_iff (DataPacketHeader.startCode frame = [35, 35] ∧ IsFrame frame ∧
      DataPacketHeader.dataUnitLength frame ≤ 487)
    ⟨fun ⟨startCode, framed, fits⟩ => ⟨startCode, framed, fits⟩,
      fun ⟨startCode, framed, fits⟩ => ⟨startCode, framed, fits⟩⟩

/-- The status that a frame gets. -/
def frameStatus (frame : List UInt8) : ResponseReaderStatus :=
  if ¬ CheckCodeRight frame then .responseFormatErr
  else if DataPacketHeader.responseFlag frame = ResponseFlag.success.value then .responseOk
  else .responseNotOk

/-- `readResponse` has returned from reading the frame: its status is published, the
members are those of its header, and the buffer stands at its start. -/
structure ReadAs (frame : List UInt8) (reader : ResponseReader) : Prop where
  returned : reader.place = .answering
  status : reader.responseStatus = frameStatus frame
  vin : reader.vin = DataPacketHeader.vin frame
  packetType : reader.responsePacketType = DataPacketHeader.cmdId frame
  start : reader.responseBuf.position = 0
  window : reader.responseBuf.window = frame

structure Midway (frame : List UInt8) (part : Part) (reader : ResponseReader) : Prop where
  place : reader.place = .reading part
  capacity : reader.responseBuf.array.length = 512
  limit : reader.responseBuf.limit = 512
  filled : reader.responseBuf.filled = frame.take part.start

namespace ResponseReader

variable [ByteBufferApi]

/-- One read of `readResponse`, if it is at one; the socket delivers the bytes that are
asked for, once the stream has them. -/
def readPart (reader : ResponseReader) (stream : List UInt8) :
    Option (ResponseReader × List UInt8) :=
  match reader.place with
  | .reading part =>
    if part.size ≤ stream.length then
      (reader.step (.read (stream.take part.size))).map fun after => (after, stream.drop part.size)
    else none
  | _ => some (reader, stream)

/-- A call of `readResponse` on a connection: its reads, and the status it sets. -/
def call (reader : ResponseReader) (stream : List UInt8) : Option (ResponseReader × List UInt8) :=
  (reader.step (.check true)).bind fun begun =>
    (begun.readPart stream).bind fun (started, stream) =>
      (started.readPart stream).bind fun (headed, stream) =>
        (headed.readPart stream).bind fun (ended, stream) =>
          (ended.step .publish).map fun returned => (returned, stream)

/-- The first `count` calls of `run`, each with what it leaves of the stream. -/
def calls : Nat → ResponseReader → List UInt8 → Option (List (ResponseReader × List UInt8))
  | 0, _, _ => some []
  | count + 1, reader, stream => (reader.call stream).bind fun (returned, left) =>
    (returned.step .answer).bind fun next =>
      (calls count next left).map fun later => (returned, left) :: later

/-- The calls that return as `earlier` lead from a reader and a stream to others, on which
all further calls go on. -/
def Leads (reader : ResponseReader) (stream : List UInt8)
    (earlier : List (ResponseReader × List UInt8)) (next : ResponseReader) (left : List UInt8) : Prop :=
  ∀ count, calls (earlier.length + count) reader stream =
    (calls count next left).map fun later => earlier ++ later

theorem Leads.refl (reader : ResponseReader) (stream : List UInt8) :
    Leads reader stream [] reader stream := by
  intro count
  simp

theorem Leads.trans {reader middle next : ResponseReader} {stream between left : List UInt8}
    (first : Leads reader stream earlier middle between)
    (second : Leads middle between later next left) :
    Leads reader stream (earlier ++ later) next left := by
  intro count
  rw [List.length_append, Nat.add_assoc, first, second, Option.map_map]
  congr 1
  funext others
  simp

theorem Leads.call {reader returned next : ResponseReader} {stream left : List UInt8}
    (called : reader.call stream = some (returned, left))
    (answered : returned.step .answer = some next) :
    Leads reader stream [(returned, left)] next left := by
  intro count
  rw [List.length_singleton, Nat.add_comm, calls, called, Option.bind_some]
  dsimp only
  rw [answered, Option.bind_some]
  rfl

end ResponseReader

section Calls

variable [ByteBufferApi] [LawfulByteBuffer] {reader : ResponseReader} {frame : List UInt8}

omit [ByteBufferApi] [LawfulByteBuffer] in
theorem PlatformFrame.length_le (frame_ok : PlatformFrame frame) : frame.length ≤ 512 := by
  have length : frame.length =
      DataPacketHeader.size + DataPacketHeader.dataUnitLength frame + 1 := frame_ok.framed
  have fits := frame_ok.fits
  unfold DataPacketHeader.size at length
  omega

omit [LawfulByteBuffer] in
theorem Midway.read {part : Part} (rest : List UInt8) (midway : Midway frame part reader)
    (within : part.start + part.size ≤ frame.length) (short : frame.length ≤ 512) :
    ∃ filled : ByteBuffer, filled.array.length = 512 ∧ filled.limit = 512 ∧
      filled.position = part.start + part.size ∧
      filled.filled = frame.take (part.start + part.size) ∧
      reader.readPart (frame.drop part.start ++ rest) =
        some (reader.received filled part, frame.drop (part.start + part.size) ++ rest) := by
  obtain ⟨place, capacity, limit, filled⟩ := midway
  have position : reader.responseBuf.position = part.start := by
    rw [← reader.responseBuf.filled_length, filled, List.length_take]
    omega
  have piece : (frame.drop part.start ++ rest).take part.size =
      (frame.drop part.start).take part.size := by
    apply List.take_append_of_le_length
    rw [List.length_drop]
    omega
  have size : ((frame.drop part.start).take part.size).length = part.size := by
    rw [List.length_take, List.length_drop]
    omega
  have room : reader.responseBuf.position + ((frame.drop part.start).take part.size).length ≤
      reader.responseBuf.limit := by
    rw [size, position, limit]
    omega
  refine ⟨reader.responseBuf.store _ room,
    (ByteBuffer.splice_length (Nat.le_trans room reader.responseBuf.limit_le)).trans capacity, limit,
    ?_, ?_, ?_⟩
  · change reader.responseBuf.position + _ = _
    rw [size, position]
  · rw [ByteBuffer.store_filled, filled, ← List.take_add]
  · have enough : part.size ≤ (frame.drop part.start ++ rest).length := by
      rw [List.length_append, List.length_drop]
      omega
    have left : (frame.drop part.start ++ rest).drop part.size =
        frame.drop (part.start + part.size) ++ rest := by
      rw [List.drop_append_of_le_length (by rw [List.length_drop]; omega), List.drop_drop]
    unfold ResponseReader.readPart
    rw [place]
    dsimp only
    rw [if_pos enough, piece, left, ResponseReader.step_read place size room, Option.map_some]

theorem judged_frame {buffer : ByteBuffer} (filled : buffer.filled = frame)
    (long : DataPacketHeader.size < frame.length) :
    ResponseReader.judge (ByteBufferApi.flip buffer) = .ok (frameStatus frame) := by
  have size : buffer.position = frame.length := by rw [← filled, buffer.filled_length]
  have window : buffer.flipped.window = frame := filled
  have above : 3 < buffer.flipped.limit := by
    change 3 < buffer.position
    rw [size]
    exact Nat.lt_trans (by decide) long
  rw [LawfulByteBuffer.flip_eq, ResponseReader.judge_eq buffer.flipped rfl above, window]
  rfl

omit [LawfulByteBuffer] in
theorem Midway.startCode (rest : List UInt8) (starts : DataPacketHeader.startCode frame = [35, 35])
    (long : 2 ≤ frame.length) (short : frame.length ≤ 512) (midway : Midway frame .startCode reader) :
    ∃ next, reader.readPart (frame ++ rest) = some (next, frame.drop 2 ++ rest) ∧
      Midway frame .header next := by
  obtain ⟨filled, capacity, limit, position, bytes, read⟩ :=
    midway.read rest (show 0 + 2 ≤ frame.length by omega) short
  have startCode : DataPacketHeader.startCode filled.array = [35, 35] := by
    have start : filled.array.take filled.position = frame.take 2 := bytes
    rw [position] at start
    exact start.trans starts
  refine ⟨_, read, ?_⟩
  unfold ResponseReader.received
  dsimp only
  rw [if_pos startCode]
  exact ⟨rfl, capacity, limit, bytes⟩

private theorem Midway.header (rest : List UInt8) (sent : PlatformFrame frame)
    (midway : Midway frame .header reader) :
    ∃ next, reader.readPart (frame.drop 2 ++ rest) =
        some (next, frame.drop DataPacketHeader.size ++ rest) ∧
      Midway frame (.dataUnit (DataPacketHeader.dataUnitLength frame)) next ∧
      next.vin = DataPacketHeader.vin frame ∧
      next.responsePacketType = DataPacketHeader.cmdId frame := by
  have long : 24 < frame.length := sent.framed.long
  obtain ⟨filled, capacity, limit, position, bytes, read⟩ :=
    midway.read rest (show 2 + 22 ≤ frame.length by omega) sent.length_le
  have header : filled.array.take DataPacketHeader.size = frame.take DataPacketHeader.size := by
    have start : filled.array.take filled.position = frame.take (2 + 22) := bytes
    rw [position] at start
    exact start
  obtain ⟨command, vin, counted⟩ := header_congr header
  have room : ¬ ByteBufferApi.remaining filled < DataPacketHeader.dataUnitLength frame := by
    have fits := sent.fits
    have start : filled.position = 2 + 22 := position
    rw [LawfulByteBuffer.remaining_eq, limit, start]
    omega
  refine ⟨_, read, ?_, vin, command⟩
  unfold ResponseReader.received
  dsimp only
  rw [counted, if_neg room]
  exact ⟨rfl, capacity, limit, bytes⟩

private theorem Midway.dataUnit (rest : List UInt8) (sent : PlatformFrame frame)
    (midway : Midway frame (.dataUnit (DataPacketHeader.dataUnitLength frame)) reader) :
    ∃ buffer : ByteBuffer, buffer.position = 0 ∧ buffer.window = frame ∧ buffer.array.length = 512 ∧
      reader.readPart (frame.drop DataPacketHeader.size ++ rest) =
        some ({ reader with
          responseBuf := buffer, place := .publishing (frameStatus frame) }, rest) := by
  have length : frame.length = DataPacketHeader.size +
      (DataPacketHeader.dataUnitLength frame + 1) := sent.framed
  obtain ⟨filled, capacity, limit, position, bytes, read⟩ :=
    midway.read rest (Nat.le_of_eq length.symm) sent.length_le
  have whole : DataPacketHeader.size + (DataPacketHeader.dataUnitLength frame + 1) = frame.length :=
    length.symm
  have all : filled.filled = frame := by
    apply bytes.trans
    change frame.take (DataPacketHeader.size + (DataPacketHeader.dataUnitLength frame + 1)) = frame
    rw [whole, List.take_length]
  have nothing : frame.drop (DataPacketHeader.size +
      (DataPacketHeader.dataUnitLength frame + 1)) ++ rest = rest := by
    rw [whole, List.drop_length, List.nil_append]
  refine ⟨ByteBufferApi.flip filled, ?_, ?_, ?_, ?_⟩
  · rw [LawfulByteBuffer.flip_eq]
    rfl
  · rw [LawfulByteBuffer.flip_eq, ByteBuffer.flipped_window, all]
  · rw [LawfulByteBuffer.flip_eq]
    exact capacity
  · apply read.trans
    unfold ResponseReader.received
    rw [judged_frame all sent.framed.long]
    exact congrArg (fun left => some (_, left)) nothing

/-- A call begins with the buffer empty, at the start of whatever comes. -/
theorem Midway.begins (frame : List UInt8) (standing : reader.place = .check)
    (capacity : reader.responseBuf.array.length = 512) :
    reader.step (.check true) = some reader.readResponse ∧
      Midway frame .startCode reader.readResponse := by
  constructor
  · unfold ResponseReader.step
    rw [standing]
    rfl
  · unfold ResponseReader.readResponse
    rw [LawfulByteBuffer.clear_eq]
    exact ⟨rfl, capacity, capacity, rfl⟩

/-- One call of `readResponse` takes one frame. -/
theorem call_frame (rest : List UInt8) (standing : reader.place = .check)
    (capacity : reader.responseBuf.array.length = 512) (sent : PlatformFrame frame) :
    ∃ returned, reader.call (frame ++ rest) = some (returned, rest) ∧ ReadAs frame returned ∧
      returned.responseBuf.array.length = 512 := by
  obtain ⟨begins, first⟩ := Midway.begins frame standing capacity
  obtain ⟨second, readStart, atHeader⟩ := first.startCode rest sent.startCode
    (Nat.le_of_lt (Nat.lt_trans (by decide) sent.framed.long)) sent.length_le
  obtain ⟨third, readHeader, atUnit, vin, packetType⟩ := atHeader.header rest sent
  obtain ⟨buffer, start, window, size, readUnit⟩ := atUnit.dataUnit rest sent
  have published : (({ third with
      responseBuf := buffer, place := .publishing (frameStatus frame) } : ResponseReader).publish
        (frameStatus frame)).responseBuf = buffer := ResponseReader.publish_buffer _ start
  refine ⟨({ third with
    responseBuf := buffer, place := .publishing (frameStatus frame) } : ResponseReader).publish
      (frameStatus frame), ?_, ⟨rfl, rfl, vin, packetType, ?_, ?_⟩, ?_⟩
  · unfold ResponseReader.call
    rw [begins, Option.bind_some, readStart, Option.bind_some]
    dsimp only
    rw [readHeader, Option.bind_some]
    dsimp only
    rw [readUnit, Option.bind_some]
    rfl
  · rw [published, start]
  · rw [published, window]
  · rw [published, size]

omit [ByteBufferApi] [LawfulByteBuffer] in
theorem frameStatus_ne_init (frame : List UInt8) : frameStatus frame ≠ .init := by
  unfold frameStatus
  split
  · exact ResponseReaderStatus.noConfusion
  · split <;> exact ResponseReaderStatus.noConfusion

omit [LawfulByteBuffer] in
theorem answered {returned : ResponseReader} (standing : returned.place = .answering)
    (status : returned.responseStatus ≠ .init) :
    returned.step .answer = some { returned with place := .check } := by
  unfold ResponseReader.step
  rw [standing]
  dsimp only
  rw [if_neg status]

open ResponseReader in
/-- Frames at the start of a stream, one call each. -/
theorem frames_lead (frames : List (List UInt8)) (rest : List UInt8) (reader : ResponseReader)
    (standing : reader.place = .check) (capacity : reader.responseBuf.array.length = 512)
    (each : ∀ frame ∈ frames, PlatformFrame frame) :
    ∃ returned next, Leads reader (frames.flatten ++ rest) returned next rest ∧
      returned.length = frames.length ∧
      ∀ k frame, frames[k]? = some frame → ∃ after, ReadAs frame after ∧
        returned[k]? = some (after, (frames.drop (k + 1)).flatten ++ rest) := by
  induction frames generalizing reader with
  | nil => exact ⟨[], reader, Leads.refl reader rest, rfl, fun k frame none => by cases none⟩
  | cons frame frames ih =>
    obtain ⟨after, called, readAs, size⟩ := call_frame (frames.flatten ++ rest) standing capacity
      (each frame List.mem_cons_self)
    have goesOn := answered readAs.returned (readAs.status ▸ frameStatus_ne_init frame)
    obtain ⟨later, next, leads, count, others⟩ := ih { after with place := .check } rfl size
      fun frame member => each frame (List.mem_cons_of_mem _ member)
    refine ⟨(after, frames.flatten ++ rest) :: later, next, ?_, by rw [List.length_cons, count]; rfl,
      ?_⟩
    · rw [List.flatten_cons, List.append_assoc]
      exact (Leads.call called goesOn).trans leads
    · intro k other found
      cases k with
      | zero =>
        cases found
        exact ⟨after, readAs, rfl⟩
      | succ k => exact others k other found

/-- Successive calls of `readResponse` on a stream of frames take one frame each, in
their order: call `k` sets the status of frame `k`, has its members and its bytes in the
buffer, ready to be forwarded, and leaves the stream at the start of the next frame. -/
theorem frames_read (frames : List (List UInt8)) (rest : List UInt8) (reader : ResponseReader)
    (standing : reader.place = .check) (capacity : reader.responseBuf.array.length = 512)
    (each : ∀ frame ∈ frames, PlatformFrame frame) :
    ∃ returned, reader.calls frames.length (frames.flatten ++ rest) = some returned ∧
      returned.length = frames.length ∧
      ∀ k frame, frames[k]? = some frame → ∃ after, ReadAs frame after ∧
        returned[k]? = some (after, (frames.drop (k + 1)).flatten ++ rest) := by
  obtain ⟨returned, next, leads, count, readAs⟩ := frames_lead frames rest reader standing capacity each
  refine ⟨returned, ?_, count, readAs⟩
  have called := leads 0
  rw [Nat.add_zero, count] at called
  rw [called, ResponseReader.calls, Option.map_some, List.append_nil]

end Calls

def sampleResponses : List (List UInt8) :=
  [sampleResponse .vehicleLogin 65, (sampleResponse .vehicleLogin 66).set 30 0,
    sampleResponse .platformLogin 67]

theorem frames_read_three :
    ∃ returned, @ResponseReader.calls ByteBuffer.reference 3
        (@ResponseReader.initial ByteBuffer.reference) (sampleResponses.flatten ++ []) =
          some returned ∧
      returned.length = 3 ∧ ∀ k frame, sampleResponses[k]? = some frame → ∃ after, ReadAs frame after ∧
        returned[k]? = some (after, (sampleResponses.drop (k + 1)).flatten ++ []) := by
  let := ByteBuffer.reference
  have := ByteBuffer.reference_lawful
  have each : ∀ frame ∈ sampleResponses, PlatformFrame frame := by decide +kernel
  exact frames_read sampleResponses [] ResponseReader.initial rfl
    (LawfulByteBuffer.allocate_fresh 512).1 each

end MotorInfoUpload
