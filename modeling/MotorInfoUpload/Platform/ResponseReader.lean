import MotorInfoUpload.Session.Received

namespace MotorInfoUpload

inductive Part where
  | startCode
  | header
  | dataUnit (length : Nat)
deriving DecidableEq

def Part.size : Part → Nat
  | startCode => 2
  | header => DataPacketHeader.size - 2
  | dataUnit length => length + 1

/-- Where the thread stands in `run` or, while `reading` or `publishing`, in
`readResponse`. It holds `m_statusMtx` while it is `sleeping`. -/
inductive ReaderAt where
  | check
  | sleeping
  | reading (part : Part)
  | publishing (status : ResponseReaderStatus)
  | answering
  | stopped
deriving DecidableEq

/-- The members of `ResponseReader` that the modelled code reads and writes. -/
structure ResponseReader where
  place : ReaderAt
  responseBuf : ByteBuffer
  responsePacketType : UInt8
  vin : List UInt8
  responseStatus : ResponseReaderStatus
deriving DecidableEq

/-- What can happen next to the thread. A read of `r_publicServer` returns with the
bytes it asked for, or throws a timeout, a closed connection or another exception. -/
inductive ReaderEvent where
  | check (connected : Bool)
  | wakes
  | interrupted
  | read (bytes : List UInt8)
  | fails (status : ResponseReaderStatus)
  | throws
  | publish
  | answer
deriving DecidableEq

/-- `gsocket::socket::read`, which puts the bytes at the buffer's position; `none`
when they overrun its limit, so that the read cannot return. -/
def ByteBuffer.readIn (buffer : ByteBuffer) (bytes : List UInt8) : Option ByteBuffer :=
  if room : buffer.position + bytes.length ≤ buffer.limit then some (buffer.store bytes room)
  else none

structure LoginSuccess (frame : List UInt8) : Prop where
  checkCode : CheckCodeRight frame
  command : DataPacketHeader.cmdId frame = CmdCode.platformLogin.value
  success : DataPacketHeader.responseFlag frame = ResponseFlag.success.value

instance (frame : List UInt8) : Decidable (LoginSuccess frame) :=
  decidable_of_iff (CheckCodeRight frame ∧
      DataPacketHeader.cmdId frame = CmdCode.platformLogin.value ∧
      DataPacketHeader.responseFlag frame = ResponseFlag.success.value)
    ⟨fun ⟨checkCode, command, success⟩ => ⟨checkCode, command, success⟩,
      fun ⟨checkCode, command, success⟩ => ⟨checkCode, command, success⟩⟩

namespace ResponseReader

/-- `waitNextStatus` has timed out. -/
def expire (reader : ResponseReader) : ResponseReader := { reader with responseStatus := .timeout }

/-- `run` forwards the frame to the vehicle: a success only of a vehicle login. -/
def forwards (reader : ResponseReader) : Bool :=
  match reader.responseStatus with
  | .responseOk => reader.responsePacketType == CmdCode.vehicleLogin.value
  | .responseNotOk => true
  | _ => false

section Reader

variable [ByteBufferApi]

/-- The reader of an uploader that has been constructed. The source leaves
`m_responsePacketType` unset until a header is read, and reads it only after that. -/
def initial : ResponseReader :=
  ⟨.check, ByteBufferApi.allocate 512, CmdCode.init.value, Constant.vinInital, .init⟩

/-- `readResponse` up to its first read. -/
def readResponse (reader : ResponseReader) : ResponseReader :=
  { reader with responseBuf := ByteBufferApi.clear reader.responseBuf, place := .reading .startCode }

def verdict (responseBuf : ByteBuffer) (chechCode last : UInt8) : ResponseReaderStatus :=
  if chechCode ≠ last then .responseFormatErr
  else if DataPacketHeader.responseFlag responseBuf.array = ResponseFlag.success.value then
    .responseOk
  else .responseNotOk

/-- The status `readResponse` gives to a frame that it has read and flipped. -/
def judge (responseBuf : ByteBuffer) : Except Exception ResponseReaderStatus :=
  (Util.generateBlockCheckCharacterOf responseBuf 2
    (sizeMinus (ByteBufferApi.remaining responseBuf) 3)).bind fun chechCode =>
      ((ByteBufferApi.getAt responseBuf (sizeMinus responseBuf.limit 1)).mapError .byteBuffer).map
        (verdict responseBuf chechCode)

/-- `readResponse` from the return of one of its reads to the next one, or to its
call of `status`. -/
def received (reader : ResponseReader) (responseBuf : ByteBuffer) : Part → ResponseReader
  | .startCode =>
    if DataPacketHeader.startCode responseBuf.array = [35, 35] then
      { reader with responseBuf, place := .reading .header }
    else { reader with responseBuf, place := .publishing .responseFormatErr }
  | .header =>
    let responseDataUnitLen := DataPacketHeader.dataUnitLength responseBuf.array
    { reader with
      responseBuf
      responsePacketType := DataPacketHeader.cmdId responseBuf.array
      vin := DataPacketHeader.vin responseBuf.array
      place := if ByteBufferApi.remaining responseBuf < responseDataUnitLen then
          .publishing .responseFormatErr
        else .reading (.dataUnit responseDataUnitLen) }
  | .dataUnit _ => match judge (ByteBufferApi.flip responseBuf) with
    | .ok status =>
      { reader with responseBuf := ByteBufferApi.flip responseBuf, place := .publishing status }
    | .error _ => { reader with responseBuf := ByteBufferApi.flip responseBuf, place := .stopped }

/-- `status (status)`, and the `rewind` behind it for a frame with a right check code. -/
def publish (reader : ResponseReader) (status : ResponseReaderStatus) : ResponseReader where
  place := .answering
  responseBuf := match status with
    | .responseOk | .responseNotOk => ByteBufferApi.rewind reader.responseBuf
    | _ => reader.responseBuf
  responsePacketType := reader.responsePacketType
  vin := reader.vin
  responseStatus := status

/-- One step of the thread; the write of `run` to the vehicle's session is left to
the step `answer` of the whole system. -/
def step (reader : ResponseReader) (event : ReaderEvent) : Option ResponseReader :=
  match reader.place, event with
  | .check, .check connected =>
    if connected then some reader.readResponse
    else some { reader with responseStatus := .init, place := .sleeping }
  | .sleeping, .wakes => some { reader with place := .check }
  | .sleeping, .interrupted => some { reader with place := .stopped }
  | .reading part, .read bytes =>
    if bytes.length = part.size then
      (reader.responseBuf.readIn bytes).map fun responseBuf => reader.received responseBuf part
    else none
  | .reading _, .fails status =>
    if status = .timeout ∨ status = .connectionClosed then
      some { reader with place := .publishing status }
    else none
  | .reading _, .throws => some { reader with place := .stopped }
  | .publishing status, .publish => some (reader.publish status)
  | .answering, .answer =>
    some { reader with place := if reader.responseStatus = .init then .stopped else .check }
  | _, _ => none

end Reader

inductive Move [ByteBufferApi] (before : ResponseReader) : ReaderEvent → ResponseReader → Prop where
  | begins (standing : before.place = .check) : Move before (.check true) before.readResponse
  | sleeps (standing : before.place = .check) :
      Move before (.check false) { before with responseStatus := .init, place := .sleeping }
  | wakes (standing : before.place = .sleeping) : Move before .wakes { before with place := .check }
  | interrupted (standing : before.place = .sleeping) :
      Move before .interrupted { before with place := .stopped }
  | received (standing : before.place = .reading part) (size : bytes.length = part.size)
      (room : before.responseBuf.position + bytes.length ≤ before.responseBuf.limit) :
      Move before (.read bytes) (before.received (before.responseBuf.store bytes room) part)
  | fails (standing : before.place = .reading part)
      (failed : status = .timeout ∨ status = .connectionClosed) :
      Move before (.fails status) { before with place := .publishing status }
  | throws (standing : before.place = .reading part) :
      Move before .throws { before with place := .stopped }
  | published (standing : before.place = .publishing status) :
      Move before .publish (before.publish status)
  | answered (standing : before.place = .answering) : Move before .answer
      { before with place := if before.responseStatus = .init then .stopped else .check }

theorem step_cases [ByteBufferApi] {before after : ResponseReader} {event : ReaderEvent}
    (stepped : before.step event = some after) : Move before event after := by
  unfold step at stepped
  split at stepped
  · rename_i connected standing
    cases connected with
    | false =>
      cases stepped
      exact .sleeps standing
    | true =>
      cases stepped
      exact .begins standing
  · cases stepped
    exact .wakes ‹_›
  · cases stepped
    exact .interrupted ‹_›
  · rename_i part bytes standing
    split at stepped
    · rename_i size
      obtain ⟨responseBuf, stored, same⟩ := Option.map_eq_some_iff.mp stepped
      subst same
      unfold ByteBuffer.readIn at stored
      split at stored
      · rename_i room
        cases stored
        exact .received standing size room
      · cases stored
    · cases stepped
  · rename_i part status standing
    split at stepped
    · rename_i failed
      cases stepped
      exact .fails standing failed
    · cases stepped
  · rename_i part standing
    cases stepped
    exact .throws standing
  · rename_i status standing
    cases stepped
    exact .published standing
  · cases stepped
    exact .answered ‹_›
  · cases stepped

theorem step_read [ByteBufferApi] {reader : ResponseReader} {part : Part}
    (standing : reader.place = .reading part) (size : bytes.length = part.size)
    (room : reader.responseBuf.position + bytes.length ≤ reader.responseBuf.limit) :
    reader.step (.read bytes) =
      some (reader.received (reader.responseBuf.store bytes room) part) := by
  unfold step
  rw [standing]
  dsimp only
  rw [if_pos size, ByteBuffer.readIn, dif_pos room, Option.map_some]

theorem responseFlag_take (memory : List UInt8) (length : Nat) (long : 3 < length) :
    DataPacketHeader.responseFlag (memory.take length) = DataPacketHeader.responseFlag memory := by
  simp only [DataPacketHeader.responseFlag, List.getD_eq_getElem?_getD,
    List.getElem?_take_of_lt long]

section Judge

variable [ByteBufferApi] [LawfulByteBuffer]

private theorem checked (buffer : ByteBuffer) (start : buffer.position = 0)
    (long : 3 < buffer.limit) :
    ∃ last, ByteBufferApi.getAt buffer (sizeMinus buffer.limit 1) = .ok last ∧
      Util.generateBlockCheckCharacterOf buffer 2 (sizeMinus (ByteBufferApi.remaining buffer) 3) =
        .ok (xorBytes ((buffer.window.drop 2).dropLast)) ∧
      buffer.window.getLast? = some last := by
  have inside := buffer.limit_le
  have lastIndex : sizeMinus buffer.limit 1 = buffer.limit - 1 := sizeMinus_eq (by omega)
  have remaining : ByteBufferApi.remaining buffer = buffer.limit := by
    rw [LawfulByteBuffer.remaining_eq, start, Nat.sub_zero]
  have count : sizeMinus (ByteBufferApi.remaining buffer) 3 = buffer.limit - 3 := by
    rw [remaining]
    exact sizeMinus_eq (Nat.le_of_lt long)
  have window : buffer.window = buffer.array.take buffer.limit := by
    rw [ByteBuffer.window, start, List.drop_zero]
  have length : (buffer.array.take buffer.limit).length = buffer.limit := List.length_take_of_le inside
  refine ⟨buffer.byteAt (buffer.limit - 1) (by omega), ?_, ?_, ?_⟩
  · rw [lastIndex]
    exact LawfulByteBuffer.getAt_read buffer (by omega)
  · have bytes : (buffer.array.drop 2).take (buffer.limit - 3) = (buffer.window.drop 2).dropLast := by
      have amount : min (buffer.limit - 2 - 1) (buffer.limit - 2) = buffer.limit - 3 := by omega
      rw [window, List.dropLast_eq_take, List.length_drop, length, List.drop_take, List.take_take,
        amount]
    have nonempty : (buffer.array.drop 2).take (buffer.limit - 3) ≠ [] := by
      apply List.ne_nil_of_length_pos
      rw [List.length_take, List.length_drop]
      omega
    rw [count, Util.generateBlockCheckCharacterOf, if_neg (by rw [remaining]; omega), start,
      Nat.zero_add, Util.generateBlockCheckCharacter_ok nonempty, bytes]
  · rw [window, List.getLast?_eq_getElem?, length, List.getElem?_take_of_lt (by omega),
      List.getElem?_eq_getElem (by omega)]
    rfl

/-- The rule of `readResponse`: a frame with a wrong check code is a format error,
any other is judged by its response flag alone. -/
theorem judge_eq (buffer : ByteBuffer) (start : buffer.position = 0) (long : 3 < buffer.limit) :
    judge buffer = .ok (
      if ¬ CheckCodeRight buffer.window then .responseFormatErr
      else if DataPacketHeader.responseFlag buffer.window = ResponseFlag.success.value then .responseOk
      else .responseNotOk) := by
  obtain ⟨last, read, computed, ends⟩ := checked buffer start long
  have window : buffer.window = buffer.array.take buffer.limit := by
    rw [ByteBuffer.window, start, List.drop_zero]
  have flag : DataPacketHeader.responseFlag buffer.window =
      DataPacketHeader.responseFlag buffer.array := by rw [window, responseFlag_take _ _ long]
  have right : CheckCodeRight buffer.window ↔ xorBytes ((buffer.window.drop 2).dropLast) = last := by
    rw [CheckCodeRight, ends, Option.some.injEq]
    exact eq_comm
  rw [judge, computed, read]
  refine congrArg Except.ok ?_
  rw [verdict, flag]
  by_cases same : xorBytes ((buffer.window.drop 2).dropLast) = last
  · rw [if_neg (not_not_intro same), if_neg (not_not_intro (right.mpr same))]
  · rw [if_pos same, if_pos (fun valid => same (right.mp valid))]

end Judge

end ResponseReader

def sampleResponse (cmd : CmdCode) (letter : UInt8) : List UInt8 :=
  let frame := [35, 35, cmd.value, 1] ++ List.replicate 17 letter ++ [1, 0, 6, 17, 6, 1, 12, 0, 0]
  frame ++ [xorBytes (frame.drop 2)]

def readsFrame (frame : List UInt8) : List ReaderEvent :=
  [.check true, .read (frame.take 2), .read ((frame.take 24).drop 2), .read (frame.drop 24), .publish]

end MotorInfoUpload
