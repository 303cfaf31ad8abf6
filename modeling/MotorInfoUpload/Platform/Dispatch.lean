import MotorInfoUpload.Machine.History
import MotorInfoUpload.Platform.AsyncWrite
import MotorInfoUpload.Platform.Frames
import MotorInfoUpload.Session.Alive

namespace MotorInfoUpload

open Machine

/-- A whole frame with a right check code that is to be forwarded: one that reports no
success, or the success of a vehicle login. -/
structure Deserves (frame : List UInt8) : Prop where
  startCode : DataPacketHeader.startCode frame = [35, 35]
  framed : IsFrame frame
  checkCode : CheckCodeRight frame
  kind : DataPacketHeader.responseFlag frame ≠ ResponseFlag.success.value ∨
    DataPacketHeader.cmdId frame = CmdCode.vehicleLogin.value

instance (frame : List UInt8) : Decidable (Deserves frame) :=
  decidable_of_iff (DataPacketHeader.startCode frame = [35, 35] ∧ IsFrame frame ∧
      CheckCodeRight frame ∧ (DataPacketHeader.responseFlag frame ≠ ResponseFlag.success.value ∨
        DataPacketHeader.cmdId frame = CmdCode.vehicleLogin.value))
    ⟨fun ⟨startCode, framed, checkCode, kind⟩ => ⟨startCode, framed, checkCode, kind⟩,
      fun ⟨startCode, framed, checkCode, kind⟩ => ⟨startCode, framed, checkCode, kind⟩⟩

def ReaderEvent.reads (frame : List UInt8) : ReaderEvent → List UInt8
  | .check true => []
  | .read bytes => frame ++ bytes
  | _ => frame

/-- What `run` finds after `readResponse`, for the bytes that have been read. -/
structure Dispatches (reader : ResponseReader) (frame : List UInt8) : Prop where
  sane : reader.responseStatus ≠ .init
  forwards : reader.forwards = true ↔ Deserves frame
  vin : Deserves frame → reader.vin = DataPacketHeader.vin frame
  window : Deserves frame → reader.responseBuf.window = frame

/-- The reader has read the given bytes of a frame and goes on with a part. -/
structure ReadsOn (frame : List UInt8) (part : Part) (reader : ResponseReader) : Prop where
  midway : Midway frame part reader
  count : frame.length = part.start
  startCode : part ≠ .startCode → DataPacketHeader.startCode frame = [35, 35]
  unit : ∀ length, part = .dataUnit length → length = DataPacketHeader.dataUnitLength frame ∧
    reader.vin = DataPacketHeader.vin frame ∧
    reader.responsePacketType = DataPacketHeader.cmdId frame

section Steps

variable [ByteBufferApi] {reader after : ResponseReader} {frame : List UInt8} {event : ReaderEvent}

/-- What holds of a reader and the bytes it has read of the current frame. -/
structure TurnSound (reader : ResponseReader) (frame : List UInt8) : Prop where
  capacity : reader.responseBuf.array.length = 512
  reading : ∀ part, reader.place = .reading part → ReadsOn frame part reader
  publishing : ∀ status, reader.place = .publishing status → Dispatches (reader.publish status) frame
  answering : reader.place = .answering → Dispatches reader frame

private theorem publish_broken {status : ResponseReaderStatus} (short : ¬ IsFrame frame)
    (failed : status.judged = false) (sane : status ≠ .init) :
    Dispatches (reader.publish status) frame where
  sane := sane
  forwards := by
    refine iff_of_false (fun forwards => ?_) fun deserves => short deserves.framed
    have judged : status.judged = true := ResponseReader.judged_of_forwards forwards
    rw [failed] at judged
    cases judged
  vin deserves := absurd deserves.framed short
  window deserves := absurd deserves.framed short

omit [ByteBufferApi] in
private theorem not_frame_of_short (short : frame.length ≤ DataPacketHeader.size) : ¬ IsFrame frame := by
  intro framed
  exact absurd framed.long (Nat.not_lt.mpr short)

private theorem turn_elsewhere (capacity : reader.responseBuf.array.length = 512)
    (reading : ∀ part, reader.place ≠ .reading part)
    (publishing : ∀ status, reader.place ≠ .publishing status)
    (answering : reader.place ≠ .answering) : TurnSound reader frame where
  capacity := capacity
  reading part there := absurd there (reading part)
  publishing status there := absurd there (publishing status)
  answering there := absurd there answering

private theorem turn_publishing {status : ResponseReaderStatus}
    (capacity : reader.responseBuf.array.length = 512)
    (standing : reader.place = .publishing status)
    (dispatches : Dispatches (reader.publish status) frame) : TurnSound reader frame where
  capacity := capacity
  reading part there := by rw [standing] at there; cases there
  publishing other there := by
    rw [standing] at there
    cases there
    exact dispatches
  answering there := by rw [standing] at there; cases there

private theorem turn_reading {part : Part} (reads : ReadsOn frame part reader) :
    TurnSound reader frame where
  capacity := reads.midway.capacity
  reading other there := by
    rw [reads.midway.place] at there
    cases there
    exact reads
  publishing status there := by rw [reads.midway.place] at there; cases there
  answering there := by rw [reads.midway.place] at there; cases there

omit [ByteBufferApi] in
private theorem stored_part {part : Part} {bytes : List UInt8} (reads : ReadsOn frame part reader)
    (size : bytes.length = part.size)
    (room : reader.responseBuf.position + bytes.length ≤ reader.responseBuf.limit) :
    ∃ stored : ByteBuffer, stored = reader.responseBuf.store bytes room ∧
      stored.array.length = 512 ∧ stored.limit = 512 ∧ stored.position = part.start + part.size ∧
      stored.filled = frame ++ bytes ∧ (frame ++ bytes).length = part.start + part.size := by
  obtain ⟨place, capacity, limit, filled⟩ := reads.midway
  have all : reader.responseBuf.filled = frame := by
    rw [filled, ← reads.count, List.take_length]
  have position : reader.responseBuf.position = part.start := by
    rw [← reader.responseBuf.filled_length, all, reads.count]
  refine ⟨_, rfl, (ByteBuffer.splice_length (Nat.le_trans room reader.responseBuf.limit_le)).trans
    capacity, limit, ?_, ?_, ?_⟩
  · change reader.responseBuf.position + _ = _
    rw [position, size]
  · rw [ByteBuffer.store_filled, all]
  · rw [List.length_append, reads.count, size]

variable [LawfulByteBuffer]

private theorem publish_frame (startCode : DataPacketHeader.startCode frame = [35, 35])
    (framed : IsFrame frame) (vin : reader.vin = DataPacketHeader.vin frame)
    (packetType : reader.responsePacketType = DataPacketHeader.cmdId frame)
    (start : reader.responseBuf.position = 0) (window : reader.responseBuf.window = frame) :
    Dispatches (reader.publish (frameStatus frame)) frame where
  sane := frameStatus_ne_init frame
  forwards := by
    by_cases right : CheckCodeRight frame
    · by_cases success : DataPacketHeader.responseFlag frame = ResponseFlag.success.value
      · have status : frameStatus frame = .responseOk := by simp [frameStatus, right, success]
        have login : (reader.publish .responseOk).forwards = true ↔
            DataPacketHeader.cmdId frame = CmdCode.vehicleLogin.value := by
          change (reader.responsePacketType == _) = true ↔ _
          rw [packetType, beq_iff_eq]
        rw [status, login]
        exact ⟨fun command => ⟨startCode, framed, right, .inr command⟩,
          fun deserves => deserves.kind.resolve_left (not_not_intro success)⟩
      · have status : frameStatus frame = .responseNotOk := by simp [frameStatus, right, success]
        rw [status]
        exact iff_of_true rfl ⟨startCode, framed, right, .inl success⟩
    · have status : frameStatus frame = .responseFormatErr := by simp [frameStatus, right]
      rw [status]
      exact iff_of_false Bool.noConfusion fun deserves => right deserves.checkCode
  vin _ := vin
  window _ := by rw [ResponseReader.publish_buffer _ start, window]

omit [ByteBufferApi] [LawfulByteBuffer] in
private theorem startCode_append {front back : List UInt8} (long : 2 ≤ front.length) :
    DataPacketHeader.startCode (front ++ back) = DataPacketHeader.startCode front :=
  List.take_append_of_le_length long

private theorem received_frame {length : Nat} {bytes : List UInt8}
    (reads : ReadsOn frame (.dataUnit length) reader) (size : bytes.length = length + 1)
    (room : reader.responseBuf.position + bytes.length ≤ reader.responseBuf.limit) :
    IsFrame (frame ++ bytes) ∧
      (frame ++ bytes).take DataPacketHeader.size = frame.take DataPacketHeader.size ∧
      reader.received (reader.responseBuf.store bytes room) (.dataUnit length) = { reader with
        responseBuf := (reader.responseBuf.store bytes room).flipped
        place := .publishing (frameStatus (frame ++ bytes)) } := by
  obtain ⟨stored, same, _, _, _, filled, count⟩ := stored_part reads size room
  rw [← same]
  have header : (frame ++ bytes).take DataPacketHeader.size = frame.take DataPacketHeader.size :=
    List.take_append_of_le_length (Nat.le_of_eq reads.count.symm)
  have framed : IsFrame (frame ++ bytes) := by
    rw [IsFrame, count, (header_congr header).2.2, ← (reads.unit length rfl).1]
    rfl
  refine ⟨framed, header, ?_⟩
  unfold ResponseReader.received
  dsimp only
  rw [judged_frame filled framed.long, LawfulByteBuffer.flip_eq]

private theorem turn_received {part : Part} {bytes : List UInt8} (reads : ReadsOn frame part reader)
    (size : bytes.length = part.size)
    (room : reader.responseBuf.position + bytes.length ≤ reader.responseBuf.limit) :
    TurnSound (reader.received (reader.responseBuf.store bytes room) part) (frame ++ bytes) := by
  obtain ⟨stored, same, capacity, limit, position, filled, count⟩ := stored_part reads size room
  rw [← same]
  have front : stored.array.take (part.start + part.size) = frame ++ bytes := position ▸ filled
  cases part with
  | startCode =>
    have start : DataPacketHeader.startCode stored.array =
        DataPacketHeader.startCode (frame ++ bytes) := by
      have whole : (frame ++ bytes).take 2 = frame ++ bytes :=
        List.take_of_length_le (Nat.le_of_eq count)
      exact front.trans whole.symm
    unfold ResponseReader.received
    dsimp only
    split
    · rename_i right
      refine turn_reading ⟨⟨rfl, capacity, limit, ?_⟩, count, fun _ => ?_, ?_⟩
      · exact filled.trans (List.take_of_length_le (Nat.le_of_eq count)).symm
      · exact start.symm.trans right
      · intro length other
        cases other
    · refine turn_publishing capacity rfl (publish_broken (not_frame_of_short ?_) rfl
        ResponseReaderStatus.noConfusion)
      rw [count]
      decide
  | header =>
    have whole : (frame ++ bytes).take DataPacketHeader.size = frame ++ bytes :=
      List.take_of_length_le (Nat.le_of_eq count)
    obtain ⟨command, vin, counted⟩ := header_congr (front.trans whole.symm)
    unfold ResponseReader.received
    dsimp only
    split
    · refine turn_publishing capacity rfl (publish_broken (not_frame_of_short ?_) rfl
        ResponseReaderStatus.noConfusion)
      exact Nat.le_of_eq count
    · refine turn_reading ⟨⟨rfl, capacity, limit, ?_⟩, count, fun _ => ?_, fun length same => ?_⟩
      · exact filled.trans whole.symm
      · rw [startCode_append (Nat.le_of_eq reads.count.symm)]
        exact reads.startCode Part.noConfusion
      · cases same
        exact ⟨counted, vin, command⟩
  | dataUnit length =>
    obtain ⟨counted, vin, command⟩ := reads.unit length rfl
    obtain ⟨framed, header, received⟩ := received_frame reads size room
    obtain ⟨sameCommand, sameVin, _⟩ := header_congr header
    rw [same, received, ← same]
    refine turn_publishing capacity rfl (publish_frame ?_ framed (vin.trans sameVin.symm)
      (command.trans sameCommand.symm) rfl filled)
    rw [startCode_append (reads.count ▸ (by decide : 2 ≤ DataPacketHeader.size))]
    exact reads.startCode Part.noConfusion

theorem TurnSound.step (sound : TurnSound reader frame) (stepped : reader.step event = some after) :
    TurnSound after (event.reads frame) := by
  cases ResponseReader.step_cases stepped with
  | begins standing =>
    have cleared : reader.readResponse.responseBuf = reader.responseBuf.cleared :=
      LawfulByteBuffer.clear_eq _
    refine turn_reading ⟨⟨rfl, ?_, ?_, ?_⟩, rfl, fun other => absurd rfl other, fun _ other => ?_⟩
    · exact cleared ▸ sound.capacity
    · exact cleared ▸ sound.capacity
    · rw [cleared]
      rfl
    · cases other
  | sleeps | wakes | interrupted | throws =>
    exact turn_elsewhere sound.capacity (fun _ => ReaderAt.noConfusion)
      (fun _ => ReaderAt.noConfusion) ReaderAt.noConfusion
  | received standing size room => exact turn_received (sound.reading _ standing) size room
  | @fails part status standing failed =>
    have short : frame.length ≤ DataPacketHeader.size := by
      rw [(sound.reading part standing).count]
      cases part with
      | startCode | header => decide
      | dataUnit => exact Nat.le_refl _
    refine turn_publishing sound.capacity rfl (publish_broken (not_frame_of_short short) ?_ ?_)
    · rcases failed with rfl | rfl <;> rfl
    · rcases failed with rfl | rfl <;> exact ResponseReaderStatus.noConfusion
  | @published status standing =>
    have kept : (reader.publish status).responseBuf.array = reader.responseBuf.array :=
      (ResponseReader.step_array stepped).resolve_right fun ⟨_, other, _⟩ => by cases other
    exact ⟨kept ▸ sound.capacity, fun _ there => (by cases there), fun _ there => (by cases there),
      fun _ => sound.publishing status standing⟩
  | answered standing =>
    refine turn_elsewhere sound.capacity (fun _ => ?_) (fun _ => ?_) ?_
    all_goals
      dsimp only
      split <;> exact ReaderAt.noConfusion

theorem TurnSound.initial : TurnSound .initial frame :=
  turn_elsewhere (LawfulByteBuffer.allocate_fresh 512).1 (fun _ => ReaderAt.noConfusion)
    (fun _ => ReaderAt.noConfusion) ReaderAt.noConfusion

omit [LawfulByteBuffer] in
/-- A wait that times out leaves the decision of the reader, if it was not to forward. -/
theorem TurnSound.expire (sound : TurnSound reader frame)
    (kept : reader.place = .answering → reader.forwards = false) :
    TurnSound reader.expire frame where
  capacity := sound.capacity
  reading part there :=
    have ⟨⟨place, capacity, limit, filled⟩, count, startCode, unit⟩ := sound.reading part there
    ⟨⟨place, capacity, limit, filled⟩, count, startCode, unit⟩
  publishing status there := sound.publishing status there
  answering there := by
    have refused : ¬ Deserves frame := fun deserves =>
      Bool.false_ne_true ((kept there).symm.trans ((sound.answering there).forwards.mpr deserves))
    exact ⟨ResponseReaderStatus.noConfusion, iff_of_false Bool.noConfusion refused,
      fun deserves => absurd deserves refused, fun deserves => absurd deserves refused⟩

/-- Every part of a frame that fits can be read, and does not stop the thread. -/
theorem TurnSound.reads {part : Part} {bytes : List UInt8} (sound : TurnSound reader frame)
    (standing : reader.place = .reading part)
    (fits : ∀ length, part = .dataUnit length → length ≤ 487) (size : bytes.length = part.size) :
    ∃ after, reader.step (.read bytes) = some after ∧ after.place ≠ .stopped := by
  have reads := sound.reading part standing
  have position : reader.responseBuf.position = part.start := by
    rw [← reader.responseBuf.filled_length, reads.midway.filled, ← reads.count, List.take_length]
  have room : reader.responseBuf.position + bytes.length ≤ reader.responseBuf.limit := by
    rw [position, size, reads.midway.limit]
    cases part with
    | startCode | header => decide
    | dataUnit length =>
      have short := fits length rfl
      change 24 + (length + 1) ≤ 512
      omega
  refine ⟨_, ResponseReader.step_read standing size room, ?_⟩
  cases part with
  | startCode =>
    unfold ResponseReader.received
    dsimp only
    split <;> exact ReaderAt.noConfusion
  | header =>
    unfold ResponseReader.received
    dsimp only
    split <;> exact ReaderAt.noConfusion
  | dataUnit length =>
    rw [(received_frame reads size room).2.2]
    exact ReaderAt.noConfusion

omit [LawfulByteBuffer] in
theorem TurnSound.answers (sound : TurnSound reader frame) (standing : reader.place = .answering) :
    reader.step .answer = some { reader with place := .check } := by
  unfold ResponseReader.step
  rw [standing]
  dsimp only
  rw [if_neg (sound.answering standing).sane]

end Steps

variable {Id Reader : Type} [DecidableEq Id] [DecidableEq Reader]

/-- The bytes that a reader passes to the `write` of sessions in a step. -/
def Wire.passed (before after : Wire Id Reader) (reader : Reader) : List (Id × List UInt8) :=
  ((after.pending.drop before.pending.length).filter fun write =>
    write.source = .response reader).map fun write => (write.target, write.given)

def WireEvent.reads (reader : Reader) (frame : List UInt8) : WireEvent Id Reader → List UInt8
  | .reader other event => if other = reader then event.reads frame else frame
  | _ => frame

/-- A turn of the loop of `run`: the bytes that the reader has read, the session that the
table held for the VIN among them at the end of the turn, and what has been passed to the
`write` of sessions. -/
structure ReaderTurn (Id Reader : Type) where
  reader : Reader
  frame : List UInt8
  holder : Option Id
  passed : List (Id × List UInt8)

/-- What has to be passed: the frame, whole and once, to the session that the table holds,
if the frame deserves it. -/
def ReaderTurn.due (turn : ReaderTurn Id Reader) : List (Id × List UInt8) :=
  if Deserves turn.frame then turn.holder.toList.map fun id => (id, turn.frame) else []

/-- The bytes that each reader has read in its turn and has passed, and the turns that
have ended. -/
structure ReaderTurns (Id Reader : Type) where
  frame : Reader → List UInt8
  passed : Reader → List (Id × List UInt8)
  ended : List (ReaderTurn Id Reader)

def ReaderTurns.none (Id Reader : Type) : ReaderTurns Id Reader := ⟨fun _ => [], fun _ => [], []⟩

def ReaderTurns.note (turns : ReaderTurns Id Reader) (before : Wire Id Reader)
    (event : WireEvent Id Reader) (after : Wire Id Reader) : ReaderTurns Id Reader :=
  let frame := fun reader => event.reads reader (turns.frame reader)
  let passed := fun reader => turns.passed reader ++ before.passed after reader
  match event with
  | .reader reader .answer =>
    ⟨Function.update frame reader [], Function.update passed reader [], turns.ended ++ [⟨reader,
      frame reader, before.server.table (DataPacketHeader.vin (frame reader)), passed reader⟩]⟩
  | _ => ⟨frame, passed, turns.ended⟩

def dispatching (Id Reader : Type) [DecidableEq Id] [DecidableEq Reader] [ByteBufferApi]
    (settings : Settings) : Automaton (Recorded (Wire Id Reader) (ReaderTurns Id Reader))
      (WireEvent Id Reader) :=
  (asyncWrites Id Reader settings).recording (.none Id Reader) ReaderTurns.note

/-- A wait for a response times out between `readResponse` and the look that `run` takes at
the status, which is that of a frame to be forwarded. -/
def Masks (wire : Wire Id Reader) : WireEvent Id Reader → Prop
  | .timeout reader => (wire.readers reader).place = .answering ∧
      (wire.readers reader).forwards = true
  | _ => False

instance (wire : Wire Id Reader) (event : WireEvent Id Reader) : Decidable (Masks wire event) :=
  match event with
  | .timeout _ => inferInstanceAs (Decidable (_ ∧ _))
  | .service _ | .reader _ _ | .transmit _ _ | .complete _ | .fail _ => .isFalse fun bad => bad

section Runs

variable [ByteBufferApi] {settings : Settings} {before after : Wire Id Reader}
  {event : WireEvent Id Reader}

private theorem passed_answer {reader : Reader}
    (moved : Wire.Move settings before (.reader reader .answer) after) :
    before.passed after reader = (before.forwardee reader).toList.map fun id =>
      (id, (before.readers reader).responseBuf.window) := by
  cases moved with
  | read other => exact absurd rfl other
  | answered standing moved nobody => simp [Wire.passed, nobody]
  | forwarded standing moved found => simp [Wire.passed, found]

omit [ByteBufferApi] in
private theorem passed_nothing {reader : Reader}
    (fewer : after.pending.length ≤ before.pending.length) : before.passed after reader = [] := by
  rw [Wire.passed, List.drop_eq_nil_of_le fewer]
  rfl

private theorem passed_other {reader : Reader} (moved : Wire.Move settings before event after)
    (other : event ≠ .reader reader .answer) : before.passed after reader = [] := by
  cases moved with
  | @service event server spontaneous moved =>
    cases event with
    | handle id =>
      rw [Wire.passed, Wire.serve_pending, List.drop_left]
      cases (before.replied id).bind Handled.written <;> simp
    | accept | arrive | breaks | expire | timeout | respond | writeDone | writeFailed =>
      exact passed_nothing (Nat.le_refl _)
  | read | answered | timeout => exact passed_nothing (Nat.le_refl _)
  | @forwarded source =>
    have different : source ≠ reader := fun same => other (by rw [same])
    simp [Wire.passed, different]
  | transmitted => exact passed_nothing (Nat.le_of_eq List.length_set)
  | completed | failed => exact passed_nothing (List.eraseIdx_sublist ..).length_le

inductive ReaderMove (before after : Wire Id Reader) (reader : Reader) : WireEvent Id Reader → Prop where
  | steps {own : ReaderEvent}
      (moved : (before.readers reader).step own = some (after.readers reader)) :
      ReaderMove before after reader (.reader reader own)
  | expires (expired : after.readers reader = (before.readers reader).expire) :
      ReaderMove before after reader (.timeout reader)
  | stays {action : WireEvent Id Reader} (kept : after.readers reader = before.readers reader)
      (unread : ∀ frame, action.reads reader frame = frame) : ReaderMove before after reader action

private theorem moves_of_step {reader : Reader} (moved : Wire.Move settings before event after) :
    ReaderMove before after reader event := by
  have others {other : Reader} {read : ResponseReader} (different : reader ≠ other) :
      Function.update before.readers other read reader = before.readers reader :=
    Function.update_of_ne different ..
  have own {read : ResponseReader} {step : ReaderEvent}
      (moved : (before.readers reader).step step = some read) :
      (before.readers reader).step step =
        some (Function.update before.readers reader read reader) := by
    rw [Function.update_self]
    exact moved
  cases moved with
  | @service event server =>
    refine .stays ?_ fun _ => rfl
    unfold Wire.serve
    split
    · split <;> rfl
    · rfl
  | @read event source read other moved =>
    by_cases here : reader = source
    · subst here
      exact .steps (own moved)
    · exact .stays (others here) fun frame => if_neg (Ne.symm here)
  | @answered source read standing moved =>
    by_cases here : reader = source
    · subst here
      exact .steps (own moved)
    · exact .stays (others here) fun frame => if_neg (Ne.symm here)
  | @forwarded source read id server standing moved =>
    by_cases here : reader = source
    · subst here
      exact .steps (own moved)
    · exact .stays (others here) fun frame => if_neg (Ne.symm here)
  | @timeout source =>
    by_cases here : reader = source
    · subst here
      exact .expires (Function.update_self ..)
    · exact .stays (others here) fun _ => rfl
  | transmitted | completed | failed => exact .stays rfl fun _ => rfl

structure Dispatched (wire : Wire Id Reader) (turns : ReaderTurns Id Reader) : Prop where
  sound : ∀ reader, TurnSound (wire.readers reader) (turns.frame reader)
  silent : ∀ reader, turns.passed reader = []
  due : ∀ turn ∈ turns.ended, turn.passed = turn.due

variable {turns : ReaderTurns Id Reader}

private theorem answer_steps {reader : Reader}
    (moved : Wire.Move settings before (.reader reader .answer) after) :
    (before.readers reader).place = .answering ∧
      (before.readers reader).step .answer = some (after.readers reader) := by
  cases moved with
  | read other => exact absurd rfl other
  | answered standing moved => exact ⟨standing, by simpa only [Function.update_self] using moved⟩
  | forwarded standing moved => exact ⟨standing, by simpa only [Function.update_self] using moved⟩

private theorem turn_due {reader : Reader} {frame : List UInt8}
    (sound : TurnSound (before.readers reader) frame)
    (moved : Wire.Move settings before (.reader reader .answer) after) :
    before.passed after reader = (⟨reader, frame, before.server.table (DataPacketHeader.vin frame),
      before.passed after reader⟩ : ReaderTurn Id Reader).due := by
  have dispatches := sound.answering (answer_steps moved).1
  rw [passed_answer moved, Wire.forwardee, ReaderTurn.due]
  dsimp only
  by_cases deserves : Deserves frame
  · rw [if_pos deserves, if_pos (dispatches.forwards.mpr deserves), dispatches.vin deserves,
      dispatches.window deserves]
  · rw [if_neg deserves, if_neg fun forwards => deserves (dispatches.forwards.mp forwards)]
    rfl

private theorem answer_checks {reader : Reader} {frame : List UInt8}
    (sound : TurnSound (before.readers reader) frame)
    (moved : Wire.Move settings before (.reader reader .answer) after) :
    (after.readers reader).place = .check := by
  obtain ⟨standing, stepped⟩ := answer_steps moved
  exact congrArg ResponseReader.place
    (Option.some.inj ((sound.answers standing).symm.trans stepped)).symm

private theorem TurnSound.anew {reader : ResponseReader} {frame : List UInt8}
    (sound : TurnSound reader frame) (standing : reader.place = .check) : TurnSound reader [] :=
  turn_elsewhere sound.capacity (fun _ there => by rw [standing] at there; cases there)
    (fun _ there => by rw [standing] at there; cases there)
    (fun there => by rw [standing] at there; cases there)

omit [ByteBufferApi] in
private theorem note_other (other : ∀ reader, event ≠ .reader reader .answer) :
    turns.note before event after = ⟨fun reader => event.reads reader (turns.frame reader),
      fun reader => turns.passed reader ++ before.passed after reader, turns.ended⟩ := by
  unfold ReaderTurns.note
  dsimp only
  split
  · exact absurd rfl (other _)
  · rfl

omit [ByteBufferApi] in
private theorem note_answer (source : Reader) :
    turns.note before (.reader source .answer) after =
      ⟨Function.update (fun reader => WireEvent.reads reader (turns.frame reader)
          (.reader source .answer : WireEvent Id Reader)) source [],
        Function.update (fun reader => turns.passed reader ++ before.passed after reader) source [],
        turns.ended ++ [⟨source, turns.frame source,
          before.server.table (DataPacketHeader.vin (turns.frame source)),
          turns.passed source ++ before.passed after source⟩]⟩ := by
  have own : WireEvent.reads source (turns.frame source)
      (.reader source .answer : WireEvent Id Reader) = turns.frame source := if_pos rfl
  unfold ReaderTurns.note
  dsimp only
  rw [own]

variable [LawfulByteBuffer]

private theorem sound_step {reader : Reader} {frame : List UInt8}
    (sound : TurnSound (before.readers reader) frame) (allowed : ¬ Masks before event)
    (moved : Wire.Move settings before event after) :
    TurnSound (after.readers reader) (event.reads reader frame) := by
  have moves : ReaderMove before after reader event := moves_of_step moved
  cases moves with
  | @steps own stepped =>
    have reads : WireEvent.reads reader frame (.reader reader own : WireEvent Id Reader) =
        own.reads frame := if_pos rfl
    exact reads ▸ sound.step stepped
  | expires expired =>
    rw [expired]
    exact sound.expire fun standing =>
      Bool.eq_false_iff.mpr fun forwards => allowed ⟨standing, forwards⟩
  | stays kept unread =>
    rw [kept, unread]
    exact sound

/-- Every step but a masking one leaves each turn passing what it has to. -/
private theorem dispatched_step (dispatched : Dispatched before turns) (allowed : ¬ Masks before event)
    (moved : Wire.Move settings before event after) :
    Dispatched after (turns.note before event after) := by
  have sound (reader : Reader) := sound_step (dispatched.sound reader) allowed moved
  have silent (reader : Reader) (other : event ≠ .reader reader .answer) :
      turns.passed reader ++ before.passed after reader = [] := by
    rw [dispatched.silent, passed_other moved other, List.append_nil]
  by_cases answer : ∃ reader, event = .reader reader .answer
  · obtain ⟨source, rfl⟩ := answer
    rw [note_answer]
    refine ⟨fun reader => ?_, fun reader => ?_, fun turn member => ?_⟩
    · dsimp only
      by_cases here : reader = source
      · rw [here, Function.update_self]
        exact (sound source).anew (answer_checks (dispatched.sound source) moved)
      · rw [Function.update_of_ne here]
        exact sound reader
    · dsimp only
      by_cases here : reader = source
      · rw [here, Function.update_self]
      · rw [Function.update_of_ne here]
        exact silent reader fun same => here (by cases same; rfl)
    · rcases List.mem_append.mp member with earlier | last
      · exact dispatched.due turn earlier
      · rw [List.mem_singleton.mp last, dispatched.silent, List.nil_append]
        exact turn_due (dispatched.sound source) moved
  · have other (reader : Reader) : event ≠ .reader reader .answer := fun same => answer ⟨reader, same⟩
    rw [note_other other]
    exact ⟨sound, fun reader => silent reader (other reader), dispatched.due⟩

/-- The loop of a reader goes on: it reads every part of a frame whose declared length is
at most 487, publishes every status, and looks for the next frame after it. -/
structure GoesOnReading (settings : Settings) (wire : Wire Id Reader) (reader : Reader) : Prop where
  reads : ∀ part bytes, (wire.readers reader).place = .reading part →
    (∀ length, part = .dataUnit length → length ≤ 487) → bytes.length = part.size →
    ∃ after, wire.step settings (.reader reader (.read bytes)) = some after ∧
      (after.readers reader).place ≠ .stopped
  publishes : ∀ status, (wire.readers reader).place = .publishing status →
    ∃ after, wire.step settings (.reader reader .publish) = some after ∧
      (after.readers reader).place = .answering
  answers : (wire.readers reader).place = .answering →
    ∃ after, wire.step settings (.reader reader .answer) = some after ∧
      (after.readers reader).place = .check

omit [LawfulByteBuffer] in
private theorem answer_enabled {reader : Reader} {read : ResponseReader} (known : before.server.Known)
    (stepped : (before.readers reader).step .answer = some read) :
    ∃ after, before.step settings (.reader reader .answer) = some after := by
  have forwards : ∃ after, ({ before with
      readers := Function.update before.readers reader read } : Wire Id Reader).forward settings
        reader = some after := by
    unfold Wire.forward
    dsimp only
    split
    · exact ⟨_, rfl⟩
    · rename_i id found
      split at found
      · rw [Function.update_self] at found
        obtain ⟨connection, present⟩ := known _ id found
        simp [Server.step, found, present]
      · cases found
  obtain ⟨after, forwarded⟩ := forwards
  refine ⟨after, ?_⟩
  change ((before.readers reader).step .answer).bind _ = _
  rw [stepped]
  exact forwarded

private theorem goesOnReading (known : before.server.Known)
    (sound : ∀ reader, TurnSound (before.readers reader) (turns.frame reader)) (reader : Reader) :
    GoesOnReading settings before reader where
  reads part bytes standing fits size := by
    obtain ⟨after, stepped, alive⟩ := (sound reader).reads standing fits size
    refine ⟨{ before with readers := Function.update before.readers reader after }, ?_, ?_⟩
    · change ((before.readers reader).step (.read bytes)).bind _ = _
      rw [stepped]
      rfl
    · simpa only [Function.update_self] using alive
  publishes status standing := by
    refine ⟨{ before with
      readers := Function.update before.readers reader ((before.readers reader).publish status) },
      ?_, ?_⟩
    · change ((before.readers reader).step .publish).bind _ = _
      unfold ResponseReader.step
      rw [standing]
      rfl
    · simp only [Function.update_self]
      rfl
  answers standing := by
    obtain ⟨after, stepped⟩ := answer_enabled known ((sound reader).answers standing)
    exact ⟨after, stepped, answer_checks (sound reader) (Wire.step_cases stepped)⟩

/-- As long as no wait times out between `readResponse` and the look at the status of a
frame that is to be forwarded, every turn passes exactly what it has to, nothing is passed
in the middle of a turn, and the frames do not end the loop. -/
theorem responses_dispatched {recorded : Recorded (Wire Id Reader) (ReaderTurns Id Reader)}
    (reach : Reach (dispatching Id Reader settings)
      (Recorded.onState fun wire event => ¬ Masks wire event) recorded) :
    (∀ turn ∈ recorded.log.ended, turn.passed = turn.due) ∧
      (∀ reader, recorded.log.passed reader = []) ∧
      ∀ reader, GoesOnReading settings recorded.state reader := by
  have held := reach.recorded Dispatched ?_ ?_
  · obtain ⟨run, dispatched⟩ := held
    have known := Server.known_of_reach (asyncWrites_server run)
    exact ⟨dispatched.due, dispatched.silent, goesOnReading known dispatched.sound⟩
  · intro wire initially
    rw [initially]
    exact ⟨fun _ => .initial, fun _ => rfl, fun turn none => by cases none⟩
  · intro wire turns event after _ dispatched allowed stepped
    exact dispatched_step dispatched allowed (Wire.step_cases stepped)

end Runs

theorem responses_dispatched_login :
    ∃ recorded : Recorded (Wire Nat Unit) (ReaderTurns Nat Unit), recorded.log.ended ≠ [] ∧
      ∀ turn ∈ recorded.log.ended, turn.passed = turn.due := by
  let := ByteBuffer.reference
  have := ByteBuffer.reference_lawful
  have initial : Reach (dispatching Nat Unit ⟨some .release, []⟩)
      (Recorded.onState fun wire event => ¬ Masks wire event) ⟨.initial Nat Unit, .none Nat Unit⟩ :=
    .start ⟨rfl, rfl⟩
  obtain ⟨recorded, reach, ended⟩ := initial.exists_of_schedule
    (fun recorded => recorded.log.ended ≠ []) loginForwarded (by decide +kernel)
  exact ⟨recorded, ended, (responses_dispatched reach).1⟩

/-- A wait times out when the response to the login of a vehicle has just been read. -/
theorem masked_response_lost : ∃ recorded : Recorded (Wire Nat Unit) (ReaderTurns Nat Unit),
    Reachable (@dispatching Nat Unit _ _ ByteBuffer.reference ⟨some .release, []⟩) recorded ∧
    ∃ turn ∈ recorded.log.ended, Deserves turn.frame ∧ turn.holder = some 0 ∧ turn.passed = [] := by
  let := ByteBuffer.reference
  have initial : Reachable (dispatching Nat Unit ⟨some .release, []⟩)
      ⟨.initial Nat Unit, .none Nat Unit⟩ := .start ⟨rfl, rfl⟩
  exact initial.exists_of_schedule
    (fun recorded => ∃ turn ∈ recorded.log.ended, Deserves turn.frame ∧ turn.holder = some 0 ∧
      turn.passed = [])
    ((logsIn 0).map .service ++ (readsFrame (sampleResponse .vehicleLogin 65)).map (.reader ()) ++
      [.timeout (), .reader () .answer]) (by decide +kernel)

end MotorInfoUpload
