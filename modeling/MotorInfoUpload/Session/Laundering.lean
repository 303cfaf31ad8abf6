import MotorInfoUpload.Session.Handlers

namespace MotorInfoUpload

/-- The bytes that the two reads of a session take as one frame. -/
def IsFrame (frame : List UInt8) : Prop :=
  frame.length = DataPacketHeader.size + DataPacketHeader.dataUnitLength frame + 1

instance (frame : List UInt8) : Decidable (IsFrame frame) := inferInstanceAs (Decidable (_ = _))

/-- Login and logout frames are forwarded as they are. -/
def Verbatim (frame : List UInt8) : Prop :=
  DataPacketHeader.cmdId frame = CmdCode.vehicleLogin.value ∨
    DataPacketHeader.cmdId frame = CmdCode.vehicleLogout.value

instance (frame : List UInt8) : Decidable (Verbatim frame) := inferInstanceAs (Decidable (_ ∨ _))

/-- Realtime and reissue frames are forwarded if their data unit can be taken apart. -/
def Filterable (frame : List UInt8) : Prop :=
  (DataPacketHeader.cmdId frame = CmdCode.realtimeUpload.value ∨
    DataPacketHeader.cmdId frame = CmdCode.reissueUpload.value) ∧
  ∃ unit check time blocks, frame.drop DataPacketHeader.size = unit ++ [check] ∧
    DataUnit unit time blocks

def TcpSession.vinAfter (session : TcpSession) (frame : List UInt8) : List UInt8 :=
  if session.vin = Constant.vinInital then DataPacketHeader.vin frame else session.vin

/-- The session accepts the frame: it fits into the packet buffer, its vehicle is
admitted, and its command and data unit are those of a forwarded frame. -/
structure Accepted (settings : Settings) (session : TcpSession) (frame : List UInt8) : Prop where
  fits : frame.length ≤ MAXPACK_LENGTH
  admitted : TcpSession.admits settings (session.vinAfter frame) = true
  forwarded : Verbatim frame ∨ Filterable frame

theorem IsFrame.long (framed : IsFrame frame) : DataPacketHeader.size < frame.length := by
  unfold IsFrame at framed
  omega

theorem TcpSession.FrameRead.cmdId {read : TcpSession} {frame : List UInt8}
    (ready : read.FrameRead) (whole : read.frame = frame) :
    DataPacketHeader.cmdId read.packetRef.array = DataPacketHeader.cmdId frame := by
  have limited := ready.limited
  unfold DataPacketHeader.size at limited
  rw [← whole, TcpSession.frame, cmdId_take _ _ (by omega)]

theorem TcpSession.FrameRead.window {read : TcpSession} {frame : List UInt8}
    (ready : read.FrameRead) (whole : read.frame = frame) :
    read.packetRef.window = frame.drop DataPacketHeader.size := by
  rw [ByteBuffer.window, ready.atUnit, ← whole]
  rfl

section Reads

variable {session : TcpSession} {frame : List UInt8}

theorem TcpSession.AtHeader.stored (standing : session.AtHeader)
    (size : bytes.length = DataPacketHeader.size) :
    ∃ filled, session.packetRef.receive 0 bytes = some filled ∧
      filled.array.length = MAXPACK_LENGTH ∧ filled.limit = MAXPACK_LENGTH ∧
      filled.array.take DataPacketHeader.size = bytes := by
  have fits : 0 + bytes.length ≤ session.packetRef.array.length := by
    rw [size, standing.capacity]
    decide
  refine ⟨_, ByteBuffer.receive_eq fits, (ByteBuffer.splice_length fits).trans standing.capacity,
    standing.limit, ?_⟩
  change (ByteBuffer.splice _ 0 _).take DataPacketHeader.size = _
  rw [ByteBuffer.splice, List.take_zero, List.nil_append, List.take_left' size]

def TcpSession.waiting (session : TcpSession) (frame : List UInt8) (positioned : ByteBuffer) :
    TcpSession :=
  ⟨positioned, DataPacketHeader.dataUnitLength frame, session.vinAfter frame, session.quit⟩

theorem TcpSession.vinAfter_ne (session : TcpSession)
    (long : DataPacketHeader.size ≤ frame.length) : session.vinAfter frame ≠ Constant.vinInital := by
  unfold vinAfter
  split
  · intro same
    have length := congrArg List.length same
    simp only [DataPacketHeader.vin, List.length_take, List.length_drop, VINLEN,
      Constant.vinInital, List.length_cons, List.length_nil] at length
    unfold DataPacketHeader.size at long
    omega
  · assumption

theorem TcpSession.waiting_atUnit {positioned : ByteBuffer} (session : TcpSession)
    (long : DataPacketHeader.size ≤ frame.length)
    (capacity : positioned.array.length = MAXPACK_LENGTH)
    (start : positioned.position = DataPacketHeader.size) (limit : positioned.limit = MAXPACK_LENGTH)
    (header : positioned.array.take DataPacketHeader.size = frame.take DataPacketHeader.size) :
    (session.waiting frame positioned).AtUnit where
  capacity := capacity
  start := start
  limit := limit
  counted := (header_congr header).2.2.symm
  named := session.vinAfter_ne long

end Reads

section HandOver

variable [ByteBufferApi] {Session : Type}

/-- What follows the header of a frame: the second read, if there is one, and its
handler. -/
def handOverUnit (self : Session) (header : Handled Session) (rest : List UInt8) :
    Option (Handled Session) :=
  match header.reading with
  | some .dataUnit =>
    (header.session.packetRef.receive header.session.packetRef.position rest).bind fun packetRef =>
      { header.session with packetRef }.readDataUnitHandler self header.table
  | _ => some header

/-- A session reads one frame, from `readHeader` on; `none` when it overruns the
packet buffer. -/
def handOver (settings : Settings) (self : Session) (session : TcpSession)
    (table : SessionTable Session) (frame : List UInt8) : Option (Handled Session) :=
  (session.readHeader.packetRef.receive 0 (frame.take DataPacketHeader.size)).bind fun packetRef =>
    handOverUnit self ({ session.readHeader with packetRef }.readHeaderHandler settings table)
      (frame.drop DataPacketHeader.size)

variable [LawfulByteBuffer] {settings : Settings} {self : Session} {session : TcpSession}
  {table : SessionTable Session} {frame : List UInt8}

theorem TcpSession.readHeaderHandler_eq {filled : ByteBuffer} (session : TcpSession)
    (table : SessionTable Session) (inside : DataPacketHeader.size ≤ filled.limit)
    (header : filled.array.take DataPacketHeader.size = frame.take DataPacketHeader.size) :
    { session with packetRef := filled }.readHeaderHandler settings table =
      if TcpSession.admits settings (session.vinAfter frame) then
        ⟨session.waiting frame ⟨filled.array, DataPacketHeader.size, filled.limit, inside,
          filled.limit_le⟩, table, some .dataUnit, none, none⟩
      else .stopped ⟨⟨filled.array, DataPacketHeader.size, filled.limit, inside, filled.limit_le⟩,
        session.dataUnitLen, session.vinAfter frame, session.quit⟩ table := by
  obtain ⟨_, vin, length⟩ := header_congr header
  unfold TcpSession.readHeaderHandler
  simp only [LawfulByteBuffer.setPosition_inside filled inside, TcpSession.headerVin, vin, length]
  by_cases admitted : TcpSession.admits settings (session.vinAfter frame) = true
  · rw [if_pos admitted]
    exact if_pos admitted
  · rw [if_neg admitted]
    exact if_neg admitted

/-- The second read stores the rest of the frame behind the header, and its handler
limits the packet buffer to the frame. -/
theorem TcpSession.AtUnit.whole {packetRef : ByteBuffer} (standing : session.AtUnit)
    (size : bytes.length = session.dataUnitLen + 1)
    (stored : session.packetRef.receive session.packetRef.position bytes = some packetRef) :
    ∃ read : TcpSession, { session with packetRef }.limited = .ok read ∧ read.FrameRead ∧
      read.frame = session.packetRef.array.take DataPacketHeader.size ++ bytes ∧
      read = { session with packetRef := read.packetRef } := by
  obtain ⟨capacity, start, limit, counted, named⟩ := standing
  obtain ⟨fits, rfl⟩ := ByteBuffer.receive_some stored
  have length := ByteBuffer.splice_length fits
  have ordered : session.packetRef.position ≤
      session.packetRef.position + (session.dataUnitLen + 1) := Nat.le_add_right _ _
  have within : session.packetRef.position + (session.dataUnitLen + 1) ≤
      (ByteBuffer.splice session.packetRef.array session.packetRef.position bytes).length := by
    rw [length]
    omega
  refine ⟨{ session with packetRef := ⟨_, session.packetRef.position,
      session.packetRef.position + (session.dataUnitLen + 1), ordered, within⟩ }, ?_, ?_, ?_, rfl⟩
  · unfold TcpSession.limited
    exact congrArg (Except.map _)
      (LawfulByteBuffer.setLimit_inside (session.packetRef.withArray _ length) ordered within)
  · refine ⟨length.trans capacity, start, ?_⟩
    change session.packetRef.position + (session.dataUnitLen + 1) =
      DataPacketHeader.size + session.dataUnitLen + 1
    omega
  · have header : (session.packetRef.array.take DataPacketHeader.size).length =
        DataPacketHeader.size := by
      rw [List.length_take, capacity]
      rfl
    change (ByteBuffer.splice session.packetRef.array session.packetRef.position bytes).take
      (session.packetRef.position + (session.dataUnitLen + 1)) = _
    rw [start, ByteBuffer.splice]
    apply List.take_left'
    rw [List.length_append, header, size]

private theorem handOver_header (long : DataPacketHeader.size ≤ frame.length) :
    ∃ positioned : ByteBuffer, (session.waiting frame positioned).AtUnit ∧
      positioned.array.take DataPacketHeader.size = frame.take DataPacketHeader.size ∧
      handOver settings self session table frame =
        if TcpSession.admits settings (session.vinAfter frame) then
          (positioned.receive positioned.position (frame.drop DataPacketHeader.size)).bind
            fun packetRef =>
              { session.waiting frame positioned with packetRef }.readDataUnitHandler self table
        else some (.stopped { session with
          packetRef := positioned, vin := session.vinAfter frame } table) := by
  have size : (frame.take DataPacketHeader.size).length = DataPacketHeader.size := by
    rw [List.length_take]
    omega
  obtain ⟨filled, received, capacity, limit, header⟩ := session.readHeader_atHeader.stored size
  have inside : DataPacketHeader.size ≤ filled.limit := by rw [limit]; decide
  let positioned : ByteBuffer :=
    ⟨filled.array, DataPacketHeader.size, filled.limit, inside, filled.limit_le⟩
  have result : { session.readHeader with packetRef := filled }.readHeaderHandler settings table =
      if TcpSession.admits settings (session.vinAfter frame) then
        ⟨session.waiting frame positioned, table, some .dataUnit, none, none⟩
      else .stopped { session with packetRef := positioned, vin := session.vinAfter frame } table :=
    session.readHeader.readHeaderHandler_eq table inside header
  have started : handOver settings self session table frame = handOverUnit self
      ({ session.readHeader with packetRef := filled }.readHeaderHandler settings table)
      (frame.drop DataPacketHeader.size) :=
    (congrArg (Option.bind · _) received).trans (Option.bind_some ..)
  refine ⟨positioned, session.waiting_atUnit long capacity rfl limit header, header, ?_⟩
  rw [started, result]
  by_cases admitted : TcpSession.admits settings (session.vinAfter frame) = true
  · rw [if_pos admitted, if_pos admitted]
    rfl
  · rw [if_neg admitted, if_neg admitted]
    rfl

/-- The two reads store the frame at the start of the packet buffer, and leave it
to `parseDataUnit`. -/
theorem handOver_reads (self : Session) (table : SessionTable Session) (framed : IsFrame frame)
    (fits : frame.length ≤ MAXPACK_LENGTH)
    (admitted : TcpSession.admits settings (session.vinAfter frame) = true) :
    ∃ read : TcpSession, read.FrameRead ∧ read.frame = frame ∧
      handOver settings self session table frame =
        (parseDataUnit self read table).map (read.afterParse table) := by
  have long := framed.long
  have counted : frame.length = DataPacketHeader.size +
      DataPacketHeader.dataUnitLength frame + 1 := framed
  obtain ⟨positioned, standing, header, started⟩ := handOver_header (Nat.le_of_lt long)
  have rest : (frame.drop DataPacketHeader.size).length =
      DataPacketHeader.dataUnitLength frame + 1 := by
    rw [List.length_drop]
    omega
  have room : positioned.position + (frame.drop DataPacketHeader.size).length ≤
      positioned.array.length := by
    have start : positioned.position = DataPacketHeader.size := standing.start
    have capacity : positioned.array.length = MAXPACK_LENGTH := standing.capacity
    omega
  obtain ⟨read, limited, ready, whole, _⟩ := standing.whole rest (ByteBuffer.receive_eq room)
  refine ⟨read, ready, ?_, ?_⟩
  · have kept : (session.waiting frame positioned).packetRef.array.take DataPacketHeader.size =
        frame.take DataPacketHeader.size := header
    rw [whole, kept, List.take_append_drop]
  · rw [started, if_pos admitted, ByteBuffer.receive_eq room, Option.bind_some,
      TcpSession.readDataUnitHandler, limited]

private theorem handOver_refused (framed : IsFrame frame)
    (refused : ¬ (frame.length ≤ MAXPACK_LENGTH ∧
      TcpSession.admits settings (session.vinAfter frame) = true))
    (handled : handOver settings self session table frame = some outcome) :
    outcome.packet = none := by
  have long := framed.long
  obtain ⟨positioned, standing, _, started⟩ := handOver_header (Nat.le_of_lt long)
  rw [started] at handled
  split at handled
  · rename_i admitted
    obtain ⟨packetRef, stored, _⟩ := Option.bind_eq_some_iff.mp handled
    obtain ⟨room, _⟩ := ByteBuffer.receive_some stored
    have start : positioned.position = DataPacketHeader.size := standing.start
    have capacity : positioned.array.length = MAXPACK_LENGTH := standing.capacity
    rw [List.length_drop] at room
    exact absurd ⟨by omega, admitted⟩ refused
  · cases handled
    rfl

omit [LawfulByteBuffer] in
theorem afterParse_packet {read : TcpSession} {outcome : Except Exception (Parsed Session)} :
    (read.afterParse table outcome).packet = some packet ↔
      ∃ parsed, outcome = .ok parsed ∧ parsed.packet = some packet := by
  cases outcome with
  | error exception => simp [TcpSession.afterParse, Handled.stopped]
  | ok parsed => simp [(read.afterParse_output table parsed).1]

/-- A packet handed over is a login or logout frame as it was received, or a
filtered frame with a new check code. -/
theorem handOver_packet (framed : IsFrame frame)
    (handled : handOver settings self session table frame = some outcome)
    (returned : outcome.packet = some packet) : Accepted settings session frame ∧
      (Verbatim frame ∧ packet.window = frame ∨ Filterable frame ∧ CheckCodeRight packet.window) := by
  by_cases taken : frame.length ≤ MAXPACK_LENGTH ∧
      TcpSession.admits settings (session.vinAfter frame) = true
  · obtain ⟨fits, admitted⟩ := taken
    obtain ⟨read, ready, whole, same⟩ := handOver_reads self table framed fits admitted
    rw [same] at handled
    obtain ⟨result, parse, finished⟩ := Option.map_eq_some_iff.mp handled
    subst finished
    obtain ⟨parsed, rfl, packetIs⟩ := afterParse_packet.mp returned
    obtain ⟨start, kind⟩ := parseDataUnit_returned ready parse packetIs
    cases kind with
    | @upload unit check time blocks command received shape window =>
      rw [ready.cmdId whole] at command
      have filterable : Filterable frame :=
        ⟨command, unit, check, time, blocks, (ready.window whole).symm.trans received, shape⟩
      have size : (read.packetRef.array.take DataPacketHeader.size).length =
          DataPacketHeader.size := by
        rw [List.length_take, ready.capacity]
        rfl
      refine ⟨⟨fits, admitted, .inr filterable⟩, .inr ⟨filterable, ?_⟩⟩
      rw [window]
      exact uploaded_checkCode _ time blocks size
    | verbatim command same =>
      rw [ready.cmdId whole] at command
      refine ⟨⟨fits, admitted, .inl command⟩, .inl ⟨command, ?_⟩⟩
      rw [same, ← whole]
      rfl
  · have nothing := handOver_refused framed taken handled
    rw [nothing] at returned
    cases returned

theorem parseDataUnit_packet {read : TcpSession} (self : Session) (table : SessionTable Session)
    (ready : read.FrameRead) (whole : read.frame = frame) (kind : Verbatim frame ∨ Filterable frame) :
    ∃ parsed packet, parseDataUnit self read table = some (.ok parsed) ∧
      parsed.packet = some packet := by
  rcases kind with verbatim | ⟨command, unit, check, time, blocks, received, shape⟩
  · rw [Verbatim, ← ready.cmdId whole] at verbatim
    obtain ⟨parsed, parse, packetIs⟩ := parseDataUnit_verbatim ready verbatim
    exact ⟨parsed, _, parse, packetIs⟩
  · rw [← ready.cmdId whole] at command
    rw [← ready.window whole] at received
    have small : read.packetRef.array.length < 65534 := by rw [ready.capacity]; decide
    obtain ⟨packet, parse, _⟩ := parseUpload_unit ready.atUnit small shape received
    refine ⟨⟨some packet, read, table, none⟩, packet, ?_, rfl⟩
    rw [parseDataUnit, parseDataUnitWithin_upload self read table _ ready.atUnit command, parse]
    rfl

/-- A heartbeat without a data unit. -/
def BareHeartBeat (frame : List UInt8) : Prop :=
  DataPacketHeader.cmdId frame = CmdCode.heartBeat.value ∧ DataPacketHeader.dataUnitLength frame = 0

instance (frame : List UInt8) : Decidable (BareHeartBeat frame) := inferInstanceAs (Decidable (_ ∧ _))

theorem parseDataUnit_heartBeat {read : TcpSession} (self : Session) (table : SessionTable Session)
    (ready : read.FrameRead) (command : read.cmdId = CmdCode.heartBeat.value)
    (bare : read.dataUnitLen = 0) :
    ∃ reply, parseDataUnit self read table =
        some (.ok ⟨none, { read with packetRef := reply }, table, some reply⟩) ∧
      reply.position = 0 ∧ reply.window = heartBeatReply read.frame := by
  obtain ⟨reply, replied, start, window⟩ := replyHeartBeat_ok ready bare
  have cmdId : DataPacketHeader.cmdId read.packetRef.array = CmdCode.heartBeat.value := command
  refine ⟨reply, ?_, start, window⟩
  unfold parseDataUnit parseDataUnitWithin
  rw [if_neg (not_not_intro ready.atUnit), cmdId, replied]
  rfl

/-- The frames that `parseDataUnit` takes. -/
def Parseable (frame : List UInt8) : Prop :=
  Verbatim frame ∨ Filterable frame ∨ BareHeartBeat frame

/-- `parseDataUnit` throws for every other frame. -/
theorem parseDataUnit_ok_iff {read : TcpSession} (self : Session) (table : SessionTable Session)
    (ready : read.FrameRead) (counted : read.dataUnitLen = DataPacketHeader.dataUnitLength read.frame) :
    (∃ parsed, parseDataUnit self read table = some (.ok parsed)) ↔ Parseable read.frame := by
  have command : DataPacketHeader.cmdId read.packetRef.array = DataPacketHeader.cmdId read.frame :=
    ready.cmdId rfl
  constructor
  · rintro ⟨parsed, parse⟩
    cases (parseDataUnit_cases parse).2 with
    | upload upload filtered =>
      obtain ⟨_, returned⟩ := parseDataUnit_returned ready parse rfl
      cases returned with
      | @upload unit check time blocks _ received shape window =>
        refine .inr (.inl ⟨?_, unit, check, time, blocks, ?_, shape⟩)
        · rw [← command]
          exact upload.symm
        · exact (ready.window rfl).symm.trans received
      | verbatim other =>
        rw [command] at other
        exact .inl other
    | login login => exact .inl (.inl (command ▸ login))
    | logout logout => exact .inl (.inr (command ▸ logout))
    | heartBeat heartBeat replied =>
      exact .inr (.inr ⟨command ▸ heartBeat, counted.symm.trans (replyHeartBeat_bare replied)⟩)
  · rintro (verbatim | filterable | ⟨heartBeat, bare⟩)
    · obtain ⟨parsed, _, parse, _⟩ := parseDataUnit_packet self table ready rfl (.inl verbatim)
      exact ⟨parsed, parse⟩
    · obtain ⟨parsed, _, parse, _⟩ := parseDataUnit_packet self table ready rfl (.inr filterable)
      exact ⟨parsed, parse⟩
    · obtain ⟨_, parse, _⟩ := parseDataUnit_heartBeat self table ready
        (command.trans heartBeat) (counted.trans bare)
      exact ⟨_, parse⟩

theorem handOver_accepted (framed : IsFrame frame) (accepted : Accepted settings session frame) :
    ∃ outcome packet, handOver settings self session table frame = some outcome ∧
      outcome.packet = some packet := by
  obtain ⟨fits, admitted, kind⟩ := accepted
  obtain ⟨read, ready, whole, same⟩ := handOver_reads self table framed fits admitted
  obtain ⟨parsed, packet, parse, packetIs⟩ := parseDataUnit_packet self table ready whole kind
  refine ⟨_, packet, by rw [same, parse]; rfl, ?_⟩
  exact afterParse_packet.mpr ⟨parsed, rfl, packetIs⟩

/-- When a frame of a vehicle is not laundered: it is valid, or it is not accepted,
or it is a login or logout frame, whose wrong check code is forwarded with it. -/
theorem laundered_iff (settings : Settings) (self : Session) (session : TcpSession)
    (table : SessionTable Session) (frame : List UInt8) (framed : IsFrame frame) :
    (∀ outcome packet, handOver settings self session table frame = some outcome →
        outcome.packet = some packet → CheckCodeRight packet.window → ValidFrame frame) ↔
      ValidFrame frame ∨ ¬ Accepted settings session frame ∨
        Verbatim frame ∧ ¬ CheckCodeRight frame := by
  constructor
  · intro clean
    by_cases valid : ValidFrame frame
    · exact .inl valid
    by_cases accepted : Accepted settings session frame
    · obtain ⟨outcome, packet, handled, returned⟩ := handOver_accepted framed accepted
      have wrong : ¬ CheckCodeRight packet.window :=
        fun right => valid (clean outcome packet handled returned right)
      obtain ⟨_, ⟨verbatim, same⟩ | ⟨_, right⟩⟩ := handOver_packet framed handled returned
      · exact .inr (.inr ⟨verbatim, same ▸ wrong⟩)
      · exact absurd right wrong
    · exact .inr (.inl accepted)
  · intro harmless outcome packet handled returned right
    obtain ⟨accepted, kind⟩ := handOver_packet framed handled returned
    rcases harmless with valid | refused | ⟨verbatim, wrong⟩
    · exact valid
    · exact absurd accepted refused
    · rcases kind with ⟨_, same⟩ | ⟨⟨upload, _⟩, _⟩
      · exact absurd (same ▸ right) wrong
      · rcases verbatim with login | logout <;> rcases upload with upload | upload
        all_goals simp_all [CmdCode.value]

end HandOver

def sampleRealtime : List UInt8 :=
  let frame := [35, 35, 2, 254] ++ List.replicate 17 65 ++ [1, 0, 29] ++ sampleUnit
  frame ++ [xorBytes (frame.drop 2)]

theorem laundered_iff_valid :
    IsFrame sampleRealtime ∧ ∀ (outcome : Handled Unit) (packet : ByteBuffer),
      @handOver ByteBuffer.reference Unit ⟨some .release, []⟩ ()
          (@TcpSession.accepted ByteBuffer.reference) SessionTable.empty sampleRealtime =
            some outcome →
        outcome.packet = some packet → CheckCodeRight packet.window → ValidFrame sampleRealtime := by
  let := ByteBuffer.reference
  have := ByteBuffer.reference_lawful
  have framed : IsFrame sampleRealtime := by decide +kernel
  exact ⟨framed, (laundered_iff ⟨some .release, []⟩ () TcpSession.accepted SessionTable.empty
    sampleRealtime framed).mpr (.inl (by decide +kernel))⟩

/-- A byte of the vehicle data is altered on the way; the packet that is uploaded
for it has a right check code. -/
theorem altered_frame_laundered :
    ¬ ValidFrame (sampleRealtime.set 40 99) ∧ ∃ (outcome : Handled Unit) (packet : ByteBuffer),
      @handOver ByteBuffer.reference Unit ⟨some .release, []⟩ ()
          (@TcpSession.accepted ByteBuffer.reference) SessionTable.empty
            (sampleRealtime.set 40 99) = some outcome ∧
        outcome.packet = some packet ∧ CheckCodeRight packet.window := by
  let := ByteBuffer.reference
  refine ⟨by decide +kernel, ?_⟩
  have right : ((handOver ⟨some .release, []⟩ () TcpSession.accepted SessionTable.empty
      (sampleRealtime.set 40 99)).bind Handled.packet).any
        (fun packet => decide (CheckCodeRight packet.window)) = true := by decide +kernel
  cases returned : (handOver ⟨some .release, []⟩ () TcpSession.accepted SessionTable.empty
      (sampleRealtime.set 40 99)).bind Handled.packet with
  | none => simp [returned] at right
  | some packet =>
    obtain ⟨outcome, handled, packetIs⟩ := Option.bind_eq_some_iff.mp returned
    rw [returned] at right
    exact ⟨outcome, packet, handled, packetIs, of_decide_eq_true right⟩

end MotorInfoUpload
