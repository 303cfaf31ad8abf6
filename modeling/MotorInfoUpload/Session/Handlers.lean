import MotorInfoUpload.Session.Received

/-! The completion handlers of `TcpSession`. Each runs to its end on the service
thread and leaves at most one read outstanding. -/

namespace MotorInfoUpload

/-- The configuration that the handlers read from `resource`. -/
structure Settings where
  mode : Option EnumRunMode
  vinAllowedArray : List (List UInt8)

inductive Reading where
  | header
  | dataUnit
deriving DecidableEq

/-- What a handler leaves behind: the members, the table, the read it has started
(with a newly armed timer), the packet it hands to the queues and the buffer it
gives to `write`. -/
structure Handled (Session : Type) where
  session : TcpSession
  table : SessionTable Session
  reading : Option Reading
  packet : Option ByteBuffer
  written : Option ByteBuffer

/-- A handler that starts nothing, as after an error or a caught exception. The
packet buffer of such a session is not read again. -/
def Handled.stopped (session : TcpSession) (table : SessionTable Session) : Handled Session :=
  ⟨session, table, none, none, none⟩

/-- The bytes of a completed read, stored at `array () + offset`; `none` when they
would overrun the buffer. -/
def ByteBuffer.receive (buffer : ByteBuffer) (offset : Nat) (bytes : List UInt8) :
    Option ByteBuffer :=
  if fits : offset + bytes.length ≤ buffer.array.length then
    some (buffer.withArray (splice buffer.array offset bytes) (splice_length fits))
  else none

theorem ByteBuffer.receive_eq {buffer : ByteBuffer} {bytes : List UInt8}
    (fits : offset + bytes.length ≤ buffer.array.length) :
    buffer.receive offset bytes =
      some (buffer.withArray (splice buffer.array offset bytes) (splice_length fits)) := dif_pos fits

theorem ByteBuffer.receive_some {buffer stored : ByteBuffer} {bytes : List UInt8}
    (received : buffer.receive offset bytes = some stored) :
    ∃ fits : offset + bytes.length ≤ buffer.array.length,
      stored = buffer.withArray (splice buffer.array offset bytes) (splice_length fits) := by
  unfold receive at received
  split at received
  · rename_i fits
    exact ⟨fits, (Option.some.inj received).symm⟩
  · cases received

namespace TcpSession

/-- The session waits for the bytes of a header, which go to the start of a packet
buffer of `MAXPACK_LENGTH` bytes. -/
structure AtHeader (session : TcpSession) : Prop where
  capacity : session.packetRef.array.length = MAXPACK_LENGTH
  start : session.packetRef.position = 0
  limit : session.packetRef.limit = MAXPACK_LENGTH

/-- The session has read the header of a frame and waits for the data unit and the
check byte, which go behind it. -/
structure AtUnit (session : TcpSession) : Prop where
  capacity : session.packetRef.array.length = MAXPACK_LENGTH
  start : session.packetRef.position = DataPacketHeader.size
  limit : session.packetRef.limit = MAXPACK_LENGTH
  counted : session.dataUnitLen = DataPacketHeader.dataUnitLength session.packetRef.array
  named : session.vin ≠ Constant.vinInital

/-- Only the data of allowed vehicles is uploaded in a compliance test. -/
def admits (settings : Settings) (vin : List UInt8) : Bool :=
  settings.mode == some .release || settings.vinAllowedArray.contains vin

/-- The part of `readHeaderHandler`, `readDataUnitHandler` and `writeHandler` that
removes the session's entry on an error. -/
def eraseEntry (session : TcpSession) (table : SessionTable Session) : SessionTable Session :=
  if session.vin = Constant.vinInital then table else table.erase session.vin

/-- `readTimeoutHandler` without an error; the socket is closed as well. -/
def readTimeoutHandler (session : TcpSession) : TcpSession := { session with quit := true }

def headerVin (session : TcpSession) : List UInt8 := DataPacketHeader.vin session.packetRef.array

def cmdId (session : TcpSession) : UInt8 := DataPacketHeader.cmdId session.packetRef.array

section Handlers

variable [ByteBufferApi] {Session : Type}

def readHeader (session : TcpSession) : TcpSession :=
  { session with packetRef := ByteBufferApi.allocate MAXPACK_LENGTH }

/-- A `TcpSession` as `startAccept` makes it, after its first `readHeader`. -/
def accepted : TcpSession :=
  ⟨ByteBufferApi.allocate MAXPACK_LENGTH, 0, Constant.vinInital, false⟩

theorem readHeader_atHeader [LawfulByteBuffer] (session : TcpSession) : session.readHeader.AtHeader :=
  have ⟨capacity, start, limit⟩ := LawfulByteBuffer.allocate_fresh MAXPACK_LENGTH
  ⟨capacity, start, limit⟩

theorem accepted_atHeader [LawfulByteBuffer] : accepted.AtHeader := readHeader_atHeader accepted

/-- `readHeaderHandler` on a header that has been read, up to `readDataUnit`. -/
def readHeaderHandler (settings : Settings) (session : TcpSession) (table : SessionTable Session) :
    Handled Session :=
  match ByteBufferApi.setPosition session.packetRef DataPacketHeader.size with
  | .error _ => .stopped session table
  | .ok packetRef =>
    let session := { session with
      packetRef
      vin := if session.vin = Constant.vinInital then session.headerVin else session.vin }
    if admits settings session.vin then
      ⟨{ session with dataUnitLen := DataPacketHeader.dataUnitLength packetRef.array }, table,
        some .dataUnit, none, none⟩
    else .stopped session table

theorem readHeaderHandler_table (settings : Settings) (session : TcpSession)
    (table : SessionTable Session) : (session.readHeaderHandler settings table).table = table := by
  unfold readHeaderHandler
  split
  · rfl
  · dsimp only
    split <;> split <;> rfl

def limited (session : TcpSession) : Except String TcpSession :=
  (ByteBufferApi.setLimit session.packetRef
    (session.packetRef.position + (session.dataUnitLen + 1))).map fun packetRef =>
      { session with packetRef }

def afterParse (session : TcpSession) (table : SessionTable Session) :
    Except Exception (Parsed Session) → Handled Session
  | .error _ => .stopped session table
  | .ok parsed =>
    if parsed.session.quit then ⟨parsed.session, parsed.table, none, parsed.packet, parsed.written⟩
    else ⟨parsed.session.readHeader, parsed.table, some .header, parsed.packet, parsed.written⟩

/-- `readDataUnitHandler` on a data unit and check byte that have been read, up to
the puts into the queues and the next `readHeader`; `none` if it never returns. -/
def readDataUnitHandler (self : Session) (session : TcpSession) (table : SessionTable Session) :
    Option (Handled Session) :=
  match session.limited with
  | .error _ => some (.stopped session table)
  | .ok session => (parseDataUnit self session table).map (session.afterParse table)

theorem afterParse_table (session : TcpSession) (table : SessionTable Session)
    (parsed : Parsed Session) : (session.afterParse table (.ok parsed)).table = parsed.table := by
  unfold afterParse
  dsimp only
  split <;> rfl

theorem afterParse_output (session : TcpSession) (table : SessionTable Session)
    (parsed : Parsed Session) : (session.afterParse table (.ok parsed)).packet = parsed.packet ∧
      (session.afterParse table (.ok parsed)).written = parsed.written := by
  unfold afterParse
  dsimp only
  split <;> exact ⟨rfl, rfl⟩

theorem afterParse_stays (session : TcpSession) (table : SessionTable Session)
    {parsed : Parsed Session} (stays : parsed.session.quit = false) :
    session.afterParse table (.ok parsed) =
      ⟨parsed.session.readHeader, parsed.table, some .header, parsed.packet, parsed.written⟩ :=
  if_neg (by rw [stays]; exact Bool.noConfusion)

theorem afterParse_ended (session : TcpSession) (table : SessionTable Session)
    {parsed : Parsed Session} (quit : parsed.session.quit = true) :
    session.afterParse table (.ok parsed) =
      ⟨parsed.session, parsed.table, none, parsed.packet, parsed.written⟩ := if_pos quit

/-- Everything that `readDataUnitHandler` can leave behind. -/
inductive UnitHandled (self : Session) (session : TcpSession) (table : SessionTable Session) :
    Handled Session → Prop where
  | overrun (beyond : session.limited = .error what) :
      UnitHandled self session table (.stopped session table)
  | rejected (within : session.limited = .ok whole)
      (refused : parseDataUnit self whole table = some (.error exception)) :
      UnitHandled self session table (.stopped whole table)
  | ended (within : session.limited = .ok whole)
      (accepted : parseDataUnit self whole table = some (.ok parsed))
      (quit : parsed.session.quit = true) :
      UnitHandled self session table
        ⟨parsed.session, parsed.table, none, parsed.packet, parsed.written⟩
  | continues (within : session.limited = .ok whole)
      (accepted : parseDataUnit self whole table = some (.ok parsed))
      (stays : parsed.session.quit = false) :
      UnitHandled self session table
        ⟨parsed.session.readHeader, parsed.table, some .header, parsed.packet, parsed.written⟩

theorem readDataUnitHandler_cases {self : Session} {session : TcpSession}
    {table : SessionTable Session} {outcome : Handled Session}
    (handled : session.readDataUnitHandler self table = some outcome) :
    UnitHandled self session table outcome := by
  unfold readDataUnitHandler at handled
  split at handled
  · rename_i beyond
    cases handled
    exact .overrun beyond
  · rename_i whole within
    obtain ⟨result, parsing, same⟩ := Option.map_eq_some_iff.mp handled
    subst same
    cases result with
    | error exception => exact .rejected within parsing
    | ok parsed =>
      unfold afterParse
      dsimp only
      split
      · rename_i quit
        exact .ended within parsing quit
      · rename_i stays
        exact .continues within parsing (Bool.eq_false_iff.mpr stays)

end Handlers

end TcpSession

end MotorInfoUpload
