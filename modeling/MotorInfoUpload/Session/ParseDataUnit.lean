import MotorInfoUpload.ByteBuffer
import MotorInfoUpload.DataFormat

namespace MotorInfoUpload

/-- `resource::SessionTable_t`, a `std::map` from VIN to session. -/
abbrev SessionTable (Session : Type) := List UInt8 → Option Session

namespace SessionTable

variable {Session : Type}

def empty : SessionTable Session := fun _ => none

/-- `std::map::insert`: an entry that is already there stays. -/
def insert (table : SessionTable Session) (vin : List UInt8) (session : Session) :
    SessionTable Session :=
  match table vin with
  | some _ => table
  | none => fun key => if key = vin then some session else table key

def erase (table : SessionTable Session) (vin : List UInt8) : SessionTable Session :=
  fun key => if key = vin then none else table key

end SessionTable

def Constant.vinInital : List UInt8 :=
  [86, 105, 110, 32, 110, 111, 116, 32, 115, 101, 116]

/-- The members of `TcpSession` that its handlers read and write. `m_hdr` points
to the start of `m_packetRef`'s memory while a frame is handled. -/
structure TcpSession where
  packetRef : ByteBuffer
  dataUnitLen : Nat
  vin : List UInt8
  quit : Bool
deriving DecidableEq

/-- What one call of `parseDataUnit` hands back: the returned packet, the
members and the table after it, and the buffer it gave to `write`. -/
structure Parsed (Session : Type) where
  packet : Option ByteBuffer
  session : TcpSession
  table : SessionTable Session
  written : Option ByteBuffer

/-- The two buffers of the filter: `m_packetRef`, which is consumed, and
`rtData`, which is filled. -/
structure Filter where
  packetRef : ByteBuffer
  rtData : ByteBuffer

variable [ByteBufferApi]

namespace Util

def generateBlockCheckCharacterOf (byteBuffer : ByteBuffer) (offset size : Nat) :
    Except Exception UInt8 :=
  if ByteBufferApi.remaining byteBuffer < offset + size then
    .error (.runtime "Util::generateBlockCheckCharacter(): Illegal Argument")
  else generateBlockCheckCharacter
    ((byteBuffer.array.drop (byteBuffer.position + offset)).take size)

end Util

namespace Filter

/-- `rtData->put (*m_packetRef, count)`. -/
def put (count : Nat) (filter : Filter) : Except Exception Filter :=
  match ByteBufferApi.putBuffer filter.rtData filter.packetRef count with
  | .ok (rtData, packetRef) => .ok ⟨packetRef, rtData⟩
  | .error what => .error (.byteBuffer what)

def movePosition (count : Nat) (filter : Filter) : Except Exception Filter :=
  match ByteBufferApi.movePosition filter.packetRef count false with
  | .ok packetRef => .ok { filter with packetRef }
  | .error what => .error (.byteBuffer what)

def get (filter : Filter) : Except Exception (UInt8 × Filter) :=
  match ByteBufferApi.get filter.packetRef with
  | .ok (byte, packetRef) => .ok (byte, { filter with packetRef })
  | .error what => .error (.byteBuffer what)

/-- `m_packetRef->get (m_packetRef->position ())`, which does not move. -/
def peek (filter : Filter) : Except Exception UInt8 :=
  match ByteBufferApi.getAt filter.packetRef filter.packetRef.position with
  | .ok byte => .ok byte
  | .error what => .error (.byteBuffer what)

def getShort (filter : Filter) : Except Exception (Nat × Filter) :=
  match ByteBufferApi.getShort filter.packetRef with
  | .ok (value, packetRef) => .ok ((ntohs value).toNat, { filter with packetRef })
  | .error what => .error (.byteBuffer what)

/-- One of the four fault lists of an alarm block: its count and the codes. -/
def putFaults (filter : Filter) : Except Exception Filter := do
  let n ← filter.peek
  let n := if n = 0xff ∨ n = 0xfe then 0 else n.toNat
  filter.put (1 + n * 4)

def putAlarm (filter : Filter) : Except Exception Filter := do
  let filter ← filter.put 6
  let filter ← filter.putFaults
  let filter ← filter.putFaults
  let filter ← filter.putFaults
  filter.putFaults

/-- The check of a subsystem count, the same for voltage and temperature but
for its message. -/
def subsystemNumber (message : String) (sysn : UInt8) : Except Exception Nat :=
  if sysn = 0xff ∨ sysn = 0xfe then .ok 0
  else if sysn.toNat < 1 ∨ 250 < sysn.toNat then
    .error (.runtime (message ++ toString sysn.toNat))
  else .ok sysn.toNat

def skipVoltage (filter : Filter) : Except Exception Filter := do
  let filter ← filter.movePosition 9
  let (m, filter) ← filter.get
  if m.toNat < 1 ∨ 200 < m.toNat then
    throw (.runtime ("invalid 本帧单体电池总数: " ++ toString m.toNat))
  filter.movePosition (2 * m.toNat)

/-- The loop over voltage subsystems; its bound does not change in it. -/
def skipVoltages : Nat → Filter → Except Exception Filter
  | 0, filter => .ok filter
  | rounds + 1, filter => do
    let filter ← filter.skipVoltage
    skipVoltages rounds filter

def skipVoltageBlock (filter : Filter) : Except Exception Filter := do
  let filter ← filter.movePosition 1
  let (sysn, filter) ← filter.get
  let sysn ← subsystemNumber "invalid 可充电储能电压子系统个数: " sysn
  skipVoltages sysn filter

/-- The loop over temperature subsystems from index `i`. A marked probe number
sets `sysn`, the bound of this very loop, to zero. `rounds` is the bound the loop
started with less `i`, so it runs out only when `i` has reached `sysn`. -/
def skipTemperatures : Nat → Nat → Nat → Filter → Except Exception Filter
  | 0, _, _, filter => .ok filter
  | rounds + 1, i, sysn, filter =>
    if i < sysn then do
      let filter ← filter.movePosition 1
      let (m, filter) ← filter.getShort
      if m = 0xffff ∨ m = 0xfffe then
        let filter ← filter.movePosition m
        skipTemperatures rounds (i + 1) 0 filter
      else if m < 1 ∨ 65531 < m then
        throw (.runtime ("invalid 可充电储能温度探针个数: " ++ toString m))
      else
        let filter ← filter.movePosition m
        skipTemperatures rounds (i + 1) sysn filter
    else .ok filter

def skipTemperatureBlock (filter : Filter) : Except Exception Filter := do
  let filter ← filter.movePosition 1
  let (sysn, filter) ← filter.get
  let sysn ← subsystemNumber "invalid 可充电储能温度子系统个数: " sysn
  skipTemperatures sysn 0 sysn filter

open VehicleDataStructInfo in
def switch (typ : UInt8) (filter : Filter) : Except Exception Filter :=
  if typ = CBV_typeCode then filter.put (CBV_size + 1)
  else if typ = DM_typeCode then filter.put (DM_size + 1)
  else if typ = L_typeCode then filter.put (L_size + 1)
  else if typ = EV_typeCode then filter.put (EV_size + 1)
  else if typ = A_typeCode then filter.putAlarm
  else if typ = RESV_typeCode then filter.skipVoltageBlock
  else if typ = REST_typeCode then filter.skipTemperatureBlock
  else .error (.runtime ("invalid info type code: " ++ toString typ.toNat))

def block (filter : Filter) : Except Exception Filter := do
  let typ ← filter.peek
  filter.switch typ

/-- The loop `for (; m_packetRef->remaining () > 1;)`, cut off after `fuel`
rounds: `none` means that it has not ended by then. -/
def blocks : Nat → Filter → Option (Except Exception Filter)
  | fuel, filter =>
    if 1 < ByteBufferApi.remaining filter.packetRef then
      match fuel with
      | 0 => none
      | fuel + 1 => match filter.block with
        | .error exception => some (.error exception)
        | .ok filter => blocks fuel filter
    else some (.ok filter)

/-- The two puts before the loop: the header and the six time bytes. -/
def begin (packetRef : ByteBuffer) : Except Exception Filter :=
  match ByteBufferApi.putArray (ByteBufferApi.allocate packetRef.capacity) packetRef.array 0
      DataPacketHeader.size with
  | .error what => .error (.byteBuffer what)
  | .ok rtData => Filter.put TimeForward.size ⟨packetRef, rtData⟩

/-- What follows the `try` block: the check that exactly the check byte is
left, the new length, the new check code and the flip. -/
def finish (filter : Filter) : Except Exception ByteBuffer := do
  if ByteBufferApi.remaining filter.packetRef ≠ 1 then
    throw (.runtime
      "invalid packet format: m_packetRef->remaining expect to be 1 after parse data unit")
  let newDataUnitLength := UInt16.ofNat (filter.rtData.position - DataPacketHeader.size)
  let rtData := filter.rtData.withArray
    (DataPacketHeader.setDataUnitLength filter.rtData.array newDataUnitLength)
    DataPacketHeader.setDataUnitLength_length
  let checkCode ← Util.generateBlockCheckCharacter
    ((rtData.array.drop 2).take (rtData.position - 2))
  match ByteBufferApi.put rtData checkCode with
  | .ok rtData => return ByteBufferApi.flip rtData
  | .error what => throw (.byteBuffer what)

/-- The handler of the `try` block: a `ByteBufferException` becomes a
`runtime_error`, any other exception passes. -/
def rethrow : Exception → Exception
  | .byteBuffer what => .runtime ("invalid packet format: " ++ what)
  | exception => exception

end Filter

def parseUpload (fuel : Nat) (packetRef : ByteBuffer) : Option (Except Exception ByteBuffer) :=
  match Filter.begin packetRef with
  | .error exception => some (.error (Filter.rethrow exception))
  | .ok filter => (filter.blocks fuel).map fun ended => match ended with
    | .error exception => .error (Filter.rethrow exception)
    | .ok filter => filter.finish

/-- The branch of `parseDataUnit` for a heartbeat: the frame itself becomes the
reply. -/
def replyHeartBeat (session : TcpSession) : Except Exception ByteBuffer := do
  if ByteBufferApi.remaining session.packetRef = 1 ∧ session.dataUnitLen = 0 then
    let packetRef := session.packetRef.withArray
      (DataPacketHeader.setResponseFlag session.packetRef.array .success)
      DataPacketHeader.setResponseFlag_length
    let bcc ← Util.generateBlockCheckCharacter
      ((packetRef.array.drop 2).take (DataPacketHeader.size - 2))
    match ByteBufferApi.put packetRef bcc with
    | .ok packetRef => return ByteBufferApi.flip packetRef
    | .error what => throw (.byteBuffer what)
  else throw (.runtime "invalid packet format")

def rewindPacket (packetRef : ByteBuffer) : Except Exception ByteBuffer :=
  match ByteBufferApi.setPosition packetRef 0 with
  | .ok packetRef => .ok packetRef
  | .error what => .error (.byteBuffer what)

/-- `TcpSession::parseDataUnit` of the session `self`; `none` means that its
loop has not ended after `fuel` rounds. -/
def parseDataUnitWithin (fuel : Nat) (self : Session) (session : TcpSession)
    (table : SessionTable Session) : Option (Except Exception (Parsed Session)) :=
  if session.packetRef.position ≠ DataPacketHeader.size then some (.error .assertion)
  else
    let cmdId := DataPacketHeader.cmdId session.packetRef.array
    if cmdId = CmdCode.reissueUpload.value ∨ cmdId = CmdCode.realtimeUpload.value then
      (parseUpload fuel session.packetRef).map fun parsed => parsed.map fun rtData =>
        ⟨some rtData, session, table, none⟩
    else if cmdId = CmdCode.vehicleLogin.value then
      some ((rewindPacket session.packetRef).map fun packetRef =>
        ⟨some packetRef, { session with packetRef }, table.insert session.vin self, none⟩)
    else if cmdId = CmdCode.vehicleLogout.value then
      some ((rewindPacket session.packetRef).map fun packetRef =>
        ⟨some packetRef, { session with packetRef, quit := true }, table.erase session.vin, none⟩)
    else if cmdId = CmdCode.heartBeat.value then
      some ((replyHeartBeat session).map fun packetRef =>
        ⟨none, { session with packetRef }, table, some packetRef⟩)
    else some (.error (.runtime ("invalid cmd id: " ++ toString cmdId.toNat)))

/-- `TcpSession::parseDataUnit`. Every round of its loop consumes a byte, so the
bytes left in the packet bound the rounds. -/
def parseDataUnit (self : Session) (session : TcpSession) (table : SessionTable Session) :
    Option (Except Exception (Parsed Session)) :=
  parseDataUnitWithin session.packetRef.window.length self session table

end MotorInfoUpload
