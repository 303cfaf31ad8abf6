import MotorInfoUpload.Machine.Run
import MotorInfoUpload.Session.Handlers
import Mathlib.Logic.Function.Basic

/-! The vehicle service: any number of sessions, their reads, timers and writes in
any order, and the table that maps VINs to sessions. -/

namespace MotorInfoUpload

open Machine

/-- The read of a session: outstanding, or completed and waiting for its handler. -/
inductive ReadState where
  | idle
  | waiting (reading : Reading)
  | arrived (reading : Reading) (bytes : List UInt8)
  | broken (reading : Reading)
deriving DecidableEq

/-- A session with what `asio` holds for it: its read, whether its timer is armed,
how many expiries wait for `readTimeoutHandler`, and how many writes are pending. -/
structure Connection where
  session : TcpSession
  read : ReadState
  closed : Bool
  armed : Bool
  expired : Nat
  writes : Nat
deriving DecidableEq

/-- The service. `current` is no part of the program: it names, for each VIN, the
session that handled the last login carrying it, until that session ends or logs out. -/
structure Server (Id : Type) where
  sessions : Id → Option Connection
  table : SessionTable Id
  current : List UInt8 → Option Id

/-- What can happen next in the service. -/
inductive ServiceEvent (Id : Type) where
  | accept (id : Id)
  | arrive (id : Id) (bytes : List UInt8)
  | breaks (id : Id)
  | handle (id : Id)
  | expire (id : Id)
  | timeout (id : Id)
  | respond (vin : List UInt8)
  | writeDone (id : Id)
  | writeFailed (id : Id)

def Connection.expected (connection : Connection) : Reading → Nat
  | .header => DataPacketHeader.size
  | .dataUnit => connection.session.dataUnitLen + 1

/-- The connection after a handler: the timer was cancelled and is armed again with
the next read. -/
def Connection.after {Id : Type} (connection : Connection) (handled : Handled Id) : Connection where
  session := handled.session
  read := match handled.reading with
    | some reading => .waiting reading
    | none => .idle
  closed := connection.closed
  armed := handled.reading.isSome
  expired := connection.expired
  writes := connection.writes + (if handled.written.isSome then 1 else 0)

variable {Id : Type} [DecidableEq Id]

namespace Server

def initial (Id : Type) : Server Id := ⟨fun _ => none, SessionTable.empty, fun _ => none⟩

def put (server : Server Id) (id : Id) (connection : Connection) : Server Id :=
  { server with sessions := Function.update server.sessions id (some connection) }

/-- No VIN is current for a session that has ended or logged out. -/
def forget (current : List UInt8 → Option Id) (id : Id) : List UInt8 → Option Id :=
  fun vin => if current vin = some id then none else current vin

def remember (current : List UInt8 → Option Id) (id : Id) (carried : List UInt8) :
    List UInt8 → Option Id :=
  fun vin => if vin = carried then some id else current vin

variable [ByteBufferApi]

/-- The session with a whole frame in its packet buffer, when the bytes of the
second read have been stored. -/
def framed (connection : Connection) (bytes : List UInt8) : Option TcpSession :=
  (connection.session.packetRef.receive connection.session.packetRef.position bytes).map
    fun packetRef => { connection.session with packetRef }

/-- The frame that a session has read whole and is about to handle. -/
def whole (connection : Connection) : Option TcpSession :=
  match connection.read with
  | .arrived .dataUnit bytes => (framed connection bytes).bind fun session =>
    session.limited.toOption
  | _ => none

/-- What a handled frame does to `current`. -/
def noted (server : Server Id) (id : Id) (session : TcpSession) : List UInt8 → Option Id :=
  match session.limited with
  | .error _ => server.current
  | .ok session => match parseDataUnit id session server.table with
    | some (.ok _) =>
      if session.cmdId = CmdCode.vehicleLogin.value then
        remember server.current id session.headerVin
      else if session.cmdId = CmdCode.vehicleLogout.value then forget server.current id
      else server.current
    | _ => server.current

/-- The completion handler of the read of a session. -/
def handleRead (settings : Settings) (server : Server Id) (id : Id) (connection : Connection) :
    Option (Server Id) :=
  match connection.read with
  | .idle | .waiting _ => none
  | .broken _ => some { server.put id (connection.after
      (Handled.stopped connection.session server.table)) with
    table := connection.session.eraseEntry server.table
    current := forget server.current id }
  | .arrived .header bytes => (connection.session.packetRef.receive 0 bytes).map fun packetRef =>
    let handled := { connection.session with packetRef }.readHeaderHandler settings server.table
    { server.put id (connection.after handled) with table := handled.table }
  | .arrived .dataUnit bytes => (framed connection bytes).bind fun session =>
    (session.readDataUnitHandler id server.table).map fun handled =>
      { server.put id (connection.after handled) with
        table := handled.table
        current := server.noted id session }

def step (settings : Settings) (server : Server Id) : ServiceEvent Id → Option (Server Id)
  | .accept id => match server.sessions id with
    | some _ => none
    | none => some (server.put id ⟨.accepted, .waiting .header, false, true, 0, 0⟩)
  | .arrive id bytes => (server.sessions id).bind fun connection => match connection.read with
    | .waiting reading =>
      if connection.closed = false ∧ bytes.length = connection.expected reading then
        some (server.put id { connection with read := .arrived reading bytes })
      else none
    | _ => none
  | .breaks id => (server.sessions id).bind fun connection => match connection.read with
    | .waiting reading => some (server.put id { connection with read := .broken reading })
    | _ => none
  | .handle id => (server.sessions id).bind fun connection =>
    server.handleRead settings id connection
  | .expire id => (server.sessions id).bind fun connection =>
    if connection.armed then
      some (server.put id { connection with armed := false, expired := connection.expired + 1 })
    else none
  | .timeout id => (server.sessions id).bind fun connection =>
    if 0 < connection.expired then
      some (server.put id { connection with
        session := connection.session.readTimeoutHandler
        closed := true
        expired := connection.expired - 1 })
    else none
  | .respond vin => (server.table vin).bind fun id => (server.sessions id).map fun connection =>
    server.put id { connection with writes := connection.writes + 1 }
  | .writeDone id => (server.sessions id).bind fun connection =>
    if 0 < connection.writes then
      some (server.put id { connection with writes := connection.writes - 1 })
    else none
  | .writeFailed id => (server.sessions id).bind fun connection =>
    if 0 < connection.writes then
      some { server.put id { connection with writes := connection.writes - 1 } with
        table := connection.session.eraseEntry server.table }
    else none

end Server

variable [ByteBufferApi]

def vehicleService (Id : Type) [DecidableEq Id] (settings : Settings) :
    Automaton (Server Id) (ServiceEvent Id) where
  start server := server = .initial Id
  step := Server.step settings

def logsIn (id : Nat) : List (ServiceEvent Nat) :=
  [.accept id, .arrive id ((sampleFrame .vehicleLogin).take 24), .handle id,
    .arrive id ((sampleFrame .vehicleLogin).drop 24), .handle id]

def sampleVin : List UInt8 := List.replicate 17 65

end MotorInfoUpload
