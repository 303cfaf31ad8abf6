import MotorInfoUpload.Session.Server
import MotorInfoUpload.Session.Laundering

namespace MotorInfoUpload

open Machine

def ReadState.reading : ReadState → Option Reading
  | .idle => none
  | .waiting reading | .arrived reading _ | .broken reading => some reading

variable {Id : Type} [DecidableEq Id] [ByteBufferApi]

namespace Server

omit [ByteBufferApi] in
theorem put_same (server : Server Id) (id : Id) (connection : Connection) :
    (server.put id connection).sessions id = some connection := Function.update_self ..

omit [ByteBufferApi] in
theorem put_other {id other : Id} {server : Server Id} {connection : Connection}
    (different : other ≠ id) : (server.put id connection).sessions other = server.sessions other :=
  Function.update_of_ne different ..

omit [DecidableEq Id] in
/-- What the handler of a whole frame leaves behind. -/
def handled (server : Server Id) (id : Id) : Option (Handled Id) :=
  (server.sessions id).bind fun connection => match connection.read with
    | .arrived .dataUnit bytes => (framed connection bytes).bind fun session =>
      session.readDataUnitHandler id server.table
    | _ => none

omit [DecidableEq Id] in
theorem handled_iff {server : Server Id} {id : Id} : server.handled id = some outcome ↔
    ∃ connection bytes session, server.sessions id = some connection ∧
      connection.read = .arrived .dataUnit bytes ∧ framed connection bytes = some session ∧
      session.readDataUnitHandler id server.table = some outcome := by
  constructor
  · intro handled
    obtain ⟨connection, found, rest⟩ := Option.bind_eq_some_iff.mp handled
    split at rest
    · rename_i bytes arrived
      obtain ⟨session, framed, result⟩ := Option.bind_eq_some_iff.mp rest
      exact ⟨connection, bytes, session, found, arrived, framed, result⟩
    · cases rest
  · rintro ⟨connection, bytes, session, found, arrived, framed, result⟩
    simp [handled, found, arrived, framed, result]

omit [DecidableEq Id] in
theorem whole_iff {connection : Connection} {session : TcpSession} : whole connection = some session ↔
    ∃ bytes read, connection.read = .arrived .dataUnit bytes ∧ framed connection bytes = some read ∧
      read.limited = .ok session := by
  constructor
  · intro taken
    unfold whole at taken
    split at taken
    · rename_i bytes arrived
      obtain ⟨read, framed, rest⟩ := Option.bind_eq_some_iff.mp taken
      cases limited : read.limited with
      | error what =>
        rw [limited] at rest
        cases rest
      | ok limit =>
        rw [limited] at rest
        cases rest
        exact ⟨bytes, read, arrived, framed, limited⟩
    · cases taken
  · rintro ⟨bytes, read, arrived, framed, limited⟩
    simp [whole, arrived, framed, limited, Except.toOption]

omit [DecidableEq Id] in
def puts (server : Server Id) : ServiceEvent Id → Option ByteBuffer
  | .handle id => (server.handled id).bind Handled.packet
  | _ => none

inductive Move (settings : Settings) (before : Server Id) : ServiceEvent Id → Server Id → Prop where
  | accepted {id : Id} (absent : before.sessions id = none) :
      Move settings before (.accept id)
        (before.put id ⟨.accepted, .waiting .header, false, true, 0, 0⟩)
  | arrived {id : Id} (found : before.sessions id = some connection)
      (waiting : connection.read = .waiting reading) (opened : connection.closed = false)
      (size : bytes.length = connection.expected reading) :
      Move settings before (.arrive id bytes)
        (before.put id { connection with read := .arrived reading bytes })
  | broke {id : Id} (found : before.sessions id = some connection)
      (waiting : connection.read = .waiting reading) :
      Move settings before (.breaks id)
        (before.put id { connection with read := .broken reading })
  | ended {id : Id} (found : before.sessions id = some connection)
      (broken : connection.read = .broken reading) :
      Move settings before (.handle id)
        { before.put id (connection.after (.stopped connection.session before.table)) with
          table := connection.session.eraseEntry before.table
          current := forget before.current id }
  | header {id : Id} (found : before.sessions id = some connection)
      (arrived : connection.read = .arrived .header bytes)
      (stored : connection.session.packetRef.receive 0 bytes = some packetRef)
      (result : { connection.session with packetRef }.readHeaderHandler settings before.table =
        outcome) :
      Move settings before (.handle id)
        { before.put id (connection.after outcome) with table := outcome.table }
  | unit {id : Id} (found : before.sessions id = some connection)
      (arrived : connection.read = .arrived .dataUnit bytes)
      (framed : framed connection bytes = some session)
      (result : session.readDataUnitHandler id before.table = some outcome) :
      Move settings before (.handle id)
        { before.put id (connection.after outcome) with
          table := outcome.table
          current := before.noted id session }
  | expired {id : Id} (found : before.sessions id = some connection) (armed : connection.armed = true) :
      Move settings before (.expire id)
        (before.put id { connection with armed := false, expired := connection.expired + 1 })
  | timedOut {id : Id} (found : before.sessions id = some connection) (due : 0 < connection.expired) :
      Move settings before (.timeout id)
        (before.put id { connection with
          session := connection.session.readTimeoutHandler
          closed := true
          expired := connection.expired - 1 })
  | responded {id : Id} (named : before.table vin = some id)
      (found : before.sessions id = some connection) :
      Move settings before (.respond vin)
        (before.put id { connection with writes := connection.writes + 1 })
  | written {id : Id} (found : before.sessions id = some connection) (pending : 0 < connection.writes) :
      Move settings before (.writeDone id)
        (before.put id { connection with writes := connection.writes - 1 })
  | failed {id : Id} (found : before.sessions id = some connection) (pending : 0 < connection.writes) :
      Move settings before (.writeFailed id)
        { before.put id { connection with writes := connection.writes - 1 } with
          table := connection.session.eraseEntry before.table }

theorem step_cases {settings : Settings} {before after : Server Id} {event : ServiceEvent Id}
    (stepped : before.step settings event = some after) : Move settings before event after := by
  cases event with
  | accept id =>
    simp only [step] at stepped
    split at stepped
    · cases stepped
    · rename_i absent
      cases stepped
      exact .accepted absent
  | arrive id bytes =>
    obtain ⟨connection, found, rest⟩ := Option.bind_eq_some_iff.mp stepped
    split at rest
    · rename_i reading waiting
      split at rest
      · rename_i able
        cases rest
        exact .arrived found waiting able.1 able.2
      · cases rest
    · cases rest
  | breaks id =>
    obtain ⟨connection, found, rest⟩ := Option.bind_eq_some_iff.mp stepped
    split at rest
    · rename_i reading waiting
      cases rest
      exact .broke found waiting
    · cases rest
  | handle id =>
    obtain ⟨connection, found, rest⟩ := Option.bind_eq_some_iff.mp stepped
    unfold handleRead at rest
    split at rest
    · cases rest
    · cases rest
    · rename_i reading broken
      cases rest
      exact .ended found broken
    · rename_i bytes arrived
      obtain ⟨packetRef, stored, same⟩ := Option.map_eq_some_iff.mp rest
      cases same
      exact .header found arrived stored rfl
    · rename_i bytes arrived
      obtain ⟨session, framed, further⟩ := Option.bind_eq_some_iff.mp rest
      obtain ⟨outcome, result, same⟩ := Option.map_eq_some_iff.mp further
      cases same
      exact .unit found arrived framed result
  | expire id =>
    obtain ⟨connection, found, rest⟩ := Option.bind_eq_some_iff.mp stepped
    split at rest
    · rename_i armed
      cases rest
      exact .expired found armed
    · cases rest
  | timeout id =>
    obtain ⟨connection, found, rest⟩ := Option.bind_eq_some_iff.mp stepped
    split at rest
    · rename_i due
      cases rest
      exact .timedOut found due
    · cases rest
  | respond vin =>
    obtain ⟨id, named, rest⟩ := Option.bind_eq_some_iff.mp stepped
    obtain ⟨connection, found, same⟩ := Option.map_eq_some_iff.mp rest
    cases same
    exact .responded named found
  | writeDone id =>
    obtain ⟨connection, found, rest⟩ := Option.bind_eq_some_iff.mp stepped
    split at rest
    · rename_i pending
      cases rest
      exact .written found pending
    · cases rest
  | writeFailed id =>
    obtain ⟨connection, found, rest⟩ := Option.bind_eq_some_iff.mp stepped
    split at rest
    · rename_i pending
      cases rest
      exact .failed found pending
    · cases rest

end Server

/-- What holds of a session between its handlers: the packet buffer of an outstanding
read stands where the bytes are stored, a completed read has brought what it asked for,
and a session that goes on reading is of an admitted vehicle. -/
structure Connection.Sound (settings : Settings) (connection : Connection) : Prop where
  header : connection.read.reading = some .header → connection.session.AtHeader
  unit : connection.read.reading = some .dataUnit → connection.session.AtUnit
  whole : connection.read = .arrived reading bytes → bytes.length = connection.expected reading
  admitted : connection.read ≠ .idle → connection.session.vin ≠ Constant.vinInital →
    TcpSession.admits settings connection.session.vin = true

/-- Every session of the service is sound. -/
def Server.Sound (settings : Settings) (server : Server Id) : Prop :=
  ∀ id connection, server.sessions id = some connection → connection.Sound settings

section Sound

variable {settings : Settings} {server : Server Id} {connection : Connection} {id : Id}

omit [DecidableEq Id] [ByteBufferApi] in
theorem Connection.Sound.stopped (idle : connection.read = .idle) : connection.Sound settings where
  header reads := by rw [idle] at reads; cases reads
  unit reads := by rw [idle] at reads; cases reads
  whole arrived := by rw [idle] at arrived; cases arrived
  admitted reads := absurd idle reads

omit [DecidableEq Id] [ByteBufferApi] in
theorem Connection.Sound.kept {other : Connection} (sound : connection.Sound settings)
    (read : other.read = connection.read)
    (packetRef : other.session.packetRef = connection.session.packetRef)
    (dataUnitLen : other.session.dataUnitLen = connection.session.dataUnitLen)
    (vin : other.session.vin = connection.session.vin) : other.Sound settings where
  header reads := by
    obtain ⟨capacity, start, limit⟩ := sound.header (read ▸ reads)
    exact ⟨packetRef ▸ capacity, packetRef ▸ start, packetRef ▸ limit⟩
  unit reads := by
    obtain ⟨capacity, start, limit, counted, named⟩ := sound.unit (read ▸ reads)
    exact ⟨packetRef ▸ capacity, packetRef ▸ start, packetRef ▸ limit,
      by rw [dataUnitLen, packetRef, counted], vin ▸ named⟩
  whole {reading bytes} arrived := by
    rw [sound.whole (read ▸ arrived)]
    cases reading with
    | header => rfl
    | dataUnit => rw [Connection.expected, Connection.expected, dataUnitLen]
  admitted reads named := by
    rw [vin] at named ⊢
    exact sound.admitted (read ▸ reads) named

omit [ByteBufferApi] in
theorem Server.Sound.put (sound : server.Sound settings) (added : connection.Sound settings) :
    (server.put id connection).Sound settings := by
  intro other found present
  by_cases here : other = id
  · subst here
    rw [put_same] at present
    exact Option.some.inj present ▸ added
  · rw [put_other here] at present
    exact sound other found present

variable [LawfulByteBuffer]

omit [DecidableEq Id] [ByteBufferApi] [LawfulByteBuffer] in
/-- What the handler of a header leaves behind: a session of an admitted vehicle that
waits for the rest of the frame, or one that has stopped. -/
inductive HeaderHandled (settings : Settings) (session : TcpSession) (bytes : List UInt8)
    (table : SessionTable Id) : Handled Id → Prop where
  | admitted (allowed : TcpSession.admits settings (session.vinAfter bytes) = true)
      (standing : (session.waiting bytes positioned).AtUnit)
      (header : positioned.array.take DataPacketHeader.size = bytes) :
      HeaderHandled settings session bytes table
        ⟨session.waiting bytes positioned, table, some .dataUnit, none, none⟩
  | refused (refused : ¬ TcpSession.admits settings (session.vinAfter bytes) = true)
      (vin : stopped.vin = session.vinAfter bytes) :
      HeaderHandled settings session bytes table (.stopped stopped table)

omit [DecidableEq Id] in
theorem Connection.Sound.headerHandled {bytes : List UInt8} {packetRef : ByteBuffer}
    (table : SessionTable Id) (sound : connection.Sound settings)
    (arrived : connection.read = .arrived .header bytes)
    (stored : connection.session.packetRef.receive 0 bytes = some packetRef) :
    HeaderHandled settings connection.session bytes table
      ({ connection.session with packetRef }.readHeaderHandler settings table) := by
  have reads : connection.read.reading = some .header := by rw [arrived]; rfl
  have size : bytes.length = DataPacketHeader.size := sound.whole arrived
  obtain ⟨filled, received, capacity, limit, header⟩ := (sound.header reads).stored size
  cases Option.some.inj (received.symm.trans stored)
  have inside : DataPacketHeader.size ≤ packetRef.limit := by rw [limit]; decide
  have taken : packetRef.array.take DataPacketHeader.size = bytes.take DataPacketHeader.size := by
    rw [header, List.take_of_length_le (Nat.le_of_eq size)]
  rw [connection.session.readHeaderHandler_eq table inside taken]
  split
  · rename_i allowed
    exact .admitted allowed (connection.session.waiting_atUnit (Nat.le_of_eq size.symm) capacity rfl
      limit taken) header
  · rename_i refused
    exact .refused refused rfl

omit [DecidableEq Id] [LawfulByteBuffer] [ByteBufferApi] in
theorem Connection.Sound.afterHeader {bytes : List UInt8} {table : SessionTable Id}
    {outcome : Handled Id} (connection : Connection)
    (handled : HeaderHandled settings connection.session bytes table outcome) :
    (connection.after outcome).Sound settings := by
  cases handled with
  | admitted allowed standing =>
    exact {
      header := fun other => by cases other
      unit := fun _ => standing
      whole := fun other => by cases other
      admitted := fun _ _ => allowed }
  | refused => exact .stopped rfl

omit [DecidableEq Id] [LawfulByteBuffer] in
theorem parseDataUnit_vin {self : Id} {session : TcpSession} {table : SessionTable Id}
    {parsed : Parsed Id} (accepted : parseDataUnit self session table = some (.ok parsed)) :
    parsed.session.vin = session.vin := by
  cases (parseDataUnit_cases accepted).2 with
  | upload | login | logout | heartBeat => rfl

omit [DecidableEq Id] [LawfulByteBuffer] in
theorem TcpSession.limited_vin {session whole : TcpSession} (within : session.limited = .ok whole) :
    whole.vin = session.vin := by
  unfold TcpSession.limited at within
  cases bounded : ByteBufferApi.setLimit session.packetRef
      (session.packetRef.position + (session.dataUnitLen + 1)) with
  | error what => rw [bounded] at within; cases within
  | ok packetRef =>
    rw [bounded] at within
    cases within
    rfl

omit [DecidableEq Id] in
theorem Connection.Sound.afterUnit {bytes : List UInt8} {session : TcpSession}
    {table : SessionTable Id} {outcome : Handled Id} (sound : connection.Sound settings)
    (arrived : connection.read = .arrived .dataUnit bytes)
    (framed : Server.framed connection bytes = some session)
    (handled : session.readDataUnitHandler self table = some outcome) :
    (connection.after outcome).Sound settings := by
  cases TcpSession.readDataUnitHandler_cases handled with
  | overrun | rejected | ended => exact .stopped rfl
  | @continues whole parsed within accepted stays =>
    obtain ⟨packetRef, stored, same⟩ := Option.map_eq_some_iff.mp framed
    have vin : parsed.session.readHeader.vin = connection.session.vin := by
      change parsed.session.vin = connection.session.vin
      rw [parseDataUnit_vin accepted, TcpSession.limited_vin within, ← same]
    have reads : connection.read ≠ .idle := by rw [arrived]; exact ReadState.noConfusion
    exact {
      header := fun _ => parsed.session.readHeader_atHeader
      unit := fun other => by cases other
      whole := fun other => by cases other
      admitted := fun _ named => by
        have still : parsed.session.readHeader.vin ≠ Constant.vinInital := named
        change TcpSession.admits settings parsed.session.readHeader.vin = true
        rw [vin] at still ⊢
        exact sound.admitted reads still }

/-- Every event of the service keeps its sessions sound. -/
theorem Server.Sound.step {event : ServiceEvent Id} {after : Server Id}
    (sound : server.Sound settings) (stepped : server.step settings event = some after) :
    after.Sound settings := by
  cases Server.step_cases stepped with
  | accepted absent =>
    exact sound.put {
      header := fun _ => TcpSession.accepted_atHeader
      unit := fun other => by cases other
      whole := fun other => by cases other
      admitted := fun _ named => absurd rfl named }
  | @arrived connection reading bytes other found waiting opened size =>
    have old := sound other connection found
    refine sound.put {
      header := fun reads => old.header (by rw [waiting]; exact reads)
      unit := fun reads => old.unit (by rw [waiting]; exact reads)
      whole := fun same => by cases same; exact size
      admitted := fun _ named => old.admitted (by rw [waiting]; exact ReadState.noConfusion) named }
  | @broke connection reading other found waiting =>
    have old := sound other connection found
    exact sound.put {
      header := fun reads => old.header (by rw [waiting]; exact reads)
      unit := fun reads => old.unit (by rw [waiting]; exact reads)
      whole := fun other => by cases other
      admitted := fun _ named => old.admitted (by rw [waiting]; exact ReadState.noConfusion) named }
  | ended found broken => exact sound.put (.stopped rfl)
  | @header connection bytes packetRef outcome other found arrived stored result =>
    exact sound.put (.afterHeader connection
      (result ▸ (sound other connection found).headerHandled server.table arrived stored))
  | @unit connection bytes session outcome other found arrived framed result =>
    exact sound.put ((sound other connection found).afterUnit arrived framed result)
  | @expired connection other found armed | @timedOut connection other found due
  | @responded vin connection other named found | @written connection other found pending
  | @failed connection other found pending =>
    exact sound.put ((sound other connection found).kept rfl rfl rfl rfl)

theorem Server.sound_of_reach {guard : Server Id → ServiceEvent Id → Prop}
    (reach : Reach (vehicleService Id settings) guard server) : server.Sound settings := by
  apply reach.invariant
  · rintro server rfl id connection found
    cases found
  · intro before event after sound _ stepped
    exact sound.step stepped

omit [DecidableEq Id] in
theorem Connection.Sound.wholeRead {session : TcpSession} (sound : connection.Sound settings)
    (whole : Server.whole connection = some session) :
    ∃ bytes, connection.read = .arrived .dataUnit bytes ∧ session.FrameRead ∧
      session.frame = connection.session.packetRef.array.take DataPacketHeader.size ++ bytes ∧
      session = { connection.session with packetRef := session.packetRef } := by
  obtain ⟨bytes, framed, arrived, stored, limited⟩ := Server.whole_iff.mp whole
  obtain ⟨packetRef, received, rfl⟩ := Option.map_eq_some_iff.mp stored
  have reads : connection.read.reading = some .dataUnit := by rw [arrived]; rfl
  obtain ⟨read, bounded, rest⟩ := (sound.unit reads).whole (sound.whole arrived) received
  rw [bounded] at limited
  cases limited
  exact ⟨bytes, arrived, rest⟩

/-- The handler of a read is about to handle a whole frame. -/
structure Server.Takes (server : Server Id) (id : Id) (connection : Connection)
    (bytes : List UInt8) (session : TcpSession) : Prop where
  found : server.sessions id = some connection
  arrived : connection.read = .arrived .dataUnit bytes
  whole : Server.whole connection = some session
  read : session.FrameRead
  frame : session.frame = connection.session.packetRef.array.take DataPacketHeader.size ++ bytes
  same : session = { connection.session with packetRef := session.packetRef }

omit [DecidableEq Id] [LawfulByteBuffer] in
theorem Server.Takes.handled_eq {bytes : List UInt8} {session : TcpSession}
    {parsing : Except Exception (Parsed Id)} (takes : server.Takes id connection bytes session)
    (parse : parseDataUnit id session server.table = some parsing) :
    server.handled id = some (session.afterParse server.table parsing) := by
  obtain ⟨stored, framed, arrived, received, limited⟩ := Server.whole_iff.mp takes.whole
  have result : framed.readDataUnitHandler id server.table =
      some (session.afterParse server.table parsing) := by
    rw [TcpSession.readDataUnitHandler, limited]
    exact congrArg (Option.map _) parse
  exact Server.handled_iff.mpr ⟨connection, stored, framed, takes.found, arrived, received, result⟩

omit [DecidableEq Id] in
theorem Server.Sound.takesWhole {session : TcpSession} (sound : server.Sound settings)
    (found : server.sessions id = some connection) (whole : Server.whole connection = some session) :
    ∃ bytes, server.Takes id connection bytes session := by
  obtain ⟨bytes, arrived, read, frame, same⟩ := (sound id connection found).wholeRead whole
  exact ⟨bytes, found, arrived, whole, read, frame, same⟩

omit [DecidableEq Id] in
/-- A whole frame is handed to `parseDataUnit`, in a packet buffer limited to it. -/
theorem Server.Sound.takes {bytes : List UInt8} {session : TcpSession} {outcome : Handled Id}
    (sound : server.Sound settings) (found : server.sessions id = some connection)
    (arrived : connection.read = .arrived .dataUnit bytes)
    (framed : Server.framed connection bytes = some session)
    (result : session.readDataUnitHandler id server.table = some outcome) :
    ∃ whole parsing, server.Takes id connection bytes whole ∧
      parseDataUnit id whole server.table = some parsing ∧
      outcome = whole.afterParse server.table parsing := by
  obtain ⟨packetRef, stored, rfl⟩ := Option.map_eq_some_iff.mp framed
  have reads : connection.read.reading = some .dataUnit := by rw [arrived]; rfl
  obtain ⟨whole, limited, read, frame, same⟩ := ((sound id connection found).unit reads).whole
    ((sound id connection found).whole arrived) stored
  unfold TcpSession.readDataUnitHandler at result
  rw [limited] at result
  obtain ⟨parsing, parses, rfl⟩ := Option.map_eq_some_iff.mp result
  have taken : Server.whole connection = some whole :=
    Server.whole_iff.mpr ⟨bytes, _, arrived, framed, limited⟩
  exact ⟨whole, parsing, ⟨found, arrived, taken, read, frame, same⟩, parses, rfl⟩

omit [DecidableEq Id] in
theorem Server.Sound.putting {event : ServiceEvent Id} (sound : server.Sound settings)
    (puts : server.puts event = some packet) :
    ∃ id connection bytes session parsed, event = .handle id ∧
      server.Takes id connection bytes session ∧
      parseDataUnit id session server.table = some (.ok parsed) ∧ parsed.packet = some packet := by
  unfold Server.puts at puts
  split at puts
  · rename_i id
    obtain ⟨outcome, handled, returned⟩ := Option.bind_eq_some_iff.mp puts
    obtain ⟨connection, bytes, session, found, arrived, framed, result⟩ :=
      Server.handled_iff.mp handled
    obtain ⟨whole, parsing, takes, parses, rfl⟩ := sound.takes found arrived framed result
    obtain ⟨parsed, rfl, packetIs⟩ := afterParse_packet.mp returned
    exact ⟨id, connection, bytes, whole, parsed, rfl, takes, parses, packetIs⟩
  · cases puts

omit [DecidableEq Id] [LawfulByteBuffer] in
theorem Server.Sound.counted {bytes : List UInt8} {session : TcpSession}
    (sound : server.Sound settings) (takes : server.Takes id connection bytes session) :
    session.dataUnitLen = DataPacketHeader.dataUnitLength session.frame := by
  have waits : connection.read.reading = some .dataUnit := by rw [takes.arrived]; rfl
  have standing := (sound id connection takes.found).unit waits
  have header : session.frame.take DataPacketHeader.size =
      connection.session.packetRef.array.take DataPacketHeader.size := by
    rw [takes.frame, List.take_left']
    rw [List.length_take, standing.capacity]
    rfl
  have kept : session.dataUnitLen = connection.session.dataUnitLen := by rw [takes.same]
  rw [kept, (header_congr header).2.2, standing.counted]

end Sound

end MotorInfoUpload
