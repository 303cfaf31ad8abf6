import MotorInfoUpload.Machine.History
import MotorInfoUpload.Session.Moves

namespace MotorInfoUpload

open Machine

variable {Id : Type} [DecidableEq Id]

omit [DecidableEq Id] in
theorem SessionTable.insert_some {table : SessionTable Id} {inserted vin : List UInt8} {self id : Id}
    (named : table.insert inserted self vin = some id) :
    table vin = some id ∨ vin = inserted ∧ self = id ∧ table inserted = none := by
  unfold SessionTable.insert at named
  cases free : table inserted with
  | some other =>
    rw [free] at named
    exact .inl named
  | none =>
    rw [free] at named
    dsimp only at named
    split at named
    · rename_i same
      exact .inr ⟨same, Option.some.inj named, rfl⟩
    · exact .inl named

omit [DecidableEq Id] in
theorem SessionTable.erase_some {table : SessionTable Id} {erased vin : List UInt8} {id : Id}
    (named : table.erase erased vin = some id) : vin ≠ erased ∧ table vin = some id := by
  unfold SessionTable.erase at named
  split at named
  · cases named
  · rename_i other
    exact ⟨other, named⟩

omit [DecidableEq Id] in
theorem TcpSession.eraseEntry_some {table : SessionTable Id} {session : TcpSession}
    {vin : List UInt8} {id : Id} (named : session.eraseEntry table vin = some id) :
    (vin ≠ session.vin ∨ session.vin = Constant.vinInital) ∧ table vin = some id := by
  unfold TcpSession.eraseEntry at named
  split at named
  · rename_i fresh
    exact ⟨.inr fresh, named⟩
  · obtain ⟨other, found⟩ := SessionTable.erase_some named
    exact ⟨.inl other, found⟩

def Server.Known (server : Server Id) : Prop :=
  ∀ vin id, server.table vin = some id → ∃ connection, server.sessions id = some connection

/-- A session waits on a read and on its timer, until the timer has expired and its
handler has closed the socket, so that the read ends. -/
structure Connection.Alive (connection : Connection) : Prop where
  reads : connection.read ≠ .idle
  timed : connection.armed = true ∨ 0 < connection.expired ∨ connection.closed = true

/-- What holds of the session that the table names for `vin`. -/
structure Connection.Listed (vin : List UInt8) (connection : Connection) : Prop where
  named : connection.session.vin = vin
  registered : vin ≠ Constant.vinInital
  alive : connection.Alive

/-- The table names only sessions that are alive. -/
def Server.Live (server : Server Id) : Prop :=
  ∀ vin id, server.table vin = some id → ∃ connection, server.sessions id = some connection ∧
    connection.Listed vin

/-- The table maps the session's VIN to it once the frame has been handled. -/
def LeftInTable (table : SessionTable Id) (id : Id) (session : TcpSession) : Prop :=
  session.cmdId ≠ CmdCode.vehicleLogout.value ∧ (table session.vin = some id ∨
    session.cmdId = CmdCode.vehicleLogin.value ∧ table session.vin = none)

/-- A session that stays in the table handles its last frame: one that `parseDataUnit`
rejects, or any frame after the timeout has been handled. -/
def FrameLeavesDead (table : SessionTable Id) (id : Id) (session : TcpSession) : Prop :=
  LeftInTable table id session ∧ (session.quit = true ∨ ¬ Parseable session.frame)

section Guard

variable [ByteBufferApi]

def LeavesDead (server : Server Id) : ServiceEvent Id → Prop
  | .handle id => ∃ connection ∈ server.sessions id, ∃ session ∈ Server.whole connection,
      FrameLeavesDead server.table id session
  | _ => False

variable {settings : Settings} {server after : Server Id} {id : Id} {connection : Connection}

omit [ByteBufferApi] in
private theorem Server.Live.put {table : SessionTable Id} {current : List UInt8 → Option Id}
    (live : server.Live)
    (others : ∀ vin other, other ≠ id → table vin = some other → server.table vin = some other)
    (own : ∀ vin, table vin = some id → connection.Listed vin) :
    Server.Live { server.put id connection with table, current } := by
  intro vin other named
  by_cases here : other = id
  · subst here
    exact ⟨connection, server.put_same other connection, own vin named⟩
  · obtain ⟨found, present, listed⟩ := live vin other (others vin other here named)
    exact ⟨found, (Server.put_other here).trans present, listed⟩

omit [ByteBufferApi] in
private theorem Server.Live.kept {before : Connection} {table : SessionTable Id}
    (live : server.Live) (found : server.sessions id = some before)
    (less : ∀ vin other, table vin = some other → server.table vin = some other)
    (same : connection.session.vin = before.session.vin) (alive : before.Alive → connection.Alive) :
    Server.Live { server.put id connection with table } := by
  refine live.put (fun vin other _ => less vin other) fun vin named => ?_
  obtain ⟨present, here, listed⟩ := live vin id (less vin id named)
  cases Option.some.inj (found.symm.trans here)
  exact ⟨same.trans listed.named, listed.registered, alive listed.alive⟩

omit [ByteBufferApi] [DecidableEq Id] in
private theorem Server.Live.listed {vin : List UInt8} (live : server.Live)
    (found : server.sessions id = some connection) (named : server.table vin = some id) :
    connection.Listed vin := by
  obtain ⟨present, here, listed⟩ := live vin id named
  cases Option.some.inj (found.symm.trans here)
  exact listed

omit [ByteBufferApi] in
private theorem Server.Known.put {table : SessionTable Id} {current : List UInt8 → Option Id}
    (known : server.Known) (names : ∀ vin other, table vin = some other →
      server.table vin = some other ∨ other = id) :
    Server.Known { server.put id connection with table, current } := by
  intro vin other named
  by_cases here : other = id
  · subst here
    exact ⟨connection, server.put_same other connection⟩
  · obtain ⟨found, present⟩ := known vin other ((names vin other named).resolve_right here)
    exact ⟨found, (Server.put_other here).trans present⟩

omit [DecidableEq Id] in
private theorem UnitHandled.names {session : TcpSession} {table : SessionTable Id}
    {outcome : Handled Id} {vin : List UInt8} {other : Id}
    (handled : TcpSession.UnitHandled id session table outcome)
    (named : outcome.table vin = some other) : table vin = some other ∨ other = id := by
  have parsing {whole : TcpSession} {parsed : Parsed Id}
      (accepted : parseDataUnit id whole table = some (.ok parsed))
      (named : parsed.table vin = some other) : table vin = some other ∨ other = id := by
    cases (parseDataUnit_cases accepted).2 with
    | upload | heartBeat => exact .inl named
    | login => exact (SessionTable.insert_some named).imp_right fun ⟨_, same, _⟩ => same.symm
    | logout => exact .inl (SessionTable.erase_some named).2
  cases handled with
  | overrun | rejected => exact .inl named
  | ended within accepted quit => exact parsing accepted named
  | continues within accepted stays => exact parsing accepted named

theorem Server.Known.step {event : ServiceEvent Id} (known : server.Known)
    (stepped : server.step settings event = some after) : after.Known := by
  cases Server.step_cases stepped with
  | accepted | arrived | broke | expired | timedOut | responded | written =>
    exact known.put fun _ _ named => .inl named
  | ended | failed => exact known.put fun _ _ named => .inl (TcpSession.eraseEntry_some named).2
  | header found arrived stored result =>
    subst result
    exact known.put fun _ _ named => .inl (by rwa [TcpSession.readHeaderHandler_table] at named)
  | unit found arrived framed result =>
    exact known.put fun _ _ named =>
      UnitHandled.names (TcpSession.readDataUnitHandler_cases result) named

theorem Server.known_of_reach {guard : Server Id → ServiceEvent Id → Prop}
    (reach : Reach (vehicleService Id settings) guard server) : server.Known := by
  induction reach with
  | start initially =>
    cases initially
    intro vin id named
    cases named
  | next _ _ stepped ih => exact ih.step stepped

variable [LawfulByteBuffer]

/-- The handler of a header leaves the session alive: one in the table is of an
admitted vehicle. -/
private theorem Server.Live.header {bytes : List UInt8} {packetRef : ByteBuffer}
    (live : server.Live) (sound : server.Sound settings)
    (found : server.sessions id = some connection)
    (arrived : connection.read = .arrived .header bytes)
    (stored : connection.session.packetRef.receive 0 bytes = some packetRef)
    (result : { connection.session with packetRef }.readHeaderHandler settings server.table =
      outcome) :
    Server.Live { server.put id (connection.after outcome) with table := outcome.table } := by
  have handled := (sound id connection found).headerHandled server.table arrived stored
  rw [result] at handled
  have vinAfter (vin : List UInt8) (named : server.table vin = some id) :
      connection.session.vinAfter bytes = vin := by
    have listed := live.listed found named
    unfold TcpSession.vinAfter
    rw [listed.named, if_neg listed.registered]
  cases handled with
  | admitted allowed standing =>
    refine live.put (fun _ _ _ named => named) fun vin named => ?_
    exact ⟨vinAfter vin named, (live.listed found named).registered, ReadState.noConfusion, .inl rfl⟩
  | refused refused _ =>
    refine live.put (fun _ _ _ named => named) fun vin named => ?_
    have listed := live.listed found named
    have admitted := (sound id connection found).admitted listed.alive.reads
      (listed.named ▸ listed.registered)
    rw [listed.named, ← vinAfter vin named] at admitted
    exact absurd admitted refused

omit [DecidableEq Id] [LawfulByteBuffer] in
private theorem Parsing.named {self : Id} {session : TcpSession} {table : SessionTable Id}
    {parsed : Parsed Id} {vin : List UInt8} (parsing : Parsing self session table parsed)
    (named : parsed.table vin = some id) : table vin = some id ∨ vin = session.vin ∧ self = id := by
  cases parsing with
  | upload | heartBeat => exact .inl named
  | login =>
    rcases SessionTable.insert_some named with already | ⟨same, own, _⟩
    · exact .inl already
    · exact .inr ⟨same, own⟩
  | logout => exact .inl (SessionTable.erase_some named).2

omit [DecidableEq Id] [LawfulByteBuffer] in
private theorem Parsing.leftInTable {session : TcpSession} {table : SessionTable Id}
    {parsed : Parsed Id} (parsing : Parsing id session table parsed) :
    parsed.table session.vin = some id ↔ LeftInTable table id session := by
  cases parsing with
  | upload command =>
    have upload : session.cmdId = CmdCode.reissueUpload.value ∨
        session.cmdId = CmdCode.realtimeUpload.value := command
    have other : session.cmdId ≠ CmdCode.vehicleLogout.value ∧
        session.cmdId ≠ CmdCode.vehicleLogin.value := by
      rcases upload with upload | upload <;> rw [upload] <;> decide
    simp [LeftInTable, other]
  | heartBeat command =>
    have heartBeat : session.cmdId = CmdCode.heartBeat.value := command
    have other : session.cmdId ≠ CmdCode.vehicleLogout.value ∧
        session.cmdId ≠ CmdCode.vehicleLogin.value := by rw [heartBeat]; decide
    simp [LeftInTable, other]
  | login command =>
    have login : session.cmdId = CmdCode.vehicleLogin.value := command
    have other : CmdCode.vehicleLogin.value ≠ CmdCode.vehicleLogout.value := by decide
    cases free : table session.vin <;> simp [LeftInTable, SessionTable.insert, other, login, free]
  | logout command =>
    have logout : session.cmdId = CmdCode.vehicleLogout.value := command
    simp [LeftInTable, SessionTable.erase, logout]

private theorem Server.Live.unit {bytes : List UInt8} {session : TcpSession}
    {current : List UInt8 → Option Id} (live : server.Live) (sound : server.Sound settings)
    (allowed : ¬ LeavesDead server (.handle id)) (found : server.sessions id = some connection)
    (arrived : connection.read = .arrived .dataUnit bytes)
    (framed : Server.framed connection bytes = some session)
    (result : session.readDataUnitHandler id server.table = some outcome) :
    Server.Live { server.put id (connection.after outcome) with table := outcome.table, current } := by
  obtain ⟨whole, parsing, takes, parses, rfl⟩ := sound.takes found arrived framed result
  have calm : ¬ FrameLeavesDead server.table id whole :=
    fun leaves => allowed ⟨connection, found, whole, takes.whole, leaves⟩
  have own : whole.vin = connection.session.vin := by rw [takes.same]
  cases parsing with
  | error exception =>
    refine live.put (fun _ _ _ named => named) fun vin named => absurd ?_ calm
    have listed := live.listed found named
    have rejected : ¬ Parseable whole.frame := by
      intro parseable
      obtain ⟨parsed, parsed_ok⟩ := (parseDataUnit_ok_iff id server.table takes.read
        (sound.counted takes)).mpr parseable
      rw [parses] at parsed_ok
      cases parsed_ok
    refine ⟨⟨fun logout => rejected (.inl (.inr ?_)), .inl ?_⟩, .inr rejected⟩
    · exact (takes.read.cmdId rfl).symm.trans logout
    · rw [own, listed.named]
      exact named
  | ok parsed =>
    have effect := (parseDataUnit_cases parses).2
    rw [TcpSession.afterParse_table]
    refine live.put (fun vin other different named => ?_) fun vin named => ?_
    · rcases effect.named named with already | ⟨_, self⟩
      · exact already
      · exact absurd self.symm different
    · have same : whole.vin = vin := by
        rcases effect.named named with already | ⟨same, _⟩
        · rw [own, (live.listed found already).named]
        · exact same.symm
      have left : LeftInTable server.table id whole := effect.leftInTable.mp (same ▸ named)
      have stays : parsed.session.quit = false := by
        refine Bool.eq_false_iff.mpr fun quit => ?_
        rcases effect.quit.mp quit with already | logout
        · exact calm ⟨left, .inl already⟩
        · exact left.1 logout
      have waiting := ((sound id connection found).unit (by rw [arrived]; rfl)).named
      rw [whole.afterParse_stays server.table stays]
      refine ⟨?_, ?_, ReadState.noConfusion, .inl rfl⟩
      · exact (parseDataUnit_vin parses).trans same
      · rw [← same, own]
        exact waiting

/-- Every event leaves the sessions in the table alive, unless it leaves one dead. -/
theorem Server.Live.step {event : ServiceEvent Id} (live : server.Live)
    (sound : server.Sound settings) (allowed : ¬ LeavesDead server event)
    (stepped : server.step settings event = some after) : after.Live := by
  cases Server.step_cases stepped with
  | accepted absent =>
    refine live.put (fun _ _ _ named => named) fun vin named => ?_
    obtain ⟨connection, present, _⟩ := live vin _ named
    rw [absent] at present
    cases present
  | arrived found waiting opened size =>
    exact live.kept found (fun _ _ named => named) rfl fun alive => ⟨ReadState.noConfusion, alive.timed⟩
  | broke found waiting =>
    exact live.kept found (fun _ _ named => named) rfl fun alive => ⟨ReadState.noConfusion, alive.timed⟩
  | @ended connection reading id found broken =>
    refine live.put (fun vin other _ named => (TcpSession.eraseEntry_some named).2) fun vin named => ?_
    obtain ⟨erased, already⟩ := TcpSession.eraseEntry_some named
    have listed := live.listed found already
    rcases erased with other | fresh
    · exact absurd listed.named.symm other
    · exact absurd (listed.named.symm.trans fresh) listed.registered
  | header found arrived stored result => exact live.header sound found arrived stored result
  | unit found arrived framed result => exact live.unit sound allowed found arrived framed result
  | expired found armed =>
    exact live.kept found (fun _ _ named => named) rfl fun alive =>
      ⟨alive.reads, .inr (.inl (Nat.succ_pos _))⟩
  | timedOut found due =>
    exact live.kept found (fun _ _ named => named) rfl fun alive => ⟨alive.reads, .inr (.inr rfl)⟩
  | responded named found =>
    exact live.kept found (fun _ _ named => named) rfl fun alive => ⟨alive.reads, alive.timed⟩
  | written found pending =>
    exact live.kept found (fun _ _ named => named) rfl fun alive => ⟨alive.reads, alive.timed⟩
  | failed found pending =>
    exact live.kept found (fun _ _ named => (TcpSession.eraseEntry_some named).2) rfl
      fun alive => ⟨alive.reads, alive.timed⟩

theorem live_of_reach
    (reach : Reach (vehicleService Id settings) (fun server event => ¬ LeavesDead server event) server) :
    server.Live := by
  induction reach with
  | start initially =>
    cases initially
    intro vin id named
    cases named
  | next earlier allowed stepped ih => exact ih.step (Server.sound_of_reach earlier) allowed stepped

private theorem leavesDead_stopped {event : ServiceEvent Id} (sound : server.Sound settings)
    (leaves : LeavesDead server event) (stepped : server.step settings event = some after) :
    ∃ vin id, after.table vin = some id ∧ ∃ connection ∈ after.sessions id, ¬ connection.Alive := by
  unfold LeavesDead at leaves
  split at leaves
  · rename_i id
    obtain ⟨connection, found, whole, ready, left, stops⟩ := leaves
    obtain ⟨bytes, _, arrived, _⟩ := Server.whole_iff.mp ready
    cases Server.step_cases stepped with
    | ended other broken =>
      cases Option.some.inj (found.symm.trans other)
      rw [arrived] at broken
      cases broken
    | header other header =>
      cases Option.some.inj (found.symm.trans other)
      rw [arrived] at header
      cases header
    | @unit connection bytes session outcome _ other arrived framed result =>
      cases Option.some.inj (found.symm.trans other)
      obtain ⟨read, parsing, takes, parses, rfl⟩ := sound.takes other arrived framed result
      cases Option.some.inj (ready.symm.trans takes.whole)
      refine ⟨whole.vin, id, ?_, _, Server.put_same .., fun alive => alive.reads ?_⟩
      · cases parsing with
        | error exception =>
          rcases left.2 with already | ⟨login, _⟩
          · exact already
          · obtain ⟨parsed, _, accepted, _⟩ := parseDataUnit_packet id server.table takes.read rfl
              (.inl (.inl ((takes.read.cmdId rfl).symm.trans login)))
            rw [parses] at accepted
            cases accepted
        | ok parsed =>
          rw [TcpSession.afterParse_table]
          exact (parseDataUnit_cases parses).2.leftInTable.mpr left
      · cases parsing with
        | error exception => rfl
        | ok parsed =>
          have quit : parsed.session.quit = true := by
            rcases stops with quit | rejected
            · exact (parseDataUnit_cases parses).2.quit.mpr (.inl quit)
            · exact absurd ((parseDataUnit_ok_iff id server.table takes.read
                (sound.counted takes)).mp ⟨parsed, parses⟩) rejected
          rw [whole.afterParse_ended server.table quit]
          rfl
  · cases leaves

/-- As long as no event leaves a dead session, every session in the table waits on a
read and on its timer; and only after an event that does, one in the table does not. -/
theorem table_sessions_alive
    (reach : Reach (vehicleService Id settings) (fun server event => ¬ LeavesDead server event)
      server) :
    (∀ vin id, server.table vin = some id → ∃ connection ∈ server.sessions id, connection.Alive) ∧
      ∀ event after, (vehicleService Id settings).step server event = some after →
        (LeavesDead server event ↔ ∃ vin id, after.table vin = some id ∧
          ∃ connection ∈ after.sessions id, ¬ connection.Alive) := by
  have sound := Server.sound_of_reach reach
  have live := live_of_reach reach
  refine ⟨fun vin id named => ?_, fun event after stepped =>
    ⟨fun leaves => leavesDead_stopped sound leaves stepped, ?_⟩⟩
  · obtain ⟨connection, found, listed⟩ := live vin id named
    exact ⟨connection, found, listed.alive⟩
  · rintro ⟨vin, id, named, connection, found, dead⟩
    by_contra allowed
    exact dead ((live.step sound allowed stepped).listed found named).alive

end Guard

def Quiet [ByteBufferApi] (server : Server Id) : ServiceEvent Id → Prop
  | .handle id => ∀ connection ∈ server.sessions id, ∀ session ∈ Server.whole connection,
      session.quit = false ∧ Verbatim session.frame
  | _ => True

instance [ByteBufferApi] (server : Server Id) (event : ServiceEvent Id) :
    Decidable (Quiet server event) :=
  match event with
  | .handle _ => inferInstanceAs (Decidable (∀ _ ∈ _, _))
  | .accept _ | .arrive _ _ | .breaks _ | .expire _ | .timeout _ | .respond _ | .writeDone _
  | .writeFailed _ => .isTrue trivial

omit [DecidableEq Id] in
private theorem Quiet.allowed [ByteBufferApi] (server : Server Id) (event : ServiceEvent Id)
    (quiet : Quiet server event) : ¬ LeavesDead server event := by
  intro leaves
  cases event with
  | handle id =>
    obtain ⟨connection, found, session, whole, _, stops⟩ := leaves
    obtain ⟨stays, verbatim⟩ := quiet connection found session whole
    rcases stops with quit | rejected
    · rw [stays] at quit
      cases quit
    · exact rejected (.inl verbatim)
  | accept | arrive | breaks | expire | timeout | respond | writeDone | writeFailed => exact leaves

theorem table_sessions_alive_login : ∃ server : Server Nat,
    server.table sampleVin = some 0 ∧ ∃ connection ∈ server.sessions 0, connection.Alive := by
  let := ByteBuffer.reference
  have := ByteBuffer.reference_lawful
  have initial : Reach (vehicleService Nat ⟨some .release, []⟩) Quiet (.initial Nat) := .start rfl
  obtain ⟨server, quiet, named⟩ := initial.exists_of_schedule
    (fun server => server.table sampleVin = some 0) (logsIn 0) (by decide +kernel)
  exact ⟨server, named,
    (table_sessions_alive (quiet.mono Quiet.allowed)).1 sampleVin 0 named⟩

/-- A vehicle logs in and then sends a frame of a command that sessions do not know. -/
theorem table_names_dead_session : ∃ server : Server Nat,
    Reachable (@vehicleService ByteBuffer.reference Nat _ ⟨some .release, []⟩) server ∧
      server.table sampleVin = some 0 ∧ ∃ connection ∈ server.sessions 0, ¬ connection.Alive := by
  let := ByteBuffer.reference
  have initial : Reachable (vehicleService Nat ⟨some .release, []⟩) (.initial Nat) := .start rfl
  obtain ⟨server, reach, named, connection, found, idle⟩ := initial.exists_of_schedule
    (fun server => server.table sampleVin = some 0 ∧
      ∃ connection ∈ server.sessions 0, connection.read = .idle)
    (logsIn 0 ++ [.arrive 0 ((sampleFrame .platformLogin).take 24), .handle 0,
      .arrive 0 ((sampleFrame .platformLogin).drop 24), .handle 0]) (by decide +kernel)
  exact ⟨server, reach, named, connection, found, fun alive => alive.reads idle⟩

end MotorInfoUpload
