import MotorInfoUpload.Machine.Simulation
import MotorInfoUpload.Machine.History
import MotorInfoUpload.Session.Stream

/-! One session among others. What it reads, the packets it makes and its replies to
heartbeats depend on its own events only: it fares as if it were the only one. What the
sessions share, the table, decides where platform responses go and nothing else. -/

namespace MotorInfoUpload

open Machine

/-- An event of the session's own reads and timer. -/
def ServiceEvent.Of {Id : Type} (id : Id) : ServiceEvent Id → Prop
  | .accept other | .arrive other _ | .breaks other | .handle other | .expire other
  | .timeout other => other = id
  | .respond _ | .writeDone _ | .writeFailed _ => False

instance {Id : Type} [DecidableEq Id] (id : Id) (event : ServiceEvent Id) : Decidable (event.Of id) :=
  match event with
  | .accept _ | .arrive _ _ | .breaks _ | .handle _ | .expire _ | .timeout _ =>
    inferInstanceAs (Decidable (_ = _))
  | .respond _ | .writeDone _ | .writeFailed _ => .isFalse fun impossible => impossible

def Connection.apart (connection : Connection) : Connection := { connection with writes := 0 }

/-- The own events of a session, with the packets and the replies that came of them. -/
structure Seen (Id : Type) where
  events : List (ServiceEvent Id)
  packets : List ByteBuffer
  replies : List ByteBuffer

variable {Id : Type} [DecidableEq Id] [ByteBufferApi]

def Seen.note (id : Id) (seen : Seen Id) (before : Server Id) (event : ServiceEvent Id)
    (_ : Server Id) : Seen Id :=
  if event.Of id then {
    events := seen.events ++ [event]
    packets := seen.packets ++ (before.puts event).toList
    replies := seen.replies ++ (before.answers id event).toList }
  else seen

/-- The service, watched at one session. -/
def watched (id : Id) (settings : Settings) :
    Automaton (Recorded (Server Id) (Seen Id)) (ServiceEvent Id) :=
  (vehicleService Id settings).recording ⟨[], [], []⟩ (Seen.note id)

section Table

variable {self : Id} {table other : SessionTable Id}

structure Handled.Agree (one other : Handled Id) : Prop where
  session : one.session = other.session
  reading : one.reading = other.reading
  packet : one.packet = other.packet
  written : one.written = other.written

omit [DecidableEq Id] in
private theorem readHeaderHandler_agree (settings : Settings) (session : TcpSession) :
    (session.readHeaderHandler settings table).Agree (session.readHeaderHandler settings other) := by
  unfold TcpSession.readHeaderHandler
  split
  · exact ⟨rfl, rfl, rfl, rfl⟩
  · dsimp only
    split <;> split <;> exact ⟨rfl, rfl, rfl, rfl⟩

private inductive ParsingsAgree : Except Exception (Parsed Id) → Except Exception (Parsed Id) → Prop
  | error : ParsingsAgree (.error exception) (.error exception)
  | ok : ParsingsAgree (.ok ⟨packet, session, before, written⟩) (.ok ⟨packet, session, after, written⟩)

omit [DecidableEq Id] [ByteBufferApi] in
private theorem ParsingsAgree.map {result : Except Exception Value} {packet : Value → Option ByteBuffer}
    {session : Value → TcpSession} {before after : SessionTable Id}
    {written : Value → Option ByteBuffer} :
    ParsingsAgree (result.map fun value => ⟨packet value, session value, before, written value⟩)
      (result.map fun value => ⟨packet value, session value, after, written value⟩) := by
  cases result with
  | error exception => exact .error
  | ok value => exact .ok

omit [DecidableEq Id] in
private theorem parseDataUnit_agree {session : TcpSession} {parsing : Except Exception (Parsed Id)}
    (parse : parseDataUnit self session table = some parsing) :
    ∃ same, parseDataUnit self session other = some same ∧ ParsingsAgree parsing same := by
  unfold parseDataUnit parseDataUnitWithin at parse ⊢
  by_cases start : session.packetRef.position ≠ DataPacketHeader.size
  · rw [if_pos start] at parse ⊢
    cases parse
    exact ⟨_, rfl, .error⟩
  rw [if_neg start] at parse ⊢
  dsimp only at parse ⊢
  by_cases upload : DataPacketHeader.cmdId session.packetRef.array = CmdCode.reissueUpload.value ∨
      DataPacketHeader.cmdId session.packetRef.array = CmdCode.realtimeUpload.value
  · rw [if_pos upload] at parse ⊢
    obtain ⟨parsed, ended, rfl⟩ := Option.map_eq_some_iff.mp parse
    exact ⟨_, by rw [ended]; rfl, .map⟩
  rw [if_neg upload] at parse ⊢
  by_cases login : DataPacketHeader.cmdId session.packetRef.array = CmdCode.vehicleLogin.value
  · rw [if_pos login] at parse ⊢
    cases parse
    exact ⟨_, rfl, .map⟩
  rw [if_neg login] at parse ⊢
  by_cases logout : DataPacketHeader.cmdId session.packetRef.array = CmdCode.vehicleLogout.value
  · rw [if_pos logout] at parse ⊢
    cases parse
    exact ⟨_, rfl, .map⟩
  rw [if_neg logout] at parse ⊢
  by_cases heartBeat : DataPacketHeader.cmdId session.packetRef.array = CmdCode.heartBeat.value
  · rw [if_pos heartBeat] at parse ⊢
    cases parse
    exact ⟨_, rfl, .map⟩
  · rw [if_neg heartBeat] at parse ⊢
    cases parse
    exact ⟨_, rfl, .error⟩

omit [DecidableEq Id] in
private theorem readDataUnitHandler_agree {session : TcpSession} {outcome : Handled Id}
    (result : session.readDataUnitHandler self table = some outcome) :
    ∃ same, session.readDataUnitHandler self other = some same ∧ outcome.Agree same := by
  unfold TcpSession.readDataUnitHandler at result ⊢
  cases limited : session.limited with
  | error what =>
    simp only [limited] at result
    cases result
    exact ⟨_, rfl, rfl, rfl, rfl, rfl⟩
  | ok session =>
    simp only [limited] at result
    obtain ⟨parsing, parse, rfl⟩ := Option.map_eq_some_iff.mp result
    obtain ⟨same, reparse, agree⟩ := @parseDataUnit_agree _ _ _ _ other _ _ parse
    refine ⟨session.afterParse other same, by simp [reparse], ?_⟩
    cases agree with
    | error => exact ⟨rfl, rfl, rfl, rfl⟩
    | ok =>
      unfold TcpSession.afterParse
      dsimp only
      split <;> exact ⟨rfl, rfl, rfl, rfl⟩

end Table

section Steps

variable {settings : Settings} {one other after : Server Id} {id : Id} {event : ServiceEvent Id}
  {connection same : Connection}

omit [ByteBufferApi] in
private theorem apart_eq (agree : connection.apart = same.apart) :
    same = { connection with writes := same.writes } := by
  obtain ⟨session, read, closed, armed, expired, writes⟩ := connection
  obtain ⟨session', read', closed', armed', expired', writes'⟩ := same
  simp only [Connection.apart, Connection.mk.injEq] at agree ⊢
  obtain ⟨rfl, rfl, rfl, rfl, rfl, -⟩ := agree
  simp

/-- The session is in the same state in both services, but for its pending writes. -/
private def Alike (id : Id) (one other : Server Id) : Prop :=
  (one.sessions id).map Connection.apart = (other.sessions id).map Connection.apart

omit [DecidableEq Id] [ByteBufferApi] in
private theorem Alike.found (alike : Alike id one other) (found : one.sessions id = some connection) :
    ∃ writes, other.sessions id = some { connection with writes } := by
  unfold Alike at alike
  rw [found, Option.map_some] at alike
  obtain ⟨same, there, equal⟩ := Option.map_eq_some_iff.mp alike.symm
  exact ⟨same.writes, by rw [there, ← apart_eq equal.symm]⟩

omit [ByteBufferApi] in
private theorem Alike.put (alike : connection.apart = same.apart) :
    Alike id (one.put id connection) (other.put id same) := by
  rw [Alike, Server.put_same, Server.put_same, Option.map_some, Option.map_some, alike]

omit [DecidableEq Id] [ByteBufferApi] in
private theorem after_apart {writes : Nat} {first second : Handled Id} (agree : first.Agree second) :
    (connection.after first).apart = (({ connection with writes }).after second).apart := by
  simp [Connection.after, Connection.apart, agree.session, agree.reading]

omit [DecidableEq Id] in
private theorem Alike.handled {outcome : Handled Id} (alike : Alike id one other)
    (result : one.handled id = some outcome) :
    ∃ same, other.handled id = some same ∧ outcome.Agree same := by
  obtain ⟨connection, bytes, session, found, arrived, framed, result⟩ := Server.handled_iff.mp result
  obtain ⟨writes, there⟩ := alike.found found
  obtain ⟨same, handles, agree⟩ := readDataUnitHandler_agree result
  exact ⟨same, Server.handled_iff.mpr ⟨_, bytes, session, there, arrived, framed, handles⟩, agree⟩

private theorem Alike.outputs (alike : Alike id one other) (own : event.Of id) :
    one.puts event = other.puts event ∧ one.answers id event = other.answers id event := by
  cases event with
  | handle self =>
    obtain rfl : self = id := own
    simp only [Server.puts, Server.answers, if_pos]
    cases here : one.handled self with
    | some outcome =>
      obtain ⟨same, there, agree⟩ := alike.handled here
      rw [there]
      exact ⟨agree.packet, agree.written⟩
    | none =>
      cases there : other.handled self with
      | none => exact ⟨rfl, rfl⟩
      | some outcome =>
        have swapped : Alike self other one := alike.symm
        obtain ⟨same, found, -⟩ := swapped.handled there
        rw [here] at found
        cases found
  | accept | arrive | breaks | expire | timeout => exact ⟨rfl, rfl⟩
  | respond | writeDone | writeFailed => cases own

/-- An own event does to the session in one service what it does in the other. -/
private theorem Alike.step (alike : Alike id one other) (own : event.Of id)
    (stepped : one.step settings event = some after) :
    ∃ next, other.step settings event = some next ∧ Alike id after next := by
  cases Server.step_cases stepped with
  | @accepted self absent =>
    obtain rfl : self = id := own
    have there : other.sessions self = none := by
      unfold Alike at alike
      rw [absent, Option.map_none] at alike
      exact Option.map_eq_none_iff.mp alike.symm
    refine ⟨other.put self ⟨.accepted, .waiting .header, false, true, 0, 0⟩, ?_, .put rfl⟩
    simp only [Server.step, there]
  | @arrived connection reading bytes self found waiting opened size =>
    obtain rfl : self = id := own
    obtain ⟨writes, there⟩ := alike.found found
    have enough : bytes.length = Connection.expected { connection with writes } reading := size
    refine ⟨other.put self { connection with read := .arrived reading bytes, writes }, ?_, .put rfl⟩
    simp [Server.step, there, waiting, opened, enough]
  | @broke connection reading self found waiting =>
    obtain rfl : self = id := own
    obtain ⟨writes, there⟩ := alike.found found
    refine ⟨other.put self { connection with read := .broken reading, writes }, ?_, .put rfl⟩
    simp [Server.step, there, waiting]
  | @ended connection reading self found broken =>
    obtain rfl : self = id := own
    obtain ⟨writes, there⟩ := alike.found found
    let last : Handled Id := .stopped connection.session other.table
    refine ⟨{ other.put self (({ connection with writes }).after last) with
      table := connection.session.eraseEntry other.table
      current := Server.forget other.current self }, ?_, Alike.put (after_apart ⟨rfl, rfl, rfl, rfl⟩)⟩
    simp only [Server.step, there, Option.bind_some, Server.handleRead, broken]
    rfl
  | @header connection bytes packetRef outcome self found arrived stored result =>
    obtain rfl : self = id := own
    obtain ⟨writes, there⟩ := alike.found found
    let same := ({ connection.session with packetRef }).readHeaderHandler settings other.table
    have agree : outcome.Agree same := result ▸ readHeaderHandler_agree settings _
    refine ⟨{ other.put self (({ connection with writes }).after same) with table := same.table },
      ?_, Alike.put (after_apart agree)⟩
    simp only [Server.step, there, Option.bind_some, Server.handleRead, arrived, stored,
      Option.map_some]
    rfl
  | @unit connection bytes session outcome self found arrived framed result =>
    obtain rfl : self = id := own
    obtain ⟨writes, there⟩ := alike.found found
    obtain ⟨same, handles, agree⟩ := @readDataUnitHandler_agree _ _ _ _ other.table _ _ result
    refine ⟨{ other.put self (({ connection with writes }).after same) with
      table := same.table
      current := other.noted self session }, ?_, Alike.put (after_apart agree)⟩
    simp only [Server.step, there, Option.bind_some, Server.handleRead, arrived]
    change (Server.framed connection bytes).bind _ = _
    rw [framed, Option.bind_some, handles, Option.map_some]
  | @expired connection self found armed =>
    obtain rfl : self = id := own
    obtain ⟨writes, there⟩ := alike.found found
    refine ⟨other.put self { connection with
      armed := false, expired := connection.expired + 1, writes }, ?_, .put rfl⟩
    simp [Server.step, there, armed]
  | @timedOut connection self found due =>
    obtain rfl : self = id := own
    obtain ⟨writes, there⟩ := alike.found found
    refine ⟨other.put self { connection with
      session := connection.session.readTimeoutHandler
      closed := true
      expired := connection.expired - 1
      writes }, ?_, .put rfl⟩
    simp [Server.step, there, due]
  | responded | written | failed => cases own

private theorem Alike.others (other : ¬ event.Of id) (stepped : one.step settings event = some after) :
    Alike id one after := by
  have elsewhere {self : Id} {connection : Connection} (different : self ≠ id) :
      Alike id one (one.put self connection) := by
    rw [Alike, Server.put_other (Ne.symm different)]
  have writes {self : Id} {connection : Connection} (found : one.sessions self = some connection)
      (count : Nat) : Alike id one (one.put self { connection with writes := count }) := by
    rcases eq_or_ne self id with rfl | different
    · rw [Alike, Server.put_same, found]
      rfl
    · exact elsewhere different
  cases Server.step_cases stepped with
  | accepted | arrived | broke | ended | header | unit | expired | timedOut => exact elsewhere other
  | responded named found | written found | failed found => exact writes found _

omit [DecidableEq Id] in
private theorem own_elsewhere [DecidableEq Id] {self : Id} (different : self ≠ id) (own : event.Of id)
    (stepped : one.step settings event = some after) : after.sessions self = one.sessions self := by
  cases Server.step_cases stepped with
  | accepted | arrived | broke | ended | header | unit | expired | timedOut =>
    obtain rfl := own
    exact Server.put_other different
  | responded | written | failed => cases own

end Steps

/-- A session fares as if it were the only one. Its own events, executed in their order in a
service without any other session, are all enabled there; they give the same packets and
replies, and leave the session in the same state, but for the writes of platform responses
and the completions of its writes. -/
theorem session_isolated {settings : Settings} {id : Id} {full : Recorded (Server Id) (Seen Id)}
    (reach : Reachable (watched id settings) full) :
    ∃ lone, (watched id settings).run unguarded ⟨.initial Id, ⟨[], [], []⟩⟩ full.log.events = some lone ∧
      lone.log = full.log ∧ (∀ other, other ≠ id → lone.state.sessions other = none) ∧
      (lone.state.sessions id).map Connection.apart =
        (full.state.sessions id).map Connection.apart := by
  apply reach.invariant
  · rintro ⟨server, seen⟩ ⟨rfl, rfl⟩
    exact ⟨_, rfl, rfl, fun _ _ => rfl, rfl⟩
  · rintro ⟨before, seen⟩ event after ⟨lone, executed, same, alone, alike⟩ _ stepped
    obtain ⟨server, moved, rfl⟩ := Option.map_eq_some_iff.mp stepped
    have alike : Alike id before lone.state := alike.symm
    by_cases own : event.Of id
    · obtain ⟨next, followed, still⟩ := alike.step own moved
      obtain ⟨packets, replies⟩ := alike.outputs own
      have log : Seen.note id lone.log lone.state event next =
          Seen.note id seen before event server := by
        simp only [Seen.note, if_pos own, same, packets, replies]
      refine ⟨⟨next, Seen.note id lone.log lone.state event next⟩, ?_, log, ?_, still.symm⟩
      · simp only [Seen.note, if_pos own]
        rw [Automaton.run_concat, executed, Option.bind_some,
          if_pos (show unguarded lone event from trivial)]
        change ((vehicleService Id settings).step lone.state event).map _ = _
        have taken : (vehicleService Id settings).step lone.state event = some next := followed
        rw [taken, Option.map_some]
        simp [Seen.note, own]
      · intro other different
        rw [own_elsewhere different own followed]
        exact alone other different
    · refine ⟨lone, ?_, ?_, alone, ?_⟩
      · simpa [Seen.note, own] using executed
      · simpa [Seen.note, own] using same
      · have moved : before.step settings event = some server := moved
        exact Eq.trans (Eq.symm alike) (Alike.others own moved)

omit [ByteBufferApi] in
/-- Two connections log in with one VIN, event by event in turn. The table
keeps the first, and the second makes its packet as it would alone. -/
theorem session_isolated_turns : ∃ full : Recorded (Server Nat) (Seen Nat),
    full.log.packets.map ByteBuffer.window = [sampleFrame .vehicleLogin] ∧
    full.state.table sampleVin = some 0 ∧
    ∃ lone : Recorded (Server Nat) (Seen Nat),
      lone.log = full.log ∧ (∀ other, other ≠ 1 → lone.state.sessions other = none) := by
  let := ByteBuffer.reference
  let initial : Reachable (watched (1 : Nat) ⟨some .release, []⟩) ⟨.initial Nat, ⟨[], [], []⟩⟩ :=
    .start ⟨rfl, rfl⟩
  obtain ⟨full, reach, packets, table⟩ := initial.exists_of_schedule
    (fun recorded => recorded.log.packets.map ByteBuffer.window = [sampleFrame .vehicleLogin] ∧
      recorded.state.table sampleVin = some 0)
    (((logsIn 0).zip (logsIn 1)).flatMap fun turn => [turn.1, turn.2]) (by decide +kernel)
  obtain ⟨lone, -, same, alone, -⟩ := session_isolated reach
  exact ⟨full, packets, table, lone, same, alone⟩

end MotorInfoUpload
