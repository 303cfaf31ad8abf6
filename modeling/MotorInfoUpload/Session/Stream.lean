import MotorInfoUpload.Session.Moves

namespace MotorInfoUpload

open Machine

/-- A frame after which the session reads the next one. -/
def GoesOn (frame : List UInt8) : Prop :=
  Parseable frame ∧ DataPacketHeader.cmdId frame ≠ CmdCode.vehicleLogout.value

/-- The packet that is made of a frame, and the reply that is given to `write` for it. -/
inductive FrameOutput (frame : List UInt8) : List ByteBuffer → List ByteBuffer → Prop where
  | upload (command : DataPacketHeader.cmdId frame = CmdCode.realtimeUpload.value ∨
        DataPacketHeader.cmdId frame = CmdCode.reissueUpload.value)
      (received : frame.drop DataPacketHeader.size = unit ++ [check])
      (shape : DataUnit unit time blocks) (start : packet.position = 0)
      (window : packet.window = uploaded (frame.take DataPacketHeader.size) time blocks) :
      FrameOutput frame [packet] []
  | verbatim (command : Verbatim frame) (start : packet.position = 0)
      (window : packet.window = frame) : FrameOutput frame [packet] []
  | reply (bare : BareHeartBeat frame) (start : reply.position = 0)
      (window : reply.window = heartBeatReply frame) : FrameOutput frame [] [reply]
  | rejected (refused : ¬ Parseable frame) : FrameOutput frame [] []

/-- The packets and the replies of a list of frames, in their order. -/
inductive Outputs : List (List UInt8) → List ByteBuffer → List ByteBuffer → Prop where
  | nothing : Outputs [] [] []
  | frame (earlier : Outputs frames packets replies) (output : FrameOutput frame packet reply) :
      Outputs (frames ++ [frame]) (packets ++ packet) (replies ++ reply)

theorem IsFrame.eq_of_prefix {frame other rest : List UInt8} (framed : IsFrame frame)
    (next : IsFrame other) (begins : frame <+: other ++ rest) : frame = other := by
  have long := framed.long
  have size : frame.length ≤ other.length + rest.length := by
    have := begins.length_le
    rwa [List.length_append] at this
  have header : frame.take DataPacketHeader.size = other.take DataPacketHeader.size := by
    obtain ⟨tail, same⟩ := begins
    have taken := congrArg (List.take DataPacketHeader.size) same
    rw [List.take_append_of_le_length (Nat.le_of_lt long),
      List.take_append_of_le_length (Nat.le_of_lt next.long)] at taken
    exact taken
  have same : frame.length = other.length := by
    rw [framed, next, (header_congr header).2.2]
  have whole := List.prefix_iff_eq_take.mp begins
  rw [same, List.take_left'] at whole
  · exact whole
  · rfl

/-- A frame that has been read whole is the next one of the stream. -/
theorem next_of_stream {frames handled : List (List UInt8)} {frame : List UInt8}
    (each : ∀ frame ∈ frames, IsFrame frame) (earlier : handled <+: frames) (framed : IsFrame frame)
    (delivered : handled.flatten ++ frame <+: frames.flatten) : handled ++ [frame] <+: frames := by
  obtain ⟨rest, rfl⟩ := earlier
  rw [List.flatten_append] at delivered
  have begins := (List.prefix_append_right_inj _).mp delivered
  cases rest with
  | nil =>
    have none : frame = [] := List.prefix_nil.mp begins
    have long := framed.long
    rw [none] at long
    cases long
  | cons next more =>
    have same := framed.eq_of_prefix (each next (by simp)) begins
    exact ⟨more, by rw [same]; simp⟩

def Connection.unhandled (connection : Connection) : List UInt8 :=
  match connection.read with
  | .waiting .dataUnit => connection.session.packetRef.array.take DataPacketHeader.size
  | .arrived .header bytes => bytes
  | .arrived .dataUnit bytes =>
    connection.session.packetRef.array.take DataPacketHeader.size ++ bytes
  | .idle | .broken _ | .waiting .header => []

/-- Where a session stands in its stream: it has not been accepted, or it reads on
after the frames it has handled, or it has stopped at the last one of these. -/
inductive Standing (received : List UInt8) (handled : List (List UInt8)) : Option Connection → Prop where
  | absent (nothing : received = []) (unread : handled = []) : Standing received handled none
  | going (goesOn : ∀ frame ∈ handled, GoesOn frame) (reads : connection.read ≠ .idle)
      (unbroken : ∀ reading, connection.read ≠ .broken reading)
      (stays : connection.session.quit = false) (opened : connection.closed = false)
      (delivered : received = handled.flatten ++ connection.unhandled) :
      Standing received handled (some connection)
  | stopped (idle : connection.read = .idle) (last : handled.getLast? = some frame)
      (ends : ¬ GoesOn frame) (goesOn : ∀ frame ∈ handled.dropLast, GoesOn frame) :
      Standing received handled (some connection)

section Frames

variable [ByteBufferApi] [LawfulByteBuffer] {Id : Type} {session : TcpSession}

omit [ByteBufferApi] [LawfulByteBuffer] in
theorem Connection.Sound.isFrame {connection : Connection} {settings : Settings}
    (sound : connection.Sound settings) (arrived : connection.read = .arrived .dataUnit bytes) :
    IsFrame connection.unhandled := by
  have reads : connection.read.reading = some .dataUnit := by rw [arrived]; rfl
  obtain ⟨capacity, _, _, counted, _⟩ := sound.unit reads
  have size : bytes.length = connection.session.dataUnitLen + 1 := sound.whole arrived
  have header : (connection.session.packetRef.array.take DataPacketHeader.size).length =
      DataPacketHeader.size := by
    rw [List.length_take, capacity]
    rfl
  have whole : connection.unhandled =
      connection.session.packetRef.array.take DataPacketHeader.size ++ bytes := by
    rw [Connection.unhandled, arrived]
  have begins : connection.unhandled.take DataPacketHeader.size =
      connection.session.packetRef.array.take DataPacketHeader.size := by
    rw [whole, List.take_left' header]
  unfold IsFrame
  rw [(header_congr begins).2.2, whole, List.length_append, header, size, counted]
  rfl

theorem TcpSession.FrameRead.output {self : Id} {table : SessionTable Id}
    {parsing : Except Exception (Parsed Id)} (read : session.FrameRead)
    (counted : session.dataUnitLen = DataPacketHeader.dataUnitLength session.frame)
    (parse : parseDataUnit self session table = some parsing) :
    FrameOutput session.frame (session.afterParse table parsing).packet.toList
      (session.afterParse table parsing).written.toList := by
  cases parsing with
  | error exception =>
    refine .rejected fun parseable => ?_
    obtain ⟨parsed, accepted⟩ := (parseDataUnit_ok_iff self table read counted).mpr parseable
    rw [parse] at accepted
    cases accepted
  | ok parsed =>
    obtain ⟨packetIs, written⟩ := session.afterParse_output table parsed
    rw [packetIs, written]
    have command : DataPacketHeader.cmdId session.packetRef.array =
        DataPacketHeader.cmdId session.frame := read.cmdId rfl
    cases (parseDataUnit_cases parse).2 with
    | heartBeat heartBeat replied =>
      have bare : session.dataUnitLen = 0 := replyHeartBeat_bare replied
      have empty : DataPacketHeader.dataUnitLength session.frame = 0 := counted.symm.trans bare
      obtain ⟨reply, again, start, window⟩ := replyHeartBeat_ok read bare
      cases Except.ok.inj (replied.symm.trans again)
      exact .reply ⟨command ▸ heartBeat, empty⟩ start window
    | login | logout | upload =>
      obtain ⟨start, kind⟩ := parseDataUnit_returned read parse rfl
      cases kind with
      | upload upload received shape window =>
        have header : session.packetRef.array.take DataPacketHeader.size =
            session.frame.take DataPacketHeader.size := by
          rw [TcpSession.frame, List.take_take, read.limited, Nat.min_eq_left (by omega)]
        exact .upload (command ▸ upload) ((read.window rfl).symm.trans received) shape start
          (header ▸ window)
      | verbatim verbatim same =>
        refine .verbatim (by rw [Verbatim, ← command]; exact verbatim) start ?_
        rw [same]
        rfl

/-- A session goes on exactly after the frames that it takes, but for a logout. -/
theorem TcpSession.FrameRead.goesOn {self : Id} {table : SessionTable Id}
    {parsing : Except Exception (Parsed Id)} (read : session.FrameRead)
    (counted : session.dataUnitLen = DataPacketHeader.dataUnitLength session.frame)
    (stays : session.quit = false) (parse : parseDataUnit self session table = some parsing) :
    (∃ parsed, parsing = .ok parsed ∧ parsed.session.quit = false ∧ GoesOn session.frame) ∨
      (session.afterParse table parsing).reading = none ∧ ¬ GoesOn session.frame := by
  have command : DataPacketHeader.cmdId session.packetRef.array =
      DataPacketHeader.cmdId session.frame := read.cmdId rfl
  cases parsing with
  | error exception =>
    refine .inr ⟨rfl, fun goesOn => ?_⟩
    obtain ⟨parsed, accepted⟩ := (parseDataUnit_ok_iff self table read counted).mpr goesOn.1
    rw [parse] at accepted
    cases accepted
  | ok parsed =>
    have parseable := (parseDataUnit_ok_iff self table read counted).mp ⟨parsed, parse⟩
    have quit := (parseDataUnit_cases parse).2.quit
    rw [stays, command] at quit
    by_cases logout : DataPacketHeader.cmdId session.frame = CmdCode.vehicleLogout.value
    · refine .inr ⟨?_, fun goesOn => goesOn.2 logout⟩
      rw [session.afterParse_ended table (quit.mpr (.inr logout))]
    · refine .inl ⟨parsed, rfl, ?_, parseable, logout⟩
      refine Bool.eq_false_iff.mpr fun quits => logout ?_
      exact (quit.mp quits).resolve_left Bool.noConfusion

end Frames

variable {Id : Type} [DecidableEq Id]

def ServiceEvent.delivers (id : Id) : ServiceEvent Id → List UInt8
  | .arrive other bytes => if other = id then bytes else []
  | _ => []

/-- The session has no timeout and no socket error. -/
def ServiceEvent.Undisturbed (id : Id) : ServiceEvent Id → Prop
  | .breaks other | .timeout other => other ≠ id
  | _ => True

instance (id : Id) (event : ServiceEvent Id) : Decidable (event.Undisturbed id) :=
  match event with
  | .breaks _ | .timeout _ => inferInstanceAs (Decidable (_ ≠ _))
  | .accept _ | .arrive _ _ | .handle _ | .expire _ | .respond _ | .writeDone _ | .writeFailed _ =>
    .isTrue trivial

section Steps

variable [ByteBufferApi]

/-- The frame of the session that an event handles. -/
def Server.handles (server : Server Id) (id : Id) : ServiceEvent Id → Option (List UInt8)
  | .handle other =>
    if other = id then ((server.sessions id).bind Server.whole).map TcpSession.frame else none
  | _ => none

def Server.answers (server : Server Id) (id : Id) : ServiceEvent Id → Option ByteBuffer
  | .handle other => if other = id then (server.handled id).bind Handled.written else none
  | _ => none

variable {settings : Settings} {server after : Server Id} {id other : Id}
  {connection before : Connection} {received : List UInt8} {handled frames : List (List UInt8)}

private theorem Standing.unmoved {event : ServiceEvent Id} (earlier : handled <+: frames)
    (nothing : event.delivers id = []) (unhandled : server.handles id event = none)
    (standing : Standing received handled (after.sessions id)) :
    handled ++ (server.handles id event).toList <+: frames ∧
      Standing (received ++ event.delivers id) (handled ++ (server.handles id event).toList)
        (after.sessions id) := by
  rw [nothing, unhandled, Option.toList_none, List.append_nil, List.append_nil]
  exact ⟨earlier, standing⟩

omit [DecidableEq Id] [ByteBufferApi] in
private theorem Standing.kept (standing : Standing received handled (some before))
    (read : connection.read = before.read) (session : connection.session = before.session)
    (closed : connection.closed = before.closed) : Standing received handled (some connection) := by
  have unhandled : connection.unhandled = before.unhandled := by
    rw [Connection.unhandled, Connection.unhandled, read, session]
  cases standing with
  | going goesOn reads unbroken stays opened delivered =>
    exact .going goesOn (read ▸ reads) (read ▸ unbroken) (session ▸ stays) (closed ▸ opened)
      (unhandled ▸ delivered)
  | stopped idle last ends goesOn => exact .stopped (read ▸ idle) last ends goesOn

variable [LawfulByteBuffer]

omit [DecidableEq Id] [ByteBufferApi] [LawfulByteBuffer] in
private theorem Standing.headerHandled {bytes : List UInt8} {table : SessionTable Id}
    {outcome : Handled Id} (release : settings.mode = some .release)
    (standing : Standing received handled (some connection))
    (arrived : connection.read = .arrived .header bytes)
    (result : HeaderHandled settings connection.session bytes table outcome) :
    Standing received handled (some (connection.after outcome)) := by
  cases standing with
  | going goesOn reads unbroken stays opened delivered =>
    cases result with
    | admitted allowed standing header =>
      refine .going goesOn ReadState.noConfusion (fun _ => ReadState.noConfusion) stays opened ?_
      rw [delivered, Connection.unhandled, arrived]
      exact congrArg (handled.flatten ++ ·) header.symm
    | refused refused => exact absurd (by simp [TcpSession.admits, release]) refused
  | stopped idle =>
    rw [arrived] at idle
    cases idle

omit [DecidableEq Id] in
private theorem Standing.frameHandled {bytes : List UInt8} {session : TcpSession}
    {parsing : Except Exception (Parsed Id)} (each : ∀ frame ∈ frames, IsFrame frame)
    (sound : connection.Sound settings) (standing : Standing received handled (some connection))
    (earlier : handled <+: frames) (delivered : received <+: frames.flatten)
    (takes : server.Takes id connection bytes session)
    (counted : session.dataUnitLen = DataPacketHeader.dataUnitLength session.frame)
    (parse : parseDataUnit id session server.table = some parsing) :
    handled ++ [session.frame] <+: frames ∧ Standing received (handled ++ [session.frame])
      (some (connection.after (session.afterParse server.table parsing))) := by
  cases standing with
  | going goesOn reads unbroken stays opened received =>
    have whole : connection.unhandled = session.frame := by
      rw [Connection.unhandled, takes.arrived, takes.frame]
    rw [received, whole] at delivered
    have framed : IsFrame session.frame := whole ▸ sound.isFrame takes.arrived
    refine ⟨next_of_stream each earlier framed delivered, ?_⟩
    have quit : session.quit = false := by rw [takes.same]; exact stays
    rcases takes.read.goesOn counted quit parse with ⟨parsed, rfl, stays, further⟩ | ⟨ended, last⟩
    · rw [session.afterParse_stays server.table stays]
      refine .going ?_ ReadState.noConfusion (fun _ => ReadState.noConfusion) stays opened ?_
      · intro frame member
        rcases List.mem_append.mp member with before | new
        · exact goesOn frame before
        · exact List.mem_singleton.mp new ▸ further
      · rw [received, whole]
        simp [Connection.unhandled, Connection.after]
    · refine .stopped ?_ List.getLast?_concat last ?_
      · rw [Connection.after, ended]
      · rw [List.dropLast_concat]
        exact goesOn
  | stopped idle =>
    have arrived := takes.arrived
    rw [idle] at arrived
    cases arrived

/-- Every event of the service leaves the session standing in its stream. -/
theorem Standing.step {event : ServiceEvent Id} (each : ∀ frame ∈ frames, IsFrame frame)
    (release : settings.mode = some .release) (sound : server.Sound settings)
    (standing : Standing received handled (server.sessions id)) (earlier : handled <+: frames)
    (calm : event.Undisturbed id) (delivered : received ++ event.delivers id <+: frames.flatten)
    (stepped : server.step settings event = some after) :
    handled ++ (server.handles id event).toList <+: frames ∧
      Standing (received ++ event.delivers id) (handled ++ (server.handles id event).toList)
        (after.sessions id) := by
  have elsewhere {other : Id} {connection : Connection} (different : id ≠ other) :
      Standing received handled ((server.put other connection).sessions id) := by
    rw [Server.put_other different]
    exact standing
  have here {other : Id} {connection : Connection} (found : server.sessions other = some connection)
      (same : id = other) : Standing received handled (some connection) := by
    rw [← found, ← same]
    exact standing
  have unhandled {other : Id} (different : id ≠ other) : server.handles id (.handle other) = none := by
    rw [Server.handles, if_neg different.symm]
  cases Server.step_cases stepped with
  | @accepted other absent =>
    refine Standing.unmoved earlier rfl rfl ?_
    rcases eq_or_ne id other with rfl | different
    · rw [Server.put_same]
      rw [absent] at standing
      cases standing with
      | absent nothing unread =>
        subst nothing unread
        exact .going (fun _ none => by cases none) ReadState.noConfusion
          (fun _ => ReadState.noConfusion) rfl rfl rfl
    · exact elsewhere different
  | @arrived connection reading bytes other found waiting opened size =>
    rcases eq_or_ne id other with rfl | different
    · simp only [Server.handles, Option.toList, List.append_nil]
      refine ⟨earlier, ?_⟩
      rw [Server.put_same, ServiceEvent.delivers, if_pos rfl]
      cases here found rfl with
      | going goesOn reads unbroken stays opened delivered =>
        refine .going goesOn ReadState.noConfusion (fun _ => ReadState.noConfusion) stays opened ?_
        rw [delivered, List.append_assoc]
        cases reading <;> simp [Connection.unhandled, waiting]
      | stopped idle =>
        rw [waiting] at idle
        cases idle
    · exact Standing.unmoved earlier (if_neg different.symm) rfl (elsewhere different)
  | @broke connection reading other found waiting =>
    exact Standing.unmoved earlier rfl rfl (elsewhere (Ne.symm calm))
  | @ended connection reading other found broken =>
    rcases eq_or_ne id other with rfl | different
    · cases here found rfl with
      | going _ _ unbroken => exact absurd broken (unbroken reading)
      | stopped idle =>
        rw [broken] at idle
        cases idle
    · exact Standing.unmoved earlier rfl (unhandled different) (elsewhere different)
  | @header connection bytes packetRef outcome other found arrived stored result =>
    rcases eq_or_ne id other with rfl | different
    · have unread : server.handles id (.handle id) = none := by
        simp [Server.handles, found, Server.whole, arrived]
      have handled := (sound id connection found).headerHandled server.table arrived stored
      rw [result] at handled
      refine Standing.unmoved earlier rfl unread ?_
      simp only [Server.put_same]
      exact (here found rfl).headerHandled release arrived handled
    · exact Standing.unmoved earlier rfl (unhandled different) (elsewhere different)
  | @unit connection bytes session outcome other found arrived framed result =>
    rcases eq_or_ne id other with rfl | different
    · obtain ⟨whole, parsing, takes, parse, rfl⟩ := sound.takes found arrived framed result
      have nothing : (ServiceEvent.handle id).delivers id = [] := rfl
      have handles : server.handles id (.handle id) = some whole.frame := by
        rw [Server.handles, if_pos rfl, found, Option.bind_some, takes.whole, Option.map_some]
      rw [nothing, List.append_nil] at delivered
      rw [nothing, handles, List.append_nil, Option.toList_some]
      simp only [Server.put_same]
      exact (here found rfl).frameHandled each (sound id connection found) earlier delivered takes
        (sound.counted takes) parse
    · exact Standing.unmoved earlier rfl (unhandled different) (elsewhere different)
  | @timedOut connection other found due =>
    exact Standing.unmoved earlier rfl rfl (elsewhere (Ne.symm calm))
  | @expired connection other found armed | @responded vin connection other named found
  | @written connection other found pending | @failed connection other found pending =>
    refine Standing.unmoved earlier rfl rfl ?_
    rcases eq_or_ne id other with rfl | different
    · have same := Server.put_same server id
      simp only [same]
      exact (here found rfl).kept rfl rfl rfl
    · exact elsewhere different

omit [DecidableEq Id] [ByteBufferApi] [LawfulByteBuffer] in
private theorem Standing.waits (each : ∀ frame ∈ frames, IsFrame frame)
    (sound : connection.Sound settings) (standing : Standing received handled (some connection))
    (earlier : handled <+: frames) (delivered : received <+: frames.flatten)
    (waiting : connection.read = .waiting reading) :
    received = handled.flatten ++ connection.unhandled ∧ connection.closed = false ∧
      (handled = frames ∨ ∃ next rest, frames = handled ++ next :: rest ∧
        connection.unhandled <+: next ∧
        connection.unhandled.length + connection.expected reading ≤ next.length) := by
  cases standing with
  | stopped idle =>
    rw [waiting] at idle
    cases idle
  | going goesOn reads unbroken stays opened received =>
  refine ⟨received, opened, ?_⟩
  obtain ⟨rest, rfl⟩ := earlier
  rw [received, List.flatten_append] at delivered
  have begins := (List.prefix_append_right_inj _).mp delivered
  cases rest with
  | nil => exact .inl (by simp)
  | cons next rest =>
    have framed : IsFrame next := each next (by simp)
    have long := framed.long
    refine .inr ⟨next, rest, rfl, ?_⟩
    cases reading with
    | header =>
      have nothing : connection.unhandled = [] := by rw [Connection.unhandled, waiting]
      rw [nothing]
      refine ⟨List.nil_prefix, ?_⟩
      change 0 + DataPacketHeader.size ≤ next.length
      omega
    | dataUnit =>
      obtain ⟨capacity, _, _, counted, _⟩ := sound.unit (by rw [waiting]; rfl)
      have header : connection.unhandled =
          connection.session.packetRef.array.take DataPacketHeader.size := by
        rw [Connection.unhandled, waiting]
      have size : connection.unhandled.length = DataPacketHeader.size := by
        rw [header, List.length_take, capacity]
        rfl
      have within : connection.unhandled <+: next :=
        List.prefix_of_prefix_length_le begins (List.prefix_append ..) (by omega)
      have same : next.take DataPacketHeader.size =
          connection.session.packetRef.array.take DataPacketHeader.size := by
        rw [← header, List.prefix_iff_eq_take.mp within, size]
      have length : next.length =
          DataPacketHeader.size + DataPacketHeader.dataUnitLength next + 1 := framed
      refine ⟨within, ?_⟩
      change connection.unhandled.length + (connection.session.dataUnitLen + 1) ≤ next.length
      rw [size, length, (header_congr same).2.2, counted]
      omega

omit [DecidableEq Id] [ByteBufferApi] [LawfulByteBuffer] in
private theorem expected_pos (connection : Connection) (reading : Reading) :
    0 < connection.expected reading := by
  cases reading with
  | header => exact Nat.succ_pos _
  | dataUnit => exact Nat.succ_pos _

omit [DecidableEq Id] [ByteBufferApi] [LawfulByteBuffer] in
/-- A session that waits when it has been sent its whole stream has handled all of it. -/
theorem Standing.settled (each : ∀ frame ∈ frames, IsFrame frame)
    (sound : connection.Sound settings) (standing : Standing received handled (some connection))
    (earlier : handled <+: frames) (delivered : received = frames.flatten)
    (waiting : connection.read = .waiting reading) : handled = frames := by
  obtain ⟨received, _, done | ⟨next, rest, rfl, _, more⟩⟩ :=
    standing.waits each sound earlier (delivered ▸ List.prefix_rfl) waiting
  · exact done
  · have positive := expected_pos connection reading
    have same := congrArg List.length (received.symm.trans delivered)
    rw [List.flatten_append, List.flatten_cons, List.length_append, List.length_append,
      List.length_append] at same
    omega

omit [LawfulByteBuffer] in
theorem Standing.arrives (each : ∀ frame ∈ frames, IsFrame frame)
    (sound : server.Sound settings) (found : server.sessions id = some connection)
    (standing : Standing received handled (some connection)) (earlier : handled <+: frames)
    (delivered : received <+: frames.flatten) (unsent : received ≠ frames.flatten)
    (waiting : connection.read = .waiting reading) :
    ∃ bytes after, received ++ bytes <+: frames.flatten ∧
      server.step settings (.arrive id bytes) = some after := by
  obtain ⟨known, opened, done | ⟨next, rest, same, within, more⟩⟩ :=
    standing.waits each (sound id connection found) earlier delivered waiting
  · rw [known, done] at delivered unsent
    have size := delivered.length_le
    rw [List.length_append] at size
    have nothing : connection.unhandled = [] := List.eq_nil_of_length_eq_zero (by omega)
    rw [nothing, List.append_nil] at unsent
    exact absurd rfl unsent
  · have split : connection.unhandled ++ next.drop connection.unhandled.length = next := by
      nth_rewrite 1 [List.prefix_iff_eq_take.mp within]
      exact List.take_append_drop ..
    obtain ⟨bytes, size, begins⟩ : ∃ bytes, bytes.length = connection.expected reading ∧
        connection.unhandled ++ bytes <+: next := by
      refine ⟨(next.drop connection.unhandled.length).take (connection.expected reading), ?_, ?_⟩
      · rw [List.length_take, List.length_drop]
        omega
      · have taken := (List.prefix_append_right_inj connection.unhandled).mpr
          (List.take_prefix (connection.expected reading) (next.drop connection.unhandled.length))
        rwa [split] at taken
    refine ⟨bytes, server.put id { connection with read := .arrived reading bytes }, ?_, ?_⟩
    · rw [known, same, List.flatten_append, List.flatten_cons, List.append_assoc]
      exact (List.prefix_append_right_inj _).mpr (begins.trans (List.prefix_append ..))
    · simp [Server.step, found, waiting, opened, size]

theorem Standing.handles (each : ∀ frame ∈ frames, IsFrame frame ∧ frame.length ≤ MAXPACK_LENGTH)
    (sound : server.Sound settings) (found : server.sessions id = some connection)
    (standing : Standing received handled (some connection)) (earlier : handled <+: frames)
    (delivered : received <+: frames.flatten) (arrived : connection.read = .arrived reading bytes) :
    ∃ after, server.step settings (.handle id) = some after := by
  cases standing with
  | stopped idle =>
    rw [arrived] at idle
    cases idle
  | going goesOn reads unbroken stays opened received =>
  have size := (sound id connection found).whole arrived
  cases reading with
  | header =>
    obtain ⟨packetRef, stored, _⟩ :=
      ((sound id connection found).header (by rw [arrived]; rfl)).stored size
    apply Option.isSome_iff_exists.mp
    simp [Server.step, found, Server.handleRead, arrived, stored]
  | dataUnit =>
    have framed : IsFrame connection.unhandled := (sound id connection found).isFrame arrived
    have standing := (sound id connection found).unit (by rw [arrived]; rfl)
    rw [received] at delivered
    obtain ⟨rest, whole⟩ := next_of_stream (fun frame member => (each frame member).1) earlier framed
      delivered
    have short : connection.unhandled.length ≤ MAXPACK_LENGTH :=
      (each connection.unhandled (by rw [← whole]; simp)).2
    have fits : connection.session.packetRef.position + bytes.length ≤
        connection.session.packetRef.array.length := by
      rw [Connection.unhandled, arrived, List.length_append, List.length_take,
        standing.capacity] at short
      have within : min DataPacketHeader.size MAXPACK_LENGTH = DataPacketHeader.size := by decide
      rw [standing.start, standing.capacity]
      omega
    obtain ⟨read, limited, ready, _⟩ := standing.whole size (ByteBuffer.receive_eq fits)
    obtain ⟨parsing, parse⟩ := parseDataUnit_ends id server.table ready
    apply Option.isSome_iff_exists.mp
    simp [Server.step, found, Server.handleRead, arrived, Server.framed, ByteBuffer.receive_eq fits,
      TcpSession.readDataUnitHandler, limited, parse]

theorem Server.Sound.output (sound : server.Sound settings)
    (handles : server.handles id (.handle id) = some frame) :
    FrameOutput frame (server.puts (.handle id)).toList (server.answers id (.handle id)).toList := by
  rw [Server.handles, if_pos rfl] at handles
  obtain ⟨session, read, rfl⟩ := Option.map_eq_some_iff.mp handles
  obtain ⟨connection, found, whole⟩ := Option.bind_eq_some_iff.mp read
  obtain ⟨bytes, takes⟩ := sound.takesWhole found whole
  obtain ⟨parsing, parse⟩ := parseDataUnit_ends id server.table takes.read
  rw [Server.puts, Server.answers, if_pos rfl, takes.handled_eq parse]
  exact takes.read.output (sound.counted takes) parse

theorem Server.Sound.noOutput (sound : server.Sound settings)
    (handles : server.handles id (.handle id) = none) :
    server.puts (.handle id) = none ∧ server.answers id (.handle id) = none := by
  have nothing : server.handled id = none := by
    refine Option.eq_none_iff_forall_ne_some.mpr fun outcome result => ?_
    obtain ⟨connection, bytes, session, found, arrived, framed, result⟩ :=
      Server.handled_iff.mp result
    obtain ⟨whole, parsing, takes, _⟩ := sound.takes found arrived framed result
    rw [Server.handles, if_pos rfl, found, Option.bind_some, takes.whole] at handles
    cases handles
  rw [Server.puts, Server.answers, if_pos rfl, nothing]
  exact ⟨rfl, rfl⟩

end Steps

end MotorInfoUpload
