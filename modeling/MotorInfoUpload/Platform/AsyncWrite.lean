import MotorInfoUpload.Platform.Reading
import MotorInfoUpload.Platform.Wire
import MotorInfoUpload.Session.Moves

namespace MotorInfoUpload

open Machine

variable {Id Reader : Type} [DecidableEq Id]

/-- The buffer of a pending write is still allocated and holds what it was given. -/
def Wire.Holds (wire : Wire Id Reader) (write : Write Id Reader) : Prop :=
  ∃ buffer, wire.buffer write.source = some buffer ∧ write.bytesIn buffer.array = write.given

def Wire.Rests (wire : Wire Id Reader) (write : Write Id Reader) : Prop :=
  ∀ id generation, write.source = .packet id generation →
    ∃ connection, wire.server.sessions id = some connection ∧ connection.read = .idle

/-- A forwarded response was given to the session of the VIN in its header. -/
def Write.Addressed (write : Write Id Reader) : Prop :=
  ∀ vin ∈ write.vin, DataPacketHeader.vin write.given = vin

/-- What holds of the writes as long as no buffer is spoilt under one. -/
structure Wired (wire : Wire Id Reader) : Prop where
  sound : ∀ reader, ReaderSound (wire.readers reader)
  holds : ∀ write ∈ wire.pending, wire.Holds write
  rests : ∀ write ∈ wire.pending, wire.Rests write
  sent : ∀ write ∈ wire.pending, write.sent = write.given.take write.sent.length
  addressed : ∀ write ∈ wire.pending, write.Addressed
  delivered : ∀ write ∈ wire.delivered, write.sent = write.given ∧ write.Addressed

section Writes

variable {Id Reader : Type} {wire : Wire Id Reader} {write : Write Id Reader}

private theorem wired_started (wired : Wired wire) (holds : wire.Holds write)
    (rests : wire.Rests write) (unsent : write.sent = []) (addressed : write.Addressed) :
    Wired { wire with pending := wire.pending ++ [write] } := by
  have each {property : Write Id Reader → Prop} (old : ∀ write ∈ wire.pending, property write)
      (new : property write) : ∀ other ∈ wire.pending ++ [write], property other := by
    intro other member
    rcases List.mem_append.mp member with before | added
    · exact old other before
    · rw [List.mem_singleton.mp added]
      exact new
  refine ⟨wired.sound, each wired.holds holds, each wired.rests rests, each wired.sent ?_,
    each wired.addressed addressed, wired.delivered⟩
  rw [unsent]
  rfl

private theorem wired_removed (wired : Wired wire) (k : Nat) :
    Wired { wire with pending := wire.pending.eraseIdx k } where
  sound := wired.sound
  holds write member := wired.holds write (List.mem_of_mem_eraseIdx member)
  rests write member := wired.rests write (List.mem_of_mem_eraseIdx member)
  sent write member := wired.sent write (List.mem_of_mem_eraseIdx member)
  addressed write member := wired.addressed write (List.mem_of_mem_eraseIdx member)
  delivered := wired.delivered

private theorem wired_replaced {id : Id} (wired : Wired wire)
    (reads : ∀ write ∈ wire.pending, ∀ generation, write.source ≠ .packet id generation)
    (generation : Id → Nat) (others : ∀ other, other ≠ id → generation other = wire.generation other) :
    Wired { wire with generation } where
  sound := wired.sound
  holds write member := by
    obtain ⟨buffer, allocated, bytes⟩ := wired.holds write member
    refine ⟨buffer, ?_, bytes⟩
    cases source : write.source with
    | response reader =>
      rw [source] at allocated
      exact allocated
    | packet other number =>
      have different : other ≠ id := fun same => reads write member number (same ▸ source)
      rw [source] at allocated
      obtain ⟨current, connection⟩ := Wire.buffer_packet.mp allocated
      exact Wire.buffer_packet.mpr ⟨current.trans (others other different).symm, connection⟩
  rests := wired.rests
  sent := wired.sent
  addressed := wired.addressed
  delivered := wired.delivered

private theorem reads_unwritten {id : Id} {connection : Connection} (wired : Wired wire)
    (found : wire.server.sessions id = some connection) (reads : connection.read ≠ .idle) :
    ∀ write ∈ wire.pending, ∀ generation, write.source ≠ .packet id generation := by
  intro write member generation source
  obtain ⟨other, present, idle⟩ := wired.rests write member id generation source
  rw [found] at present
  cases present
  exact reads idle

private theorem wired_readers [DecidableEq Reader] {reader : Reader} {after : ResponseReader}
    (wired : Wired wire) (sound : ReaderSound after)
    (kept : ∀ write ∈ wire.pending, write.source = .response reader →
      write.bytesIn after.responseBuf.array = write.given) :
    Wired { wire with readers := Function.update wire.readers reader after } where
  sound other := by
    by_cases same : other = reader
    · subst same
      simpa only [Function.update_self] using sound
    · simpa only [Function.update_of_ne same] using wired.sound other
  holds write member := by
    obtain ⟨buffer, allocated, bytes⟩ := wired.holds write member
    cases source : write.source with
    | response other =>
      by_cases same : other = reader
      · subst same
        refine ⟨after.responseBuf, ?_, kept write member source⟩
        rw [source]
        exact congrArg (fun reader : ResponseReader => some reader.responseBuf) (Function.update_self ..)
      · refine ⟨buffer, ?_, bytes⟩
        rw [source] at allocated ⊢
        exact (congrArg (fun reader : ResponseReader => some reader.responseBuf)
          (Function.update_of_ne same ..)).trans allocated
    | packet id generation =>
      refine ⟨buffer, ?_, bytes⟩
      rw [source] at allocated ⊢
      exact allocated
  rests := wired.rests
  sent := wired.sent
  addressed := wired.addressed
  delivered := wired.delivered

private theorem sent_next {bytes : List UInt8} (holds : wire.Holds write)
    (before : write.sent = write.given.take write.sent.length) (sends : wire.Sends write bytes) :
    write.sent ++ bytes = write.given.take (write.sent ++ bytes).length := by
  obtain ⟨buffer, allocated, held⟩ := holds
  obtain ⟨_, room, taken⟩ := sends
  have rest : write.given.drop write.sent.length =
      (buffer.array.drop (write.position + write.sent.length)).take
        (write.given.length - write.sent.length) := by
    conv_lhs => rw [← held]
    rw [Write.bytesIn, List.drop_take, List.drop_drop]
  have next : (write.given.drop write.sent.length).take bytes.length = bytes := by
    rw [rest, List.take_take, Nat.min_eq_left (by omega)]
    exact (taken buffer allocated).symm
  rw [List.length_append, List.take_add, next, ← before]

private theorem wired_transmitted {bytes : List UInt8} (wired : Wired wire)
    (found : wire.pending[k]? = some write) (sends : wire.Sends write bytes) :
    Wired { wire with pending := wire.pending.set k { write with sent := write.sent ++ bytes } } := by
  have member := List.mem_of_getElem? found
  have each {property : Write Id Reader → Prop} (old : ∀ write ∈ wire.pending, property write)
      (new : property { write with sent := write.sent ++ bytes }) :
      ∀ other ∈ wire.pending.set k { write with sent := write.sent ++ bytes }, property other := by
    intro other there
    rcases List.mem_or_eq_of_mem_set there with before | rfl
    · exact old other before
    · exact new
  exact ⟨wired.sound, each wired.holds (wired.holds write member),
    each wired.rests (wired.rests write member),
    each wired.sent (sent_next (wired.holds write member) (wired.sent write member) sends),
    each wired.addressed (wired.addressed write member), wired.delivered⟩

end Writes

section Guard

variable [ByteBufferApi]

/-- The frame that the session has read is a heartbeat it replies to. -/
structure RepliesTo (session : TcpSession) : Prop where
  command : session.cmdId = CmdCode.heartBeat.value
  bare : ByteBufferApi.remaining session.packetRef = 1 ∧ session.dataUnitLen = 0

instance (session : TcpSession) : Decidable (RepliesTo session) :=
  decidable_of_iff (session.cmdId = CmdCode.heartBeat.value ∧
      ByteBufferApi.remaining session.packetRef = 1 ∧ session.dataUnitLen = 0)
    ⟨fun ⟨command, bare⟩ => ⟨command, bare⟩, fun ⟨command, bare⟩ => ⟨command, bare⟩⟩

/-- The steps that spoil the buffer of a pending write: a read that stores other bytes
where a write refers to, or a heartbeat of a session that goes on to replace the
buffer it replies from. -/
def Spoils (wire : Wire Id Reader) : WireEvent Id Reader → Prop
  | .reader reader (.read bytes) => ∃ write ∈ wire.pending, write.source = .response reader ∧
      write.bytesIn (ByteBuffer.splice (wire.readers reader).responseBuf.array
        (wire.readers reader).responseBuf.position bytes) ≠ write.given
  | .service (.handle id) => ∃ connection ∈ wire.server.sessions id,
      ∃ session ∈ Server.whole connection, RepliesTo session ∧ session.quit = false
  | _ => False

instance [DecidableEq Reader] (wire : Wire Id Reader) (event : WireEvent Id Reader) :
    Decidable (Spoils wire event) :=
  match event with
  | .reader _ (.read _) => inferInstanceAs (Decidable (∃ _ ∈ _, _ ∧ _))
  | .service (.handle _) => inferInstanceAs (Decidable (∃ _ ∈ _, _))
  | .reader _ (.check _) | .reader _ .wakes | .reader _ .interrupted | .reader _ (.fails _)
  | .reader _ .throws | .reader _ .publish | .reader _ .answer
  | .service (.accept _) | .service (.arrive _ _) | .service (.breaks _) | .service (.expire _)
  | .service (.timeout _) | .service (.respond _) | .service (.writeDone _)
  | .service (.writeFailed _) | .timeout _ | .transmit _ _ | .complete _ | .fail _ =>
    .isFalse fun bad => bad

end Guard

section Service

variable [ByteBufferApi] {settings : Settings} {server after : Server Id}

def Server.Resting (server : Server Id) (id : Id) (packetRef : ByteBuffer) : Prop :=
  ∃ connection, server.sessions id = some connection ∧ connection.read = .idle ∧
    connection.session.packetRef = packetRef

omit [ByteBufferApi] in
private theorem put_resting {id other : Id} {connection : Connection} {packetRef : ByteBuffer}
    (resting : server.Resting id packetRef)
    (same : id = other → connection.read = .idle ∧ connection.session.packetRef = packetRef) :
    (server.put other connection).Resting id packetRef := by
  by_cases here : id = other
  · subst here
    exact ⟨connection, Function.update_self .., same rfl⟩
  · obtain ⟨old, found, kept⟩ := resting
    exact ⟨old, (Function.update_of_ne here ..).trans found, kept⟩

omit [DecidableEq Id] [ByteBufferApi] in
private theorem resting_congr {id : Id} {packetRef : ByteBuffer} (resting : server.Resting id packetRef)
    (same : after.sessions = server.sessions) : after.Resting id packetRef := by
  unfold Server.Resting
  rw [same]
  exact resting

theorem Server.step_resting {id : Id} {event : ServiceEvent Id} {packetRef : ByteBuffer}
    (stepped : server.step settings event = some after) (resting : server.Resting id packetRef) :
    after.Resting id packetRef := by
  have ⟨kept, present, idle, packet⟩ := resting
  have mine {other : Id} {connection : Connection} (found : server.sessions other = some connection)
      (same : id = other) : connection = kept := by
    subst same
    exact Option.some.inj (found.symm.trans present)
  cases Server.step_cases stepped with
  | accepted absent =>
    refine put_resting resting fun same => ?_
    rw [← same, present] at absent
    cases absent
  | arrived found reads | broke found reads =>
    refine put_resting resting fun same => ?_
    rw [mine found same, idle] at reads
    cases reads
  | ended found reads | header found reads | unit found reads =>
    refine resting_congr (put_resting resting fun same => ?_) rfl
    rw [mine found same, idle] at reads
    cases reads
  | expired found | timedOut found | responded _ found | written found =>
    refine put_resting resting fun same => ?_
    obtain rfl := mine found same
    exact ⟨idle, packet⟩
  | failed found =>
    refine resting_congr (put_resting resting fun same => ?_) rfl
    obtain rfl := mine found same
    exact ⟨idle, packet⟩

omit [DecidableEq Id] in
/-- Only a heartbeat is replied to, from the packet buffer it was read into. -/
theorem parseDataUnit_written {self : Id} {session : TcpSession} {table : SessionTable Id}
    (accepted : parseDataUnit self session table = some (.ok parsed))
    (written : parsed.written = some buffer) :
    RepliesTo session ∧ parsed.session = { session with packetRef := buffer } := by
  cases (parseDataUnit_cases accepted).2 with
  | upload | login | logout => cases written
  | heartBeat command replied =>
    have bare : ByteBufferApi.remaining session.packetRef = 1 ∧ session.dataUnitLen = 0 := by
      by_contra refused
      rw [replyHeartBeat, if_neg refused] at replied
      cases replied
    cases written
    exact ⟨⟨command, bare⟩, rfl⟩

omit [DecidableEq Id] in
theorem readDataUnitHandler_written {self : Id} {session : TcpSession} {table : SessionTable Id}
    (handled : session.readDataUnitHandler self table = some outcome)
    (written : outcome.written = some buffer) :
    ∃ whole, session.limited = .ok whole ∧ RepliesTo whole ∧
      (whole.quit = false ∧ outcome.reading = some .header ∨
        outcome.reading = none ∧ outcome.session.packetRef = buffer) := by
  unfold TcpSession.readDataUnitHandler at handled
  split at handled
  · cases handled
    cases written
  · rename_i whole limited
    obtain ⟨result, parse, same⟩ := Option.map_eq_some_iff.mp handled
    subst same
    cases result with
    | error exception => cases written
    | ok parsed =>
      unfold TcpSession.afterParse at written ⊢
      dsimp only at written ⊢
      split at written
      · rename_i quit
        obtain ⟨command, same⟩ := parseDataUnit_written parse written
        rw [if_pos quit]
        exact ⟨whole, limited, command, .inr ⟨rfl, by rw [same]⟩⟩
      · rename_i goesOn
        obtain ⟨command, same⟩ := parseDataUnit_written parse written
        rw [same] at goesOn
        rw [same, if_neg goesOn]
        exact ⟨whole, limited, command, .inl ⟨Bool.eq_false_iff.mpr goesOn, rfl⟩⟩

end Service

section Steps

variable [ByteBufferApi] {settings : Settings} {wire : Wire Id Reader} {write : Write Id Reader}

private theorem holds_service {server : Server Id} {event : ServiceEvent Id} (holds : wire.Holds write)
    (rests : wire.Rests write) (stepped : wire.server.step settings event = some server) :
    { wire with server }.Holds write ∧ { wire with server }.Rests write := by
  obtain ⟨buffer, allocated, bytes⟩ := holds
  cases source : write.source with
  | response reader =>
    refine ⟨⟨buffer, ?_, bytes⟩, fun id generation other => ?_⟩
    · rw [source] at allocated ⊢
      exact allocated
    · rw [source] at other
      cases other
  | packet id generation =>
    obtain ⟨connection, found, idle⟩ := rests id generation source
    rw [source] at allocated
    obtain ⟨current, other, present, packet⟩ := Wire.buffer_packet.mp allocated
    cases Option.some.inj (present.symm.trans found)
    obtain ⟨after, kept, still, same⟩ := Server.step_resting stepped ⟨connection, found, idle, packet⟩
    refine ⟨⟨buffer, ?_, bytes⟩, fun other' generation' alike => ?_⟩
    · rw [source]
      exact Wire.buffer_packet.mpr ⟨current, after, kept, same⟩
    · rw [source] at alike
      cases alike
      exact ⟨after, kept, still⟩

private theorem wired_server {server : Server Id} {event : ServiceEvent Id} (wired : Wired wire)
    (stepped : wire.server.step settings event = some server) : Wired { wire with server } where
  sound := wired.sound
  holds write member := (holds_service (wired.holds write member) (wired.rests write member) stepped).1
  rests write member := (holds_service (wired.holds write member) (wired.rests write member) stepped).2
  sent := wired.sent
  addressed := wired.addressed
  delivered := wired.delivered

omit [DecidableEq Id] in
theorem Wire.replied_eq (wire : Wire Id Reader) (id : Id) :
    wire.replied id = wire.server.handled id := rfl

private theorem wired_handle {id : Id} {server : Server Id} (wired : Wired wire)
    (allowed : ¬ Spoils wire (.service (.handle id)))
    (stepped : wire.server.step settings (.handle id) = some server) :
    Wired (wire.serve server (.handle id)) := by
  cases replied : wire.replied id with
  | none =>
    simp only [Wire.serve, replied]
    exact wired_server wired stepped
  | some handled =>
    obtain ⟨connection, bytes, session, found, arrived, framed, handler⟩ :=
      Server.handled_iff.mp ((wire.replied_eq id).symm.trans replied)
    have placed : server.sessions id = some (connection.after handled) := by
      simp only [Server.step, found, Option.bind_some, Server.handleRead, arrived, framed, handler,
        Option.map_some] at stepped
      rw [← Option.some.inj stepped]
      exact Function.update_self ..
    have unwritten := reads_unwritten wired found (by rw [arrived]; exact ReadState.noConfusion)
    have replaced := wired_replaced (wired_server wired stepped) unwritten
      (if handled.reading = some .header then
        Function.update wire.generation id (wire.generation id + 1) else wire.generation)
      (fun other different => by
        split
        · exact Function.update_of_ne different ..
        · rfl)
    simp only [Wire.serve, replied]
    cases written : handled.written with
    | none => simpa only [Option.map_none, Option.toList_none, List.append_nil] using replaced
    | some buffer =>
      obtain ⟨whole, limited, command, ⟨alive, _⟩ | ⟨ended, packet⟩⟩ :=
        readDataUnitHandler_written handler written
      · have taken := Server.whole_iff.mpr ⟨bytes, session, arrived, framed, limited⟩
        exact absurd ⟨connection, found, whole, taken, command, alive⟩ allowed
      · refine wired_started replaced ⟨buffer, ?_, buffer.window_eq⟩ (fun other number same => ?_)
          rfl (fun vin none => by cases none)
        · exact Wire.buffer_packet.mpr ⟨by simp [ended], connection.after handled, placed, packet⟩
        · cases same
          refine ⟨connection.after handled, placed, ?_⟩
          unfold Connection.after
          rw [ended]

variable [LawfulByteBuffer] [DecidableEq Reader]

omit [DecidableEq Id] in
private theorem wired_read {reader : Reader} {after : ResponseReader} (wired : Wired wire)
    (allowed : ¬ Spoils wire (.reader reader event))
    (stepped : (wire.readers reader).step event = some after) :
    Wired { wire with readers := Function.update wire.readers reader after } := by
  refine wired_readers wired ((wired.sound reader).step stepped) fun write member source => ?_
  obtain ⟨buffer, allocated, bytes⟩ := wired.holds write member
  rw [source] at allocated
  have same : buffer = (wire.readers reader).responseBuf := (Option.some.inj allocated).symm
  subst same
  rcases ResponseReader.step_array stepped with kept | ⟨read, rfl, stored⟩
  · rw [kept]
    exact bytes
  · rw [stored]
    by_contra spoilt
    exact allowed ⟨write, member, source, spoilt⟩

private theorem wired_forward {reader : Reader} {answered : ResponseReader} {id : Id}
    {server : Server Id} (wired : Wired wire) (standing : (wire.readers reader).place = .answering)
    (moved : (wire.readers reader).step .answer = some answered)
    (found : wire.forwardee reader = some id)
    (responds : wire.server.step settings (.respond (wire.readers reader).vin) = some server) :
    Wired { wire with
      server
      readers := Function.update wire.readers reader answered
      pending := wire.pending ++ [⟨id, .response reader, (wire.readers reader).responseBuf.position, [],
        (wire.readers reader).responseBuf.window, some (wire.readers reader).vin⟩] } := by
  have judged : (wire.readers reader).responseStatus.judged = true := by
    unfold Wire.forwardee at found
    split at found
    · exact ResponseReader.judged_of_forwards ‹_›
    · cases found
  have held := (wired.sound reader).answered standing judged
  have allocated : some (Function.update wire.readers reader answered reader).responseBuf =
      some (wire.readers reader).responseBuf := by
    rw [Function.update_self]
    cases ResponseReader.step_cases moved with
    | answered => rfl
  have harmless : ¬ Spoils wire (.reader reader .answer) := fun bad => bad
  have readers := wired_read wired harmless moved
  refine wired_started (wired_server readers responds) ⟨_, allocated, ByteBuffer.window_eq _⟩
    (fun _ _ other => by cases other) rfl fun vin same => ?_
  cases same
  exact held.vin.symm

/-- Every step but a spoiling one leaves each pending write what it was given. -/
theorem wired_step {after : Wire Id Reader} {event : WireEvent Id Reader} (wired : Wired wire)
    (allowed : ¬ Spoils wire event) (stepped : wire.step settings event = some after) :
    Wired after := by
  cases Wire.step_cases stepped with
  | @service event server spontaneous moved =>
    cases event with
    | handle id => exact wired_handle wired allowed moved
    | accept | arrive | breaks | expire | timeout | respond | writeDone | writeFailed =>
      exact wired_server wired moved
  | read other moved => exact wired_read wired allowed moved
  | answered standing moved nobody => exact wired_read wired allowed moved
  | forwarded standing moved found responds => exact wired_forward wired standing moved found responds
  | timeout awake =>
    refine wired_readers wired (wired.sound _).expire fun write member source => ?_
    obtain ⟨buffer, allocated, bytes⟩ := wired.holds write member
    rw [source] at allocated
    cases allocated
    exact bytes
  | transmitted found sends => exact wired_transmitted wired found sends
  | @completed k write _ found whole moved =>
    have member := List.mem_of_getElem? found
    have base := wired_removed (wired_server wired moved) k
    refine ⟨base.sound, base.holds, base.rests, base.sent, base.addressed, fun other there => ?_⟩
    rcases List.mem_append.mp there with before | added
    · exact base.delivered other before
    · rw [List.mem_singleton.mp added]
      refine ⟨?_, wired.addressed write member⟩
      rw [wired.sent write member, whole, List.take_length]
  | failed found moved => exact wired_removed (wired_server wired moved) _

/-- As long as nothing spoils the buffer of a pending write, it is allocated and holds
what the write was given until its handler runs, and each vehicle receives what its
writes were given: its own responses. -/
theorem writes_send_given
    (reach : Reach (asyncWrites Id Reader settings) (fun wire event => ¬ Spoils wire event) wire) :
    (∀ write ∈ wire.pending, wire.Holds write ∧
        write.sent = write.given.take write.sent.length) ∧
      ∀ write ∈ wire.delivered, write.sent = write.given ∧
        ∀ vin ∈ write.vin, DataPacketHeader.vin write.sent = vin := by
  have wired : Wired wire := by
    apply reach.invariant
    · rintro wire rfl
      exact ⟨fun _ => .initial, fun _ none => (by cases none), fun _ none => (by cases none),
        fun _ none => (by cases none), fun _ none => (by cases none), fun _ none => (by cases none)⟩
    · intro before event after wired allowed stepped
      exact wired_step wired allowed stepped
  refine ⟨fun write member => ⟨wired.holds write member, wired.sent write member⟩,
    fun write member => ?_⟩
  obtain ⟨same, addressed⟩ := wired.delivered write member
  exact ⟨same, fun vin found => same.symm ▸ addressed vin found⟩

end Steps

def loginForwarded : List (WireEvent Nat Unit) :=
  (logsIn 0).map .service ++
    (readsFrame (sampleResponse .vehicleLogin 65)).map (.reader ()) ++ [.reader () .answer]

theorem writes_send_given_once :
    ∃ wire : Wire Nat Unit, wire.delivered ≠ [] ∧ ∀ write ∈ wire.delivered,
      write.sent = write.given := by
  let := ByteBuffer.reference
  have := ByteBuffer.reference_lawful
  have initial : Reach (asyncWrites Nat Unit ⟨some .release, []⟩)
      (fun wire event => ¬ Spoils wire event) (.initial Nat Unit) := .start rfl
  obtain ⟨wire, reach, delivered⟩ := initial.exists_of_schedule (fun wire => wire.delivered ≠ [])
    (loginForwarded ++ [.transmit 0 (sampleResponse .vehicleLogin 65), .complete 0]) (by decide +kernel)
  exact ⟨wire, delivered, fun write member => ((writes_send_given reach).2 write member).1⟩

/-- The reader reads the response to another vehicle's login before the write of the
first one is sent. -/
theorem other_response_sent :
    ∃ wire : Wire Nat Unit,
      Reachable (@asyncWrites Nat Unit _ _ ByteBuffer.reference ⟨some .release, []⟩) wire ∧
      ∃ write ∈ wire.delivered, write.vin = some (List.replicate 17 65) ∧
        DataPacketHeader.vin write.given = List.replicate 17 65 ∧
        DataPacketHeader.vin write.sent = List.replicate 17 66 := by
  let := ByteBuffer.reference
  have initial : Reachable (asyncWrites Nat Unit ⟨some .release, []⟩) (.initial Nat Unit) :=
    .start rfl
  exact initial.exists_of_schedule
    (fun wire => ∃ write ∈ wire.delivered, write.vin = some (List.replicate 17 65) ∧
      DataPacketHeader.vin write.given = List.replicate 17 65 ∧
      DataPacketHeader.vin write.sent = List.replicate 17 66)
    (loginForwarded ++ (readsFrame (sampleResponse .vehicleLogin 66)).map (.reader ()) ++
      [.transmit 0 (sampleResponse .vehicleLogin 66), .complete 0]) (by decide +kernel)

end MotorInfoUpload
