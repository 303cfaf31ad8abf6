import MotorInfoUpload.Session.Moves
import MotorInfoUpload.Session.Regions

namespace MotorInfoUpload

open Machine Grammar

namespace Filter

variable [ByteBufferApi] [LawfulByteBuffer] {packet : ByteBuffer} {filter : Filter}

omit [ByteBufferApi] [LawfulByteBuffer] in
theorem Ready.inside (ready : Ready packet filter)
    (given : filter.packetRef.position + count ≤ filter.packetRef.limit) :
    Region.Inside packet.array.length
      ⟨filter.rtData.capacity, filter.rtData.position, count⟩ := by
  have inside := filter.packetRef.limit_le
  have behind := ready.behind
  rw [ready.array] at inside
  refine ⟨ready.capacity, ?_⟩
  change filter.rtData.position + count ≤ packet.array.length
  omega

omit [LawfulByteBuffer] in
theorem putLogged_inside (ready : Ready packet filter) :
    (filter.putLogged count).Each (Region.Inside packet.array.length) := by
  intro region member
  unfold putLogged at member
  dsimp only at member
  split at member
  · rename_i given
    rw [List.mem_singleton.mp member]
    exact ready.inside given
  · cases member

theorem put_ready {after : Filter} (ready : Ready packet filter)
    (success : filter.put count = .ok after) : Ready packet after :=
  (put_reads count).ready ready success

omit [LawfulByteBuffer] in
theorem putFaultsLogged_inside (ready : Ready packet filter) :
    filter.putFaultsLogged.Each (Region.Inside packet.array.length) :=
  (Logged.each_quiet _).bind fun _ _ => putLogged_inside ready

theorem putFaults_ready {after : Filter} (ready : Ready packet filter)
    (success : filter.putFaultsLogged.result = .ok after) : Ready packet after :=
  putFaults_reads.ready ready (putFaultsLogged_result filter ▸ success)

theorem putAlarmLogged_inside (ready : Ready packet filter) :
    filter.putAlarmLogged.Each (Region.Inside packet.array.length) := by
  refine (putLogged_inside ready).bind fun head put => ?_
  have headReady := put_ready ready put
  refine (putFaultsLogged_inside headReady).bind fun battery first => ?_
  have batteryReady := putFaults_ready headReady first
  refine (putFaultsLogged_inside batteryReady).bind fun motor second => ?_
  have motorReady := putFaults_ready batteryReady second
  refine (putFaultsLogged_inside motorReady).bind fun engine third => ?_
  exact putFaultsLogged_inside (putFaults_ready motorReady third)

theorem switchLogged_inside (typ : UInt8) (ready : Ready packet filter) :
    (filter.switchLogged typ).Each (Region.Inside packet.array.length) := by
  unfold switchLogged
  repeat' split
  · exact putLogged_inside ready
  · exact putLogged_inside ready
  · exact putLogged_inside ready
  · exact putLogged_inside ready
  · exact putAlarmLogged_inside ready
  all_goals exact Logged.each_quiet _

theorem blocksLogged_inside (small : packet.array.length < 65534) (ready : Ready packet filter)
    (ended : filter.blocksLogged fuel = some looped) :
    looped.Each (Region.Inside packet.array.length) := by
  induction fuel generalizing filter looped with
  | zero =>
    unfold blocksLogged at ended
    split at ended
    · cases ended
    · cases ended
      exact Logged.each_quiet _
  | succ fuel ih =>
    have round : filter.blockLogged.Each (Region.Inside packet.array.length) :=
      (Logged.each_quiet _).bind fun typ _ => switchLogged_inside typ ready
    unfold blocksLogged at ended
    split at ended
    · rename_i more
      dsimp only at ended
      split at ended
      · cases ended
        exact round
      · rename_i next went
        obtain ⟨rest, later, rfl⟩ := Option.map_eq_some_iff.mp ended
        have nonempty : filter.packetRef.window ≠ [] := by
          rw [LawfulByteBuffer.remaining_eq, ← ByteBuffer.window_length] at more
          exact List.ne_nil_of_length_pos (by omega)
        rw [blockLogged_result] at went
        obtain ⟨_, _, _, moved⟩ := block_sound small ready nonempty went
        exact (ih moved.ready later).after round
    · cases ended
      exact Logged.each_quiet _

theorem finishLogged_inside (ready : Ready packet filter)
    (atUnit : DataPacketHeader.size ≤ packet.array.length) :
    filter.finishLogged.Each (Region.Inside packet.array.length) := by
  intro region member
  unfold finishLogged at member
  dsimp only at member
  split at member
  · rename_i one
    rw [LawfulByteBuffer.remaining_eq] at one
    rcases List.mem_pair.mp member with rfl | rfl
    · exact ⟨ready.capacity, atUnit⟩
    · exact ready.inside (by omega)
  · cases member

theorem finish_quiet (ready : Ready packet filter) (what : String) :
    filter.finish ≠ .error (.byteBuffer what) := by
  intro failed
  unfold finish at failed
  by_cases one : ByteBufferApi.remaining filter.packetRef = 1
  · have given : filter.packetRef.position + 1 ≤ filter.packetRef.limit := by
      rw [LawfulByteBuffer.remaining_eq] at one
      omega
    have room : (filter.rtData.withArray (DataPacketHeader.setDataUnitLength filter.rtData.array
        (UInt16.ofNat (filter.rtData.position - DataPacketHeader.size)))
        DataPacketHeader.setDataUnitLength_length).position <
          (filter.rtData.withArray (DataPacketHeader.setDataUnitLength filter.rtData.array
            (UInt16.ofNat (filter.rtData.position - DataPacketHeader.size)))
            DataPacketHeader.setDataUnitLength_length).limit := by
      change filter.rtData.position < filter.rtData.limit
      rw [ready.unlimited, ready.capacity]
      exact (ready.inside given).2
    simp only [one, ne_eq, not_true, if_false] at failed
    generalize filter.rtData.withArray (DataPacketHeader.setDataUnitLength filter.rtData.array
      (UInt16.ofNat (filter.rtData.position - DataPacketHeader.size)))
      DataPacketHeader.setDataUnitLength_length = written at room failed
    have stored (byte : UInt8) : ByteBufferApi.put written byte = .ok (written.store [byte] room) :=
      LawfulByteBuffer.put_room written room
    unfold Util.generateBlockCheckCharacter at failed
    split at failed
    · cases failed
    · simp only [bind, Except.bind, stored] at failed
      cases failed
  · simp only [one, ne_eq, not_false_iff, if_true] at failed
    cases failed

omit [ByteBufferApi] [LawfulByteBuffer] in
theorem rethrow_quiet (exception : Exception) (what : String) :
    rethrow exception ≠ .byteBuffer what := by
  cases exception <;> exact Exception.noConfusion

theorem beginLogged_inside (atUnit : packet.position = DataPacketHeader.size) :
    (beginLogged packet).Each (Region.Inside packet.array.length) ∧
      ∀ filter, (beginLogged packet).result = .ok filter → Ready packet filter := by
  obtain ⟨size, position, limit⟩ := LawfulByteBuffer.allocate_fresh packet.capacity
  obtain ⟨rtData, copied, ready, _⟩ := header_put atUnit
  have inside := packet.position_le
  have whole := packet.limit_le
  unfold beginLogged
  simp only [copied]
  constructor
  · refine Logged.Each.bind ?_ fun header started => ?_
    · intro region member
      rw [List.mem_singleton.mp member]
      refine ⟨size, ?_⟩
      change (ByteBufferApi.allocate packet.capacity).position + DataPacketHeader.size ≤ _
      omega
    · cases started
      exact putLogged_inside ready
  · intro filter started
    rw [Logged.result_bind] at started
    exact put_ready ready started

end Filter

section Session

variable [ByteBufferApi] [LawfulByteBuffer]

theorem parseUploadLogged_inside {packet : ByteBuffer} {logged : Logged Region Exception ByteBuffer}
    (atUnit : packet.position = DataPacketHeader.size) (small : packet.array.length < 65534)
    (ended : parseUploadLogged fuel packet = some logged) :
    logged.Each (Region.Inside packet.array.length) ∧
      ∀ what, logged.result ≠ .error (.byteBuffer what) := by
  obtain ⟨written, readies⟩ := Filter.beginLogged_inside atUnit
  unfold parseUploadLogged at ended
  dsimp only at ended
  split at ended
  · rename_i exception failed
    cases ended
    refine ⟨written, fun what same => ?_⟩
    obtain ⟨earlier, _, rethrown⟩ := Logged.mapError_error.mp failed
    exact Filter.rethrow_quiet earlier what (rethrown.trans (Except.error.inj same))
  · rename_i filter started
    obtain ⟨looped, blocks, rfl⟩ := Option.map_eq_some_iff.mp ended
    have ready : Filter.Ready packet filter := readies filter (Logged.mapError_ok.mp started)
    have left (last : Filter) (succeeded : looped.result = .ok last) : Filter.Ready packet last := by
      have plain : filter.blocks fuel = some (.ok last) := by
        rw [← Filter.blocksLogged_result, blocks, Option.map_some, succeeded]
      obtain ⟨_, _, moved, _⟩ := Filter.blocks_sound small ready plain
      exact moved.ready
    have header : DataPacketHeader.size ≤ packet.array.length := by
      have position := packet.position_le
      have whole := packet.limit_le
      omega
    constructor
    · refine Logged.Each.after written (Logged.Each.bind ?_ fun last succeeded => ?_)
      · exact (Filter.blocksLogged_inside small ready blocks).mapError
      · exact Filter.finishLogged_inside (left last (Logged.mapError_ok.mp succeeded)) header
    · intro what failed
      have plain : (looped.mapError Filter.rethrow >>= Filter.finishLogged).result =
          .error (.byteBuffer what) := failed
      rw [Logged.result_bind] at plain
      cases result : (looped.mapError Filter.rethrow).result with
      | ok last =>
        rw [result] at plain
        exact Filter.finish_quiet (left last (Logged.mapError_ok.mp result)) what plain
      | error exception =>
        obtain ⟨earlier, _, rethrown⟩ := Logged.mapError_error.mp result
        rw [result] at plain
        exact Filter.rethrow_quiet earlier what (rethrown.trans (Except.error.inj plain))

variable {session : TcpSession}

/-- Every region that `parseDataUnit` writes is inside a packet buffer. -/
theorem TcpSession.FrameRead.regions_inside (read : session.FrameRead) :
    ∀ region ∈ session.regions, region.Inside MAXPACK_LENGTH := by
  have small : session.packetRef.array.length < 65534 := by rw [read.capacity]; decide
  intro region member
  unfold TcpSession.regions at member
  dsimp only at member
  split at member
  · cases ended : parseUploadLogged session.packetRef.window.length session.packetRef with
    | none =>
      rw [ended] at member
      cases member
    | some logged =>
      rw [ended] at member
      have inside := (parseUploadLogged_inside read.atUnit small ended).1 region member
      rw [read.capacity] at inside
      exact inside
  split at member
  · rcases List.mem_pair.mp member with rfl | rfl
    · refine ⟨read.capacity, ?_⟩
      change 3 + 1 ≤ MAXPACK_LENGTH
      decide
    · refine ⟨read.capacity, ?_⟩
      change session.packetRef.position + 1 ≤ MAXPACK_LENGTH
      rw [read.atUnit]
      decide
  · cases member

private theorem replyHeartBeat_quiet (read : session.FrameRead) (what : String) :
    replyHeartBeat session ≠ .error (.byteBuffer what) := by
  intro failed
  by_cases bare : session.dataUnitLen = 0
  · obtain ⟨reply, replied, _⟩ := replyHeartBeat_ok read bare
    rw [replied] at failed
    cases failed
  · unfold replyHeartBeat at failed
    rw [if_neg fun both => bare both.2] at failed
    cases failed

/-- No buffer exception leaves `parseDataUnit`. -/
theorem TcpSession.FrameRead.parseDataUnit_quiet {Id : Type} (read : session.FrameRead) (self : Id)
    (table : SessionTable Id) (what : String) :
    parseDataUnit self session table ≠ some (.error (.byteBuffer what)) := by
  intro failed
  unfold parseDataUnit parseDataUnitWithin at failed
  rw [if_neg (not_not_intro read.atUnit)] at failed
  simp only [rewindPacket_ok] at failed
  split at failed
  · obtain ⟨outcome, parsed, same⟩ := Option.map_eq_some_iff.mp failed
    rw [← parseUploadLogged_result] at parsed
    obtain ⟨logged, ended, rfl⟩ := Option.map_eq_some_iff.mp parsed
    have small : session.packetRef.array.length < 65534 := by rw [read.capacity]; decide
    refine (parseUploadLogged_inside read.atUnit small ended).2 what ?_
    cases result : logged.result with
    | ok rtData => rw [result] at same; cases same
    | error exception => rw [result] at same; cases same; rfl
  split at failed
  · cases failed
  split at failed
  · cases failed
  split at failed
  · cases replied : replyHeartBeat session with
    | ok packetRef => rw [replied] at failed; cases failed
    | error exception =>
      rw [replied] at failed
      cases failed
      exact replyHeartBeat_quiet read what replied
  · cases failed

end Session

section Reads

/-- The memory that the read of a session is to fill. -/
def Connection.target (connection : Connection) : Option Region :=
  connection.read.reading.map fun reading => match reading with
    | .header => ⟨connection.session.packetRef.capacity, 0, DataPacketHeader.size⟩
    | .dataUnit => ⟨connection.session.packetRef.capacity, connection.session.packetRef.position,
        connection.session.dataUnitLen + 1⟩

variable [ByteBufferApi]

/-- A session stays within its buffers: its read, the setting of position and limit by
the handler of that read, and all that `parseDataUnit` does with the frame. -/
structure Connection.Within (Id : Type) (connection : Connection) : Prop where
  target : ∀ region ∈ connection.target, region.Inside MAXPACK_LENGTH
  positioned : connection.read = .arrived .header bytes → ∃ packetRef positioned,
    connection.session.packetRef.receive 0 bytes = some packetRef ∧
      ByteBufferApi.setPosition packetRef DataPacketHeader.size = .ok positioned
  limited : connection.read = .arrived .dataUnit bytes → ∃ session whole,
    Server.framed connection bytes = some session ∧ session.limited = .ok whole
  written : ∀ session ∈ Server.whole connection, ∀ region ∈ session.regions,
    region.Inside MAXPACK_LENGTH
  quiet : ∀ session ∈ Server.whole connection, ∀ (self : Id) table what,
    parseDataUnit self session table ≠ some (.error (.byteBuffer what))

variable {Id : Type} [DecidableEq Id] {settings : Settings} {server after : Server Id}

/-- The header of an admitted vehicle declares a frame that is longer than a packet
buffer. -/
def HeaderOverruns (settings : Settings) (connection : Connection) : ReadState → Prop
  | .arrived .header bytes =>
    TcpSession.admits settings (connection.session.vinAfter bytes) = true ∧
      MAXPACK_LENGTH < DataPacketHeader.size + DataPacketHeader.dataUnitLength bytes + 1
  | _ => False

instance (settings : Settings) (connection : Connection) (read : ReadState) :
    Decidable (HeaderOverruns settings connection read) :=
  match read with
  | .arrived .header _ => inferInstanceAs (Decidable (_ ∧ _))
  | .arrived .dataUnit _ | .idle | .waiting _ | .broken _ => .isFalse fun bad => bad

def Overruns (settings : Settings) (server : Server Id) : ServiceEvent Id → Prop
  | .handle id => ∃ connection ∈ server.sessions id, HeaderOverruns settings connection connection.read
  | _ => False

instance (settings : Settings) (server : Server Id) (event : ServiceEvent Id) :
    Decidable (Overruns settings server event) :=
  match event with
  | .handle _ => inferInstanceAs (Decidable (∃ _ ∈ _, _))
  | .accept _ | .arrive _ _ | .breaks _ | .expire _ | .timeout _ | .respond _ | .writeDone _
  | .writeFailed _ => .isFalse fun bad => bad

/-- The rest of the frame that a session waits for fits into its packet buffer. -/
def Connection.Fits (connection : Connection) : Prop :=
  connection.read.reading = some .dataUnit →
    DataPacketHeader.size + connection.session.dataUnitLen + 1 ≤ MAXPACK_LENGTH

variable [LawfulByteBuffer]

omit [DecidableEq Id] in
theorem Connection.Sound.within {connection : Connection} (sound : connection.Sound settings)
    (fits : connection.Fits) : connection.Within Id where
  target region member := by
    obtain ⟨reading, reads, rfl⟩ := Option.map_eq_some_iff.mp member
    cases reading with
    | header =>
      refine ⟨(sound.header reads).capacity, ?_⟩
      change 0 + DataPacketHeader.size ≤ MAXPACK_LENGTH
      decide
    | dataUnit =>
      refine ⟨(sound.unit reads).capacity, ?_⟩
      change connection.session.packetRef.position + (connection.session.dataUnitLen + 1) ≤ _
      rw [(sound.unit reads).start, ← Nat.add_assoc]
      exact fits reads
  positioned arrived := by
    have reads : connection.read.reading = some .header := by rw [arrived]; rfl
    obtain ⟨packetRef, stored, capacity, limit, _⟩ :=
      (sound.header reads).stored (sound.whole arrived)
    have inside : DataPacketHeader.size ≤ packetRef.limit := by rw [limit]; decide
    exact ⟨packetRef, _, stored, LawfulByteBuffer.setPosition_inside packetRef inside⟩
  limited {bytes} arrived := by
    have reads : connection.read.reading = some .dataUnit := by rw [arrived]; rfl
    have size : bytes.length = connection.session.dataUnitLen + 1 := sound.whole arrived
    have room : connection.session.packetRef.position + bytes.length ≤
        connection.session.packetRef.array.length := by
      rw [(sound.unit reads).start, (sound.unit reads).capacity, size, ← Nat.add_assoc]
      exact fits reads
    have stored := ByteBuffer.receive_eq room
    obtain ⟨whole, limited, _⟩ := (sound.unit reads).whole size stored
    exact ⟨_, whole, congrArg (Option.map _) stored, limited⟩
  written session member := by
    obtain ⟨_, _, read, _⟩ := sound.wholeRead member
    exact read.regions_inside
  quiet session member self table what := by
    obtain ⟨_, _, read, _⟩ := sound.wholeRead member
    exact read.parseDataUnit_quiet self table what

def Server.Fits (server : Server Id) : Prop :=
  ∀ id connection, server.sessions id = some connection → connection.Fits

structure Server.Bounded (settings : Settings) (server : Server Id) : Prop where
  sound : server.Sound settings
  fits : server.Fits

omit [DecidableEq Id] [ByteBufferApi] [LawfulByteBuffer] in
private theorem fits_otherwise {connection : Connection}
    (other : connection.read.reading ≠ some .dataUnit) : connection.Fits :=
  fun reads => absurd reads other

omit [ByteBufferApi] [LawfulByteBuffer] in
private theorem fits_put {id : Id} {connection : Connection} (fits : server.Fits)
    (added : connection.Fits) : (server.put id connection).Fits := by
  intro other found present
  by_cases here : other = id
  · subst here
    rw [Server.put_same] at present
    exact Option.some.inj present ▸ added
  · rw [Server.put_other here] at present
    exact fits other found present

/-- Only a header that declares too long a frame leads out of the packet buffer. -/
private theorem fits_step {event : ServiceEvent Id} (sound : server.Sound settings)
    (fits : server.Fits) (allowed : ¬ Overruns settings server event)
    (moved : Server.Move settings server event after) : after.Fits := by
  cases moved with
  | accepted absent => exact fits_put fits (fits_otherwise (by simp [ReadState.reading]))
  | @arrived connection reading bytes id found waiting opened size =>
    refine fits_put fits fun reads => fits id connection found ?_
    rw [waiting]
    exact reads
  | @broke connection reading id found waiting =>
    refine fits_put fits fun reads => fits id connection found ?_
    rw [waiting]
    exact reads
  | ended found broken =>
    exact fits_put fits (fits_otherwise (by simp [Connection.after, Handled.stopped, ReadState.reading]))
  | @header connection bytes packetRef outcome id found arrived stored result =>
    have handled := (sound id connection found).headerHandled server.table arrived stored
    rw [result] at handled
    refine fits_put fits ?_
    cases handled with
    | admitted admitted standing =>
      intro _
      refine Nat.le_of_not_lt fun beyond => allowed ⟨connection, found, ?_⟩
      rw [arrived]
      exact ⟨admitted, beyond⟩
    | refused =>
      exact fits_otherwise (by simp [Connection.after, Handled.stopped, ReadState.reading])
  | @unit connection bytes session outcome id found arrived framed result =>
    refine fits_put fits (fits_otherwise ?_)
    cases TcpSession.readDataUnitHandler_cases result with
    | overrun | rejected | ended | continues =>
      simp [Connection.after, Handled.stopped, ReadState.reading]
  | @expired connection id found armed | @timedOut connection id found due
  | @responded vin connection id named found | @written connection id found pending
  | @failed connection id found pending =>
    exact fits_put fits (fits id connection found)

private theorem overruns_outside {event : ServiceEvent Id} (sound : server.Sound settings)
    (beyond : Overruns settings server event) (moved : Server.Move settings server event after) :
    ∃ id connection, after.sessions id = some connection ∧
      ∃ region ∈ connection.target, ¬ region.Inside MAXPACK_LENGTH := by
  cases moved with
  | @header connection bytes packetRef outcome id found arrived stored result =>
    obtain ⟨other, present, long⟩ := beyond
    cases Option.some.inj (found.symm.trans present)
    rw [arrived] at long
    obtain ⟨admitted, long⟩ := long
    have handled := (sound id connection found).headerHandled server.table arrived stored
    rw [result] at handled
    cases handled with
    | @admitted positioned allowed standing =>
      refine ⟨id, _, Server.put_same .., _, rfl, fun inside => ?_⟩
      have ends : positioned.position + (DataPacketHeader.dataUnitLength bytes + 1) ≤
          MAXPACK_LENGTH := inside.2
      have start : positioned.position = DataPacketHeader.size := standing.start
      omega
    | refused refused => exact absurd admitted refused
  | @ended connection reading id found broken =>
    obtain ⟨other, present, long⟩ := beyond
    cases Option.some.inj (found.symm.trans present)
    rw [broken] at long
    exact long.elim
  | @unit connection bytes session outcome id found arrived framed result =>
    obtain ⟨other, present, long⟩ := beyond
    cases Option.some.inj (found.symm.trans present)
    rw [arrived] at long
    exact long.elim
  | accepted | arrived | broke | expired | timedOut | responded | written | failed =>
    exact beyond.elim

/-- As long as no admitted vehicle declares a frame longer than a packet buffer, every
session stays within its buffers; and it is such a declaration, and nothing else, that
makes a session read beyond them. -/
theorem buffers_not_overrun
    (reach : Reach (vehicleService Id settings)
      (fun server event => ¬ Overruns settings server event) server) :
    (∀ id connection, server.sessions id = some connection → connection.Within Id) ∧
    ∀ event after, server.step settings event = some after →
      (Overruns settings server event ↔ ∃ id connection, after.sessions id = some connection ∧
        ∃ region ∈ connection.target, ¬ region.Inside MAXPACK_LENGTH) := by
  have bounded : server.Bounded settings := by
    apply reach.invariant
    · rintro server rfl
      exact ⟨fun _ _ none => (by cases none), fun _ _ none => (by cases none)⟩
    · intro before event after earlier allowed stepped
      exact ⟨earlier.sound.step stepped,
        fits_step earlier.sound earlier.fits allowed (Server.step_cases stepped)⟩
  obtain ⟨sound, fits⟩ := bounded
  refine ⟨fun id connection found => (sound id connection found).within (fits id connection found),
    fun event after stepped => ⟨fun beyond => ?_, ?_⟩⟩
  · exact overruns_outside sound beyond (Server.step_cases stepped)
  · rintro ⟨id, connection, found, region, member, outside⟩
    by_contra allowed
    have still := fits_step sound fits allowed (Server.step_cases stepped)
    have within : connection.Within Id :=
      (sound.step stepped id connection found).within (still id connection found)
    exact outside (within.target region member)

end Reads

theorem buffers_not_overrun_login : ∃ (server : Server Nat) (connection : Connection),
    server.sessions 0 = some connection ∧ @Connection.Within ByteBuffer.reference Nat connection := by
  let := ByteBuffer.reference
  have := ByteBuffer.reference_lawful
  have initial : Reach (vehicleService Nat ⟨some .release, []⟩)
      (fun server event => ¬ Overruns ⟨some .release, []⟩ server event) (.initial Nat) := .start rfl
  obtain ⟨server, reach, present⟩ := initial.exists_of_schedule
    (fun server => (server.sessions 0).isSome = true) ((logsIn 0).take 4) (by decide +kernel)
  obtain ⟨connection, found⟩ := Option.isSome_iff_exists.mp present
  exact ⟨server, connection, found, (buffers_not_overrun reach).1 0 connection found⟩

/-- A realtime header that declares 488 bytes, one more than a packet buffer has room
for behind a header. -/
def longHeader : List UInt8 := [35, 35, 2, 254] ++ List.replicate 17 65 ++ [1, 1, 232]

theorem long_header_overruns : ∃ server : Server Nat,
    Reachable (@vehicleService ByteBuffer.reference Nat _ ⟨some .release, []⟩) server ∧
    ∃ connection ∈ server.sessions 0, ∃ region ∈ connection.target,
      ¬ region.Inside MAXPACK_LENGTH := by
  let := ByteBuffer.reference
  have initial : Reachable (vehicleService Nat ⟨some .release, []⟩) (.initial Nat) := .start rfl
  exact initial.exists_of_schedule
    (fun server => ∃ connection ∈ server.sessions 0, ∃ region ∈ connection.target,
      ¬ region.Inside MAXPACK_LENGTH) [.accept 0, .arrive 0 longHeader, .handle 0] (by decide +kernel)

end MotorInfoUpload
