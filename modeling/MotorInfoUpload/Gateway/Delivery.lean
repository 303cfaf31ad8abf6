import MotorInfoUpload.Machine.History
import MotorInfoUpload.Session.Framing
import MotorInfoUpload.Session.Format
import MotorInfoUpload.Forwarder.PartialSend
import MotorInfoUpload.Forwarder.Origin
import MotorInfoUpload.Forwarder.Marking
import MotorInfoUpload.Gateway.System

namespace MotorInfoUpload

open Machine

/-- The packet with a number is made of the frame that follows those of the packets before it. -/
theorem Outputs.split (outputs : Outputs frames packets replies) (found : packets[k]? = some packet) :
    ∃ before frame after earlier, frames = before ++ frame :: after ∧
      Outputs before (packets.take k) earlier ∧ FrameOutput frame [packet] [] := by
  induction outputs with
  | nothing => simp at found
  | @frame frames packets replies frame last reply outputs output ih =>
    by_cases inside : k < packets.length
    · rw [List.getElem?_append_left inside] at found
      obtain ⟨before, made, after, earlier, rfl, past, single⟩ := ih found
      refine ⟨before, made, after ++ [frame], earlier, by simp, ?_, single⟩
      rwa [List.take_append_of_le_length (Nat.le_of_lt inside)]
    · rw [List.getElem?_append_right (Nat.le_of_not_lt inside)] at found
      have single : FrameOutput frame [packet] [] ∧ k = packets.length := by
        cases output with
        | reply | rejected => simp at found
        | upload command received shape start window =>
          have first : k - packets.length < 1 := (List.getElem?_eq_some_iff.mp found).1
          have same : k - packets.length = 0 := by omega
          rw [same] at found
          cases found
          exact ⟨.upload command received shape start window, by omega⟩
        | verbatim command start window =>
          have first : k - packets.length < 1 := (List.getElem?_eq_some_iff.mp found).1
          have same : k - packets.length = 0 := by omega
          rw [same] at found
          cases found
          exact ⟨.verbatim command start window, by omega⟩
      obtain ⟨single, rfl⟩ := single
      exact ⟨frames, frame, [], replies, rfl, by rwa [List.take_left' rfl], single⟩

/-- Marking a frame changes its command and its check byte only. -/
private theorem UploadFrame.remarked {frame unit time : List UInt8} {check : UInt8}
    {blocks : List (List UInt8)} (upload : UploadFrame frame unit time check blocks) :
    ∃ bcc, UploadFrame (remarked frame) unit time bcc blocks := by
  have size := upload.headerSize
  have long : 3 < frame.length := Nat.lt_trans (by decide) upload.framed.long
  have reissue := remarked_reissueOf frame long
  have counted : DataPacketHeader.dataUnitLength (MotorInfoUpload.remarked frame) =
      DataPacketHeader.dataUnitLength frame := by
    have inside := upload.framed.long
    have before : 23 < frame.length - 1 := by
      unfold DataPacketHeader.size at inside
      omega
    simp only [DataPacketHeader.dataUnitLength, List.getD_eq_getElem?_getD]
    rw [reissue.others 22 (by decide) (by omega), reissue.others 23 (by decide) (by omega)]
  refine ⟨xorBytes (DataPacketHeader.setCmdId frame .reissueUpload).dropLast, ?_, ?_, upload.shape⟩
  · rw [IsFrame, counted, reissue.size]
    exact upload.framed
  · have whole : DataPacketHeader.setCmdId frame .reissueUpload =
        DataPacketHeader.setCmdId (frame.take DataPacketHeader.size) .reissueUpload ++
          (unit ++ [check]) := by
      nth_rewrite 1 [upload.whole]
      rw [DataPacketHeader.setCmdId, DataPacketHeader.setCmdId, List.append_assoc,
        List.set_append_left _ _ (by rw [size]; decide)]
    have head : (DataPacketHeader.setCmdId (frame.take DataPacketHeader.size) .reissueUpload).length =
        DataPacketHeader.size := by rw [DataPacketHeader.setCmdId_length, size]
    have last : frame.length - 1 = DataPacketHeader.size + unit.length := by
      have counted := congrArg List.length upload.received
      have inside := upload.framed.long
      rw [List.length_drop, List.length_append, List.length_singleton] at counted
      omega
    rw [MotorInfoUpload.remarked, whole, last, List.set_append_right _ _ (by rw [head]; omega), head,
      Nat.add_sub_cancel_left, List.set_append_right _ _ (Nat.le_refl _), Nat.sub_self,
      List.drop_left' head]
    rfl

private theorem FrameOutput.remarks {frame : List UInt8} {packet : ByteBuffer}
    {replies : List ByteBuffer} (output : FrameOutput frame [packet] replies)
    (framed : IsFrame frame)
    (realtime : DataPacketHeader.cmdId frame = CmdCode.realtimeUpload.value) :
    IsFrame (remarked packet.window) ∧ Parseable (remarked packet.window) ∧
      ∀ packets others, FrameOutput (remarked packet.window) packets others →
        ∃ next, packets = [next] ∧ next.position = 0 ∧
          ((remarked packet.window)[0]? = (remarked packet.window)[1]? →
            next.window = remarked packet.window) := by
  obtain ⟨isFrame, -, itself⟩ := output.again framed
  have command := (output.header framed).1.trans realtime
  have other : ¬ Verbatim packet.window := by simp [Verbatim, command, CmdCode.value]
  obtain ⟨-, all⟩ := ((itself.unchanged_iff isFrame).mp rfl).resolve_left other
  have long : 3 < packet.window.length := Nat.lt_trans (by decide) isFrame.long
  have reissue := remarked_reissueOf packet.window long
  have upload : DataPacketHeader.cmdId (remarked packet.window) = CmdCode.realtimeUpload.value ∨
      DataPacketHeader.cmdId (remarked packet.window) = CmdCode.reissueUpload.value :=
    .inr reissue.command
  generalize bytes : packet.window = window at *
  cases itself with
  | verbatim verbatim => exact absurd verbatim other
  | @upload unit check time blocks _ _ received shape =>
    have whole : UploadFrame window unit time check blocks := ⟨isFrame, received, shape⟩
    obtain ⟨bcc, marked⟩ := whole.remarked
    refine ⟨marked.framed, .inr (.inl ⟨upload, _, _, _, _, marked.received, marked.shape⟩),
      fun packets others again => ?_⟩
    cases again with
    | verbatim verbatim => simp [Verbatim, reissue.command, CmdCode.value] at verbatim
    | reply bare =>
      have beats := bare.1
      simp [reissue.command, CmdCode.value] at beats
    | rejected refused =>
      exact absurd (.inr (.inl ⟨upload, _, _, _, _, marked.received, marked.shape⟩)) refused
    | @upload _ _ _ _ next _ received' shape' start bytes' =>
      refine ⟨next, rfl, start, fun equal => ?_⟩
      obtain ⟨rfl, -⟩ := List.append_inj' (received'.symm.trans marked.received) rfl
      obtain ⟨rfl, rfl⟩ := shape'.unique marked.shape
      have right : CheckCodeRight (remarked window) := by
        rw [remarked_checkCode window long, ← reissue.others 0 (by decide) (by omega),
          ← reissue.others 1 (by decide) (by omega)]
        exact equal
      exact bytes'.trans (marked.uploaded_eq_iff.mpr ⟨right, all _ _ _ _ received shape⟩)

/-- What the vehicles have sent and the service has made of it: the bytes that each session
has received, the frames that have been handled, in their order, and the replies. -/
structure Ledger (Id : Type) where
  received : Id → List UInt8
  handled : List (Id × List UInt8)
  replies : List ByteBuffer

variable {Id : Type} [DecidableEq Id] {n : Nat}

def Ledger.framesOf (ledger : Ledger Id) (id : Id) : List (List UInt8) :=
  (ledger.handled.filter fun entry => entry.1 = id).map Prod.snd

section Recording

variable [ByteBufferApi]

namespace Server

/-- The frame that an event handles, with its session. -/
def handling (server : Server Id) : ServiceEvent Id → Option (Id × List UInt8)
  | .handle id => (server.handles id (.handle id)).map fun frame => (id, frame)
  | _ => none

def replying (server : Server Id) : ServiceEvent Id → Option ByteBuffer
  | .handle id => server.answers id (.handle id)
  | _ => none

end Server

def Ledger.note (ledger : Ledger Id) (before : Gateway Id n) :
    GatewayEvent Id n → Gateway Id n → Ledger Id
  | .service event, _ => {
      received := fun id => ledger.received id ++ event.delivers id
      handled := ledger.handled ++ (before.server.handling event).toList
      replies := ledger.replies ++ (before.server.replying event).toList }
  | .forward _, _ => ledger

def ledgered (Id : Type) [DecidableEq Id] (settings : Settings) (n capacity : Nat) :
    Automaton (Recorded (Gateway Id n) (Ledger Id)) (GatewayEvent Id n) :=
  (gateway Id settings n capacity).recording ⟨fun _ => [], [], []⟩ Ledger.note

end Recording

/-- A failing write of an uploader leaves the position of the packet where it was. -/
def Gateway.FailsWhole (gateway : Gateway Id n) : GatewayEvent Id n → Prop
  | .service _ => True
  | .forward action => MotorInfoUpload.FailsWhole gateway.forwarder action

instance (gateway : Gateway Id n) (event : GatewayEvent Id n) : Decidable (gateway.FailsWhole event) :=
  match event with
  | .service _ => .isTrue trivial
  | .forward _ => inferInstanceAs (Decidable (MotorInfoUpload.FailsWhole gateway.forwarder _))

section Runs

variable [ByteBufferApi] {settings : Settings} {capacity : Nat} {ledger : Ledger Id}
  {gateway after : Gateway Id n}

/-- The ledger accounts for what the sessions have read and for what has been accepted. -/
structure Ledger.Accounts (ledger : Ledger Id) (gateway : Gateway Id n) : Prop where
  cut : ∀ id, Cut (ledger.received id) (ledger.framesOf id) (gateway.server.sessions id)
  outputs : Outputs (ledger.handled.map Prod.snd) gateway.forwarder.accepted ledger.replies

omit [ByteBufferApi] in
theorem Ledger.Accounts.framed {before after : List (Id × List UInt8)} {id : Id}
    {frame : List UInt8} (accounts : ledger.Accounts gateway)
    (handled : ledger.handled = before ++ (id, frame) :: after) : IsFrame frame :=
  (accounts.cut id).frames frame (by simp [Ledger.framesOf, handled])

omit [ByteBufferApi] in
private theorem handed_accepted (state : State n) (packet : Option ByteBuffer) :
    (state.handed packet).accepted = state.accepted ++ packet.toList := by
  cases packet with
  | none => exact (List.append_nil _).symm
  | some buf => rfl

private theorem framesOf_note (event : ServiceEvent Id) (id : Id) :
    (ledger.note gateway (.service event) after).framesOf id =
      ledger.framesOf id ++ (gateway.server.handles id event).toList := by
  have own : (((gateway.server.handling event).toList.filter fun entry => entry.1 = id).map
      Prod.snd) = (gateway.server.handles id event).toList := by
    cases event with
    | handle other =>
      rcases eq_or_ne other id with rfl | different
      · cases handles : gateway.server.handles other (.handle other) <;>
          simp [Server.handling, handles]
      · have none : gateway.server.handles id (.handle other) = none := by
          rw [Server.handles, if_neg different]
        cases handles : gateway.server.handles other (.handle other) <;>
          simp [Server.handling, handles, none, different]
    | accept | arrive | breaks | expire | timeout | respond | writeDone | writeFailed => rfl
  rw [Ledger.framesOf, Ledger.note, List.filter_append, List.map_append, own]
  rfl

variable [LawfulByteBuffer]

omit [DecidableEq Id] in
private theorem outputs_note [DecidableEq Id] (sound : gateway.server.Sound settings)
    (accounts : ledger.Accounts gateway) (event : ServiceEvent Id) :
    Outputs ((ledger.note gateway (.service event) after).handled.map Prod.snd)
      (gateway.forwarder.handed (gateway.server.puts event)).accepted
      (ledger.note gateway (.service event) after).replies := by
  have outputs := accounts.outputs
  rw [handed_accepted]
  cases event with
  | handle id =>
    simp only [Ledger.note, Server.handling, Server.replying, List.map_append]
    cases handles : gateway.server.handles id (.handle id) with
    | none =>
      obtain ⟨noPacket, noReply⟩ := sound.noOutput handles
      rw [noPacket, noReply]
      simpa using outputs
    | some frame => exact outputs.frame (sound.output handles)
  | accept | arrive | breaks | expire | timeout | respond | writeDone | writeFailed =>
    simpa [Ledger.note, Server.handling, Server.replying, Server.puts] using outputs

private theorem accounts_step {event : GatewayEvent Id n} (sound : gateway.server.Sound settings)
    (accounts : ledger.Accounts gateway) (stepped : gateway.step settings event = some after) :
    (ledger.note gateway event after).Accounts after := by
  cases Gateway.step_cases stepped with
  | @service event server free moved =>
    refine ⟨fun id => ?_, outputs_note sound accounts event⟩
    rw [framesOf_note]
    exact (accounts.cut id).step sound moved
  | @forward action forwarder inner moved =>
    refine ⟨accounts.cut, ?_⟩
    have accepts : action.accepts = none := by
      cases action with
      | accept session => exact absurd rfl (inner session)
      | start | push | signal | service | outside | upload | sent | failed | drop | wakeRealtime
      | wakeReissue => rfl
    have same : forwarder.accepted = gateway.forwarder.accepted := by
      rw [(State.step_cases moved).accepted, accepts]
      exact List.append_nil _
    change Outputs _ forwarder.accepted _
    rw [same]
    exact accounts.outputs

theorem Sound.window {accepted : List ByteBuffer} {packet : Packet}
    (sound : Sound accepted packet) :
    ∃ original, accepted[packet.seq]? = some original ∧ Forwardable original ∧
      (packet.buf.window = original.window ∨
        DataPacketHeader.cmdId original.array = CmdCode.realtimeUpload.value ∧
          packet.buf.window = remarked original.window) := by
  obtain ⟨original, found, forwardable, same | marked⟩ := sound
  · exact ⟨original, found, forwardable, .inl (same ▸ rfl)⟩
  · refine ⟨original, found, forwardable, ?_⟩
    by_cases realtime : DataPacketHeader.cmdId original.array = CmdCode.realtimeUpload.value
    · exact .inr ⟨realtime, markReissue_window forwardable realtime marked⟩
    · rw [markReissue, if_neg realtime] at marked
      exact .inl (congrArg ByteBuffer.window (Except.ok.inj marked).symm)

private theorem made_of_frame (accounts : ledger.Accounts gateway)
    (kept : Kept gateway.forwarder) {place : Place n} {packet : Packet}
    (member : packet ∈ gateway.forwarder.contents place) :
    ∃ before id frame after earlier original,
      ledger.handled = before ++ (id, frame) :: after ∧
      Outputs (before.map Prod.snd) (gateway.forwarder.accepted.take packet.seq) earlier ∧
      FrameOutput frame [original] [] ∧ packet.buf.position = 0 ∧
      (packet.buf.window = original.window ∨
        DataPacketHeader.cmdId frame = CmdCode.realtimeUpload.value ∧
          packet.buf.window = remarked original.window) := by
  obtain ⟨original, found, forwardable, window⟩ := (kept.sound place packet member).window
  obtain ⟨past, frame, rest, earlier, frames, before, output⟩ := accounts.outputs.split found
  obtain ⟨front, back, whole, rfl, behind⟩ := List.map_eq_append_iff.mp frames
  obtain ⟨⟨id, handled⟩, after, rfl, rfl, -⟩ := List.map_eq_cons_iff.mp behind
  have header := window_header original forwardable.start (Nat.le_of_lt forwardable.long)
  have command : DataPacketHeader.cmdId original.array = DataPacketHeader.cmdId handled :=
    header.1.symm.trans (output.header (accounts.framed whole)).1
  exact ⟨front, id, handled, after, earlier, original, whole, before, output,
    (kept.sound place packet member).forwardable.start,
    window.imp_right (And.imp_left command.symm.trans)⟩

section Reached

variable {recorded : Recorded (Gateway Id n) (Ledger Id)}

private theorem accounts_of_reach
    (reach : Reach (ledgered Id settings n capacity) (Recorded.onState Gateway.FailsWhole) recorded) :
    recorded.log.Accounts recorded.state ∧ Kept recorded.state.forwarder := by
  have ⟨reached, accounts⟩ := reach.recorded (fun gateway ledger => ledger.Accounts gateway)
    (fun start initial => ?initial) (fun gateway ledger event after earlier accounts _ stepped =>
      accounts_step (Server.sound_of_reach (gateway_server earlier)) accounts stepped)
  case initial =>
    obtain ⟨server, forwarder⟩ := start
    obtain ⟨rfl, rfl⟩ := initial
    exact ⟨fun id => .initial, .nothing⟩
  refine ⟨accounts, kept_of_reach (gateway_forwarder_within reached (fun _ _ => trivial) ?_)⟩
  exact fun gateway action allowed => allowed

/-- From the vehicles' bytes to the packets. The bytes of each session begin with its
handled frames, one after the other; the packets accepted are what the frames give, in the
order in which they were handled. Each is in one place, once: in the hands of the service
thread or of an uploader, in a queue, or written. Wherever it is, it has the bytes that
were made of its frame, or these marked as a reissue, with all of them remaining. -/
theorem frames_delivered
    (reach : Reach (ledgered Id settings n capacity) (Recorded.onState Gateway.FailsWhole) recorded) :
    (∀ id, (recorded.log.framesOf id).flatten <+: recorded.log.received id ∧
      ∀ frame ∈ recorded.log.framesOf id, IsFrame frame) ∧
    Outputs (recorded.log.handled.map Prod.snd) recorded.state.forwarder.accepted
      recorded.log.replies ∧
    (∀ seq < recorded.state.forwarder.accepted.length, ∃ place,
      (recorded.state.forwarder.keys place).count seq = 1 ∧
      ∀ other, other ≠ place → seq ∉ recorded.state.forwarder.keys other) ∧
    ∀ place, ∀ packet ∈ recorded.state.forwarder.contents place,
      ∃ before id frame after earlier original,
        recorded.log.handled = before ++ (id, frame) :: after ∧
        Outputs (before.map Prod.snd) (recorded.state.forwarder.accepted.take packet.seq) earlier ∧
        FrameOutput frame [original] [] ∧ packet.buf.position = 0 ∧
        (packet.buf.window = original.window ∨
          DataPacketHeader.cmdId frame = CmdCode.realtimeUpload.value ∧
            packet.buf.window = remarked original.window) := by
  obtain ⟨accounts, kept⟩ := accounts_of_reach reach
  refine ⟨fun id => ⟨(accounts.cut id).begins, (accounts.cut id).frames⟩, accounts.outputs,
    fun seq below => ?_, fun place packet member => made_of_frame accounts kept member⟩
  obtain ⟨place, once, elsewhere⟩ := kept.owned.owner seq below
  exact ⟨place, once, fun other different => List.count_eq_zero.mp (elsewhere other different)⟩

/-- Whatever is uploaded is a frame of the same format: a session that reads it, here or in
another gateway behind this one, takes it, and makes the same bytes of it if the two bytes of
its start code are equal. -/
theorem delivered_again {Other : Type} {place : Place n} {packet : Packet} {again : TcpSession}
    (other : Other) (others : SessionTable Other)
    (reach : Reach (ledgered Id settings n capacity) (Recorded.onState Gateway.FailsWhole) recorded)
    (member : packet ∈ recorded.state.forwarder.contents place) (reread : again.FrameRead)
    (recounted : again.dataUnitLen = DataPacketHeader.dataUnitLength again.frame)
    (same : again.frame = packet.buf.window) :
    ∃ reparsed next, parseDataUnit other again others = some (.ok reparsed) ∧
      reparsed.packet = some next ∧ next.position = 0 ∧
      (packet.buf.window[0]? = packet.buf.window[1]? → next.window = packet.buf.window) := by
  obtain ⟨accounts, kept⟩ := accounts_of_reach reach
  obtain ⟨before, id, frame, after, earlier, original, handled, -, output, -, window⟩ :=
    made_of_frame accounts kept member
  have framed := accounts.framed handled
  rcases window with unmarked | ⟨realtime, marked⟩
  · obtain ⟨-, parseable, itself⟩ := output.again framed
    rw [← unmarked, ← same] at parseable itself
    refine reread.takes recounted parseable (fun packets replies next => ?_) other others
    obtain ⟨packet', single, start, bytes⟩ := itself.unique next
    exact ⟨packet', single, start, fun _ => bytes.trans unmarked.symm⟩
  · obtain ⟨-, parseable, next⟩ := output.remarks framed realtime
    rw [← marked, ← same] at parseable next
    rw [← same]
    exact reread.takes recounted parseable next other others

end Reached

/-- A frame of a vehicle as it leaves the gateway: the packet accepted under the number, or that
marked as a reissue. -/
structure VehicleFrame (accepted : List ByteBuffer) (seq : Nat) (frame : List UInt8) : Prop where
  framed : IsFrame frame
  legal : DataPacketHeader.cmdId frame ∈ legalCmds
  made : ∃ original, accepted[seq]? = some original ∧
    (frame = original.window ∨ frame = remarked original.window)

theorem vehicleFrame_of_reach {place : Place n} {packet : Packet}
    (reach : Reach (MotorInfoUpload.gateway Id settings n capacity) Gateway.FailsWhole gateway)
    (member : packet ∈ gateway.forwarder.contents place) :
    VehicleFrame gateway.forwarder.accepted packet.seq packet.buf.window := by
  obtain ⟨ledger, recorded⟩ : ∃ ledger, Reach (ledgered Id settings n capacity)
      (Recorded.onState Gateway.FailsWhole) ⟨gateway, ledger⟩ := reach.recording
  obtain ⟨accounts, kept⟩ : ledger.Accounts gateway ∧ Kept gateway.forwarder :=
    accounts_of_reach recorded
  have sound := kept.sound place packet member
  have header := window_header packet.buf sound.forwardable.start (Nat.le_of_lt sound.forwardable.long)
  refine ⟨?_, header.1 ▸ sound.forwardable.legal, ?_⟩
  · obtain ⟨before, id, frame, after, earlier, original, handled, -, output, -, window⟩ :=
      made_of_frame accounts kept member
    have framed := accounts.framed handled
    rcases window with unmarked | ⟨realtime, marked⟩
    · exact unmarked ▸ (output.again framed).1
    · exact marked ▸ (output.remarks framed realtime).1
  · obtain ⟨original, found, -, window⟩ := sound.window
    exact ⟨original, found, window.imp_right And.right⟩

end Runs

/-- A vehicle sends a frame, and what is made of it is written. -/
def writesFrame (frame : List UInt8) : List (GatewayEvent Nat 1) :=
  loggedIn.map .forward ++ [.service (.accept 0)] ++ sendsFrame frame ++
    [.forward (.service none), .forward (.service (some (.uploader 0))), .forward (.upload 0 none),
      .forward (.upload 0 none), .forward (.sent 0)]

private theorem frame_written [ByteBufferApi] (frame bytes : List UInt8)
    (executed : ((ledgered Nat ⟨some .release, []⟩ 1 5).run (Recorded.onState Gateway.FailsWhole)
      ⟨⟨.initial Nat, State.initial 1 5 (some .release)⟩, ⟨fun _ => [], [], []⟩⟩
      (writesFrame frame)).any (fun recorded => decide (recorded.log.handled = [(0, frame)] ∧
        recorded.state.forwarder.written.map (fun packet => packet.buf.window) = [bytes])) = true) :
    ∃ recorded packet, Reach (ledgered Nat ⟨some .release, []⟩ 1 5)
        (Recorded.onState Gateway.FailsWhole) recorded ∧
      recorded.log.handled = [(0, frame)] ∧ packet ∈ recorded.state.forwarder.contents .written ∧
      packet.buf.window = bytes := by
  have initial : Reach (ledgered Nat ⟨some .release, []⟩ 1 5) (Recorded.onState Gateway.FailsWhole)
      ⟨⟨.initial Nat, State.initial 1 5 (some .release)⟩, ⟨fun _ => [], [], []⟩⟩ :=
    .start ⟨⟨rfl, rfl⟩, rfl⟩
  obtain ⟨recorded, reach, handled, written⟩ :=
    initial.exists_of_schedule _ (writesFrame frame) executed
  obtain ⟨packet, single, window⟩ := List.map_eq_singleton_iff.mp written
  exact ⟨recorded, packet, reach, handled, by simp [State.contents, single], window⟩

theorem frames_delivered_login : ∃ recorded : Recorded (Gateway Nat 1) (Ledger Nat),
    recorded.log.handled = [(0, sampleFrame .vehicleLogin)] ∧
    ∃ packet ∈ recorded.state.forwarder.written, ∃ id frame original,
      (id, frame) ∈ recorded.log.handled ∧ FrameOutput frame [original] [] ∧
      (packet.buf.window = original.window ∨ packet.buf.window = remarked original.window) := by
  let := ByteBuffer.reference
  have := ByteBuffer.reference_lawful
  obtain ⟨recorded, packet, reach, handled, member, -⟩ :=
    frame_written (sampleFrame .vehicleLogin) (sampleFrame .vehicleLogin) (by decide +kernel)
  obtain ⟨before, id, frame, after, earlier, original, whole, -, output, -, window⟩ :=
    (frames_delivered reach).2.2.2 .written packet member
  refine ⟨recorded, handled, packet, member, id, frame, original, by simp [whole], output, ?_⟩
  exact window.imp (fun same => same) And.right

/-- A voltage block has been left out of the written packet, which would be taken as it is. -/
theorem delivered_again_sample : ∃ (packet : Packet) (parsed : Parsed Unit) (next : ByteBuffer),
    packet.buf.window = filteredFrame ∧ filteredFrame ≠ sampleSession.frame ∧
    @parseDataUnit ByteBuffer.reference Unit () filteredSession SessionTable.empty =
      some (.ok parsed) ∧ parsed.packet = some next ∧ next.window = packet.buf.window := by
  let := ByteBuffer.reference
  have := ByteBuffer.reference_lawful
  obtain ⟨recorded, packet, reach, -, member, window⟩ :=
    frame_written sampleSession.frame filteredFrame (by decide +kernel)
  have same : filteredSession.frame = packet.buf.window := by
    rw [window]
    decide +kernel
  obtain ⟨parsed, next, parse, nextIs, -, bytes⟩ := delivered_again () SessionTable.empty reach
    member (by decide +kernel) (by decide +kernel) same
  exact ⟨packet, parsed, next, window, by decide +kernel, parse, nextIs, bytes (by rw [window]; rfl)⟩

end MotorInfoUpload
