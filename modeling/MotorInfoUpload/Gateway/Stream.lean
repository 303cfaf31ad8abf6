import MotorInfoUpload.Machine.History
import MotorInfoUpload.Session.Stream
import MotorInfoUpload.Gateway.System

namespace MotorInfoUpload

open Machine

/-- What has become of the stream of one session: the bytes it has been delivered, the
frames it has handled, the packets of it that are in the realtime queue or have gone
through it, and the replies. `handling` says that the packet in the hands of the
service thread is the session's. -/
structure Journal where
  received : List UInt8
  handled : List (List UInt8)
  realtime : List ByteBuffer
  replies : List ByteBuffer
  handling : Bool

def Journal.empty : Journal := ⟨[], [], [], [], false⟩

def ServiceAt.stored : ServiceAt → ServiceAt → List ByteBuffer
  | .putRealtime packet, .idle => [packet.buf]
  | _, _ => []

def ServiceAt.pending : ServiceAt → List ByteBuffer
  | .checking _ packet | .putRealtime packet => [packet.buf]
  | _ => []

variable {Id : Type} [DecidableEq Id] {n : Nat}

def ServiceEvent.handling (id : Id) (earlier : Bool) : ServiceEvent Id → Bool
  | .handle other => decide (other = id)
  | _ => earlier

section Recording

variable [ByteBufferApi]

def Journal.note (id : Id) (journal : Journal) (before : Gateway Id n) :
    GatewayEvent Id n → Gateway Id n → Journal
  | .service event, _ => { journal with
      received := journal.received ++ event.delivers id
      handled := journal.handled ++ (before.server.handles id event).toList
      replies := journal.replies ++ (before.server.answers id event).toList
      handling := event.handling id journal.handling }
  | .forward _, after => { journal with
      realtime := journal.realtime ++ if journal.handling then
        before.forwarder.service.stored after.forwarder.service else [] }

def journaled (id : Id) (settings : Settings) (n capacity : Nat) :
    Automaton (Recorded (Gateway Id n) Journal) (GatewayEvent Id n) :=
  (gateway Id settings n capacity).recording Journal.empty (Journal.note id)

end Recording

/-- The public server is connected: the uploader's connection is up while the service
thread has a packet in its hands. -/
def Online (i : Fin n) (state : State n) : Prop :=
  state.service ≠ .idle → state.connected i = true ∧ i < state.pool

/-- The session is sent a stream, without a timeout or a socket error, and the public
server is connected. -/
def Streams (id : Id) (i : Fin n) (stream : List UInt8) (recorded : Recorded (Gateway Id n) Journal)
    (event : GatewayEvent Id n) : Prop :=
  Online i recorded.state.forwarder ∧ match event with
    | .service event =>
      event.Undisturbed id ∧ recorded.log.received ++ event.delivers id <+: stream
    | .forward _ => True

instance (id : Id) (i : Fin n) (stream : List UInt8) (recorded : Recorded (Gateway Id n) Journal)
    (event : GatewayEvent Id n) : Decidable (Streams id i stream recorded event) :=
  match event with
  | .service _ => inferInstanceAs (Decidable ((_ → _) ∧ _ ∧ _))
  | .forward _ => inferInstanceAs (Decidable ((_ → _) ∧ True))

/-- Where the service thread can be while the public server is connected by uploader `i`. -/
def ServiceAt.Routed (i : Fin n) : ServiceAt → Prop
  | .checking k _ => k ≤ i
  | .idle | .putRealtime _ => True
  | _ => False

section Forwarding

variable {before after : State n} {i : Fin n}

omit [DecidableEq Id] in
theorem ServiceAt.stored_self (service : ServiceAt) : service.stored service = [] := by
  cases service <;> rfl

/-- While the public server is connected, the service thread stores the packet it has
in the realtime queue. -/
private theorem routed_service {woken : Option (Thread n)} (online : Online i before)
    (routed : before.service.Routed i) (moved : ServiceMove before woken after) :
    after.service.Routed i ∧
      before.service.stored after.service ++ after.service.pending = before.service.pending := by
  cases moved with
  | found standing inside pooled up =>
    rw [standing]
    exact ⟨trivial, rfl⟩
  | @missed k packet standing inside pooled down =>
    have up := (online (by rw [standing]; exact ServiceAt.noConfusion)).1
    rw [standing] at routed ⊢
    have other : k ≠ i := by
      rintro rfl
      rw [up] at down
      cases down
    have below : k ≤ i := routed
    exact ⟨Nat.lt_of_le_of_ne below other, rfl⟩
  | @offline k packet standing done =>
    have pooled := (online (by rw [standing]; exact ServiceAt.noConfusion)).2
    rw [standing] at routed
    exact absurd ⟨Nat.lt_of_le_of_lt routed pooled, Nat.lt_of_le_of_lt routed i.isLt⟩ done
  | realtimeFull standing full =>
    change before.service.Routed i ∧
      before.service.stored before.service ++ before.service.pending = before.service.pending
    rw [ServiceAt.stored_self]
    exact ⟨routed, rfl⟩
  | realtimeStored standing stored =>
    rw [standing]
    exact ⟨trivial, rfl⟩
  | drained standing | draining standing | drainSleeps standing | drainTook standing
  | drainFull standing | drainStored standing | reissueFull standing | reissueStored standing =>
    rw [standing] at routed
    exact routed.elim

variable [ByteBufferApi]

private theorem routed_forward {action : Action n} (inner : ∀ session, action ≠ .accept session)
    (online : Online i before) (routed : before.service.Routed i)
    (stepped : before.step action = some after) :
    after.service.Routed i ∧
      before.service.stored after.service ++ after.service.pending = before.service.pending := by
  have kept (same : after.service = before.service) : after.service.Routed i ∧
      before.service.stored after.service ++ after.service.pending = before.service.pending := by
    rw [same, ServiceAt.stored_self]
    exact ⟨routed, rfl⟩
  cases State.step_cases stepped with
  | accept free serving read returned => exact absurd rfl (inner _)
  | service moved => exact routed_service online routed moved
  | outside standing moved => cases moved <;> exact kept rfl
  | upload moved => cases moved <;> exact kept rfl
  | start | push | signal | sent | failed | drop | wakeRealtime | wakeReissue => exact kept rfl

end Forwarding

section Journaled

variable [ByteBufferApi] {settings : Settings} {capacity : Nat} {id : Id} {i : Fin n}
  {frames : List (List UInt8)} {recorded : Recorded (Gateway Id n) Journal}

/-- The journal of a session that is sent `frames`, so far. -/
structure Streaming (settings : Settings) (id : Id) (i : Fin n) (frames : List (List UInt8))
    (recorded : Recorded (Gateway Id n) Journal) : Prop where
  sound : recorded.state.server.Sound settings
  delivered : recorded.log.received <+: frames.flatten
  earlier : recorded.log.handled <+: frames
  standing : Standing recorded.log.received recorded.log.handled (recorded.state.server.sessions id)
  routed : recorded.state.forwarder.service.Routed i
  outputs : Outputs recorded.log.handled (recorded.log.realtime ++
    if recorded.log.handling then recorded.state.forwarder.service.pending else [])
    recorded.log.replies

omit [ByteBufferApi] in
private theorem handed_pending {state : State n} (idle : state.service = .idle)
    (packet : Option ByteBuffer) : (state.handed packet).service.Routed i ∧
      (state.handed packet).service.pending = packet.toList := by
  cases packet with
  | none =>
    change state.service.Routed i ∧ state.service.pending = []
    rw [idle]
    exact ⟨trivial, rfl⟩
  | some buf => exact ⟨Nat.zero_le _, rfl⟩

variable [LawfulByteBuffer]

private theorem streaming_outputs {gateway : Gateway Id n} {journal : Journal}
    {event : ServiceEvent Id}
    (free : event.handler → gateway.forwarder.service = .idle ∧ 0 < gateway.forwarder.pool)
    (streaming : Streaming settings id i frames ⟨gateway, journal⟩) :
    (gateway.forwarder.handed (gateway.server.puts event)).service.Routed i ∧
      Outputs (journal.handled ++ (gateway.server.handles id event).toList)
        (journal.realtime ++ if event.handling id journal.handling then
          (gateway.forwarder.handed (gateway.server.puts event)).service.pending else [])
        (journal.replies ++ (gateway.server.answers id event).toList) := by
  have outputs := streaming.outputs
  have routed := streaming.routed
  cases event with
  | handle other =>
    have idle : gateway.forwarder.service = .idle := (free trivial).1
    obtain ⟨further, pending⟩ := handed_pending idle (gateway.server.puts (.handle other))
    refine ⟨further, ?_⟩
    have settled : Outputs journal.handled journal.realtime journal.replies := by
      have nothing : (if journal.handling then gateway.forwarder.service.pending else []) = [] := by
        rw [idle]
        split <;> rfl
      have before : Outputs journal.handled (journal.realtime ++
          if journal.handling then gateway.forwarder.service.pending else []) journal.replies := outputs
      rwa [nothing, List.append_nil] at before
    rcases eq_or_ne other id with rfl | different
    · rw [pending, ServiceEvent.handling, if_pos (decide_eq_true rfl)]
      cases handles : gateway.server.handles other (.handle other) with
      | none =>
        obtain ⟨noPacket, noReply⟩ := streaming.sound.noOutput handles
        rw [noPacket, noReply]
        simpa using settled
      | some frame => exact settled.frame (streaming.sound.output handles)
    · simpa [Server.handles, Server.answers, ServiceEvent.handling, different] using settled
  | accept | arrive | breaks | expire | timeout | respond | writeDone | writeFailed =>
    simp only [Server.puts, Server.handles, Server.answers, ServiceEvent.handling, State.handed,
      Option.toList, List.append_nil]
    exact ⟨routed, outputs⟩

private theorem streaming_step {gateway after : Gateway Id n} {journal : Journal}
    {event : GatewayEvent Id n} (each : ∀ frame ∈ frames, IsFrame frame)
    (release : settings.mode = some .release)
    (streaming : Streaming settings id i frames ⟨gateway, journal⟩)
    (allowed : Streams id i frames.flatten ⟨gateway, journal⟩ event)
    (stepped : gateway.step settings event = some after) :
    Streaming settings id i frames ⟨after, journal.note id gateway event after⟩ := by
  obtain ⟨online, calm⟩ := allowed
  cases Gateway.step_cases stepped with
  | @service event server free moved =>
    obtain ⟨undisturbed, delivered⟩ := calm
    obtain ⟨earlier, standing⟩ := streaming.standing.step each release streaming.sound
      streaming.earlier undisturbed delivered moved
    obtain ⟨routed, outputs⟩ := streaming_outputs free streaming
    exact ⟨streaming.sound.step moved, delivered, earlier, standing, routed, outputs⟩
  | @forward action forwarder inner moved =>
    obtain ⟨routed, same⟩ := routed_forward inner online streaming.routed moved
    refine ⟨streaming.sound, streaming.delivered, streaming.earlier, streaming.standing, routed, ?_⟩
    have outputs : Outputs journal.handled (journal.realtime ++
        if journal.handling then gateway.forwarder.service.pending else []) journal.replies :=
      streaming.outputs
    change Outputs journal.handled ((journal.realtime ++ if journal.handling then
        gateway.forwarder.service.stored forwarder.service else []) ++
      if journal.handling then forwarder.service.pending else []) journal.replies
    rw [← same] at outputs
    rw [List.append_assoc]
    cases handling : journal.handling with
    | false => simpa [handling] using outputs
    | true => simpa [handling] using outputs

theorem streaming_of_reach (each : ∀ frame ∈ frames, IsFrame frame)
    (release : settings.mode = some .release)
    (reach : Reach (journaled id settings n capacity) (Streams id i frames.flatten) recorded) :
    Streaming settings id i frames recorded := by
  apply reach.invariant
  · rintro ⟨⟨server, forwarder⟩, journal⟩ ⟨⟨rfl, rfl⟩, rfl⟩
    have initial : Reachable (vehicleService Id settings) (.initial Id) := .start rfl
    exact {
      sound := Server.sound_of_reach initial
      delivered := List.nil_prefix
      earlier := List.nil_prefix
      standing := .absent rfl rfl
      routed := trivial
      outputs := .nothing }
  · intro before event after streaming allowed stepped
    obtain ⟨gateway, moved, rfl⟩ := Option.map_eq_some_iff.mp stepped
    exact streaming_step each release streaming allowed moved

omit [LawfulByteBuffer] in
private theorem journaled_enabled {event : ServiceEvent Id} {server : Server Id}
    (free : recorded.state.forwarder.service = .idle) (serving : 0 < recorded.state.forwarder.pool)
    (moved : recorded.state.server.step settings event = some server) :
    ∃ after, (journaled id settings n capacity).step recorded (.service event) = some after := by
  apply Option.isSome_iff_exists.mp
  simp [journaled, Automaton.recording, gateway, Gateway.step, free, serving, moved]

/-- A session in release mode, whose vehicle sends it `frames` while the public server
is connected, handles them in their order, each once, up to the first logout or the
first one that `parseDataUnit` rejects and no further. What it has put into the realtime
queue and has replied are the outputs of the frames it has handled. It has handled all
that it will when it waits and nothing is left in its stream; before, it is sent the
next bytes or handles what it has read. -/
theorem stream_handled (release : settings.mode = some .release)
    (each : ∀ frame ∈ frames, IsFrame frame ∧ DataPacketHeader.dataUnitLength frame ≤ 487)
    (reach : Reach (journaled id settings n capacity) (Streams id i frames.flatten) recorded) :
    recorded.log.handled <+: frames ∧ (∀ frame ∈ recorded.log.handled.dropLast, GoesOn frame) ∧
      (recorded.state.forwarder.service = .idle →
        Outputs recorded.log.handled recorded.log.realtime recorded.log.replies) ∧
      ∀ connection ∈ recorded.state.server.sessions id,
        (connection.read = .idle → ∃ last ∈ recorded.log.handled.getLast?, ¬ GoesOn last) ∧
        (∀ reading, connection.read = .waiting reading →
          (∀ frame ∈ recorded.log.handled, GoesOn frame) ∧
          (recorded.log.received = frames.flatten → recorded.log.handled = frames)) ∧
        (recorded.state.forwarder.service = .idle → 0 < recorded.state.forwarder.pool →
          connection.read = .idle ∨
          (∃ reading, connection.read = .waiting reading) ∧ recorded.log.received = frames.flatten ∨
          ∃ event after, (event = .handle id ∨ ∃ bytes, event = .arrive id bytes) ∧
            Streams id i frames.flatten recorded (.service event) ∧
            (journaled id settings n capacity).step recorded (.service event) = some after) := by
  have framed (frame : List UInt8) (member : frame ∈ frames) : IsFrame frame := (each frame member).1
  have short (frame : List UInt8) (member : frame ∈ frames) :
      IsFrame frame ∧ frame.length ≤ MAXPACK_LENGTH := by
    obtain ⟨whole, counted⟩ := each frame member
    refine ⟨whole, ?_⟩
    rw [whole]
    unfold DataPacketHeader.size MAXPACK_LENGTH
    omega
  have streaming := streaming_of_reach framed release reach
  have standing := streaming.standing
  refine ⟨streaming.earlier, ?_, fun idle => ?_, fun connection found => ⟨fun idle => ?_,
    fun reading waiting => ?_, fun free serving => ?_⟩⟩
  · generalize recorded.state.server.sessions id = session at standing
    cases standing with
    | absent nothing unread =>
      rw [unread]
      exact fun _ none => by cases none
    | going goesOn => exact fun frame member => goesOn frame (List.dropLast_subset _ member)
    | stopped idle last ends goesOn => exact goesOn
  · have outputs := streaming.outputs
    have nothing : (if recorded.log.handling then recorded.state.forwarder.service.pending else []) =
        [] := by
      rw [idle]
      split <;> rfl
    rwa [nothing, List.append_nil] at outputs
  · rw [Option.mem_def.mp found] at standing
    cases standing with
    | going _ reads => exact absurd idle reads
    | stopped _ last ends => exact ⟨_, last, ends⟩
  · rw [Option.mem_def.mp found] at standing
    refine ⟨?_, fun delivered => standing.settled framed (streaming.sound id connection found)
      streaming.earlier delivered waiting⟩
    cases standing with
    | going goesOn => exact goesOn
    | stopped idle =>
      rw [waiting] at idle
      cases idle
  · have online : Online i recorded.state.forwarder := fun busy => absurd free busy
    rw [Option.mem_def.mp found] at standing
    cases read : connection.read with
    | idle => exact .inl rfl
    | broken reading =>
      cases standing with
      | going _ _ unbroken => exact absurd read (unbroken reading)
      | stopped idle =>
        rw [read] at idle
        cases idle
    | waiting reading =>
      by_cases sent : recorded.log.received = frames.flatten
      · exact .inr (.inl ⟨⟨reading, rfl⟩, sent⟩)
      · obtain ⟨bytes, server, within, moved⟩ := standing.arrives framed streaming.sound found
          streaming.earlier streaming.delivered sent read
        obtain ⟨after, stepped⟩ := journaled_enabled free serving moved
        refine .inr (.inr ⟨.arrive id bytes, after, .inr ⟨bytes, rfl⟩, ⟨online, trivial, ?_⟩, stepped⟩)
        rwa [ServiceEvent.delivers, if_pos rfl]
    | arrived reading bytes =>
      obtain ⟨server, moved⟩ := standing.handles short streaming.sound found streaming.earlier
        streaming.delivered read
      obtain ⟨after, stepped⟩ := journaled_enabled free serving moved
      refine .inr (.inr ⟨.handle id, after, .inl rfl, ⟨online, trivial, ?_⟩, stepped⟩)
      have nothing : (ServiceEvent.handle id).delivers id = [] := rfl
      rw [nothing, List.append_nil]
      exact streaming.delivered

end Journaled

def sampleHeartBeat : List UInt8 :=
  let frame := [35, 35, 7, 254] ++ List.replicate 17 65 ++ [1, 0, 0]
  frame ++ [xorBytes (frame.drop 2)]

/-- A vehicle logs in and sends a heartbeat. -/
theorem stream_handled_login : ∃ recorded : Recorded (Gateway Nat 1) Journal,
    recorded.log.handled = [sampleFrame .vehicleLogin, sampleHeartBeat] ∧
      Outputs recorded.log.handled recorded.log.realtime recorded.log.replies := by
  let := ByteBuffer.reference
  have := ByteBuffer.reference_lawful
  have initial : Reach (journaled 0 ⟨some .release, []⟩ 1 5)
      (Streams 0 0 [sampleFrame .vehicleLogin, sampleHeartBeat].flatten)
      ⟨⟨.initial Nat, State.initial 1 5 (some .release)⟩, Journal.empty⟩ := .start ⟨⟨rfl, rfl⟩, rfl⟩
  obtain ⟨recorded, reach, handled, idle⟩ := initial.exists_of_schedule
    (fun recorded => recorded.log.handled = [sampleFrame .vehicleLogin, sampleHeartBeat] ∧
      recorded.state.forwarder.service = .idle)
    (loggedIn.map .forward ++ [.service (.accept 0)] ++ sendsFrame (sampleFrame .vehicleLogin) ++
      [.forward (.service none), .forward (.service (some (.uploader 0)))] ++
      sendsFrame sampleHeartBeat) (by decide +kernel)
  exact ⟨recorded, handled, (stream_handled rfl (by decide +kernel) reach).2.2.1 idle⟩

end MotorInfoUpload
