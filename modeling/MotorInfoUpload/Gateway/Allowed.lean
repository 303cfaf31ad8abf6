import MotorInfoUpload.Forwarder.Origin
import MotorInfoUpload.Gateway.System

namespace MotorInfoUpload

open Machine

section Sessions

variable {Id : Type} [DecidableEq Id] [ByteBufferApi]

omit [DecidableEq Id] in
/-- A session handles a frame of a command that is forwarded, whose header carries
another VIN than that of the session, and one that is not allowed. -/
def Server.Strays (settings : Settings) (server : Server Id) : ServiceEvent Id → Prop
  | .handle id => ∃ connection ∈ server.sessions id, ∃ session ∈ Server.whole connection,
      session.cmdId ∈ legalCmds ∧ session.headerVin ≠ session.vin ∧
        session.headerVin ∉ settings.vinAllowedArray
  | _ => False

instance (settings : Settings) (server : Server Id) (event : ServiceEvent Id) :
    Decidable (server.Strays settings event) :=
  match event with
  | .handle _ => inferInstanceAs (Decidable (∃ _ ∈ _, _))
  | .accept _ | .arrive _ _ | .breaks _ | .expire _ | .timeout _ | .respond _ | .writeDone _
  | .writeFailed _ => .isFalse fun bad => bad

variable [LawfulByteBuffer] {settings : Settings}

omit [DecidableEq Id] in
theorem Server.Sound.puts {server : Server Id} {event : ServiceEvent Id}
    (tested : settings.mode ≠ some .release) (sound : server.Sound settings)
    (allowed : ¬ server.Strays settings event) (puts : server.puts event = some packet) :
    DataPacketHeader.vin packet.array ∈ settings.vinAllowedArray := by
  obtain ⟨id, connection, bytes, session, parsed, rfl, takes, parse, packetIs⟩ := sound.putting puts
  have reads : connection.read ≠ .idle := by rw [takes.arrived]; exact ReadState.noConfusion
  have waits : connection.read.reading = some .dataUnit := by rw [takes.arrived]; rfl
  have named := ((sound id connection takes.found).unit waits).named
  have admitted := (sound id connection takes.found).admitted reads named
  have own : session.vin ∈ settings.vinAllowedArray := by
    rw [takes.same]
    simpa [TcpSession.admits, tested] using admitted
  rw [parseDataUnit_headerVin takes.read parse packetIs]
  by_contra refused
  refine allowed ⟨connection, takes.found, session, takes.whole, ?_, ?_, refused⟩
  · exact parseDataUnit_command parse packetIs
  · intro same
    apply refused
    rw [← same] at own
    exact own

end Sessions

section Queues

variable {n capacity : Nat} [ByteBufferApi] [LawfulByteBuffer] {state : State n}

/-- A packet has a whole header, with the VIN it was accepted with. -/
def KeepsVin (accepted : List ByteBuffer) (packet : Packet) : Prop :=
  DataPacketHeader.size < packet.buf.limit ∧ ∃ original ∈ accepted,
    DataPacketHeader.vin packet.buf.array = DataPacketHeader.vin original.array

private theorem markReissue_vin {buf marked : ByteBuffer} (long : DataPacketHeader.size < buf.limit)
    (succeeded : markReissue buf = .ok marked) : marked.limit = buf.limit ∧
      DataPacketHeader.vin marked.array = DataPacketHeader.vin buf.array := by
  unfold markReissue at succeeded
  split at succeeded
  · dsimp only at succeeded
    split at succeeded
    · cases succeeded
      have ordered := buf.position_le
      refine ⟨rfl, ?_⟩
      change DataPacketHeader.vin ((buf.array.set 2 _).set
        (buf.position + ByteBufferApi.remaining _ - 1) _) = _
      rw [LawfulByteBuffer.remaining_eq]
      change DataPacketHeader.vin ((buf.array.set 2 _).set
        (buf.position + (buf.limit - buf.position) - 1) _) = _
      unfold DataPacketHeader.size at long
      rw [vin_set _ _ _ (.inr (by unfold VINLEN; omega)), vin_set _ _ _ (.inl (by decide))]
    · cases succeeded
  · cases succeeded
    exact ⟨rfl, rfl⟩

def KeepVins (state : State n) : Prop :=
  ∀ place, ∀ packet ∈ state.contents place, KeepsVin state.accepted packet

omit [ByteBufferApi] [LawfulByteBuffer] in
private theorem KeepsVin.append (keeps : KeepsVin accepted packet) (more : List ByteBuffer) :
    KeepsVin (accepted ++ more) packet := by
  obtain ⟨long, original, member, same⟩ := keeps
  exact ⟨long, original, List.mem_append_left _ member, same⟩

private theorem keepsVin_step {before after : State n} {action : Action n} (keeps : KeepVins before)
    (moved : Move before action after) : KeepVins after := by
  intro place packet member
  rw [moved.accepted]
  cases moved.comes member with
  | stays already => exact (keeps _ _ already).append _
  | carried source other already => exact (keeps _ _ already).append _
  | @marked old buf already marked =>
    obtain ⟨long, original, there, same⟩ := keeps _ _ already
    obtain ⟨limit, vin⟩ := markReissue_vin long marked
    have kept : KeepsVin before.accepted { old with buf } :=
      ⟨limit ▸ long, original, there, vin.trans same⟩
    exact kept.append _
  | @advanced i progress old failing already room =>
    obtain ⟨long, original, there, same⟩ := keeps _ _ already
    have kept : KeepsVin before.accepted { old with buf := old.buf.advance progress room } :=
      ⟨long, original, there, same⟩
    exact kept.append _
  | @accepted session buf accepting read returned =>
    subst accepting
    refine ⟨(returned_forwardable read returned).long, buf, ?_, rfl⟩
    rw [Action.accepts, returned]
    exact List.mem_append_right _ (List.mem_singleton_self _)

private theorem keepVins_of_reach (reach : Reachable (forwarder n capacity) state) :
    KeepVins state := by
  apply reach.invariant
  · rintro state ⟨mode, rfl⟩ place packet member
    cases place <;> cases member
  · intro before action after keeps _ stepped
    exact keepsVin_step keeps (State.step_cases stepped)

end Queues

section Gateways

variable {Id : Type} [DecidableEq Id] {n capacity : Nat} [ByteBufferApi] {settings : Settings}

def Gateway.Strays (settings : Settings) (gateway : Gateway Id n) : GatewayEvent Id n → Prop
  | .service event => gateway.server.Strays settings event
  | .forward _ => False

instance (settings : Settings) (gateway : Gateway Id n) (event : GatewayEvent Id n) :
    Decidable (gateway.Strays settings event) :=
  match event with
  | .service _ => inferInstanceAs (Decidable (Server.Strays ..))
  | .forward _ => .isFalse fun bad => bad

variable [LawfulByteBuffer]

private theorem accepted_allowed {state : Gateway Id n} (tested : settings.mode ≠ some .release)
    (reach : Reach (gateway Id settings n capacity)
      (fun state event => ¬ state.Strays settings event) state) :
    ∀ buf ∈ state.forwarder.accepted, DataPacketHeader.vin buf.array ∈ settings.vinAllowedArray := by
  induction reach with
  | start initial =>
    intro buf member
    rw [initial.2] at member
    cases member
  | @next before event after earlier allowed stepped ih =>
    have sound := Server.sound_of_reach (gateway_server earlier)
    cases Gateway.step_cases stepped with
    | @service event server free moved =>
      intro buf member
      cases puts : before.server.puts event with
      | none =>
        rw [puts] at member
        exact ih buf member
      | some packet =>
        rw [puts] at member
        rcases List.mem_append.mp member with already | new
        · exact ih buf already
        · rw [List.mem_singleton.mp new]
          exact sound.puts tested allowed puts
    | @forward action forwarder inner moved =>
      intro buf member
      have same : forwarder.accepted = before.forwarder.accepted := by
        rw [(State.step_cases moved).accepted]
        cases action with
        | accept session => exact absurd rfl (inner session)
        | _ => exact List.append_nil _
      rw [same] at member
      exact ih buf member

/-- In a compliance test every packet in the queues is of an allowed vehicle, as long as
no frame strays. -/
theorem queued_packets_allowed {state : Gateway Id n} (tested : settings.mode ≠ some .release)
    (reach : Reach (gateway Id settings n capacity)
      (fun state event => ¬ state.Strays settings event) state) (packet : Packet)
    (queued : packet ∈ state.forwarder.realtime.queue ∨ packet ∈ state.forwarder.reissue.queue) :
    DataPacketHeader.vin packet.buf.array ∈ settings.vinAllowedArray := by
  have keeps := keepVins_of_reach (gateway_forwarder reach)
  obtain ⟨place, member⟩ : ∃ place, packet ∈ state.forwarder.contents place := by
    rcases queued with realtime | reissue
    · exact ⟨.realtime, realtime⟩
    · exact ⟨.reissue, reissue⟩
  obtain ⟨_, original, accepted, same⟩ := keeps place packet member
  rw [same]
  exact accepted_allowed tested reach original accepted

end Gateways

def servesSession : List (GatewayEvent Nat 1) :=
  [.forward (.start 0), .forward .push, .service (.accept 0)]

def queuesFrame (frame : List UInt8) : List (GatewayEvent Nat 1) :=
  sendsFrame frame ++ List.replicate 4 (.forward (.service none))

def strayFrame : List UInt8 :=
  let frame := (sampleFrame .vehicleLogin).dropLast.set 20 66
  frame ++ [xorBytes (frame.drop 2)]

theorem queued_packets_allowed_login : ∃ state : Gateway Nat 1,
    ∃ packet ∈ state.forwarder.reissue.queue, DataPacketHeader.vin packet.buf.array ∈ [sampleVin] := by
  let := ByteBuffer.reference
  have := ByteBuffer.reference_lawful
  have initial : Reach (gateway Nat ⟨some .vehicleCompliance, [sampleVin]⟩ 1 5)
      (fun state event => ¬ state.Strays ⟨some .vehicleCompliance, [sampleVin]⟩ event)
      ⟨.initial Nat, State.initial 1 5 (some .vehicleCompliance)⟩ := .start ⟨rfl, rfl⟩
  obtain ⟨state, reach, queued⟩ := initial.exists_of_schedule
    (fun state => state.forwarder.reissue.queue ≠ [])
    (servesSession ++ queuesFrame (sampleFrame .vehicleLogin)) (by decide +kernel)
  obtain ⟨packet, member⟩ := List.exists_mem_of_ne_nil _ queued
  exact ⟨state, packet, member, queued_packets_allowed (by decide) reach packet (.inr member)⟩

/-- A session that was admitted for an allowed vehicle sends the login of another one. -/
theorem stray_packet_queued : ∃ state : Gateway Nat 1,
    Reachable (@gateway ByteBuffer.reference Nat _ ⟨some .vehicleCompliance, [sampleVin]⟩ 1 5) state ∧
      ∃ packet ∈ state.forwarder.reissue.queue,
        DataPacketHeader.vin packet.buf.array ∉ [sampleVin] := by
  let := ByteBuffer.reference
  have initial : Reachable (gateway Nat ⟨some .vehicleCompliance, [sampleVin]⟩ 1 5)
      ⟨.initial Nat, State.initial 1 5 (some .vehicleCompliance)⟩ := .start ⟨rfl, rfl⟩
  exact initial.exists_of_schedule
    (fun state => ∃ packet ∈ state.forwarder.reissue.queue,
      DataPacketHeader.vin packet.buf.array ∉ [sampleVin])
    (servesSession ++ queuesFrame (sampleFrame .vehicleLogin) ++ queuesFrame strayFrame)
    (by decide +kernel)

end MotorInfoUpload
