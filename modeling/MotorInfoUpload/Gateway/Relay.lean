import MotorInfoUpload.Gateway.Delivery
import MotorInfoUpload.Platform.Sent
import MotorInfoUpload.Platform.Uplink

namespace MotorInfoUpload

open Machine

variable {Id : Type} {n : Nat}

/-- What has been written for one command: its frame, and how many bytes of it have gone out. -/
structure Transmission where
  command : Command
  frame : List UInt8
  gone : Nat
deriving DecidableEq

def Transmission.bytes (transmission : Transmission) : List UInt8 :=
  transmission.frame.take transmission.gone

def Transmission.Whole (transmission : Transmission) : Prop :=
  transmission.frame.length ≤ transmission.gone

instance (transmission : Transmission) : Decidable transmission.Whole :=
  inferInstanceAs (Decidable (_ ≤ _))

/-- What a step reads from elsewhere: the shared serial number, the clock, and how many bytes
of a write go out. -/
structure Readings where
  serialNumber : UInt16
  time : LocalTime
  gone : Nat

/-- `item` on the last connection, which is the first of the list. -/
def onLast {α : Type} (connections : List (List α)) (item : α) : List (List α) :=
  match connections with
  | [] => [[item]]
  | last :: earlier => (last ++ [item]) :: earlier

/-- The structures that the uploaders send, and what they have written on each of their
connections, the last one first. -/
structure Lines (n : Nat) where
  data : Fin n → UploaderData
  wire : Fin n → List (List Transmission)

/-- The gateway with the connections of its uploaders. -/
structure Relay (Id : Type) (n : Nat) where
  server : Server Id
  links : Uplinks n
  lines : Lines n

inductive RelayEvent (Id : Type) (n : Nat) where
  | service (event : ServiceEvent Id)
  | link (action : UplinkAction n) (readings : Readings)

def Relay.gateway (relay : Relay Id n) : Gateway Id n := ⟨relay.server, relay.links.state⟩

/-- The call to a server that a step makes. -/
def Uplinks.called (links : Uplinks n) : UplinkAction n → Option (Fin n × ServerCall)
  | .forward action => links.seen.serverCall action
  | .checks _ | .reads _ => none

def UplinkAction.returns : UplinkAction n → Bool
  | .forward (.sent _) => true
  | _ => false

section Steps

variable [ByteBufferApi]

/-- The frame that `tcpSendData` writes, and the structures after it. -/
def Command.written (data : UploaderData) (readings : Readings) :
    Command → Except Exception (UploaderData × List UInt8)
  | .login => data.send (.login readings.serialNumber readings.time)
  | .logout => data.send (.logout readings.time)
  | .packet carData => .ok (data, carData.buf.window)

/-- What the call to a server does to the connections. -/
def Lines.transmits (lines : Lines n) (action : UplinkAction n) (readings : Readings) :
    Option (Fin n × ServerCall) → Option (Lines n)
  | some (i, .connect true) =>
    some { lines with wire := Function.update lines.wire i ([] :: lines.wire i) }
  | some (i, .write command) => match command.written (lines.data i) readings with
    | .ok (data, frame) =>
      let gone := if action.returns then frame.length else readings.gone
      some {
        data := Function.update lines.data i data
        wire := Function.update lines.wire i (onLast (lines.wire i) ⟨command, frame, gone⟩) }
    | .error _ => none
  | some (_, .close) | some (_, .connect false) | some (_, .lost) | none => some lines

namespace Relay

variable [DecidableEq Id]

def step (settings : Settings) (relay : Relay Id n) : RelayEvent Id n → Option (Relay Id n)
  | .service event => (relay.gateway.step settings (.service event)).map fun after =>
    { relay with server := after.server, links := { relay.links with state := after.forwarder } }
  | .link action readings => match action with
    | .forward (.accept _) => none
    | action => (relay.links.step action).bind fun links =>
      (relay.lines.transmits action readings (relay.links.called action)).map fun lines =>
        { relay with links, lines }

inductive Move (settings : Settings) (before : Relay Id n) : RelayEvent Id n → Relay Id n → Prop where
  | service {gateway : Gateway Id n}
      (stepped : before.gateway.step settings (.service event) = some gateway) :
      Move settings before (.service event) { before with
        server := gateway.server, links := { before.links with state := gateway.forwarder } }
  | link {links : Uplinks n} {lines : Lines n}
      (inner : ∀ session, action ≠ .forward (.accept session))
      (stepped : before.links.step action = some links)
      (transmits : before.lines.transmits action readings (before.links.called action) = some lines) :
      Move settings before (.link action readings) { before with links, lines }

theorem step_cases {settings : Settings} {before after : Relay Id n} {event : RelayEvent Id n}
    (stepped : before.step settings event = some after) : Move settings before event after := by
  cases event with
  | service event =>
    obtain ⟨gateway, moved, same⟩ := Option.map_eq_some_iff.mp stepped
    subst same
    exact .service moved
  | link action readings =>
    unfold step at stepped
    dsimp only at stepped
    split at stepped
    · cases stepped
    · rename_i inner
      obtain ⟨links, moved, rest⟩ := Option.bind_eq_some_iff.mp stepped
      obtain ⟨lines, transmits, same⟩ := Option.map_eq_some_iff.mp rest
      subst same
      exact .link inner moved transmits

end Relay

variable [DecidableEq Id]

/-- Every uploader has been constructed for the configuration, and nothing is connected. -/
def relaying (Id : Type) [DecidableEq Id] (settings : Settings) (config : LoginConfig)
    (n maxVehicleDataQueueSize : Nat) : Automaton (Relay Id n) (RelayEvent Id n) where
  start relay := relay.server = .initial Id ∧
    relay.links = .initial n maxVehicleDataQueueSize settings.mode ∧
    (∀ i, ∃ no fresh, Uploader.construct config no fresh = .ok (some (relay.lines.data i))) ∧
    ∀ i, relay.lines.wire i = []
  step := Relay.step settings

def Relay.FailsWhole (relay : Relay Id n) : RelayEvent Id n → Prop
  | .link (.forward action) _ => relay.gateway.FailsWhole (.forward action)
  | _ => True

instance Relay.decidableFailsWhole (relay : Relay Id n) (event : RelayEvent Id n) :
    Decidable (relay.FailsWhole event) :=
  match event with
  | .link (.forward action) _ =>
    inferInstanceAs (Decidable (relay.gateway.FailsWhole (.forward action)))
  | .link (.checks _) _ | .link (.reads _) _ | .service _ => .isTrue trivial

end Steps

/-- What a frame says to whoever reads it. -/
def Command.Spells (accepted : List ByteBuffer) : Command → List UInt8 → Prop
  | .login, frame => IsFrame frame ∧ DataPacketHeader.cmdId frame = CmdCode.platformLogin.value
  | .logout, frame => IsFrame frame ∧ DataPacketHeader.cmdId frame = CmdCode.platformLogout.value
  | .packet carData, frame => VehicleFrame accepted carData.seq frame

theorem Command.Spells.isFrame {accepted : List ByteBuffer} {command : Command} {frame : List UInt8}
    (spells : command.Spells accepted frame) : IsFrame frame := by
  cases command <;> exact spells.1

theorem Command.Spells.append {accepted : List ByteBuffer} {command : Command} {frame : List UInt8}
    (spells : command.Spells accepted frame) (more : List ByteBuffer) :
    command.Spells (accepted ++ more) frame := by
  cases command with
  | login | logout => exact spells
  | packet carData =>
    obtain ⟨framed, legal, original, found, same⟩ := spells
    obtain ⟨below, -⟩ := List.getElem?_eq_some_iff.mp found
    exact ⟨framed, legal, original, by rw [List.getElem?_append_left below, found], same⟩

section Carrying

variable {lines after : Lines n} {server servers : Fin n → PublicServer} {accepted : List ByteBuffer}

theorem map_onLast {α β : Type} (f : α → β) (connections : List (List α)) (item : α) :
    (onLast connections item).map (List.map f) = onLast (connections.map (List.map f)) (f item) := by
  cases connections <;> simp [onLast]

theorem mem_onLast {α : Type} {connections : List (List α)} {item other : α} :
    other ∈ (onLast connections item).flatten ↔ other ∈ connections.flatten ∨ other = item := by
  cases connections with
  | nil => simp [onLast]
  | cons last earlier =>
    simp only [onLast, List.flatten_cons, List.mem_append, List.mem_singleton]
    tauto

/-- What a call makes of the connections of its server. -/
def ServerCall.told (connections : List (List Command)) : ServerCall → List (List Command)
  | .connect true => [] :: connections
  | .write command => onLast connections command
  | .close | .connect false | .lost => connections

theorem PublicServer.connections_answer {before after : PublicServer} {call : ServerCall}
    (answers : before.answer call = some after) :
    after.connections = call.told before.connections := by
  cases call with
  | close | lost =>
    obtain rfl := Option.some.inj answers
    exact before.connections_close
  | connect accepted =>
    obtain rfl := Option.some.inj answers
    cases accepted with
    | false => rfl
    | true => exact before.connections_connect
  | write command =>
    obtain ⟨socket, found, rfl⟩ := Option.map_eq_some_iff.mp answers
    change (socket.write command).connections = onLast before.connections command
    rw [connections, found, Socket.write]
    dsimp only
    cases socket.connections <;> rfl

/-- The connections carry what the servers have been told, each command as a frame of its own. -/
structure Lines.Carries (lines : Lines n) (server : Fin n → PublicServer)
    (accepted : List ByteBuffer) : Prop where
  told : ∀ i, (lines.wire i).map (List.map Transmission.command) = (server i).connections
  labelled : ∀ i, (lines.data i).Labelled
  spelt : ∀ i, ∀ sent ∈ (lines.wire i).flatten, sent.command.Spells accepted sent.frame

theorem Lines.Carries.append (carries : lines.Carries server accepted) (more : List ByteBuffer) :
    lines.Carries server (accepted ++ more) :=
  ⟨carries.told, carries.labelled, fun i sent member => (carries.spelt i sent member).append more⟩

variable [ByteBufferApi] [LawfulByteBuffer]

theorem Command.written_spells {command : Command} {data next : UploaderData} {readings : Readings}
    (labelled : data.Labelled) (written : command.written data readings = .ok (next, frame))
    (framed : ∀ carData, command = .packet carData →
      VehicleFrame accepted carData.seq carData.buf.window) :
    next.Labelled ∧ command.Spells accepted frame := by
  cases command with
  | login =>
    obtain ⟨_, _, sends, still, isFrame, cmdId⟩ :=
      labelled.send (.login readings.serialNumber readings.time)
    cases sends.symm.trans written
    exact ⟨still, isFrame, cmdId⟩
  | logout =>
    obtain ⟨_, _, sends, still, isFrame, cmdId⟩ := labelled.send (.logout readings.time)
    cases sends.symm.trans written
    exact ⟨still, isFrame, cmdId⟩
  | packet carData =>
    cases written
    exact ⟨labelled, framed carData rfl⟩

theorem Lines.Carries.transmits {action : UplinkAction n} {readings : Readings}
    {called : Option (Fin n × ServerCall)} (carries : lines.Carries server accepted)
    (transmits : lines.transmits action readings called = some after)
    (answers : ∀ i, (server i).answerTo (callTo i called) = some (servers i))
    (framed : ∀ i carData, called = some (i, .write (.packet carData)) →
      VehicleFrame accepted carData.seq carData.buf.window) :
    after.Carries servers accepted := by
  cases called with
  | none =>
    cases transmits
    have same : servers = server := funext fun i => (Option.some.inj (answers i)).symm
    exact same ▸ carries
  | some entry =>
    obtain ⟨i, call⟩ := entry
    have told {wire : List (List Transmission)}
        (here : wire.map (List.map Transmission.command) = call.told (server i).connections)
        (j : Fin n) : (Function.update lines.wire i wire j).map (List.map Transmission.command) =
          (servers j).connections := by
      refine (Function.forall_update_iff lines.wire fun j wire =>
        wire.map (List.map Transmission.command) = (servers j).connections).mpr
        ⟨?_, fun j other => ?_⟩ j
      · have answer := answers i
        rw [callTo, if_pos rfl] at answer
        exact here.trans (PublicServer.connections_answer answer).symm
      · have answer := answers j
        rw [callTo, if_neg other.symm] at answer
        rw [carries.told, Option.some.inj answer]
    have silent (same : call.told (server i).connections = (server i).connections) :
        lines.Carries servers accepted := by
      refine ⟨fun j => ?_, carries.labelled, carries.spelt⟩
      rw [← told ((carries.told i).trans same.symm) j, Function.update_eq_self]
    cases call with
    | close | lost =>
      cases transmits
      exact silent rfl
    | connect accepted =>
      cases accepted with
      | false =>
        cases transmits
        exact silent rfl
      | true =>
        cases transmits
        refine ⟨told (by simp [ServerCall.told, carries.told]), carries.labelled, ?_⟩
        exact (Function.forall_update_iff lines.wire fun _ wire =>
          ∀ sent ∈ wire.flatten, sent.command.Spells accepted sent.frame).mpr
          ⟨carries.spelt i, fun j _ => carries.spelt j⟩
    | write command =>
      unfold Lines.transmits at transmits
      dsimp only at transmits
      split at transmits
      · rename_i next frame written
        cases transmits
        obtain ⟨labelled, spells⟩ := command.written_spells (carries.labelled i) written
          fun carData same => framed i carData (by rw [same])
        refine ⟨told (by rw [map_onLast, carries.told]; rfl), ?_, ?_⟩
        · exact (Function.forall_update_iff lines.data fun _ data => data.Labelled).mpr
            ⟨labelled, fun j _ => carries.labelled j⟩
        · refine (Function.forall_update_iff lines.wire fun _ wire =>
            ∀ sent ∈ wire.flatten, sent.command.Spells accepted sent.frame).mpr
            ⟨fun sent member => ?_, fun j _ => carries.spelt j⟩
          rcases mem_onLast.mp member with before | rfl
          · exact carries.spelt i sent before
          · exact spells
      · cases transmits

end Carrying

section Runs

variable [DecidableEq Id] [ByteBufferApi] [LawfulByteBuffer] {settings : Settings}
  {config : LoginConfig} {capacity : Nat} {relay : Relay Id n}

theorem relaying_runs
    (reach : Reach (relaying Id settings config n capacity) Relay.FailsWhole relay) :
    Reachable (uplinks n capacity) relay.links ∧
      Reach (gateway Id settings n capacity) Gateway.FailsWhole relay.gateway := by
  induction reach with
  | @start relay initial =>
    obtain ⟨server, links, -, -⟩ := initial
    refine ⟨.start ⟨settings.mode, links⟩, .start ⟨server, ?_⟩⟩
    rw [Relay.gateway, links]
    rfl
  | @next before event after earlier allowed stepped ih =>
    obtain ⟨linked, reached⟩ := ih
    have sound := (Uplinks.sound_of_reach linked).1
    cases Relay.step_cases stepped with
    | @service event gateway moved =>
      have whole : before.gateway.FailsWhole (.service event) := trivial
      refine ⟨?_, reached.next whole moved⟩
      have service := Server.sound_of_reach (gateway_server reached)
      rcases Gateway.service_accepts service moved with same | ⟨session, accepted⟩
      · rw [same]
        exact linked
      · have forwarded : (uplinks n capacity).step before.links (.forward (.accept session)) =
            some { before.links with state := gateway.forwarder } :=
          Option.map_eq_some_iff.mpr ⟨_, sound.seen.symm ▸ accepted, rfl⟩
        exact linked.next trivial forwarded
    | @link action readings links lines inner moved transmits =>
      refine ⟨linked.next trivial moved, ?_⟩
      cases action with
      | forward action =>
        obtain ⟨state, goes, rfl⟩ := Option.map_eq_some_iff.mp moved
        rw [sound.seen] at goes
        have whole : before.gateway.FailsWhole (.forward action) := allowed
        have accepts_none (session : TcpSession) : action ≠ .accept session :=
          fun same => inner session (congrArg _ same)
        exact reached.next whole (Gateway.step_forward settings accepts_none goes)
      | checks | reads =>
        have same := (sound.idle moved (by simp)).1
        rw [Relay.gateway, same]
        exact reached

omit [LawfulByteBuffer] in
theorem Uplinks.Sound.answered {links after : Uplinks n} {action : UplinkAction n}
    (sound : links.Sound) (stepped : links.step action = some after) (i : Fin n) :
    (links.server i).answerTo (callTo i (links.called action)) = some (after.server i) := by
  cases action with
  | forward action =>
    obtain ⟨state, moved, rfl⟩ := Option.map_eq_some_iff.mp stepped
    rw [Uplinks.called, sound.seen]
    rw [sound.seen] at moved
    exact (sound.answers moved).2.2 i
  | checks | reads =>
    rw [(sound.idle stepped (by simp)).2.1]
    rfl

omit [LawfulByteBuffer] in
theorem Uplinks.Sound.accepted {links after : Uplinks n} {action : UplinkAction n}
    (sound : links.Sound) (stepped : links.step action = some after) :
    ∃ more, after.state.accepted = links.state.accepted ++ more := by
  rcases (sound.step stepped).2 with same | ⟨action, forwards⟩
  · exact ⟨[], by rw [same, List.append_nil]⟩
  · exact ⟨_, (State.step_cases forwards).accepted⟩

theorem Gateway.service_accepted {before after : Gateway Id n} {event : ServiceEvent Id}
    (sound : before.server.Sound settings)
    (stepped : before.step settings (.service event) = some after) :
    ∃ more, after.forwarder.accepted = before.forwarder.accepted ++ more := by
  rcases Gateway.service_accepts sound stepped with same | ⟨session, accepts⟩
  · exact ⟨[], by rw [same, List.append_nil]⟩
  · exact ⟨_, (State.step_cases accepts).accepted⟩

omit [ByteBufferApi] [LawfulByteBuffer] in
theorem State.serverCall_packet {state : State n} {action : Action n} {i : Fin n} {carData : Packet}
    (called : state.serverCall action = some (i, .write (.packet carData))) :
    state.uploader i = .sending carData := by
  unfold State.serverCall at called
  cases action with
  | outside j event =>
    dsimp only at called
    split at called <;> (try split at called) <;> cases called
  | sent j | failed j =>
    dsimp only at called
    split at called
    · rename_i standing
      cases called
      exact standing
    · cases called
  | start | push | signal | accept | service | upload | drop | wakeRealtime | wakeReissue =>
    cases called

theorem relaying_carries
    (reach : Reach (relaying Id settings config n capacity) Relay.FailsWhole relay) :
    relay.lines.Carries relay.links.server relay.links.state.accepted := by
  induction reach with
  | @start relay initial =>
    obtain ⟨-, links, constructed, wire⟩ := initial
    refine ⟨fun i => ?_, fun i => ?_, fun i sent member => ?_⟩
    · rw [wire, links]
      rfl
    · obtain ⟨no, fresh, accepted⟩ := constructed i
      exact UploaderData.construct_labelled accepted
    · rw [wire] at member
      cases member
  | @next before event after earlier allowed stepped ih =>
    obtain ⟨linked, reached⟩ := relaying_runs earlier
    have sound := (Uplinks.sound_of_reach linked).1
    cases Relay.step_cases stepped with
    | @service event gateway moved =>
      have service := Server.sound_of_reach (gateway_server reached)
      obtain ⟨more, same⟩ := Gateway.service_accepted service moved
      exact same ▸ ih.append more
    | @link action readings links lines inner moved transmits =>
      obtain ⟨more, same⟩ := sound.accepted moved
      change lines.Carries links.server links.state.accepted
      rw [same]
      refine Lines.Carries.append ?_ more
      refine ih.transmits transmits (sound.answered moved) fun i carData called => ?_
      cases action with
      | forward action =>
        rw [Uplinks.called, sound.seen] at called
        have holds := State.serverCall_packet called
        have member : carData ∈ before.gateway.forwarder.contents (.uploader i) := by
          change carData ∈ (before.links.state.uploader i).held
          simp [holds, UploaderAt.held]
        exact vehicleFrame_of_reach reached member
      | checks | reads => cases called

def wireBytes (connection : List Transmission) : List UInt8 :=
  (connection.map Transmission.bytes).flatten

omit [ByteBufferApi] [LawfulByteBuffer] in
private theorem wireBytes_whole {connection : List Transmission}
    (whole : ∀ sent ∈ connection, sent.Whole) :
    wireBytes connection = (connection.map Transmission.frame).flatten := by
  refine congrArg List.flatten (List.map_congr_left fun sent member => ?_)
  exact List.take_of_length_le (whole sent member)

omit [ByteBufferApi] [LawfulByteBuffer] in
private theorem wireBytes_begins {connection : List Transmission}
    (whole : ∀ sent ∈ connection.dropLast, sent.Whole) :
    (connection.dropLast.map Transmission.frame).flatten <+: wireBytes connection ∧
      wireBytes connection <+: (connection.map Transmission.frame).flatten := by
  rcases List.eq_nil_or_concat connection with rfl | ⟨front, last, rfl⟩
  · exact ⟨List.prefix_rfl, List.prefix_rfl⟩
  · rw [List.concat_eq_append, List.dropLast_concat] at whole ⊢
    have split : wireBytes (front ++ [last]) =
        (front.map Transmission.frame).flatten ++ last.bytes := by
      rw [← wireBytes_whole whole]
      simp [wireBytes]
    rw [split, List.map_append, List.flatten_append]
    refine ⟨List.prefix_append .., (List.prefix_append_right_inj _).mpr ?_⟩
    have first : last.bytes <+: last.frame := List.take_prefix ..
    simpa using first

/-- What the platform can read, whatever the vehicles send. Each connection carries what its
server has been told, a conversation, command by command as one frame that names it: a login or
a logout of the platform as the uploader makes it, and else a frame of one of the commands of a
vehicle. As long as every write but the last one went out whole, a reader at the other end has
all frames before the last one; and if it cuts frames from the front of what it gets, each as long
as its length field says, these are the first frames that were written, and no others. -/
theorem uplink_decodes
    (reach : Reach (relaying Id settings config n capacity) Relay.FailsWhole relay) (i : Fin n) :
    (relay.lines.wire i).map (List.map Transmission.command) =
      (relay.links.server i).connections ∧
    ∀ connection ∈ relay.lines.wire i,
      connection.map Transmission.command ∈ Conversation.conversation ∧
      (∀ sent ∈ connection, sent.command.Spells relay.links.state.accepted sent.frame) ∧
      ((∀ sent ∈ connection.dropLast, sent.Whole) →
        (connection.dropLast.map Transmission.frame).flatten <+: wireBytes connection ∧
        ∀ cut, (∀ frame ∈ cut, IsFrame frame) → cut.flatten <+: wireBytes connection →
          cut <+: connection.map Transmission.frame) := by
  have carries := relaying_carries reach
  have speaks := (Uplinks.speaks_of_reach (relaying_runs reach).1).2
  refine ⟨carries.told i, fun connection member => ⟨?_, ?_, fun whole => ?_⟩⟩
  · refine (speaks.spoken i).spoken _ ?_
    rw [← carries.told i]
    exact List.mem_map_of_mem member
  · exact fun sent said => carries.spelt i sent (List.mem_flatten_of_mem member said)
  · obtain ⟨begins, within⟩ := wireBytes_begins whole
    refine ⟨begins, fun cut framed front => ?_⟩
    refine isFrame_free.flatten_prefix (fun frame framed => ?_) framed ?_ (front.trans within)
    · exact List.ne_nil_of_length_pos (Nat.lt_of_le_of_lt (Nat.zero_le _) framed.long)
    · intro frame listed
      obtain ⟨sent, said, rfl⟩ := List.mem_map.mp listed
      exact (carries.spelt i sent (List.mem_flatten_of_mem member said)).isFrame

end Runs

private def sampleConfig : LoginConfig := ⟨[84, 84], [48], 1, [51]⟩

/-- The step of a gateway as one of a relay, whose writes all go out. -/
private def relayed : GatewayEvent Nat 1 → RelayEvent Nat 1
  | .service event => .service event
  | .forward action => .link (.forward action) ⟨1, sampleTime, LoginDataForward.size⟩

/-- A login of the platform, and then the login of a vehicle. -/
theorem uplink_decodes_login : ∃ (relay : Relay Nat 1) (login vehicle : Transmission),
    relay.lines.wire 0 = [[login, vehicle]] ∧ vehicle.frame = sampleFrame .vehicleLogin ∧
    login.command.Spells relay.links.state.accepted login.frame ∧
    vehicle.command.Spells relay.links.state.accepted vehicle.frame ∧
    ∀ cut, (∀ frame ∈ cut, IsFrame frame) → cut.flatten <+: wireBytes [login, vehicle] →
      cut <+: [login.frame, vehicle.frame] := by
  let := ByteBuffer.reference
  have := ByteBuffer.reference_lawful
  let filled := (sampleMemory.fill sampleConfig 0 (by decide)).get (by decide +kernel)
  have constructed : Uploader.construct sampleConfig 0 sampleMemory = .ok (some filled) := by
    rw [Option.some_get]
    rfl
  have initial : Reach (relaying Nat ⟨some .release, []⟩ sampleConfig 1 5) Relay.FailsWhole
      ⟨.initial Nat, .initial 1 5 (some .release), ⟨fun _ => filled, fun _ => []⟩⟩ :=
    .start ⟨rfl, rfl, fun _ => ⟨0, sampleMemory, constructed⟩, fun _ => rfl⟩
  obtain ⟨relay, reach, size, whole, last⟩ := initial.exists_of_schedule
    (fun relay => (relay.lines.wire 0).map List.length = [2] ∧
      (∀ sent ∈ (relay.lines.wire 0).flatten, sent.Whole) ∧
      (relay.lines.wire 0).flatten.getLast?.map Transmission.frame =
        some (sampleFrame .vehicleLogin))
    ((writesFrame (sampleFrame .vehicleLogin)).map relayed) (by decide +kernel)
  obtain ⟨connection, single, two⟩ := List.map_eq_singleton_iff.mp size
  obtain ⟨login, vehicle, rfl⟩ := List.length_eq_two.mp two
  simp only [single, List.flatten_singleton] at whole last
  obtain ⟨-, all⟩ := uplink_decodes reach 0
  obtain ⟨-, spells, reads⟩ := all [login, vehicle] (by simp [single])
  refine ⟨relay, login, vehicle, single, Option.some.inj last, spells login (by simp),
    spells vehicle (by simp), (reads fun sent member => whole sent ?_).2⟩
  exact List.mem_of_mem_dropLast member

end MotorInfoUpload
