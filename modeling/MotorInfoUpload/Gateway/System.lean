import MotorInfoUpload.Machine.Simulation
import MotorInfoUpload.Session.Moves
import MotorInfoUpload.Forwarder.Moves

/-! The vehicle service and the uploaders together. The service thread runs one
handler at a time, and a handler that has a packet ends with its put into a queue. -/

namespace MotorInfoUpload

open Machine

structure Gateway (Id : Type) (n : Nat) where
  server : Server Id
  forwarder : State n

inductive GatewayEvent (Id : Type) (n : Nat) where
  | service (event : ServiceEvent Id)
  | forward (action : Action n)

/-- The events that are handlers, which run on the service thread. -/
def ServiceEvent.handler {Id : Type} : ServiceEvent Id → Prop
  | .accept _ | .handle _ | .timeout _ | .writeDone _ | .writeFailed _ => True
  | .arrive _ _ | .breaks _ | .expire _ | .respond _ => False

instance {Id : Type} (event : ServiceEvent Id) : Decidable event.handler :=
  match event with
  | .accept _ | .handle _ | .timeout _ | .writeDone _ | .writeFailed _ => .isTrue trivial
  | .arrive _ _ | .breaks _ | .expire _ | .respond _ => .isFalse fun handler => handler

/-- `readDataUnitHandler` has got the packet and looks for a connection. -/
def State.handed {n : Nat} (state : State n) : Option ByteBuffer → State n
  | none => state
  | some buf => { state with
      service := .checking 0 ⟨state.accepted.length, buf⟩
      accepted := state.accepted ++ [buf] }

variable {Id : Type} [DecidableEq Id] {n : Nat} [ByteBufferApi]

namespace Gateway

/-- `main` starts the service thread when the first uploader is in the pool. -/
def step (settings : Settings) (gateway : Gateway Id n) :
    GatewayEvent Id n → Option (Gateway Id n)
  | .service event =>
    if event.handler → gateway.forwarder.service = .idle ∧ 0 < gateway.forwarder.pool then
      (gateway.server.step settings event).map fun server =>
        ⟨server, gateway.forwarder.handed (gateway.server.puts event)⟩
    else none
  | .forward action => match action with
    | .accept _ => none
    | action => (gateway.forwarder.step action).map fun forwarder => { gateway with forwarder }

inductive Move (settings : Settings) (before : Gateway Id n) :
    GatewayEvent Id n → Gateway Id n → Prop where
  | service {server : Server Id}
      (free : event.handler → before.forwarder.service = .idle ∧ 0 < before.forwarder.pool)
      (stepped : before.server.step settings event = some server) :
      Move settings before (.service event)
        ⟨server, before.forwarder.handed (before.server.puts event)⟩
  | forward {forwarder : State n} (inner : ∀ session, action ≠ .accept session)
      (stepped : before.forwarder.step action = some forwarder) :
      Move settings before (.forward action) { before with forwarder }

theorem step_cases {settings : Settings} {before after : Gateway Id n} {event : GatewayEvent Id n}
    (stepped : before.step settings event = some after) : Move settings before event after := by
  cases event with
  | service event =>
    unfold step at stepped
    dsimp only at stepped
    split at stepped
    · rename_i free
      obtain ⟨server, moved, same⟩ := Option.map_eq_some_iff.mp stepped
      subst same
      exact .service free moved
    · cases stepped
  | forward action =>
    unfold step at stepped
    dsimp only at stepped
    split at stepped
    · cases stepped
    · rename_i inner
      obtain ⟨forwarder, moved, same⟩ := Option.map_eq_some_iff.mp stepped
      subst same
      exact .forward inner moved

theorem step_forward (settings : Settings) {before : Gateway Id n} {forwarder : State n}
    (inner : ∀ session, action ≠ .accept session)
    (stepped : before.forwarder.step action = some forwarder) :
    before.step settings (.forward action) = some { before with forwarder } := by
  cases action with
  | accept session => exact absurd rfl (inner session)
  | _ => exact Option.map_eq_some_iff.mpr ⟨_, stepped, rfl⟩

end Gateway

/-- The whole program on the side of the vehicles: `n` uploaders, two queues and the
vehicle service. -/
def gateway (Id : Type) [DecidableEq Id] (settings : Settings) (n maxVehicleDataQueueSize : Nat) :
    Automaton (Gateway Id n) (GatewayEvent Id n) where
  start gateway := gateway.server = .initial Id ∧
    gateway.forwarder = State.initial n maxVehicleDataQueueSize settings.mode
  step := Gateway.step settings

variable {settings : Settings} {capacity : Nat} {guard : Gateway Id n → GatewayEvent Id n → Prop}
  {state : Gateway Id n}

theorem gateway_server (reach : Reach (gateway Id settings n capacity) guard state) :
    Reachable (vehicleService Id settings) state.server := by
  induction reach with
  | start initial => exact .start initial.1
  | next _ _ stepped ih =>
    cases Gateway.step_cases stepped with
    | service free moved => exact ih.next trivial moved
    | forward inner moved => exact ih

section Packets

variable [LawfulByteBuffer]

omit [DecidableEq Id] in
/-- The packet of a frame depends neither on the session that reads it nor on the table. -/
theorem TcpSession.FrameRead.returned {session : TcpSession} {self : Id} {table : SessionTable Id}
    {parsed : Parsed Id} (read : session.FrameRead)
    (parse : parseDataUnit self session table = some (.ok parsed))
    (packetIs : parsed.packet = some buf) : session.returned = some buf := by
  unfold TcpSession.returned
  cases (parseDataUnit_cases parse).2 with
  | upload command filtered =>
    cases packetIs
    rw [parseDataUnit, parseDataUnitWithin_upload () session _ _ read.atUnit command.symm, filtered]
    rfl
  | login command rewound =>
    cases packetIs
    obtain ⟨parsed, again, same⟩ := parseDataUnit_verbatim read (.inl command)
    rw [again]
    exact same.trans (congrArg some (Except.ok.inj (rewindPacket_ok.symm.trans rewound)))
  | logout command rewound =>
    cases packetIs
    obtain ⟨parsed, again, same⟩ := parseDataUnit_verbatim read (.inr command)
    rw [again]
    exact same.trans (congrArg some (Except.ok.inj (rewindPacket_ok.symm.trans rewound)))
  | heartBeat => cases packetIs

omit [DecidableEq Id] in
private theorem handed_accept {gateway : Gateway Id n} {event : ServiceEvent Id}
    (sound : gateway.server.Sound settings)
    (free : event.handler → gateway.forwarder.service = .idle ∧ 0 < gateway.forwarder.pool)
    (puts : gateway.server.puts event = some buf) : ∃ session,
      gateway.forwarder.step (.accept session) = some (gateway.forwarder.handed (some buf)) := by
  obtain ⟨id, connection, bytes, session, parsed, rfl, takes, parse, packetIs⟩ := sound.putting puts
  obtain ⟨idle, serving⟩ := free trivial
  refine ⟨session, ?_⟩
  refine (if_pos ⟨idle, serving, takes.read⟩).trans ?_
  rw [takes.read.returned parse packetIs]
  rfl

/-- For the forwarder an event of the service is a session that it accepts, or nothing. -/
theorem Gateway.service_accepts {before after : Gateway Id n} {event : ServiceEvent Id}
    (sound : before.server.Sound settings)
    (stepped : before.step settings (.service event) = some after) :
    after.forwarder = before.forwarder ∨
      ∃ session, before.forwarder.step (.accept session) = some after.forwarder := by
  cases Gateway.step_cases stepped with
  | @service _ server free moved =>
    cases puts : before.server.puts event with
    | none => exact .inl rfl
    | some buf => exact .inr (handed_accept sound free puts)

theorem gateway_forwarder (reach : Reach (gateway Id settings n capacity) guard state) :
    Reachable (forwarder n capacity) state.forwarder := by
  induction reach with
  | start initial => exact .start ⟨settings.mode, initial.2⟩
  | @next before event after earlier _ stepped ih =>
    have sound := Server.sound_of_reach (gateway_server earlier)
    cases Gateway.step_cases stepped with
    | @service event server free moved =>
      cases puts : before.server.puts event with
      | none => exact ih
      | some buf =>
        obtain ⟨session, accepted⟩ := handed_accept sound free puts
        have moved : (forwarder n capacity).step before.forwarder (.accept session) =
            some (before.forwarder.handed (some buf)) := accepted
        exact ih.next trivial moved
    | forward inner moved => exact ih.next trivial moved

/-- Where the guard of a gateway's run limits what its forwarder does, it is a guard of the
forwarder's run. -/
theorem gateway_forwarder_within {within : State n → Action n → Prop}
    (reach : Reach (gateway Id settings n capacity) guard state)
    (accepts : ∀ state session, within state (.accept session))
    (forwards : ∀ gateway action, guard gateway (.forward action) →
      within gateway.forwarder action) :
    Reach (forwarder n capacity) within state.forwarder := by
  refine reach.projected Gateway.forwarder (fun start initial => ⟨settings.mode, initial.2⟩) ?_
  intro before event after earlier allowed stepped
  have sound := Server.sound_of_reach (gateway_server earlier)
  cases Gateway.step_cases stepped with
  | service free moved =>
    rcases Gateway.service_accepts sound stepped with same | ⟨session, accepted⟩
    · exact .inl same
    · exact .inr ⟨.accept session, accepts _ _, accepted⟩
  | forward inner moved => exact .inr ⟨_, forwards _ _ allowed, moved⟩

end Packets

def sendsFrame (frame : List UInt8) : List (GatewayEvent Nat 1) :=
  [.service (.arrive 0 (frame.take 24)), .service (.handle 0),
    .service (.arrive 0 (frame.drop 24)), .service (.handle 0)]

end MotorInfoUpload
