import MotorInfoUpload.Machine.Run
import MotorInfoUpload.BlockQueue
import MotorInfoUpload.Session.Received
import Mathlib.Logic.Function.Basic

/-! The threads that move packets: the vehicle service thread inside
`readDataUnitHandler`, and any number of uploaders inside `Uploader::run`, around
the realtime and the reissue queue. One label is one step of one thread, or one
event of the connections. -/

namespace MotorInfoUpload

open Machine

/-- A packet on its way, with its place in the order of acceptance. -/
structure Packet where
  seq : Nat
  buf : ByteBuffer
deriving DecidableEq

/-- Where there is one uploader, it is uploader `0`. -/
instance oneUploader : @NeZero Nat Zero.ofOfNat0 1 := ⟨Nat.one_ne_zero⟩

inductive Thread (n : Nat) where
  | service
  | uploader (i : Fin n)
deriving DecidableEq

instance {n : Nat} (thread : Thread n) (waiters : List (Thread n)) : Decidable (thread ∈ waiters) :=
  inferInstance

/-- Where the service thread stands in `readDataUnitHandler` once `parseDataUnit`
has returned a packet; it is `idle` everywhere else. -/
inductive ServiceAt where
  | idle
  | checking (k : Nat) (packet : Packet)
  | drainCheck (packet : Packet)
  | drainTake (packet : Packet)
  | drainPut (packet data : Packet)
  | putReissue (packet : Packet)
  | putRealtime (packet : Packet)
deriving DecidableEq

/-- The calls of `setupConnAndLogin`: a round of the compliance test, the one
after the rounds, and the one in the forwarding loop. -/
inductive LoginCall where
  | round (i : Nat)
  | last
  | forward
deriving DecidableEq

/-- Where an uploader stands while it has nothing to do with the queues. The
argument of `connecting` is the login that called `setupConnection`, if one did. -/
inductive Outside where
  | unstarted
  | starting
  | connecting (login : Option LoginCall)
  | loginCheck (login : LoginCall)
  | loginSend (login : LoginCall)
  | loginWait (login : LoginCall)
  | logoutSend (i : Nat)
  | logoutWait (i : Nat)
  | top
  | offline
  | check
  | closing
  | stopped
deriving DecidableEq

inductive UploaderAt where
  | outside (place : Outside)
  | select
  | takeRealtime
  | takeReissue
  | loaded (packet : Packet)
  | sending (packet : Packet)
  | putBack (packet : Packet)
deriving DecidableEq

/-- What happens next to an uploader outside the queues. -/
inductive Event where
  | next
  | connects
  | refuses
  | answered (status : ResponseReaderStatus)
  | throws
deriving DecidableEq

structure State (n : Nat) where
  mode : Option EnumRunMode
  offline : Bool
  pool : Nat
  realtime : BlockQueue (Thread n) Packet
  reissue : BlockQueue (Thread n) Packet
  connected : Fin n → Bool
  service : ServiceAt
  uploader : Fin n → UploaderAt
  accepted : List ByteBuffer
  written : List Packet

/-- One step of the system. The argument `woken` names the thread that the step's
`notify_one` wakes. -/
inductive Action (n : Nat) where
  | start (i : Fin n)
  | push
  | signal
  | accept (session : TcpSession)
  | service (woken : Option (Thread n))
  | outside (i : Fin n) (event : Event)
  | upload (i : Fin n) (woken : Option (Thread n))
  | sent (i : Fin n)
  | failed (i : Fin n) (progress : Nat)
  | drop (i : Fin n)
  | wakeRealtime (thread : Thread n)
  | wakeReissue (thread : Thread n)

namespace State

variable {n : Nat}

/-- The system before `main` starts its first uploader. -/
def initial (n capacity : Nat) (mode : Option EnumRunMode) : State n where
  mode
  offline := false
  pool := 0
  realtime := .empty capacity
  reissue := .empty capacity
  connected _ := false
  service := .idle
  uploader _ := .outside .unstarted
  accepted := []
  written := []

def move (state : State n) (i : Fin n) (place : UploaderAt) : State n :=
  { state with uploader := Function.update state.uploader i place }

def connection (state : State n) (i : Fin n) (up : Bool) : State n :=
  { state with connected := Function.update state.connected i up }

@[simp] theorem move_uploader (state : State n) (i : Fin n) (place : UploaderAt) :
    (state.move i place).uploader i = place := Function.update_self ..

@[simp] theorem move_other {i j : Fin n} (state : State n) (place : UploaderAt) (other : j ≠ i) :
    (state.move i place).uploader j = state.uploader j := Function.update_of_ne other ..

@[simp] theorem move_realtime (state : State n) (i : Fin n) (place : UploaderAt) :
    (state.move i place).realtime = state.realtime := rfl

@[simp] theorem move_reissue (state : State n) (i : Fin n) (place : UploaderAt) :
    (state.move i place).reissue = state.reissue := rfl

@[simp] theorem move_service (state : State n) (i : Fin n) (place : UploaderAt) :
    (state.move i place).service = state.service := rfl

@[simp] theorem move_connected (state : State n) (i : Fin n) (place : UploaderAt) :
    (state.move i place).connected = state.connected := rfl

@[simp] theorem move_accepted (state : State n) (i : Fin n) (place : UploaderAt) :
    (state.move i place).accepted = state.accepted := rfl

@[simp] theorem move_written (state : State n) (i : Fin n) (place : UploaderAt) :
    (state.move i place).written = state.written := rfl

@[simp] theorem connection_realtime (state : State n) (i : Fin n) (up : Bool) :
    (state.connection i up).realtime = state.realtime := rfl

@[simp] theorem connection_reissue (state : State n) (i : Fin n) (up : Bool) :
    (state.connection i up).reissue = state.reissue := rfl

@[simp] theorem connection_service (state : State n) (i : Fin n) (up : Bool) :
    (state.connection i up).service = state.service := rfl

@[simp] theorem connection_uploader (state : State n) (i : Fin n) (up : Bool) :
    (state.connection i up).uploader = state.uploader := rfl

@[simp] theorem connection_accepted (state : State n) (i : Fin n) (up : Bool) :
    (state.connection i up).accepted = state.accepted := rfl

@[simp] theorem connection_written (state : State n) (i : Fin n) (up : Bool) :
    (state.connection i up).written = state.written := rfl

@[simp] theorem move_only (state : State 1) (i : Fin 1) (place : UploaderAt) :
    (state.move i place).uploader 0 = place := by
  rw [Subsingleton.elim i 0, move_uploader]

@[simp] theorem connection_only (state : State 1) (i : Fin 1) (up : Bool) :
    (state.connection i up).connected 0 = up := by
  simp [connection, Subsingleton.elim i 0]

end State

variable [ByteBufferApi]

/-- The packet `parseDataUnit` returns for the frame read by the session, if it
returns one. It does not depend on the session table. -/
def TcpSession.returned (session : TcpSession) : Option ByteBuffer :=
  match parseDataUnit () session SessionTable.empty with
  | some (.ok parsed) => parsed.packet
  | _ => none

/-- A packet taken from the reissue queue: a realtime frame becomes a reissue
frame and its check code is made anew. -/
def markReissue (buf : ByteBuffer) : Except Exception ByteBuffer :=
  if DataPacketHeader.cmdId buf.array = CmdCode.realtimeUpload.value then
    let marked := buf.withArray (DataPacketHeader.setCmdId buf.array .reissueUpload)
      DataPacketHeader.setCmdId_length
    let remaining := ByteBufferApi.remaining marked
    match Util.generateBlockCheckCharacterOf marked 0 (sizeMinus remaining 1) with
    | .ok bcc => .ok (marked.withArray (marked.array.set (marked.position + remaining - 1) bcc)
        List.length_set)
    | .error exception => .error exception
  else .ok buf

def loginRounds : Nat := 5

def LoginCall.after (i : Nat) : LoginCall := if i < loginRounds then .round i else .last

/-- Where `run` goes on when a login has returned. -/
def LoginCall.returns : LoginCall → UploaderAt
  | round i => .outside (.logoutSend i)
  | last => .outside .top
  | forward => .select

namespace State

variable {n : Nat}

/-- A step of the service thread inside `readDataUnitHandler`. -/
def serviceStep (state : State n) (woken : Option (Thread n)) : Option (State n) :=
  match state.service with
  | .idle => none
  | .checking k packet =>
    if inside : k < state.pool ∧ k < n then
      if state.connected ⟨k, inside.2⟩ then some { state with service := .putRealtime packet }
      else some { state with service := .checking (k + 1) packet }
    else some { state with service := .drainCheck packet }
  | .drainCheck packet =>
    if state.realtime.isEmpty then some { state with service := .putReissue packet }
    else some { state with service := .drainTake packet }
  | .drainTake packet => (state.realtime.take .service woken).map fun turn => match turn with
    | .waits realtime => { state with realtime }
    | .returns realtime data => { state with realtime, service := .drainPut packet data }
  | .drainPut packet data => (state.reissue.put .service data false woken).map fun turn =>
    match turn with
    | .waits reissue => { state with reissue }
    | .returns reissue _ => { state with reissue, service := .drainCheck packet }
  | .putReissue packet => (state.reissue.put .service packet false woken).map fun turn =>
    match turn with
    | .waits reissue => { state with reissue }
    | .returns reissue _ => { state with reissue, service := .idle }
  | .putRealtime packet => (state.realtime.put .service packet false woken).map fun turn =>
    match turn with
    | .waits realtime => { state with realtime }
    | .returns realtime _ => { state with realtime, service := .idle }

/-- A step of uploader `i` outside the queues. A send of `tcpSendData` in a login
or a logout goes on in the same way whether it succeeds or not. -/
def outsideStep (state : State n) (i : Fin n) (place : Outside) (event : Event) :
    Option (State n) :=
  match place, event with
  | .starting, .next => match state.mode with
    | some .release => some (state.move i (.outside .top))
    | some _ => some (state.move i (.outside (.connecting none)))
    | none => some (state.move i (.outside .closing))
  | .connecting _, .connects => if state.connected i then none else some (state.connection i true)
  | .connecting login, .refuses =>
    if state.connected i then none else some (state.move i (.outside (.connecting login)))
  | .connecting login, .next =>
    if state.connected i then match login with
      | none => some (state.move i (.outside (.loginCheck (.after 0))))
      | some login => some (state.move i (.outside (.loginSend login)))
    else none
  | .connecting _, .throws => some (state.move i (.outside .closing))
  | .loginCheck login, .next =>
    if state.connected i then some (state.move i (.outside (.loginSend login)))
    else some (state.move i (.outside (.connecting (some login))))
  | .loginSend login, .next => some (state.move i (.outside (.loginWait login)))
  | .loginWait login, .answered status => match status with
    | .responseOk => some (state.move i login.returns)
    | .connectionClosed | .timeout | .responseFormatErr =>
      some (state.move i (.outside (.loginCheck login)))
    | .responseNotOk | .init => some (state.move i (.outside .closing))
  | .logoutSend round, .next => some (state.move i (.outside (.logoutWait round)))
  | .logoutWait round, .answered status =>
    if status = .responseOk then some (state.move i (.outside (.loginCheck (.after (round + 1)))))
    else some (state.move i (.outside .closing))
  | .top, .next =>
    if state.mode = some .platformCompliance ∧ state.offline then
      some ((state.connection i false).move i (.outside .offline))
    else some (state.move i (.outside .check))
  | .offline, .next => some { state.move i (.outside .check) with offline := false }
  | .check, .next =>
    if state.connected i then some (state.move i .select)
    else some (state.move i (.outside (.loginCheck .forward)))
  | .closing, .next => some ((state.connection i false).move i (.outside .stopped))
  | _, _ => none

/-- A step of uploader `i` between the check of its connection and the next round
of its loop. -/
def uploadStep (state : State n) (i : Fin n) (woken : Option (Thread n)) : Option (State n) :=
  match state.uploader i with
  | .outside _ => none
  | .select => some (state.move i (if state.reissue.isEmpty then .takeRealtime else .takeReissue))
  | .takeRealtime => (state.realtime.take (.uploader i) woken).map fun turn => match turn with
    | .waits realtime => { state with realtime }
    | .returns realtime data => { state.move i (.loaded data) with realtime }
  | .takeReissue => (state.reissue.take (.uploader i) woken).map fun turn => match turn with
    | .waits reissue => { state with reissue }
    | .returns reissue data => match markReissue data.buf with
      | .ok buf => { state.move i (.loaded { data with buf }) with reissue }
      | .error _ => { state.move i (.outside .closing) with reissue }
  | .loaded packet =>
    if 0 < ByteBufferApi.remaining packet.buf then some (state.move i (.sending packet))
    else some (state.move i (.outside .top))
  | .sending packet =>
    if DataPacketHeader.cmdId packet.buf.array ∈ legalCmds then none
    else some (state.move i (.outside .closing))
  | .putBack packet => (state.reissue.put (.uploader i) packet true woken).map fun turn =>
    match turn with
    | .waits reissue => { state with reissue }
    | .returns reissue _ => { state.move i (.outside .top) with reissue }

/-- The write of `tcpSendData`: it sends the packet, or throws a `SocketException`
with its position moved on by `progress`. -/
def sendStep (state : State n) (i : Fin n) (failure : Option Nat) : Option (State n) :=
  match state.uploader i with
  | .sending packet =>
    if DataPacketHeader.cmdId packet.buf.array ∈ legalCmds then match failure with
      | none => some { state.move i (.outside .top) with written := state.written ++ [packet] }
      | some progress =>
        if room : packet.buf.position + progress ≤ packet.buf.limit then
          some (state.move i (.putBack { packet with buf := packet.buf.advance progress room }))
        else none
    else none
  | _ => none

def step (state : State n) : Action n → Option (State n)
  | .start i =>
    if state.uploader i = .outside .unstarted then some (state.move i (.outside .starting))
    else none
  | .push =>
    if more : state.pool < n then
      if state.uploader ⟨state.pool, more⟩ = .outside .unstarted then none
      else some { state with pool := state.pool + 1 }
    else none
  | .signal => some { state with offline := true }
  | .accept session =>
    if state.service = .idle ∧ 0 < state.pool ∧ session.FrameRead then
      session.returned.map fun buf => { state with
        service := .checking 0 ⟨state.accepted.length, buf⟩
        accepted := state.accepted ++ [buf] }
    else none
  | .service woken => state.serviceStep woken
  | .outside i event => match state.uploader i with
    | .outside place => state.outsideStep i place event
    | _ => none
  | .upload i woken => state.uploadStep i woken
  | .sent i => state.sendStep i none
  | .failed i progress => state.sendStep i (some progress)
  | .drop i => if state.connected i then some (state.connection i false) else none
  | .wakeRealtime thread => (state.realtime.wake thread).map fun realtime => { state with realtime }
  | .wakeReissue thread => (state.reissue.wake thread).map fun reissue => { state with reissue }

end State

/-- The system with `n` uploaders and queues of `MaxVehicleDataQueueSize` slots. -/
def forwarder (n maxVehicleDataQueueSize : Nat) : Automaton (State n) (Action n) where
  start state := ∃ mode, state = State.initial n maxVehicleDataQueueSize mode
  step := State.step

def loggedIn : List (Action 1) :=
  [.start 0, .push, .outside 0 .next, .outside 0 .next, .outside 0 .next, .outside 0 .next,
    .outside 0 .connects, .outside 0 .next, .outside 0 .next,
    .outside 0 (.answered .responseOk), .upload 0 none, .upload 0 none]

end MotorInfoUpload
