import MotorInfoUpload.Platform.ResponseReader
import MotorInfoUpload.Session.Server

namespace MotorInfoUpload

open Machine

/-- A buffer that a write refers to: the `m_responseBuf` of a reader, or a packet
buffer of a session, by its place among those the session has allocated. -/
inductive BufferRef (Id Reader : Type) where
  | response (reader : Reader)
  | packet (id : Id) (generation : Nat)
deriving DecidableEq

/-- An `async_write`: the session whose socket it writes to, the buffer and the
position in it, and the bytes sent so far. The bytes that the buffer held when the
write was started, and the VIN that `run` had looked the session up by, are no part
of the program. -/
structure Write (Id Reader : Type) where
  target : Id
  source : BufferRef Id Reader
  position : Nat
  sent : List UInt8
  given : List UInt8
  vin : Option (List UInt8)
deriving DecidableEq

/-- The vehicle service, the readers, the number of packet buffers that each session
has replaced, the pending writes, and those whose handlers have run. -/
structure Wire (Id Reader : Type) where
  server : Server Id
  readers : Reader → ResponseReader
  generation : Id → Nat
  pending : List (Write Id Reader)
  delivered : List (Write Id Reader)

/-- What can happen next: an event of the service or of a reader, a timeout in
`waitNextStatus`, and the progress, the completion or the failure of a write. -/
inductive WireEvent (Id Reader : Type) where
  | service (event : ServiceEvent Id)
  | reader (reader : Reader) (event : ReaderEvent)
  | timeout (reader : Reader)
  | transmit (k : Nat) (bytes : List UInt8)
  | complete (k : Nat)
  | fail (k : Nat)

def ServiceEvent.spontaneous {Id : Type} : ServiceEvent Id → Bool
  | respond _ | writeDone _ | writeFailed _ => false
  | _ => true

variable {Id Reader : Type} [DecidableEq Id]

/-- The bytes in the memory of a buffer that a write refers to. -/
def Write.bytesIn (write : Write Id Reader) (memory : List UInt8) : List UInt8 :=
  (memory.drop write.position).take write.given.length

namespace Wire

/-- The buffer itself, as long as it is allocated. -/
def buffer (wire : Wire Id Reader) : BufferRef Id Reader → Option ByteBuffer
  | .response reader => some (wire.readers reader).responseBuf
  | .packet id generation =>
    if generation = wire.generation id then
      (wire.server.sessions id).map fun connection => connection.session.packetRef
    else none

omit [DecidableEq Id] in
theorem buffer_packet {wire : Wire Id Reader} {id : Id} {generation : Nat} {buffer : ByteBuffer} :
    wire.buffer (.packet id generation) = some buffer ↔ generation = wire.generation id ∧
      ∃ connection, wire.server.sessions id = some connection ∧
        connection.session.packetRef = buffer := by
  unfold Wire.buffer
  dsimp only
  split
  · rename_i current
    simp [current, Option.map_eq_some_iff]
  · rename_i replaced
    simp [replaced]

/-- The operating system takes the next bytes of a write from its buffer as it is
now. What stands where a buffer was freed may be anything. -/
def Sends (wire : Wire Id Reader) (write : Write Id Reader) (bytes : List UInt8) : Prop :=
  (∃ connection ∈ wire.server.sessions write.target, connection.closed = false) ∧
  write.sent.length + bytes.length ≤ write.given.length ∧
  ∀ buffer ∈ wire.buffer write.source,
    bytes = (buffer.array.drop (write.position + write.sent.length)).take bytes.length

instance (wire : Wire Id Reader) (write : Write Id Reader) (bytes : List UInt8) :
    Decidable (wire.Sends write bytes) := inferInstanceAs (Decidable (_ ∧ _ ∧ _))

section Steps

variable [ByteBufferApi] [DecidableEq Reader]

def initial (Id Reader : Type) [DecidableEq Id] : Wire Id Reader :=
  ⟨.initial Id, fun _ => .initial, fun _ => 0, [], []⟩

/-- What the handler of a whole frame leaves behind. -/
def replied (wire : Wire Id Reader) (id : Id) : Option (Handled Id) :=
  (wire.server.sessions id).bind fun connection => match connection.read with
    | .arrived .dataUnit bytes => (Server.framed connection bytes).bind fun session =>
      session.readDataUnitHandler id wire.server.table
    | _ => none

/-- The writes and buffers after an event of the service: the reply to a heartbeat
is written from the packet buffer, which `readHeader` then replaces. -/
def serve (wire : Wire Id Reader) (server : Server Id) : ServiceEvent Id → Wire Id Reader
  | .handle id => match wire.replied id with
    | none => { wire with server }
    | some handled => { wire with
      server
      generation := if handled.reading = some .header then
          Function.update wire.generation id (wire.generation id + 1)
        else wire.generation
      pending := wire.pending ++ (handled.written.map fun buffer =>
        ⟨id, .packet id (wire.generation id), buffer.position, [], buffer.window, none⟩).toList }
  | _ => { wire with server }

omit [DecidableEq Reader] in
@[simp] theorem serve_server (wire : Wire Id Reader) (server : Server Id) (event : ServiceEvent Id) :
    (wire.serve server event).server = server := by
  unfold serve
  split
  · split <;> rfl
  · rfl

omit [DecidableEq Reader] in
theorem serve_pending (wire : Wire Id Reader) (server : Server Id) (id : Id) :
    (wire.serve server (.handle id)).pending = wire.pending ++
      (((wire.replied id).bind Handled.written).map fun buffer =>
        ⟨id, .packet id (wire.generation id), buffer.position, [], buffer.window, none⟩).toList := by
  cases replied : wire.replied id with
  | none => simp [serve, replied]
  | some handled => simp [serve, replied]

/-- `iter->second->write (m_responseBuf)`, when `run` forwards the response. -/
def forward (settings : Settings) (wire : Wire Id Reader) (reader : Reader) :
    Option (Wire Id Reader) :=
  let source := wire.readers reader
  match if source.forwards then wire.server.table source.vin else none with
  | none => some wire
  | some id => (wire.server.step settings (.respond source.vin)).map fun server => { wire with
    server
    pending := wire.pending ++ [⟨id, .response reader, source.responseBuf.position, [],
      source.responseBuf.window, some source.vin⟩] }

def step (settings : Settings) (wire : Wire Id Reader) : WireEvent Id Reader → Option (Wire Id Reader)
  | .service event =>
    if event.spontaneous then
      (wire.server.step settings event).map fun server => wire.serve server event
    else none
  | .reader reader event => ((wire.readers reader).step event).bind fun after =>
    let wire := { wire with readers := Function.update wire.readers reader after }
    if event = .answer then wire.forward settings reader else some wire
  | .timeout reader =>
    if (wire.readers reader).place = .sleeping then none
    else some { wire with
      readers := Function.update wire.readers reader (wire.readers reader).expire }
  | .transmit k bytes => wire.pending[k]?.bind fun write =>
    if wire.Sends write bytes then
      some { wire with pending := wire.pending.set k { write with sent := write.sent ++ bytes } }
    else none
  | .complete k => wire.pending[k]?.bind fun write =>
    if write.sent.length = write.given.length then
      (wire.server.step settings (.writeDone write.target)).map fun server => { wire with
        server
        pending := wire.pending.eraseIdx k
        delivered := wire.delivered ++ [write] }
    else none
  | .fail k => wire.pending[k]?.bind fun write =>
    (wire.server.step settings (.writeFailed write.target)).map fun server => { wire with
      server
      pending := wire.pending.eraseIdx k }

omit [DecidableEq Id] [ByteBufferApi] [DecidableEq Reader] in
/-- The session that `run` forwards a response to. -/
def forwardee (wire : Wire Id Reader) (reader : Reader) : Option Id :=
  if (wire.readers reader).forwards then wire.server.table (wire.readers reader).vin else none

inductive Move (settings : Settings) (before : Wire Id Reader) :
    WireEvent Id Reader → Wire Id Reader → Prop where
  | service {server : Server Id} (spontaneous : event.spontaneous = true)
      (moved : before.server.step settings event = some server) :
      Move settings before (.service event) (before.serve server event)
  | read (other : event ≠ .answer) (moved : (before.readers reader).step event = some after) :
      Move settings before (.reader reader event)
        { before with readers := Function.update before.readers reader after }
  | answered (standing : (before.readers reader).place = .answering)
      (moved : (before.readers reader).step .answer = some after)
      (nobody : before.forwardee reader = none) :
      Move settings before (.reader reader .answer)
        { before with readers := Function.update before.readers reader after }
  | forwarded {id : Id} {server : Server Id} (standing : (before.readers reader).place = .answering)
      (moved : (before.readers reader).step .answer = some after)
      (found : before.forwardee reader = some id)
      (responds : before.server.step settings (.respond (before.readers reader).vin) = some server) :
      Move settings before (.reader reader .answer) { before with
        server
        readers := Function.update before.readers reader after
        pending := before.pending ++ [⟨id, .response reader,
          (before.readers reader).responseBuf.position, [],
          (before.readers reader).responseBuf.window, some (before.readers reader).vin⟩] }
  | timeout (awake : (before.readers reader).place ≠ .sleeping) :
      Move settings before (.timeout reader) { before with
        readers := Function.update before.readers reader (before.readers reader).expire }
  | transmitted (found : before.pending[k]? = some write) (sends : before.Sends write bytes) :
      Move settings before (.transmit k bytes)
        { before with pending := before.pending.set k { write with sent := write.sent ++ bytes } }
  | completed {server : Server Id} (found : before.pending[k]? = some write)
      (all : write.sent.length = write.given.length)
      (moved : before.server.step settings (.writeDone write.target) = some server) :
      Move settings before (.complete k) { before with
        server
        pending := before.pending.eraseIdx k
        delivered := before.delivered ++ [write] }
  | failed {server : Server Id} (found : before.pending[k]? = some write)
      (moved : before.server.step settings (.writeFailed write.target) = some server) :
      Move settings before (.fail k)
        { before with server, pending := before.pending.eraseIdx k }

/-- `run` looks at the status that it finds after `readResponse`, and at nothing else that
its next turn changes. -/
private theorem forward_cases {settings : Settings} {before after : Wire Id Reader} {reader : Reader}
    {answered : ResponseReader} (moved : (before.readers reader).step .answer = some answered)
    (forwarded : ({ before with readers := Function.update before.readers reader answered } :
      Wire Id Reader).forward settings reader = some after) :
    Move settings before (.reader reader .answer) after := by
  obtain ⟨standing, place, same⟩ : (before.readers reader).place = .answering ∧ ∃ place,
      answered = { before.readers reader with place } := by
    cases ResponseReader.step_cases moved with
    | answered standing => exact ⟨standing, _, rfl⟩
  have alike : (Function.update before.readers reader answered reader) =
      { before.readers reader with place } := same ▸ Function.update_self ..
  unfold Wire.forward at forwarded
  dsimp only at forwarded
  rw [alike] at forwarded
  split at forwarded
  · rename_i nobody
    cases forwarded
    exact .answered standing moved nobody
  · rename_i id found
    obtain ⟨server, responds, same⟩ := Option.map_eq_some_iff.mp forwarded
    subst same
    exact .forwarded standing moved found responds

theorem step_cases {settings : Settings} {before after : Wire Id Reader}
    {event : WireEvent Id Reader} (stepped : before.step settings event = some after) :
    Move settings before event after := by
  cases event with
  | service event =>
    simp only [step] at stepped
    split at stepped
    · rename_i spontaneous
      obtain ⟨server, moved, same⟩ := Option.map_eq_some_iff.mp stepped
      exact same ▸ .service spontaneous moved
    · cases stepped
  | reader reader event =>
    obtain ⟨answered, moved, rest⟩ := Option.bind_eq_some_iff.mp stepped
    dsimp only at rest
    split at rest
    · rename_i answer
      subst answer
      exact forward_cases moved rest
    · rename_i other
      cases rest
      exact .read other moved
  | timeout reader =>
    simp only [step] at stepped
    split at stepped <;> cases stepped
    exact .timeout ‹_›
  | transmit k bytes =>
    obtain ⟨write, found, rest⟩ := Option.bind_eq_some_iff.mp stepped
    split at rest <;> cases rest
    exact .transmitted found ‹_›
  | complete k =>
    obtain ⟨write, found, rest⟩ := Option.bind_eq_some_iff.mp stepped
    split at rest
    · rename_i all
      obtain ⟨server, moved, same⟩ := Option.map_eq_some_iff.mp rest
      exact same ▸ .completed found all moved
    · cases rest
  | fail k =>
    obtain ⟨write, found, rest⟩ := Option.bind_eq_some_iff.mp stepped
    obtain ⟨server, moved, same⟩ := Option.map_eq_some_iff.mp rest
    exact same ▸ .failed found moved

end Steps

end Wire

/-- The service, its readers and its writes under the given configuration. -/
def asyncWrites (Id Reader : Type) [DecidableEq Id] [DecidableEq Reader] [ByteBufferApi]
    (settings : Settings) : Automaton (Wire Id Reader) (WireEvent Id Reader) where
  start wire := wire = .initial Id Reader
  step := Wire.step settings

theorem asyncWrites_server [DecidableEq Reader] [ByteBufferApi] {settings : Settings}
    {guard : Wire Id Reader → WireEvent Id Reader → Prop} {wire : Wire Id Reader}
    (reach : Reach (asyncWrites Id Reader settings) guard wire) :
    Reachable (vehicleService Id settings) wire.server := by
  induction reach with
  | start initial => exact .start (congrArg Wire.server initial)
  | @next before event after earlier _ stepped ih =>
    have serves {event : ServiceEvent Id} {server : Server Id}
        (moved : before.server.step settings event = some server) :
        Reachable (vehicleService Id settings) server :=
      have moved : (vehicleService Id settings).step before.server event = some server := moved
      ih.next trivial moved
    cases Wire.step_cases stepped with
    | service spontaneous moved =>
      rw [Wire.serve_server]
      exact serves moved
    | read | answered | timeout | transmitted => exact ih
    | forwarded standing moved found responds => exact serves responds
    | completed found all moved => exact serves moved
    | failed found moved => exact serves moved

end MotorInfoUpload
