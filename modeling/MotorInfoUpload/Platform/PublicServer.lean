import MotorInfoUpload.Forwarder.Paths

namespace MotorInfoUpload

open Machine

variable {n : Nat}

/-- What `tcpSendData` writes. -/
inductive Command where
  | login
  | logout
  | packet (packet : Packet)
deriving DecidableEq

/-- `gsocket::socket`, with what it was asked to write on each of its connections, the last
connection first. -/
structure Socket where
  up : Bool
  connections : List (List Command)
deriving DecidableEq

/-- The connection the constructor or `connect` makes. -/
def Socket.connectedAfter (connections : List (List Command)) : Socket := ⟨true, [] :: connections⟩

def Socket.write (socket : Socket) (command : Command) : Socket :=
  match socket.connections with
  | [] => { socket with connections := [[command]] }
  | last :: earlier => { socket with connections := (last ++ [command]) :: earlier }

/-- `m_socket_sptr`, which is null until a first connection is made. -/
structure PublicServer where
  socket : Option Socket
deriving DecidableEq

namespace PublicServer

def close (server : PublicServer) : PublicServer :=
  match server.socket with
  | some socket => ⟨some { socket with up := false }⟩
  | none => server

/-- A refused connection is an exception that `connect` catches. -/
def connect (server : PublicServer) (accepted : Bool) : PublicServer :=
  if accepted then match server.socket with
    | some socket => ⟨some (.connectedAfter socket.connections)⟩
    | none => ⟨some (.connectedAfter [])⟩
  else server

def isConnected (server : PublicServer) : Bool :=
  match server.socket with
  | some socket => socket.up
  | none => false

/-- `none` stands for the use of the null pointer. -/
def write (server : PublicServer) (command : Command) : Option PublicServer :=
  server.socket.map fun socket => ⟨some (socket.write command)⟩

def read (server : PublicServer) : Option PublicServer := server.socket.map fun _ => server

/-- The other side, or the network, ends the connection. -/
def lost (server : PublicServer) : PublicServer := server.close

def connections (server : PublicServer) : List (List Command) :=
  match server.socket with
  | some socket => socket.connections
  | none => []

end PublicServer

/-- A call of an uploader to its `PublicServer`, or the loss of the connection. -/
inductive ServerCall where
  | close
  | connect (accepted : Bool)
  | write (command : Command)
  | lost

def PublicServer.answer (server : PublicServer) : ServerCall → Option PublicServer
  | .close => some server.close
  | .connect accepted => some (server.connect accepted)
  | .write command => server.write command
  | .lost => some server.lost

/-- The uploaders above their servers, with `is_connected` as the servers have it. -/
structure Uplinks (n : Nat) where
  state : State n
  server : Fin n → PublicServer
  reading : Fin n → Bool
  undefined : Bool

/-- `forward` is a step of the forwarding system, and `checks` and `reads` are the steps of
`ResponseReader::run` of the uploader. -/
inductive UplinkAction (n : Nat) where
  | forward (action : Action n)
  | checks (i : Fin n)
  | reads (i : Fin n)

/-- The call that a step makes. `setupConnection` closes what is left of the last connection. -/
def State.serverCall (state : State n) : Action n → Option (Fin n × ServerCall)
  | .outside i event => match state.uploader i, event with
    | .outside .starting, .next =>
      if state.connected i ∨ state.mode = some .release ∨ state.mode = none then none
      else some (i, .close)
    | .outside (.loginCheck _), .next => if state.connected i then none else some (i, .close)
    | .outside (.connecting _), .connects => some (i, .connect true)
    | .outside (.connecting _), .refuses => some (i, .connect false)
    | .outside (.loginSend _), .next => some (i, .write .login)
    | .outside (.logoutSend _), .next => some (i, .write .logout)
    | .outside .top, .next =>
      if state.mode = some .platformCompliance ∧ state.offline then some (i, .close) else none
    | .outside .closing, .next => some (i, .close)
    | _, _ => none
  | .sent i | .failed i _ => match state.uploader i with
    | .sending packet => some (i, .write (.packet packet))
    | _ => none
  | .drop i => some (i, .lost)
  | _ => none

namespace Uplinks

def initial (n capacity : Nat) (mode : Option EnumRunMode) : Uplinks n where
  state := .initial n capacity mode
  server _ := ⟨none⟩
  reading _ := false
  undefined := false

/-- The system, as the threads see it through `is_connected`. -/
def seen (uplinks : Uplinks n) : State n :=
  { uplinks.state with connected := fun i => (uplinks.server i).isConnected }

def put (uplinks : Uplinks n) (i : Fin n) (server : PublicServer) : Uplinks n :=
  { uplinks with server := Function.update uplinks.server i server }

/-- The call made, if the pointer allows it. -/
def use (uplinks : Uplinks n) (i : Fin n) : Option PublicServer → Uplinks n
  | some server => uplinks.put i server
  | none => { uplinks with undefined := true }

def calls (uplinks : Uplinks n) : Option (Fin n × ServerCall) → Uplinks n
  | some (i, call) => uplinks.use i ((uplinks.server i).answer call)
  | none => uplinks

variable [ByteBufferApi]

def step (uplinks : Uplinks n) : UplinkAction n → Option (Uplinks n)
  | .forward action => (uplinks.seen.step action).map fun after =>
    { uplinks.calls (uplinks.seen.serverCall action) with state := after }
  | .checks i =>
    if uplinks.reading i = false ∧ (uplinks.server i).isConnected then
      some { uplinks with reading := Function.update uplinks.reading i true }
    else none
  | .reads i =>
    if uplinks.reading i then
      some { uplinks.use i (uplinks.server i).read with
        reading := Function.update uplinks.reading i false }
    else none

end Uplinks

variable [ByteBufferApi]

/-- `n` uploaders, each with its `PublicServer` and its `ResponseReader`. -/
def uplinks (n maxVehicleDataQueueSize : Nat) :
    Automaton (Uplinks n) (UplinkAction n) where
  start state := ∃ mode, state = .initial n maxVehicleDataQueueSize mode
  step := Uplinks.step

/-- The uploader is between the check of its connection and the next round of its loop. -/
def UploaderAt.serving : UploaderAt → Bool
  | .outside _ => false
  | .select | .takeRealtime | .takeReissue | .loaded _ | .sending _ | .putBack _ => true

/-- What a step does to one uploader: the call to its server, its next place, and whether
its connection is up then. -/
inductive UploaderTurn (before : State n) (i : Fin n) :
    Option ServerCall → UploaderAt → Bool → Prop where
  | stays : UploaderTurn before i none (before.uploader i) (before.connected i)
  | starts (fresh : before.uploader i = .outside .unstarted) :
      UploaderTurn before i none (.outside .starting) (before.connected i)
  | walks (standing : before.uploader i = .outside place)
      (path : Path before (before.connected i) place event next up) :
      UploaderTurn before i ((before.serverCall (.outside i event)).map Prod.snd) next up
  | serves (standing : (before.uploader i).serving = true)
      (goes : next.serving = true ∨ next = .outside .top ∨ next = .outside .closing) :
      UploaderTurn before i none next (before.connected i)
  | writes (standing : before.uploader i = .sending packet)
      (goes : next.serving = true ∨ next = .outside .top) :
      UploaderTurn before i (some (.write (.packet packet))) next (before.connected i)
  | drops (up : before.connected i = true) : UploaderTurn before i (some .lost) (before.uploader i) false

def callTo (i : Fin n) : Option (Fin n × ServerCall) → Option ServerCall
  | some (j, call) => if j = i then some call else none
  | none => none

omit [ByteBufferApi] in
private theorem serverCall_own {before : State n} {j : Fin n}
    (called : before.serverCall (.outside i event) = some (j, call)) : j = i := by
  unfold State.serverCall at called
  dsimp only at called
  split at called <;> (try split at called) <;> cases called <;> rfl

omit [ByteBufferApi] in
private theorem serverCall_outside (before : State n) (i : Fin n) (event : Event) :
    callTo i (before.serverCall (.outside i event)) =
      (before.serverCall (.outside i event)).map Prod.snd := by
  cases called : before.serverCall (.outside i event) with
  | none => rfl
  | some entry =>
    obtain ⟨j, call⟩ := entry
    simp [callTo, serverCall_own called]

omit [ByteBufferApi] in
private theorem serverCall_elsewhere (before : State n) {i j : Fin n} (other : i ≠ j) (event : Event) :
    callTo i (before.serverCall (.outside j event)) = none := by
  cases called : before.serverCall (.outside j event) with
  | none => rfl
  | some entry =>
    obtain ⟨k, call⟩ := entry
    have own : k = j := serverCall_own called
    simp [callTo, own, other.symm]

private theorem uploadMove_turn {before after : State n} {i : Fin n} {woken : Option (Thread n)}
    (moved : UploadMove before i woken after) :
    UploaderTurn before i none (after.uploader i) (after.connected i) := by
  cases moved with
  | toRealtime standing | toReissue standing | realtimeTook standing | reissueTook standing
  | reissueSpoilt standing | goesOn standing | skips standing | illegal standing
  | putBackStored standing =>
    exact .serves (by simp [standing, UploaderAt.serving]) (by simp [State.move, UploaderAt.serving])
  | realtimeSleeps | reissueSleeps | putBackFull => exact .stays

omit [ByteBufferApi] in
private theorem writes_turn {before : State n} {j : Fin n} {next : UploaderAt}
    (standing : before.uploader j = .sending packet)
    (goes : next.serving = true ∨ next = .outside .top) (i : Fin n) :
    UploaderTurn before i (callTo i (some (j, .write (.packet packet))))
      ((before.move j next).uploader i) (before.connected i) := by
  rcases eq_or_ne i j with rfl | other
  · rw [callTo, if_pos rfl, State.move_uploader]
    exact .writes standing goes
  · rw [callTo, if_neg other.symm, State.move_other _ _ other]
    exact .stays

theorem State.step_turn {before after : State n} {action : Action n}
    (stepped : before.step action = some after) (i : Fin n) :
    UploaderTurn before i (callTo i (before.serverCall action)) (after.uploader i)
      (after.connected i) := by
  cases action with
  | outside j event =>
    rw [State.step] at stepped
    split at stepped
    · rename_i place standing
      obtain ⟨-, next, up, path, uploader, connected⟩ := State.outsideStep_path standing stepped
      rw [uploader, connected]
      rcases eq_or_ne i j with rfl | other
      · rw [Function.update_self, Function.update_self, serverCall_outside]
        exact .walks standing path
      · rw [Function.update_of_ne other, Function.update_of_ne other, serverCall_elsewhere _ other]
        exact .stays
    · cases stepped
  | start j =>
    cases State.step_cases stepped with
    | start fresh =>
      change UploaderTurn before i none _ _
      rcases eq_or_ne i j with rfl | other
      · rw [State.move_uploader]
        exact .starts fresh
      · rw [State.move_other _ _ other]
        exact .stays
  | service woken =>
    cases State.step_cases stepped with
    | service moved => cases moved <;> exact .stays
  | upload j woken =>
    cases State.step_cases stepped with
    | upload moved =>
      change UploaderTurn before i none _ _
      rcases eq_or_ne i j with rfl | other
      · exact uploadMove_turn moved
      · have same : after.uploader i = before.uploader i := by
          cases moved <;> simp [State.move, other]
        have up : after.connected i = before.connected i := by cases moved <;> rfl
        rw [same, up]
        exact .stays
  | sent j =>
    cases State.step_cases stepped with
    | @sent _ packet standing =>
      have called : before.serverCall (.sent j) = some (j, .write (.packet packet)) := by
        simp only [State.serverCall, standing]
      rw [called]
      exact writes_turn standing (.inr rfl) i
  | failed j progress =>
    cases State.step_cases stepped with
    | @failed _ packet _ standing =>
      have called : before.serverCall (.failed j progress) = some (j, .write (.packet packet)) := by
        simp only [State.serverCall, standing]
      rw [called]
      exact writes_turn standing (.inl rfl) i
  | drop j =>
    cases State.step_cases stepped with
    | drop up =>
      change UploaderTurn before i (if j = i then some .lost else none) _
        (Function.update before.connected j false i)
      rcases eq_or_ne i j with rfl | other
      · rw [if_pos rfl, Function.update_self]
        exact .drops up
      · rw [if_neg other.symm, Function.update_of_ne other]
        exact .stays
  | push | signal | accept | wakeRealtime | wakeReissue =>
    cases State.step_cases stepped
    exact .stays

def PublicServer.answerTo (server : PublicServer) : Option ServerCall → Option PublicServer
  | some call => server.answer call
  | none => some server

/-- The uploader has passed a check of its connection since it was started or left its loop. -/
def UploaderAt.linked : UploaderAt → Bool
  | .outside (.loginSend _) | .outside (.loginWait _) | .outside (.logoutSend _)
  | .outside (.logoutWait _) => true
  | .outside _ => false
  | _ => true

/-- An uploader's place and its view of the connection fit its server. -/
structure PublicServer.Fits (server : PublicServer) (place : UploaderAt) (up : Bool) : Prop where
  agree : up = server.isConnected
  made : place.linked = true → server.socket ≠ none

namespace PublicServer

variable {server : PublicServer} {place next : UploaderAt} {up : Bool}

omit [ByteBufferApi]

theorem socket_of_connected (connected : server.isConnected = true) : server.socket ≠ none := by
  intro null
  simp [isConnected, null] at connected

theorem write_made (made : server.socket ≠ none) (command : Command) :
    ∃ socket, server.socket = some socket ∧
      server.write command = some ⟨some (socket.write command)⟩ := by
  obtain ⟨socket, found⟩ := Option.ne_none_iff_exists'.mp made
  exact ⟨socket, found, by rw [write, found, Option.map_some]⟩

theorem Socket.write_up (socket : Socket) (command : Command) :
    (socket.write command).up = socket.up := by
  unfold Socket.write
  split <;> rfl

/-- The pointer is never reset. -/
theorem answer_made (made : server.socket ≠ none) (call : ServerCall) :
    ∃ next, server.answer call = some next ∧ next.socket ≠ none := by
  obtain ⟨socket, found⟩ := Option.ne_none_iff_exists'.mp made
  cases call with
  | close => exact ⟨_, rfl, by simp [close, found]⟩
  | connect accepted => exact ⟨_, rfl, by cases accepted <;> simp [connect, found]⟩
  | write command => exact ⟨_, by rw [answer, write, found, Option.map_some], by simp⟩
  | lost => exact ⟨_, rfl, by simp [lost, close, found]⟩

theorem Fits.closed (server : PublicServer) (free : place.linked = false) :
    server.close.Fits place false := by
  refine ⟨?_, fun linked => absurd linked (by simp [free])⟩
  obtain ⟨_ | socket⟩ := server <;> rfl

theorem Fits.connected (server : PublicServer) (place : UploaderAt) :
    (server.connect true).Fits place true := by
  obtain ⟨_ | socket⟩ := server <;> exact ⟨rfl, fun _ => by simp [connect]⟩

theorem Fits.dropped (fits : server.Fits place up) : server.lost.Fits place false := by
  refine ⟨?_, fun linked => ?_⟩
  · obtain ⟨_ | socket⟩ := server <;> rfl
  · obtain ⟨socket, found⟩ := Option.ne_none_iff_exists'.mp (fits.made linked)
    simp [lost, close, found]

theorem Fits.moves (fits : server.Fits place up)
    (goes : next.linked = true → place.linked = true ∨ up = true) : server.Fits next up := by
  refine ⟨fits.agree, fun linked => ?_⟩
  rcases goes linked with before | connected
  · exact fits.made before
  · exact socket_of_connected (fits.agree ▸ connected)

theorem Fits.writes (fits : server.Fits place up) (linked : place.linked = true) (command : Command)
    (next : UploaderAt) : ∃ after, server.write command = some after ∧ after.Fits next up := by
  obtain ⟨socket, found, written⟩ := write_made (fits.made linked) command
  refine ⟨_, written, ?_, by simp⟩
  rw [fits.agree, isConnected, found, isConnected]
  exact (Socket.write_up socket command).symm

end PublicServer

omit [ByteBufferApi] in
private theorem fits_path {before : State n} {server : PublicServer} {place : Outside} {event : Event}
    {next : UploaderAt} {up : Bool} (standing : before.uploader i = .outside place)
    (fits : server.Fits (.outside place) (before.connected i))
    (path : Path before (before.connected i) place event next up) :
    ∃ after, server.answerTo ((before.serverCall (.outside i event)).map Prod.snd) = some after ∧
      after.Fits next up := by
  have silent (called : before.serverCall (.outside i event) = none)
      (goes : next.linked = true → UploaderAt.linked (.outside place) = true ∨ before.connected i = true)
      (still : up = before.connected i) :
      ∃ after, server.answerTo ((before.serverCall (.outside i event)).map Prod.snd) = some after ∧
        after.Fits next up :=
    ⟨server, by rw [called]; rfl, still ▸ fits.moves goes⟩
  have closes (called : before.serverCall (.outside i event) = some (i, .close))
      (free : next.linked = false) (down : up = false) :
      ∃ after, server.answerTo ((before.serverCall (.outside i event)).map Prod.snd) = some after ∧
        after.Fits next up :=
    ⟨server.close, by rw [called]; rfl, down ▸ .closed server free⟩
  cases path with
  | released mode =>
    exact silent (by simp [State.serverCall, standing, mode]) (by simp [UploaderAt.linked]) rfl
  | unrecognized mode =>
    exact silent (by simp [State.serverCall, standing, mode]) (by simp [UploaderAt.linked]) rfl
  | tested given mode =>
    rcases Bool.eq_false_or_eq_true (before.connected i) with connected | down
    · exact silent (by simp [State.serverCall, standing, connected]) (by simp [UploaderAt.linked]) rfl
    · exact closes (by simp [State.serverCall, standing, down, given, mode]) rfl down
  | reconnects down => exact closes (by simp [State.serverCall, standing, down]) rfl down
  | leaves mode signalled =>
    exact closes (by simp [State.serverCall, standing, mode, signalled]) rfl rfl
  | stops => exact closes (by simp [State.serverCall, standing]) rfl rfl
  | connects =>
    rw [show before.serverCall (.outside i .connects) = some (i, .connect true) by
      simp [State.serverCall, standing]]
    exact ⟨_, rfl, .connected server _⟩
  | declined =>
    rw [show before.serverCall (.outside i .refuses) = some (i, .connect false) by
      simp [State.serverCall, standing]]
    exact ⟨server, rfl, fits⟩
  | login =>
    rw [show before.serverCall (.outside i .next) = some (i, .write .login) by
      simp [State.serverCall, standing]]
    exact fits.writes rfl .login _
  | logout =>
    rw [show before.serverCall (.outside i .next) = some (i, .write .logout) by
      simp [State.serverCall, standing]]
    exact fits.writes rfl .logout _
  | stays not =>
    exact silent (by simpa [State.serverCall, standing] using not) (by simp [UploaderAt.linked]) rfl
  | checked connected | connected connected | enters connected =>
    exact silent (by simp [State.serverCall, standing, connected]) (fun _ => .inr connected) rfl
  | loggedIn => exact silent (by simp [State.serverCall, standing]) (fun _ => .inl rfl) rfl
  | tests | throws | again | refused | loggedOut | unanswered | returns | relogs =>
    exact silent (by simp [State.serverCall, standing]) (by simp [UploaderAt.linked]) rfl

omit [ByteBufferApi] in
theorem UploaderTurn.fits {before : State n} {call : Option ServerCall} {next : UploaderAt} {up : Bool}
    {server : PublicServer} (turn : UploaderTurn before i call next up)
    (fits : server.Fits (before.uploader i) (before.connected i)) :
    ∃ after, server.answerTo call = some after ∧ after.Fits next up := by
  have linked {place : UploaderAt} (serving : place.serving = true) : place.linked = true := by
    cases place with
    | outside => cases serving
    | _ => rfl
  cases turn with
  | stays => exact ⟨server, rfl, fits⟩
  | starts => exact ⟨server, rfl, fits.moves (by simp [UploaderAt.linked])⟩
  | walks standing path => exact fits_path standing (standing ▸ fits) path
  | serves standing => exact ⟨server, rfl, fits.moves fun _ => .inl (linked standing)⟩
  | writes standing => exact fits.writes (by simp [standing, UploaderAt.linked]) _ _
  | drops => exact ⟨_, rfl, fits.dropped⟩

namespace Uplinks

variable {uplinks : Uplinks n} {called : Option (Fin n × ServerCall)}

omit [ByteBufferApi] in
/-- If every server takes its call, the calls are defined and leave what the servers answer. -/
private theorem calls_taken
    (takes : ∀ i, ∃ after, (uplinks.server i).answerTo (callTo i called) = some after) :
    (uplinks.calls called).undefined = uplinks.undefined ∧
      (uplinks.calls called).reading = uplinks.reading ∧
      ∀ i, (uplinks.server i).answerTo (callTo i called) = some ((uplinks.calls called).server i) := by
  cases called with
  | none => exact ⟨rfl, rfl, fun i => rfl⟩
  | some entry =>
    obtain ⟨j, call⟩ := entry
    obtain ⟨after, answers⟩ := takes j
    have answered : (uplinks.server j).answer call = some after := by
      rwa [callTo, if_pos rfl] at answers
    rw [calls, answered]
    refine ⟨rfl, rfl, fun i => ?_⟩
    change _ = some (Function.update uplinks.server j after i)
    rcases eq_or_ne j i with rfl | other
    · rw [answers, Function.update_self]
    · rw [callTo, if_neg other, Function.update_of_ne other.symm]
      rfl

/-- The servers fit the uploaders, and every reader has a socket to read from. -/
structure Sound (uplinks : Uplinks n) : Prop where
  fits : ∀ i, (uplinks.server i).Fits (uplinks.state.uploader i) (uplinks.state.connected i)
  reads : ∀ i, uplinks.reading i = true → (uplinks.server i).socket ≠ none
  defined : uplinks.undefined = false

omit [ByteBufferApi] in
theorem Sound.seen (sound : uplinks.Sound) : uplinks.seen = uplinks.state := by
  have same : (fun i => (uplinks.server i).isConnected) = uplinks.state.connected :=
    funext fun i => ((sound.fits i).agree).symm
  rw [Uplinks.seen, same]

theorem Sound.answers {action : Action n} {after : State n} (sound : uplinks.Sound)
    (stepped : uplinks.state.step action = some after) :
    (uplinks.calls (uplinks.state.serverCall action)).undefined = uplinks.undefined ∧
      (uplinks.calls (uplinks.state.serverCall action)).reading = uplinks.reading ∧
      ∀ i, (uplinks.server i).answerTo (callTo i (uplinks.state.serverCall action)) =
        some ((uplinks.calls (uplinks.state.serverCall action)).server i) :=
  calls_taken fun i => ((State.step_turn stepped i).fits (sound.fits i)).imp fun _ => And.left

theorem Sound.forward {action : Action n} {after : State n} (sound : uplinks.Sound)
    (stepped : uplinks.state.step action = some after) :
    ({ uplinks.calls (uplinks.state.serverCall action) with state := after } : Uplinks n).Sound := by
  obtain ⟨defined, reading, answers⟩ := sound.answers stepped
  refine ⟨fun i => ?_, fun i reads => ?_, defined.trans sound.defined⟩
  · obtain ⟨server, answered, fits⟩ := (State.step_turn stepped i).fits (sound.fits i)
    obtain rfl := Option.some.inj (answered.symm.trans (answers i))
    exact fits
  · have made := sound.reads i (reading ▸ reads)
    have answer := answers i
    cases call : callTo i (uplinks.state.serverCall action) with
    | none =>
      rw [call] at answer
      exact Option.some.inj answer ▸ made
    | some request =>
      rw [call] at answer
      obtain ⟨next, answered, still⟩ := PublicServer.answer_made made request
      exact Option.some.inj (answered.symm.trans answer) ▸ still

theorem Sound.idle {action : UplinkAction n} {after : Uplinks n} (sound : uplinks.Sound)
    (stepped : uplinks.step action = some after) (idle : ∀ forwarding, action ≠ .forward forwarding) :
    after.state = uplinks.state ∧ after.server = uplinks.server ∧
      after.undefined = uplinks.undefined ∧
      ∀ i, after.reading i = true → (uplinks.server i).socket ≠ none := by
  cases action with
  | forward action => exact absurd rfl (idle action)
  | checks i =>
    unfold Uplinks.step at stepped
    dsimp only at stepped
    split at stepped
    · rename_i able
      cases stepped
      refine ⟨rfl, rfl, rfl, fun j reading => ?_⟩
      rcases eq_or_ne j i with rfl | other
      · exact PublicServer.socket_of_connected able.2
      · exact sound.reads j (by simpa [other] using reading)
    · cases stepped
  | reads i =>
    unfold Uplinks.step at stepped
    dsimp only at stepped
    split at stepped
    · rename_i reading
      cases stepped
      obtain ⟨socket, found⟩ := Option.ne_none_iff_exists'.mp (sound.reads i reading)
      have read : (uplinks.server i).read = some (uplinks.server i) := by
        rw [PublicServer.read, found, Option.map_some]
      rw [read]
      refine ⟨rfl, Function.update_eq_self .., rfl, fun j still => ?_⟩
      rcases eq_or_ne j i with rfl | other
      · exact sound.reads j reading
      · exact sound.reads j (by simpa [other] using still)
    · cases stepped

theorem Sound.step_cases {action : UplinkAction n} {after : Uplinks n} (sound : uplinks.Sound)
    (stepped : uplinks.step action = some after) :
    (∃ action state, uplinks.state.step action = some state ∧
      after = { uplinks.calls (uplinks.state.serverCall action) with state }) ∨
    after.state = uplinks.state ∧ after.server = uplinks.server ∧
      after.undefined = uplinks.undefined ∧
      ∀ i, after.reading i = true → (uplinks.server i).socket ≠ none := by
  cases action with
  | forward action =>
    obtain ⟨state, moved, rfl⟩ := Option.map_eq_some_iff.mp stepped
    rw [sound.seen] at moved ⊢
    exact .inl ⟨action, state, moved, rfl⟩
  | _ => exact .inr (sound.idle stepped (by simp))

theorem Sound.step {action : UplinkAction n} {after : Uplinks n} (sound : uplinks.Sound)
    (stepped : uplinks.step action = some after) :
    after.Sound ∧ (after.state = uplinks.state ∨
      ∃ action, uplinks.state.step action = some after.state) := by
  rcases sound.step_cases stepped with ⟨action, state, moved, rfl⟩ | ⟨state, server, defined, reads⟩
  · exact ⟨sound.forward moved, .inr ⟨action, moved⟩⟩
  · refine ⟨⟨fun i => ?_, fun i reading => ?_, defined.trans sound.defined⟩, .inl state⟩
    · rw [state, server]
      exact sound.fits i
    · rw [server]
      exact reads i reading

end Uplinks

/-- The servers of a run are sound, and its forwarding system runs on its own. -/
theorem Uplinks.sound_of_reach {capacity : Nat} {links : Uplinks n}
    (reach : Reachable (uplinks n capacity) links) :
    links.Sound ∧ Reachable (forwarder n capacity) links.state := by
  apply reach.invariant
  · rintro start ⟨mode, rfl⟩
    refine ⟨⟨fun i => ⟨rfl, fun linked => ?_⟩, fun i reads => ?_, rfl⟩, .start ⟨mode, rfl⟩⟩
    · simp [Uplinks.initial, State.initial, UploaderAt.linked] at linked
    · simp [Uplinks.initial] at reads
  · intro before action after ⟨sound, reached⟩ _ stepped
    obtain ⟨still, same | ⟨action, moved⟩⟩ := sound.step stepped
    · exact ⟨still, same ▸ reached⟩
    · exact ⟨still, reached.next trivial moved⟩

/-- Nobody uses the null pointer of a `PublicServer`: whatever connections are refused, made
and lost, no uploader writes and no `ResponseReader` reads before there is a socket. And the
servers answer `is_connected` as the forwarding system has it, whose run this is. -/
theorem publicServer_defined {capacity : Nat} {links : Uplinks n}
    (reach : Reachable (uplinks n capacity) links) :
    links.undefined = false ∧ Reachable (forwarder n capacity) links.state ∧
      ∀ i, links.state.connected i = (links.server i).isConnected := by
  obtain ⟨sound, reached⟩ := Uplinks.sound_of_reach reach
  exact ⟨sound.defined, reached, fun i => (sound.fits i).agree⟩

def linkUp : List (UplinkAction 1) :=
  ([.start 0, .push, .outside 0 .next, .outside 0 .next, .outside 0 .next, .outside 0 .next,
      .outside 0 .refuses, .outside 0 .connects, .outside 0 .next, .outside 0 .next].map .forward) ++
    [.checks 0, .reads 0]

omit [ByteBufferApi] in
theorem publicServer_defined_login : ∃ links : Uplinks 1,
    (links.server 0).connections = [[.login]] ∧ links.undefined = false := by
  let := ByteBuffer.reference
  have initial : Reachable (uplinks 1 1) (.initial 1 1 (some .release)) := .start ⟨_, rfl⟩
  obtain ⟨links, reach, login⟩ := initial.exists_of_schedule
    (fun links => (links.server 0).connections = [[.login]]) linkUp (by decide +kernel)
  exact ⟨links, login, (publicServer_defined reach).1⟩

end MotorInfoUpload
