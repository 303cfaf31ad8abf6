import MotorInfoUpload.Forwarder.Moves
import MotorInfoUpload.Platform.ResponseReader

/-! One uploader and its `ResponseReader` around their connection with the public
server: the forwarding system, with `waitNextStatus` taken apart. -/

namespace MotorInfoUpload

open Machine

/-- How far the uploader is in `waitNextStatus`: before the wait, asleep on
`m_newStatus`, or back with a reference to the status, which it has not read yet. -/
inductive Wait where
  | entering
  | asleep (notified : Bool)
  | returned
deriving DecidableEq

/-- The state of the link. The members after `wait` are no part of the program. They
count the connections made so far and name the one on which the reader began its frame.
Of the current connection they say whether this call of `setupConnAndLogin` has sent a
login on it, whether the frame in the reader's buffer was read on it since then,
whether a login success was (by this call, or at all). -/
structure Link where
  system : State 1
  reader : ResponseReader
  wait : Wait
  connection : Nat
  begun : Nat
  sent : Bool
  fresh : Bool
  confirmed : Bool
  loggedIn : Bool

/-- What can happen next on the link. -/
inductive LinkAction where
  | system (action : Action 1)
  | send (sent : Bool)
  | wait
  | wake
  | timeout
  | switch
  | reader (event : ReaderEvent)

def UploaderAt.inLogin : UploaderAt → Bool
  | .outside (.connecting (some _)) | .outside (.loginCheck _) | .outside (.loginSend _)
  | .outside (.loginWait _) => true
  | _ => false

def UploaderAt.awaitsLogin : UploaderAt → Bool
  | .outside (.loginWait _) => true
  | _ => false

/-- The uploader is in `waitNextStatus` of a login or logout, or back from it. -/
def UploaderAt.awaits : UploaderAt → Bool
  | .outside (.loginWait _) | .outside (.logoutWait _) => true
  | _ => false

def UploaderAt.calling : UploaderAt → Bool
  | .outside (.loginSend _) | .outside (.loginWait _) | .outside (.logoutSend _)
  | .outside (.logoutWait _) => true
  | _ => false

namespace Link

/-- The steps that the system takes by itself: all but those of a login or logout.
A vehicle packet is only written on a connection that is up. -/
def Permits (link : Link) : Action 1 → Prop
  | .outside _ _ => (link.system.uploader 0).calling = false
  | .sent _ => link.system.connected 0 = true
  | _ => True

instance (link : Link) (action : Action 1) : Decidable (link.Permits action) :=
  match action with
  | .outside _ _ | .sent _ => inferInstanceAs (Decidable (_ = _))
  | .start _ | .push | .signal | .accept _ | .service _ | .upload _ _ | .drop _ | .failed _ _
  | .wakeRealtime _ | .wakeReissue _ => .isTrue trivial

/-- The link after a step of the system, which may have made a new connection or
have called `setupConnAndLogin`. -/
def follow (link : Link) (after : State 1) : Link :=
  if link.system.connected 0 = false ∧ after.connected 0 = true then
    { link with
      system := after, connection := link.connection + 1
      sent := false, fresh := false, confirmed := false, loggedIn := false }
  else if (link.system.uploader 0).inLogin = false ∧ (after.uploader 0).inLogin = true then
    { link with system := after, sent := false, fresh := false, confirmed := false }
  else { link with system := after }

/-- What the reader's next step makes of the history. -/
def witness (link : Link) (reader : ResponseReader) (event : ReaderEvent) : Link :=
  match link.reader.place, event with
  | .reading .startCode, .read _ => { link with reader, begun := link.connection, fresh := false }
  | .reading (.dataUnit _), .read _ =>
    let fresh := decide (link.begun = link.connection) && link.sent
    let success := fresh && decide (LoginSuccess reader.responseBuf.window)
    { link with reader, fresh,
                confirmed := link.confirmed || success, loggedIn := link.loggedIn || success }
  | .publishing _, .publish => match link.wait with
    | .asleep _ => { link with reader, wait := .asleep true }
    | _ => { link with reader }
  | _, _ => { link with reader }

variable [ByteBufferApi]

/-- The link before `main` starts the uploader. -/
def initial (capacity : Nat) (mode : Option EnumRunMode) : Link where
  system := .initial 1 capacity mode
  reader := .initial
  wait := .entering
  connection := 0
  begun := 0
  sent := false
  fresh := false
  confirmed := false
  loggedIn := false

/-- The thread has been started and sees the connection as it is. -/
def Observes (link : Link) : ReaderEvent → Prop
  | .check connected => link.system.uploader 0 ≠ .outside .unstarted ∧
      link.system.connected 0 = connected
  | _ => True

instance (link : Link) (event : ReaderEvent) : Decidable (link.Observes event) :=
  match event with
  | .check _ => inferInstanceAs (Decidable (_ ∧ _))
  | .wakes | .interrupted | .read _ | .fails _ | .throws | .publish | .answer => .isTrue trivial

def step (link : Link) : LinkAction → Option Link
  | .system action =>
    if link.Permits action then (link.system.step action).map link.follow else none
  | .send sent => match link.system.uploader 0 with
    | .outside (.loginSend _) =>
      if sent = true → link.system.connected 0 = true then
        (link.system.step (.outside 0 .next)).map fun after =>
          { link.follow after with wait := .entering, sent := link.sent || sent }
      else none
    | .outside (.logoutSend _) => (link.system.step (.outside 0 .next)).map fun after =>
      { link.follow after with wait := .entering }
    | _ => none
  | .wait => match link.system.uploader 0, link.wait with
    | .outside (.loginWait _), .entering | .outside (.logoutWait _), .entering =>
      if link.reader.place = .sleeping then none else some { link with wait := .asleep false }
    | _, _ => none
  | .wake => match link.wait with
    | .asleep _ => if link.reader.place = .sleeping then none else some { link with wait := .returned }
    | _ => none
  | .timeout => match link.wait with
    | .asleep _ =>
      if link.reader.place = .sleeping then none
      else some { link with wait := .returned, reader := link.reader.expire }
    | _ => none
  | .switch => match link.system.uploader 0, link.wait with
    | .outside (.loginWait _), .returned | .outside (.logoutWait _), .returned =>
      (link.system.step (.outside 0 (.answered link.reader.responseStatus))).map link.follow
    | _, _ => none
  | .reader event =>
    if link.Observes event then
      (link.reader.step event).map fun reader => link.witness reader event
    else none

inductive Move (before : Link) : LinkAction → Link → Prop where
  | system {action : Action 1} {after : State 1} (permitted : before.Permits action)
      (moved : before.system.step action = some after) :
      Move before (.system action) (before.follow after)
  | sentLogin {sent : Bool} {after : State 1}
      (standing : before.system.uploader 0 = .outside (.loginSend login))
      (up : sent = true → before.system.connected 0 = true)
      (moved : before.system.step (.outside 0 .next) = some after) :
      Move before (.send sent)
        { before.follow after with wait := .entering, sent := before.sent || sent }
  | sentLogout {sent : Bool} {round : Nat} {after : State 1}
      (standing : before.system.uploader 0 = .outside (.logoutSend round))
      (moved : before.system.step (.outside 0 .next) = some after) :
      Move before (.send sent) { before.follow after with wait := .entering }
  | waits (standing : (before.system.uploader 0).awaits = true) (entering : before.wait = .entering)
      (unlocked : before.reader.place ≠ .sleeping) :
      Move before .wait { before with wait := .asleep false }
  | wakes (asleep : before.wait = .asleep notified) (unlocked : before.reader.place ≠ .sleeping) :
      Move before .wake { before with wait := .returned }
  | timedOut (asleep : before.wait = .asleep notified)
      (unlocked : before.reader.place ≠ .sleeping) :
      Move before .timeout { before with wait := .returned, reader := before.reader.expire }
  | switched {after : State 1} (standing : (before.system.uploader 0).awaits = true)
      (back : before.wait = .returned)
      (moved : before.system.step (.outside 0 (.answered before.reader.responseStatus)) =
        some after) :
      Move before .switch (before.follow after)
  | reader {event : ReaderEvent} {after : ResponseReader} (observes : before.Observes event)
      (moved : before.reader.step event = some after) :
      Move before (.reader event) (before.witness after event)

theorem step_cases {before after : Link} {action : LinkAction}
    (stepped : before.step action = some after) : Move before action after := by
  cases action with
  | system action =>
    simp only [step] at stepped
    split at stepped
    · rename_i permitted
      obtain ⟨system, moved, same⟩ := Option.map_eq_some_iff.mp stepped
      exact same ▸ .system permitted moved
    · cases stepped
  | send sent =>
    simp only [step] at stepped
    split at stepped
    · rename_i login standing
      split at stepped
      · rename_i up
        obtain ⟨system, moved, same⟩ := Option.map_eq_some_iff.mp stepped
        exact same ▸ .sentLogin standing up moved
      · cases stepped
    · rename_i round standing
      obtain ⟨system, moved, same⟩ := Option.map_eq_some_iff.mp stepped
      exact same ▸ .sentLogout standing moved
    · cases stepped
  | wait =>
    simp only [step] at stepped
    split at stepped
    · rename_i login standing entering
      split at stepped <;> cases stepped
      exact .waits (by rw [standing]; rfl) entering ‹_›
    · rename_i round standing entering
      split at stepped <;> cases stepped
      exact .waits (by rw [standing]; rfl) entering ‹_›
    · cases stepped
  | wake =>
    simp only [step] at stepped
    split at stepped
    · rename_i notified asleep
      split at stepped <;> cases stepped
      exact .wakes asleep ‹_›
    · cases stepped
  | timeout =>
    simp only [step] at stepped
    split at stepped
    · rename_i notified asleep
      split at stepped <;> cases stepped
      exact .timedOut asleep ‹_›
    · cases stepped
  | switch =>
    simp only [step] at stepped
    split at stepped
    · rename_i login standing back
      obtain ⟨system, moved, same⟩ := Option.map_eq_some_iff.mp stepped
      exact same ▸ .switched (by rw [standing]; rfl) back moved
    · rename_i round standing back
      obtain ⟨system, moved, same⟩ := Option.map_eq_some_iff.mp stepped
      exact same ▸ .switched (by rw [standing]; rfl) back moved
    · cases stepped
  | reader event =>
    simp only [step] at stepped
    split at stepped
    · rename_i observes
      obtain ⟨reader, moved, same⟩ := Option.map_eq_some_iff.mp stepped
      exact same ▸ .reader observes moved
    · cases stepped

end Link

/-- The link of one uploader with queues of the given number of slots. -/
def platformLink [ByteBufferApi] (maxVehicleDataQueueSize : Nat) : Automaton Link LinkAction where
  start link := ∃ mode, link = .initial maxVehicleDataQueueSize mode
  step := Link.step

end MotorInfoUpload
