import MotorInfoUpload.Machine.History
import MotorInfoUpload.Session.Moves

/-! The expiries of the timers of the sessions, by the reads they were armed for. One that
is queued for `readTimeoutHandler` is not withdrawn when its read completes. -/

namespace MotorInfoUpload

open Machine

def ReadState.pending : ReadState → Bool
  | .waiting _ => true
  | _ => false

/-- How many reads a session has begun, and the numbers of those whose timer has expired
and whose `readTimeoutHandler` has not run, the oldest first. -/
structure ReadTimers where
  reads : Nat
  due : List Nat
deriving DecidableEq

abbrev TimerLog (Id : Type) := Id → ReadTimers

section Timers

variable {Id : Type} [DecidableEq Id]

/-- The timer is armed for the latest read, with which a handler begins another one. -/
def TimerLog.note (timers : TimerLog Id) (event : ServiceEvent Id) (after : Server Id) :
    TimerLog Id :=
  match event with
  | .accept id => Function.update timers id ⟨1, []⟩
  | .handle id =>
    if (after.sessions id).any Connection.armed then
      Function.update timers id ⟨(timers id).reads + 1, (timers id).due⟩
    else timers
  | .expire id =>
    Function.update timers id ⟨(timers id).reads, (timers id).due ++ [(timers id).reads]⟩
  | .timeout id => Function.update timers id ⟨(timers id).reads, (timers id).due.tail⟩
  | _ => timers

omit [DecidableEq Id] in
def TimerLog.outstanding (timers : TimerLog Id) (server : Server Id) (id : Id) : Option Nat :=
  (server.sessions id).bind fun connection =>
    if connection.read.pending then some (timers id).reads else none

/-- Every queued expiry is of a read that has not completed. -/
def TimeoutsRight (server : Server Id) (timers : TimerLog Id) : Prop :=
  ∀ id, ∀ read ∈ (timers id).due, timers.outstanding server id = some read

/-- A read completes while an expiry of its timer is queued, or the timer expires when its
read has completed. -/
def Collides (server : Server Id) : ServiceEvent Id → Prop
  | .arrive id _ | .breaks id => ∃ connection ∈ server.sessions id, 0 < connection.expired
  | .expire id => ∃ connection ∈ server.sessions id, connection.read.pending = false
  | _ => False

instance (server : Server Id) (event : ServiceEvent Id) : Decidable (Collides server event) :=
  match event with
  | .arrive _ _ | .breaks _ | .expire _ => inferInstanceAs (Decidable (∃ _ ∈ _, _))
  | .accept _ | .handle _ | .timeout _ | .respond _ | .writeDone _ | .writeFailed _ =>
    .isFalse id

/-- The service with the numbers of its reads. -/
def timedService [ByteBufferApi] (Id : Type) [DecidableEq Id] (settings : Settings) :
    Automaton (Recorded (Server Id) (TimerLog Id)) (ServiceEvent Id) :=
  (vehicleService Id settings).recording (fun _ => ⟨0, []⟩) fun timers _ event after =>
    timers.note event after

/-- An expiry of a session is of the read that it waits on, and there is no second one. -/
structure Connection.Timely (connection : Connection) (timers : ReadTimers) : Prop where
  counted : timers.due.length = connection.expired
  waits : 0 < connection.expired →
    connection.read.pending = true ∧ connection.armed = false ∧ timers.due = [timers.reads]

structure Server.Timely (server : Server Id) (timers : TimerLog Id) : Prop where
  absent : ∀ id, server.sessions id = none → (timers id).due = []
  present : ∀ id connection, server.sessions id = some connection → connection.Timely (timers id)

variable {server after : Server Id} {timers later : TimerLog Id} {connection : Connection} {id : Id}

omit [DecidableEq Id] in
theorem Server.Timely.right (timely : server.Timely timers) : TimeoutsRight server timers := by
  intro id read due
  cases found : server.sessions id with
  | none =>
    rw [timely.absent id found] at due
    cases due
  | some connection =>
    have own := timely.present id connection found
    have expired : 0 < connection.expired := own.counted ▸ List.length_pos_of_mem due
    obtain ⟨pending, -, only⟩ := own.waits expired
    rw [only, List.mem_singleton] at due
    simp [TimerLog.outstanding, found, pending, due]

theorem Server.Timely.put (timely : server.Timely timers)
    (sessions : after.sessions = (server.put id connection).sessions)
    (own : connection.Timely (later id)) (others : ∀ other, other ≠ id → later other = timers other) :
    after.Timely later := by
  constructor
  · intro other absent
    rw [sessions] at absent
    by_cases same : other = id
    · subst same
      rw [put_same] at absent
      cases absent
    · rw [put_other same] at absent
      rw [others other same, timely.absent other absent]
  · intro other connection' found
    rw [sessions] at found
    by_cases same : other = id
    · subst same
      rw [put_same] at found
      cases found
      exact own
    · rw [put_other same] at found
      rw [others other same]
      exact timely.present other connection' found

omit [DecidableEq Id] in
/-- Once the read has completed, a queued expiry is of a read that has completed. -/
private theorem not_right {read : Nat} (due : read ∈ (later id).due)
    (found : after.sessions id = some connection) (completed : connection.read.pending = false) :
    ¬ TimeoutsRight after later := by
  intro right
  have outstanding := right id read due
  simp [TimerLog.outstanding, found, completed] at outstanding

theorem Connection.Timely.due {record : ReadTimers} (own : connection.Timely record)
    (expired : 0 < connection.expired) : record.reads ∈ record.due := by
  rw [(own.waits expired).2.2]
  exact List.mem_singleton_self _

theorem Connection.Timely.one {record : ReadTimers} (own : connection.Timely record)
    (expired : 0 < connection.expired) : connection.expired = 1 := by
  rw [← own.counted, (own.waits expired).2.2, List.length_singleton]

theorem Connection.Timely.quiet {record : ReadTimers} (own : connection.Timely record)
    (idle : connection.read.pending = false ∨ connection.armed = true) :
    connection.expired = 0 ∧ record.due = [] := by
  have none : connection.expired = 0 := by
    by_contra some
    obtain ⟨pending, unarmed, -⟩ := own.waits (Nat.pos_of_ne_zero some)
    rcases idle with completed | armed
    · rw [pending] at completed
      cases completed
    · rw [armed] at unarmed
      cases unarmed
  exact ⟨none, List.length_eq_zero_iff.mp (own.counted.trans none)⟩

private theorem timely_quiet {record : ReadTimers} (none : connection.expired = 0)
    (nothing : record.due = []) : connection.Timely record where
  counted := by rw [none, nothing]; rfl
  waits expired := by rw [none] at expired; cases expired

private theorem Server.Timely.beside {changed : Connection} (timely : server.Timely timers)
    (found : server.sessions id = some connection)
    (sessions : after.sessions = (server.put id changed).sessions)
    (read : changed.read = connection.read) (armed : changed.armed = connection.armed)
    (expired : changed.expired = connection.expired) : after.Timely timers := by
  refine timely.put sessions ?_ fun _ _ => rfl
  have own := timely.present id connection found
  exact ⟨expired ▸ own.counted, fun some => by rw [read, armed]; exact own.waits (expired ▸ some)⟩

private theorem Server.Timely.unhurried {changed : Connection} (timely : server.Timely timers)
    (found : server.sessions id = some connection) (none : connection.expired = 0)
    (sessions : after.sessions = (server.put id changed).sessions)
    (expired : changed.expired = connection.expired) (due : (later id).due = (timers id).due)
    (others : ∀ other, other ≠ id → later other = timers other) : after.Timely later := by
  have nothing : (timers id).due = [] :=
    List.length_eq_zero_iff.mp ((timely.present id connection found).counted.trans none)
  exact timely.put sessions (timely_quiet (expired.trans none) (due.trans nothing)) others

theorem TimerLog.note_handle (timers : TimerLog Id) (id : Id) (after : Server Id) :
    (timers.note (.handle id) after id).due = (timers id).due ∧
      ∀ other, other ≠ id → timers.note (.handle id) after other = timers other := by
  unfold note
  dsimp only
  split
  · exact ⟨by rw [Function.update_self], fun other different => Function.update_of_ne different ..⟩
  · exact ⟨rfl, fun _ _ => rfl⟩

private theorem Server.Timely.handled {changed : Connection} (timely : server.Timely timers)
    (found : server.sessions id = some connection) (completed : connection.read.pending = false)
    (sessions : after.sessions = (server.put id changed).sessions)
    (expired : changed.expired = connection.expired) :
    after.Timely (timers.note (.handle id) after) := by
  obtain ⟨due, others⟩ := timers.note_handle id after
  obtain ⟨none, -⟩ := (timely.present id connection found).quiet (.inl completed)
  exact timely.unhurried found none sessions expired due others

omit [DecidableEq Id] in
private theorem Server.Timely.outrun {changed : Connection} (timely : server.Timely timers)
    (found : server.sessions id = some connection)
    (collides : ∃ connection ∈ server.sessions id, 0 < connection.expired)
    (stored : after.sessions id = some changed) (completed : changed.read.pending = false) :
    ¬ TimeoutsRight after timers := by
  obtain ⟨_, same, expired⟩ := collides
  cases found.symm.trans same
  exact not_right ((timely.present id connection found).due expired) stored completed

variable [ByteBufferApi] {settings : Settings} {event : ServiceEvent Id}

/-- An event at which a read and its timer do not collide. -/
theorem Server.Timely.step (timely : server.Timely timers) (apart : ¬ Collides server event)
    (moved : server.Move settings event after) : after.Timely (timers.note event after) := by
  cases moved with
  | @accepted id absent =>
    refine timely.put rfl ?_ fun other different => Function.update_of_ne different ..
    exact timely_quiet rfl (by simp [TimerLog.note])
  | @arrived connection reading bytes id found waiting opened size =>
    have none : connection.expired = 0 :=
      Nat.eq_zero_of_not_pos fun some => apart ⟨connection, found, some⟩
    exact timely.unhurried found none rfl rfl rfl fun _ _ => rfl
  | @broke connection reading id found waiting =>
    have none : connection.expired = 0 :=
      Nat.eq_zero_of_not_pos fun some => apart ⟨connection, found, some⟩
    exact timely.unhurried found none rfl rfl rfl fun _ _ => rfl
  | ended found broken => exact timely.handled found (by rw [broken]; rfl) rfl rfl
  | header found arrived => exact timely.handled found (by rw [arrived]; rfl) rfl rfl
  | unit found arrived => exact timely.handled found (by rw [arrived]; rfl) rfl rfl
  | @expired connection id found armed =>
    have pending : connection.read.pending = true := by
      by_contra completed
      exact apart ⟨connection, found, by simpa using completed⟩
    obtain ⟨none, nothing⟩ := (timely.present id connection found).quiet (.inr armed)
    refine timely.put rfl ⟨?_, fun _ => ⟨pending, rfl, ?_⟩⟩ fun other different =>
      Function.update_of_ne different ..
    · simp [TimerLog.note, none, nothing]
    · simp [TimerLog.note, nothing]
  | @timedOut connection id found due =>
    have own := timely.present id connection found
    obtain ⟨-, -, only⟩ := own.waits due
    refine timely.put rfl (timely_quiet ?_ ?_) fun other different =>
      Function.update_of_ne different ..
    · change connection.expired - 1 = 0
      rw [own.one due]
    · simp [TimerLog.note, only]
  | responded named found => exact timely.beside found rfl rfl rfl rfl
  | written found pending => exact timely.beside found rfl rfl rfl rfl
  | failed found pending => exact timely.beside found rfl rfl rfl rfl

/-- An event at which they do. -/
theorem Server.Timely.collides (timely : server.Timely timers) (collides : Collides server event)
    (moved : server.Move settings event after) :
    ¬ TimeoutsRight after (timers.note event after) := by
  cases moved with
  | arrived found => exact timely.outrun found collides (put_same ..) rfl
  | broke found => exact timely.outrun found collides (put_same ..) rfl
  | @expired connection id found armed =>
    obtain ⟨_, same, completed⟩ := collides
    cases found.symm.trans same
    have due : (timers id).reads ∈ (timers.note (.expire id) (server.put id
        { connection with armed := false, expired := connection.expired + 1 }) id).due := by
      simp [TimerLog.note]
    exact not_right due (put_same ..) completed
  | accepted | ended | header | unit | timedOut | responded | written | failed =>
    exact absurd collides id

variable {recorded : Recorded (Server Id) (TimerLog Id)}

theorem timely_of_reach (reach : Reach (timedService Id settings)
    (Recorded.onState fun server event => ¬ Collides server event) recorded) :
    recorded.state.Timely recorded.log := by
  refine (Reach.recorded Server.Timely reach ?_ ?_).2
  · intro server started
    cases started
    exact ⟨fun _ _ => rfl, fun _ _ found => by cases found⟩
  · intro server timers event after _ timely apart stepped
    exact timely.step apart (Server.step_cases stepped)

/-- In every run in which no read and its timer collide, `readTimeoutHandler` closes a session
only while the read that the timer was armed for has not completed: it is the read that the
session waits on. In the states of such runs it is just a collision that leaves an expiry of
a completed read to be handled. -/
theorem timeouts_right (reach : Reach (timedService Id settings)
    (Recorded.onState fun server event => ¬ Collides server event) recorded) :
    TimeoutsRight recorded.state recorded.log ∧
    (∀ id after, (timedService Id settings).step recorded (.timeout id) = some after →
      ∃ connection, recorded.state.sessions id = some connection ∧
        connection.read.pending = true ∧
        (recorded.log id).due = [(recorded.log id).reads] ∧
        after.state.sessions id = some { connection with
          session := connection.session.readTimeoutHandler, closed := true, expired := 0 }) ∧
    ∀ event after, (timedService Id settings).step recorded event = some after →
      (TimeoutsRight after.state after.log ↔ ¬ Collides recorded.state event) := by
  have timely := timely_of_reach reach
  refine ⟨timely.right, fun id after stepped => ?_, fun event after stepped => ?_⟩
  · obtain ⟨next, moved, rfl⟩ := Option.map_eq_some_iff.mp stepped
    have closes : Server.Move settings recorded.state (.timeout id) next := Server.step_cases moved
    cases closes with
    | @timedOut connection _ found due =>
      have own := timely.present id connection found
      obtain ⟨pending, -, only⟩ := own.waits due
      refine ⟨connection, found, pending, only, ?_⟩
      change (Server.put _ id _).sessions id = _
      rw [Server.put_same, own.one due]
  · obtain ⟨next, accepted, rfl⟩ := Option.map_eq_some_iff.mp stepped
    have moved := Server.step_cases accepted
    constructor
    · exact fun right collides => timely.collides collides moved right
    · exact fun apart => (timely.step apart moved).right

end Timers

/-- The timer of a session that has sent nothing expires and closes it. -/
theorem timeouts_right_silent :
    ∃ recorded, Reach (@timedService ByteBuffer.reference Nat _ ⟨some .release, []⟩)
        (Recorded.onState fun server event => ¬ Collides server event) recorded ∧
      (recorded.log 0).due = [1] ∧ TimeoutsRight recorded.state recorded.log := by
  let := ByteBuffer.reference
  have initial : Reach (timedService Nat ⟨some .release, []⟩)
      (Recorded.onState fun server event => ¬ Collides server event)
      ⟨.initial Nat, fun _ => ⟨0, []⟩⟩ := .start ⟨rfl, rfl⟩
  obtain ⟨recorded, reach, due⟩ := initial.exists_of_schedule
    (fun recorded => (recorded.log 0).due = [1]) [.accept 0, .expire 0] (by decide)
  exact ⟨recorded, reach, due, (timeouts_right reach).1⟩

/-- The timer of the first read expires when the header is there, and closes the session
when it waits for the rest of the frame. -/
theorem stale_timeout :
    ∃ recorded, Reachable (@timedService ByteBuffer.reference Nat _ ⟨some .release, []⟩) recorded ∧
      (recorded.log 0).due = [1] ∧ recorded.log.outstanding recorded.state 0 = some 2 ∧
      ∃ after, (@timedService ByteBuffer.reference Nat _ ⟨some .release, []⟩).step recorded
          (.timeout 0) = some after ∧
        ∃ connection ∈ after.state.sessions 0,
          connection.closed = true ∧ connection.session.quit = true := by
  let := ByteBuffer.reference
  have initial : Reachable (timedService Nat ⟨some .release, []⟩)
      ⟨.initial Nat, fun _ => ⟨0, []⟩⟩ := .start ⟨rfl, rfl⟩
  obtain ⟨recorded, reach, due, waiting, found⟩ := initial.exists_of_schedule
    (fun recorded => (recorded.log 0).due = [1] ∧
      recorded.log.outstanding recorded.state 0 = some 2 ∧
      ((timedService Nat ⟨some .release, []⟩).step recorded (.timeout 0)).any fun after =>
        decide (∃ connection ∈ after.state.sessions 0,
          connection.closed = true ∧ connection.session.quit = true))
    [.accept 0, .arrive 0 ((sampleFrame .vehicleLogin).take 24), .expire 0, .handle 0]
    (by decide +kernel)
  obtain ⟨after, stepped, closed⟩ := Option.any_eq_true _ _ |>.mp found
  exact ⟨recorded, reach, due, waiting, after, stepped, of_decide_eq_true closed⟩

end MotorInfoUpload
