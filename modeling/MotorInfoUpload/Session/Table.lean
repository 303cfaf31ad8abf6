import MotorInfoUpload.Session.Moves

namespace MotorInfoUpload

open Machine

variable {Id : Type} [DecidableEq Id]

/-- The entry of a VIN is free, or it is the session's own. -/
def SessionTable.Yields (table : SessionTable Id) (vin : List UInt8) (id : Id) : Prop :=
  table vin = none ∨ table vin = some id

instance (table : SessionTable Id) (vin : List UInt8) (id : Id) : Decidable (table.Yields vin id) :=
  inferInstanceAs (Decidable (_ ∨ _))

/-- A frame that leaves the wrong entry behind: a login that carries another VIN
than the session's, or whose entry is another session's, or a logout that removes
another session's entry. -/
def FrameMisnames (table : SessionTable Id) (id : Id) (session : TcpSession) : Prop :=
  session.cmdId = CmdCode.vehicleLogin.value ∧
      ¬ (session.headerVin = session.vin ∧ table.Yields session.vin id) ∨
    session.cmdId = CmdCode.vehicleLogout.value ∧ ¬ table.Yields session.vin id

instance (table : SessionTable Id) (id : Id) (session : TcpSession) :
    Decidable (FrameMisnames table id session) := inferInstanceAs (Decidable (_ ∨ _))

/-- Removing the entry of the session's VIN takes it from another session. -/
def EvictsFrom (table : SessionTable Id) (id : Id) (session : TcpSession) : Prop :=
  session.vin ≠ Constant.vinInital ∧ ¬ table.Yields session.vin id

instance (table : SessionTable Id) (id : Id) (session : TcpSession) :
    Decidable (EvictsFrom table id session) := inferInstanceAs (Decidable (_ ∧ _))

omit [DecidableEq Id] in
private theorem erase_other {table : SessionTable Id} (other : vin ≠ erased) :
    table.erase erased vin = table vin := if_neg other

private theorem named_erase {current : List UInt8 → Option Id} {table : SessionTable Id} {id : Id}
    (named : ∀ vin id, current vin = some id → table vin = some id)
    (yields : table.Yields erased session)
    (forgotten : Server.forget current session vin = some id) :
    table.erase erased vin = some id := by
  unfold Server.forget at forgotten
  split at forgotten
  · cases forgotten
  · rename_i other
    have found := named vin id forgotten
    by_cases same : vin = erased
    · subst same
      rcases yields with free | own
      · rw [free] at found
        cases found
      · rw [own] at found
        cases found
        exact absurd forgotten other
    · rw [erase_other same, found]

omit [DecidableEq Id] in
private theorem named_insert {current : List UInt8 → Option Id} {table : SessionTable Id} {id : Id}
    (named : ∀ vin id, current vin = some id → table vin = some id)
    (yields : table.Yields carried session)
    (remembered : Server.remember current session carried vin = some id) :
    table.insert carried session vin = some id := by
  unfold Server.remember at remembered
  unfold SessionTable.insert
  rcases yields with free | own
  · rw [free]
    split at remembered
    · rename_i same
      rw [← remembered]
      exact if_pos same
    · rename_i other
      exact (if_neg other).trans (named vin id remembered)
  · rw [own]
    split at remembered
    · rename_i same
      rw [same, ← remembered]
      exact own
    · exact named vin id remembered

omit [DecidableEq Id] in
/-- A session that is removed changes no entry but its own, unless it evicts
another one. -/
theorem eraseEntry_own {table : SessionTable Id} {id : Id} {session : TcpSession} :
    (∀ vin, session.eraseEntry table vin ≠ table vin → table vin = some id) ↔
      ¬ EvictsFrom table id session := by
  constructor
  · rintro own ⟨registered, evicted⟩
    have kept : table session.vin ≠ none := fun free => evicted (.inl free)
    refine evicted (.inr (own session.vin ?_))
    rw [TcpSession.eraseEntry, if_neg registered]
    exact fun same => kept (same ▸ if_pos rfl)
  · intro yields vin changed
    by_cases fresh : session.vin = Constant.vinInital
    · rw [TcpSession.eraseEntry, if_pos fresh] at changed
      exact absurd rfl changed
    · rw [TcpSession.eraseEntry, if_neg fresh] at changed
      have erased : vin = session.vin :=
        Classical.byContradiction fun other => changed (erase_other other)
      have owned : table.Yields session.vin id :=
        Classical.byContradiction fun bad => yields ⟨fresh, bad⟩
      rcases owned with free | own
      · rw [erased] at changed
        exact absurd ((if_pos rfl).trans free.symm) changed
      · rw [erased, own]

/-- The table names the current session of every VIN. -/
def Named (server : Server Id) : Prop :=
  ∀ vin id, server.current vin = some id → server.table vin = some id

section Guard

variable [ByteBufferApi]

/-- The handler of the read of a session leaves the wrong entry behind: as a frame
does, or because the session ends and removes another session's entry. -/
def ReadMisnames (server : Server Id) (id : Id) (connection : Connection) : ReadState → Prop
  | .broken _ => EvictsFrom server.table id connection.session
  | .arrived .dataUnit bytes => ∃ session ∈ Server.framed connection bytes,
      ∃ whole ∈ session.limited.toOption, FrameMisnames server.table id whole
  | _ => False

/-- The events after which the table is wrong about a session, or that remove the
entry of another one. A write error must find no entry at all: one of its own would
be removed from a session that has not ended. -/
def Misnames (server : Server Id) : ServiceEvent Id → Prop
  | .handle id => ∃ connection ∈ server.sessions id, ReadMisnames server id connection connection.read
  | .writeFailed id => ∃ connection ∈ server.sessions id,
      connection.session.vin ≠ Constant.vinInital ∧ server.table connection.session.vin ≠ none
  | _ => False

instance (server : Server Id) (id : Id) (connection : Connection) (read : ReadState) :
    Decidable (ReadMisnames server id connection read) :=
  match read with
  | .broken _ => inferInstanceAs (Decidable (_ ∧ _))
  | .arrived .dataUnit _ => inferInstanceAs (Decidable (∃ _ ∈ _, _))
  | .arrived .header _ | .idle | .waiting _ => .isFalse fun bad => bad

instance (server : Server Id) (event : ServiceEvent Id) : Decidable (Misnames server event) :=
  match event with
  | .handle _ | .writeFailed _ => inferInstanceAs (Decidable (∃ _ ∈ _, _))
  | .accept _ | .arrive _ _ | .breaks _ | .expire _ | .timeout _ | .respond _ | .writeDone _ =>
    .isFalse fun bad => bad

inductive TableEffect (table : SessionTable Id) (self : Id) (session : TcpSession) :
    SessionTable Id → Prop where
  | login (command : session.cmdId = CmdCode.vehicleLogin.value) :
      TableEffect table self session (table.insert session.vin self)
  | logout (command : session.cmdId = CmdCode.vehicleLogout.value) :
      TableEffect table self session (table.erase session.vin)
  | other (noLogin : session.cmdId ≠ CmdCode.vehicleLogin.value)
      (noLogout : session.cmdId ≠ CmdCode.vehicleLogout.value) :
      TableEffect table self session table

omit [DecidableEq Id] in
theorem parseDataUnit_table {self : Id} {session : TcpSession} {table : SessionTable Id}
    (accepted : parseDataUnit self session table = some (.ok parsed)) :
    TableEffect table self session parsed.table := by
  cases (parseDataUnit_cases accepted).2 with
  | upload command =>
    have upload : session.cmdId = CmdCode.reissueUpload.value ∨
        session.cmdId = CmdCode.realtimeUpload.value := command
    rcases upload with command | command
    · exact .other (by rw [command]; decide) (by rw [command]; decide)
    · exact .other (by rw [command]; decide) (by rw [command]; decide)
  | login command => exact .login command
  | logout command => exact .logout command
  | heartBeat command =>
    have heartBeat : session.cmdId = CmdCode.heartBeat.value := command
    exact .other (by rw [heartBeat]; decide) (by rw [heartBeat]; decide)

variable {settings : Settings} {server after : Server Id}

private theorem named_frame {id : Id} {session : TcpSession} (named : Named server)
    (allowed : ∀ whole, session.limited = .ok whole → ¬ FrameMisnames server.table id whole)
    (handled : session.readDataUnitHandler id server.table = some outcome) (vin : List UInt8)
    (other : Id) (current : server.noted id session vin = some other) :
    outcome.table vin = some other := by
  unfold TcpSession.readDataUnitHandler at handled
  unfold Server.noted at current
  cases limited : session.limited with
  | error what =>
    simp only [limited] at handled current
    cases handled
    exact named vin other current
  | ok whole =>
    simp only [limited] at handled current
    obtain ⟨result, parse, same⟩ := Option.map_eq_some_iff.mp handled
    subst same
    simp only [parse] at current
    cases result with
    | error exception => exact named vin other current
    | ok parsed =>
      rw [TcpSession.afterParse_table]
      have effect := parseDataUnit_table parse
      have right := allowed whole limited
      dsimp only at current
      generalize parsed.table = table at effect ⊢
      cases effect with
      | login command =>
        rw [if_pos command] at current
        have own : whole.headerVin = whole.vin ∧ server.table.Yields whole.vin id :=
          Classical.byContradiction fun bad => right (.inl ⟨command, bad⟩)
        rw [own.1] at current
        exact named_insert named own.2 current
      | logout command =>
        have noLogin : whole.cmdId ≠ CmdCode.vehicleLogin.value := by rw [command]; decide
        rw [if_neg noLogin, if_pos command] at current
        have own : server.table.Yields whole.vin id :=
          Classical.byContradiction fun bad => right (.inr ⟨command, bad⟩)
        exact named_erase named own current
      | other noLogin noLogout =>
        rw [if_neg noLogin, if_neg noLogout] at current
        exact named vin other current

omit [ByteBufferApi] in
private theorem named_ended {id : Id} {session : TcpSession} (named : Named server)
    (allowed : ¬ EvictsFrom server.table id session) {vin : List UInt8} {other : Id}
    (current : Server.forget server.current id vin = some other) :
    session.eraseEntry server.table vin = some other := by
  unfold TcpSession.eraseEntry
  split
  · unfold Server.forget at current
    split at current
    · cases current
    · exact named vin other current
  · rename_i registered
    have yields : server.table.Yields session.vin id :=
      Classical.byContradiction fun bad => allowed ⟨registered, bad⟩
    exact named_erase named yields current

/-- Every event but a misnaming one leaves the table naming the current sessions. -/
theorem named_step {event : ServiceEvent Id} (named : Named server)
    (allowed : ¬ Misnames server event) (stepped : server.step settings event = some after) :
    Named after := by
  have read {id : Id} {connection : Connection} (found : server.sessions id = some connection)
      (misnames : ReadMisnames server id connection connection.read) :
      Misnames server (.handle id) := ⟨connection, found, misnames⟩
  cases Server.step_cases stepped with
  | accepted | arrived | broke | expired | timedOut | responded | written => exact named
  | ended found broken =>
    intro vin other current
    refine named_ended named (fun evicts => allowed (read found ?_)) current
    rw [broken]
    exact evicts
  | header found arrived stored result =>
    intro vin other current
    rw [← result]
    change (TcpSession.readHeaderHandler settings _ server.table).table vin = some other
    rw [TcpSession.readHeaderHandler_table]
    exact named vin other current
  | unit found arrived framed result =>
    intro vin other current
    refine named_frame named (fun whole limited bad => allowed (read found ?_)) result vin other current
    rw [arrived]
    exact ⟨_, framed, whole, by rw [limited]; rfl, bad⟩
  | @failed connection id found =>
    intro vin other current
    have kept : server.table vin = some other := named vin other current
    change connection.session.eraseEntry server.table vin = some other
    unfold TcpSession.eraseEntry
    split
    · exact kept
    · rename_i registered
      have different : vin ≠ connection.session.vin := by
        rintro rfl
        exact allowed ⟨connection, found, registered, by rw [kept]; exact Option.some_ne_none _⟩
      rw [erase_other different, kept]

/-- The events in which a session ends or has a write error. -/
inductive Ends (server : Server Id) (id : Id) : ServiceEvent Id → Prop where
  | read (found : server.sessions id = some connection)
      (broke : connection.read = .broken reading) : Ends server id (.handle id)
  | write (found : server.sessions id = some connection) : Ends server id (.writeFailed id)

/-- The session is registered under a VIN that the table maps to another session. -/
def Evicts (server : Server Id) (id : Id) : Prop :=
  ∃ connection ∈ server.sessions id, EvictsFrom server.table id connection.session

private theorem ends_table {id : Id} {event : ServiceEvent Id} (ends : Ends server id event)
    (stepped : server.step settings event = some after) :
    ∃ connection, server.sessions id = some connection ∧
      after.table = connection.session.eraseEntry server.table := by
  cases ends with
  | @read connection reading found broke =>
    simp only [Server.step, found, Option.bind_some, Server.handleRead, broke] at stepped
    cases stepped
    exact ⟨connection, found, rfl⟩
  | @write connection found =>
    simp only [Server.step, found, Option.bind_some] at stepped
    split at stepped <;> cases stepped
    exact ⟨connection, found, rfl⟩

private theorem ends_own {id : Id} {event : ServiceEvent Id} (ends : Ends server id event)
    (stepped : server.step settings event = some after) :
    (∀ vin, after.table vin ≠ server.table vin → server.table vin = some id) ↔
      ¬ Evicts server id := by
  obtain ⟨connection, found, table⟩ := ends_table ends stepped
  rw [table, eraseEntry_own]
  constructor
  · rintro yields ⟨other, found', evicts⟩
    have same : other = connection := Option.some.inj (found'.symm.trans found)
    exact yields (same ▸ evicts)
  · exact fun kept evicts => kept ⟨connection, found, evicts⟩

theorem named_of_reach
    (reach : Reach (vehicleService Id settings) (fun server event => ¬ Misnames server event) server) :
    Named server := by
  apply reach.invariant
  · rintro server rfl vin id current
    cases current
  · intro before event after named allowed stepped
    exact named_step named allowed stepped

/-- As long as no event misnames a session, the table names the current session of
every VIN; and the end of a session or its write error changes no entry but its own,
exactly when its VIN is not another session's in the table. -/
theorem table_names_current
    (reach : Reach (vehicleService Id settings) (fun server event => ¬ Misnames server event) server) :
    (∀ vin id, server.current vin = some id → server.table vin = some id) ∧
      ∀ id event after, Ends server id event →
        (vehicleService Id settings).step server event = some after →
        ((∀ vin, after.table vin ≠ server.table vin → server.table vin = some id) ↔
          ¬ Evicts server id) :=
  ⟨named_of_reach reach, fun _ _ _ ends stepped => ends_own ends stepped⟩

end Guard

/-- A vehicle alone logs in. -/
theorem table_names_current_alone :
    ∃ server : Server Nat, server.current sampleVin = some 0 ∧ server.table sampleVin = some 0 := by
  let := ByteBuffer.reference
  have initial : Reach (vehicleService Nat ⟨some .release, []⟩)
      (fun server event => ¬ Misnames server event) (.initial Nat) := .start rfl
  obtain ⟨server, reach, current⟩ := initial.exists_of_schedule
    (fun server => server.current sampleVin = some 0) (logsIn 0) (by decide +kernel)
  exact ⟨server, current, (table_names_current reach).1 sampleVin 0 current⟩

/-- A vehicle logs in again before its old session has ended. -/
theorem table_names_old_session :
    ∃ server : Server Nat,
      Reachable (@vehicleService ByteBuffer.reference Nat _ ⟨some .release, []⟩) server ∧
      server.current sampleVin = some 1 ∧ server.table sampleVin = some 0 := by
  let := ByteBuffer.reference
  have initial : Reachable (vehicleService Nat ⟨some .release, []⟩) (.initial Nat) := .start rfl
  exact initial.exists_of_schedule
    (fun server => server.current sampleVin = some 1 ∧ server.table sampleVin = some 0)
    (logsIn 0 ++ logsIn 1) (by decide +kernel)

end MotorInfoUpload
