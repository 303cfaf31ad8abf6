import MotorInfoUpload.Session.Stream

namespace MotorInfoUpload

open Machine

/-- The session has cut what it has received into frames, and is at work on the rest. -/
structure Cut (received : List UInt8) (handled : List (List UInt8))
    (session : Option Connection) : Prop where
  frames : ∀ frame ∈ handled, IsFrame frame
  begins : handled.flatten <+: received
  absent : session = none → received = []
  rest : ∀ connection ∈ session, connection.read ≠ .idle →
    (∀ reading, connection.read ≠ .broken reading) →
    received = handled.flatten ++ connection.unhandled

namespace Cut

variable {received : List UInt8} {handled : List (List UInt8)} {connection before : Connection}

theorem initial : Cut [] [] none where
  frames frame member := by cases member
  begins := List.nil_prefix
  absent _ := rfl
  rest connection found := by cases found

theorem ends (cut : Cut received handled (some before))
    (stopped : connection.read = .idle ∨ ∃ reading, connection.read = .broken reading) :
    Cut received handled (some connection) where
  frames := cut.frames
  begins := cut.begins
  absent none := by cases none
  rest other found reads unbroken := by
    cases found
    rcases stopped with idle | ⟨reading, broken⟩
    · exact absurd idle reads
    · exact absurd broken (unbroken reading)

theorem kept (cut : Cut received handled (some before)) (read : connection.read = before.read)
    (packetRef : connection.session.packetRef = before.session.packetRef) :
    Cut received handled (some connection) where
  frames := cut.frames
  begins := cut.begins
  absent none := by cases none
  rest other found reads unbroken := by
    cases found
    rw [cut.rest before rfl (read ▸ reads) (read ▸ unbroken), Connection.unhandled,
      Connection.unhandled, read, packetRef]

theorem arrives (cut : Cut received handled (some before)) (waiting : before.read = .waiting reading) :
    Cut (received ++ bytes) handled (some { before with read := .arrived reading bytes }) where
  frames := cut.frames
  begins := cut.begins.trans (List.prefix_append ..)
  absent none := by cases none
  rest other found _ _ := by
    cases found
    have reads : before.read ≠ .idle := by rw [waiting]; exact ReadState.noConfusion
    have unbroken (other : Reading) : before.read ≠ .broken other := by
      rw [waiting]
      exact ReadState.noConfusion
    rw [cut.rest before rfl reads unbroken, List.append_assoc]
    cases reading <;> simp [Connection.unhandled, waiting]

variable {Id : Type} {settings : Settings} {table : SessionTable Id} {outcome : Handled Id}

theorem header (cut : Cut received handled (some before))
    (arrived : before.read = .arrived .header bytes)
    (result : HeaderHandled settings before.session bytes table outcome) :
    Cut received handled (some (before.after outcome)) := by
  cases result with
  | refused => exact cut.ends (.inl rfl)
  | admitted allowed standing header =>
    refine ⟨cut.frames, cut.begins, fun none => (by cases none), fun other found _ _ => ?_⟩
    cases found
    have reads : before.read ≠ .idle := by rw [arrived]; exact ReadState.noConfusion
    have unbroken (other : Reading) : before.read ≠ .broken other := by
      rw [arrived]
      exact ReadState.noConfusion
    rw [cut.rest before rfl reads unbroken, Connection.unhandled, arrived]
    exact congrArg (handled.flatten ++ ·) header.symm

theorem unit (cut : Cut received handled (some before)) (sound : before.Sound settings)
    (arrived : before.read = .arrived .dataUnit bytes)
    (whole : frame = before.session.packetRef.array.take DataPacketHeader.size ++ bytes)
    (next : outcome.reading = none ∨ outcome.reading = some .header) :
    Cut received (handled ++ [frame]) (some (before.after outcome)) := by
  have reads : before.read ≠ .idle := by rw [arrived]; exact ReadState.noConfusion
  have unbroken (other : Reading) : before.read ≠ .broken other := by
    rw [arrived]
    exact ReadState.noConfusion
  have rest : frame = before.unhandled := by rw [whole, Connection.unhandled, arrived]
  have all : received = (handled ++ [frame]).flatten := by
    rw [cut.rest before rfl reads unbroken, rest]
    simp
  refine ⟨fun other member => ?_, all ▸ List.prefix_rfl, fun none => (by cases none),
    fun other found _ _ => ?_⟩
  · rcases List.mem_append.mp member with earlier | last
    · exact cut.frames other earlier
    · rw [List.mem_singleton.mp last, rest]
      exact sound.isFrame arrived
  · cases found
    have nothing : (before.after outcome).unhandled = [] := by
      rcases next with none | header
      · simp [Connection.unhandled, Connection.after, none]
      · simp [Connection.unhandled, Connection.after, header]
    rw [nothing, List.append_nil, all]

end Cut

variable {Id : Type} [DecidableEq Id] [ByteBufferApi]

omit [DecidableEq Id] in
theorem TcpSession.afterParse_reading (session : TcpSession) (table : SessionTable Id)
    (parsing : Except Exception (Parsed Id)) :
    (session.afterParse table parsing).reading = none ∨
      (session.afterParse table parsing).reading = some .header := by
  cases parsing with
  | error exception => exact .inl rfl
  | ok parsed =>
    cases stays : parsed.session.quit with
    | true =>
      rw [session.afterParse_ended table stays]
      exact .inl rfl
    | false =>
      rw [session.afterParse_stays table stays]
      exact .inr rfl

variable [LawfulByteBuffer] {settings : Settings} {server after : Server Id} {id : Id}
  {received : List UInt8} {handled : List (List UInt8)}

/-- Every event of the service leaves the session with its stream cut into frames. -/
theorem Cut.step {event : ServiceEvent Id} (sound : server.Sound settings)
    (cut : Cut received handled (server.sessions id))
    (stepped : server.step settings event = some after) :
    Cut (received ++ event.delivers id) (handled ++ (server.handles id event).toList)
      (after.sessions id) := by
  have unmoved (nothing : event.delivers id = []) (unhandled : server.handles id event = none)
      (still : Cut received handled (after.sessions id)) :
      Cut (received ++ event.delivers id) (handled ++ (server.handles id event).toList)
        (after.sessions id) := by
    rw [nothing, unhandled, Option.toList_none, List.append_nil, List.append_nil]
    exact still
  have elsewhere {other : Id} {connection : Connection} (different : id ≠ other) :
      Cut received handled ((server.put other connection).sessions id) := by
    rw [Server.put_other different]
    exact cut
  have here {other : Id} {connection : Connection} (found : server.sessions other = some connection)
      (same : id = other) : Cut received handled (some connection) := by
    rw [← found, ← same]
    exact cut
  have unhandled {other : Id} (different : id ≠ other) : server.handles id (.handle other) = none := by
    rw [Server.handles, if_neg different.symm]
  cases Server.step_cases stepped with
  | @accepted other absent =>
    refine unmoved rfl rfl ?_
    rcases eq_or_ne id other with rfl | different
    · rw [Server.put_same]
      rw [absent] at cut
      have nothing : received = [] := cut.absent rfl
      have begins := cut.begins
      rw [nothing] at begins
      refine ⟨cut.frames, cut.begins, fun none => (by cases none), fun other found _ _ => ?_⟩
      cases found
      rw [nothing, List.prefix_nil.mp begins]
      rfl
    · exact elsewhere different
  | @arrived connection reading bytes other found waiting opened size =>
    rcases eq_or_ne id other with rfl | different
    · simp only [Server.handles, Option.toList, List.append_nil]
      rw [Server.put_same, ServiceEvent.delivers, if_pos rfl]
      exact (here found rfl).arrives waiting
    · exact unmoved (if_neg different.symm) rfl (elsewhere different)
  | @broke connection reading other found waiting =>
    refine unmoved rfl rfl ?_
    rcases eq_or_ne id other with rfl | different
    · rw [Server.put_same]
      exact (here found rfl).ends (.inr ⟨reading, rfl⟩)
    · exact elsewhere different
  | @ended connection reading other found broken =>
    rcases eq_or_ne id other with rfl | different
    · have unread : server.handles id (.handle id) = none := by
        simp [Server.handles, found, Server.whole, broken]
      refine unmoved rfl unread ?_
      simp only [Server.put_same]
      exact (here found rfl).ends (.inl rfl)
    · exact unmoved rfl (unhandled different) (elsewhere different)
  | @header connection bytes packetRef outcome other found arrived stored result =>
    rcases eq_or_ne id other with rfl | different
    · have unread : server.handles id (.handle id) = none := by
        simp [Server.handles, found, Server.whole, arrived]
      have handled := (sound id connection found).headerHandled server.table arrived stored
      rw [result] at handled
      refine unmoved rfl unread ?_
      simp only [Server.put_same]
      exact (here found rfl).header arrived handled
    · exact unmoved rfl (unhandled different) (elsewhere different)
  | @unit connection bytes session outcome other found arrived framed result =>
    rcases eq_or_ne id other with rfl | different
    · obtain ⟨whole, parsing, takes, parse, rfl⟩ := sound.takes found arrived framed result
      have nothing : (ServiceEvent.handle id).delivers id = [] := rfl
      have handles : server.handles id (.handle id) = some whole.frame := by
        rw [Server.handles, if_pos rfl, found, Option.bind_some, takes.whole, Option.map_some]
      rw [nothing, handles, List.append_nil, Option.toList_some]
      simp only [Server.put_same]
      exact (here found rfl).unit (sound id connection found) takes.arrived takes.frame
        (whole.afterParse_reading server.table parsing)
    · exact unmoved rfl (unhandled different) (elsewhere different)
  | @timedOut connection other found due | @expired connection other found armed
  | @responded vin connection other named found | @written connection other found pending
  | @failed connection other found pending =>
    refine unmoved rfl rfl ?_
    rcases eq_or_ne id other with rfl | different
    · have same := Server.put_same server id
      simp only [same]
      exact (here found rfl).kept rfl rfl
    · exact elsewhere different

end MotorInfoUpload
