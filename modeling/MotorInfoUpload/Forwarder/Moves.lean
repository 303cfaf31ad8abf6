import MotorInfoUpload.Forwarder.System

namespace MotorInfoUpload

open Machine

variable {n : Nat}

inductive ServiceMove (before : State n) (woken : Option (Thread n)) : State n → Prop where
  | found (standing : before.service = .checking k packet) (inside : k < n)
      (pooled : k < before.pool) (up : before.connected ⟨k, inside⟩ = true) :
      ServiceMove before woken { before with service := .putRealtime packet }
  | missed (standing : before.service = .checking k packet) (inside : k < n)
      (pooled : k < before.pool) (down : before.connected ⟨k, inside⟩ = false) :
      ServiceMove before woken { before with service := .checking (k + 1) packet }
  | offline (standing : before.service = .checking k packet) (done : ¬ (k < before.pool ∧ k < n)) :
      ServiceMove before woken { before with service := .drainCheck packet }
  | drained (standing : before.service = .drainCheck packet) (nothing : before.realtime.queue = []) :
      ServiceMove before woken { before with service := .putReissue packet }
  | draining (standing : before.service = .drainCheck packet) (more : before.realtime.queue ≠ []) :
      ServiceMove before woken { before with service := .drainTake packet }
  | drainSleeps (standing : before.service = .drainTake packet)
      (nothing : before.realtime.queue = []) :
      ServiceMove before woken { before with
        realtime := { before.realtime with notEmpty := .service :: before.realtime.notEmpty } }
  | drainTook (standing : before.service = .drainTake packet)
      (taken : before.realtime.Taken realtime data woken) :
      ServiceMove before woken { before with realtime, service := .drainPut packet data }
  | drainFull (standing : before.service = .drainPut packet data)
      (full : before.reissue.queue.length = before.reissue.capacity) :
      ServiceMove before woken { before with
        reissue := { before.reissue with notFull := .service :: before.reissue.notFull } }
  | drainStored (standing : before.service = .drainPut packet data)
      (stored : before.reissue.Stored reissue data false woken) :
      ServiceMove before woken { before with reissue, service := .drainCheck packet }
  | reissueFull (standing : before.service = .putReissue packet)
      (full : before.reissue.queue.length = before.reissue.capacity) :
      ServiceMove before woken { before with
        reissue := { before.reissue with notFull := .service :: before.reissue.notFull } }
  | reissueStored (standing : before.service = .putReissue packet)
      (stored : before.reissue.Stored reissue packet false woken) :
      ServiceMove before woken { before with reissue, service := .idle }
  | realtimeFull (standing : before.service = .putRealtime packet)
      (full : before.realtime.queue.length = before.realtime.capacity) :
      ServiceMove before woken { before with
        realtime := { before.realtime with notFull := .service :: before.realtime.notFull } }
  | realtimeStored (standing : before.service = .putRealtime packet)
      (stored : before.realtime.Stored realtime packet false woken) :
      ServiceMove before woken { before with realtime, service := .idle }

theorem State.serviceStep_cases {before after : State n} {woken : Option (Thread n)}
    (stepped : before.serviceStep woken = some after) : ServiceMove before woken after := by
  unfold State.serviceStep at stepped
  split at stepped
  · cases stepped
  · rename_i k packet standing
    split at stepped
    · rename_i inside
      split at stepped
      · rename_i up
        cases stepped
        exact .found standing inside.2 inside.1 up
      · rename_i down
        cases stepped
        exact .missed standing inside.2 inside.1 (Bool.eq_false_iff.mpr down)
    · rename_i done
      cases stepped
      exact .offline standing done
  · rename_i packet standing
    split at stepped
    · rename_i nothing
      cases stepped
      exact .drained standing (List.isEmpty_iff.mp nothing)
    · rename_i more
      cases stepped
      exact .draining standing fun nothing => more (List.isEmpty_iff.mpr nothing)
  · rename_i packet standing
    obtain ⟨turn, turned, same⟩ := Option.map_eq_some_iff.mp stepped
    rcases (BlockQueue.take_cases turned).2 with ⟨nothing, rfl⟩ | ⟨realtime, data, rfl, taken⟩
    · cases same
      exact .drainSleeps standing nothing
    · cases same
      exact .drainTook standing taken
  · rename_i packet data standing
    obtain ⟨turn, turned, same⟩ := Option.map_eq_some_iff.mp stepped
    rcases (BlockQueue.put_cases turned).2 with ⟨full, rfl⟩ | ⟨reissue, rfl, stored⟩
    · cases same
      exact .drainFull standing full
    · cases same
      exact .drainStored standing stored
  · rename_i packet standing
    obtain ⟨turn, turned, same⟩ := Option.map_eq_some_iff.mp stepped
    rcases (BlockQueue.put_cases turned).2 with ⟨full, rfl⟩ | ⟨reissue, rfl, stored⟩
    · cases same
      exact .reissueFull standing full
    · cases same
      exact .reissueStored standing stored
  · rename_i packet standing
    obtain ⟨turn, turned, same⟩ := Option.map_eq_some_iff.mp stepped
    rcases (BlockQueue.put_cases turned).2 with ⟨full, rfl⟩ | ⟨realtime, rfl, stored⟩
    · cases same
      exact .realtimeFull standing full
    · cases same
      exact .realtimeStored standing stored

inductive OutsideMove (before : State n) (i : Fin n) (place : Outside) : State n → Prop where
  | walks (next : Outside) : OutsideMove before i place (before.move i (.outside next))
  | enters (ready : place = .check ∧ before.connected i = true ∨ place = .loginWait .forward) :
      OutsideMove before i place (before.move i .select)
  | connects (calling : place = .connecting login) (down : before.connected i = false) :
      OutsideMove before i place (before.connection i true)
  | closes (next : Outside) :
      OutsideMove before i place ((before.connection i false).move i (.outside next))
  | online (waited : place = .offline) :
      OutsideMove before i place { before.move i (.outside .check) with offline := false }

private theorem login_returns (login : LoginCall) (before : State n) (i : Fin n) :
    OutsideMove before i (.loginWait login) (before.move i login.returns) := by
  cases login with
  | round number => exact .walks _
  | last => exact .walks _
  | forward => exact .enters (.inr rfl)

theorem State.outsideStep_cases {before after : State n} {i : Fin n} {place : Outside}
    {event : Event} (stepped : before.outsideStep i place event = some after) :
    OutsideMove before i place after := by
  unfold State.outsideStep at stepped
  split at stepped
  · split at stepped <;> cases stepped <;> exact .walks _
  · split at stepped
    · cases stepped
    · rename_i down
      cases stepped
      exact .connects rfl (Bool.eq_false_iff.mpr down)
  · split at stepped <;> cases stepped
    exact .walks _
  · split at stepped
    · split at stepped <;> cases stepped <;> exact .walks _
    · cases stepped
  · cases stepped
    exact .walks _
  · split at stepped <;> cases stepped <;> exact .walks _
  · cases stepped
    exact .walks _
  · split at stepped <;> cases stepped
    · exact login_returns _ _ _
    all_goals exact .walks _
  · cases stepped
    exact .walks _
  · split at stepped <;> cases stepped <;> exact .walks _
  · split at stepped <;> cases stepped
    · exact .closes _
    · exact .walks _
  · cases stepped
    exact .online rfl
  · split at stepped
    · rename_i up
      cases stepped
      exact .enters (.inl ⟨rfl, up⟩)
    · cases stepped
      exact .walks _
  · cases stepped
    exact .closes _
  · cases stepped

variable [ByteBufferApi]

inductive UploadMove (before : State n) (i : Fin n) (woken : Option (Thread n)) :
    State n → Prop where
  | toRealtime (standing : before.uploader i = .select) (nothing : before.reissue.queue = []) :
      UploadMove before i woken (before.move i .takeRealtime)
  | toReissue (standing : before.uploader i = .select) (more : before.reissue.queue ≠ []) :
      UploadMove before i woken (before.move i .takeReissue)
  | realtimeSleeps (standing : before.uploader i = .takeRealtime)
      (nothing : before.realtime.queue = []) :
      UploadMove before i woken { before with
        realtime := { before.realtime with notEmpty := .uploader i :: before.realtime.notEmpty } }
  | realtimeTook (standing : before.uploader i = .takeRealtime)
      (taken : before.realtime.Taken realtime data woken) :
      UploadMove before i woken { before.move i (.loaded data) with realtime }
  | reissueSleeps (standing : before.uploader i = .takeReissue)
      (nothing : before.reissue.queue = []) :
      UploadMove before i woken { before with
        reissue := { before.reissue with notEmpty := .uploader i :: before.reissue.notEmpty } }
  | reissueTook (standing : before.uploader i = .takeReissue)
      (taken : before.reissue.Taken reissue data woken) (marked : markReissue data.buf = .ok buf) :
      UploadMove before i woken { before.move i (.loaded { data with buf }) with reissue }
  | reissueSpoilt (standing : before.uploader i = .takeReissue)
      (taken : before.reissue.Taken reissue data woken)
      (refused : markReissue data.buf = .error exception) :
      UploadMove before i woken { before.move i (.outside .closing) with reissue }
  | goesOn (standing : before.uploader i = .loaded packet)
      (more : 0 < ByteBufferApi.remaining packet.buf) :
      UploadMove before i woken (before.move i (.sending packet))
  | skips (standing : before.uploader i = .loaded packet)
      (nothing : ByteBufferApi.remaining packet.buf = 0) :
      UploadMove before i woken (before.move i (.outside .top))
  | illegal (standing : before.uploader i = .sending packet)
      (other : DataPacketHeader.cmdId packet.buf.array ∉ legalCmds) :
      UploadMove before i woken (before.move i (.outside .closing))
  | putBackFull (standing : before.uploader i = .putBack packet)
      (full : before.reissue.queue.length = before.reissue.capacity) :
      UploadMove before i woken { before with
        reissue := { before.reissue with notFull := .uploader i :: before.reissue.notFull } }
  | putBackStored (standing : before.uploader i = .putBack packet)
      (stored : before.reissue.Stored reissue packet true woken) :
      UploadMove before i woken { before.move i (.outside .top) with reissue }

theorem State.uploadStep_cases {before after : State n} {i : Fin n} {woken : Option (Thread n)}
    (stepped : before.uploadStep i woken = some after) : UploadMove before i woken after := by
  unfold State.uploadStep at stepped
  split at stepped
  · cases stepped
  · rename_i standing
    cases stepped
    split
    · rename_i nothing
      exact .toRealtime standing (List.isEmpty_iff.mp nothing)
    · rename_i more
      exact .toReissue standing fun nothing => more (List.isEmpty_iff.mpr nothing)
  · rename_i standing
    obtain ⟨turn, turned, same⟩ := Option.map_eq_some_iff.mp stepped
    rcases (BlockQueue.take_cases turned).2 with ⟨nothing, rfl⟩ | ⟨realtime, data, rfl, taken⟩
    · cases same
      exact .realtimeSleeps standing nothing
    · cases same
      exact .realtimeTook standing taken
  · rename_i standing
    obtain ⟨turn, turned, same⟩ := Option.map_eq_some_iff.mp stepped
    rcases (BlockQueue.take_cases turned).2 with ⟨nothing, rfl⟩ | ⟨reissue, data, rfl, taken⟩
    · cases same
      exact .reissueSleeps standing nothing
    · cases marked : markReissue data.buf with
      | error exception =>
        simp only [marked] at same
        cases same
        exact .reissueSpoilt standing taken marked
      | ok buf =>
        simp only [marked] at same
        cases same
        exact .reissueTook standing taken marked
  · rename_i packet standing
    split at stepped
    · rename_i more
      cases stepped
      exact .goesOn standing more
    · rename_i nothing
      cases stepped
      exact .skips standing (Nat.eq_zero_of_not_pos nothing)
  · rename_i packet standing
    split at stepped
    · cases stepped
    · rename_i other
      cases stepped
      exact .illegal standing other
  · rename_i packet standing
    obtain ⟨turn, turned, same⟩ := Option.map_eq_some_iff.mp stepped
    rcases (BlockQueue.put_cases turned).2 with ⟨full, rfl⟩ | ⟨reissue, rfl, stored⟩
    · cases same
      exact .putBackFull standing full
    · cases same
      exact .putBackStored standing stored

/-- Everything a step of the system can do. -/
inductive Move (before : State n) : Action n → State n → Prop where
  | start (fresh : before.uploader i = .outside .unstarted) :
      Move before (.start i) (before.move i (.outside .starting))
  | push (more : before.pool < n)
      (started : before.uploader ⟨before.pool, more⟩ ≠ .outside .unstarted) :
      Move before .push { before with pool := before.pool + 1 }
  | signal : Move before .signal { before with offline := true }
  | accept (free : before.service = .idle) (serving : 0 < before.pool) (read : session.FrameRead)
      (returned : session.returned = some buf) :
      Move before (.accept session) { before with
        service := .checking 0 ⟨before.accepted.length, buf⟩
        accepted := before.accepted ++ [buf] }
  | service (moved : ServiceMove before woken after) : Move before (.service woken) after
  | outside (standing : before.uploader i = .outside place)
      (moved : OutsideMove before i place after) : Move before (.outside i event) after
  | upload (moved : UploadMove before i woken after) : Move before (.upload i woken) after
  | sent (standing : before.uploader i = .sending packet)
      (legal : DataPacketHeader.cmdId packet.buf.array ∈ legalCmds) :
      Move before (.sent i)
        { before.move i (.outside .top) with written := before.written ++ [packet] }
  | failed (standing : before.uploader i = .sending packet)
      (legal : DataPacketHeader.cmdId packet.buf.array ∈ legalCmds)
      (room : packet.buf.position + progress ≤ packet.buf.limit) :
      Move before (.failed i progress)
        (before.move i (.putBack { packet with buf := packet.buf.advance progress room }))
  | drop (up : before.connected i = true) : Move before (.drop i) (before.connection i false)
  | wakeRealtime (woken : before.realtime.wake thread = some realtime) :
      Move before (.wakeRealtime thread) { before with realtime }
  | wakeReissue (woken : before.reissue.wake thread = some reissue) :
      Move before (.wakeReissue thread) { before with reissue }

theorem State.step_cases {before after : State n} {action : Action n}
    (stepped : before.step action = some after) : Move before action after := by
  unfold State.step at stepped
  split at stepped
  · split at stepped
    · rename_i fresh
      cases stepped
      exact .start fresh
    · cases stepped
  · split at stepped
    · split at stepped
      · cases stepped
      · rename_i more started
        cases stepped
        exact .push more started
    · cases stepped
  · cases stepped
    exact .signal
  · split at stepped
    · rename_i able
      obtain ⟨free, serving, read⟩ := able
      obtain ⟨buf, returned, same⟩ := Option.map_eq_some_iff.mp stepped
      cases same
      exact .accept free serving read returned
    · cases stepped
  · exact .service (State.serviceStep_cases stepped)
  · split at stepped
    · rename_i place standing
      exact .outside standing (State.outsideStep_cases stepped)
    · cases stepped
  · exact .upload (State.uploadStep_cases stepped)
  · unfold State.sendStep at stepped
    split at stepped
    · rename_i packet standing
      split at stepped
      · rename_i legal
        cases stepped
        exact .sent standing legal
      · cases stepped
    · cases stepped
  · unfold State.sendStep at stepped
    split at stepped
    · rename_i packet standing
      split at stepped
      · rename_i legal
        dsimp only at stepped
        split at stepped
        · rename_i room
          cases stepped
          exact .failed standing legal room
        · cases stepped
      · cases stepped
    · cases stepped
  · split at stepped
    · rename_i up
      cases stepped
      exact .drop up
    · cases stepped
  · obtain ⟨realtime, woken, same⟩ := Option.map_eq_some_iff.mp stepped
    cases same
    exact .wakeRealtime woken
  · obtain ⟨reissue, woken, same⟩ := Option.map_eq_some_iff.mp stepped
    cases same
    exact .wakeReissue woken

end MotorInfoUpload
