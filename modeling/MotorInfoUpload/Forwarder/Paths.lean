import MotorInfoUpload.Forwarder.Moves

namespace MotorInfoUpload

variable {n : Nat}

/-- A step outside the queues of an uploader whose connection is `up`: the event, the next
place, and whether the connection is up then. -/
inductive Path (before : State n) (up : Bool) : Outside → Event → UploaderAt → Bool → Prop where
  | released (mode : before.mode = some .release) :
      Path before up .starting .next (.outside .top) up
  | tested (given : before.mode ≠ none) (mode : before.mode ≠ some .release) :
      Path before up .starting .next (.outside (.connecting none)) up
  | unrecognized (mode : before.mode = none) :
      Path before up .starting .next (.outside .closing) up
  | connects (down : up = false) :
      Path before up (.connecting login) .connects (.outside (.connecting login)) true
  | declined (down : up = false) :
      Path before up (.connecting login) .refuses (.outside (.connecting login)) up
  | tests (connected : up = true) :
      Path before up (.connecting none) .next (.outside (.loginCheck (.after 0))) up
  | connected (connected : up = true) :
      Path before up (.connecting (some login)) .next (.outside (.loginSend login)) up
  | throws : Path before up (.connecting login) .throws (.outside .closing) up
  | checked (connected : up = true) :
      Path before up (.loginCheck login) .next (.outside (.loginSend login)) up
  | reconnects (down : up = false) :
      Path before up (.loginCheck login) .next (.outside (.connecting (some login))) up
  | login : Path before up (.loginSend login) .next (.outside (.loginWait login)) up
  | loggedIn : Path before up (.loginWait login) (.answered .responseOk) login.returns up
  | again (retry : status = .connectionClosed ∨ status = .timeout ∨ status = .responseFormatErr) :
      Path before up (.loginWait login) (.answered status) (.outside (.loginCheck login)) up
  | refused (refusal : status = .responseNotOk ∨ status = .init) :
      Path before up (.loginWait login) (.answered status) (.outside .closing) up
  | logout : Path before up (.logoutSend k) .next (.outside (.logoutWait k)) up
  | loggedOut : Path before up (.logoutWait k) (.answered .responseOk)
      (.outside (.loginCheck (.after (k + 1)))) up
  | unanswered (other : status ≠ .responseOk) :
      Path before up (.logoutWait k) (.answered status) (.outside .closing) up
  | leaves (mode : before.mode = some .platformCompliance) (signalled : before.offline = true) :
      Path before up .top .next (.outside .offline) false
  | stays (not : ¬ (before.mode = some .platformCompliance ∧ before.offline = true)) :
      Path before up .top .next (.outside .check) up
  | returns : Path before up .offline .next (.outside .check) up
  | enters (connected : up = true) : Path before up .check .next .select up
  | relogs (down : up = false) :
      Path before up .check .next (.outside (.loginCheck .forward)) up
  | stops : Path before up .closing .next (.outside .stopped) false

structure SameQueues (before after : State n) : Prop where
  mode : after.mode = before.mode
  realtime : after.realtime = before.realtime
  reissue : after.reissue = before.reissue
  service : after.service = before.service
  written : after.written = before.written

theorem State.outsideStep_path {before after : State n} {i : Fin n} {place : Outside} {event : Event}
    (standing : before.uploader i = .outside place)
    (stepped : before.outsideStep i place event = some after) :
    SameQueues before after ∧ ∃ next up,
      Path before (before.connected i) place event next up ∧
      after.uploader = Function.update before.uploader i next ∧
      after.connected = Function.update before.connected i up := by
  have moved {next : UploaderAt}
      (path : Path before (before.connected i) place event next (before.connected i)) :
      SameQueues before (before.move i next) ∧ ∃ other up,
        Path before (before.connected i) place event other up ∧
        (before.move i next).uploader = Function.update before.uploader i other ∧
        (before.move i next).connected = Function.update before.connected i up :=
    ⟨⟨rfl, rfl, rfl, rfl, rfl⟩, next, before.connected i, path, rfl, (Function.update_eq_self ..).symm⟩
  unfold State.outsideStep at stepped
  split at stepped
  · split at stepped
    · rename_i mode
      cases stepped
      exact moved (.released mode)
    · rename_i mode other given
      cases stepped
      exact moved (.tested (by simp [given]) (by simpa [given] using other))
    · rename_i mode
      cases stepped
      exact moved (.unrecognized mode)
  · split at stepped
    · cases stepped
    · rename_i down
      cases stepped
      refine ⟨⟨rfl, rfl, rfl, rfl, rfl⟩, .outside (.connecting _), true,
        .connects (by simpa using down), ?_, rfl⟩
      rw [← standing, Function.update_eq_self]
      rfl
  · split at stepped
    · cases stepped
    · rename_i down
      cases stepped
      exact moved (.declined (by simpa using down))
  · split at stepped
    · rename_i connected
      split at stepped
      · cases stepped
        exact moved (.tests connected)
      · cases stepped
        exact moved (.connected connected)
    · cases stepped
  · cases stepped
    exact moved .throws
  · split at stepped
    · rename_i connected
      cases stepped
      exact moved (.checked connected)
    · rename_i down
      cases stepped
      exact moved (.reconnects (by simpa using down))
  · cases stepped
    exact moved .login
  · split at stepped
    · cases stepped
      exact moved .loggedIn
    all_goals cases stepped
    · exact moved (.again (by simp))
    · exact moved (.again (by simp))
    · exact moved (.again (by simp))
    · exact moved (.refused (by simp))
    · exact moved (.refused (by simp))
  · cases stepped
    exact moved .logout
  · split at stepped
    · rename_i ok
      subst ok
      cases stepped
      exact moved .loggedOut
    · rename_i other
      cases stepped
      exact moved (.unanswered other)
  · split at stepped
    · rename_i leaving
      cases stepped
      exact ⟨⟨rfl, rfl, rfl, rfl, rfl⟩, _, _, .leaves leaving.1 leaving.2, rfl, rfl⟩
    · rename_i not
      cases stepped
      exact moved (.stays not)
  · cases stepped
    exact ⟨⟨rfl, rfl, rfl, rfl, rfl⟩, _, _, .returns, rfl, (Function.update_eq_self ..).symm⟩
  · split at stepped
    · rename_i connected
      cases stepped
      exact moved (.enters connected)
    · rename_i down
      cases stepped
      exact moved (.relogs (by simpa using down))
  · cases stepped
    exact ⟨⟨rfl, rfl, rfl, rfl, rfl⟩, _, _, .stops, rfl, rfl⟩
  · cases stepped

end MotorInfoUpload
