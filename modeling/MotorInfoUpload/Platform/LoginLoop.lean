import MotorInfoUpload.DataFormat
import MotorInfoUpload.Machine.History
import Mathlib.Algebra.Group.Nat.Defs

/-! The loop of `Uploader::setupConnAndLogin`: which attempt waits how long, and which
serial number its frame carries. What the clock shows, whether the connection is there,
whether the socket throws and what becomes of an attempt is up to the environment. -/

namespace MotorInfoUpload

open Machine

/-- The members of `struct tm` that the loop compares. -/
@[ext]
structure Tm where
  year : Int
  mon : Int
  mday : Int
deriving DecidableEq

/-- The `resource` of the loop. -/
structure LoginSettings where
  loginTimes : UInt64
  loginIntervals : UInt64
  loginIntervals2 : UInt64
  maxSerialNumber : Nat

/-- Outside a call of `setupConnAndLogin`, before a round of its loop with the values of
`i` and `wait_timeout`, or left by an exception. -/
inductive LoopAt where
  | outside
  | round (i waitTimeout : UInt64)
  | threw
deriving DecidableEq

/-- The members of the uploader; the time of the last login is kept as its local date. -/
structure LoginLoop where
  place : LoopAt
  serialNumber : UInt16
  lastLogin : Tm

/-- A call of `setupConnAndLogin`, or a round of its loop: whether it finds the connection,
the date at its start, the status it waits for, and the date after the loop, which only a
round with a success reads. Or a round ends before it waits: `setupConnection` throws what
`connect` does not catch, or the write of the login throws what `tcpSendData` does not catch. -/
inductive LoopStep where
  | enter
  | attempt (connected : Bool) (now : Tm) (status : ResponseReaderStatus) (stamp : Tm)
  | connectThrows
  | sendThrows (now : Tm)

namespace LoginLoop

variable (settings : LoginSettings)

/-- The counter and the wait of a round, after a reconnection if there is none, and after
the comparison with `LoginTimes`. -/
def waits (connected : Bool) (i waitTimeout : UInt64) : UInt64 × UInt64 :=
  let (i, waitTimeout) := if connected then (i, waitTimeout) else (0, settings.loginIntervals)
  (i, if i == settings.loginTimes then settings.loginIntervals2 else waitTimeout)

/-- The number of the login that starts on the date `now`. The second call of `localtime`
overwrites what the first one has returned, after its members have been copied. -/
def checked (now : Tm) (loop : LoginLoop) : UInt16 :=
  let timeTM := now
  let nowDay := timeTM.mday
  let nowMon := timeTM.mon
  let nowYear := timeTM.year
  let timeTM := loop.lastLogin
  if loop.serialNumber.toNat > settings.maxSerialNumber ∨ nowDay ≠ timeTM.mday ∨
      nowMon ≠ timeTM.mon ∨ nowYear ≠ timeTM.year then 1
  else loop.serialNumber

def step (loop : LoginLoop) : LoopStep → Option LoginLoop
  | .enter =>
    if loop.place = .outside then some { loop with place := .round 0 settings.loginIntervals }
    else none
  | .attempt connected now status stamp => match loop.place with
    | .round i waitTimeout =>
      let (i, waitTimeout) := waits settings connected i waitTimeout
      let serialNumber := checked settings now loop
      match status with
      | .connectionClosed | .timeout | .responseFormatErr =>
        some { loop with place := .round (i + 1) waitTimeout, serialNumber }
      | .responseOk => some ⟨.outside, serialNumber + 1, stamp⟩
      | .responseNotOk | .init => some { loop with place := .threw, serialNumber }
    | _ => none
  | .connectThrows => match loop.place with
    | .round _ _ => some { loop with place := .threw }
    | _ => none
  | .sendThrows now => match loop.place with
    | .round _ _ => some { loop with place := .threw, serialNumber := checked settings now loop }
    | _ => none

end LoginLoop

/-- An attempt that has been made: whether it had to reconnect, how long it waited, the
number its frame carried, and what it was given. -/
structure LoginAttempt where
  reconnected : Bool
  waited : UInt64
  serial : UInt16
  now : Tm
  status : ResponseReaderStatus
  stamp : Tm

abbrev LoginRecord := List (Option LoginAttempt)

/-- What a step adds to the record. -/
def LoginLoop.noted (settings : LoginSettings) (loop : LoginLoop) : LoopStep → List (Option LoginAttempt)
  | .enter => [none]
  | .attempt connected now status stamp => match loop.place with
    | .round i waitTimeout =>
      [some ⟨!connected, (waits settings connected i waitTimeout).2, checked settings now loop, now,
        status, stamp⟩]
    | _ => []
  | .connectThrows | .sendThrows _ => []

inductive LoginLoop.Move (settings : LoginSettings) (before : LoginLoop) :
    LoopStep → LoginLoop → Prop where
  | enters (standing : before.place = .outside) :
      Move settings before .enter { before with place := .round 0 settings.loginIntervals }
  | again (standing : before.place = .round i waitTimeout)
      (unanswered : status = .connectionClosed ∨ status = .timeout ∨ status = .responseFormatErr) :
      Move settings before (.attempt connected now status stamp)
        ⟨.round ((waits settings connected i waitTimeout).1 + 1)
            (waits settings connected i waitTimeout).2,
          checked settings now before, before.lastLogin⟩
  | succeeds (standing : before.place = .round i waitTimeout) :
      Move settings before (.attempt connected now .responseOk stamp)
        ⟨.outside, checked settings now before + 1, stamp⟩
  | throws (standing : before.place = .round i waitTimeout)
      (unexpected : status = .responseNotOk ∨ status = .init) :
      Move settings before (.attempt connected now status stamp)
        ⟨.threw, checked settings now before, before.lastLogin⟩
  | connectThrew (standing : before.place = .round i waitTimeout) :
      Move settings before .connectThrows { before with place := .threw }
  | sendThrew (standing : before.place = .round i waitTimeout) :
      Move settings before (.sendThrows now)
        ⟨.threw, checked settings now before, before.lastLogin⟩

theorem LoginLoop.step_cases {settings : LoginSettings} {before after : LoginLoop} {label : LoopStep}
    (stepped : before.step settings label = some after) : Move settings before label after := by
  cases label with
  | enter =>
    simp only [step, Option.ite_none_right_eq_some, Option.some.injEq] at stepped
    obtain ⟨standing, rfl⟩ := stepped
    exact .enters standing
  | attempt connected now status stamp =>
    cases standing : before.place with
    | outside => simp [step, standing] at stepped
    | threw => simp [step, standing] at stepped
    | round i waitTimeout =>
      cases status <;> simp only [step, standing, Option.some.injEq] at stepped <;> subst stepped
      case responseOk => exact .succeeds standing
      case responseNotOk | init => exact .throws standing (by simp)
      all_goals exact .again standing (by simp)
  | connectThrows =>
    simp only [step] at stepped
    split at stepped
    · rename_i standing
      exact Option.some.inj stepped ▸ .connectThrew standing
    · cases stepped
  | sendThrows now =>
    simp only [step] at stepped
    split at stepped
    · rename_i standing
      exact Option.some.inj stepped ▸ .sendThrew standing
    · cases stepped

theorem LoginLoop.noted_round {settings : LoginSettings} {loop : LoginLoop} {i waitTimeout : UInt64}
    (standing : loop.place = .round i waitTimeout) (connected : Bool) (now : Tm)
    (status : ResponseReaderStatus) (stamp : Tm) :
    loop.noted settings (.attempt connected now status stamp) =
      [some ⟨!connected, (waits settings connected i waitTimeout).2, checked settings now loop, now,
        status, stamp⟩] := by
  simp only [noted, standing]

/-- An uploader that logs in any number of times. The source starts with the number 1 and
the time 0, which is the date `epoch`. -/
def loginLoop (settings : LoginSettings) (epoch : Tm) :
    Automaton (Recorded LoginLoop LoginRecord) LoopStep :=
  Automaton.recording
    { start := fun loop => loop = ⟨.outside, 1, epoch⟩
      step := LoginLoop.step settings }
    [] fun record loop step _ => loop.noted settings step ++ record

/-- The attempts since the latest reconnection, or else since the call. -/
def attemptsSince : LoginRecord → Nat
  | [] | none :: _ => 0
  | some attempt :: older => if attempt.reconnected then 1 else attemptsSince older + 1

/-- The rule: the first `LoginTimes` attempts on a connection wait for the short time, the
others for the long one. -/
def LoginSettings.waitOf (settings : LoginSettings) (attempts : Nat) : UInt64 :=
  if attempts < settings.loginTimes.toNat then settings.loginIntervals else settings.loginIntervals2

def EveryAttempt (holds : LoginAttempt → LoginRecord → Prop) (record : LoginRecord) : Prop :=
  ∀ newer attempt older, record = newer ++ some attempt :: older → holds attempt older

section Record

variable {holds : LoginAttempt → LoginRecord → Prop} {record : LoginRecord}

theorem EveryAttempt.empty : EveryAttempt holds [] := by
  intro newer attempt older same
  simp at same

theorem EveryAttempt.call (every : EveryAttempt holds record) : EveryAttempt holds (none :: record) := by
  intro newer attempt older same
  cases newer with
  | nil => cases same
  | cons first newer => exact every newer attempt older (List.cons.inj same).2

theorem EveryAttempt.attempt {made : LoginAttempt} (every : EveryAttempt holds record)
    (right : holds made record) : EveryAttempt holds (some made :: record) := by
  intro newer attempt older same
  cases newer with
  | nil =>
    cases same
    exact right
  | cons first newer => exact every newer attempt older (List.cons.inj same).2

end Record

/-- An attempt has waited as long as the rule says. -/
def WaitedByRule (settings : LoginSettings) (attempt : LoginAttempt) (older : LoginRecord) : Prop :=
  attempt.waited = settings.waitOf (if attempt.reconnected then 0 else attemptsSince older)

section Schedule

variable {settings : LoginSettings} {epoch : Tm} {record : LoginRecord} {loop after : LoginLoop}

/-- The two loop variables, after a number of attempts: the counter is that number, and the
wait is the short one unless the counter has been found equal to `LoginTimes`. -/
structure Counts (settings : LoginSettings) (attempts : Nat) (i waitTimeout : UInt64) : Prop where
  counter : i.toNat = attempts % 2 ^ 64
  wait : waitTimeout =
    if attempts ≤ settings.loginTimes.toNat then settings.loginIntervals else settings.loginIntervals2

theorem Counts.start : Counts settings 0 0 settings.loginIntervals where
  counter := rfl
  wait := by simp

theorem Counts.waited {i waitTimeout : UInt64} (counts : Counts settings attempts i waitTimeout) :
    (if i == settings.loginTimes then settings.loginIntervals2 else waitTimeout) =
      settings.waitOf attempts := by
  have bound := settings.loginTimes.toNat_lt
  have compared : (i == settings.loginTimes) = true ↔ attempts % 2 ^ 64 = settings.loginTimes.toNat := by
    rw [beq_iff_eq, ← UInt64.toNat_inj, counts.counter]
  have wait := counts.wait
  unfold LoginSettings.waitOf
  by_cases reached : attempts < settings.loginTimes.toNat
  · have different : ¬ (i == settings.loginTimes) = true := by
      rw [compared]
      omega
    have within : attempts ≤ settings.loginTimes.toNat := Nat.le_of_lt reached
    simp [different, wait, reached, within]
  · by_cases same : attempts = settings.loginTimes.toNat
    · have equal : (i == settings.loginTimes) = true := by
        rw [compared]
        omega
      simp [equal, reached]
    · have beyond : ¬ attempts ≤ settings.loginTimes.toNat := by omega
      simp [wait, reached, beyond]

theorem Counts.next {i waitTimeout : UInt64} (counts : Counts settings attempts i waitTimeout) :
    Counts settings (attempts + 1) (i + 1) (settings.waitOf attempts) where
  counter := by
    rw [UInt64.toNat_add, counts.counter]
    simp
  wait := by
    unfold LoginSettings.waitOf
    rfl

private theorem counts_round {i waitTimeout : UInt64} (connected : Bool)
    (counts : Counts settings (attemptsSince record) i waitTimeout) :
    Counts settings (if connected then attemptsSince record else 0)
        (LoginLoop.waits settings connected i waitTimeout).1
        (if connected then waitTimeout else settings.loginIntervals) ∧
      (LoginLoop.waits settings connected i waitTimeout).2 =
        settings.waitOf (if connected then attemptsSince record else 0) := by
  cases connected with
  | true => exact ⟨counts, counts.waited⟩
  | false => exact ⟨.start, Counts.start.waited⟩

structure Scheduled (settings : LoginSettings) (loop : LoginLoop) (record : LoginRecord) : Prop where
  rule : EveryAttempt (WaitedByRule settings) record
  counts : ∀ i waitTimeout, loop.place = .round i waitTimeout →
    Counts settings (attemptsSince record) i waitTimeout

theorem Scheduled.begins {loop : LoginLoop} (outside : loop.place = .outside) :
    Scheduled settings loop [] where
  rule := .empty
  counts := by
    intro i waitTimeout standing
    cases outside.symm.trans standing

private theorem Scheduled.rule_round {i waitTimeout : UInt64}
    (scheduled : Scheduled settings loop record)
    (standing : loop.place = .round i waitTimeout) (connected : Bool) (now : Tm)
    (status : ResponseReaderStatus) (stamp : Tm) :
    EveryAttempt (WaitedByRule settings)
      (loop.noted settings (.attempt connected now status stamp) ++ record) := by
  obtain ⟨-, waited⟩ := counts_round connected (scheduled.counts i waitTimeout standing)
  rw [LoginLoop.noted_round standing]
  apply scheduled.rule.attempt
  cases connected <;> exact waited

theorem Scheduled.step (scheduled : Scheduled settings loop record)
    (stepped : loop.step settings label = some after) :
    Scheduled settings after (loop.noted settings label ++ record) := by
  cases LoginLoop.step_cases stepped with
  | enters standing =>
    refine ⟨scheduled.rule.call, fun i waitTimeout there => ?_⟩
    cases there
    exact .start
  | @again _ _ _ connected _ _ standing _ =>
    refine ⟨scheduled.rule_round standing _ _ _ _, fun i waitTimeout there => ?_⟩
    obtain ⟨counts, waited⟩ := counts_round connected (scheduled.counts _ _ standing)
    have later := counts.next
    cases there
    rw [LoginLoop.noted_round standing, waited]
    cases connected <;> exact later
  | succeeds standing | throws standing =>
    refine ⟨scheduled.rule_round standing _ _ _ _, fun i waitTimeout there => ?_⟩
    cases there
  | connectThrew | sendThrew => exact ⟨scheduled.rule, fun i waitTimeout there => (by cases there)⟩

/-- How a round that waits ends: normally only with a positive answer, by an exception
only with a negative one or an unexpected status, and otherwise with another round. -/
theorem LoginLoop.attempt_ends
    (stepped : loop.step settings (.attempt connected now status stamp) = some after) :
    (after.place = .outside ↔ status = .responseOk) ∧
      (after.place = .threw ↔ status = .responseNotOk ∨ status = .init) := by
  cases LoginLoop.step_cases stepped with
  | again standing unanswered => rcases unanswered with rfl | rfl | rfl <;> simp
  | succeeds standing => simp
  | throws standing unexpected => rcases unexpected with rfl | rfl <;> simp

/-- A round is added to the record, unless the socket throws in it. -/
theorem loginLoop_round {recorded next : Recorded LoginLoop LoginRecord} {i waitTimeout : UInt64}
    (standing : recorded.state.place = .round i waitTimeout)
    (stepped : (loginLoop settings epoch).step recorded label = some next) :
    (∃ connected now status stamp, label = .attempt connected now status stamp ∧
      recorded.state.step settings (.attempt connected now status stamp) = some next.state ∧
      next.log = some ⟨!connected, (LoginLoop.waits settings connected i waitTimeout).2,
        recorded.state.checked settings now, now, status, stamp⟩ :: recorded.log) ∨
    (label = .connectThrows ∨ ∃ now, label = .sendThrows now) ∧
      next.state.place = .threw ∧ next.log = recorded.log := by
  obtain ⟨after, kept, rfl⟩ := Option.map_eq_some_iff.mp stepped
  have moved : recorded.state.step settings label = some after := kept
  cases label with
  | enter => simp [LoginLoop.step, standing] at moved
  | attempt connected now status stamp =>
    refine .inl ⟨connected, now, status, stamp, rfl, moved, ?_⟩
    exact congrArg (· ++ recorded.log) (LoginLoop.noted_round standing connected now status stamp)
  | connectThrows =>
    cases LoginLoop.step_cases moved
    exact .inr ⟨.inl rfl, rfl, rfl⟩
  | sendThrows now =>
    cases LoginLoop.step_cases moved
    exact .inr ⟨.inr ⟨now, rfl⟩, rfl, rfl⟩

end Schedule

/-- Every attempt of every run waits as long as the rule says, counted from the latest
connection that the loop has made, or from its start. The loop ends normally only with a
positive answer. It ends by an exception only with a negative one or an unexpected status,
or else because the socket has thrown, in a round that has not come to its wait. -/
theorem login_schedule (settings : LoginSettings) (epoch : Tm)
    {recorded : Recorded LoginLoop LoginRecord}
    (reach : Reachable (loginLoop settings epoch) recorded) :
    EveryAttempt (WaitedByRule settings) recorded.log ∧
      ∀ label after i waitTimeout, recorded.state.place = .round i waitTimeout →
        (loginLoop settings epoch).step recorded label = some after →
        (∃ made, after.log = some made :: recorded.log ∧
          (after.state.place = .outside ↔ made.status = .responseOk) ∧
          (after.state.place = .threw ↔ made.status = .responseNotOk ∨ made.status = .init)) ∨
        (label = .connectThrows ∨ ∃ now, label = .sendThrows now) ∧
          after.state.place = .threw ∧ after.log = recorded.log := by
  have unguardedReach : Reach (loginLoop settings epoch) (Recorded.onState unguarded) recorded := reach
  have scheduled : Scheduled settings recorded.state recorded.log := by
    refine (Reach.recorded (Scheduled settings) unguardedReach ?_ ?_).2
    · intro state started
      subst started
      exact .begins rfl
    · intro state log label after _ scheduled _ stepped
      exact scheduled.step stepped
  refine ⟨scheduled.rule, fun label after i waitTimeout standing stepped => ?_⟩
  rcases loginLoop_round standing stepped with ⟨connected, now, status, stamp, -, moved, logged⟩ | threw
  · exact .inl ⟨_, logged, LoginLoop.attempt_ends moved⟩
  · exact .inr threw

/-- Two attempts on the first connection, two more after a reconnection, and the answer. -/
theorem login_schedule_reconnects :
    ∃ recorded, Reachable (loginLoop ⟨1, 60, 1800, 9⟩ ⟨70, 0, 1⟩) recorded ∧
      recorded.log.map (Option.map LoginAttempt.waited) =
        [some 1800, some 60, some 1800, some 60, none] ∧
      EveryAttempt (WaitedByRule ⟨1, 60, 1800, 9⟩) recorded.log := by
  let today : Tm := ⟨117, 6, 1⟩
  have initial : Reachable (loginLoop ⟨1, 60, 1800, 9⟩ ⟨70, 0, 1⟩) ⟨⟨.outside, 1, ⟨70, 0, 1⟩⟩, []⟩ :=
    .start ⟨rfl, rfl⟩
  obtain ⟨recorded, reach, waited⟩ := initial.exists_of_schedule
    (fun recorded => recorded.log.map (Option.map LoginAttempt.waited) =
      [some 1800, some 60, some 1800, some 60, none])
    [.enter, .attempt true today .timeout today, .attempt true today .connectionClosed today,
      .attempt false today .responseFormatErr today, .attempt true today .responseOk today] (by decide)
  exact ⟨recorded, reach, waited, (login_schedule _ _ reach).1⟩

/-- The loop is left by an exception after one attempt, which has timed out: the connection
was lost meanwhile, and the attempt to make another one throws. -/
theorem login_connect_throws :
    ∃ recorded, Reachable (loginLoop ⟨3, 60, 1800, 9⟩ ⟨70, 0, 1⟩) recorded ∧
      recorded.state.place = .threw ∧
      recorded.log.map (Option.map LoginAttempt.status) = [some .timeout, none] := by
  let today : Tm := ⟨117, 6, 1⟩
  have initial : Reachable (loginLoop ⟨3, 60, 1800, 9⟩ ⟨70, 0, 1⟩) ⟨⟨.outside, 1, ⟨70, 0, 1⟩⟩, []⟩ :=
    .start ⟨rfl, rfl⟩
  exact initial.exists_of_schedule
    (fun recorded => recorded.state.place = .threw ∧
      recorded.log.map (Option.map LoginAttempt.status) = [some .timeout, none])
    [.enter, .attempt true today .timeout today, .connectThrows] (by decide)

end MotorInfoUpload
