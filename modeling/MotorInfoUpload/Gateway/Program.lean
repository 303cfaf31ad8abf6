import MotorInfoUpload.Gateway.Delivery
import MotorInfoUpload.Forwarder.Backlog
import MotorInfoUpload.Forwarder.Trapped

/-! The process: `main` starts the first uploader and the service thread, waits for a signal,
stops the service and joins its thread. What the uploaders do goes on until `main` returns. -/

namespace MotorInfoUpload

open Machine

/-- Where `main` stands: at its first uploader, before `quit.wait`, in it, behind it, in
`TcpServiceThread.join`, or at the end of the process. -/
inductive MainAt where
  | starting
  | serving
  | waiting
  | stopping
  | joining
  | returned
deriving DecidableEq

/-- Where the thread of `tcpServiceTask` stands: in the constructor of the server, in
`io_service::run`, or behind it. -/
inductive TcpServiceThread where
  | unstarted
  | opening
  | running
  | ended
deriving DecidableEq

structure Program (Id : Type) (n : Nat) where
  gateway : Gateway Id n
  main : MainAt
  thread : TcpServiceThread
  stopped : Bool

/-- A step of the process: of the gateway, of `main`, or of the service thread outside its
handlers. `quits` is a signal that `signal_handler` answers with `quit.notify_all ()`, and
`wakes` a spurious wake-up. -/
inductive ProgramEvent (Id : Type) (n : Nat) where
  | gateway (event : GatewayEvent Id n)
  | main
  | quits
  | wakes
  | listens
  | portTaken
  | acceptFails
  | leaves

/-- The event begins a handler, which only `io_service::run` does. -/
def GatewayEvent.begins {Id : Type} {n : Nat} : GatewayEvent Id n → Prop
  | .service event => event.handler
  | .forward _ => False

instance {Id : Type} {n : Nat} (event : GatewayEvent Id n) : Decidable event.begins :=
  match event with
  | .service event => inferInstanceAs (Decidable event.handler)
  | .forward _ => .isFalse id

variable {Id : Type} [DecidableEq Id] {n : Nat} [ByteBufferApi]

namespace Program

/-- A step of `main`. -/
def mainStep (program : Program Id n) : Option (Program Id n) :=
  match program.main with
  | .starting =>
    if 0 < program.gateway.forwarder.pool then
      some { program with main := .serving, thread := .opening }
    else none
  | .serving => some { program with main := .waiting }
  | .stopping => some { program with main := .joining, stopped := true }
  | .joining => if program.thread = .ended then some { program with main := .returned } else none
  | .waiting | .returned => none

/-- `io_service::run` begins no handler after a stop, and returns when the last one is done. A
notification is lost unless `main` waits for it. -/
def step (settings : Settings) (program : Program Id n) :
    ProgramEvent Id n → Option (Program Id n)
  | .gateway event =>
    if program.main ≠ .returned ∧
        (event.begins → program.thread = .running ∧ program.stopped = false) then
      (program.gateway.step settings event).map fun gateway => { program with gateway }
    else none
  | .main => program.mainStep
  | .quits => match program.main with
    | .waiting => some { program with main := .stopping }
    | .serving | .stopping | .joining => some program
    | .starting | .returned => none
  | .wakes => if program.main = .waiting then some { program with main := .stopping } else none
  | .listens => if program.thread = .opening then some { program with thread := .running } else none
  | .portTaken => if program.thread = .opening then some { program with thread := .ended } else none
  | .acceptFails =>
    if program.thread = .running ∧ program.stopped = false ∧
        program.gateway.forwarder.service = .idle then
      some { program with stopped := true }
    else none
  | .leaves =>
    if program.thread = .running ∧ program.stopped = true ∧
        program.gateway.forwarder.service = .idle then
      some { program with thread := .ended }
    else none

inductive Move (settings : Settings) (before : Program Id n) :
    ProgramEvent Id n → Program Id n → Prop where
  | gateway {gateway : Gateway Id n} (lives : before.main ≠ .returned)
      (runs : event.begins → before.thread = .running ∧ before.stopped = false)
      (stepped : before.gateway.step settings event = some gateway) :
      Move settings before (.gateway event) { before with gateway }
  | begins (standing : before.main = .starting) :
      Move settings before .main { before with main := .serving, thread := .opening }
  | waits (standing : before.main = .serving) :
      Move settings before .main { before with main := .waiting }
  | stops (standing : before.main = .stopping) :
      Move settings before .main { before with main := .joining, stopped := true }
  | joined (standing : before.main = .joining) (ended : before.thread = .ended) :
      Move settings before .main { before with main := .returned }
  | woken (standing : before.main = .waiting) :
      Move settings before event { before with main := .stopping }
  | lost (later : before.main ≠ .returned) : Move settings before .quits before
  | listens (opening : before.thread = .opening) :
      Move settings before .listens { before with thread := .running }
  | portTaken (opening : before.thread = .opening) :
      Move settings before .portTaken { before with thread := .ended }
  | acceptFails (running : before.thread = .running)
      (idle : before.gateway.forwarder.service = .idle) :
      Move settings before .acceptFails { before with stopped := true }
  | leaves (running : before.thread = .running) (stopped : before.stopped = true)
      (idle : before.gateway.forwarder.service = .idle) :
      Move settings before .leaves { before with thread := .ended }

theorem step_cases {settings : Settings} {before after : Program Id n}
    {event : ProgramEvent Id n} (stepped : before.step settings event = some after) :
    Move settings before event after := by
  unfold step at stepped
  split at stepped
  · split at stepped
    · rename_i able
      obtain ⟨gateway, moved, same⟩ := Option.map_eq_some_iff.mp stepped
      cases same
      exact .gateway able.1 able.2 moved
    · cases stepped
  · unfold mainStep at stepped
    split at stepped
    · rename_i standing
      split at stepped <;> cases stepped
      exact .begins standing
    · rename_i standing
      cases stepped
      exact .waits standing
    · rename_i standing
      cases stepped
      exact .stops standing
    · rename_i standing
      split at stepped
      · rename_i ended
        cases stepped
        exact .joined standing ended
      · cases stepped
    · cases stepped
    · cases stepped
  · split at stepped
    · rename_i standing
      cases stepped
      exact .woken standing
    all_goals
      rename_i standing
      cases stepped
    all_goals exact .lost (by simp [standing])
  · split at stepped
    · rename_i standing
      cases stepped
      exact .woken standing
    · cases stepped
  · split at stepped
    · rename_i opening
      cases stepped
      exact .listens opening
    · cases stepped
  · split at stepped
    · rename_i opening
      cases stepped
      exact .portTaken opening
    · cases stepped
  · split at stepped
    · rename_i able
      cases stepped
      exact .acceptFails able.1 able.2.2
    · cases stepped
  · split at stepped
    · rename_i able
      cases stepped
      exact .leaves able.1 able.2.1 able.2.2
    · cases stepped

end Program

/-- The process, before `main` has started anything. -/
def process (Id : Type) [DecidableEq Id] (settings : Settings) (n maxVehicleDataQueueSize : Nat) :
    Automaton (Program Id n) (ProgramEvent Id n) where
  start program := (gateway Id settings n maxVehicleDataQueueSize).start program.gateway ∧
    program.main = .starting ∧ program.thread = .unstarted ∧ program.stopped = false
  step := Program.step settings

def Program.FailsWhole (program : Program Id n) : ProgramEvent Id n → Prop
  | .gateway event => program.gateway.FailsWhole event
  | _ => True

instance (program : Program Id n) (event : ProgramEvent Id n) :
    Decidable (program.FailsWhole event) :=
  match event with
  | .gateway _ => inferInstanceAs (Decidable (program.gateway.FailsWhole _))
  | .main | .quits | .wakes | .listens | .portTaken | .acceptFails | .leaves => .isTrue trivial

variable {settings : Settings} {capacity : Nat} {guard : Program Id n → ProgramEvent Id n → Prop}
  {program : Program Id n}

theorem process_gateway {within : Gateway Id n → GatewayEvent Id n → Prop}
    (reach : Reach (process Id settings n capacity) guard program)
    (allows : ∀ program event, guard program (.gateway event) → within program.gateway event) :
    Reach (gateway Id settings n capacity) within program.gateway := by
  apply reach.projected Program.gateway fun start initial => initial.1
  intro before event after _ allowed stepped
  cases Program.step_cases stepped with
  | gateway lives runs moved => exact .inr ⟨_, allows _ _ allowed, moved⟩
  | _ => exact .inl rfl

theorem process_forwarder [LawfulByteBuffer]
    (reach : Reach (process Id settings n capacity) Program.FailsWhole program) :
    Reach (forwarder n capacity) MotorInfoUpload.FailsWhole program.gateway.forwarder := by
  have running : Reach (gateway Id settings n capacity) Gateway.FailsWhole program.gateway :=
    process_gateway reach fun _ _ whole => whole
  exact gateway_forwarder_within running (fun _ _ => trivial) fun _ _ whole => whole

theorem Gateway.step_idle {before after : Gateway Id n} {event : GatewayEvent Id n}
    (idle : ¬ event.begins) (stepped : before.step settings event = some after) :
    after.forwarder.accepted = before.forwarder.accepted ∧
      (before.forwarder.service = .idle → after.forwarder.service = .idle) := by
  cases Gateway.step_cases stepped with
  | @service event =>
    cases event with
    | accept | handle | timeout | writeDone | writeFailed => exact absurd trivial idle
    | arrive | breaks | expire | respond => exact ⟨rfl, id⟩
  | @forward action forwarder inner moved =>
    cases State.step_cases moved with
    | accept => exact absurd rfl (inner _)
    | service moved =>
      cases moved with
      | found standing | missed standing | offline standing | drained standing | draining standing
      | drainSleeps standing | drainTook standing | drainFull standing | drainStored standing
      | reissueFull standing | realtimeFull standing =>
        refine ⟨rfl, fun resting => ?_⟩
        rw [resting] at standing
        cases standing
      | reissueStored | realtimeStored => exact ⟨rfl, fun _ => rfl⟩
    | outside standing moved => cases moved <;> exact ⟨rfl, id⟩
    | upload moved => cases moved <;> exact ⟨rfl, id⟩
    | _ => exact ⟨rfl, id⟩

namespace Program

/-- Outside `io_service::run` the service thread has no packet, and `main` returns after it. -/
structure Orderly (program : Program Id n) : Prop where
  unstarted : program.main = .starting → program.thread = .unstarted
  started : program.main ≠ .starting → program.thread ≠ .unstarted
  told : program.main = .joining → program.stopped = true
  idle : program.thread ≠ .running → program.gateway.forwarder.service = .idle
  behind : program.main = .returned → program.thread = .ended

theorem orderly_of_reach (reach : Reach (process Id settings n capacity) guard program) :
    program.Orderly := by
  apply reach.invariant
  · rintro program ⟨⟨-, initial⟩, starting, unstarted, -⟩
    refine ⟨fun _ => unstarted, fun later => absurd starting later, ?_, fun _ => ?_, ?_⟩
    · simp [starting]
    · rw [initial]
      rfl
    · simp [starting]
  · intro before event after orderly _ stepped
    obtain ⟨unstarted, started, told, idle, behind⟩ := orderly
    cases step_cases stepped with
    | gateway lives runs moved =>
      refine ⟨unstarted, started, told, fun elsewhere => ?_, behind⟩
      have quiet := Gateway.step_idle (fun begins => elsewhere (runs begins).1) moved
      exact quiet.2 (idle elsewhere)
    | begins standing =>
      refine ⟨nofun, nofun, nofun, fun _ => idle ?_, nofun⟩
      simp [unstarted standing]
    | waits standing | woken standing =>
      exact ⟨nofun, fun _ => started (by simp [standing]), nofun, idle, nofun⟩
    | stops standing => exact ⟨nofun, fun _ => started (by simp [standing]), fun _ => rfl, idle, nofun⟩
    | joined standing ended =>
      exact ⟨nofun, fun _ => started (by simp [standing]), nofun, idle, fun _ => ended⟩
    | lost => exact ⟨unstarted, started, told, idle, behind⟩
    | acceptFails => exact ⟨unstarted, started, fun _ => rfl, idle, behind⟩
    | listens opening =>
      refine ⟨fun starting => ?_, nofun, told, fun elsewhere => absurd rfl elsewhere,
        fun returned => ?_⟩
      · simp [unstarted starting] at opening
      · simp [behind returned] at opening
    | portTaken opening =>
      refine ⟨fun starting => ?_, nofun, told, fun _ => idle (by simp [opening]), fun _ => rfl⟩
      simp [unstarted starting] at opening
    | leaves running stopped resting =>
      refine ⟨fun starting => ?_, nofun, told, fun _ => resting, fun _ => rfl⟩
      simp [unstarted starting] at running

end Program

/-- A stop of the service is final: in every later state no packet has been accepted since. And
when `main` returns, the service thread has put down what it had in its hands, so that what the
end of the process loses is in a queue or in the hands of an uploader: each packet that was
accepted and not written, once, and no more than two full queues and one for each uploader. -/
theorem shutdown_accounts [LawfulByteBuffer] {before after : Program Id n}
    (reach : Reach (process Id settings n capacity) Program.FailsWhole before)
    (stopped : before.stopped = true)
    (later : Reach ((process Id settings n capacity).startingAt before) Program.FailsWhole after) :
    after.gateway.forwarder.accepted = before.gateway.forwarder.accepted ∧
    (after.main = .returned →
      ((after.gateway.forwarder.written ++ after.gateway.forwarder.realtime.queue ++
          after.gateway.forwarder.reissue.queue ++
          after.gateway.forwarder.uploading).map Packet.seq).Perm
        (List.range before.gateway.forwarder.accepted.length) ∧
      before.gateway.forwarder.accepted.length ≤
        after.gateway.forwarder.written.length + 2 * capacity + n) := by
  have kept : after.stopped = true ∧
      after.gateway.forwarder.accepted = before.gateway.forwarder.accepted := by
    apply later.invariant
    · rintro start rfl
      exact ⟨stopped, rfl⟩
    · rintro middle event next ⟨still, same⟩ _ stepped
      cases Program.step_cases stepped with
      | gateway lives runs moved =>
        have quiet := Gateway.step_idle (fun begins => by simp [still] at runs; exact runs begins) moved
        exact ⟨still, quiet.1.trans same⟩
      | stops | acceptFails => exact ⟨rfl, same⟩
      | _ => exact ⟨still, same⟩
  refine ⟨kept.2, fun returned => ?_⟩
  have whole := reach.append later fun _ _ allowed => allowed
  have orderly := Program.orderly_of_reach whole
  have idle := orderly.idle (by simp [orderly.behind returned])
  have running := process_forwarder whole
  have conserved := conserved_of_reach running
  have under := accepted_le running
  rw [kept.2, idle] at conserved under
  refine ⟨?_, under⟩
  simpa [ServiceAt.drained, ServiceAt.fresh] using conserved

/-- `main` starts the uploader, which logs in, and the service, to which a vehicle connects. -/
private def serves : List (ProgramEvent Nat 1) :=
  (loggedIn.map .forward).map .gateway ++ [.main, .listens, .main, .gateway (.service (.accept 0))]

omit [ByteBufferApi] in
/-- A signal comes while the login of a vehicle is handled. -/
theorem shutdown_accounts_login : ∃ before after : Program Nat 1,
    before.gateway.forwarder.accepted.length = 1 ∧ after.main = .returned ∧
      after.gateway.forwarder.written = [] ∧
      ((after.gateway.forwarder.realtime.queue ++ after.gateway.forwarder.reissue.queue ++
        after.gateway.forwarder.uploading).map Packet.seq).Perm [0] := by
  let := ByteBuffer.reference
  have := ByteBuffer.reference_lawful
  let settings : Settings := ⟨some .release, []⟩
  have initial : Reach (process Nat settings 1 5) Program.FailsWhole
      ⟨⟨.initial Nat, State.initial 1 5 settings.mode⟩, .starting, .unstarted, false⟩ :=
    .start ⟨⟨rfl, rfl⟩, rfl, rfl, rfl⟩
  obtain ⟨before, after, reach, ⟨stopped, accepted⟩, later, returned, nothing⟩ :=
    initial.exists_later
      (fun program => program.stopped = true ∧ program.gateway.forwarder.accepted.length = 1)
      (fun program => program.main = .returned ∧ program.gateway.forwarder.written = [])
      (serves ++ (sendsFrame (sampleFrame .vehicleLogin)).map .gateway ++ [.quits, .main])
      [.gateway (.forward (.service none)), .gateway (.forward (.service (some (.uploader 0)))),
        .leaves, .main] (by decide +kernel)
  have whole := ((shutdown_accounts reach stopped later).2 returned).1
  rw [accepted, nothing] at whole
  exact ⟨before, after, accepted, returned, nothing, whole⟩

theorem Gateway.step_trapped {before after : Gateway Id n} {event : GatewayEvent Id n}
    (trapped : Trapped before.forwarder) (stepped : before.step settings event = some after) :
    Trapped after.forwarder := by
  cases Gateway.step_cases stepped with
  | @service event server free moved =>
    cases event with
    | accept | handle | timeout | writeDone | writeFailed =>
      exact absurd (free trivial).1 trapped.busy
    | arrive | breaks | expire | respond => exact trapped
  | forward inner moved => exact trapped.step moved

/-- The process cannot be ended by a signal any more: once the service thread is trapped in a queue
call, it stays there, whatever the vehicles, the platform, these uploaders and the signals do that
start no further one, and `main` waits for it. -/
theorem shutdown_hangs {before after : Program Id n}
    (reach : Reach (process Id settings n capacity) guard before)
    (trapped : Trapped before.gateway.forwarder)
    (later : Reach ((process Id settings n capacity).startingAt before) guard after) :
    after.main ≠ .returned ∧ Trapped after.gateway.forwarder := by
  have still : Trapped after.gateway.forwarder := by
    apply later.invariant
    · rintro start rfl
      exact trapped
    · intro middle event next trapped _ stepped
      cases Program.step_cases stepped with
      | gateway lives runs moved => exact Gateway.step_trapped trapped moved
      | _ => exact trapped
  refine ⟨fun returned => ?_, still⟩
  have orderly := Program.orderly_of_reach (reach.append later fun _ _ allowed => allowed)
  exact still.busy (orderly.idle (by simp [orderly.behind returned]))

/-- The steps that the threads of the process take, whatever the platform answers them. -/
def ProgramEvent.ofThread : ProgramEvent Id n → Prop
  | .gateway (.forward action) => action.ofThread
  | .main | .listens | .leaves => True
  | .gateway (.service _) | .quits | .wakes | .portTaken | .acceptFails => False

def Program.Halted (settings : Settings) (program : Program Id n) : Prop :=
  ∀ event : ProgramEvent Id n, event.ofThread → program.step settings event = none

/-- While `main` waits for the service thread, the threads of the gateway can move. -/
private theorem forwarder_halted (halted : program.Halted settings) (joins : program.main = .joining) :
    MotorInfoUpload.Halted program.gateway.forwarder := by
  intro action own
  have still := halted (.gateway (.forward action)) own
  have able : program.main ≠ .returned ∧ ((GatewayEvent.forward action : GatewayEvent Id n).begins →
      program.thread = .running ∧ program.stopped = false) := ⟨by simp [joins], False.elim⟩
  simp only [Program.step, if_pos able, Option.map_eq_none_iff] at still
  cases action with
  | accept => exact own.elim
  | _ => simpa only [Gateway.step, Option.map_eq_none_iff] using still

/-- Nothing else holds up the end of the process: where `main` waits for the service thread and
no thread can move, the service thread is in a queue call that waits, and every uploader that was
started is about to end or in a queue call that waits. -/
theorem shutdown_rests [LawfulByteBuffer]
    (reach : Reach (process Id settings n capacity) guard program)
    (joins : program.main = .joining) (halted : program.Halted settings) :
    program.gateway.forwarder.service.Waits program.gateway.forwarder.realtime
        program.gateway.forwarder.reissue ∧
      ∀ i, program.gateway.forwarder.uploader i = .outside .unstarted ∨
        (program.gateway.forwarder.uploader i).Waits program.gateway.forwarder.realtime
          program.gateway.forwarder.reissue := by
  have orderly := Program.orderly_of_reach reach
  have gateway : Reach (gateway Id settings n capacity) unguarded program.gateway :=
    process_gateway reach fun _ _ _ => trivial
  have halts := forwarder_halted halted joins
  have main := halted .main trivial
  have listens := halted .listens trivial
  have leaves := halted .leaves trivial
  simp only [Program.step, Program.mainStep, joins, ite_eq_right_iff, reduceCtorEq, imp_false,
    orderly.told joins, not_and, true_implies] at main listens leaves
  have running : program.thread = .running := by
    cases thread : program.thread with
    | unstarted => exact absurd thread (orderly.started (by simp [joins]))
    | opening => exact absurd thread listens
    | running => rfl
    | ended => exact absurd thread main
  refine ⟨?_, fun i => ?_⟩
  · rcases rests_of_halted halts .service with rests | ⟨name, request, calling⟩
    · exact absurd rests (leaves running)
    · exact ServiceAt.waits_of_call calling
        (waits_of_halted (gateway_forwarder gateway) halts calling)
  · rcases rests_of_halted halts (.uploader i) with (unstarted | stopped) | ⟨name, request, calling⟩
    · exact .inl unstarted
    · exact .inr (by rw [stopped]; trivial)
    · exact .inr (UploaderAt.waits_of_call calling
        (waits_of_halted (gateway_forwarder gateway) halts calling))

/-- The connection is lost, a packet fills the reissue queue, and the next one waits, as the
uploader does. -/
private def fills : List (ProgramEvent Nat 1) :=
  let handled : List (ProgramEvent Nat 1) := [.gateway (.forward (.service none)),
    .gateway (.forward (.service none)), .gateway (.forward (.service none)),
    .gateway (.forward (.service none))]
  serves ++ [.gateway (.forward (.drop 0))] ++
    (sendsFrame (sampleFrame .vehicleLogin)).map .gateway ++ handled ++
    (sendsFrame (sampleFrame .vehicleLogout)).map .gateway ++ handled

omit [ByteBufferApi] in
theorem shutdown_rests_full : ∃ program : Program Nat 1, program.main = .joining ∧
    program.gateway.forwarder.service.Waits program.gateway.forwarder.realtime
      program.gateway.forwarder.reissue := by
  let := ByteBuffer.reference
  have := ByteBuffer.reference_lawful
  let settings : Settings := ⟨some .release, []⟩
  have initial : Reach (process Nat settings 1 1) unguarded
      ⟨⟨.initial Nat, State.initial 1 1 settings.mode⟩, .starting, .unstarted, false⟩ :=
    .start ⟨⟨rfl, rfl⟩, rfl, rfl, rfl⟩
  obtain ⟨program, reach, joins, running, standing, takes, calling, puts⟩ :=
    initial.exists_of_schedule
      (fun program => program.main = .joining ∧ program.thread = .running ∧
        program.gateway.forwarder.uploader 0 = .takeRealtime ∧
        .uploader 0 ∈ program.gateway.forwarder.realtime.notEmpty ∧
        (program.gateway.forwarder.service.call .reissue).isSome ∧
        .service ∈ program.gateway.forwarder.reissue.notFull)
      (fills ++ [.quits, .main]) (by decide +kernel)
  have asleep : program.gateway.forwarder.reissue.asleep .service := .inr puts
  have sleeps : program.gateway.forwarder.realtime.asleep (.uploader 0) := .inl takes
  refine ⟨program, joins, (shutdown_rests reach joins fun event own => ?_).1⟩
  cases event with
  | quits | wakes | portTaken | acceptFails => exact own.elim
  | main => simp [Program.step, Program.mainStep, joins, running]
  | listens => simp [Program.step, running]
  | leaves =>
    have busy : program.gateway.forwarder.service ≠ .idle := by
      intro idle
      simp [idle, ServiceAt.call] at calling
    simp [Program.step, busy]
  | gateway event =>
    cases event with
    | service => exact own.elim
    | forward action =>
      cases action with
      | start | push | signal | accept | drop | wakeRealtime | wakeReissue => exact own.elim
      | service woken =>
        cases place : program.gateway.forwarder.service with
        | idle | checking | drainCheck | drainTake | putRealtime =>
          simp [place, ServiceAt.call] at calling
        | drainPut | putReissue =>
          simp [Program.step, Gateway.step, State.step, State.serviceStep, place, BlockQueue.put,
            asleep]
      | outside i =>
        rw [← Subsingleton.elim 0 i]
        simp [Program.step, Gateway.step, State.step, standing]
      | upload i =>
        rw [← Subsingleton.elim 0 i]
        simp [Program.step, Gateway.step, State.step, State.uploadStep, standing, BlockQueue.take,
          sleeps]
      | sent i | failed i =>
        rw [← Subsingleton.elim 0 i]
        simp [Program.step, Gateway.step, State.step, State.sendStep, standing]

omit [ByteBufferApi] in
/-- `main` is told to stop when both wait. -/
theorem shutdown_hangs_full : ∃ before after : Program Nat 1,
    before.main = .waiting ∧ after.stopped = true ∧ after.main ≠ .returned ∧
      Trapped after.gateway.forwarder := by
  let := ByteBuffer.reference
  let settings : Settings := ⟨some .release, []⟩
  have initial : Reach (process Nat settings 1 1) unguarded
      ⟨⟨.initial Nat, State.initial 1 1 settings.mode⟩, .starting, .unstarted, false⟩ :=
    .start ⟨⟨rfl, rfl⟩, rfl, rfl, rfl⟩
  obtain ⟨before, after, reach, ⟨waiting, service, uploaders⟩, later, stopped⟩ :=
    initial.exists_later
      (fun program => program.main = .waiting ∧
        program.gateway.forwarder.service.Waits program.gateway.forwarder.realtime
          program.gateway.forwarder.reissue ∧
        ∀ i, (program.gateway.forwarder.uploader i).Waits program.gateway.forwarder.realtime
          program.gateway.forwarder.reissue)
      (fun program => program.stopped = true)
      fills [.quits, .main] (by decide +kernel)
  exact ⟨before, after, waiting, stopped, shutdown_hangs reach (.together service uploaders) later⟩

end MotorInfoUpload
