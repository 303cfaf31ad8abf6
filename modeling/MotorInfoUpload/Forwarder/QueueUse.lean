import MotorInfoUpload.QueueClients
import MotorInfoUpload.Forwarder.Moves

/-! The realtime and the reissue queue as queues on their own: each thread of the system is
in at most one call of each, and what holds of a queue with any threads holds of both. -/

namespace MotorInfoUpload

open Machine BlockQueue

inductive QueueName where
  | realtime
  | reissue
deriving DecidableEq

/-- The call of the queue that the service thread is in. -/
def ServiceAt.call : ServiceAt → QueueName → Option (Request Packet)
  | .drainTake _, .realtime => some .take
  | .putRealtime packet, .realtime => some (.put packet false)
  | .drainPut _ data, .reissue => some (.put data false)
  | .putReissue packet, .reissue => some (.put packet false)
  | _, _ => none

/-- The call of the queue that an uploader is in. -/
def UploaderAt.call : UploaderAt → QueueName → Option (Request Packet)
  | .takeRealtime, .realtime => some .take
  | .takeReissue, .reissue => some .take
  | .putBack packet, .reissue => some (.put packet true)
  | _, _ => none

variable {n : Nat}

namespace State

def queue (state : State n) : QueueName → BlockQueue (Thread n) Packet
  | .realtime => state.realtime
  | .reissue => state.reissue

def call (state : State n) (name : QueueName) : Thread n → Option (Request Packet)
  | .service => state.service.call name
  | .uploader i => (state.uploader i).call name

/-- The step uses no queue in a way that the callers of a queue do not. -/
def Applies (before after : State n) (name : QueueName) (thread : Thread n) : Prop :=
  Uses thread (before.queue name) (before.call name thread) (after.call name thread)
      (after.queue name) ∧
    ∀ other, other ≠ thread → after.call name other = before.call name other

end State

section Steps

variable {before after : State n}

private theorem serviceStep_awake (stepped : before.serviceStep woken = some after)
    (calling : before.service.call name = some request) :
    ¬ (before.queue name).asleep .service := by
  cases place : before.service with
  | idle | checking | drainCheck => simp [place, ServiceAt.call] at calling
  | drainTake packet =>
    simp only [State.serviceStep, place] at stepped
    obtain ⟨turn, turned, -⟩ := Option.map_eq_some_iff.mp stepped
    cases name with
    | realtime => exact (take_cases turned).1
    | reissue => simp [place, ServiceAt.call] at calling
  | putRealtime packet =>
    simp only [State.serviceStep, place] at stepped
    obtain ⟨turn, turned, -⟩ := Option.map_eq_some_iff.mp stepped
    cases name with
    | realtime => exact (put_cases turned).1
    | reissue => simp [place, ServiceAt.call] at calling
  | drainPut packet data =>
    simp only [State.serviceStep, place] at stepped
    obtain ⟨turn, turned, -⟩ := Option.map_eq_some_iff.mp stepped
    cases name with
    | realtime => simp [place, ServiceAt.call] at calling
    | reissue => exact (put_cases turned).1
  | putReissue packet =>
    simp only [State.serviceStep, place] at stepped
    obtain ⟨turn, turned, -⟩ := Option.map_eq_some_iff.mp stepped
    cases name with
    | realtime => simp [place, ServiceAt.call] at calling
    | reissue => exact (put_cases turned).1

private theorem service_uses (moved : ServiceMove before woken after)
    (awake : ∀ name request, before.service.call name = some request →
      ¬ (before.queue name).asleep .service) (name : QueueName) :
    before.Applies after name .service := by
  have call (state : State n) : state.call name .service = state.service.call name := rfl
  refine ⟨?_, fun other different => ?_⟩
  · rw [call, call]
    cases moved with
    | found standing | missed standing | offline standing | drained standing | draining standing =>
      rw [standing]
      cases name <;> first | exact .stays | exact .enters rfl
    | drainSleeps standing nothing =>
      have awake := awake .realtime .take (by rw [standing]; rfl)
      rw [standing]
      cases name with
      | realtime => exact .takeWaits awake nothing
      | reissue => exact .stays
    | drainTook standing taken =>
      have awake := awake .realtime .take (by rw [standing]; rfl)
      rw [standing]
      cases name with
      | realtime => exact .took awake taken
      | reissue => exact .enters rfl
    | @drainFull packet data standing full =>
      have awake := awake .reissue (.put data false) (by rw [standing]; rfl)
      rw [standing]
      cases name with
      | realtime => exact .stays
      | reissue => exact .putWaits awake full
    | @drainStored packet data _ standing stored =>
      have awake := awake .reissue (.put data false) (by rw [standing]; rfl)
      rw [standing]
      cases name with
      | realtime => exact .stays
      | reissue => exact .stored awake stored
    | @reissueFull packet standing full =>
      have awake := awake .reissue (.put packet false) (by rw [standing]; rfl)
      rw [standing]
      cases name with
      | realtime => exact .stays
      | reissue => exact .putWaits awake full
    | @reissueStored packet _ standing stored =>
      have awake := awake .reissue (.put packet false) (by rw [standing]; rfl)
      rw [standing]
      cases name with
      | realtime => exact .stays
      | reissue => exact .stored awake stored
    | @realtimeFull packet standing full =>
      have awake := awake .realtime (.put packet false) (by rw [standing]; rfl)
      rw [standing]
      cases name with
      | realtime => exact .putWaits awake full
      | reissue => exact .stays
    | @realtimeStored packet _ standing stored =>
      have awake := awake .realtime (.put packet false) (by rw [standing]; rfl)
      rw [standing]
      cases name with
      | realtime => exact .stored awake stored
      | reissue => exact .stays
  · cases other with
    | service => exact absurd rfl different
    | uploader i => cases moved <;> rfl

private theorem uploader_uses (i : Fin n) (place : UploaderAt)
    (used : ∀ name, Uses (.uploader i) (before.queue name) ((before.uploader i).call name)
      (place.call name) (after.queue name)) (name : QueueName)
    (moved : after.uploader = Function.update before.uploader i place := by rfl)
    (service : after.service = before.service := by rfl) :
    before.Applies after name (.uploader i) := by
  refine ⟨?_, fun other different => ?_⟩
  · have here : after.call name (.uploader i) = place.call name := by
      simp [State.call, moved]
    exact here ▸ used name
  · cases other with
    | service => exact congrArg (ServiceAt.call · name) service
    | uploader j =>
      have different : j ≠ i := fun same => different (same ▸ rfl)
      simp [State.call, moved, different]

private theorem unmoved_uses (i : Fin n)
    (used : ∀ name, Uses (.uploader i) (before.queue name) ((before.uploader i).call name)
      ((before.uploader i).call name) (after.queue name)) (name : QueueName)
    (moved : after.uploader = before.uploader := by rfl)
    (service : after.service = before.service := by rfl) :
    before.Applies after name (.uploader i) :=
  uploader_uses i (before.uploader i) used name (by rw [moved, Function.update_eq_self]) service

private theorem outside_uses (standing : before.uploader i = .outside place)
    (moved : OutsideMove before i place after) (name : QueueName) :
    before.Applies after name (.uploader i) := by
  cases moved with
  | walks next | closes next =>
    refine uploader_uses i (.outside next) (fun name => ?_) name
    rw [standing]
    cases name <;> exact .stays
  | enters ready =>
    refine uploader_uses i .select (fun name => ?_) name
    rw [standing]
    cases name <;> exact .stays
  | connects calling down =>
    refine unmoved_uses i (fun name => ?_) name
    cases name <;> exact .stays
  | online waited =>
    refine uploader_uses i (.outside .check) (fun name => ?_) name
    rw [standing]
    cases name <;> exact .stays

variable [ByteBufferApi]

omit [ByteBufferApi] in
private theorem reissue_uses (i : Fin n) (place : UploaderAt) {left : BlockQueue (Thread n) Packet}
    (standing : (before.uploader i).call .realtime = none) (leads : place.call .realtime = none)
    (used : Uses (.uploader i) before.reissue ((before.uploader i).call .reissue)
      (place.call .reissue) left) (name : QueueName) :
    before.Applies { before.move i place with reissue := left } name (.uploader i) := by
  refine uploader_uses i place (fun name => ?_) name
  cases name with
  | realtime =>
    rw [standing, leads]
    exact .stays
  | reissue => exact used

private theorem uploadStep_awake (stepped : before.uploadStep i woken = some after)
    (calling : (before.uploader i).call name = some request) :
    ¬ (before.queue name).asleep (.uploader i) := by
  cases place : before.uploader i with
  | outside | select | loaded | sending => simp [place, UploaderAt.call] at calling
  | takeRealtime =>
    simp only [State.uploadStep, place] at stepped
    obtain ⟨turn, turned, -⟩ := Option.map_eq_some_iff.mp stepped
    cases name with
    | realtime => exact (take_cases turned).1
    | reissue => simp [place, UploaderAt.call] at calling
  | takeReissue =>
    simp only [State.uploadStep, place] at stepped
    obtain ⟨turn, turned, -⟩ := Option.map_eq_some_iff.mp stepped
    cases name with
    | realtime => simp [place, UploaderAt.call] at calling
    | reissue => exact (take_cases turned).1
  | putBack packet =>
    simp only [State.uploadStep, place] at stepped
    obtain ⟨turn, turned, -⟩ := Option.map_eq_some_iff.mp stepped
    cases name with
    | realtime => simp [place, UploaderAt.call] at calling
    | reissue => exact (put_cases turned).1

private theorem upload_uses (moved : UploadMove before i woken after)
    (awake : ∀ name request, (before.uploader i).call name = some request →
      ¬ (before.queue name).asleep (.uploader i)) (name : QueueName) :
    before.Applies after name (.uploader i) := by
  cases moved with
  | toRealtime standing nothing =>
    refine uploader_uses i .takeRealtime (fun name => ?_) name
    rw [standing]
    cases name with
    | realtime => exact .enters rfl
    | reissue => exact .stays
  | toReissue standing more =>
    refine uploader_uses i .takeReissue (fun name => ?_) name
    rw [standing]
    cases name with
    | realtime => exact .stays
    | reissue => exact .enters rfl
  | @goesOn packet standing more =>
    refine uploader_uses i (.sending packet) (fun name => ?_) name
    rw [standing]
    cases name <;> exact .stays
  | skips standing nothing =>
    refine uploader_uses i (.outside .top) (fun name => ?_) name
    rw [standing]
    cases name <;> exact .stays
  | illegal standing other =>
    refine uploader_uses i (.outside .closing) (fun name => ?_) name
    rw [standing]
    cases name <;> exact .stays
  | realtimeSleeps standing nothing =>
    have awake := awake .realtime .take (by rw [standing]; rfl)
    refine unmoved_uses i (fun name => ?_) name
    rw [standing]
    cases name with
    | realtime => exact .takeWaits awake nothing
    | reissue => exact .stays
  | reissueSleeps standing nothing =>
    have awake := awake .reissue .take (by rw [standing]; rfl)
    refine unmoved_uses i (fun name => ?_) name
    rw [standing]
    cases name with
    | realtime => exact .stays
    | reissue => exact .takeWaits awake nothing
  | @putBackFull packet standing full =>
    have awake := awake .reissue (.put packet true) (by rw [standing]; rfl)
    refine unmoved_uses i (fun name => ?_) name
    rw [standing]
    cases name with
    | realtime => exact .stays
    | reissue => exact .putWaits awake full
  | @realtimeTook realtime data standing taken =>
    have awake := awake .realtime .take (by rw [standing]; rfl)
    refine uploader_uses i (.loaded data) (fun name => ?_) name
    rw [standing]
    cases name with
    | realtime => exact .took awake taken
    | reissue => exact .stays
  | @reissueTook reissue data buf standing taken marked =>
    have awake := awake .reissue .take (by rw [standing]; rfl)
    refine reissue_uses i (.loaded { data with buf }) (by rw [standing]; rfl) rfl ?_ name
    rw [standing]
    exact .took awake taken
  | reissueSpoilt standing taken refused =>
    have awake := awake .reissue .take (by rw [standing]; rfl)
    refine reissue_uses i (.outside .closing) (by rw [standing]; rfl) rfl ?_ name
    rw [standing]
    exact .took awake taken
  | @putBackStored packet reissue standing stored =>
    have awake := awake .reissue (.put packet true) (by rw [standing]; rfl)
    refine reissue_uses i (.outside .top) (by rw [standing]; rfl) rfl ?_ name
    rw [standing]
    exact .stored awake stored

/-- In one step, one thread makes one move with each of the queues, or none. -/
theorem State.step_uses {action : Action n} (stepped : before.step action = some after)
    (name : QueueName) : ∃ thread, before.Applies after name thread := by
  have moved := State.step_cases stepped
  have still {changed : State n} (uploader : changed.uploader = before.uploader)
      (service : changed.service.call name = before.service.call name)
      (used : Uses .service (before.queue name) (before.service.call name)
        (changed.service.call name) (changed.queue name)) :
      before.Applies changed name .service := by
    refine ⟨used, fun other different => ?_⟩
    cases other with
    | service => exact service
    | uploader j => exact congrArg (UploaderAt.call · name) (congrFun uploader j)
  cases moved with
  | @start i fresh =>
    refine ⟨.uploader i, uploader_uses i (.outside .starting) (fun name => ?_) name⟩
    rw [fresh]
    cases name <;> exact .stays
  | push | signal | drop => exact ⟨.service, still rfl rfl (by cases name <;> exact .stays)⟩
  | accept free =>
    have same : before.service.call name = none := by rw [free]; rfl
    exact ⟨.service, still rfl same.symm (by rw [same]; cases name <;> exact .stays)⟩
  | service moved =>
    exact ⟨.service, service_uses moved (fun name request => serviceStep_awake stepped) name⟩
  | outside standing moved => exact ⟨_, outside_uses standing moved name⟩
  | upload moved =>
    exact ⟨_, upload_uses moved (fun name request => uploadStep_awake stepped) name⟩
  | @sent i packet standing legal =>
    refine ⟨.uploader i, uploader_uses i (.outside .top) (fun name => ?_) name⟩
    rw [standing]
    cases name <;> exact .stays
  | @failed i packet progress standing legal room =>
    refine ⟨.uploader i, uploader_uses i
      (.putBack { packet with buf := packet.buf.advance progress room }) (fun name => ?_) name⟩
    rw [standing]
    cases name with
    | realtime => exact .stays
    | reissue => exact .enters rfl
  | wakeRealtime woken =>
    refine ⟨.service, still rfl rfl ?_⟩
    cases name with
    | realtime => exact .woke woken
    | reissue => exact .stays
  | wakeReissue woken =>
    refine ⟨.service, still rfl rfl ?_⟩
    cases name with
    | realtime => exact .stays
    | reissue => exact .woke woken

end Steps

theorem State.start_uses [ByteBufferApi] {capacity : Nat} (name : QueueName) (state : State n)
    (started : (forwarder n capacity).start state) :
    state.queue name = .empty capacity ∧ ∀ thread, state.call name thread = none := by
  obtain ⟨mode, rfl⟩ := started
  refine ⟨by cases name <;> rfl, fun thread => ?_⟩
  cases thread <;> rfl

section Runs

variable [ByteBufferApi] {state : State n} {capacity : Nat}

/-- Each of the two queues is one that threads use with puts and untimed takes. -/
theorem queue_refines (reach : Reachable (forwarder n capacity) state) (name : QueueName) :
    ∃ users, Reachable (threads (Thread n) Packet capacity Request.putOrTake) users ∧
      Serves (state.queue name) (state.call name) users :=
  BlockQueue.served_of_reach reach (·.queue name) (·.call name) (State.start_uses name)
    fun _ _ _ stepped => State.step_uses stepped name

/-- `main` starts uploader `i`, which connects, logs in and sleeps on the realtime queue. -/
def readies (i : Fin n) : List (Action n) :=
  [.start i, .push, .outside i .next, .outside i .next, .outside i .next, .outside i .next,
    .outside i .connects, .outside i .next, .outside i .next,
    .outside i (.answered .responseOk), .upload i none, .upload i none]

omit [ByteBufferApi] in
/-- The uploader's sleep on the realtime queue is one of the threads of that queue. -/
theorem queue_refines_ready :
    ∃ (state : State 1) (users : Threads (Thread 1) Packet),
      Reachable (threads (Thread 1) Packet 1 Request.putOrTake) users ∧
      Serves state.realtime (state.call .realtime) users ∧
      users.queue.notEmpty = [.uploader 0] := by
  let := ByteBuffer.reference
  have initial : Reachable (forwarder 1 1) (State.initial 1 1 (some .release)) := .start ⟨_, rfl⟩
  obtain ⟨state, reach, asleep⟩ := initial.exists_of_schedule
    (fun state => state.realtime.notEmpty = [.uploader 0]) (readies 0) (by decide +kernel)
  obtain ⟨users, reached, serves⟩ := queue_refines reach .realtime
  refine ⟨state, users, reached, serves, ?_⟩
  rw [serves.queue]
  exact asleep

/-- So what holds of the threads of every queue holds of the forwarder's. -/
theorem State.heeded_of_reach (reach : Reachable (forwarder n capacity) state) (name : QueueName) :
    ∃ users : Threads (Thread n) Packet, users.Heeded capacity ∧
      Serves (state.queue name) (state.call name) users := by
  obtain ⟨users, reached, serves⟩ := BlockQueue.served_of_reach reach (·.queue name) (·.call name)
    (State.start_uses name) fun _ _ _ stepped => State.step_uses stepped name
  exact ⟨users, Threads.heeded_of_uses reached, serves⟩

theorem State.awake_of_reach (reach : Reachable (forwarder n capacity) state) {name : QueueName}
    {thread : Thread n} (outside : state.call name thread = none) :
    ¬ (state.queue name).asleep thread := by
  obtain ⟨users, ⟨placed, -, -⟩, serves⟩ := State.heeded_of_reach reach name
  have calls : (users.place thread).request = none := (serves.calls thread).trans outside
  rw [← serves.queue]
  rintro (takes | puts)
  · rw [placed.takers thread takes] at calls
    cases calls
  · obtain ⟨packet, front, putting⟩ := placed.sleeping.putters thread puts
    rw [putting] at calls
    cases calls

/-- No uploader sleeps on a queue that holds more packets than takers that are awake, and no
thread sleeps on one with more free slots than putters that are awake, whatever the
connections do. Whoever sleeps is in the call that has put it to sleep. -/
theorem forwarder_attended (reach : Reachable (forwarder n capacity) state) (name : QueueName) :
    (∀ thread ∈ (state.queue name).notEmpty, state.call name thread = some .take ∧
      ((state.queue name).remaining : ℕ∞) ≤
        {other | state.call name other = some .take ∧
          other ∉ (state.queue name).notEmpty}.encard) ∧
    ∀ thread ∈ (state.queue name).notFull,
      (∃ packet front, state.call name thread = some (.put packet front)) ∧
      ((capacity - (state.queue name).remaining : Nat) : ℕ∞) ≤
        {other | (∃ packet front, state.call name other = some (.put packet front)) ∧
          other ∉ (state.queue name).notFull}.encard := by
  obtain ⟨users, ⟨placed, attended, bound⟩, serves⟩ := State.heeded_of_reach reach name
  rw [← serves.queue, ← bound]
  constructor
  · intro thread asleep
    have taking : users.place thread = .inside .take true := placed.takers thread asleep
    refine ⟨by rw [← serves.calls, taking]; rfl, (attended.takers ⟨thread, asleep⟩).trans ?_⟩
    refine Set.encard_le_encard fun other ⟨takes, awake⟩ => ⟨?_, awake⟩
    have takes : users.place other = .inside .take true := takes
    rw [← serves.calls, takes]
    rfl
  · intro thread asleep
    obtain ⟨packet, front, putting⟩ := placed.sleeping.putters thread asleep
    refine ⟨⟨packet, front, by rw [← serves.calls, putting]; rfl⟩,
      (attended.putters ⟨thread, asleep⟩).trans ?_⟩
    refine Set.encard_le_encard fun other ⟨⟨data, atFront, puts⟩, awake⟩ => ⟨?_, awake⟩
    exact ⟨data, atFront, by rw [← serves.calls, puts]; rfl⟩

omit [ByteBufferApi] in
/-- A packet has woken one of two uploaders, and the other one sleeps on. -/
theorem forwarder_attended_once :
    ∃ state : State 2, state.realtime.notEmpty = [.uploader 0] ∧ state.realtime.remaining = 1 ∧
      (state.realtime.remaining : ℕ∞) ≤ {other | state.call .realtime other = some .take ∧
        other ∉ state.realtime.notEmpty}.encard := by
  let := ByteBuffer.reference
  have initial : Reachable (forwarder 2 1) (State.initial 2 1 (some .release)) := .start ⟨_, rfl⟩
  obtain ⟨state, reach, asleep, one⟩ := initial.exists_of_schedule
    (fun state => state.realtime.notEmpty = [.uploader 0] ∧ state.realtime.remaining = 1)
    (readies 0 ++ readies 1 ++ [.accept (sampleRead .vehicleLogin), .service none,
      .service (some (.uploader 1))]) (by decide +kernel)
  refine ⟨state, asleep, one, ?_⟩
  have member : .uploader 0 ∈ state.realtime.notEmpty := by simp [asleep]
  exact ((forwarder_attended reach .realtime).1 _ member).2

end Runs

end MotorInfoUpload
