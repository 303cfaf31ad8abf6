import MotorInfoUpload.Machine.Amortized
import MotorInfoUpload.Forwarder.Paths
import MotorInfoUpload.Forwarder.QueueUse
import Mathlib.Algebra.BigOperators.Group.Finset.Piecewise
import Mathlib.Data.Fintype.BigOperators

/-! How much the threads do by themselves: each step is paid for by something that has come
from outside, a frame, an answer, or a change of a connection, and the threads sleep in
between. -/

namespace MotorInfoUpload

open Machine

variable {n : Nat}

/-- The steps that a thread takes by itself. The others are those of `main` and the signal
handler, the frames, the connections and what they do to a write, the responses (or the end of
the wait for one), and spurious wake-ups. -/
def Action.own : Action n → Bool
  | .service _ | .outside _ .next | .upload _ _ | .sent _ => true
  | _ => false

/-- What an uploader does at most before it waits for an event or for a packet. -/
def Outside.work : Outside → Nat
  | .unstarted | .loginWait _ | .logoutWait _ | .stopped => 0
  | .loginSend _ | .logoutSend _ | .closing => 1
  | .connecting (some _) => 2
  | .loginCheck _ => 3
  | .connecting none | .check => 4
  | .offline => 5
  | .top => 6
  | .starting => 7

/-- A packet in the hands of an uploader is work, and one to be put back is work again. -/
def UploaderAt.work : UploaderAt → Nat
  | .outside place => place.work
  | .takeRealtime | .takeReissue => 0
  | .select => 1
  | .sending _ => 7
  | .loaded _ => 8
  | .putBack _ => 18

/-- The service thread asks `n` uploaders at most. A packet that it drains is work for it. -/
def ServiceAt.work (n : Nat) : ServiceAt → Nat
  | .idle => 0
  | .putReissue _ | .drainTake _ => 12
  | .drainCheck _ => 13
  | .putRealtime _ => 17
  | .drainPut _ _ => 25
  | .checking k _ => 18 + (n - k)

/-- What is left to do: a packet in the realtime queue may go through the reissue queue. -/
def State.work (state : State n) : Nat :=
  state.service.work n + ∑ i, (state.uploader i).work + 15 * state.realtime.remaining +
    10 * state.reissue.remaining

def BlockQueue.sleeping {Thread DataT : Type} (self : BlockQueue Thread DataT) : Nat :=
  self.notEmpty.length + self.notFull.length

def State.sleeping (state : State n) : Nat := state.realtime.sleeping + state.reissue.sleeping

namespace BlockQueue

variable {Thread DataT : Type} [DecidableEq Thread] {before after : BlockQueue Thread DataT}

private theorem length_notified {sleepers left : List Thread} {woken : Option Thread}
    (notified : notifyOne sleepers woken = some left) :
    sleepers.length ≤ left.length + 1 := by
  cases woken with
  | none =>
    simp only [notifyOne, Option.ite_none_right_eq_some] at notified
    rw [notified.1]
    exact Nat.zero_le _
  | some thread =>
    simp only [notifyOne, Option.ite_none_right_eq_some, Option.some.injEq] at notified
    obtain ⟨member, rfl⟩ := notified
    rw [List.length_erase_of_mem member]
    omega

theorem Stored.remaining (stored : Stored before after data front woken) :
    after.remaining = before.remaining + 1 := by
  rw [BlockQueue.remaining, stored.queue]
  split <;> simp [BlockQueue.remaining]

theorem Stored.sleeping (stored : Stored before after data front woken) :
    before.sleeping ≤ after.sleeping + 1 := by
  have notified := length_notified stored.notified
  rw [BlockQueue.sleeping, BlockQueue.sleeping, stored.notFull]
  omega

theorem Taken.remaining (taken : Taken before after data woken) :
    before.remaining = after.remaining + 1 := by
  rw [BlockQueue.remaining, taken.queue, List.length_cons]
  rfl

theorem Taken.sleeping (taken : Taken before after data woken) :
    before.sleeping ≤ after.sleeping + 1 := by
  have notified := length_notified taken.notified
  rw [BlockQueue.sleeping, BlockQueue.sleeping, taken.notEmpty]
  omega

theorem sleeping_wake {thread : Thread} (woken : before.wake thread = some after) :
    before.sleeping ≤ after.sleeping + 2 := by
  unfold wake at woken
  split at woken
  · cases Option.some.inj woken
    have empty := List.le_length_erase (a := thread) (l := before.notEmpty)
    have full := List.le_length_erase (a := thread) (l := before.notFull)
    simp only [BlockQueue.sleeping]
    omega
  · cases woken

end BlockQueue

theorem sum_work (uploader : Fin n → UploaderAt) (i : Fin n) (place : UploaderAt) :
    ∑ j, (Function.update uploader i place j).work + (uploader i).work =
      ∑ j, (uploader j).work + place.work := by
  have apart := Finset.add_sum_erase Finset.univ (fun j => (uploader j).work) (Finset.mem_univ i)
  have moved := Finset.add_sum_erase Finset.univ
    (fun j => (Function.update uploader i place j).work) (Finset.mem_univ i)
  have others : ∑ j ∈ Finset.univ.erase i, (Function.update uploader i place j).work =
      ∑ j ∈ Finset.univ.erase i, (uploader j).work := by
    apply Finset.sum_congr rfl
    intro j member
    rw [Function.update_of_ne (Finset.ne_of_mem_erase member)]
  simp only [Function.update_self] at moved
  omega

theorem work_turn {before after : State n} {next : UploaderAt}
    (uploader : after.uploader = Function.update before.uploader i next)
    (service : after.service = before.service) :
    after.work + (before.uploader i).work + 15 * before.realtime.remaining +
        10 * before.reissue.remaining =
      before.work + next.work + 15 * after.realtime.remaining + 10 * after.reissue.remaining := by
  have turn := sum_work before.uploader i next
  simp only [State.work, uploader, service]
  omega

theorem State.move_turn (state : State n) (i : Fin n) (place : UploaderAt) :
    (state.move i place).uploader = Function.update state.uploader i place := rfl

theorem turn_paid {before after : State n} {place next : UploaderAt}
    (standing : before.uploader i = place)
    (uploader : after.uploader = Function.update before.uploader i next)
    (service : after.service = before.service)
    (paid : next.work + 15 * after.realtime.remaining + 10 * after.reissue.remaining +
        before.sleeping + 1 ≤
      place.work + 15 * before.realtime.remaining + 10 * before.reissue.remaining +
        after.sleeping) :
    after.work + before.sleeping + 1 ≤ before.work + after.sleeping := by
  have turn := work_turn uploader service
  rw [standing] at turn
  omega

theorem service_paid {before after : State n} (moved : ServiceMove before woken after) :
    after.work + before.sleeping + 1 ≤ before.work + after.sleeping := by
  cases moved with
  | found standing | offline standing | drained standing | draining standing =>
    simp only [State.work, State.sleeping, standing, ServiceAt.work]
    omega
  | missed standing inside =>
    simp only [State.work, State.sleeping, standing, ServiceAt.work]
    omega
  | drainSleeps standing | drainFull standing | reissueFull standing | realtimeFull standing =>
    simp only [State.work, State.sleeping, BlockQueue.sleeping, BlockQueue.remaining,
      List.length_cons]
    omega
  | drainTook standing taken =>
    have less := taken.remaining
    have notified := taken.sleeping
    simp only [State.work, State.sleeping, standing, ServiceAt.work]
    omega
  | drainStored standing stored | reissueStored standing stored | realtimeStored standing stored =>
    have more := stored.remaining
    have notified := stored.sleeping
    simp only [State.work, State.sleeping, standing, ServiceAt.work]
    omega

theorem Path.paid (path : Path before up place .next next later) :
    next.work + 1 ≤ place.work := by
  cases path with
  | connected => rfl
  | checked | reconnects => simp [UploaderAt.work, Outside.work]
  | _ => simp [UploaderAt.work, Outside.work]

theorem Path.work_le (path : Path before up place event next later) :
    next.work ≤ place.work + 6 := by
  cases path with
  | @connects login => exact Nat.le_add_right ..
  | @throws login => simp [UploaderAt.work, Outside.work]
  | @loggedIn login => cases login <;> simp [LoginCall.returns, UploaderAt.work, Outside.work]
  | _ => simp [UploaderAt.work, Outside.work]

section Steps

variable [ByteBufferApi]

theorem upload_paid {before after : State n} (moved : UploadMove before i woken after) :
    after.work + before.sleeping + 1 ≤ before.work + after.sleeping := by
  cases moved with
  | toRealtime standing | toReissue standing | goesOn standing | skips standing
  | illegal standing =>
    apply turn_paid standing
    · rfl
    · rfl
    · simp only [State.sleeping, State.move, UploaderAt.work, Outside.work]
      omega
  | realtimeSleeps | reissueSleeps | putBackFull =>
    simp only [State.work, State.sleeping, BlockQueue.sleeping, BlockQueue.remaining,
      List.length_cons]
    omega
  | realtimeTook standing taken | reissueTook standing taken | reissueSpoilt standing taken =>
    have less := taken.remaining
    have notified := taken.sleeping
    apply turn_paid standing
    · rfl
    · rfl
    · simp only [State.sleeping, State.move, UploaderAt.work, Outside.work]
      omega
  | putBackStored standing stored =>
    have more := stored.remaining
    have notified := stored.sleeping
    apply turn_paid standing
    · rfl
    · rfl
    · simp only [State.sleeping, State.move, UploaderAt.work, Outside.work]
      omega

/-- Each step of a thread is paid for by work that it does or by a thread that goes to sleep,
and no event from outside makes more work than a frame does. -/
theorem step_paid {before after : State n} {action : Action n}
    (stepped : before.step action = some after) :
    after.work + before.sleeping + (if action.own then 1 else 0) ≤
      before.work + after.sleeping + (if action.own then 0 else n + 18) := by
  cases action with
  | outside i event =>
    rw [State.step] at stepped
    split at stepped
    · rename_i place standing
      obtain ⟨same, next, up, path, uploader, -⟩ := State.outsideStep_path standing stepped
      have turn := work_turn uploader same.service
      rw [standing, same.realtime, same.reissue] at turn
      change _ + place.work + _ + _ = _ at turn
      simp only [State.sleeping, same.realtime, same.reissue]
      cases event with
      | next =>
        have paid := path.paid
        simp only [Action.own, if_true]
        omega
      | _ =>
        have bounded := path.work_le
        simp only [Action.own, Bool.false_eq_true, if_false]
        omega
    · cases stepped
  | start i =>
    cases State.step_cases stepped with
    | start fresh =>
      have turn := work_turn (State.move_turn before i (.outside .starting)) rfl
      rw [fresh] at turn
      simp only [UploaderAt.work, Outside.work, State.move_realtime, State.move_reissue] at turn
      simp only [State.sleeping, State.move_realtime, State.move_reissue, Action.own,
        Bool.false_eq_true, if_false]
      omega
  | push =>
    cases State.step_cases stepped with
    | push => exact Nat.add_le_add_left (Nat.zero_le _) _
  | signal =>
    cases State.step_cases stepped with
    | signal => exact Nat.add_le_add_left (Nat.zero_le _) _
  | drop i =>
    cases State.step_cases stepped with
    | drop => exact Nat.add_le_add_left (Nat.zero_le _) _
  | accept session =>
    cases State.step_cases stepped with
    | accept free =>
      simp only [State.work, State.sleeping, free, ServiceAt.work, Action.own,
        Bool.false_eq_true, if_false]
      omega
  | service woken =>
    cases State.step_cases stepped with
    | service moved => exact service_paid moved
  | upload i woken =>
    cases State.step_cases stepped with
    | upload moved => exact upload_paid moved
  | sent i =>
    cases State.step_cases stepped with
    | sent standing =>
      apply turn_paid standing
      · rfl
      · rfl
      · simp only [State.sleeping, State.move, UploaderAt.work, Outside.work]
        omega
  | failed i progress =>
    cases State.step_cases stepped with
    | @failed _ packet _ standing legal room =>
      have turn := work_turn (State.move_turn before i
        (.putBack { packet with buf := packet.buf.advance progress room })) rfl
      rw [standing] at turn
      simp only [UploaderAt.work, State.move_realtime, State.move_reissue] at turn
      simp only [State.sleeping, State.move_realtime, State.move_reissue, Action.own,
        Bool.false_eq_true, if_false]
      omega
  | wakeRealtime thread =>
    cases State.step_cases stepped with
    | wakeRealtime woken =>
      have sleeping := BlockQueue.sleeping_wake woken
      have same : _ = _ := congrArg List.length (BlockQueue.wake_cases woken).1
      simp only [State.work, State.sleeping, BlockQueue.remaining, same, Action.own,
        Bool.false_eq_true, if_false]
      omega
  | wakeReissue thread =>
    cases State.step_cases stepped with
    | wakeReissue woken =>
      have sleeping := BlockQueue.sleeping_wake woken
      have same : _ = _ := congrArg List.length (BlockQueue.wake_cases woken).1
      simp only [State.work, State.sleeping, BlockQueue.remaining, same, Action.own,
        Bool.false_eq_true, if_false]
      omega

end Steps

def Thread.index : Thread n → Option (Fin n)
  | .service => none
  | .uploader i => some i

theorem Thread.index_injective : Function.Injective (Thread.index (n := n)) := by
  intro thread other same
  cases thread <;> cases other <;> simp_all [Thread.index]

theorem State.call_one (state : State n) (thread : Thread n) :
    state.call .realtime thread = none ∨ state.call .reissue thread = none := by
  cases thread with
  | service => cases place : state.service <;> simp [State.call, place, ServiceAt.call]
  | uploader i => cases place : state.uploader i <;> simp [State.call, place, UploaderAt.call]

section Runs

variable [ByteBufferApi] {capacity : Nat} {state : State n}

private theorem sleepers_of_reach (reach : Reachable (forwarder n capacity) state)
    (name : QueueName) : ((state.queue name).notEmpty ++ (state.queue name).notFull).Nodup := by
  obtain ⟨users, ⟨placed, -, -⟩, serves⟩ := State.heeded_of_reach reach name
  rw [← serves.queue]
  refine List.nodup_append.mpr ⟨placed.sleeping.takersOnce, placed.sleeping.puttersOnce, ?_⟩
  rintro thread takes other puts rfl
  obtain ⟨packet, front, putting⟩ := placed.sleeping.putters thread puts
  rw [placed.takers thread takes] at putting
  cases putting

theorem State.sleeping_le (reach : Reachable (forwarder n capacity) state) :
    state.sleeping ≤ n + 1 := by
  let sleepers (name : QueueName) := (state.queue name).notEmpty ++ (state.queue name).notFull
  have once : (sleepers .realtime ++ sleepers .reissue).Nodup := by
    refine List.nodup_append.mpr
      ⟨sleepers_of_reach reach .realtime, sleepers_of_reach reach .reissue, ?_⟩
    rintro thread sleeps other also rfl
    rcases state.call_one thread with none | none
    · exact State.awake_of_reach reach none (List.mem_append.mp sleeps)
    · exact State.awake_of_reach reach none (List.mem_append.mp also)
  have bounded := (once.map Thread.index_injective).length_le_card
  simp only [List.length_map, List.length_append, Fintype.card_option, Fintype.card_fin,
    sleepers] at bounded
  simp only [State.sleeping, BlockQueue.sleeping]
  exact bounded

/-- The threads do not keep themselves busy: in every run from any reachable state, they take no
more steps by themselves than `n + 18` for each event from outside, those for what was left to
do, and one for each thread. -/
theorem steps_bounded {before : State n} {recorded : Recorded (State n) StepCounts}
    (reach : Reachable (forwarder n capacity) before)
    (later : Reach ((forwarder n capacity).countingFrom Action.own before)
      (Recorded.onState unguarded) recorded) :
    recorded.log.own ≤ (n + 18) * recorded.log.outer + before.work + (n + 1) := by
  obtain ⟨on, paid⟩ := later.amortized State.work State.sleeping
    fun state action after _ stepped => step_paid stepped
  have asleep := State.sleeping_le (reach.append on fun _ _ allowed => allowed)
  omega

omit [ByteBufferApi] in
theorem work_initial (mode : Option EnumRunMode) : (State.initial n capacity mode).work = 0 := by
  simp [State.initial, State.work, ServiceAt.work, UploaderAt.work, Outside.work,
    BlockQueue.remaining, BlockQueue.empty]

omit [ByteBufferApi] in
/-- The uploader logs in, and sends the login of a vehicle. -/
theorem steps_bounded_login :
    ∃ counts : StepCounts, counts = ⟨13, 5⟩ ∧ counts.own ≤ (1 + 18) * counts.outer + 0 + (1 + 1) := by
  let := ByteBuffer.reference
  have start : Reachable (forwarder 1 5) (State.initial 1 5 (some .release)) := .start ⟨_, rfl⟩
  have counting : Reach ((forwarder 1 5).countingFrom Action.own (State.initial 1 5 (some .release)))
      (Recorded.onState unguarded) ⟨State.initial 1 5 (some .release), ⟨0, 0⟩⟩ := .start ⟨rfl, rfl⟩
  obtain ⟨recorded, run, counts⟩ := counting.exists_of_schedule
    (fun recorded => recorded.log = ⟨13, 5⟩)
    (loggedIn ++ [.accept (sampleRead .vehicleLogin), .service none, .service (some (.uploader 0)),
      .upload 0 none, .upload 0 none, .sent 0]) (by decide +kernel)
  refine ⟨recorded.log, counts, ?_⟩
  have bounded := steps_bounded start run
  rwa [work_initial] at bounded

end Runs

end MotorInfoUpload
