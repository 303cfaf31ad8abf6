import MotorInfoUpload.Forwarder.QueueUse
import MotorInfoUpload.Forwarder.PutBack

/-! When the threads of the system come to rest. As no wake-up is lost, a thread that waits
where nobody moves waits for something that is not there; and once every uploader waits to
put its packet back, nobody is left to make room. -/

namespace MotorInfoUpload

open Machine BlockQueue

section Queue

variable {Thread DataT : Type} [DecidableEq Thread] {queue : BlockQueue Thread DataT}

private theorem exists_notified (waiters : List Thread) :
    ∃ woken left, notifyOne waiters woken = some left := by
  cases waiters with
  | nil => exact ⟨none, [], rfl⟩
  | cons thread others => exact ⟨some thread, _, if_pos List.mem_cons_self⟩

theorem exists_put (awake : ¬ queue.asleep thread) (data : DataT) (front : Bool) :
    ∃ woken turn, queue.put thread data front woken = some turn := by
  obtain ⟨woken, left, notified⟩ := exists_notified queue.notEmpty
  refine ⟨woken, ?_⟩
  unfold BlockQueue.put
  rw [if_neg awake]
  split
  · exact ⟨_, rfl⟩
  · exact ⟨_, by rw [notified]; rfl⟩

theorem exists_take (awake : ¬ queue.asleep thread) :
    ∃ woken turn, queue.take thread woken = some turn := by
  obtain ⟨woken, left, notified⟩ := exists_notified queue.notFull
  refine ⟨woken, ?_⟩
  unfold BlockQueue.take
  rw [if_neg awake]
  split
  · exact ⟨_, rfl⟩
  · exact ⟨_, by rw [notified]; rfl⟩

end Queue

variable {n : Nat}

/-- The steps that the program's threads take, whatever the platform answers them. -/
def Action.ofThread : Action n → Prop
  | .service _ | .outside _ _ | .upload _ _ | .sent _ | .failed _ _ => True
  | .start _ | .push | .signal | .accept _ | .drop _ | .wakeRealtime _ | .wakeReissue _ => False

/-- The thread has no packet to handle, or does not run. -/
def State.Rests (state : State n) : Thread n → Prop
  | .service => state.service = .idle
  | .uploader i => state.uploader i = .outside .unstarted ∨ state.uploader i = .outside .stopped

section Halt

variable [ByteBufferApi] {state : State n}

/-- No thread can take a step. -/
def Halted (state : State n) : Prop :=
  ∀ action : Action n, action.ofThread → state.step action = none

private theorem asleep_service (halted : Halted state)
    (calling : state.call name .service = some request) :
    (state.queue name).asleep .service := by
  by_contra awake
  have still (woken : Option (Thread n)) : state.serviceStep woken = none :=
    halted (.service woken) trivial
  have calling : state.service.call name = some request := calling
  cases place : state.service with
  | idle | checking | drainCheck => simp [place, ServiceAt.call] at calling
  | drainTake packet =>
    cases name with
    | reissue => simp [place, ServiceAt.call] at calling
    | realtime =>
      obtain ⟨woken, turn, turned⟩ := exists_take awake
      have turned : state.realtime.take .service woken = some turn := turned
      simpa [State.serviceStep, place, turned] using still woken
  | putRealtime packet =>
    cases name with
    | reissue => simp [place, ServiceAt.call] at calling
    | realtime =>
      obtain ⟨woken, turn, turned⟩ := exists_put awake packet false
      have turned : state.realtime.put .service packet false woken = some turn := turned
      simpa [State.serviceStep, place, turned] using still woken
  | drainPut packet data =>
    cases name with
    | realtime => simp [place, ServiceAt.call] at calling
    | reissue =>
      obtain ⟨woken, turn, turned⟩ := exists_put awake data false
      have turned : state.reissue.put .service data false woken = some turn := turned
      simpa [State.serviceStep, place, turned] using still woken
  | putReissue packet =>
    cases name with
    | realtime => simp [place, ServiceAt.call] at calling
    | reissue =>
      obtain ⟨woken, turn, turned⟩ := exists_put awake packet false
      have turned : state.reissue.put .service packet false woken = some turn := turned
      simpa [State.serviceStep, place, turned] using still woken

private theorem asleep_uploader (halted : Halted state)
    (calling : state.call name (.uploader i) = some request) :
    (state.queue name).asleep (.uploader i) := by
  by_contra awake
  have still (woken : Option (Thread n)) : state.uploadStep i woken = none :=
    halted (.upload i woken) trivial
  have calling : (state.uploader i).call name = some request := calling
  cases place : state.uploader i with
  | outside | select | loaded | sending => simp [place, UploaderAt.call] at calling
  | takeRealtime =>
    cases name with
    | reissue => simp [place, UploaderAt.call] at calling
    | realtime =>
      obtain ⟨woken, turn, turned⟩ := exists_take awake
      have turned : state.realtime.take (.uploader i) woken = some turn := turned
      simpa [State.uploadStep, place, turned] using still woken
  | takeReissue =>
    cases name with
    | realtime => simp [place, UploaderAt.call] at calling
    | reissue =>
      obtain ⟨woken, turn, turned⟩ := exists_take awake
      have turned : state.reissue.take (.uploader i) woken = some turn := turned
      simpa [State.uploadStep, place, turned] using still woken
  | putBack packet =>
    cases name with
    | realtime => simp [place, UploaderAt.call] at calling
    | reissue =>
      obtain ⟨woken, turn, turned⟩ := exists_put awake packet true
      have turned : state.reissue.put (.uploader i) packet true woken = some turn := turned
      simpa [State.uploadStep, place, turned] using still woken

private theorem rests_service (halted : Halted state) :
    state.Rests .service ∨ ∃ name request, state.call name .service = some request := by
  have still : state.serviceStep none = none := halted (.service none) trivial
  cases place : state.service with
  | idle => exact .inl place
  | checking k packet =>
    simp only [State.serviceStep, place] at still
    split at still
    · split at still <;> cases still
    · cases still
  | drainCheck packet =>
    simp only [State.serviceStep, place] at still
    split at still <;> cases still
  | drainTake packet => exact .inr ⟨.realtime, .take, by simp [State.call, place, ServiceAt.call]⟩
  | putRealtime packet =>
    exact .inr ⟨.realtime, .put packet false, by simp [State.call, place, ServiceAt.call]⟩
  | drainPut packet data =>
    exact .inr ⟨.reissue, .put data false, by simp [State.call, place, ServiceAt.call]⟩
  | putReissue packet =>
    exact .inr ⟨.reissue, .put packet false, by simp [State.call, place, ServiceAt.call]⟩

omit [ByteBufferApi] in
private theorem rests_outside (place : Outside)
    (still : ∀ event, state.outsideStep i place event = none) :
    place = .unstarted ∨ place = .stopped := by
  cases place with
  | unstarted => exact .inl rfl
  | stopped => exact .inr rfl
  | connecting login => cases still .throws
  | loginWait login => cases still (.answered .init)
  | logoutWait round =>
    have still := still (.answered .init)
    cases still
  | starting | loginCheck | loginSend | logoutSend | top | offline | check | closing =>
    have still := still .next
    simp only [State.outsideStep] at still
    repeat' split at still
    all_goals cases still

private theorem rests_uploader (halted : Halted state) :
    state.Rests (.uploader i) ∨ ∃ name request, state.call name (.uploader i) = some request := by
  have still : state.uploadStep i none = none := halted (.upload i none) trivial
  cases place : state.uploader i with
  | outside outside =>
    have still (event : Event) : state.outsideStep i outside event = none := by
      have none : state.step (.outside i event) = none := halted (.outside i event) trivial
      simpa [State.step, place] using none
    refine .inl ?_
    rcases rests_outside outside still with rfl | rfl
    · exact .inl place
    · exact .inr place
  | select => simp [State.uploadStep, place] at still
  | loaded packet =>
    simp only [State.uploadStep, place] at still
    split at still <;> cases still
  | sending packet =>
    have unsent : state.sendStep i none = none := halted (.sent i) trivial
    simp only [State.uploadStep, State.sendStep, place] at still unsent
    split at still
    · rename_i legal
      simp [legal] at unsent
    · cases still
  | takeRealtime => exact .inr ⟨.realtime, .take, by simp [State.call, place, UploaderAt.call]⟩
  | takeReissue => exact .inr ⟨.reissue, .take, by simp [State.call, place, UploaderAt.call]⟩
  | putBack packet =>
    exact .inr ⟨.reissue, .put packet true, by simp [State.call, place, UploaderAt.call]⟩

theorem rests_of_halted (halted : Halted state) (thread : Thread n) :
    state.Rests thread ∨ ∃ name request, state.call name thread = some request := by
  cases thread with
  | service => exact rests_service halted
  | uploader i => exact rests_uploader halted

theorem waits_of_halted {capacity : Nat} (reach : Reachable (forwarder n capacity) state)
    (halted : Halted state) {name : QueueName} {thread : Thread n} {request : Request Packet}
    (calling : state.call name thread = some request) : Waits (state.queue name) request := by
  obtain ⟨users, heeded, serves⟩ := State.heeded_of_reach reach name
  rw [← serves.queue]
  refine heeded.waits ?_ ((serves.calls thread).trans calling)
  intro other operation calls
  have calls : state.call name other = some operation := (serves.calls other).symm.trans calls
  rw [serves.queue]
  cases other with
  | service => exact asleep_service halted calls
  | uploader i => exact asleep_uploader halted calls

/-- In a reachable state in which no thread can move, each of them rests, or waits to take
from a queue that is empty, or to put into one that is full. -/
theorem halted_waits {capacity : Nat} (reach : Reachable (forwarder n capacity) state)
    (halted : Halted state) (thread : Thread n) :
    state.Rests thread ∨
      ∃ name request, state.call name thread = some request ∧ Waits (state.queue name) request := by
  refine (rests_of_halted halted thread).imp id fun ⟨name, request, calling⟩ => ?_
  exact ⟨name, request, calling, waits_of_halted reach halted calling⟩

end Halt

/-- The system waits for its first packet. -/
theorem halted_waits_idle :
    ∃ state : State 1, state.Rests .service ∧ ∀ thread, state.Rests thread ∨
      ∃ name request, state.call name thread = some request ∧ Waits (state.queue name) request := by
  let := ByteBuffer.reference
  have initial : Reachable (forwarder 1 1) (State.initial 1 1 (some .release)) := .start ⟨_, rfl⟩
  obtain ⟨state, reach, idle, standing, asleep⟩ := initial.exists_of_schedule
    (fun state => state.service = .idle ∧ state.uploader 0 = .takeRealtime ∧
      .uploader 0 ∈ state.realtime.notEmpty) loggedIn (by decide +kernel)
  refine ⟨state, idle, halted_waits reach fun action own => ?_⟩
  cases action with
  | start | push | signal | accept | drop | wakeRealtime | wakeReissue => cases own
  | service woken => simp [State.step, State.serviceStep, idle]
  | outside i event =>
    rw [← Subsingleton.elim 0 i]
    simp [State.step, standing]
  | upload i woken =>
    have sleeps : state.realtime.asleep (.uploader 0) := .inl asleep
    rw [← Subsingleton.elim 0 i]
    simp [State.step, State.uploadStep, standing, BlockQueue.take, sleeps]
  | sent i | failed i =>
    rw [← Subsingleton.elim 0 i]
    simp [State.step, State.sendStep, standing]

/-- Every uploader has a failed packet to put back, and the queue for it is full. The `n` uploaders
are all that are ever started: one that a later SIGUSR2 started would take from that queue. -/
structure Jammed (state : State n) : Prop where
  standing : ∀ i, ∃ packet, state.uploader i = .putBack packet
  full : state.reissue.queue.length = state.reissue.capacity

/-- How many more packets the service thread may still accept on its way to a full queue. -/
def ServiceAt.room : ServiceAt → Nat
  | .idle => 2
  | .checking _ _ | .drainCheck _ | .drainTake _ | .putRealtime _ => 1
  | .drainPut _ _ | .putReissue _ => 0

def State.room (state : State n) : Nat :=
  state.realtime.capacity - state.realtime.remaining + state.service.room

/-- What a step of a jammed system leaves as it is, and what it can use up at most. -/
structure Jammed.Holds (before after : State n) : Prop where
  jammed : Jammed after
  uploader : after.uploader = before.uploader
  written : after.written = before.written
  reissue : after.reissue.queue = before.reissue.queue
  accepted : after.accepted.length + after.room ≤ before.accepted.length + before.room

namespace Jammed

variable {before after : State n}

theorem Holds.refl (jammed : Jammed before) : Holds before before :=
  ⟨jammed, rfl, rfl, rfl, Nat.le_refl _⟩

theorem Holds.trans {middle : State n} (earlier : Holds before middle)
    (later : Holds middle after) : Holds before after where
  jammed := later.jammed
  uploader := later.uploader.trans earlier.uploader
  written := later.written.trans earlier.written
  reissue := later.reissue.trans earlier.reissue
  accepted := later.accepted.trans earlier.accepted

private theorem holds_service {service : ServiceAt} (jammed : Jammed before)
    (standing : before.service = place) (less : service.room ≤ place.room) :
    Holds before { before with service } := by
  refine ⟨⟨jammed.standing, jammed.full⟩, rfl, rfl, rfl, ?_⟩
  have earlier : before.room =
      before.realtime.capacity - before.realtime.remaining + place.room := by
    rw [State.room, standing]
  change before.accepted.length +
    (before.realtime.capacity - before.realtime.remaining + service.room) ≤ _
  omega

private theorem service_holds (jammed : Jammed before) (moved : ServiceMove before woken after) :
    Holds before after := by
  have full := jammed.full
  cases moved with
  | found standing | missed standing | offline standing | drained standing | draining standing =>
    exact holds_service jammed standing (by simp [ServiceAt.room])
  | drainSleeps | drainFull | reissueFull | realtimeFull =>
    exact ⟨⟨jammed.standing, jammed.full⟩, rfl, rfl, rfl, Nat.le_refl _⟩
  | drainStored standing stored | reissueStored standing stored =>
    have room := stored.room
    omega
  | @drainTook packet realtime data standing taken =>
    refine ⟨⟨jammed.standing, jammed.full⟩, rfl, rfl, rfl, ?_⟩
    have bounded := before.realtime.bounded
    simp only [State.room, BlockQueue.remaining, standing, taken.queue, taken.capacity,
      List.length_cons, ServiceAt.room] at bounded ⊢
    omega
  | @realtimeStored packet realtime standing stored =>
    refine ⟨⟨jammed.standing, jammed.full⟩, rfl, rfl, rfl, ?_⟩
    have room := stored.room
    have longer : realtime.queue.length = before.realtime.queue.length + 1 := by
      rw [stored.queue]
      simp
    simp only [State.room, BlockQueue.remaining, standing, longer, stored.capacity,
      ServiceAt.room]
    omega

private theorem outside_stands (jammed : Jammed before) (i : Fin n) (place : Outside) :
    before.uploader i ≠ .outside place := by
  obtain ⟨packet, standing⟩ := jammed.standing i
  simp [standing]

variable [ByteBufferApi]

private theorem upload_holds (jammed : Jammed before) (moved : UploadMove before i woken after) :
    Holds before after := by
  have full := jammed.full
  obtain ⟨packet, puts⟩ := jammed.standing i
  cases moved with
  | putBackFull => exact ⟨⟨jammed.standing, jammed.full⟩, rfl, rfl, rfl, Nat.le_refl _⟩
  | putBackStored standing stored =>
    have room := stored.room
    omega
  | toRealtime standing | toReissue standing | realtimeSleeps standing | realtimeTook standing
  | reissueSleeps standing | reissueTook standing | reissueSpoilt standing | goesOn standing
  | skips standing | illegal standing => simp [puts] at standing

theorem step (jammed : Jammed before) (moved : Move before action after) : Holds before after := by
  cases moved with
  | start fresh => exact absurd fresh (outside_stands jammed _ _)
  | outside standing => exact absurd standing (outside_stands jammed _ _)
  | @sent i packet standing =>
    obtain ⟨held, puts⟩ := jammed.standing i
    simp [puts] at standing
  | @failed i packet progress standing =>
    obtain ⟨held, puts⟩ := jammed.standing i
    simp [puts] at standing
  | push | signal | drop => exact ⟨⟨jammed.standing, jammed.full⟩, rfl, rfl, rfl, Nat.le_refl _⟩
  | accept free =>
    refine ⟨⟨jammed.standing, jammed.full⟩, rfl, rfl, rfl, ?_⟩
    simp only [State.room, free, ServiceAt.room, List.length_append, List.length_singleton]
    omega
  | service moved => exact service_holds jammed moved
  | upload moved => exact upload_holds jammed moved
  | wakeRealtime woken =>
    obtain ⟨queue, capacity, -⟩ := BlockQueue.wake_cases woken
    refine ⟨⟨jammed.standing, jammed.full⟩, rfl, rfl, rfl, ?_⟩
    simp [State.room, BlockQueue.remaining, queue, capacity]
  | wakeReissue woken =>
    obtain ⟨queue, capacity, -⟩ := BlockQueue.wake_cases woken
    refine ⟨⟨jammed.standing, ?_⟩, rfl, rfl, queue, Nat.le_refl _⟩
    simpa [queue, capacity] using jammed.full

theorem of_reach {capacity : Nat} (jammed : Jammed before)
    (later : Reachable ((forwarder n capacity).startingAt before) after) : Holds before after := by
  apply later.invariant
  · rintro state rfl
    exact .refl jammed
  · intro state action next held _ stepped
    exact held.trans (held.jammed.step (State.step_cases stepped))

end Jammed

/-- Once all uploaders wait to put a packet back, and none is started any more, the system is dead
for good: nothing is written, whatever vehicles, connections and the other signals do, and no more
packets are accepted than the realtime queue has slots for and two. -/
theorem jammed_forever [ByteBufferApi] {capacity : Nat} {before after : State n}
    (jammed : Jammed before)
    (later : Reachable ((forwarder n capacity).startingAt before) after) :
    Jammed after ∧ after.uploader = before.uploader ∧ after.written = before.written ∧
      after.reissue.queue = before.reissue.queue ∧
      after.accepted.length ≤ before.accepted.length +
        (before.realtime.capacity - before.realtime.remaining) + 2 := by
  obtain ⟨still, uploader, written, reissue, accepted⟩ := jammed.of_reach later
  refine ⟨still, uploader, written, reissue, ?_⟩
  have room : before.service.room ≤ 2 := by cases before.service <;> simp [ServiceAt.room]
  simp only [State.room] at accepted
  omega

/-- Both uploaders lose their connections while they send, and a third packet fills the
reissue queue before they put theirs back; a fourth one is accepted and goes nowhere. -/
theorem jammed_forever_reached :
    ∃ before after : State 2,
      Reachable (@forwarder ByteBuffer.reference 2 1) before ∧ Jammed before ∧
      before.accepted.length < after.accepted.length ∧ after.written = before.written := by
  let := ByteBuffer.reference
  have initial : Reachable (forwarder 2 1) (State.initial 2 1 (some .release)) := .start ⟨_, rfl⟩
  let taken (i : Fin 2) : List (Action 2) := [.accept (sampleRead .vehicleLogin), .service none,
    .service (some (.uploader i)), .upload i none, .upload i none]
  obtain ⟨before, reach, putting, full, idle, serving⟩ := initial.exists_of_schedule
    (fun state => (∀ i, (state.uploader i).puttingBack = true) ∧
      state.reissue.queue.length = state.reissue.capacity ∧ state.service = .idle ∧
      0 < state.pool)
    (readies 0 ++ readies 1 ++ taken 0 ++ taken 1 ++ [.drop 0, .drop 1,
      .accept (sampleRead .vehicleLogout), .service none, .service none, .service none,
      .service none, .service none, .failed 0 0, .failed 1 0]) (by decide +kernel)
  have jammed : Jammed before := by
    refine ⟨fun i => ?_, full⟩
    have puts := putting i
    cases place : before.uploader i with
    | putBack packet => exact ⟨packet, rfl⟩
    | outside | select | takeRealtime | takeReissue | loaded | sending =>
      simp [place, UploaderAt.puttingBack] at puts
  obtain ⟨buf, returned⟩ : ∃ buf, (sampleRead .vehicleLogin).returned = some buf :=
    Option.isSome_iff_exists.mp (by decide +kernel)
  have read : (sampleRead .vehicleLogin).FrameRead := by decide +kernel
  have begun : Reachable ((forwarder 2 1).startingAt before) before := .start rfl
  have stepped : ((forwarder 2 1).startingAt before).step before
      (.accept (sampleRead .vehicleLogin)) = some { before with
        service := .checking 0 ⟨before.accepted.length, buf⟩
        accepted := before.accepted ++ [buf] } := by
    simp [Automaton.startingAt, forwarder, State.step, idle, serving, read, returned]
  have dead := jammed_forever jammed (begun.next trivial stepped)
  exact ⟨before, _, reach, jammed, by simp, dead.2.2.1⟩

end MotorInfoUpload
