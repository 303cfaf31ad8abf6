import MotorInfoUpload.QueueThreads
import MotorInfoUpload.Machine.Signals

namespace MotorInfoUpload.BlockQueue

open Machine

variable {Thread DataT : Type} [DecidableEq Thread]

/-- Threads in a call of the given kind that have waited and are awake again. -/
def wokenFrom (waiting : ThreadAt DataT → Prop) (place : Thread → ThreadAt DataT)
    (sleepers : List Thread) : Set Thread :=
  {thread | waiting (place thread) ∧ thread ∉ sleepers}

namespace ThreadAt

def Takes (place : ThreadAt DataT) : Prop := place = .inside .take true

def Puts (place : ThreadAt DataT) : Prop := ∃ data front, place = .inside (.put data front) true

def Awaits (place : ThreadAt DataT) : Prop := place.Takes ∨ place = .inside .takeSeconds true

end ThreadAt

namespace Threads

/-- Takers that have been woken and have not had their next turn yet. -/
def wokenTakers (self : Threads Thread DataT) : Set Thread :=
  wokenFrom ThreadAt.Takes self.place self.queue.notEmpty

def wokenPutters (self : Threads Thread DataT) : Set Thread :=
  wokenFrom ThreadAt.Puts self.place self.queue.notFull

/-- A taker sleeps on only if there is no more in the queue than the woken ones need, and
a putter only if there are no more free slots. -/
structure Attended (state : Threads Thread DataT) : Prop where
  takers : Covered state.queue.notEmpty state.wokenTakers state.queue.remaining
  putters : Covered state.queue.notFull state.wokenPutters
    (state.queue.capacity - state.queue.remaining)

/-- `clear` frees more slots than the woken putters need, and another putter sleeps on. -/
def ClearsUnnoticed (self : Threads Thread DataT) : ThreadAction Thread DataT → Prop
  | .turn thread _ _ => (∃ waited, self.place thread = .inside .clear waited) ∧
    (∃ sleeper, sleeper ∈ self.queue.notFull) ∧
    self.wokenPutters.encard < self.queue.capacity
  | _ => False

/-- The threads asleep are in the calls that put them there. -/
structure Sleeping (state : Threads Thread DataT) : Prop where
  takers : ∀ thread ∈ state.queue.notEmpty, (state.place thread).Awaits
  putters : ∀ thread ∈ state.queue.notFull, (state.place thread).Puts
  takersOnce : state.queue.notEmpty.Nodup
  puttersOnce : state.queue.notFull.Nodup

/-- So they are, and nobody is in a timed `take`. -/
structure Placed (state : Threads Thread DataT) : Prop where
  sleeping : state.Sleeping
  untimed : ∀ thread waited, state.place thread ≠ .inside .takeSeconds waited

end Threads

section Woken

variable {waiting : ThreadAt DataT → Prop} {place : Thread → ThreadAt DataT} {there : ThreadAt DataT}
  {sleepers later : List Thread} {thread : Thread}

theorem wokenFrom_turn (asleep : later ⊆ thread :: sleepers) :
    wokenFrom waiting place sleepers \ {thread} ⊆
      wokenFrom waiting (Function.update place thread there) later := by
  rintro other ⟨⟨waits, awake⟩, different⟩
  have different : other ≠ thread := different
  refine ⟨by rwa [Function.update_of_ne different], fun sleeps => ?_⟩
  rcases List.mem_cons.mp (asleep sleeps) with same | already
  · exact different same
  · exact awake already

theorem wokenFrom_others (apart : ¬ waiting (place thread)) (asleep : later ⊆ thread :: sleepers) :
    wokenFrom waiting place sleepers ⊆
      wokenFrom waiting (Function.update place thread there) later := by
  have outside : thread ∉ wokenFrom waiting place sleepers := fun woken => apart woken.1
  rw [← Set.sdiff_singleton_eq_self outside]
  exact wokenFrom_turn asleep

theorem wokenFrom_apart (before : ¬ waiting (place thread)) (after : ¬ waiting there) :
    wokenFrom waiting (Function.update place thread there) sleepers =
      wokenFrom waiting place sleepers := by
  apply Set.Subset.antisymm
  · rintro other ⟨waits, awake⟩
    refine ⟨?_, awake⟩
    by_cases same : other = thread
    · rw [same, Function.update_self] at waits
      exact absurd waits after
    · rwa [Function.update_of_ne same] at waits
  · exact wokenFrom_others before (List.subset_cons_self ..)

theorem wokenFrom_left (gone : waiting there → thread ∈ later)
    (others : ∀ other, other ≠ thread → (other ∈ later ↔ other ∈ sleepers)) :
    wokenFrom waiting (Function.update place thread there) later =
      wokenFrom waiting place sleepers \ {thread} := by
  refine Set.ext fun other => ?_
  by_cases same : other = thread
  · subst same
    refine iff_of_false (fun woken => woken.2 (gone ?_)) fun woken => woken.2 rfl
    simpa using woken.1
  · change _ ∧ _ ↔ (_ ∧ _) ∧ other ≠ thread
    rw [Function.update_of_ne same, others other same]
    exact (and_iff_left same).symm

theorem wokenFrom_notified {chosen : Option Thread} (notified : notifyOne sleepers chosen = some later)
    (once : sleepers.Nodup) (asleep : ∀ sleeper ∈ sleepers, waiting (place sleeper))
    (awake : thread ∉ sleepers) :
    ∀ sleeper ∈ chosen, sleeper ∈ wokenFrom waiting (Function.update place thread there) later ∧
      sleeper ∉ wokenFrom waiting place sleepers := by
  rintro sleeper rfl
  simp only [notifyOne, Option.ite_none_right_eq_some, Option.some.injEq] at notified
  obtain ⟨member, rfl⟩ := notified
  have different : sleeper ≠ thread := fun same => awake (same ▸ member)
  refine ⟨⟨?_, once.not_mem_erase⟩, fun woken => woken.2 member⟩
  rw [Function.update_of_ne different]
  exact asleep sleeper member

private theorem sleepers_turn (asleep : ∀ sleeper ∈ sleepers, waiting (place sleeper))
    (once : sleepers.Nodup) (awake : thread ∉ sleepers)
    (turned : later.Sublist sleepers ∨ later = thread :: sleepers ∧ waiting there) :
    (∀ sleeper ∈ later, waiting (Function.update place thread there sleeper)) ∧ later.Nodup := by
  have others : ∀ sleeper ∈ sleepers, waiting (Function.update place thread there sleeper) := by
    intro sleeper member
    have different : sleeper ≠ thread := fun same => awake (same ▸ member)
    rw [Function.update_of_ne different]
    exact asleep sleeper member
  rcases turned with kept | ⟨rfl, waits⟩
  · exact ⟨fun sleeper member => others sleeper (kept.subset member), once.sublist kept⟩
  · refine ⟨?_, List.nodup_cons.mpr ⟨awake, once⟩⟩
    intro sleeper member
    rcases List.mem_cons.mp member with rfl | earlier
    · rwa [Function.update_self]
    · exact others sleeper earlier

end Woken

namespace Threads

variable {before after : Threads Thread DataT} {thread : Thread} {place : ThreadAt DataT}
  {queue : BlockQueue Thread DataT}

private theorem Sleeping.moved (sleeping : before.Sleeping) (awake : ¬ before.queue.asleep thread)
    (takers : queue.notEmpty.Sublist before.queue.notEmpty ∨
      queue.notEmpty = thread :: before.queue.notEmpty ∧ place.Awaits)
    (putters : queue.notFull.Sublist before.queue.notFull ∨
      queue.notFull = thread :: before.queue.notFull ∧ place.Puts) :
    (before.moved thread place queue).Sleeping := by
  obtain ⟨notTaker, notPutter⟩ := not_or.mp awake
  have takersAfter := sleepers_turn sleeping.takers sleeping.takersOnce notTaker takers
  have puttersAfter := sleepers_turn sleeping.putters sleeping.puttersOnce notPutter putters
  exact ⟨takersAfter.1, puttersAfter.1, takersAfter.2, puttersAfter.2⟩

omit [DecidableEq Thread] in
theorem Sleeping.awake (sleeping : before.Sleeping) (outside : before.place thread = .outside) :
    ¬ before.queue.asleep thread := by
  rintro (taker | putter)
  · rcases sleeping.takers thread taker with takes | takes
    · rw [outside] at takes
      cases takes
    · rw [outside] at takes
      cases takes
  · obtain ⟨data, front, puts⟩ := sleeping.putters thread putter
    rw [outside] at puts
    cases puts

theorem Sleeping.step {requested : Request DataT → Bool} (sleeping : before.Sleeping)
    (moved : Move requested before action happened after) : after.Sleeping := by
  cases moved with
  | called outside may => exact sleeping.moved (sleeping.awake outside) (.inl (.refl _)) (.inl (.refl _))
  | woke woken =>
    obtain ⟨-, -, takers, putters⟩ := wake_cases woken
    exact ⟨fun sleeper member => sleeping.takers sleeper (takers.subset member),
      fun sleeper member => sleeping.putters sleeper (putters.subset member),
      sleeping.takersOnce.sublist takers, sleeping.puttersOnce.sublist putters⟩
  | putWaits calling awake full => exact sleeping.moved awake (.inl (.refl _)) (.inr ⟨rfl, _, _, rfl⟩)
  | stored calling awake stored =>
    exact sleeping.moved awake (.inl (notifyOne_sublist stored.notified))
      (.inl (stored.notFull ▸ .refl _))
  | takeWaits calling awake nothing => exact sleeping.moved awake (.inr ⟨rfl, .inl rfl⟩) (.inl (.refl _))
  | timedWaits calling awake => exact sleeping.moved awake (.inr ⟨rfl, .inr rfl⟩) (.inl (.refl _))
  | took calling awake taken | timedTook calling awake taken =>
    exact sleeping.moved awake (.inl (taken.notEmpty ▸ .refl _))
      (.inl (notifyOne_sublist taken.notified))
  | gaveUp calling awake | cleared calling awake =>
    exact sleeping.moved awake (.inl (.refl _)) (.inl (.refl _))
  | readNothing calling awake =>
    have left : (before.moved _ .outside before.queue).Sleeping :=
      sleeping.moved awake (.inl (.refl _)) (.inl (.refl _))
    exact ⟨left.takers, left.putters, left.takersOnce, left.puttersOnce⟩

theorem Placed.step (placed : before.Placed)
    (moved : Move Request.untimed before action happened after) : after.Placed := by
  refine ⟨placed.sleeping.step moved, fun other waited => ?_⟩
  have kept {thread : Thread} {place : ThreadAt DataT}
      (untimed : place ≠ .inside .takeSeconds waited) :
      Function.update before.place thread place other ≠ .inside .takeSeconds waited := by
    by_cases same : other = thread
    · rwa [same, Function.update_self]
    · rw [Function.update_of_ne same]
      exact placed.untimed other waited
  cases moved with
  | called outside may =>
    refine kept ?_
    rintro same
    cases same
    cases may
  | woke => exact placed.untimed other waited
  | putWaits | stored | takeWaits | took | cleared => exact kept (by simp)
  | timedWaits calling | gaveUp calling | readNothing calling | timedTook calling =>
    exact absurd calling (placed.untimed _ _)

omit [DecidableEq Thread] in
theorem Placed.takers (placed : before.Placed) : ∀ thread ∈ before.queue.notEmpty,
    (before.place thread).Takes := fun thread asleep =>
  (placed.sleeping.takers thread asleep).resolve_right (placed.untimed thread true)

/-- A turn that neither stores nor takes: it waits for what is not there, or does nothing. -/
private theorem Attended.turned (attended : before.Attended)
    (kept : queue.queue = before.queue.queue) (capacity : queue.capacity = before.queue.capacity)
    (takers : queue.notEmpty = before.queue.notEmpty ∧ ¬ (before.place thread).Takes ∨
      queue.notEmpty = thread :: before.queue.notEmpty ∧ before.queue.queue = [])
    (putters : queue.notFull = before.queue.notFull ∧ ¬ (before.place thread).Puts ∨
      queue.notFull = thread :: before.queue.notFull ∧
        before.queue.queue.length = before.queue.capacity) :
    (before.moved thread place queue).Attended := by
  constructor
  · change Covered queue.notEmpty (wokenFrom _ _ queue.notEmpty) queue.queue.length
    rcases takers with ⟨same, other⟩ | ⟨-, nothing⟩
    · rw [same, kept]
      exact attended.takers.weaken (List.Subset.refl _)
        (wokenFrom_others other (List.subset_cons_self ..)) (Nat.le_refl _)
    · rw [kept, nothing]
      exact .nothing
  · change Covered queue.notFull (wokenFrom _ _ queue.notFull)
      (queue.capacity - queue.queue.length)
    rcases putters with ⟨same, other⟩ | ⟨-, full⟩
    · rw [same, kept, capacity]
      exact attended.putters.weaken (List.Subset.refl _)
        (wokenFrom_others other (List.subset_cons_self ..)) (Nat.le_refl _)
    · rw [kept, capacity, full, Nat.sub_self]
      exact .nothing

private theorem Attended.stored (attended : before.Attended) (placed : before.Placed)
    (calling : before.place thread = .inside (.put data front) waited)
    (awake : ¬ before.queue.asleep thread) (stored : before.queue.Stored queue data front woken) :
    (before.moved thread place queue).Attended := by
  have taker : ¬ (before.place thread).Takes := by simp [calling, ThreadAt.Takes]
  have more : queue.queue.length = before.queue.queue.length + 1 := by
    rw [stored.queue]
    split <;> simp
  have room := stored.room
  constructor
  · change Covered queue.notEmpty (wokenFrom _ _ queue.notEmpty) queue.queue.length
    rw [more]
    refine attended.takers.notified stored.notified ?_ ?_
    · exact wokenFrom_others taker
        ((notifyOne_sublist stored.notified).trans (List.sublist_cons_self ..)).subset
    · exact wokenFrom_notified stored.notified placed.sleeping.takersOnce placed.takers
        fun asleep => awake (.inl asleep)
  · change Covered queue.notFull (wokenFrom _ _ queue.notFull)
      (queue.capacity - queue.queue.length)
    have slots : before.queue.capacity - before.queue.remaining =
        queue.capacity - queue.queue.length + 1 := by
      rw [more, stored.capacity]
      change _ - before.queue.queue.length = _
      omega
    rw [stored.notFull]
    exact (slots ▸ attended.putters).resumed (wokenFrom_turn (List.subset_cons_self ..))

private theorem Attended.took (attended : before.Attended) (placed : before.Placed)
    (calling : before.place thread = .inside .take waited)
    (awake : ¬ before.queue.asleep thread) (taken : before.queue.Taken queue data woken) :
    (before.moved thread place queue).Attended := by
  have putter : ¬ (before.place thread).Puts := by simp [calling, ThreadAt.Puts]
  have fewer : before.queue.remaining = queue.queue.length + 1 := congrArg List.length taken.queue
  have bounded : before.queue.remaining ≤ before.queue.capacity := before.queue.bounded
  constructor
  · change Covered queue.notEmpty (wokenFrom _ _ queue.notEmpty) queue.queue.length
    rw [taken.notEmpty]
    exact (fewer ▸ attended.takers).resumed (wokenFrom_turn (List.subset_cons_self ..))
  · change Covered queue.notFull (wokenFrom _ _ queue.notFull)
      (queue.capacity - queue.queue.length)
    have slots : queue.capacity - queue.queue.length =
        before.queue.capacity - before.queue.remaining + 1 := by
      rw [taken.capacity]
      omega
    rw [slots]
    refine attended.putters.notified taken.notified ?_ ?_
    · exact wokenFrom_others putter
        ((notifyOne_sublist taken.notified).trans (List.sublist_cons_self ..)).subset
    · exact wokenFrom_notified taken.notified placed.sleeping.puttersOnce placed.sleeping.putters
        fun asleep => awake (.inr asleep)

/-- Of all steps, only a `clear` that nobody notices leaves a thread asleep. -/
theorem Attended.step (attended : before.Attended) (placed : before.Placed)
    (moved : Move Request.untimed before action happened after) :
    after.Attended ↔ ¬ before.ClearsUnnoticed action := by
  cases moved with
  | called outside may =>
    refine iff_of_true (attended.turned rfl rfl (.inl ⟨rfl, ?_⟩) (.inl ⟨rfl, ?_⟩)) id
    · simp [outside, ThreadAt.Takes]
    · simp [outside, ThreadAt.Puts]
  | woke woken =>
    obtain ⟨kept, capacity, takers, putters⟩ := wake_cases woken
    refine iff_of_true ⟨?_, ?_⟩ id
    · refine attended.takers.weaken takers.subset ?_ (by simp [remaining, kept])
      exact fun thread resumes => ⟨resumes.1, fun asleep => resumes.2 (takers.subset asleep)⟩
    · refine attended.putters.weaken putters.subset ?_ (by simp [remaining, kept, capacity])
      exact fun thread resumes => ⟨resumes.1, fun asleep => resumes.2 (putters.subset asleep)⟩
  | putWaits calling awake full =>
    refine iff_of_true (attended.turned rfl rfl (.inl ⟨rfl, ?_⟩) (.inr ⟨rfl, full⟩)) ?_
    · simp [calling, ThreadAt.Takes]
    · simp [ClearsUnnoticed, calling]
  | stored calling awake stored =>
    exact iff_of_true (attended.stored placed calling awake stored)
      (by simp [ClearsUnnoticed, calling])
  | takeWaits calling awake nothing =>
    refine iff_of_true (attended.turned rfl rfl (.inr ⟨rfl, nothing⟩) (.inl ⟨rfl, ?_⟩)) ?_
    · simp [calling, ThreadAt.Puts]
    · simp [ClearsUnnoticed, calling]
  | took calling awake taken =>
    exact iff_of_true (attended.took placed calling awake taken)
      (by simp [ClearsUnnoticed, calling])
  | timedWaits calling | gaveUp calling | readNothing calling | timedTook calling =>
    exact absurd calling (placed.untimed _ _)
  | @cleared thread waited woken timeout calling awake =>
    have same : (before.moved thread .outside
        { before.queue with queue := [], bounded := Nat.zero_le _ }).wokenPutters =
        before.wokenPutters := by
      apply wokenFrom_apart
      · simp [calling, ThreadAt.Puts]
      · simp [ThreadAt.Puts]
    constructor
    · rintro ⟨-, putters⟩ ⟨-, sleeps, few⟩
      have enough := putters sleeps
      rw [same] at enough
      exact absurd few (not_lt_of_ge enough)
    · intro noticed
      refine ⟨.nothing, fun sleeps => ?_⟩
      rw [same]
      by_contra few
      exact noticed ⟨⟨waited, calling⟩, sleeps, not_le.mp few⟩

theorem Move.capacity (moved : Move requested before action happened after) :
    after.queue.capacity = before.queue.capacity := by
  cases moved with
  | woke woken => exact (wake_cases woken).2.1
  | stored calling awake stored => exact stored.capacity
  | took calling awake taken => exact taken.capacity
  | timedTook calling awake taken => exact taken.capacity
  | called | putWaits | takeWaits | timedWaits | gaveUp | readNothing | cleared => rfl

structure Heeded (capacity : Nat) (state : Threads Thread DataT) : Prop where
  placed : state.Placed
  attended : state.Attended
  capacity : state.queue.capacity = capacity

theorem heeded_of_reach {capacity : Nat} {state : Threads Thread DataT}
    (reach : Reach (threads Thread DataT capacity Request.untimed)
      (fun state action => ¬ state.ClearsUnnoticed action) state) : state.Heeded capacity := by
  apply reach.invariant
  · rintro state ⟨new, outside, -⟩
    refine ⟨⟨⟨?_, ?_, ?_, ?_⟩, ?_⟩, ⟨?_, ?_⟩, ?_⟩
    all_goals simp [new, empty, outside, Covered]
  · intro state action after heeded noticed stepped
    have moved := (step_cases stepped).2
    exact ⟨heeded.placed.step moved, (heeded.attended.step heeded.placed moved).mpr noticed,
      moved.capacity.trans heeded.capacity⟩

end Threads

/-- In every run of puts, untimed takes and clears in which no `clear` goes unnoticed, no
wake-up is lost: as long as a thread sleeps, the woken ones need all that there is. In the
states of such runs it is just the unnoticed `clear` that leaves a thread asleep. -/
theorem no_lost_wakeup {capacity : Nat} {state : Threads Thread DataT}
    (reach : Reach (threads Thread DataT capacity Request.untimed)
      (fun state action => ¬ state.ClearsUnnoticed action) state) :
    ((∃ thread, thread ∈ state.queue.notEmpty) →
      (state.queue.remaining : ℕ∞) ≤ state.wokenTakers.encard) ∧
    ((∃ thread, thread ∈ state.queue.notFull) →
      ((capacity - state.queue.remaining : Nat) : ℕ∞) ≤ state.wokenPutters.encard) ∧
    ∀ action after, state.step Request.untimed action = some after →
      (after.Attended ↔ ¬ state.ClearsUnnoticed action) := by
  have heeded := Threads.heeded_of_reach reach
  refine ⟨heeded.attended.takers, ?_, fun action after stepped => ?_⟩
  · rw [← heeded.capacity]
    exact heeded.attended.putters
  · exact heeded.attended.step heeded.placed (Threads.step_cases stepped).2

/-- Two takers sleep, and the one that a put wakes has not resumed yet. -/
theorem no_lost_wakeup_woken :
    ∃ state : Threads (Fin 3) Nat,
      Reach (threads (Fin 3) Nat 1 Request.untimed)
        (fun state action => ¬ state.ClearsUnnoticed action) state ∧
      state.queue.notEmpty = [1] ∧ (1 : ℕ∞) ≤ state.wokenTakers.encard := by
  have initial : Reach (threads (Fin 3) Nat 1 Request.untimed)
      (fun state _ => state.queue.notFull = []) ⟨.empty 1, fun _ => .outside, false⟩ :=
    .start ⟨rfl, fun _ => rfl, rfl⟩
  obtain ⟨state, reach, asleep, one⟩ := initial.exists_of_schedule
    (fun state => state.queue.notEmpty = [1] ∧ state.queue.remaining = 1)
    [.calls 0 .take, .turn 0 none false, .calls 1 .take, .turn 1 none false,
      .calls 2 (.put 7 false), .turn 2 (some 0) false] (by decide)
  have noticed : Reach (threads (Fin 3) Nat 1 Request.untimed)
      (fun state action => ¬ state.ClearsUnnoticed action) state := by
    refine reach.mono fun state action nobody unnoticed => ?_
    cases action with
    | turn thread =>
      obtain ⟨-, ⟨sleeper, member⟩, -⟩ := unnoticed
      rw [nobody] at member
      cases member
    | calls | wakes => exact unnoticed
  have enough := (no_lost_wakeup noticed).1 ⟨1, by simp [asleep]⟩
  rw [one] at enough
  exact ⟨state, noticed, asleep, enough⟩

/-- A putter sleeps on after another thread has cleared the full queue. -/
theorem clear_unnoticed :
    ∃ state : Threads Bool Nat, Reachable (threads Bool Nat 1 Request.untimed) state ∧
      true ∈ state.queue.notFull ∧
      ¬ ((1 - state.queue.remaining : Nat) : ℕ∞) ≤ state.wokenPutters.encard := by
  have initial : Reachable (threads Bool Nat 1 Request.untimed)
      ⟨.empty 1, fun _ => .outside, false⟩ := .start ⟨rfl, fun _ => rfl, rfl⟩
  obtain ⟨state, reach, asleep, free, outside⟩ := initial.exists_of_schedule
    (fun state => state.queue.notFull = [true] ∧ state.queue.remaining = 0 ∧
      state.place false = .outside)
    [.calls true (.put 7 false), .turn true none false, .calls true (.put 8 false),
      .turn true none false, .calls false .clear, .turn false none false] (by decide)
  have nobody : state.wokenPutters = ∅ := by
    apply Set.eq_empty_of_forall_notMem
    rintro thread ⟨⟨data, front, puts⟩, awake⟩
    cases thread with
    | true => simp [asleep] at awake
    | false => simp [outside] at puts
  refine ⟨state, reach, by simp [asleep], ?_⟩
  rw [free, nobody, Set.encard_empty]
  simp

end MotorInfoUpload.BlockQueue
