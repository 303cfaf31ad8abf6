import MotorInfoUpload.QueueWakeUps
import Mathlib.Data.Fintype.Basic

/-! The timed `take`. It waits before it has looked into the queue, and goes by what
`wait_for` returns and not by what the queue holds. What `wait_for` returns depends on what
has ended the wait: a notification, nobody, or the end of the seconds. -/

namespace MotorInfoUpload.BlockQueue

open Machine

variable {Thread DataT : Type}

def Happened.Takes : Happened Thread DataT → Prop
  | .returned _ request _ result => result.isSome = true ∨ request = .clear
  | .began _ _ => False

def Happened.PutsFront : Happened Thread DataT → Prop
  | .returned _ (.put _ true) _ _ => True
  | _ => False

/-- No timed `take` has read an empty list, or returned `nullptr` while the queue held
something; and what it has returned was the front element. -/
structure TimedRight (state : Threads Thread DataT) (log : List (Happened Thread DataT)) : Prop where
  defined : state.undefined = false
  gaveUp : ∀ thread queue, .returned thread .takeSeconds queue none ∈ log → queue = []
  front : ∀ thread queue data, .returned thread .takeSeconds queue (some data) ∈ log →
    queue.head? = some data

/-- The turn after a wait finds the queue as `wait_for` has it: empty just if it has timed out. -/
def WaitEndsRight (state : Threads Thread DataT) : ThreadAction Thread DataT → Prop
  | .turn thread _ timeout =>
    state.place thread = .inside .takeSeconds true → timeout = state.queue.isEmpty
  | _ => True

/-- The queue is what it was when a timed `take` began to wait, as far as its front goes and
nothing has been taken since. -/
def Remembers (queue : List DataT) (log : List (Happened Thread DataT)) : Prop :=
  ∀ between thread held older, log = between ++ .began thread held :: older → held ≠ [] →
    (∀ entry ∈ between, ¬ entry.Takes) →
    ∃ data, queue.head? = some data ∧
      ((∀ entry ∈ between, ¬ entry.PutsFront) → held.head? = some data)

section Remembers

variable {queue later : List DataT} {log : List (Happened Thread DataT)}
  {entry : Happened Thread DataT} {thread : Thread}

theorem Remembers.nothing : Remembers queue ([] : List (Happened Thread DataT)) := by
  intro between thread held older same
  simp at same

theorem Remembers.began (remembers : Remembers queue log) :
    Remembers queue (.began thread queue :: log) := by
  intro between other held older same nonempty untaken
  cases between with
  | nil =>
    cases same
    obtain ⟨data, rest, rfl⟩ := List.exists_cons_of_ne_nil nonempty
    exact ⟨data, rfl, fun _ => rfl⟩
  | cons first between =>
    cases same
    obtain ⟨data, found, front⟩ := remembers between other held older rfl nonempty
      fun entry member => untaken entry (List.mem_cons_of_mem _ member)
    exact ⟨data, found, fun back => front fun entry member =>
      back entry (List.mem_cons_of_mem _ member)⟩

/-- A call returns: one that takes nothing leaves something at the front, and unless it puts
something there, what has been there. -/
theorem Remembers.returned {request : Request DataT} {held : List DataT} {result : Option DataT}
    (remembers : Remembers queue log)
    (keeps : ¬ (Happened.returned thread request held result).Takes → ∀ data,
      queue.head? = some data → ∃ front, later.head? = some front ∧
        (¬ (Happened.returned thread request held result).PutsFront → front = data)) :
    Remembers later (.returned thread request held result :: log) := by
  intro between other began older same nonempty untaken
  cases between with
  | nil => cases same
  | cons first between =>
    cases same
    obtain ⟨data, found, front⟩ := remembers between other began older rfl nonempty
      fun entry member => untaken entry (List.mem_cons_of_mem _ member)
    obtain ⟨now, there, same⟩ := keeps (untaken _ (List.mem_cons_self ..)) data found
    refine ⟨now, there, fun back => ?_⟩
    rw [same (back _ (List.mem_cons_self ..))]
    exact front fun entry member => back entry (List.mem_cons_of_mem _ member)

def EveryReturn (log : List (Happened Thread DataT)) : Prop :=
  ∀ newer thread queue result older,
    log = newer ++ .returned thread .takeSeconds queue result :: older → Remembers queue older

theorem EveryReturn.nothing : EveryReturn ([] : List (Happened Thread DataT)) := by
  intro newer thread queue result older same
  simp at same

theorem EveryReturn.cons (every : EveryReturn log)
    (recent : ∀ thread queue result, entry = .returned thread .takeSeconds queue result →
      Remembers queue log) : EveryReturn (entry :: log) := by
  intro newer thread queue result older same
  cases newer with
  | nil =>
    cases same
    exact recent thread queue result rfl
  | cons first newer => exact every newer thread queue result older (List.cons.inj same).2

end Remembers

section Steps

variable [DecidableEq Thread] {requested : Request DataT → Bool}
  {before after : Threads Thread DataT} {action : ThreadAction Thread DataT}
  {happened log : List (Happened Thread DataT)}

theorem Remembers.step (remembers : Remembers before.queue.queue log)
    (moved : before.Move requested action happened after) :
    Remembers after.queue.queue (happened ++ log) := by
  cases moved with
  | called | putWaits | takeWaits | readNothing => exact remembers
  | woke woken =>
    change Remembers _ log
    rwa [(wake_cases woken).1]
  | timedWaits => exact remembers.began
  | @stored thread data front waited woken timeout queue calling awake stored =>
    refine remembers.returned fun _ first found => ?_
    change ∃ now, queue.queue.head? = some now ∧ _
    rw [stored.queue]
    cases front with
    | true => exact ⟨data, rfl, fun back => absurd trivial back⟩
    | false => exact ⟨first, by simp [found], fun _ => rfl⟩
  | gaveUp => exact remembers.returned fun _ first found => ⟨first, found, fun _ => rfl⟩
  | took | timedTook => exact remembers.returned fun untaken => absurd (.inl rfl) untaken
  | cleared => exact remembers.returned fun untaken => absurd (.inr rfl) untaken

theorem EveryReturn.step (every : EveryReturn log) (remembers : Remembers before.queue.queue log)
    (moved : before.Move requested action happened after) : EveryReturn (happened ++ log) := by
  cases moved with
  | called | woke | putWaits | takeWaits | readNothing => exact every
  | timedWaits | stored | took | cleared =>
    refine every.cons fun thread queue result same => ?_
    cases same
  | gaveUp | timedTook =>
    refine every.cons fun thread queue result same => ?_
    cases same
    exact remembers

omit [DecidableEq Thread] in
private theorem TimedRight.kept (right : TimedRight before log)
    (defined : after.undefined = before.undefined)
    (untimed : ∀ thread queue result, .returned thread .takeSeconds queue result ∉ happened) :
    TimedRight after (happened ++ log) where
  defined := defined.trans right.defined
  gaveUp thread queue member := right.gaveUp thread queue
    ((List.mem_append.mp member).resolve_left (untimed thread queue none))
  front thread queue data member := right.front thread queue data
    ((List.mem_append.mp member).resolve_left (untimed thread queue (some data)))

omit [DecidableEq Thread] in
private theorem TimedRight.returned {thread : Thread} {queue : List DataT} {result : Option DataT}
    (right : TimedRight before log) (defined : after.undefined = before.undefined)
    (found : result = queue.head?) :
    TimedRight after (.returned thread .takeSeconds queue result :: log) := by
  refine ⟨defined.trans right.defined, fun other held member => ?_,
    fun other held data member => ?_⟩
  · rcases List.mem_cons.mp member with same | earlier
    · cases same
      exact List.head?_eq_none_iff.mp found.symm
    · exact right.gaveUp other held earlier
  · rcases List.mem_cons.mp member with same | earlier
    · cases same
      exact found.symm
    · exact right.front other held data earlier

theorem TimedRight.step (right : TimedRight before log)
    (moved : before.Move requested action happened after) :
    TimedRight after (happened ++ log) ↔ WaitEndsRight before action := by
  cases moved with
  | called | woke => exact iff_of_true (right.kept rfl (by simp)) trivial
  | putWaits calling | stored calling | takeWaits calling | took calling | timedWaits calling
  | cleared calling =>
    exact iff_of_true (right.kept rfl (by simp)) (by simp [WaitEndsRight, calling])
  | gaveUp calling =>
    constructor
    · intro after _
      have nothing := after.gaveUp _ _ (List.mem_cons_self ..)
      rw [isEmpty, nothing]
      rfl
    · intro ends
      have nothing : before.queue.queue = [] := List.isEmpty_iff.mp (ends calling).symm
      exact right.returned rfl (List.head?_eq_none_iff.mpr nothing).symm
  | readNothing calling awake nothing =>
    refine iff_of_false (fun after => ?_) fun ends => ?_
    · cases after.defined
    · have stored := ends calling
      rw [isEmpty, nothing] at stored
      cases stored
  | timedTook calling awake taken =>
    refine iff_of_true (right.returned rfl ?_) fun _ => ?_
    · rw [taken.queue]
      rfl
    · rw [isEmpty, taken.queue]
      rfl

end Steps

/-- Timed takes that have been woken and have not had the lock again. -/
def Threads.wokenTimed (self : Threads Thread DataT) : Set Thread :=
  wokenFrom (· = .inside .takeSeconds true) self.place self.queue.notEmpty

/-- The threads, and those among them whose wait has been ended by the end of its seconds. -/
structure TimedThreads (Thread DataT : Type) where
  threads : Threads Thread DataT
  expired : Thread → Bool

inductive TimedThreadAction (Thread DataT : Type) where
  | threads (action : ThreadAction Thread DataT)
  | elapses (thread : Thread)

namespace TimedThreads

instance decidableWaiting (place : ThreadAt DataT) : Decidable (place = .inside .takeSeconds true) :=
  match place with
  | .inside .takeSeconds true => .isTrue rfl
  | .outside | .inside .takeSeconds false | .inside .take _ | .inside .clear _
  | .inside (.put _ _) _ => .isFalse (by simp)

/-- `wait_for` returns a timeout just if the end of the seconds has ended the wait. -/
def Permits (timed : TimedThreads Thread DataT) : ThreadAction Thread DataT → Prop
  | .turn thread _ timeout =>
    timed.threads.place thread = .inside .takeSeconds true → timeout = timed.expired thread
  | _ => True

instance (timed : TimedThreads Thread DataT) (action : ThreadAction Thread DataT) :
    Decidable (timed.Permits action) := match action with
  | .turn thread _ timeout => inferInstanceAs
    (Decidable (timed.threads.place thread = _ → timeout = timed.expired thread))
  | .calls _ _ | .wakes _ => .isTrue trivial

variable [DecidableEq Thread]

/-- A turn has the lock, and with it the wait is over. -/
def heard (timed : TimedThreads Thread DataT) : ThreadAction Thread DataT → Thread → Bool
  | .turn thread _ _ => Function.update timed.expired thread false
  | _ => timed.expired

def step (requested : Request DataT → Bool) (timed : TimedThreads Thread DataT) :
    TimedThreadAction Thread DataT → Option (TimedThreads Thread DataT)
  | .threads action =>
    if timed.Permits action then
      (timed.threads.step requested action).map fun threads => ⟨threads, timed.heard action⟩
    else none
  | .elapses thread =>
    if timed.threads.place thread = .inside .takeSeconds true then
      (timed.threads.step requested (.wakes thread)).map fun threads =>
        ⟨threads, Function.update timed.expired thread true⟩
    else none

def happens (timed : TimedThreads Thread DataT) :
    TimedThreadAction Thread DataT → List (Happened Thread DataT)
  | .threads action => timed.threads.happens action
  | .elapses _ => []

inductive Move (requested : Request DataT → Bool) (before : TimedThreads Thread DataT) :
    TimedThreadAction Thread DataT → List (Happened Thread DataT) → TimedThreads Thread DataT →
      Prop where
  | acted {after : Threads Thread DataT} (permitted : before.Permits action)
      (moved : before.threads.Move requested action happened after) :
      Move requested before (.threads action) happened ⟨after, before.heard action⟩
  | elapsed {queue : BlockQueue Thread DataT}
      (waiting : before.threads.place thread = .inside .takeSeconds true)
      (woken : before.threads.queue.wake thread = some queue) :
      Move requested before (.elapses thread) []
        ⟨{ before.threads with queue }, Function.update before.expired thread true⟩

theorem step_cases {requested : Request DataT → Bool}
    {before after : TimedThreads Thread DataT} {action : TimedThreadAction Thread DataT}
    (stepped : before.step requested action = some after) :
    Move requested before action (before.happens action) after := by
  cases action with
  | threads action =>
    simp only [step] at stepped
    split at stepped
    · rename_i permitted
      obtain ⟨threads, moved, rfl⟩ := Option.map_eq_some_iff.mp stepped
      exact .acted permitted (Threads.step_cases moved).2
    · cases stepped
  | elapses thread =>
    simp only [step] at stepped
    split at stepped
    · rename_i waiting
      obtain ⟨threads, moved, rfl⟩ := Option.map_eq_some_iff.mp stepped
      cases (Threads.step_cases moved).2 with
      | woke woken => exact .elapsed waiting woken
    · cases stepped

/-- The turn of a thread that stands at the given place leaves another timed take with the
wrong queue: it stores something although the seconds of that one have run out, or it takes
the last element, or clears the queue, although they have not. -/
def UnsettlesAt (timed : TimedThreads Thread DataT) (thread : Thread) : ThreadAt DataT → Prop
  | .inside (.put _ _) _ =>
    timed.threads.queue.isFull = false ∧
      ∃ other ∈ timed.threads.wokenTimed, timed.expired other = true
  | .inside .take _ | .inside .takeSeconds true =>
    timed.threads.queue.remaining = 1 ∧
      ∃ other ∈ timed.threads.wokenTimed, other ≠ thread ∧ timed.expired other = false
  | .inside .clear _ => ∃ other ∈ timed.threads.wokenTimed, timed.expired other = false
  | .inside .takeSeconds false | .outside => False

/-- A step that leaves a woken timed take with the wrong queue. Apart from such turns it is
the end of its seconds while the queue holds something, or a wake-up that nobody has sent
while the queue is empty. -/
def Unsettles (timed : TimedThreads Thread DataT) : TimedThreadAction Thread DataT → Prop
  | .elapses _ => timed.threads.queue.isEmpty = false
  | .threads (.wakes thread) =>
    timed.threads.place thread = .inside .takeSeconds true ∧ timed.threads.queue.isEmpty = true
  | .threads (.calls _ _) => False
  | .threads (.turn thread _ _) => timed.UnsettlesAt thread (timed.threads.place thread)

instance (self : Threads Thread DataT) (thread : Thread) : Decidable (thread ∈ self.wokenTimed) :=
  inferInstanceAs (Decidable (_ = _ ∧ _))

instance [Fintype Thread] (timed : TimedThreads Thread DataT) (thread : Thread)
    (place : ThreadAt DataT) : Decidable (timed.UnsettlesAt thread place) := match place with
  | .inside (.put _ _) _ | .inside .take _ | .inside .takeSeconds true =>
    inferInstanceAs (Decidable (_ ∧ ∃ _, _ ∧ _))
  | .inside .clear _ => inferInstanceAs (Decidable (∃ _, _ ∧ _))
  | .inside .takeSeconds false | .outside => .isFalse id

instance [Fintype Thread] (timed : TimedThreads Thread DataT)
    (action : TimedThreadAction Thread DataT) : Decidable (timed.Unsettles action) := match action with
  | .elapses _ => inferInstanceAs (Decidable (_ = _))
  | .threads (.wakes _) => inferInstanceAs (Decidable (_ ∧ _))
  | .threads (.calls _ _) => .isFalse id
  | .threads (.turn _ _ _) => inferInstanceAs (Decidable (TimedThreads.UnsettlesAt ..))

/-- Every woken timed take would go right if it had the lock now. -/
def Settled (timed : TimedThreads Thread DataT) : Prop :=
  ∀ thread ∈ timed.threads.wokenTimed, timed.expired thread = timed.threads.queue.isEmpty

/-- What is known of the threads in any run: the end of the seconds wakes. -/
structure Clocked (timed : TimedThreads Thread DataT) : Prop where
  sleeping : timed.threads.Sleeping
  expired : ∀ thread, timed.expired thread = true → thread ∈ timed.threads.wokenTimed

section Steps

variable {requested : Request DataT → Bool} {before after : TimedThreads Thread DataT}
  {threads : Threads Thread DataT} {queue later : BlockQueue Thread DataT}
  {action : TimedThreadAction Thread DataT} {thread : Thread} {place : ThreadAt DataT}

theorem wake_eq (woken : queue.wake thread = some later) : queue.asleep thread ∧
    later = { queue with notEmpty := queue.notEmpty.erase thread
                         notFull := queue.notFull.erase thread } := by
  unfold wake at woken
  split at woken
  · exact ⟨‹_›, (Option.some.inj woken).symm⟩
  · cases woken

theorem wokenTimed_wake (sleeping : before.threads.Sleeping)
    (waiting : before.threads.place thread = .inside .takeSeconds true)
    (woken : before.threads.queue.wake thread = some queue) :
    thread ∉ before.threads.wokenTimed ∧
      { before.threads with queue }.wokenTimed = insert thread before.threads.wokenTimed := by
  obtain ⟨asleep, rfl⟩ := wake_eq woken
  have member : thread ∈ before.threads.queue.notEmpty := by
    refine asleep.resolve_right fun puts => ?_
    obtain ⟨data, front, calling⟩ := sleeping.putters thread puts
    rw [waiting] at calling
    cases calling
  refine ⟨fun resumed => resumed.2 member, Set.ext fun other => ?_⟩
  by_cases same : other = thread
  · subst same
    exact iff_of_true ⟨waiting, sleeping.takersOnce.not_mem_erase⟩ (.inl rfl)
  · refine Iff.trans (and_congr_right fun _ => not_congr (List.mem_erase_of_ne same)) ?_
    exact (or_iff_right same).symm

private theorem wokenTimed_kept
    (moved : before.threads.Move requested (.turn thread woken timeout) happened threads) :
    before.threads.wokenTimed \ {thread} ⊆ threads.wokenTimed := by
  cases moved with
  | putWaits | gaveUp | readNothing | cleared => exact wokenFrom_turn (List.subset_cons_self ..)
  | takeWaits | timedWaits => exact wokenFrom_turn (List.Subset.refl _)
  | stored calling awake stored =>
    exact wokenFrom_turn ((notifyOne_sublist stored.notified).trans (List.sublist_cons_self ..)).subset
  | took calling awake taken | timedTook calling awake taken =>
    exact wokenFrom_turn (taken.notEmpty ▸ List.subset_cons_self ..)

theorem Clocked.step (clocked : Clocked before) (moved : Move requested before action happened after) :
    Clocked after := by
  cases moved with
  | @elapsed thread queue waiting woken =>
    have slept : before.threads.Move requested (.wakes thread) [] { before.threads with queue } :=
      .woke woken
    refine ⟨clocked.sleeping.step slept, fun other expired => ?_⟩
    rw [(wokenTimed_wake clocked.sleeping waiting woken).2]
    by_cases same : other = thread
    · exact .inl same
    · exact .inr (clocked.expired other (by simpa [same] using expired))
  | @acted action _ _ _ moved =>
    refine ⟨clocked.sleeping.step moved, fun other expired => ?_⟩
    cases action with
    | turn thread =>
      by_cases same : other = thread
      · simp [heard, same] at expired
      · have expired : before.expired other = true := by simpa [heard, same] using expired
        exact wokenTimed_kept moved ⟨clocked.expired other expired, same⟩
    | calls =>
      cases moved with
      | called outside =>
        exact wokenFrom_others (by simp [outside]) (List.subset_cons_self ..)
          (clocked.expired other expired)
    | wakes =>
      cases moved with
      | woke woken =>
        obtain ⟨waits, awake⟩ := clocked.expired other expired
        exact ⟨waits, fun asleep => awake ((wake_cases woken).2.2.1.subset asleep)⟩

private theorem settled_turn (left : threads.wokenTimed = before.threads.wokenTimed \ {thread}) :
    Settled ⟨threads, before.heard (.turn thread woken timeout)⟩ ↔
      ∀ other ∈ before.threads.wokenTimed, other ≠ thread →
        before.expired other = threads.queue.isEmpty := by
  unfold Settled
  rw [left]
  refine ⟨fun settled other member different => ?_, fun others other ⟨member, different⟩ => ?_⟩
  · have right := settled other ⟨member, different⟩
    simpa [heard, different] using right
  · have different : other ≠ thread := different
    simpa [heard, different] using others other member different

private theorem settled_idle (settled : Settled before)
    (left : threads.wokenTimed = before.threads.wokenTimed \ {thread})
    (same : threads.queue.queue = before.threads.queue.queue) :
    Settled ⟨threads, before.heard (.turn thread woken timeout)⟩ := by
  refine (settled_turn left).mpr fun other member _ => ?_
  rw [settled other member, isEmpty, isEmpty, same]

private theorem settled_took (settled : Settled before)
    (taken : before.threads.queue.Taken queue data woken)
    (left : threads.wokenTimed = before.threads.wokenTimed \ {thread})
    (same : threads.queue = queue) :
    Settled ⟨threads, before.heard (.turn thread woken timeout)⟩ ↔
      ¬ (before.threads.queue.remaining = 1 ∧
        ∃ other ∈ before.threads.wokenTimed, other ≠ thread ∧ before.expired other = false) := by
  have unexpired : ∀ other ∈ before.threads.wokenTimed, before.expired other = false := by
    intro other member
    rw [settled other member, isEmpty, taken.queue]
    rfl
  have last : before.threads.queue.remaining = 1 ↔ threads.queue.isEmpty = true := by
    rw [remaining, taken.queue, same, isEmpty, List.isEmpty_iff, List.length_cons,
      Nat.add_eq_right, List.length_eq_zero_iff]
  rw [settled_turn left, last]
  constructor
  · rintro others ⟨nothing, other, member, different, unexpired⟩
    rw [others other member different, nothing] at unexpired
    cases unexpired
  · intro allowed other member different
    rw [unexpired other member]
    by_contra nothing
    have nothing : threads.queue.isEmpty = true := by simpa using Ne.symm nothing
    exact allowed ⟨nothing, other, member, different, unexpired other member⟩

private theorem settled_stored (clocked : Clocked before)
    (calling : before.threads.place thread = .inside (.put data front) waited)
    (stored : before.threads.queue.Stored queue data front woken) :
    Settled ⟨before.threads.moved thread .outside queue, before.heard (.turn thread woken timeout)⟩ ↔
      ¬ (before.threads.queue.isFull = false ∧
        ∃ other ∈ before.threads.wokenTimed, before.expired other = true) := by
  have room : before.threads.queue.isFull = false := by
    simpa [isFull] using Nat.ne_of_lt stored.room
  have something : queue.isEmpty = false := by
    rw [isEmpty, stored.queue]
    cases front <;> simp
  constructor
  · rintro settled ⟨-, other, member, expired⟩
    have different : other ≠ thread := by
      rintro rfl
      have waiting : before.threads.place other = .inside .takeSeconds true := member.1
      rw [calling] at waiting
      cases waiting
    have kept : other ∈ (before.threads.moved thread .outside queue).wokenTimed :=
      wokenFrom_turn ((notifyOne_sublist stored.notified).trans (List.sublist_cons_self ..)).subset
        ⟨member, different⟩
    have right : before.expired other = queue.isEmpty := by
      simpa [heard, different, Threads.moved] using settled other kept
    rw [expired, something] at right
    cases right
  · intro allowed other member
    by_cases same : other = thread
    · have there := member.1
      rw [same] at there
      simp [Threads.moved] at there
    · change Function.update before.expired thread false other = queue.isEmpty
      rw [Function.update_of_ne same, something]
      by_contra expired
      have expired : before.expired other = true := by simpa using expired
      exact allowed ⟨room, other, clocked.expired other expired, expired⟩

private theorem settled_woke (settled : Settled before) (clocked : Clocked before)
    (woken : before.threads.queue.wake thread = some queue) :
    Settled ⟨{ before.threads with queue }, before.expired⟩ ↔
      ¬ (before.threads.place thread = .inside .takeSeconds true ∧
        before.threads.queue.isEmpty = true) := by
  have same : queue.isEmpty = before.threads.queue.isEmpty := by
    rw [isEmpty, (wake_cases woken).1, isEmpty]
  by_cases waiting : before.threads.place thread = .inside .takeSeconds true
  · obtain ⟨asleep, more⟩ := wokenTimed_wake clocked.sleeping waiting woken
    have unexpired : before.expired thread = false := by
      simpa using mt (clocked.expired thread) asleep
    unfold Settled
    rw [more]
    constructor
    · rintro right ⟨-, nothing⟩
      have found : before.expired thread = queue.isEmpty := right thread (.inl rfl)
      rw [unexpired, same, nothing] at found
      cases found
    · rintro allowed other (rfl | member)
      · have something : before.threads.queue.isEmpty = false := by simpa [waiting] using allowed
        exact unexpired.trans (something.symm.trans same.symm)
      · exact (settled other member).trans same.symm
  · refine iff_of_true (fun other member => ?_) fun unsettles => waiting unsettles.1
    obtain ⟨-, rfl⟩ := wake_eq woken
    have there : before.threads.place other = .inside .takeSeconds true := member.1
    have different : other ≠ thread := fun same => waiting (same ▸ there)
    exact settled other ⟨there, fun asleep => member.2 ((List.mem_erase_of_ne different).mpr asleep)⟩

private theorem settled_elapsed (settled : Settled before) (clocked : Clocked before)
    (waiting : before.threads.place thread = .inside .takeSeconds true)
    (woken : before.threads.queue.wake thread = some queue) :
    Settled ⟨{ before.threads with queue }, Function.update before.expired thread true⟩ ↔
      ¬ before.threads.queue.isEmpty = false := by
  obtain ⟨-, more⟩ := wokenTimed_wake clocked.sleeping waiting woken
  have same : queue.isEmpty = before.threads.queue.isEmpty := by
    rw [isEmpty, (wake_cases woken).1, isEmpty]
  unfold Settled
  rw [more]
  constructor
  · intro right something
    have ended := right thread (.inl rfl)
    simp [same, something] at ended
  · intro allowed other member
    have nothing : before.threads.queue.isEmpty = true := by simpa using allowed
    change Function.update before.expired thread true other = queue.isEmpty
    by_cases this : other = thread
    · rw [this, Function.update_self, same, nothing]
    · rw [Function.update_of_ne this, same]
      exact settled other (member.resolve_left this)

private theorem settled_cleared
    (calling : before.threads.place thread = .inside .clear waited)
    (left : threads.wokenTimed = before.threads.wokenTimed \ {thread})
    (cleared : threads.queue.queue = []) :
    Settled ⟨threads, before.heard (.turn thread woken timeout)⟩ ↔
      ¬ ∃ other ∈ before.threads.wokenTimed, before.expired other = false := by
  have different : ∀ other ∈ before.threads.wokenTimed, other ≠ thread := by
    rintro other ⟨waiting, -⟩ rfl
    have waiting : before.threads.place other = .inside .takeSeconds true := waiting
    rw [calling] at waiting
    cases waiting
  rw [settled_turn left, isEmpty, cleared]
  constructor
  · rintro others ⟨other, member, unexpired⟩
    rw [others other member (different other member)] at unexpired
    cases unexpired
  · intro allowed other member _
    by_contra unexpired
    exact allowed ⟨other, member, by simpa using unexpired⟩

/-- Only an unsettling step leaves a woken timed take with the wrong queue. -/
theorem Settled.step (settled : Settled before) (clocked : Clocked before)
    (moved : Move requested before action happened after) :
    Settled after ↔ ¬ before.Unsettles action := by
  cases moved with
  | elapsed waiting woken =>
    rw [Unsettles]
    exact settled_elapsed settled clocked waiting woken
  | acted permitted moved =>
    cases moved with
    | @called thread request outside =>
      refine iff_of_true ?_ id
      have same : (before.threads.moved thread (.inside request false) before.threads.queue).wokenTimed =
          before.threads.wokenTimed := wokenFrom_apart (by simp [outside]) (by simp)
      intro other member
      rw [same] at member
      exact settled other member
    | woke woken => exact settled_woke settled clocked woken
    | putWaits calling awake full =>
      refine iff_of_true (settled_idle settled (wokenFrom_left (by simp) fun _ _ => Iff.rfl) rfl) ?_
      simp [Unsettles, UnsettlesAt, calling, isFull, full]
    | takeWaits calling awake nothing =>
      refine iff_of_true (settled_idle settled (wokenFrom_left (by simp) ?_) rfl) ?_
      · exact fun other different => List.mem_cons.trans (or_iff_right different)
      · simp [Unsettles, UnsettlesAt, calling, remaining, nothing]
    | timedWaits calling =>
      refine iff_of_true (settled_idle settled (wokenFrom_left ?_ ?_) rfl) ?_
      · exact fun _ => List.mem_cons_self ..
      · exact fun other different => List.mem_cons.trans (or_iff_right different)
      · simp [Unsettles, UnsettlesAt, calling]
    | gaveUp calling awake =>
      refine iff_of_true (settled_idle settled (wokenFrom_left (by simp) fun _ _ => Iff.rfl) rfl) ?_
      have nothing := settled _ ⟨calling, fun asleep => awake (.inl asleep)⟩
      rw [← permitted calling, eq_comm, isEmpty, List.isEmpty_iff] at nothing
      simp [Unsettles, UnsettlesAt, calling, remaining, nothing]
    | readNothing calling awake nothing =>
      refine iff_of_true (settled_idle settled (wokenFrom_left (by simp) fun _ _ => Iff.rfl) rfl) ?_
      simp [Unsettles, UnsettlesAt, calling, remaining, nothing]
    | stored calling awake stored =>
      rw [Unsettles, calling]
      exact settled_stored clocked calling stored
    | took calling awake taken | timedTook calling awake taken =>
      rw [Unsettles, calling]
      refine settled_took settled taken ?_ rfl
      exact wokenFrom_left (by simp) (by simp [Threads.moved, taken.notEmpty])
    | cleared calling =>
      rw [Unsettles, calling]
      exact settled_cleared calling (wokenFrom_left (by simp) fun _ _ => Iff.rfl) rfl

/-- A woken timed take that is right goes right, and any other step goes right anyway. -/
theorem Settled.waitEndsRight (settled : Settled before) {action : ThreadAction Thread DataT}
    (permitted : before.Permits action)
    (moved : before.threads.Move requested action happened threads) :
    WaitEndsRight before.threads action := by
  cases moved with
  | called | woke => trivial
  | putWaits calling | stored calling | takeWaits calling | took calling | timedWaits calling
  | cleared calling => simp [WaitEndsRight, calling]
  | gaveUp calling awake | readNothing calling awake | timedTook calling awake =>
    intro waiting
    have waiting : _ = ThreadAt.inside .takeSeconds true := waiting
    exact (permitted waiting).trans (settled _ ⟨waiting, fun asleep => awake (.inl asleep)⟩)

/-- One that is wrong can have the lock next. -/
theorem turn_of_unsettled (clocked : Clocked before) (defined : before.threads.undefined = false)
    (member : thread ∈ before.threads.wokenTimed)
    (wrong : before.expired thread ≠ before.threads.queue.isEmpty) : ∃ after,
      before.step requested (.threads (.turn thread none (before.expired thread))) = some after := by
  have calling : before.threads.place thread = .inside .takeSeconds true := member.1
  have awake : ¬ before.threads.queue.asleep thread := by
    rintro (takes | puts)
    · exact member.2 takes
    · obtain ⟨data, front, putting⟩ := clocked.sleeping.putters thread puts
      rw [calling] at putting
      cases putting
  have permitted : before.Permits (.turn thread none (before.expired thread)) := fun _ => rfl
  rw [step, if_pos permitted, Threads.step, if_neg (by simp [defined])]
  simp only [calling]
  cases expired : before.expired thread with
  | true => simp [takeSeconds, awake]
  | false =>
    have nothing : before.threads.queue.queue = [] := by
      rw [expired] at wrong
      simpa [isEmpty] using wrong
    unfold takeSeconds
    rw [if_neg awake, if_neg (by simp), if_neg (by simp)]
    split
    · simp
    · rename_i data rest stored
      rw [nothing] at stored
      cases stored

end Steps

end TimedThreads

/-- Any number of threads that use a new queue, with the seconds of their timed takes. -/
def timedThreads (Thread DataT : Type) [DecidableEq Thread] (capacity : Nat)
    (requested : Request DataT → Bool) :
    Automaton (TimedThreads Thread DataT) (TimedThreadAction Thread DataT) where
  start timed := (threads Thread DataT capacity requested).start timed.threads ∧
    ∀ thread, timed.expired thread = false
  step := TimedThreads.step requested

def timedRecorded (Thread DataT : Type) [DecidableEq Thread] (capacity : Nat)
    (requested : Request DataT → Bool) :
    Automaton (Recorded (TimedThreads Thread DataT) (List (Happened Thread DataT)))
      (TimedThreadAction Thread DataT) :=
  (timedThreads Thread DataT capacity requested).recording [] fun log timed action _ =>
    timed.happens action ++ log

/-- What holds in a run of which no step unsettles a timed take. -/
structure Timed (timed : TimedThreads Thread DataT) (log : List (Happened Thread DataT)) : Prop where
  right : TimedRight timed.threads log
  remembers : Remembers timed.threads.queue.queue log
  every : EveryReturn log
  clocked : timed.Clocked
  settled : timed.Settled

section Runs

variable [DecidableEq Thread] {capacity : Nat} {requested : Request DataT → Bool}
  {before after : TimedThreads Thread DataT} {action : TimedThreadAction Thread DataT}
  {log : List (Happened Thread DataT)}
  {recorded : Recorded (TimedThreads Thread DataT) (List (Happened Thread DataT))}

theorem Timed.right_step (timed : Timed before log)
    (moved : TimedThreads.Move requested before action happened after) :
    TimedRight after.threads (happened ++ log) := by
  cases moved with
  | acted permitted moved =>
    exact (timed.right.step moved).mpr (timed.settled.waitEndsRight permitted moved)
  | elapsed => exact ⟨timed.right.defined, timed.right.gaveUp, timed.right.front⟩

theorem Timed.step (timed : Timed before log)
    (moved : TimedThreads.Move requested before action happened after)
    (allowed : ¬ before.Unsettles action) : Timed after (happened ++ log) where
  right := timed.right_step moved
  remembers := by
    cases moved with
    | acted permitted moved => exact timed.remembers.step moved
    | elapsed waiting woken =>
      change Remembers _ log
      rw [(wake_cases woken).1]
      exact timed.remembers
  every := by
    cases moved with
    | acted permitted moved => exact timed.every.step timed.remembers moved
    | elapsed => exact timed.every
  clocked := timed.clocked.step moved
  settled := (timed.settled.step timed.clocked moved).mpr allowed

theorem timed_of_reach (reach : Reach (timedRecorded Thread DataT capacity requested)
    (Recorded.onState fun timed action => ¬ timed.Unsettles action) recorded) :
    Timed recorded.state recorded.log := by
  refine (Reach.recorded Timed reach ?_ ?_).2
  · rintro state ⟨⟨new, outside, defined⟩, inTime⟩
    refine ⟨⟨defined, ?_, ?_⟩, .nothing, .nothing, ⟨⟨?_, ?_, ?_, ?_⟩, ?_⟩, ?_⟩
    all_goals simp [new, empty, inTime, TimedThreads.Settled, Threads.wokenTimed, wokenFrom, outside]
  · intro state log action after _ timed allowed stepped
    exact timed.step (TimedThreads.step_cases stepped) allowed

end Runs

end MotorInfoUpload.BlockQueue
