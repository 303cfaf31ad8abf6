import MotorInfoUpload.Machine.Simulation
import MotorInfoUpload.QueueWakeUps

/-! A queue inside a larger system. Where each step of the system makes one of the moves
below with the queue, the queue and its callers are a run of `threads`, and what holds of
every queue with any threads holds in the system. -/

namespace MotorInfoUpload.BlockQueue

open Machine

variable {Thread DataT : Type} [DecidableEq Thread]

theorem Stored.put {self after : BlockQueue Thread DataT}
    (stored : self.Stored after data front woken) (awake : ¬ self.asleep thread) :
    self.put thread data front woken = some (.returns after ()) := by
  obtain ⟨room, queue, capacity, notFull, notified⟩ := stored
  have free : ¬ self.isFull = true := by
    simp only [isFull, beq_iff_eq]
    exact Nat.ne_of_lt room
  obtain ⟨_, _, _, _, _⟩ := after
  simp only at queue capacity notFull notified
  subst queue capacity notFull
  simp [BlockQueue.put, awake, free, notified]

theorem Taken.take {self after : BlockQueue Thread DataT} (taken : self.Taken after data woken)
    (awake : ¬ self.asleep thread) : self.take thread woken = some (.returns after data) := by
  obtain ⟨queue, capacity, notEmpty, notified⟩ := taken
  obtain ⟨_, stored, _, _, bounded⟩ := self
  cases after
  cases capacity
  cases queue
  cases notEmpty
  unfold BlockQueue.take
  rw [if_neg awake]
  simp only at notified
  simp [notified]

/-- The operation that a thread is in. -/
def ThreadAt.request : ThreadAt DataT → Option (Request DataT)
  | .outside => none
  | .inside request _ => some request

/-- What a step makes of the call that `thread` is in, and of the queue. -/
inductive Uses (thread : Thread) (queue : BlockQueue Thread DataT) :
    Option (Request DataT) → Option (Request DataT) → BlockQueue Thread DataT → Prop where
  | stays : Uses thread queue call call queue
  | enters (may : request.putOrTake = true) : Uses thread queue none (some request) queue
  | putWaits (awake : ¬ queue.asleep thread) (full : queue.queue.length = queue.capacity) :
      Uses thread queue (some (.put data front)) (some (.put data front))
        { queue with notFull := thread :: queue.notFull }
  | stored (awake : ¬ queue.asleep thread) (stored : queue.Stored after data front woken) :
      Uses thread queue (some (.put data front)) none after
  | takeWaits (awake : ¬ queue.asleep thread) (nothing : queue.queue = []) :
      Uses thread queue (some .take) (some .take)
        { queue with notEmpty := thread :: queue.notEmpty }
  | took (awake : ¬ queue.asleep thread) (taken : queue.Taken after data woken) :
      Uses thread queue (some .take) none after
  | woke (woken : queue.wake sleeper = some after) : Uses thread queue call call after

/-- The threads of a queue on its own stand for the callers of one in a system. -/
structure Serves (queue : BlockQueue Thread DataT) (calls : Thread → Option (Request DataT))
    (users : Threads Thread DataT) : Prop where
  queue : users.queue = queue
  calls : ∀ thread, (users.place thread).request = calls thread
  defined : users.undefined = false

section Step

variable {queue left : BlockQueue Thread DataT} {calls next : Thread → Option (Request DataT)}
  {users : Threads Thread DataT} {thread : Thread}

private def Follows (users : Threads Thread DataT) (queue : BlockQueue Thread DataT)
    (calls : Thread → Option (Request DataT)) : Prop :=
  ∃ action after, users.step Request.putOrTake action = some after ∧ Serves queue calls after

private theorem Serves.moved (serves : Serves queue calls users) (place : ThreadAt DataT)
    (reaches : place.request = next thread)
    (others : ∀ other, other ≠ thread → next other = calls other) :
    Serves left next (users.moved thread place left) := by
  refine ⟨rfl, fun other => ?_, serves.defined⟩
  by_cases same : other = thread
  · subst same
    simpa [Threads.moved] using reaches
  · rw [others other same, ← serves.calls other]
    simp [Threads.moved, same]

omit [DecidableEq Thread] in
private theorem Serves.inside (serves : Serves queue calls users)
    (calling : calls thread = some request) :
    ∃ waited, users.place thread = .inside request waited := by
  have same := serves.calls thread
  rw [calling] at same
  cases place : users.place thread with
  | outside => simp [place, ThreadAt.request] at same
  | inside other waited =>
    rw [place] at same
    cases same
    exact ⟨waited, rfl⟩

/-- A move of the system is a step of the threads, or none at all. -/
theorem Serves.uses (serves : Serves queue calls users)
    (used : Uses thread queue (calls thread) (next thread) left)
    (others : ∀ other, other ≠ thread → next other = calls other) :
    Serves left next users ∨ Follows users left next := by
  obtain ⟨rfl, called, defined⟩ := serves
  have serves : Serves users.queue calls users := ⟨rfl, called, defined⟩
  generalize before : calls thread = call at used
  generalize reaches : next thread = reached at used
  have unchanged (same : reached = call) : next = calls := by
    funext other
    by_cases here : other = thread
    · rw [here, reaches, before, same]
    · exact others other here
  cases used with
  | stays => exact .inl (unchanged rfl ▸ serves)
  | @enters request may =>
    have outside : users.place thread = .outside := by
      have same := called thread
      rw [before] at same
      cases place : users.place thread with
      | outside => rfl
      | inside => simp [place, ThreadAt.request] at same
    refine .inr ⟨.calls thread request, _, ?_,
      serves.moved (.inside request false) reaches.symm others⟩
    simp [Threads.step, defined, outside, may]
  | @putWaits data front awake full =>
    obtain ⟨waited, place⟩ := serves.inside before
    refine .inr ⟨.turn thread none false, _, ?_,
      serves.moved (.inside (.put data front) true) reaches.symm others⟩
    simp [Threads.step, defined, place, BlockQueue.put, awake, isFull, full]
  | @stored _ data front woken awake stored =>
    obtain ⟨waited, place⟩ := serves.inside before
    refine .inr ⟨.turn thread woken false, _, ?_, serves.moved .outside reaches.symm others⟩
    simp [Threads.step, defined, place, stored.put awake]
  | takeWaits awake nothing =>
    obtain ⟨waited, place⟩ := serves.inside before
    refine .inr ⟨.turn thread none false, _, ?_,
      serves.moved (.inside .take true) reaches.symm others⟩
    have waits : users.queue.take thread none =
        some (.waits { users.queue with notEmpty := thread :: users.queue.notEmpty }) := by
      unfold BlockQueue.take
      rw [if_neg awake]
      split
      · rfl
      · rename_i stored
        rw [nothing] at stored
        cases stored
    simp [Threads.step, defined, place, waits]
  | @took _ data woken awake taken =>
    obtain ⟨waited, place⟩ := serves.inside before
    refine .inr ⟨.turn thread woken false, _, ?_, serves.moved .outside reaches.symm others⟩
    simp [Threads.step, defined, place, taken.take awake]
  | @woke sleeper _ call woken =>
    refine .inr ⟨.wakes sleeper, { users with queue := left }, ?_, rfl, ?_, defined⟩
    · simp [Threads.step, defined, woken]
    · rw [unchanged rfl]
      exact called

end Step

section Heeded

variable {before after users : Threads Thread DataT} {requested other : Request DataT → Bool}

theorem Threads.step_weaker (weaker : ∀ request, requested request = true → other request = true)
    (stepped : before.step requested action = some after) :
    before.step other action = some after := by
  cases action with
  | calls thread request =>
    unfold Threads.step at stepped ⊢
    split at stepped
    · cases stepped
    · dsimp only at stepped
      split at stepped
      · rename_i outside may
        simp [weaker request may, *]
      · cases stepped
  | turn | wakes => exact stepped

theorem Threads.unclear_step (unclear : ∀ thread waited, before.place thread ≠ .inside .clear waited)
    (moved : Move Request.putOrTake before action happened after) :
    ∀ thread waited, after.place thread ≠ .inside .clear waited := by
  intro thread waited
  have kept {caller : Thread} {place : ThreadAt DataT} (away : place ≠ .inside .clear waited) :
      Function.update before.place caller place thread ≠ .inside .clear waited := by
    by_cases same : thread = caller
    · rwa [same, Function.update_self]
    · rw [Function.update_of_ne same]
      exact unclear thread waited
  cases moved with
  | called outside may =>
    refine kept ?_
    rintro same
    cases same
    cases may
  | woke => exact unclear thread waited
  | putWaits | stored | takeWaits | took | timedWaits | gaveUp | readNothing | timedTook | cleared =>
    exact kept (by simp)

theorem Threads.heeded_of_uses {capacity : Nat}
    (reach : Reachable (threads Thread DataT capacity Request.putOrTake) users) :
    users.Heeded capacity := by
  have run : Reach (threads Thread DataT capacity Request.untimed)
        (fun users action => ¬ users.ClearsUnnoticed action) users ∧
      ∀ thread waited, users.place thread ≠ .inside .clear waited := by
    induction reach with
    | start initially => exact ⟨.start initially, fun thread waited => by simp [initially.2.1 thread]⟩
    | @next before label after _ _ stepped ih =>
      have weaker (request : Request DataT) (may : request.putOrTake = true) :
          request.untimed = true := by cases request <;> first | rfl | cases may
      refine ⟨ih.1.next (fun unnoticed => ?_) (step_weaker weaker stepped),
        unclear_step ih.2 (step_cases stepped).2⟩
      cases label with
      | turn thread =>
        obtain ⟨⟨waited, clearing⟩, -⟩ := unnoticed
        exact ih.2 thread waited clearing
      | calls | wakes => exact unnoticed
  exact heeded_of_reach run.1

end Heeded

/-- What the queue is like for a thread that waits in the call. -/
inductive Waits (queue : BlockQueue Thread DataT) : Request DataT → Prop where
  | take (nothing : queue.queue = []) : Waits queue .take
  | put (full : queue.queue.length = queue.capacity) : Waits queue (.put data front)

omit [DecidableEq Thread] in
theorem Threads.Heeded.waits {capacity : Nat} {users : Threads Thread DataT}
    (heeded : Heeded capacity users)
    (asleep : ∀ thread request, (users.place thread).request = some request →
      users.queue.asleep thread)
    (calling : (users.place thread).request = some request) : Waits users.queue request := by
  obtain ⟨placed, attended, -⟩ := heeded
  have nobody (waiting : ThreadAt DataT → Prop) (sleepers : List Thread)
      (here : ∀ other, waiting (users.place other) → users.queue.asleep other → other ∈ sleepers)
      (inside : ∀ other, waiting (users.place other) → ∃ request,
        (users.place other).request = some request) :
      (wokenFrom waiting users.place sleepers).encard = 0 := by
    rw [Set.encard_eq_zero]
    refine Set.eq_empty_of_forall_notMem fun other ⟨waits, awake⟩ => ?_
    obtain ⟨request, calls⟩ := inside other waits
    exact awake (here other waits (asleep other request calls))
  rcases asleep thread request calling with takes | puts
  · have taking : users.place thread = .inside .take true := placed.takers thread takes
    have enough := attended.takers ⟨thread, takes⟩
    rw [Threads.wokenTakers, nobody] at enough
    · rw [taking] at calling
      cases calling
      exact .take (List.eq_nil_of_length_eq_zero (by simpa [remaining] using enough))
    · rintro other waits (sleeps | elsewhere)
      · exact sleeps
      · obtain ⟨data, front, putting⟩ := placed.sleeping.putters other elsewhere
        have waits : users.place other = .inside .take true := waits
        simp [waits] at putting
    · intro other waits
      have waits : users.place other = .inside .take true := waits
      exact ⟨.take, by rw [waits]; rfl⟩
  · obtain ⟨data, front, putting⟩ := placed.sleeping.putters thread puts
    have enough := attended.putters ⟨thread, puts⟩
    rw [Threads.wokenPutters, nobody] at enough
    · rw [putting] at calling
      cases calling
      have full : users.queue.capacity - users.queue.queue.length = 0 := by
        exact_mod_cast nonpos_iff_eq_zero.mp enough
      have bounded := users.queue.bounded
      exact .put (by omega)
    · rintro other ⟨data, front, waits⟩ (elsewhere | sleeps)
      · have taking : users.place other = .inside .take true := placed.takers other elsewhere
        simp [waits] at taking
      · exact sleeps
    · rintro other ⟨data, front, waits⟩
      exact ⟨.put data front, by rw [waits]; rfl⟩

section System

variable {State Label : Type} {machine : Automaton State Label} {guard : State → Label → Prop}
  {state : State} {capacity : Nat}

/-- A queue of a system that only makes the moves above is a queue on its own. -/
theorem served_of_reach (reach : Reach machine guard state)
    (queue : State → BlockQueue Thread DataT) (calls : State → Thread → Option (Request DataT))
    (begins : ∀ state, machine.start state →
      queue state = .empty capacity ∧ ∀ thread, calls state thread = none)
    (uses : ∀ state label after, machine.step state label = some after →
      ∃ thread, Uses thread (queue state) (calls state thread) (calls after thread) (queue after) ∧
        ∀ other, other ≠ thread → calls after other = calls state other) :
    ∃ users, Reachable (threads Thread DataT capacity Request.putOrTake) users ∧
      Serves (queue state) (calls state) users := by
  refine reach.simulated (fun state users => Serves (queue state) (calls state) users) ?_ ?_
  · intro initial started
    obtain ⟨new, outside⟩ := begins initial started
    refine ⟨⟨.empty capacity, fun _ => .outside, false⟩, ⟨rfl, fun _ => rfl, rfl⟩, ?_⟩
    exact ⟨new.symm, fun thread => (outside thread).symm, rfl⟩
  · intro before users label after _ reached serves _ stepped
    obtain ⟨thread, used, others⟩ := uses before label after stepped
    rcases serves.uses used others with same | ⟨action, next, followed, serves⟩
    · exact ⟨users, reached, same⟩
    · exact ⟨next, reached.next trivial followed, serves⟩

end System

end MotorInfoUpload.BlockQueue
