import MotorInfoUpload.BlockQueue
import MotorInfoUpload.Machine.History
import Mathlib.Logic.Function.Basic

/-! Threads that call every operation of one queue. A turn is a critical section: it ends
with the operation, or in a wait that releases the lock. What a wake-up finds when it has
the lock again is whatever the other threads have left. -/

namespace MotorInfoUpload.BlockQueue

open Machine

inductive Request (DataT : Type) where
  | put (data : DataT) (front : Bool)
  | take
  | takeSeconds
  | clear
deriving DecidableEq

/-- Every operation but the timed `take`. -/
def Request.untimed : Request DataT → Bool
  | .takeSeconds => false
  | _ => true

/-- A `put` or an untimed `take`. -/
def Request.putOrTake : Request DataT → Bool
  | .put _ _ | .take => true
  | .takeSeconds | .clear => false

/-- Where a thread is: outside, or in a call in which it has waited or not. -/
inductive ThreadAt (DataT : Type) where
  | outside
  | inside (request : Request DataT) (waited : Bool)
deriving DecidableEq

/-- The queue and its threads; `undefined` once an empty list has been read. -/
structure Threads (Thread DataT : Type) where
  queue : BlockQueue Thread DataT
  place : Thread → ThreadAt DataT
  undefined : Bool

inductive ThreadAction (Thread DataT : Type) where
  | calls (thread : Thread) (request : Request DataT)
  | turn (thread : Thread) (woken : Option Thread) (timeout : Bool)
  | wakes (thread : Thread)

/-- What a turn adds to the history: a timed `take` that begins to wait, or a call that
returns, with what the queue held before. -/
inductive Happened (Thread DataT : Type) where
  | began (thread : Thread) (queue : List DataT)
  | returned (thread : Thread) (request : Request DataT) (queue : List DataT)
      (result : Option DataT)
deriving DecidableEq

variable {Thread DataT : Type} [DecidableEq Thread]

namespace Threads

def moved (self : Threads Thread DataT) (thread : Thread) (place : ThreadAt DataT)
    (queue : BlockQueue Thread DataT) : Threads Thread DataT :=
  { self with queue, place := Function.update self.place thread place }

/-- Nothing is known of what follows once the behaviour is undefined. -/
def step (requested : Request DataT → Bool) (self : Threads Thread DataT)
    (action : ThreadAction Thread DataT) : Option (Threads Thread DataT) :=
  if self.undefined then none
  else match action with
    | .calls thread request => match self.place thread, requested request with
      | .outside, true => some (self.moved thread (.inside request false) self.queue)
      | _, _ => none
    | .wakes thread => (self.queue.wake thread).map fun queue => { self with queue }
    | .turn thread woken timeout => match self.place thread with
      | .outside => none
      | .inside (.put data front) _ => (self.queue.put thread data front woken).map fun
        | .waits queue => self.moved thread (.inside (.put data front) true) queue
        | .returns queue _ => self.moved thread .outside queue
      | .inside .take _ => (self.queue.take thread woken).map fun
        | .waits queue => self.moved thread (.inside .take true) queue
        | .returns queue _ => self.moved thread .outside queue
      | .inside .takeSeconds waited =>
        (self.queue.takeSeconds thread waited timeout woken).map fun
        | .waits queue => self.moved thread (.inside .takeSeconds true) queue
        | .returns queue .undefined => { self.moved thread .outside queue with undefined := true }
        | .returns queue _ => self.moved thread .outside queue
      | .inside .clear _ => (self.queue.clear thread).map fun queue =>
        self.moved thread .outside queue

def happens (self : Threads Thread DataT) :
    ThreadAction Thread DataT → List (Happened Thread DataT)
  | .turn thread woken timeout => match self.place thread with
    | .outside => []
    | .inside (.put data front) _ => match self.queue.put thread data front woken with
      | some (.returns _ _) => [.returned thread (.put data front) self.queue.queue none]
      | _ => []
    | .inside .take _ => match self.queue.take thread woken with
      | some (.returns _ data) => [.returned thread .take self.queue.queue (some data)]
      | _ => []
    | .inside .takeSeconds waited => match self.queue.takeSeconds thread waited timeout woken with
      | some (.waits _) => [.began thread self.queue.queue]
      | some (.returns _ .nullptr) => [.returned thread .takeSeconds self.queue.queue none]
      | some (.returns _ (.data data)) =>
        [.returned thread .takeSeconds self.queue.queue (some data)]
      | _ => []
    | .inside .clear _ => match self.queue.clear thread with
      | some _ => [.returned thread .clear self.queue.queue none]
      | none => []
  | _ => []

inductive Move (requested : Request DataT → Bool) (before : Threads Thread DataT) :
    ThreadAction Thread DataT → List (Happened Thread DataT) → Threads Thread DataT → Prop where
  | called (outside : before.place thread = .outside) (may : requested request = true) :
      Move requested before (.calls thread request) []
        (before.moved thread (.inside request false) before.queue)
  | woke {queue : BlockQueue Thread DataT} (woken : before.queue.wake thread = some queue) :
      Move requested before (.wakes thread) [] { before with queue }
  | putWaits (calling : before.place thread = .inside (.put data front) waited)
      (awake : ¬ before.queue.asleep thread)
      (full : before.queue.queue.length = before.queue.capacity) :
      Move requested before (.turn thread woken timeout) []
        (before.moved thread (.inside (.put data front) true)
          { before.queue with notFull := thread :: before.queue.notFull })
  | stored {queue : BlockQueue Thread DataT}
      (calling : before.place thread = .inside (.put data front) waited)
      (awake : ¬ before.queue.asleep thread)
      (stored : before.queue.Stored queue data front woken) :
      Move requested before (.turn thread woken timeout)
        [.returned thread (.put data front) before.queue.queue none]
        (before.moved thread .outside queue)
  | takeWaits (calling : before.place thread = .inside .take waited)
      (awake : ¬ before.queue.asleep thread) (nothing : before.queue.queue = []) :
      Move requested before (.turn thread woken timeout) []
        (before.moved thread (.inside .take true)
          { before.queue with notEmpty := thread :: before.queue.notEmpty })
  | took {queue : BlockQueue Thread DataT} (calling : before.place thread = .inside .take waited)
      (awake : ¬ before.queue.asleep thread) (taken : before.queue.Taken queue data woken) :
      Move requested before (.turn thread woken timeout)
        [.returned thread .take before.queue.queue (some data)]
        (before.moved thread .outside queue)
  | timedWaits (calling : before.place thread = .inside .takeSeconds false)
      (awake : ¬ before.queue.asleep thread) :
      Move requested before (.turn thread woken timeout) [.began thread before.queue.queue]
        (before.moved thread (.inside .takeSeconds true)
          { before.queue with notEmpty := thread :: before.queue.notEmpty })
  | gaveUp (calling : before.place thread = .inside .takeSeconds true)
      (awake : ¬ before.queue.asleep thread) :
      Move requested before (.turn thread woken true)
        [.returned thread .takeSeconds before.queue.queue none]
        (before.moved thread .outside before.queue)
  | readNothing (calling : before.place thread = .inside .takeSeconds true)
      (awake : ¬ before.queue.asleep thread) (nothing : before.queue.queue = []) :
      Move requested before (.turn thread woken false) []
        { before.moved thread .outside before.queue with undefined := true }
  | timedTook {queue : BlockQueue Thread DataT}
      (calling : before.place thread = .inside .takeSeconds true)
      (awake : ¬ before.queue.asleep thread) (taken : before.queue.Taken queue data woken) :
      Move requested before (.turn thread woken false)
        [.returned thread .takeSeconds before.queue.queue (some data)]
        (before.moved thread .outside queue)
  | cleared (calling : before.place thread = .inside .clear waited)
      (awake : ¬ before.queue.asleep thread) :
      Move requested before (.turn thread woken timeout)
        [.returned thread .clear before.queue.queue none]
        (before.moved thread .outside { before.queue with queue := [], bounded := Nat.zero_le _ })

private theorem turn_cases {requested : Request DataT → Bool} {before after : Threads Thread DataT}
    {thread : Thread} {request : Request DataT}
    (calling : before.place thread = .inside request waited)
    (stepped : before.step requested (.turn thread woken timeout) = some after)
    (defined : before.undefined = false) :
    Move requested before (.turn thread woken timeout)
      (before.happens (.turn thread woken timeout)) after := by
  rw [step, if_neg (by simp [defined])] at stepped
  simp only [calling] at stepped
  cases request with
  | put data front =>
    obtain ⟨turn, turned, same⟩ := Option.map_eq_some_iff.mp stepped
    obtain ⟨awake, ⟨full, rfl⟩ | ⟨queue, rfl, stored⟩⟩ := put_cases turned
    · subst same
      simp only [happens, calling, turned]
      exact .putWaits calling awake full
    · subst same
      simp only [happens, calling, turned]
      exact .stored calling awake stored
  | take =>
    obtain ⟨turn, turned, same⟩ := Option.map_eq_some_iff.mp stepped
    obtain ⟨awake, ⟨nothing, rfl⟩ | ⟨queue, data, rfl, taken⟩⟩ := take_cases turned
    · subst same
      simp only [happens, calling, turned]
      exact .takeWaits calling awake nothing
    · subst same
      simp only [happens, calling, turned]
      exact .took calling awake taken
  | takeSeconds =>
    obtain ⟨turn, turned, same⟩ := Option.map_eq_some_iff.mp stepped
    obtain ⟨awake, ⟨rfl, rfl⟩ | ⟨rfl, rfl, rfl⟩ | ⟨rfl, rfl, nothing, rfl⟩ |
      ⟨rfl, rfl, queue, data, rfl, taken⟩⟩ := takeSeconds_cases turned
    · subst same
      simp only [happens, calling, turned]
      exact .timedWaits calling awake
    · subst same
      simp only [happens, calling, turned]
      exact .gaveUp calling awake
    · subst same
      simp only [happens, calling, turned]
      exact .readNothing calling awake nothing
    · subst same
      simp only [happens, calling, turned]
      exact .timedTook calling awake taken
  | clear =>
    obtain ⟨queue, cleared, same⟩ := Option.map_eq_some_iff.mp stepped
    obtain ⟨awake, rfl⟩ := clear_cases cleared
    subst same
    simp only [happens, calling, cleared]
    exact .cleared calling awake

theorem step_cases {requested : Request DataT → Bool} {before after : Threads Thread DataT}
    {action : ThreadAction Thread DataT} (stepped : before.step requested action = some after) :
    before.undefined = false ∧ Move requested before action (before.happens action) after := by
  cases undefined : before.undefined with
  | true => simp [step, undefined] at stepped
  | false =>
    refine ⟨rfl, ?_⟩
    cases action with
    | calls thread request =>
      rw [step, if_neg (by simp [undefined])] at stepped
      split at stepped
      · rename_i outside may
        exact Option.some.inj stepped ▸ .called outside may
      · cases stepped
    | wakes thread =>
      rw [step, if_neg (by simp [undefined])] at stepped
      obtain ⟨queue, woken, same⟩ := Option.map_eq_some_iff.mp stepped
      exact same ▸ .woke woken
    | turn thread woken timeout =>
      cases calling : before.place thread with
      | outside => simp [step, undefined, calling] at stepped
      | inside request waited => exact turn_cases calling stepped undefined

end Threads

/-- Any number of threads that use a new queue, each with any of the requested operations. -/
def threads (Thread DataT : Type) [DecidableEq Thread] (capacity : Nat)
    (requested : Request DataT → Bool) :
    Automaton (Threads Thread DataT) (ThreadAction Thread DataT) where
  start state :=
    state.queue = .empty capacity ∧ (∀ thread, state.place thread = .outside) ∧
      state.undefined = false
  step := Threads.step requested

end MotorInfoUpload.BlockQueue
