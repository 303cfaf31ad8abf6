import MotorInfoUpload.BlockQueue
import MotorInfoUpload.Machine.Deque
import MotorInfoUpload.Machine.History

/-! Threads that call `put` and `take` of one queue, in every interleaving of the turns
they get under the lock, with spurious wake-ups. The operations that have completed,
in the order in which they held the lock, are operations of a plain sequence. -/

namespace MotorInfoUpload.BlockQueue

open Machine DequeOperation

/-- What a thread is doing with the queue. -/
inductive Call (DataT : Type) where
  | outside
  | put (data : DataT) (front : Bool)
  | take
  deriving DecidableEq, Repr

structure Users (Thread DataT : Type) where
  queue : BlockQueue Thread DataT
  calls : Thread → Call DataT

inductive UsersAction (Thread DataT : Type) where
  | enters (thread : Thread) (call : Call DataT)
  | turn (thread : Thread) (woken : Option Thread)
  | wakes (thread : Thread)

/-- A completed call with its result, which `put` does not have. -/
structure Completed (Thread DataT : Type) where
  thread : Thread
  operation : DequeOperation DataT
  result : Option DataT

variable {Thread DataT : Type} [DecidableEq Thread]

namespace Users

def returned (self : Users Thread DataT) (thread : Thread) (queue : BlockQueue Thread DataT) :
    Users Thread DataT where
  queue
  calls := Function.update self.calls thread .outside

/-- A thread that waits has released the lock and remains in its call. -/
def step (self : Users Thread DataT) : UsersAction Thread DataT → Option (Users Thread DataT)
  | .enters thread call => match self.calls thread with
    | .outside => some { self with calls := Function.update self.calls thread call }
    | _ => none
  | .turn thread woken => match self.calls thread with
    | .outside => none
    | .put data front => (self.queue.put thread data front woken).map fun
      | .waits queue => { self with queue }
      | .returns queue _ => self.returned thread queue
    | .take => (self.queue.take thread woken).map fun
      | .waits queue => { self with queue }
      | .returns queue _ => self.returned thread queue
  | .wakes thread => (self.queue.wake thread).map fun queue => { self with queue }

/-- The call that an action completes. -/
def completes (self : Users Thread DataT) :
    UsersAction Thread DataT → Option (Completed Thread DataT)
  | .turn thread woken => match self.calls thread with
    | .outside => none
    | .put data front => match self.queue.put thread data front woken with
      | some (.returns _ _) => some ⟨thread, .put data front, none⟩
      | _ => none
    | .take => match self.queue.take thread woken with
      | some (.returns _ data) => some ⟨thread, .take, some data⟩
      | _ => none
  | _ => none

inductive Turned (before after : Users Thread DataT) :
    Option (Completed Thread DataT) → Prop where
  | unchanged (queue : after.queue.queue = before.queue.queue)
      (capacity : after.queue.capacity = before.queue.capacity) : Turned before after none
  | stored (calling : before.calls thread = .put data front)
      (stored : before.queue.Stored after.queue data front woken) :
      Turned before after (some ⟨thread, .put data front, none⟩)
  | took (calling : before.calls thread = .take)
      (taken : before.queue.Taken after.queue data woken) :
      Turned before after (some ⟨thread, .take, some data⟩)

theorem step_cases {self after : Users Thread DataT} {action : UsersAction Thread DataT}
    (stepped : self.step action = some after) : self.Turned after (self.completes action) := by
  cases action with
  | enters thread call =>
    cases calling : self.calls thread with
    | outside =>
      simp only [step, calling, Option.some.injEq] at stepped
      subst stepped
      exact .unchanged rfl rfl
    | put data front => simp [step, calling] at stepped
    | take => simp [step, calling] at stepped
  | wakes thread =>
    obtain ⟨queue, woken, same⟩ := Option.map_eq_some_iff.mp stepped
    subst same
    have kept := BlockQueue.wake_cases woken
    exact .unchanged kept.1 kept.2.1
  | turn thread woken =>
    cases calling : self.calls thread with
    | outside => simp [step, calling] at stepped
    | put data front =>
      simp only [step, calling] at stepped
      obtain ⟨turn, turned, same⟩ := Option.map_eq_some_iff.mp stepped
      rcases (BlockQueue.put_cases turned).2 with ⟨-, rfl⟩ | ⟨queue, rfl, stored⟩
      · subst same
        simp only [completes, calling, turned]
        exact .unchanged rfl rfl
      · subst same
        simp only [completes, calling, turned]
        exact .stored calling stored
    | take =>
      simp only [step, calling] at stepped
      obtain ⟨turn, turned, same⟩ := Option.map_eq_some_iff.mp stepped
      rcases (BlockQueue.take_cases turned).2 with ⟨-, rfl⟩ | ⟨queue, data, rfl, taken⟩
      · subst same
        simp only [completes, calling, turned]
        exact .unchanged rfl rfl
      · subst same
        simp only [completes, calling, turned]
        exact .took calling taken

end Users

def users (Thread DataT : Type) [DecidableEq Thread] (capacity : Nat) :
    Automaton (Users Thread DataT) (UsersAction Thread DataT) where
  start state := state.queue = .empty capacity ∧ ∀ thread, state.calls thread = .outside
  step := Users.step

def usersRecorded (Thread DataT : Type) [DecidableEq Thread] (capacity : Nat) :
    Automaton (Recorded (Users Thread DataT) (List (Completed Thread DataT)))
      (UsersAction Thread DataT) :=
  (users Thread DataT capacity).recording [] fun log state action _ =>
    log ++ (state.completes action).toList

/-- Executed on a plain empty sequence, the completed calls give the results that the
threads got and leave what the queue holds. -/
structure Executes (capacity : Nat) (state : Users Thread DataT)
    (log : List (Completed Thread DataT)) : Prop where
  capacity : state.queue.capacity = capacity
  executed : execute [] (log.map Completed.operation) =
    some (log.map Completed.result, state.queue.queue)

private theorem Executes.turned {capacity : Nat} {state after : Users Thread DataT}
    {log : List (Completed Thread DataT)} {completed : Option (Completed Thread DataT)}
    (executes : Executes capacity state log) (turned : state.Turned after completed) :
    Executes capacity after (log ++ completed.toList) := by
  have before := executes.executed
  cases turned with
  | unchanged queue kept =>
    constructor
    · rw [kept, executes.capacity]
    · simpa [queue] using before
  | stored calling stored =>
    constructor
    · rw [stored.capacity, executes.capacity]
    · simp [execute_append, before, stored.queue]
  | took calling taken =>
    constructor
    · rw [taken.capacity, executes.capacity]
    · simp [execute_append, before, taken.queue]

theorem executes {capacity : Nat}
    {recorded : Recorded (Users Thread DataT) (List (Completed Thread DataT))}
    (reach : Reachable (usersRecorded Thread DataT capacity) recorded) :
    Executes capacity recorded.state recorded.log := by
  have unguardedReach : Reach (usersRecorded Thread DataT capacity)
      (Recorded.onState unguarded) recorded := reach
  refine (Reach.recorded (Executes capacity) unguardedReach ?_ ?_).2
  · intro state initial
    constructor
    · rw [initial.1]
      rfl
    · rw [initial.1]
      rfl
  · intro state log action after _ holds _ stepped
    exact holds.turned (Users.step_cases stepped)

/-- A queue used by any number of threads is a bounded double-ended sequence. The
completed calls, one at a time in the order they held the lock, are operations of a
plain sequence: it never takes from nothing, it gives the same results and holds the
same elements. With the puts numbered, each is taken or left, once; those at the back
leave in their order, and one at the front leaves next unless another follows it. -/
theorem refines_deque {capacity : Nat}
    {recorded : Recorded (Users Thread DataT) (List (Completed Thread DataT))}
    (reach : Reachable (usersRecorded Thread DataT capacity) recorded) :
    recorded.state.queue.queue.length ≤ capacity ∧
      execute [] (recorded.log.map Completed.operation) =
        some (recorded.log.map Completed.result, recorded.state.queue.queue) ∧
      ∃ results left,
        execute [] (numberedFrom 0 (recorded.log.map Completed.operation)) = some (results, left) ∧
          results.map (Option.map Numbered.element) = recorded.log.map Completed.result ∧
          left.map Numbered.element = recorded.state.queue.queue ∧
          (results.reduceOption ++ left).Perm
            (puts (numberedFrom 0 (recorded.log.map Completed.operation))) ∧
          ((results.reduceOption ++ left).map Numbered.number).Nodup ∧
          (results.reduceOption ++ left).filter (fun entry => !entry.front) =
            (puts (numberedFrom 0 (recorded.log.map Completed.operation))).filter
              (fun entry => !entry.front) ∧
          ∀ element earlier between later,
            recorded.log.map Completed.operation =
                earlier ++ .put element true :: between ++ .take :: later →
              (∀ operation ∈ between, ∃ element, operation = .put element false) →
              results[earlier.length + between.length + 1]? =
                some (some ⟨earlier.length, true, element⟩) := by
  obtain ⟨capacityKept, executed⟩ := executes reach
  obtain ⟨results, left, numbered, sameResults, sameLeft⟩ := exists_numbered executed
  have once := taken_once numbered
  refine ⟨capacityKept ▸ recorded.state.queue.bounded, executed, results, left, numbered,
    sameResults, sameLeft, once.1, once.2, taken_in_order numbered, ?_⟩
  intro element earlier between later history backs
  rw [history] at numbered
  exact front_taken_next backs numbered

/-- A taker that sleeps, wakes for nothing and sleeps again, and a putter that waits
for room until the element put at the front has been taken. -/
theorem refines_deque_two :
    ∃ recorded : Recorded (Users Bool Nat) (List (Completed Bool Nat)),
      recorded.log.map Completed.result = [none, some 7, none] ∧
        recorded.state.queue.queue.length ≤ 1 ∧
        execute [] (recorded.log.map Completed.operation) =
          some (recorded.log.map Completed.result, recorded.state.queue.queue) := by
  have initial : Reachable (usersRecorded Bool Nat 1) ⟨⟨.empty 1, fun _ => .outside⟩, []⟩ :=
    .start ⟨⟨rfl, fun _ => rfl⟩, rfl⟩
  obtain ⟨recorded, reach, results⟩ := Reach.exists_of_schedule
    (fun recorded => recorded.log.map Completed.result = [none, some 7, none]) initial
    [.enters true .take, .turn true none, .wakes true, .turn true none,
      .enters false (.put 7 true), .turn false (some true), .enters false (.put 8 false),
      .turn false none, .turn true (some false), .turn false none] (by decide)
  have refines := refines_deque reach
  exact ⟨recorded, results, refines.1, refines.2.1⟩

end MotorInfoUpload.BlockQueue
