import MotorInfoUpload.Machine.Condition

/-! The bounded blocking queue shared by the vehicle service thread and the
uploaders. Each operation is one critical section of the queue's mutex: it either
completes or goes to sleep on a condition variable and is tried again after a
wake-up. -/

namespace MotorInfoUpload

open Machine

/-- `m_queue` never outgrows `m_capacity`. The lists `notEmpty` and `notFull`
hold the threads asleep on the two condition variables. -/
structure BlockQueue (Thread DataT : Type) where
  capacity : Nat
  queue : List DataT
  notEmpty : List Thread
  notFull : List Thread
  bounded : queue.length ≤ capacity

/-- How one turn of an operation under the lock ends: in a wait that releases
the lock, or with the operation's result. -/
inductive Turn (Thread DataT Result : Type) where
  | waits (queue : BlockQueue Thread DataT)
  | returns (queue : BlockQueue Thread DataT) (result : Result)

/-- What the timed `take` returns; on an empty list `front` and `pop_front` are undefined. -/
inductive TimedResult (DataT : Type) where
  | nullptr
  | data (data : DataT)
  | undefined
deriving DecidableEq

namespace BlockQueue

variable {Thread DataT : Type} [DecidableEq Thread]

/-- The constructor: an empty queue that nobody waits for. -/
def empty (capacity : Nat) : BlockQueue Thread DataT := ⟨capacity, [], [], [], Nat.zero_le _⟩

def isFull (self : BlockQueue Thread DataT) : Bool := self.queue.length == self.capacity

def isEmpty (self : BlockQueue Thread DataT) : Bool := self.queue.isEmpty

def remaining (self : BlockQueue Thread DataT) : Nat := self.queue.length

def asleep (self : BlockQueue Thread DataT) (thread : Thread) : Prop :=
  thread ∈ self.notEmpty ∨ thread ∈ self.notFull

instance (self : BlockQueue Thread DataT) (thread : Thread) : Decidable (self.asleep thread) :=
  inferInstanceAs (Decidable (_ ∨ _))

omit [DecidableEq Thread] in
private theorem room_of_not_full {self : BlockQueue Thread DataT} (room : ¬ self.isFull = true) :
    self.queue.length + 1 ≤ self.capacity := by
  have bounded := self.bounded
  have different : self.queue.length ≠ self.capacity := by simpa [isFull] using room
  omega

/-- One turn of `put` by `thread`; an asleep thread takes no turn, and `woken`
is the sleeper that the final `notify_one` wakes. -/
def put (self : BlockQueue Thread DataT) (thread : Thread) (data : DataT) (front : Bool)
    (woken : Option Thread) : Option (Turn Thread DataT Unit) :=
  if self.asleep thread then none
  else if full : self.isFull then
    some (.waits { self with notFull := thread :: self.notFull })
  else
    (notifyOne self.notEmpty woken).map fun left => .returns
      { self with
        queue := if front then data :: self.queue else self.queue ++ [data]
        notEmpty := left
        bounded := by
          have room := room_of_not_full full
          split <;> simpa using room } ()

/-- One turn of the untimed `take` by `thread`. -/
def take (self : BlockQueue Thread DataT) (thread : Thread) (woken : Option Thread) :
    Option (Turn Thread DataT DataT) :=
  if self.asleep thread then none
  else match stored : self.queue with
    | [] => some (.waits { self with notEmpty := thread :: self.notEmpty })
    | data :: rest => (notifyOne self.notFull woken).map fun left => .returns
        { self with
          queue := rest
          notFull := left
          bounded := by
            have bounded := self.bounded
            rw [stored, List.length_cons] at bounded
            omega } data

/-- One turn of the timed `take`: the first one waits, whatever the queue holds, and the
next one goes by what `wait_for` returns. -/
def takeSeconds (self : BlockQueue Thread DataT) (thread : Thread) (waited timeout : Bool)
    (woken : Option Thread) : Option (Turn Thread DataT (TimedResult DataT)) :=
  if self.asleep thread then none
  else if waited = false then some (.waits { self with notEmpty := thread :: self.notEmpty })
  else if timeout then some (.returns self .nullptr)
  else match stored : self.queue with
    | [] => some (.returns self .undefined)
    | data :: rest => (notifyOne self.notFull woken).map fun left => .returns
        { self with
          queue := rest
          notFull := left
          bounded := by
            have bounded := self.bounded
            rw [stored, List.length_cons] at bounded
            omega } (.data data)

/-- `clear`, which does not wait and notifies nobody. -/
def clear (self : BlockQueue Thread DataT) (thread : Thread) : Option (BlockQueue Thread DataT) :=
  if self.asleep thread then none else some { self with queue := [], bounded := Nat.zero_le _ }

/-- A wake-up of `thread` that nobody has sent: a spurious one, or the end of a timed wait. -/
def wake (self : BlockQueue Thread DataT) (thread : Thread) : Option (BlockQueue Thread DataT) :=
  if self.asleep thread then
    some { self with notEmpty := self.notEmpty.erase thread, notFull := self.notFull.erase thread }
  else none

/-- `after` is `before` with `data` stored, and `woken` notified of it. -/
structure Stored (before after : BlockQueue Thread DataT) (data : DataT) (front : Bool)
    (woken : Option Thread) : Prop where
  room : before.queue.length < before.capacity
  queue : after.queue = if front then data :: before.queue else before.queue ++ [data]
  capacity : after.capacity = before.capacity
  notFull : after.notFull = before.notFull
  notified : notifyOne before.notEmpty woken = some after.notEmpty

/-- `after` is `before` with `data` taken from its front, and `woken` notified of it. -/
structure Taken (before after : BlockQueue Thread DataT) (data : DataT)
    (woken : Option Thread) : Prop where
  queue : before.queue = data :: after.queue
  capacity : after.capacity = before.capacity
  notEmpty : after.notEmpty = before.notEmpty
  notified : notifyOne before.notFull woken = some after.notFull

/-- Everything a turn of `put` can do. -/
theorem put_cases {self : BlockQueue Thread DataT} {turn : Turn Thread DataT Unit}
    (turned : self.put thread data front woken = some turn) :
    ¬ self.asleep thread ∧
      ((self.queue.length = self.capacity ∧
          turn = .waits { self with notFull := thread :: self.notFull }) ∨
        ∃ after, turn = .returns after () ∧ Stored self after data front woken) := by
  unfold put at turned
  split at turned
  · cases turned
  · rename_i awake
    refine ⟨awake, ?_⟩
    split at turned
    · rename_i full
      exact .inl ⟨by simpa [isFull] using full, (Option.some.inj turned).symm⟩
    · rename_i room
      obtain ⟨left, notified, same⟩ := Option.map_eq_some_iff.mp turned
      exact .inr ⟨_, same.symm, room_of_not_full room, rfl, rfl, rfl, notified⟩

theorem take_cases {self : BlockQueue Thread DataT} {turn : Turn Thread DataT DataT}
    (turned : self.take thread woken = some turn) :
    ¬ self.asleep thread ∧
      ((self.queue = [] ∧ turn = .waits { self with notEmpty := thread :: self.notEmpty }) ∨
        ∃ after data, turn = .returns after data ∧ Taken self after data woken) := by
  unfold take at turned
  split at turned
  · cases turned
  · rename_i awake
    refine ⟨awake, ?_⟩
    split at turned
    · rename_i nothing
      exact .inl ⟨nothing, (Option.some.inj turned).symm⟩
    · rename_i data rest stored
      obtain ⟨left, notified, same⟩ := Option.map_eq_some_iff.mp turned
      exact .inr ⟨_, data, same.symm, stored, rfl, rfl, notified⟩

theorem takeSeconds_cases {self : BlockQueue Thread DataT}
    {turn : Turn Thread DataT (TimedResult DataT)}
    (turned : self.takeSeconds thread waited timeout woken = some turn) :
    ¬ self.asleep thread ∧
      ((waited = false ∧ turn = .waits { self with notEmpty := thread :: self.notEmpty }) ∨
        waited = true ∧ timeout = true ∧ turn = .returns self .nullptr ∨
        waited = true ∧ timeout = false ∧ self.queue = [] ∧ turn = .returns self .undefined ∨
        waited = true ∧ timeout = false ∧
          ∃ after data, turn = .returns after (.data data) ∧ Taken self after data woken) := by
  unfold takeSeconds at turned
  split at turned
  · cases turned
  · rename_i awake
    refine ⟨awake, ?_⟩
    split at turned
    · rename_i first
      exact .inl ⟨first, (Option.some.inj turned).symm⟩
    · rename_i again
      have waited : waited = true := by simpa using again
      split at turned
      · rename_i expired
        exact .inr (.inl ⟨waited, expired, (Option.some.inj turned).symm⟩)
      · rename_i inTime
        have inTime : timeout = false := by simpa using inTime
        split at turned
        · rename_i nothing
          exact .inr (.inr (.inl ⟨waited, inTime, nothing, (Option.some.inj turned).symm⟩))
        · rename_i data rest stored
          obtain ⟨left, notified, same⟩ := Option.map_eq_some_iff.mp turned
          exact .inr (.inr (.inr ⟨waited, inTime, _, data, same.symm, stored, rfl, rfl, notified⟩))

theorem clear_cases {self after : BlockQueue Thread DataT}
    (cleared : self.clear thread = some after) :
    ¬ self.asleep thread ∧ after = { self with queue := [], bounded := Nat.zero_le _ } := by
  unfold clear at cleared
  split at cleared
  · cases cleared
  · rename_i awake
    exact ⟨awake, (Option.some.inj cleared).symm⟩

/-- A spurious wake-up only shortens the lists of sleepers. -/
theorem wake_cases {self after : BlockQueue Thread DataT}
    (woken : self.wake thread = some after) :
    after.queue = self.queue ∧ after.capacity = self.capacity ∧
      after.notEmpty.Sublist self.notEmpty ∧ after.notFull.Sublist self.notFull := by
  unfold wake at woken
  split at woken
  · cases Option.some.inj woken
    exact ⟨rfl, rfl, List.erase_sublist, List.erase_sublist⟩
  · cases woken

end BlockQueue

end MotorInfoUpload
