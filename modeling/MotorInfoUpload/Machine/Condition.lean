/-! A condition variable as the list of threads asleep on it. A notification
names the sleeper it wakes; an empty notification is possible only when nobody
sleeps. -/

namespace MotorInfoUpload.Machine

variable {Thread : Type} [DecidableEq Thread]

/-- `notify_one`: wakes one sleeper, chosen by the label, if there is any. -/
def notifyOne (waiters : List Thread) (woken : Option Thread) : Option (List Thread) :=
  match woken with
  | none => if waiters = [] then some [] else none
  | some thread => if thread ∈ waiters then some (waiters.erase thread) else none

theorem notifyOne_sublist {waiters left : List Thread} {woken : Option Thread}
    (notified : notifyOne waiters woken = some left) : left.Sublist waiters := by
  cases woken with
  | none =>
    simp only [notifyOne, Option.ite_none_right_eq_some] at notified
    obtain ⟨_, same⟩ := notified
    cases same
    exact List.nil_sublist _
  | some thread =>
    simp only [notifyOne, Option.ite_none_right_eq_some] at notified
    obtain ⟨_, same⟩ := notified
    cases same
    exact List.erase_sublist

theorem mem_of_notifyOne {waiters left : List Thread} {woken : Option Thread}
    (notified : notifyOne waiters woken = some left) (asleep : thread ∈ left) :
    thread ∈ waiters := (notifyOne_sublist notified).subset asleep

end MotorInfoUpload.Machine
