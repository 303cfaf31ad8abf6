import MotorInfoUpload.DataFormat
import MotorInfoUpload.Machine.Cycle
import MotorInfoUpload.Machine.History
import Mathlib.Data.Fintype.Basic
import Mathlib.Logic.Function.Basic

/-! The serial numbers of the platform logins: any number of uploaders in
`setupConnAndLogin`, with the number, the time of the last login and the static buffer
of `localtime` that they share. -/

namespace MotorInfoUpload

open Machine

/-- Where an uploader stands in the loop of `setupConnAndLogin`. A date stands for
`tm_mday`, `tm_mon` and `tm_year` together. -/
inductive LoginAt where
  | outside
  | nowBroken
  | lastDue (now : Nat)
  | check (now : Nat)
  | update
  | reading
  | send (number : Nat)
  | wait (number : Nat)
  | count (number : Nat)
  | stamp (number : Nat)
  | stopped
deriving DecidableEq

/-- What the uploaders share: `m_serialNumber`, the date of `m_uploader_last_login_time`,
and the date in the buffer that every call of `localtime` fills. -/
structure Serials (n : Nat) where
  today : Nat
  tm : Nat
  serialNumber : Nat
  lastLogin : Nat
  uploader : Fin n → LoginAt

/-- What can happen next: a statement of an uploader, the return of its `waitNextStatus`,
a call of `localtime` elsewhere, or the end of the day, which falls into no login. -/
inductive SerialEvent (n : Nat) where
  | next (i : Fin n)
  | answered (i : Fin n) (status : ResponseReaderStatus)
  | localtime (date : Nat)
  | midnight (date : Nat)

variable {n : Nat}

/-- The number of a login that has been read and whose success is not yet counted. -/
def LoginAt.pending : LoginAt → Option Nat
  | .send number | .wait number | .count number => some number
  | _ => none

def LoginAt.away : LoginAt → Bool
  | .outside | .stopped => true
  | _ => false

theorem LoginAt.pending_away {place : LoginAt} (away : place.away = true) : place.pending = none := by
  cases place with
  | outside | stopped => rfl
  | nowBroken | lastDue | check | update | reading | send | wait | count | stamp => cases away

namespace Serials

def move (state : Serials n) (i : Fin n) (place : LoginAt) : Serials n :=
  { state with uploader := Function.update state.uploader i place }

@[simp] theorem move_uploader (state : Serials n) (i : Fin n) (place : LoginAt) :
    (state.move i place).uploader i = place := Function.update_self ..

theorem move_other (state : Serials n) (place : LoginAt) {i j : Fin n} (other : j ≠ i) :
    (state.move i place).uploader j = state.uploader j := Function.update_of_ne other ..

def step (maxSerialNumber : Nat) (state : Serials n) : SerialEvent n → Option (Serials n)
  | .next i => match state.uploader i with
    | .outside => some { state.move i .nowBroken with tm := state.today }
    | .nowBroken => some (state.move i (.lastDue state.tm))
    | .lastDue now => some { state.move i (.check now) with tm := state.lastLogin }
    | .check now => some { state.move i .update with
      serialNumber :=
        if state.serialNumber > maxSerialNumber ∨ now ≠ state.tm then 1 else state.serialNumber }
    | .update => some { state.move i .reading with tm := state.today }
    | .reading => some (state.move i (.send state.serialNumber))
    | .send number => some (state.move i (.wait number))
    | .count number => some { state.move i (.stamp number) with
      serialNumber := (state.serialNumber + 1) % 65536 }
    | .stamp _ => some { state.move i .outside with lastLogin := state.today }
    | .wait _ | .stopped => none
  | .answered i status => match state.uploader i with
    | .wait number => match status with
      | .responseOk => some (state.move i (.count number))
      | .connectionClosed | .timeout | .responseFormatErr => some (state.move i .outside)
      | .responseNotOk | .init => some (state.move i .stopped)
    | _ => none
  | .localtime date => some { state with tm := date }
  | .midnight date =>
    if ∀ i, (state.uploader i).away = true then some { state with today := date } else none

inductive Move (maxSerialNumber : Nat) (before : Serials n) : SerialEvent n → Serials n → Prop where
  | begins (standing : before.uploader i = .outside) :
      Move maxSerialNumber before (.next i) { before.move i .nowBroken with tm := before.today }
  | readsNow (standing : before.uploader i = .nowBroken) :
      Move maxSerialNumber before (.next i) (before.move i (.lastDue before.tm))
  | breaksLast (standing : before.uploader i = .lastDue now) :
      Move maxSerialNumber before (.next i) { before.move i (.check now) with tm := before.lastLogin }
  | checks (standing : before.uploader i = .check now) :
      Move maxSerialNumber before (.next i) { before.move i .update with
        serialNumber := if before.serialNumber > maxSerialNumber ∨ now ≠ before.tm then 1
          else before.serialNumber }
  | updates (standing : before.uploader i = .update) :
      Move maxSerialNumber before (.next i) { before.move i .reading with tm := before.today }
  | reads (standing : before.uploader i = .reading) :
      Move maxSerialNumber before (.next i) (before.move i (.send before.serialNumber))
  | sends (standing : before.uploader i = .send number) :
      Move maxSerialNumber before (.next i) (before.move i (.wait number))
  | counts (standing : before.uploader i = .count number) :
      Move maxSerialNumber before (.next i) { before.move i (.stamp number) with
        serialNumber := (before.serialNumber + 1) % 65536 }
  | stamps (standing : before.uploader i = .stamp number) :
      Move maxSerialNumber before (.next i) { before.move i .outside with lastLogin := before.today }
  | succeeds (standing : before.uploader i = .wait number) :
      Move maxSerialNumber before (.answered i .responseOk) (before.move i (.count number))
  | fails (standing : before.uploader i = .wait number) (other : status ≠ .responseOk)
      (away : place.away = true) : Move maxSerialNumber before (.answered i status) (before.move i place)
  | breaks : Move maxSerialNumber before (.localtime date) { before with tm := date }
  | dawns (away : ∀ i, (before.uploader i).away = true) :
      Move maxSerialNumber before (.midnight date) { before with today := date }

theorem step_cases {maxSerialNumber : Nat} {before after : Serials n} {event : SerialEvent n}
    (stepped : before.step maxSerialNumber event = some after) :
    Move maxSerialNumber before event after := by
  cases event with
  | next i =>
    simp only [step] at stepped
    cases standing : before.uploader i with
    | outside | nowBroken | lastDue | check | update | reading | send | count | stamp =>
      rw [standing] at stepped
      cases stepped
      constructor
      exact standing
    | wait | stopped => rw [standing] at stepped; cases stepped
  | answered i status =>
    simp only [step] at stepped
    split at stepped
    · rename_i number standing
      cases status with
      | responseOk => cases stepped; exact .succeeds standing
      | connectionClosed | timeout | responseFormatErr | responseNotOk | init =>
        cases stepped
        exact .fails standing ResponseReaderStatus.noConfusion rfl
    · cases stepped
  | localtime date => cases stepped; exact .breaks
  | midnight date =>
    simp only [step] at stepped
    split at stepped <;> cases stepped
    exact .dawns ‹_›

end Serials

/-- The numbers of the login frames that have been sent this day, and of the logins of this
day that have succeeded. -/
structure Logins where
  sent : List Nat
  succeeded : List Nat

def Logins.nothing : Logins := ⟨[], []⟩

def Logins.note (log : Logins) (before : Serials n) (event : SerialEvent n) (_ : Serials n) : Logins :=
  match event with
  | .next i => match before.uploader i with
    | .send number => { log with sent := log.sent ++ [number] }
    | _ => log
  | .answered i .responseOk => match before.uploader i with
    | .wait number => { log with succeeded := log.succeeded ++ [number] }
    | _ => log
  | .answered .. | .localtime _ => log
  | .midnight _ => .nothing

def loggingIn (n maxSerialNumber : Nat) : Automaton (Recorded (Serials n) Logins) (SerialEvent n) :=
  Automaton.recording
    { start := fun state => ∃ today tm lastLogin, state = ⟨today, tm, 1, lastLogin, fun _ => .outside⟩
      step := Serials.step maxSerialNumber }
    .nothing Logins.note

/-- Some uploader has read its number and not yet counted its login. -/
def Serials.Pending (state : Serials n) : Prop := ∃ i, (state.uploader i).pending.isSome = true

instance (state : Serials n) : Decidable state.Pending := inferInstanceAs (Decidable (∃ _, _))

/-- The uploader reads the number while another one has read it and not yet counted its
login, or when it has been counted above `MaxSerialNumber` since the check; or the number
is set to 1 for its date alone when logins of the day have taken place. -/
def RacesAt (maxSerialNumber : Nat) (state : Serials n) (log : Logins) : LoginAt → Prop
  | .check now => now ≠ state.tm ∧ state.serialNumber ≤ maxSerialNumber ∧ state.serialNumber ≠ 1 ∧
    (log.succeeded ≠ [] ∨ state.Pending)
  | .reading => state.Pending ∨ maxSerialNumber < state.serialNumber
  | _ => False

instance (maxSerialNumber : Nat) (state : Serials n) (log : Logins) :
    DecidablePred (RacesAt maxSerialNumber state log)
  | .check _ => inferInstanceAs (Decidable (_ ∧ _ ∧ _ ∧ (_ ∨ _)))
  | .reading => inferInstanceAs (Decidable (_ ∨ _))
  | .outside | .nowBroken | .lastDue _ | .update | .send _ | .wait _ | .count _ | .stamp _ | .stopped =>
    .isFalse fun bad => bad

def Races (maxSerialNumber : Nat) (recorded : Recorded (Serials n) Logins) : SerialEvent n → Prop
  | .next i => RacesAt maxSerialNumber recorded.state recorded.log (recorded.state.uploader i)
  | _ => False

instance (maxSerialNumber : Nat) (recorded : Recorded (Serials n) Logins) :
    DecidablePred (Races maxSerialNumber recorded)
  | .next _ => inferInstanceAs (Decidable (RacesAt ..))
  | .answered .. | .localtime _ | .midnight _ => .isFalse fun bad => bad

/-- The numbers of the day's logins follow one another from some number on. -/
structure Numbered (maxSerialNumber : Nat) (state : Serials n) (log : Logins) (first : Nat) : Prop where
  low : 1 ≤ state.serialNumber
  high : state.serialNumber ≤ maxSerialNumber + 1
  sent : ∀ number ∈ log.sent, 1 ≤ number ∧ number ≤ maxSerialNumber
  read : ∀ i, ∀ number ∈ (state.uploader i).pending,
    number = state.serialNumber ∧ number ≤ maxSerialNumber
  alone : ∀ i j, (state.uploader i).pending.isSome = true →
    (state.uploader j).pending.isSome = true → i = j
  succeeded : log.succeeded = Cycle.numbers maxSerialNumber first log.succeeded.length
  counting : ∀ i number, state.uploader i = .count number → ∃ earlier,
    log.succeeded.length = earlier + 1 ∧ number = Cycle.number maxSerialNumber first earlier
  counted : (∀ i number, state.uploader i ≠ .count number) → log.succeeded ≠ [] →
    Cycle.wrap maxSerialNumber state.serialNumber =
      Cycle.number maxSerialNumber first log.succeeded.length

section Steps

variable {maxSerialNumber first : Nat} {before after : Serials n} {log : Logins} {i : Fin n}
  {place : LoginAt}

private theorem update_cases {j : Fin n} {uploader : Fin n → LoginAt} (property : LoginAt → Prop)
    (holds : property (Function.update uploader i place j)) :
    j = i ∧ property place ∨ j ≠ i ∧ property (uploader j) := by
  by_cases same : j = i
  · subst same
    rw [Function.update_self] at holds
    exact .inl ⟨rfl, holds⟩
  · rw [Function.update_of_ne same] at holds
    exact .inr ⟨same, holds⟩

private theorem others (numbered : Numbered maxSerialNumber before log first)
    (mine : (before.uploader i).pending.isSome = true) {j : Fin n} (other : j ≠ i) :
    (before.uploader j).pending = none := by
  cases pending : (before.uploader j).pending with
  | none => rfl
  | some number => exact absurd (numbered.alone j i (by rw [pending]; rfl) mine) other

private theorem numbered_kept {old : LoginAt} (numbered : Numbered maxSerialNumber before log first)
    (standing : before.uploader i = old)
    (moved : after.uploader = Function.update before.uploader i place)
    (serialNumber : after.serialNumber = before.serialNumber)
    (still : ∀ number ∈ place.pending, number ∈ old.pending)
    (uncounted : ∀ number, old ≠ .count number) (uncounted' : ∀ number, place ≠ .count number) :
    Numbered maxSerialNumber after log first := by
  subst standing
  have earlier (j : Fin n) : ∀ number ∈ (after.uploader j).pending,
      number ∈ (before.uploader j).pending := by
    intro number pending
    rw [moved] at pending
    rcases update_cases (number ∈ ·.pending) pending with ⟨rfl, mine⟩ | ⟨_, theirs⟩
    · exact still number mine
    · exact theirs
  have some_earlier (j : Fin n) (pending : (after.uploader j).pending.isSome = true) :
      (before.uploader j).pending.isSome = true := by
    obtain ⟨number, found⟩ := Option.isSome_iff_exists.mp pending
    exact Option.isSome_iff_exists.mpr ⟨number, earlier j number found⟩
  have count (j : Fin n) (number : Nat) :
      after.uploader j = .count number ↔ before.uploader j = .count number := by
    rw [moved]
    by_cases same : j = i
    · subst same
      rw [Function.update_self]
      exact iff_of_false (uncounted' number) (uncounted number)
    · rw [Function.update_of_ne same]
  exact {
    low := serialNumber ▸ numbered.low
    high := serialNumber ▸ numbered.high
    sent := numbered.sent
    read := fun j number pending => serialNumber ▸ numbered.read j number (earlier j number pending)
    alone := fun j k mine theirs => numbered.alone j k (some_earlier j mine) (some_earlier k theirs)
    succeeded := numbered.succeeded
    counting := fun j number standing => numbered.counting j number ((count j number).mp standing)
    counted := fun nobody some => serialNumber ▸
      numbered.counted (fun j number standing => nobody j number ((count j number).mpr standing)) some }

private theorem numbered_idle (nobody : ¬ after.Pending) (low : 1 ≤ after.serialNumber)
    (high : after.serialNumber ≤ maxSerialNumber + 1)
    (sent : ∀ number ∈ log.sent, 1 ≤ number ∧ number ≤ maxSerialNumber)
    (succeeded : log.succeeded = Cycle.numbers maxSerialNumber first log.succeeded.length)
    (next : log.succeeded ≠ [] → Cycle.wrap maxSerialNumber after.serialNumber =
      Cycle.number maxSerialNumber first log.succeeded.length) :
    Numbered maxSerialNumber after log first where
  low := low
  high := high
  sent := sent
  read i number pending := absurd ⟨i, by rw [Option.mem_def.mp pending]; rfl⟩ nobody
  alone i _ mine _ := absurd ⟨i, mine⟩ nobody
  succeeded := succeeded
  counting i number standing := absurd ⟨i, by rw [standing]; rfl⟩ nobody
  counted _ some := next some

private theorem not_pending_move (nobody : ∀ j, j ≠ i → (before.uploader j).pending = none)
    (mine : place.pending = none) : ¬ (before.move i place).Pending := by
  rintro ⟨j, pending⟩
  rcases update_cases (·.pending.isSome = true) pending with ⟨_, here⟩ | ⟨other, there⟩
  · rw [mine] at here
    cases here
  · rw [nobody j other] at there
    cases there

private theorem numbered_checks {now : Nat} (numbered : Numbered maxSerialNumber before log first)
    (positive : 1 ≤ maxSerialNumber) (standing : before.uploader i = .check now)
    (allowed : ¬ RacesAt maxSerialNumber before log (.check now)) :
    Numbered maxSerialNumber { before.move i .update with
      serialNumber := if before.serialNumber > maxSerialNumber ∨ now ≠ before.tm then 1
        else before.serialNumber } log first := by
  have kept : Numbered maxSerialNumber (before.move i .update) log first :=
    numbered_kept numbered standing rfl rfl (fun _ none => by cases none)
      (fun _ => LoginAt.noConfusion) (fun _ => LoginAt.noConfusion)
  split
  · rename_i reset
    by_cases one : before.serialNumber = 1
    · rw [← one]
      exact kept
    by_cases above : maxSerialNumber < before.serialNumber
    · have nobody : ¬ (before.move i .update).Pending := by
        rintro ⟨j, pending⟩
        obtain ⟨number, found⟩ := Option.isSome_iff_exists.mp pending
        obtain ⟨same, within⟩ := kept.read j number found
        have same : number = before.serialNumber := same
        omega
      refine numbered_idle nobody (Nat.le_refl 1) (by simp) kept.sent kept.succeeded fun some => ?_
      have next := kept.counted
        (fun j number counting => nobody ⟨j, by rw [counting]; rfl⟩) some
      have wrapped : Cycle.wrap maxSerialNumber before.serialNumber = 1 := if_pos above
      rw [← next]
      change Cycle.wrap maxSerialNumber 1 = Cycle.wrap maxSerialNumber before.serialNumber
      rw [wrapped, Cycle.wrap, if_neg (by omega)]
    · have dated : now ≠ before.tm := reset.resolve_left above
      have none : log.succeeded = [] ∧ ¬ before.Pending := by
        have idle := fun taken => allowed ⟨dated, by omega, one, taken⟩
        exact ⟨by_contra fun some => idle (.inl some), fun pending => idle (.inr pending)⟩
      have nobody : ¬ (before.move i .update).Pending :=
        not_pending_move (fun j _ => Option.not_isSome_iff_eq_none.mp fun some => none.2 ⟨j, some⟩) rfl
      exact numbered_idle nobody (Nat.le_refl 1) (by simp) kept.sent kept.succeeded
        fun some => absurd none.1 some
  · exact kept

private theorem numbered_reads (numbered : Numbered maxSerialNumber before log first)
    (allowed : ¬ RacesAt maxSerialNumber before log .reading) :
    Numbered maxSerialNumber (before.move i (.send before.serialNumber)) log first := by
  obtain ⟨nobody, within⟩ := not_or.mp allowed
  have within := Nat.le_of_not_lt within
  have mine (j : Fin n) {number : Nat}
      (pending : number ∈ ((before.move i (.send before.serialNumber)).uploader j).pending) :
      j = i ∧ number = before.serialNumber := by
    rcases update_cases (number ∈ ·.pending) pending with ⟨same, here⟩ | ⟨_, there⟩
    · exact ⟨same, (Option.some.inj here).symm⟩
    · exact absurd ⟨j, by rw [Option.mem_def.mp there]; rfl⟩ nobody
  refine { numbered with read := ?_, alone := ?_, counting := ?_, counted := ?_ }
  · intro j number pending
    obtain ⟨_, rfl⟩ := mine j pending
    exact ⟨rfl, within⟩
  · intro j k first second
    obtain ⟨_, first⟩ := Option.isSome_iff_exists.mp first
    obtain ⟨_, second⟩ := Option.isSome_iff_exists.mp second
    rw [(mine j first).1, (mine k second).1]
  · intro j number counting
    rcases update_cases (· = .count number) counting with ⟨_, here⟩ | ⟨_, there⟩
    · cases here
    · exact numbered.counting j number there
  · intro _ some
    exact numbered.counted (fun j number counting => nobody ⟨j, by rw [counting]; rfl⟩) some

private theorem numbered_succeeds {number : Nat} (numbered : Numbered maxSerialNumber before log first)
    (standing : before.uploader i = .wait number) :
    ∃ first, Numbered maxSerialNumber (before.move i (.count number))
      { log with succeeded := log.succeeded ++ [number] } first := by
  have pending : number ∈ (before.uploader i).pending := by rw [standing]; rfl
  obtain ⟨same, within⟩ := numbered.read i number pending
  have mine : (before.uploader i).pending.isSome = true := by rw [pending]; rfl
  have uncounted (j : Fin n) (other : Nat) : before.uploader j ≠ .count other := by
    intro counting
    by_cases same : j = i
    · rw [same, standing] at counting
      cases counting
    · have none := others numbered mine same
      rw [counting] at none
      cases none
  obtain ⟨first, earlier, next⟩ : ∃ first,
      log.succeeded = Cycle.numbers maxSerialNumber first log.succeeded.length ∧
        number = Cycle.number maxSerialNumber first log.succeeded.length := by
    by_cases none : log.succeeded = []
    · refine ⟨number - 1, by rw [none]; rfl, ?_⟩
      rw [none]
      exact (Cycle.number_first (same ▸ numbered.low) within).symm
    · have next := numbered.counted uncounted none
      rw [Cycle.wrap, if_neg (by omega), ← same] at next
      exact ⟨first, numbered.succeeded, next⟩
  have still (j : Fin n) {other : Nat}
      (found : other ∈ ((before.move i (.count number)).uploader j).pending) :
      other ∈ (before.uploader j).pending := by
    rcases update_cases (other ∈ ·.pending) found with ⟨rfl, here⟩ | ⟨_, there⟩
    · exact Option.some.inj here ▸ pending
    · exact there
  have length : (log.succeeded ++ [number]).length = log.succeeded.length + 1 := List.length_append
  refine ⟨first, ?_⟩
  exact {
    low := numbered.low
    high := numbered.high
    sent := numbered.sent
    read := fun j other found => numbered.read j other (still j found)
    alone := fun j k left right => by
      obtain ⟨_, left⟩ := Option.isSome_iff_exists.mp left
      obtain ⟨_, right⟩ := Option.isSome_iff_exists.mp right
      exact numbered.alone j k (by rw [still j left]; rfl) (by rw [still k right]; rfl)
    succeeded := by
      change log.succeeded ++ [number] = _
      rw [length, Cycle.numbers_succ, ← earlier, ← next]
    counting := fun j other counting => by
      rcases update_cases (· = .count other) counting with ⟨_, here⟩ | ⟨_, there⟩
      · cases here
        exact ⟨log.succeeded.length, length, next⟩
      · exact absurd there (uncounted j other)
    counted := fun nobody _ => absurd (Serials.move_uploader before i _) (nobody i number) }

private theorem numbered_counts {number : Nat} (numbered : Numbered maxSerialNumber before log first)
    (positive : 1 ≤ maxSerialNumber) (small : maxSerialNumber ≤ 65534)
    (standing : before.uploader i = .count number) :
    Numbered maxSerialNumber { before.move i (.stamp number) with
      serialNumber := (before.serialNumber + 1) % 65536 } log first := by
  have pending : number ∈ (before.uploader i).pending := by rw [standing]; rfl
  obtain ⟨same, within⟩ := numbered.read i number pending
  have mine : (before.uploader i).pending.isSome = true := by rw [pending]; rfl
  rw [Nat.mod_eq_of_lt (by omega)]
  have nobody : ¬ (before.move i (.stamp number)).Pending :=
    not_pending_move (fun j other => others numbered mine other) rfl
  have above : before.serialNumber + 1 ≤ maxSerialNumber + 1 := by omega
  refine numbered_idle nobody (Nat.le_add_left 1 _) above numbered.sent numbered.succeeded fun _ => ?_
  obtain ⟨earlier, length, taken⟩ := numbered.counting i number standing
  have counted : before.serialNumber + 1 = Cycle.number maxSerialNumber first earlier + 1 := by
    rw [← same, taken]
  rw [length, ← Cycle.wrap_number positive, ← counted]

private theorem note_next (standing : before.uploader i = place)
    (unsent : ∀ number, place ≠ .send number) : log.note before (.next i) after = log := by
  subst standing
  unfold Logins.note
  dsimp only
  split
  · rename_i number sending
    exact absurd sending (unsent number)
  · rfl

private theorem note_fails {status : ResponseReaderStatus} (other : status ≠ .responseOk) :
    log.note before (.answered i status) after = log := by
  cases status with
  | responseOk => exact absurd rfl other
  | connectionClosed | timeout | responseFormatErr | responseNotOk | init => rfl

private theorem numbered_sends {number : Nat} (numbered : Numbered maxSerialNumber before log first)
    (standing : before.uploader i = .send number) :
    Numbered maxSerialNumber (before.move i (.wait number)) { log with sent := log.sent ++ [number] }
      first := by
  obtain ⟨same, within⟩ := numbered.read i number (by rw [standing]; rfl)
  have kept : Numbered maxSerialNumber (before.move i (.wait number)) log first :=
    numbered_kept numbered standing rfl rfl (fun _ pending => pending)
      (fun _ => LoginAt.noConfusion) (fun _ => LoginAt.noConfusion)
  refine { kept with sent := fun other member => ?_ }
  rcases List.mem_append.mp member with earlier | last
  · exact numbered.sent other earlier
  · rw [List.mem_singleton.mp last]
    exact ⟨same ▸ numbered.low, within⟩

private theorem numbered_fails {number : Nat} (numbered : Numbered maxSerialNumber before log first)
    (standing : before.uploader i = .wait number) (away : place.away = true) :
    Numbered maxSerialNumber (before.move i place) log first := by
  have none : place.pending = none := LoginAt.pending_away away
  refine numbered_kept numbered standing rfl rfl ?_ ?_ ?_
  · intro other pending
    rw [none] at pending
    cases pending
  · exact fun _ => LoginAt.noConfusion
  · rintro other rfl
    cases none

/-- What one step does to the numbers. -/
private theorem numbered_step {event : SerialEvent n} (positive : 1 ≤ maxSerialNumber)
    (small : maxSerialNumber ≤ 65534) (numbered : Numbered maxSerialNumber before log first)
    (allowed : ¬ Races maxSerialNumber ⟨before, log⟩ event)
    (moved : Serials.Move maxSerialNumber before event after) :
    ∃ first, Numbered maxSerialNumber after (log.note before event after) first := by
  have here {i : Fin n} {place : LoginAt} (standing : before.uploader i = place)
      (races : RacesAt maxSerialNumber before log place) :
      Races maxSerialNumber ⟨before, log⟩ (.next i) := by
    change RacesAt maxSerialNumber before log (before.uploader i)
    rw [standing]
    exact races
  cases moved with
  | begins standing | readsNow standing | breaksLast standing | updates standing | stamps standing =>
    rw [note_next standing fun _ => LoginAt.noConfusion]
    exact ⟨first, numbered_kept numbered standing rfl rfl (fun _ none => by cases none)
      (fun _ => LoginAt.noConfusion) (fun _ => LoginAt.noConfusion)⟩
  | checks standing =>
    rw [note_next standing fun _ => LoginAt.noConfusion]
    exact ⟨first, numbered_checks numbered positive standing fun races => allowed (here standing races)⟩
  | reads standing =>
    rw [note_next standing fun _ => LoginAt.noConfusion]
    exact ⟨first, numbered_reads numbered fun races => allowed (here standing races)⟩
  | sends standing =>
    simp only [Logins.note, standing]
    exact ⟨first, numbered_sends numbered standing⟩
  | counts standing =>
    rw [note_next standing fun _ => LoginAt.noConfusion]
    exact ⟨first, numbered_counts numbered positive small standing⟩
  | succeeds standing =>
    simp only [Logins.note, standing]
    exact numbered_succeeds numbered standing
  | fails standing other away =>
    rw [note_fails other]
    exact ⟨first, numbered_fails numbered standing away⟩
  | breaks => exact ⟨first, { numbered with }⟩
  | @dawns date away =>
    have nobody : ¬ Serials.Pending { before with today := date } := by
      rintro ⟨i, pending⟩
      have none : (before.uploader i).pending = none := LoginAt.pending_away (away i)
      have pending : (before.uploader i).pending.isSome = true := pending
      rw [none] at pending
      cases pending
    exact ⟨first, numbered_idle nobody numbered.low numbered.high (fun _ none => by cases none) rfl
      fun some => absurd rfl some⟩

/-- As long as no uploader reads the number while another login is pending or after it has
been counted above `MaxSerialNumber`, nor resets it for its date on a day with logins, the
logins of a day have different numbers, all within the limits. -/
theorem serial_numbers_unique {recorded : Recorded (Serials n) Logins}
    (positive : 1 ≤ maxSerialNumber) (small : maxSerialNumber ≤ 65534)
    (reach : Reach (loggingIn n maxSerialNumber)
      (fun recorded event => ¬ Races maxSerialNumber recorded event) recorded) :
    (recorded.log.succeeded.length < maxSerialNumber → recorded.log.succeeded.Nodup) ∧
      ∀ number ∈ recorded.log.sent, 1 ≤ number ∧ number ≤ maxSerialNumber := by
  have held : ∃ first, Numbered maxSerialNumber recorded.state recorded.log first := by
    apply reach.invariant
    · rintro ⟨_, _⟩ ⟨⟨today, tm, lastLogin, rfl⟩, rfl⟩
      have nobody : ¬ Serials.Pending (⟨today, tm, 1, lastLogin, fun _ => .outside⟩ : Serials n) := by
        rintro ⟨i, pending⟩
        cases pending
      exact ⟨0, numbered_idle nobody (Nat.le_refl 1) (Nat.le_add_left 1 _) (fun _ none => by cases none)
        rfl fun some => absurd rfl some⟩
    · rintro ⟨before, log⟩ event _ ⟨first, numbered⟩ allowed stepped
      obtain ⟨after, moved, rfl⟩ := Option.map_eq_some_iff.mp stepped
      exact numbered_step positive small numbered allowed (Serials.step_cases moved)
  obtain ⟨first, numbered⟩ := held
  refine ⟨fun fewer => ?_, numbered.sent⟩
  rw [numbered.succeeded]
  exact Cycle.numbers_nodup (Nat.le_of_lt fewer)

end Steps

/-- An uploader up to the read of its number, and from there to the stamp of its login. -/
def readsNumber (i : Fin n) : List (SerialEvent n) := List.replicate 6 (.next i)

def finishesLogin (i : Fin n) : List (SerialEvent n) :=
  [.next i, .answered i .responseOk, .next i, .next i]

def Serials.daybreak (n : Nat) : Recorded (Serials n) Logins :=
  ⟨⟨2, 0, 1, 1, fun _ => .outside⟩, .nothing⟩

theorem serial_numbers_unique_two : ∃ recorded : Recorded (Serials 2) Logins,
    recorded.log.succeeded = [1, 2] ∧ recorded.log.succeeded.Nodup := by
  have initial : Reach (loggingIn 2 5) (fun recorded event => ¬ Races 5 recorded event)
      (Serials.daybreak 2) := .start ⟨⟨_, _, _, rfl⟩, rfl⟩
  obtain ⟨recorded, reach, both⟩ := initial.exists_of_schedule
    (fun recorded => recorded.log.succeeded = [1, 2])
    (readsNumber 0 ++ finishesLogin 0 ++ readsNumber 1 ++ finishesLogin 1) (by decide +kernel)
  exact ⟨recorded, both,
    (serial_numbers_unique (by decide) (by decide) reach).1 (by rw [both]; decide)⟩

/-- Both uploaders read the number before either has counted its login. -/
theorem serial_number_repeated : ∃ recorded : Recorded (Serials 2) Logins,
    Reachable (loggingIn 2 5) recorded ∧ recorded.log.succeeded.length < 5 ∧
      ¬ recorded.log.succeeded.Nodup := by
  have initial : Reachable (loggingIn 2 5) (Serials.daybreak 2) := .start ⟨⟨_, _, _, rfl⟩, rfl⟩
  exact initial.exists_of_schedule
    (fun recorded => recorded.log.succeeded.length < 5 ∧ ¬ recorded.log.succeeded.Nodup)
    (readsNumber 0 ++ readsNumber 1 ++ finishesLogin 0 ++ finishesLogin 1) (by decide +kernel)

end MotorInfoUpload
