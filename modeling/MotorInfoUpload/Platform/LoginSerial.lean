import MotorInfoUpload.Platform.LoginLoop
import Mathlib.Order.Basic

namespace MotorInfoUpload

open Machine

/-- The date of the latest success and the number it carried. -/
def lastSuccess : LoginRecord → Option (Tm × UInt16)
  | [] => none
  | none :: older => lastSuccess older
  | some attempt :: older =>
    if attempt.status = .responseOk then some (attempt.stamp, attempt.serial) else lastSuccess older

/-- The dates of the attempts after it. -/
def datesSince : LoginRecord → List Tm
  | [] => []
  | none :: older => datesSince older
  | some attempt :: older =>
    if attempt.status = .responseOk then [] else attempt.now :: datesSince older

/-- The rule: which number a login of the date `now` carries. -/
def LoginSettings.numberOf (settings : LoginSettings) (record : LoginRecord) (now : Tm) : Nat :=
  match lastSuccess record with
  | none => 1
  | some (date, number) =>
    if now = date ∧ number.toNat + 1 ≤ settings.maxSerialNumber then number.toNat + 1 else 1

/-- A frame carries the number of the rule, which is at most the maximum. -/
def NumberedByRule (settings : LoginSettings) (attempt : LoginAttempt) (older : LoginRecord) : Prop :=
  attempt.serial.toNat = settings.numberOf older attempt.now ∧
    1 ≤ attempt.serial.toNat ∧ attempt.serial.toNat ≤ settings.maxSerialNumber

/-- A login of the date `now` would carry another number than the rule says: it is the date
of the latest success, and either that has carried the largest number of 16 bits, so that its
successor is 0, or the date has changed since and has come back. -/
def Miscounts (settings : LoginSettings) (record : LoginRecord) (now : Tm) : Prop :=
  ∃ last ∈ lastSuccess record, now = last.1 ∧
    if ∀ tried ∈ datesSince record, tried = last.1 then last.2 = 65535
    else last.2.toNat + 1 ≤ settings.maxSerialNumber

instance (settings : LoginSettings) (record : LoginRecord) (now : Tm) :
    Decidable (Miscounts settings record now) := inferInstanceAs (Decidable (∃ last ∈ _, _ ∧ _))

/-- No login that is made would carry a wrong number. -/
def Counting (settings : LoginSettings) (recorded : Recorded LoginLoop LoginRecord) : LoopStep → Prop
  | .enter | .connectThrows | .sendThrows _ => True
  | .attempt _ now _ _ => ¬ Miscounts settings recorded.log now

instance (settings : LoginSettings) (recorded : Recorded LoginLoop LoginRecord) (label : LoopStep) :
    Decidable (Counting settings recorded label) := match label with
  | .enter | .connectThrows | .sendThrows _ => .isTrue trivial
  | .attempt _ now _ _ => inferInstanceAs (Decidable (¬ Miscounts settings recorded.log now))

/-- Dates in the order of the calendar. -/
instance : PartialOrder Tm where
  le date other := date.year < other.year ∨ date.year = other.year ∧
    (date.mon < other.mon ∨ date.mon = other.mon ∧ date.mday ≤ other.mday)
  le_refl date := by omega
  le_trans date other last := by omega
  le_antisymm date other := by
    rw [Tm.ext_iff]
    omega

def datesRead : LoginRecord → List Tm
  | [] => []
  | none :: older => datesRead older
  | some attempt :: older =>
    if attempt.status = .responseOk then attempt.stamp :: attempt.now :: datesRead older
    else attempt.now :: datesRead older

section Numbers

variable {settings : LoginSettings} {record : LoginRecord} {loop after : LoginLoop}
  {dates : List Tm} {now date : Tm} {number : UInt16}

theorem LoginLoop.checked_eq : loop.checked settings now =
    if settings.maxSerialNumber < loop.serialNumber.toNat ∨ now ≠ loop.lastLogin then 1
    else loop.serialNumber := by
  have differs : now ≠ loop.lastLogin ↔ now.mday ≠ loop.lastLogin.mday ∨
      now.mon ≠ loop.lastLogin.mon ∨ now.year ≠ loop.lastLogin.year := by
    rw [Ne, Tm.ext_iff]
    omega
  simp only [LoginLoop.checked, differs, gt_iff_lt]

/-- The member `m_serialNumber` since a success of the given date and number, after
attempts of the given dates. -/
structure NumberAfter (settings : LoginSettings) (loop : LoginLoop) (dates : List Tm) (date : Tm)
    (number : UInt16) : Prop where
  stamped : loop.lastLogin = date
  positive : 1 ≤ number.toNat
  within : number.toNat ≤ settings.maxSerialNumber
  serial : if ∀ tried ∈ dates, tried = date then
      loop.serialNumber.toNat = (number.toNat + 1) % 65536 ∨
        loop.serialNumber = 1 ∧ settings.maxSerialNumber ≤ number.toNat ∧ number ≠ 65535
    else loop.serialNumber = 1

theorem not_miscounts_first (none : lastSuccess record = none) : ¬ Miscounts settings record now := by
  rintro ⟨last, success, -⟩
  cases none.symm.trans success

theorem miscounts_some (success : lastSuccess record = some (date, number)) :
    Miscounts settings record now ↔ now = date ∧
      if ∀ tried ∈ datesSince record, tried = date then number = 65535
      else number.toNat + 1 ≤ settings.maxSerialNumber := by
  constructor
  · rintro ⟨last, same, miscounts⟩
    cases success.symm.trans same
    exact miscounts
  · exact fun miscounts => ⟨(date, number), success, miscounts⟩

theorem NumberAfter.checked_iff (following : NumberAfter settings loop dates date number) :
    (loop.checked settings now).toNat =
        (if now = date ∧ number.toNat + 1 ≤ settings.maxSerialNumber then number.toNat + 1 else 1) ↔
      ¬ (now = date ∧ if ∀ tried ∈ dates, tried = date then number = 65535
        else number.toNat + 1 ≤ settings.maxSerialNumber) := by
  obtain ⟨stamped, positive, within, serial⟩ := following
  have small := number.toNat_lt
  have largest : number = 65535 ↔ number.toNat = 65535 := by
    rw [← UInt16.toNat_inj]
    rfl
  have one : (1 : UInt16).toNat = 1 := rfl
  rw [LoginLoop.checked_eq, stamped, apply_ite UInt16.toNat, one]
  by_cases today : now = date
  · simp only [today, ne_eq, not_true_eq_false, or_false, true_and]
    split at serial
    · rename_i same
      simp only [if_pos same, largest]
      rcases serial with next | ⟨next, beyond, notLargest⟩
      · rw [next]
        split <;> split <;> omega
      · have smaller := mt largest.mpr notLargest
        simp only [next, one]
        split <;> split <;> omega
    · rename_i differs
      simp only [if_neg differs, serial, one]
      split <;> split <;> omega
  · simp [today]

theorem NumberAfter.tried (following : NumberAfter settings loop dates date number)
    (right : ¬ (now = date ∧ if ∀ tried ∈ dates, tried = date then number = 65535
      else number.toNat + 1 ≤ settings.maxSerialNumber)) (place : LoopAt) :
    NumberAfter settings ⟨place, loop.checked settings now, loop.lastLogin⟩ (now :: dates) date
      number := by
  refine ⟨following.stamped, following.positive, following.within, ?_⟩
  simp only [List.forall_mem_cons, LoginLoop.checked_eq, following.stamped]
  by_cases today : now = date
  · have serial := following.serial
    simp only [today, ne_eq, not_true_eq_false, or_false, true_and] at right ⊢
    split at serial
    · rename_i same
      simp only [if_pos same] at right ⊢
      by_cases beyond : settings.maxSerialNumber < loop.serialNumber.toNat
      · have ended : settings.maxSerialNumber ≤ number.toNat := by
          rcases serial with next | ⟨_, reached, _⟩
          · have small := number.toNat_lt
            omega
          · exact reached
        exact .inr ⟨if_pos beyond, ended, right⟩
      · simpa [beyond] using serial
    · rename_i differs
      simp [differs, serial]
  · simp [today]

structure Counted (settings : LoginSettings) (loop : LoginLoop) (record : LoginRecord) : Prop where
  rule : EveryAttempt (NumberedByRule settings) record
  first : loop.place ≠ .threw → lastSuccess record = none → loop.serialNumber = 1
  later : loop.place ≠ .threw → ∀ date number, lastSuccess record = some (date, number) →
    NumberAfter settings loop (datesSince record) date number

theorem LoginSettings.numberOf_bounds (enabled : 1 ≤ settings.maxSerialNumber) :
    1 ≤ settings.numberOf record now ∧ settings.numberOf record now ≤ settings.maxSerialNumber := by
  unfold LoginSettings.numberOf
  split
  · exact ⟨Nat.le_refl _, enabled⟩
  · split
    · rename_i next
      exact ⟨Nat.le_add_left .., next.2⟩
    · exact ⟨Nat.le_refl _, enabled⟩

/-- The next attempt carries the number of the rule, unless it is one of those. -/
theorem Counted.checked_iff (counted : Counted settings loop record) (going : loop.place ≠ .threw) :
    (loop.checked settings now).toNat = settings.numberOf record now ↔
      ¬ Miscounts settings record now := by
  cases success : lastSuccess record with
  | none =>
    have one : (1 : UInt16).toNat = 1 := rfl
    simp [LoginLoop.checked_eq, counted.first going success, LoginSettings.numberOf, success, one,
      not_miscounts_first success]
  | some last =>
    obtain ⟨date, number⟩ := last
    rw [miscounts_some success]
    simp only [LoginSettings.numberOf, success]
    exact (counted.later going date number success).checked_iff

theorem Counted.numbered (counted : Counted settings loop record) (going : loop.place ≠ .threw)
    (enabled : 1 ≤ settings.maxSerialNumber)
    {made : LoginAttempt} (carried : made.serial = loop.checked settings made.now)
    (counting : ¬ Miscounts settings record made.now) : NumberedByRule settings made record := by
  have right : made.serial.toNat = settings.numberOf record made.now := by
    rw [carried, counted.checked_iff going]
    exact counting
  refine ⟨right, ?_⟩
  rw [right]
  exact LoginSettings.numberOf_bounds enabled

theorem Counted.failed (counted : Counted settings loop record) (going : loop.place ≠ .threw)
    {made : LoginAttempt}
    (numbered : NumberedByRule settings made record) (failed : made.status ≠ .responseOk)
    (counting : ¬ Miscounts settings record made.now) (place : LoopAt) :
    Counted settings ⟨place, loop.checked settings made.now, loop.lastLogin⟩ (some made :: record) := by
  constructor
  · exact counted.rule.attempt numbered
  · intro _ success
    simp only [lastSuccess, if_neg failed] at success
    change loop.checked settings made.now = 1
    simp [LoginLoop.checked_eq, counted.first going success]
  · intro _ date number success
    simp only [lastSuccess, if_neg failed] at success
    rw [miscounts_some success] at counting
    simp only [datesSince, if_neg failed]
    exact (counted.later going date number success).tried counting place

theorem Counted.succeeded (counted : Counted settings loop record) {made : LoginAttempt}
    (numbered : NumberedByRule settings made record) (succeeded : made.status = .responseOk)
    (place : LoopAt) : Counted settings ⟨place, made.serial + 1, made.stamp⟩ (some made :: record) := by
  constructor
  · exact counted.rule.attempt numbered
  · intro _ success
    simp [lastSuccess, succeeded] at success
  · intro _ date number success
    simp only [lastSuccess, if_pos succeeded, Option.some.injEq, Prod.mk.injEq] at success
    obtain ⟨rfl, rfl⟩ := success
    obtain ⟨-, positive, within⟩ := numbered
    refine ⟨rfl, positive, within, ?_⟩
    simp [datesSince, succeeded, UInt16.toNat_add]

private theorem Counted.numbered_round (counted : Counted settings loop record)
    (going : loop.place ≠ .threw) (enabled : 1 ≤ settings.maxSerialNumber)
    (counting : ¬ Miscounts settings record now)
    (reconnected : Bool) (waited : UInt64) (status : ResponseReaderStatus) (stamp : Tm) :
    NumberedByRule settings
      ⟨reconnected, waited, loop.checked settings now, now, status, stamp⟩ record :=
  counted.numbered going enabled rfl counting

theorem Counted.step (counted : Counted settings loop record) (enabled : 1 ≤ settings.maxSerialNumber)
    (counting : Counting settings ⟨loop, record⟩ label)
    (stepped : loop.step settings label = some after) :
    Counted settings after (loop.noted settings label ++ record) := by
  have going {i waitTimeout : UInt64} (standing : loop.place = .round i waitTimeout) :
      loop.place ≠ .threw := by simp [standing]
  cases LoginLoop.step_cases stepped with
  | enters standing =>
    have going : loop.place ≠ .threw := by simp [standing]
    refine ⟨counted.rule.call, fun _ => counted.first going, fun _ date number success => ?_⟩
    obtain ⟨stamped, positive, within, serial⟩ := counted.later going date number success
    exact ⟨stamped, positive, within, serial⟩
  | again standing unanswered =>
    rw [LoginLoop.noted_round standing]
    apply counted.failed (going standing) (counted.numbered_round (going standing) enabled counting ..)
      _ counting
    rcases unanswered with rfl | rfl | rfl <;> simp
  | succeeds standing =>
    rw [LoginLoop.noted_round standing]
    exact counted.succeeded (counted.numbered_round (going standing) enabled counting ..) rfl _
  | throws standing unexpected =>
    rw [LoginLoop.noted_round standing]
    apply counted.failed (going standing) (counted.numbered_round (going standing) enabled counting ..)
      _ counting
    rcases unexpected with rfl | rfl <;> simp
  | connectThrew | sendThrew =>
    exact ⟨counted.rule, fun going => absurd rfl going, fun going => absurd rfl going⟩

theorem numberOf_unsuccessful {between : LoginRecord}
    (failed : ∀ attempt, some attempt ∈ between → attempt.status ≠ .responseOk) :
    settings.numberOf (between ++ record) now = settings.numberOf record now := by
  have same : lastSuccess (between ++ record) = lastSuccess record := by
    induction between with
    | nil => rfl
    | cons first between ih =>
      have rest := ih fun attempt member => failed attempt (List.mem_cons_of_mem _ member)
      cases first with
      | none => exact rest
      | some attempt =>
        have unsuccessful := failed attempt (List.mem_cons_self ..)
        simp [lastSuccess, unsuccessful, rest]
  simp [LoginSettings.numberOf, same]

theorem datesRead_split (success : lastSuccess record = some (date, number)) :
    ∃ earlier, datesRead record = datesSince record ++ date :: earlier := by
  induction record with
  | nil => cases success
  | cons first older ih =>
    cases first with
    | none => exact ih success
    | some attempt =>
      by_cases succeeded : attempt.status = .responseOk
      · simp only [lastSuccess, if_pos succeeded, Option.some.injEq, Prod.mk.injEq] at success
        exact ⟨attempt.now :: datesRead older, by simp [datesRead, datesSince, succeeded, success.1]⟩
      · simp only [lastSuccess, if_neg succeeded] at success
        obtain ⟨earlier, split⟩ := ih success
        exact ⟨earlier, by simp [datesRead, datesSince, succeeded, split]⟩

private theorem datesSince_today (success : lastSuccess record = some (now, number))
    (forward : (now :: datesRead record).Pairwise (· ≥ ·)) :
    ∀ tried ∈ datesSince record, tried = now := by
  obtain ⟨earlier, split⟩ := datesRead_split success
  rw [split] at forward
  obtain ⟨notLater, sorted⟩ := List.pairwise_cons.mp forward
  intro tried member
  apply le_antisymm
  · exact notLater tried (List.mem_append_left _ member)
  · exact (List.pairwise_append.mp sorted).2.2 tried member now (List.mem_cons_self ..)

/-- While the date does not go back, the only wrong number is the successor of 65535. -/
theorem miscounts_forward (forward : (now :: datesRead record).Pairwise (· ≥ ·)) :
    Miscounts settings record now ↔ lastSuccess record = some (now, 65535) := by
  constructor
  · rintro ⟨⟨date, number⟩, success, rfl, miscounts⟩
    rw [if_pos (datesSince_today success forward)] at miscounts
    have largest : number = 65535 := miscounts
    rw [Option.mem_def.mp success, largest]
  · intro success
    exact ⟨(now, 65535), success, rfl, by rw [if_pos (datesSince_today success forward)]⟩

theorem Counted.begins (place : LoopAt) (epoch : Tm) : Counted settings ⟨place, 1, epoch⟩ [] where
  rule := .empty
  first _ _ := rfl
  later := by
    intro _ date number success
    cases success

theorem counted_of_reach {epoch : Tm} (enabled : 1 ≤ settings.maxSerialNumber)
    {recorded : Recorded LoginLoop LoginRecord}
    (reach : Reach (loginLoop settings epoch) (Counting settings) recorded) :
    Counted settings recorded.state recorded.log := by
  induction reach with
  | start initially =>
    obtain ⟨started, empty⟩ := initially
    rw [started, empty]
    exact .begins _ _
  | next _ counting stepped ih =>
    obtain ⟨next, moved, rfl⟩ := Option.map_eq_some_iff.mp stepped
    exact ih.step enabled counting moved

end Numbers

/-- Every run none of whose attempts miscounts carries the numbers of the rule, and attempts
of one date without a success between them carry the same number. The next attempt carries the
number of the rule exactly if it does not miscount, which while the date does not go back is
only the successor of 65535. -/
theorem login_serials (settings : LoginSettings) (epoch : Tm) (enabled : 1 ≤ settings.maxSerialNumber)
    {recorded : Recorded LoginLoop LoginRecord}
    (reach : Reach (loginLoop settings epoch) (Counting settings) recorded) :
    EveryAttempt (NumberedByRule settings) recorded.log ∧
      (∀ newer later between earlier older,
        recorded.log = newer ++ some later :: (between ++ some earlier :: older) →
        (∀ attempt, some attempt ∈ between ++ [some earlier] → attempt.status ≠ .responseOk) →
        later.now = earlier.now → later.serial = earlier.serial) ∧
      (∀ connected now status stamp after,
        (loginLoop settings epoch).step recorded (.attempt connected now status stamp) = some after →
        ∃ made, after.log = some made :: recorded.log ∧
          (NumberedByRule settings made recorded.log ↔ ¬ Miscounts settings recorded.log made.now)) ∧
      ∀ now, (now :: datesRead recorded.log).Pairwise (· ≥ ·) →
        (Miscounts settings recorded.log now ↔ lastSuccess recorded.log = some (now, 65535)) := by
  have counted := counted_of_reach enabled reach
  refine ⟨counted.rule, ?_, ?_, fun now => miscounts_forward⟩
  · intro newer later between earlier older same failed today
    have first := (counted.rule newer later _ same).1
    have second := (counted.rule (newer ++ some later :: between) earlier older (by simp [same])).1
    rw [← List.singleton_append, ← List.append_assoc, numberOf_unsuccessful failed, today] at first
    exact UInt16.toNat_inj.mp (first.trans second.symm)
  · intro connected now status stamp after stepped
    obtain ⟨next, kept, -⟩ := Option.map_eq_some_iff.mp stepped
    have moved : recorded.state.step settings (.attempt connected now status stamp) = some next := kept
    obtain ⟨i, waitTimeout, standing⟩ : ∃ i waitTimeout,
        recorded.state.place = .round i waitTimeout := by
      cases LoginLoop.step_cases moved with
      | again standing | succeeds standing | throws standing => exact ⟨_, _, standing⟩
    obtain ⟨_, _, _, _, same, -, logged⟩ :=
      (loginLoop_round standing stepped).resolve_right (by simp)
    cases same
    refine ⟨_, logged, ?_⟩
    rw [← counted.checked_iff (by simp [standing])]
    constructor
    · exact fun numbered => numbered.1
    · intro right
      refine ⟨right, ?_⟩
      change 1 ≤ (LoginLoop.checked settings now recorded.state).toNat ∧ _
      rw [right]
      exact LoginSettings.numberOf_bounds enabled

/-- Three logins of one day and one of the next, with the maximum 2. -/
theorem login_serials_four :
    ∃ recorded, Reach (loginLoop ⟨3, 60, 1800, 2⟩ ⟨70, 0, 1⟩) (Counting ⟨3, 60, 1800, 2⟩) recorded ∧
      recorded.log.map (Option.map LoginAttempt.serial) =
        [some 1, none, some 1, none, some 2, some 2, none, some 1, none] ∧
      EveryAttempt (NumberedByRule ⟨3, 60, 1800, 2⟩) recorded.log := by
  let today : Tm := ⟨117, 6, 1⟩
  let tomorrow : Tm := ⟨117, 6, 2⟩
  have initial : Reach (loginLoop ⟨3, 60, 1800, 2⟩ ⟨70, 0, 1⟩) (Counting ⟨3, 60, 1800, 2⟩)
      ⟨⟨.outside, 1, ⟨70, 0, 1⟩⟩, []⟩ := .start ⟨rfl, rfl⟩
  obtain ⟨recorded, reach, serials⟩ := initial.exists_of_schedule
    (fun recorded => recorded.log.map (Option.map LoginAttempt.serial) =
      [some 1, none, some 1, none, some 2, some 2, none, some 1, none])
    [.enter, .attempt true today .responseOk today, .enter, .attempt true today .timeout today,
      .attempt true today .responseOk today, .enter, .attempt true today .responseOk today,
      .enter, .attempt true tomorrow .responseOk tomorrow] (by decide)
  exact ⟨recorded, reach, serials, (login_serials _ _ (by decide) reach).1⟩

section Wrap

variable {settings : LoginSettings} {epoch today : Tm}

private theorem success_on {number : UInt16} {lastLogin : Tm} {log : LoginRecord}
    (reach : Reachable (loginLoop settings epoch) ⟨⟨.outside, number, lastLogin⟩, log⟩)
    (within : number.toNat ≤ settings.maxSerialNumber) (same : lastLogin = today ∨ number = 1) :
    ∃ waited, Reachable (loginLoop settings epoch) ⟨⟨.outside, number + 1, today⟩,
      some ⟨false, waited, number, today, .responseOk, today⟩ :: none :: log⟩ := by
  have carried : LoginLoop.checked settings today ⟨.round 0 settings.loginIntervals, number, lastLogin⟩ =
      number := by
    rw [LoginLoop.checked_eq]
    rcases same with rfl | rfl
    · simp [Nat.not_lt.mpr within]
    · exact ite_self _
  have enters : (loginLoop settings epoch).step ⟨⟨.outside, number, lastLogin⟩, log⟩ .enter =
      some ⟨⟨.round 0 settings.loginIntervals, number, lastLogin⟩, none :: log⟩ := rfl
  have succeeds : (loginLoop settings epoch).step
      ⟨⟨.round 0 settings.loginIntervals, number, lastLogin⟩, none :: log⟩
        (.attempt true today .responseOk today) =
      some ⟨⟨.outside, number + 1, today⟩,
        some ⟨false, (LoginLoop.waits settings true 0 settings.loginIntervals).2, number, today,
          .responseOk, today⟩ :: none :: log⟩ := by
    simp [loginLoop, Automaton.recording, LoginLoop.step, LoginLoop.noted, carried]
  exact ⟨_, (reach.next trivial enters).next trivial succeeds⟩

private theorem successes (roomy : 65535 ≤ settings.maxSerialNumber) (n : Nat) (small : n ≤ 65535) :
    ∃ log lastLogin, Reachable (loginLoop settings epoch)
        ⟨⟨.outside, UInt16.ofNat (n + 1), lastLogin⟩, log⟩ ∧
      (lastLogin = today ∨ UInt16.ofNat (n + 1) = 1) ∧ ∀ date ∈ datesRead log, date = today := by
  induction n with
  | zero => exact ⟨[], epoch, .start ⟨rfl, rfl⟩, .inr rfl, by simp [datesRead]⟩
  | succ n ih =>
    obtain ⟨log, lastLogin, reach, same, dates⟩ := ih (by omega)
    have within : (UInt16.ofNat (n + 1)).toNat ≤ settings.maxSerialNumber := by
      rw [UInt16.toNat_ofNat']
      omega
    obtain ⟨waited, later⟩ := success_on reach within same
    refine ⟨_, today, UInt16.ofNat_add (n + 1) 1 ▸ later, .inl rfl, ?_⟩
    simpa [datesRead] using dates

end Wrap

/-- The login after 65535 successes of one day carries the number 0. -/
theorem login_serial_zero :
    ∃ recorded, Reachable (loginLoop ⟨3, 60, 1800, 65535⟩ ⟨70, 0, 1⟩) recorded ∧
      (datesRead recorded.log).Pairwise (· ≥ ·) ∧
      (∃ made older, recorded.log = some made :: older ∧ made.serial = 0) ∧
      ¬ EveryAttempt (NumberedByRule ⟨3, 60, 1800, 65535⟩) recorded.log := by
  let settings : LoginSettings := ⟨3, 60, 1800, 65535⟩
  let today : Tm := ⟨117, 6, 1⟩
  have roomy : 65535 ≤ settings.maxSerialNumber := Nat.le_refl _
  have earlier : ∃ log lastLogin, Reachable (loginLoop settings ⟨70, 0, 1⟩)
      ⟨⟨.outside, UInt16.ofNat (65535 + 1), lastLogin⟩, log⟩ ∧
      (lastLogin = today ∨ UInt16.ofNat (65535 + 1) = 1) ∧ ∀ date ∈ datesRead log, date = today :=
    successes roomy 65535 (Nat.le_refl _)
  obtain ⟨log, lastLogin, reach, same, dates⟩ := earlier
  obtain ⟨waited, wrapped⟩ := success_on reach (Nat.zero_le _) same
  refine ⟨_, wrapped, ?_, ⟨_, _, rfl, rfl⟩, ?_⟩
  · have constant : ∀ date ∈ today :: today :: datesRead log, date = today := by simpa using dates
    change (today :: today :: datesRead log).Pairwise (· ≥ ·)
    rw [List.eq_replicate_of_mem constant]
    exact List.pairwise_replicate.mpr (.inr le_rfl)
  · intro every
    have positive : 1 ≤ (UInt16.ofNat (65535 + 1)).toNat := (every [] _ _ rfl).2.1
    exact absurd positive (by decide)

end MotorInfoUpload
