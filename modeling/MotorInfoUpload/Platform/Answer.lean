import MotorInfoUpload.Machine.History
import MotorInfoUpload.Platform.Login

/-! Whether `waitNextStatus` notices the response to the login or logout before it. The link
gets a clock here, for a wait may time out only when its seconds have run out. -/

namespace MotorInfoUpload

open Machine

/-- The link with the clock of `wait_for`: whether the seconds of the wait have run out, and
whether it was the clock that ended the wait, for no notification had ended it before. -/
structure TimedLink where
  link : Link
  elapsed : Bool
  unblocked : Bool

inductive TimedAction where
  | link (action : LinkAction)
  | elapses

namespace TimedLink

/-- `wait_for` returns a timeout only if the clock has ended the wait. -/
def Permits (timed : TimedLink) : LinkAction → Prop
  | .timeout => timed.unblocked = true
  | _ => True

instance (timed : TimedLink) (action : LinkAction) : Decidable (timed.Permits action) :=
  match action with
  | .timeout => inferInstanceAs (Decidable (_ = _))
  | .system _ | .send _ | .wait | .wake | .switch | .reader _ => .isTrue trivial

/-- Each wait has its own seconds. -/
def follow (timed : TimedLink) (link : Link) : LinkAction → TimedLink
  | .wait => ⟨link, false, false⟩
  | _ => { timed with link }

variable [ByteBufferApi]

def step (timed : TimedLink) : TimedAction → Option TimedLink
  | .link action =>
    if timed.Permits action then (timed.link.step action).map fun link => timed.follow link action
    else none
  | .elapses => match timed.link.wait, timed.elapsed with
    | .asleep notified, false => some { timed with elapsed := true, unblocked := !notified }
    | _, _ => none

inductive Move (before : TimedLink) : TimedAction → TimedLink → Prop where
  | linked {after : Link} (permitted : before.Permits action)
      (moved : before.link.Move action after) : Move before (.link action) (before.follow after action)
  | elapsed (asleep : before.link.wait = .asleep notified) (first : before.elapsed = false) :
      Move before .elapses { before with elapsed := true, unblocked := !notified }

theorem step_cases {before after : TimedLink} {action : TimedAction}
    (stepped : before.step action = some after) : Move before action after := by
  cases action with
  | link action =>
    simp only [step] at stepped
    split at stepped
    · rename_i permitted
      obtain ⟨link, moved, same⟩ := Option.map_eq_some_iff.mp stepped
      exact same ▸ .linked permitted (Link.step_cases moved)
    · cases stepped
  | elapses =>
    simp only [step] at stepped
    split at stepped
    · rename_i notified asleep first
      cases stepped
      exact .elapsed asleep first
    · cases stepped

end TimedLink

/-- The statuses that the reader has set since the uploader sent its login or logout: before
the uploader was asleep, in the seconds of its wait, and after these. -/
structure Heard where
  unattended : List ResponseReaderStatus
  attended : List ResponseReaderStatus
  late : List ResponseReaderStatus

def Heard.nothing : Heard := ⟨[], [], []⟩

/-- The reader has set `responseOk` before the seconds of the wait had elapsed, and no
other status. -/
structure Heard.InTime (heard : Heard) : Prop where
  only : heard.unattended ++ heard.attended = [.responseOk]
  soon : heard.late = []

instance : DecidablePred Heard.InTime := fun heard =>
  decidable_of_iff (heard.unattended ++ heard.attended = [.responseOk] ∧ heard.late = [])
    ⟨fun ⟨only, soon⟩ => ⟨only, soon⟩, fun ⟨only, soon⟩ => ⟨only, soon⟩⟩

def TimedLink.sets (timed : TimedLink) : TimedAction → Option ResponseReaderStatus
  | .link (.reader .publish) => match timed.link.reader.place with
    | .publishing status => some status
    | _ => none
  | .link (.reader (.check false)) => some .init
  | _ => none

def Heard.add (heard : Heard) (timed : TimedLink) (status : ResponseReaderStatus) : Heard :=
  if timed.link.wait = .entering then { heard with unattended := heard.unattended ++ [status] }
  else if timed.elapsed then { heard with late := heard.late ++ [status] }
  else { heard with attended := heard.attended ++ [status] }

def Heard.note (heard : Heard) (before : TimedLink) (action : TimedAction) (after : TimedLink) :
    Heard :=
  if (after.link.system.uploader 0).awaits then
    match before.sets action with
    | some status => heard.add before status
    | none => heard
  else .nothing

/-- The reader sets `responseOk` between the send of a login or logout and the wait. -/
def Misses (timed : TimedLink) : TimedAction → Prop
  | .link (.reader .publish) => (timed.link.system.uploader 0).awaits = true ∧
      timed.link.wait = .entering ∧ timed.link.reader.place = .publishing .responseOk
  | _ => False

instance (timed : TimedLink) (action : TimedAction) : Decidable (Misses timed action) :=
  match action with
  | .link (.reader .publish) => inferInstanceAs (Decidable (_ ∧ _ ∧ _))
  | .elapses | .link (.system _) | .link (.send _) | .link .wait | .link .wake | .link .timeout
  | .link .switch | .link (.reader (.check _)) | .link (.reader .wakes)
  | .link (.reader .interrupted) | .link (.reader (.read _)) | .link (.reader (.fails _))
  | .link (.reader .throws) | .link (.reader .answer) => .isFalse fun bad => bad

/-- What the uploader has heard, as long as it misses nothing: a `responseOk` in the seconds
of the wait has notified it, so that the clock has not ended the wait. -/
structure Attends (timed : TimedLink) (heard : Heard) : Prop where
  elsewhere : (timed.link.system.uploader 0).awaits = false → heard = .nothing
  noticed : .responseOk ∉ heard.unattended
  entering : timed.link.wait = .entering → heard.attended = []
  notified : ∀ notified, timed.link.wait = .asleep notified → .responseOk ∈ heard.attended →
    notified = true
  running : timed.unblocked = true → ∀ notified, timed.link.wait = .asleep notified →
    .responseOk ∉ heard.attended
  clock : timed.unblocked = true → timed.elapsed = true
  last : heard.late = [] → heard.attended.getLast? = some .responseOk →
    timed.link.reader.responseStatus = .responseOk

theorem Attends.nothing (timed : TimedLink) (clock : timed.unblocked = true → timed.elapsed = true) :
    Attends timed .nothing where
  elsewhere _ := rfl
  noticed := List.not_mem_nil
  entering _ := rfl
  notified _ _ attended := absurd attended List.not_mem_nil
  running _ _ _ := List.not_mem_nil
  clock := clock
  last _ attended := by cases attended

section Runs

variable [ByteBufferApi]

def timedLink (maxVehicleDataQueueSize : Nat) : Automaton TimedLink TimedAction where
  start timed :=
    (platformLink maxVehicleDataQueueSize).start timed.link ∧ timed.elapsed = false ∧
      timed.unblocked = false
  step := TimedLink.step

/-- The link, with the statuses that the reader sets for the uploader. -/
def attending (maxVehicleDataQueueSize : Nat) : Automaton (Recorded TimedLink Heard) TimedAction :=
  (timedLink maxVehicleDataQueueSize).recording .nothing Heard.note

variable {before after : TimedLink} {action : TimedAction} {heard : Heard}

omit [ByteBufferApi] in
private theorem attends_kept {link : Link} (attends : Attends before heard)
    (awaits : (link.system.uploader 0).awaits = true) (wait : link.wait = before.link.wait)
    (reader : link.reader = before.link.reader) : Attends { before with link } heard where
  elsewhere other := by rw [awaits] at other; cases other
  noticed := attends.noticed
  entering begins := attends.entering (wait ▸ begins)
  notified notified asleep := attends.notified notified (wait ▸ asleep)
  running unblocked notified asleep := attends.running unblocked notified (wait ▸ asleep)
  clock := attends.clock
  last soon attended := reader ▸ attends.last soon attended

omit [ByteBufferApi] in
private theorem follow_kept (link : Link) (after : State 1) :
    (link.follow after).wait = link.wait ∧ (link.follow after).reader = link.reader := by
  unfold Link.follow
  split
  · exact ⟨rfl, rfl⟩
  · split <;> exact ⟨rfl, rfl⟩

/-- What the reader's step leaves of the link: a thread that is asleep stays so, and if it
has been notified, it still has been. -/
structure WitnessKept (link : Link) (reader : ResponseReader) (after : Link) : Prop where
  system : after.system = link.system
  reader : after.reader = reader
  entering : after.wait = .entering → link.wait = .entering
  asleep : ∀ notified, after.wait = .asleep notified →
    ∃ earlier, link.wait = .asleep earlier ∧ (earlier = true → notified = true)

omit [ByteBufferApi] in
private theorem witness_kept (link : Link) (reader : ResponseReader) (event : ReaderEvent) :
    WitnessKept link reader (link.witness reader event) := by
  unfold Link.witness
  split
  · exact ⟨rfl, rfl, id, fun notified asleep => ⟨notified, asleep, id⟩⟩
  · exact ⟨rfl, rfl, id, fun notified asleep => ⟨notified, asleep, id⟩⟩
  · split
    · rename_i earlier asleep
      refine ⟨rfl, rfl, fun begins => (by cases begins), fun notified same => ?_⟩
      cases same
      exact ⟨earlier, asleep, fun _ => rfl⟩
    · exact ⟨rfl, rfl, id, fun notified asleep => ⟨notified, asleep, id⟩⟩
  · exact ⟨rfl, rfl, id, fun notified asleep => ⟨notified, asleep, id⟩⟩

omit [ByteBufferApi] in
/-- `notify_all` reaches a thread that is asleep. -/
private theorem publish_notifies {link : Link} {reader : ResponseReader}
    (standing : link.reader.place = .publishing status)
    (asleep : (link.witness reader .publish).wait = .asleep notified) : notified = true := by
  unfold Link.witness at asleep
  rw [standing] at asleep
  dsimp only at asleep
  split at asleep
  · exact (Wait.asleep.inj asleep).symm
  · rename_i away
    exact absurd asleep (away notified)

private theorem sets_status {event : ReaderEvent} {reader : ResponseReader}
    (moved : before.link.reader.step event = some reader) :
    reader.responseStatus =
      (before.sets (.link (.reader event))).getD before.link.reader.responseStatus := by
  cases ResponseReader.step_cases moved with
  | begins | sleeps | wakes | interrupted | fails | throws | answered => rfl
  | received => exact received_status ..
  | published standing =>
    unfold TimedLink.sets
    rw [standing]
    rfl

omit [ByteBufferApi] in
private theorem sets_publishes {event : ReaderEvent}
    (sets : before.sets (.link (.reader event)) = some .responseOk) :
    event = .publish ∧ before.link.reader.place = .publishing .responseOk := by
  unfold TimedLink.sets at sets
  split at sets
  · rename_i same
    cases same
    split at sets
    · rename_i standing
      cases sets
      exact ⟨rfl, standing⟩
    · cases sets
  · cases sets
  · cases sets

omit [ByteBufferApi] in
private theorem asleep_kept {link : Link} (attends : Attends before heard)
    (kept : WitnessKept before.link reader link) (asleep : link.wait = .asleep notified) :
    (.responseOk ∈ heard.attended → notified = true) ∧
      (before.unblocked = true → .responseOk ∉ heard.attended) := by
  obtain ⟨earlier, before, still⟩ := kept.asleep notified asleep
  exact ⟨fun attended => still (attends.notified earlier before attended),
    fun unblocked => attends.running unblocked earlier before⟩

omit [ByteBufferApi] in
private theorem attends_unset {link : Link} {reader : ResponseReader}
    (attends : Attends before heard) (awaits : (before.link.system.uploader 0).awaits = true)
    (kept : WitnessKept before.link reader link)
    (status : reader.responseStatus = before.link.reader.responseStatus) :
    Attends { before with link } heard where
  elsewhere away := by
    rw [kept.system, awaits] at away
    cases away
  noticed := attends.noticed
  entering begins := attends.entering (kept.entering begins)
  notified notified asleep := (asleep_kept attends kept asleep).1
  running unblocked notified asleep := (asleep_kept attends kept asleep).2 unblocked
  clock := attends.clock
  last soon attended := by
    rw [kept.reader, status]
    exact attends.last soon attended

omit [ByteBufferApi] in
private theorem attends_added {link : Link} {reader : ResponseReader} {status : ResponseReaderStatus}
    (attends : Attends before heard) (awaits : (before.link.system.uploader 0).awaits = true)
    (kept : WitnessKept before.link reader link)
    (unmissed : before.link.wait = .entering → status ≠ .responseOk)
    (notifies : status = .responseOk → ∀ notified, link.wait = .asleep notified → notified = true)
    (now : reader.responseStatus = status) :
    Attends { before with link } (heard.add before status) := by
  have elsewhere {other : Heard} (away : (link.system.uploader 0).awaits = false) :
      other = .nothing := by
    rw [kept.system, awaits] at away
    cases away
  unfold Heard.add
  split
  · rename_i entering
    have nothing := attends.entering entering
    have unheard : .responseOk ∉ heard.attended := by simp [nothing]
    refine ⟨elsewhere, fun missed => ?_, fun _ => nothing, fun _ _ attended => absurd attended unheard,
      fun _ _ _ => unheard, attends.clock,
      fun _ attended => absurd (List.mem_of_getLast? attended) unheard⟩
    rcases List.mem_append.mp missed with earlier | last
    · exact attends.noticed earlier
    · exact unmissed entering (List.mem_singleton.mp last).symm
  · rename_i begun
    have still (begins : link.wait = .entering) : False := begun (kept.entering begins)
    split
    · refine ⟨elsewhere, attends.noticed, fun begins => (still begins).elim,
        fun _ asleep => (asleep_kept attends kept asleep).1,
        fun unblocked _ asleep => (asleep_kept attends kept asleep).2 unblocked,
        attends.clock, fun soon => ?_⟩
      simp at soon
    · rename_i inTime
      -- the clock has not ended a wait whose seconds have not run out
      have blocked : before.unblocked ≠ true := fun unblocked => inTime (attends.clock unblocked)
      refine ⟨elsewhere, attends.noticed, fun begins => (still begins).elim,
        fun notified asleep attended => ?_, fun unblocked => absurd unblocked blocked,
        attends.clock, fun _ attended => ?_⟩
      · rcases List.mem_append.mp attended with earlier | last
        · exact (asleep_kept attends kept asleep).1 earlier
        · exact notifies (List.mem_singleton.mp last).symm notified asleep
      · rw [List.getLast?_concat] at attended
        rw [kept.reader, now]
        exact Option.some.inj attended

private theorem attends_reader {event : ReaderEvent} {reader : ResponseReader}
    (attends : Attends before heard) (allowed : ¬ Misses before (.link (.reader event)))
    (awaits : (before.link.system.uploader 0).awaits = true)
    (moved : before.link.reader.step event = some reader) :
    Attends { before with link := before.link.witness reader event }
      (heard.note before (.link (.reader event))
        { before with link := before.link.witness reader event }) := by
  have kept := witness_kept before.link reader event
  have status := sets_status moved
  unfold Heard.note
  rw [if_pos (by rw [kept.system, awaits])]
  cases sets : before.sets (.link (.reader event)) with
  | none =>
    rw [sets] at status
    exact attends_unset attends awaits kept status
  | some set =>
    rw [sets] at status
    refine attends_added attends awaits kept ?_ ?_ status
    · rintro entering rfl
      obtain ⟨rfl, standing⟩ := sets_publishes sets
      exact allowed ⟨awaits, entering, standing⟩
    · rintro rfl notified asleep
      obtain ⟨rfl, standing⟩ := sets_publishes sets
      exact publish_notifies standing asleep

/-- Every step but a missing one keeps what the uploader has heard. -/
private theorem attends_step (attends : Attends before heard) (allowed : ¬ Misses before action)
    (moved : TimedLink.Move before action after) : Attends after (heard.note before action after) := by
  have clock : after.unblocked = true → after.elapsed = true := by
    cases moved with
    | elapsed => exact fun _ => rfl
    | linked permitted moved =>
      cases moved with
      | waits => exact fun ended => (by cases ended)
      | reader | system | sentLogin | sentLogout | wakes | timedOut | switched => exact attends.clock
  by_cases awaits : (after.link.system.uploader 0).awaits = true
  · have here {other : Heard} (away : (after.link.system.uploader 0).awaits = false) :
        other = .nothing := by
      rw [awaits] at away
      cases away
    cases moved with
    | elapsed asleep =>
      unfold Heard.note
      rw [if_pos awaits]
      refine ⟨here, attends.noticed, attends.entering, attends.notified, ?_, clock, attends.last⟩
      intro ended notified same attended
      cases asleep.symm.trans same
      have notified := attends.notified _ asleep attended
      subst notified
      cases ended
    | linked permitted moved =>
      cases moved with
      | reader observes moved =>
        exact attends_reader attends allowed ((witness_kept ..).system ▸ awaits) moved
      | system permitted moved | switched standing back moved =>
        unfold Heard.note
        rw [if_pos awaits]
        exact attends_kept attends awaits (follow_kept ..).1 (follow_kept ..).2
      | sentLogin standing | sentLogout standing =>
        unfold Heard.note
        rw [if_pos awaits, attends.elsewhere (by rw [standing]; rfl)]
        exact .nothing _ clock
      | waits _ entering =>
        unfold Heard.note
        rw [if_pos awaits]
        have unheard : .responseOk ∉ heard.attended := by simp [attends.entering entering]
        exact ⟨here, attends.noticed, fun begins => (by cases begins),
          fun _ _ attended => absurd attended unheard, fun _ _ _ => unheard, clock, attends.last⟩
      | wakes =>
        unfold Heard.note
        rw [if_pos awaits]
        exact ⟨here, attends.noticed, fun begins => (by cases begins),
          fun _ asleep => (by cases asleep), fun _ _ asleep => (by cases asleep), clock, attends.last⟩
      | timedOut asleep =>
        unfold Heard.note
        rw [if_pos awaits]
        have unheard : .responseOk ∉ heard.attended := attends.running permitted _ asleep
        exact ⟨here, attends.noticed, fun begins => (by cases begins),
          fun _ asleep => (by cases asleep), fun _ _ asleep => (by cases asleep), clock,
          fun _ attended => absurd (List.mem_of_getLast? attended) unheard⟩
  · unfold Heard.note
    rw [if_neg awaits]
    exact .nothing after clock

/-- What `waitNextStatus` returns, once it is back. -/
def Link.waitNextStatus (link : Link) : Option ResponseReaderStatus :=
  if (link.system.uploader 0).awaits = true ∧ link.wait = .returned then
    some link.reader.responseStatus
  else none

end Runs

/-- The uploader connects and sends its login. -/
def sendsLogin : List LinkAction :=
  [.system (.start 0), .system (.outside 0 .next), .system (.outside 0 .next),
    .system (.outside 0 .next), .system (.outside 0 .next), .system (.outside 0 .connects),
    .system (.outside 0 .next), .send true]

end MotorInfoUpload
