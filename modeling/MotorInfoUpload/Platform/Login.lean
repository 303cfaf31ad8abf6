import MotorInfoUpload.Forwarder.Paths
import MotorInfoUpload.Platform.Link
import MotorInfoUpload.Platform.Reading

namespace MotorInfoUpload

open Machine

/-- Where the uploader takes a connection that is up for one it has logged in on. -/
def UploaderAt.online : UploaderAt → Bool
  | .outside (.connecting _) | .outside (.loginCheck _) | .outside (.loginSend _)
  | .outside (.loginWait _) | .outside .closing | .outside .stopped => false
  | _ => true

/-- What a step of the system does to the place of the uploader and its connection. -/
structure Follows (before : State 1) (action : Action 1) (after : State 1) : Prop where
  online : (after.uploader 0).online = true → (before.uploader 0).online = true ∨
    action = .outside 0 (.answered .responseOk) ∧ (before.uploader 0).awaitsLogin = true
  connects : after.connected 0 = true → before.connected 0 = true ∨
    (after.uploader 0).online = false ∧ (after.uploader 0).awaitsLogin = false
  awaits : (after.uploader 0).awaitsLogin = true → (before.uploader 0).awaitsLogin = true ∨
    ∃ login event, before.uploader 0 = .outside (.loginSend login) ∧ action = .outside 0 event

private theorem follows_same {before after : State 1} (place : after.uploader = before.uploader)
    (connection : after.connected 0 = true → before.connected 0 = true) :
    Follows before action after where
  online online := .inl (place ▸ online)
  connects up := .inl (connection up)
  awaits awaits := .inl (place ▸ awaits)

private theorem follows_inside {before after : State 1} (inside : (before.uploader 0).online = true)
    (connection : after.connected = before.connected)
    (elsewhere : (after.uploader 0).awaitsLogin = false) : Follows before action after where
  online _ := .inl inside
  connects up := .inl (connection ▸ up)
  awaits awaits := by
    rw [elsewhere] at awaits
    cases awaits

private theorem follows_walks {before after : State 1} {place : Outside} {next : UploaderAt}
    {event : Event} (standing : before.uploader 0 = .outside place)
    (arrived : after.uploader 0 = next)
    (online : next.online = true → (UploaderAt.outside place).online = true)
    (elsewhere : next.awaitsLogin = false)
    (connection : after.connected 0 = true → before.connected 0 = true) :
    Follows before (.outside 0 event) after where
  online there := .inl (by rw [standing]; exact online (arrived ▸ there))
  connects up := .inl (connection up)
  awaits there := by
    rw [arrived, elsewhere] at there
    cases there

/-- Of all answers to a login, only `responseOk` lets `setupConnAndLogin` return. -/
private theorem follows_path {before after : State 1} {place : Outside} {event : Event}
    {next : UploaderAt} {up : Bool} (standing : before.uploader 0 = .outside place)
    (path : Path before (before.connected 0) place event next up)
    (arrived : after.uploader 0 = next) (connection : after.connected 0 = up) :
    Follows before (.outside 0 event) after := by
  have ends (lost : after.connected 0 = false) (there : after.connected 0 = true) :
      before.connected 0 = true := by
    rw [lost] at there
    cases there
  cases path with
  | connects =>
    have offline : (after.uploader 0).online = false ∧ (after.uploader 0).awaitsLogin = false := by
      rw [arrived]
      exact ⟨rfl, rfl⟩
    exact ⟨fun online => (by rw [offline.1] at online; cases online), fun _ => .inr offline,
      fun awaits => (by rw [offline.2] at awaits; cases awaits)⟩
  | login =>
    refine ⟨fun online => ?_, fun there => .inl (connection ▸ there),
      fun _ => .inr ⟨_, _, standing, rfl⟩⟩
    rw [arrived] at online
    cases online
  | loggedIn =>
    have awaits : (before.uploader 0).awaitsLogin = true := by
      rw [standing]
      rfl
    exact ⟨fun _ => .inr ⟨rfl, awaits⟩, fun there => .inl (connection ▸ there), fun _ => .inl awaits⟩
  | declined | tests | connected | throws | checked | reconnects | again | refused =>
    exact follows_walks standing arrived (fun online => (by cases online)) rfl
      fun there => connection ▸ there
  | released | tested | unrecognized | logout | loggedOut | unanswered | stays | returns | enters
  | relogs =>
    exact follows_walks standing arrived (fun _ => rfl) rfl fun there => connection ▸ there
  | leaves => exact follows_walks standing arrived (fun _ => rfl) rfl (ends connection)
  | stops => exact follows_walks standing arrived (fun online => (by cases online)) rfl (ends connection)

section Steps

variable [ByteBufferApi]

private theorem follows_upload {before after : State 1} {i : Fin 1}
    (moved : UploadMove before i woken after) : Follows before action after := by
  have only : i = 0 := Subsingleton.elim _ _
  subst only
  cases moved with
  | realtimeSleeps | reissueSleeps | putBackFull => exact follows_same rfl fun up => up
  | toRealtime standing | toReissue standing | realtimeTook standing | reissueTook standing
  | reissueSpoilt standing | goesOn standing | skips standing | illegal standing
  | putBackStored standing =>
    refine follows_inside (by rw [standing]; rfl) rfl ?_
    simp [UploaderAt.awaitsLogin]

theorem follows_step {before after : State 1} {action : Action 1}
    (stepped : before.step action = some after) : Follows before action after := by
  cases State.step_cases stepped with
  | @start i fresh =>
    rw [Subsingleton.elim i 0] at fresh
    exact follows_inside (by rw [fresh]; rfl) rfl (by simp [UploaderAt.awaitsLogin])
  | push | signal | accept | wakeRealtime | wakeReissue => exact follows_same rfl fun up => up
  | service moved => cases moved <;> exact follows_same rfl fun up => up
  | @outside i place _ event standing =>
    have only : i = 0 := Subsingleton.elim _ _
    subst only
    simp only [State.step, standing] at stepped
    obtain ⟨-, next, up, path, uploader, connected⟩ := State.outsideStep_path standing stepped
    exact follows_path standing path (by rw [uploader, Function.update_self])
      (by rw [connected, Function.update_self])
  | upload moved => exact follows_upload moved
  | @sent i packet standing =>
    rw [Subsingleton.elim i 0] at standing
    exact follows_inside (by rw [standing]; rfl) rfl (by simp [UploaderAt.awaitsLogin])
  | @failed i packet progress standing =>
    rw [Subsingleton.elim i 0] at standing
    exact follows_inside (by rw [standing]; rfl) rfl (by simp [UploaderAt.awaitsLogin])
  | drop up => exact follows_same rfl fun still => by simp at still

end Steps

def Wait.told : Wait → Bool
  | entering => false
  | asleep notified => notified
  | returned => true

/-- What holds of the link as long as no status misleads the uploader. -/
structure Linked (link : Link) : Prop where
  sound : ReaderSound link.reader
  online : (link.system.uploader 0).online = true → link.system.connected 0 = true →
    link.loggedIn = true
  counted : link.confirmed = true → link.loggedIn = true
  published : link.reader.place = .publishing .responseOk → link.fresh = true →
    link.reader.responsePacketType = CmdCode.platformLogin.value → link.confirmed = true
  waiting : (link.system.uploader 0).awaitsLogin = true → link.wait.told = true →
    link.reader.responseStatus = .responseOk → link.confirmed = true

structure Returns (link : Link) : Prop where
  standing : (link.system.uploader 0).awaitsLogin = true
  back : link.wait = .returned
  ok : link.reader.responseStatus = .responseOk

instance : DecidablePred Returns := fun link =>
  decidable_of_iff ((link.system.uploader 0).awaitsLogin = true ∧ link.wait = .returned ∧
      link.reader.responseStatus = .responseOk)
    ⟨fun ⟨standing, back, ok⟩ => ⟨standing, back, ok⟩,
      fun ⟨standing, back, ok⟩ => ⟨standing, back, ok⟩⟩

/-- The steps after which the uploader takes a login for done without a response to
it: the reader publishes `responseOk` for another frame during the wait, or the wait
ends by itself with an old `responseOk` standing. -/
def Misleads (link : Link) : LinkAction → Prop
  | .reader .publish => (link.system.uploader 0).awaitsLogin = true ∧ link.wait ≠ .entering ∧
      link.reader.place = .publishing .responseOk ∧ link.confirmed = false ∧
      ¬ (link.reader.responsePacketType = CmdCode.platformLogin.value ∧ link.fresh = true)
  | .wake => (link.system.uploader 0).awaitsLogin = true ∧ link.wait = .asleep false ∧
      link.reader.responseStatus = .responseOk ∧ link.confirmed = false
  | _ => False

instance (link : Link) (action : LinkAction) : Decidable (Misleads link action) :=
  match action with
  | .reader .publish => inferInstanceAs (Decidable (_ ∧ _ ∧ _ ∧ _ ∧ _))
  | .wake => inferInstanceAs (Decidable (_ ∧ _ ∧ _ ∧ _))
  | .system _ | .send _ | .wait | .timeout | .switch | .reader (.check _) | .reader .wakes
  | .reader .interrupted | .reader (.read _) | .reader (.fails _) | .reader .throws
  | .reader .answer => .isFalse id

private theorem calling_of_awaits {place : UploaderAt} (awaits : place.awaitsLogin = true) :
    place.calling = true := by
  unfold UploaderAt.awaitsLogin at awaits
  split at awaits
  · rfl
  · cases awaits

private theorem inLogin_of_awaits {place : UploaderAt} (awaits : place.awaitsLogin = true) :
    place.inLogin = true := by
  unfold UploaderAt.awaitsLogin at awaits
  split at awaits
  · rfl
  · cases awaits

private theorem follow_wait (link : Link) (wait : Wait) (after : State 1) :
    ({ link with wait } : Link).follow after = { link.follow after with wait } := by
  unfold Link.follow
  dsimp only
  split
  · rfl
  · split <;> rfl

private theorem linked_follow {link : Link} {after : State 1} (linked : Linked link)
    (follows : Follows link.system action after)
    (answered : action = .outside 0 (.answered .responseOk) →
      (link.system.uploader 0).awaitsLogin = true → link.confirmed = true)
    (waits : link.wait.told = true → (after.uploader 0).awaitsLogin = true →
      (link.system.uploader 0).awaitsLogin = true) : Linked (link.follow after) := by
  have online : (after.uploader 0).online = true → link.system.connected 0 = true →
      link.loggedIn = true := by
    intro arrived up
    rcases follows.online arrived with before | ⟨same, awaits⟩
    · exact linked.online before up
    · exact linked.counted (answered same awaits)
  unfold Link.follow
  split
  · rename_i connected
    obtain ⟨down, up⟩ := connected
    have placed : (after.uploader 0).online = false ∧ (after.uploader 0).awaitsLogin = false := by
      rcases follows.connects up with before | placed
      · rw [down] at before
        cases before
      · exact placed
    refine ⟨linked.sound, fun arrived => ?_, fun confirmed => (by cases confirmed),
      fun _ fresh => (by cases fresh), fun awaits => ?_⟩
    · rw [placed.1] at arrived
      cases arrived
    · rw [placed.2] at awaits
      cases awaits
  · rename_i unconnected
    have remained : after.connected 0 = true → link.system.connected 0 = true := by
      intro up
      by_contra down
      exact unconnected ⟨Bool.eq_false_iff.mpr down, up⟩
    split
    · rename_i called
      refine ⟨linked.sound, fun arrived up => online arrived (remained up),
        fun confirmed => (by cases confirmed), fun _ fresh => (by cases fresh), fun awaits told => ?_⟩
      have before := inLogin_of_awaits (waits told awaits)
      rw [called.1] at before
      cases before
    · exact ⟨linked.sound, fun arrived up => online arrived (remained up), linked.counted,
        linked.published, fun awaits told => linked.waiting (waits told awaits) told⟩

section Runs

variable [ByteBufferApi] [LawfulByteBuffer]

omit [LawfulByteBuffer] in
theorem received_status (reader : ResponseReader) (responseBuf : ByteBuffer) (part : Part) :
    (reader.received responseBuf part).responseStatus = reader.responseStatus := by
  cases part with
  | startCode =>
    unfold ResponseReader.received
    dsimp only
    split <;> rfl
  | header => rfl
  | dataUnit length =>
    unfold ResponseReader.received
    dsimp only
    split <;> rfl

omit [LawfulByteBuffer] in
private theorem received_unfinished {reader : ResponseReader} (responseBuf : ByteBuffer) (part : Part)
    (unfinished : ∀ length, part ≠ .dataUnit length) :
    (reader.received responseBuf part).place ≠ .publishing .responseOk := by
  cases part with
  | startCode =>
    unfold ResponseReader.received
    dsimp only
    split <;> exact fun there => by cases there
  | header =>
    unfold ResponseReader.received
    dsimp only
    split <;> exact fun there => by cases there
  | dataUnit length => exact absurd rfl (unfinished length)

omit [ByteBufferApi] [LawfulByteBuffer] in
private theorem linked_quiet {link : Link} {reader : ResponseReader} (linked : Linked link)
    (sound : ReaderSound reader) (place : reader.place ≠ .publishing .responseOk)
    (status : reader.responseStatus = link.reader.responseStatus ∨ reader.responseStatus = .init) :
    Linked { link with reader } where
  sound := sound
  online := linked.online
  counted := linked.counted
  published there := absurd there place
  waiting awaits told ok := by
    rcases status with same | init
    · exact linked.waiting awaits told (same ▸ ok)
    · rw [show reader.responseStatus = .responseOk from ok] at init
      cases init

omit [LawfulByteBuffer] in
private theorem linked_received {link : Link} {part : Part} {bytes : List UInt8}
    (responseBuf : ByteBuffer) (linked : Linked link) (standing : link.reader.place = .reading part)
    (sound : ReaderSound (link.reader.received responseBuf part)) :
    Linked (link.witness (link.reader.received responseBuf part) (.read bytes)) := by
  have status := received_status link.reader responseBuf part
  cases part with
  | startCode =>
    have quiet := linked_quiet linked sound
      (received_unfinished responseBuf .startCode (fun _ other => by cases other)) (.inl status)
    simp only [Link.witness, standing]
    exact ⟨quiet.sound, quiet.online, quiet.counted, fun _ fresh => (by cases fresh), quiet.waiting⟩
  | header =>
    simp only [Link.witness, standing]
    exact linked_quiet linked sound
      (received_unfinished responseBuf .header (fun _ other => by cases other)) (.inl status)
  | dataUnit length =>
    simp only [Link.witness, standing]
    refine ⟨sound, fun arrived up => ?_, fun confirmed => ?_, fun there fresh command => ?_,
      fun awaits told ok => ?_⟩
    · simp [linked.online arrived up]
    · rcases Bool.or_eq_true_iff.mp confirmed with before | success
      · simp [linked.counted before]
      · simp only [success, Bool.or_true]
    · have held := sound.published .responseOk there rfl
      have success :
          LoginSuccess (link.reader.received responseBuf (.dataUnit length)).responseBuf.window :=
        ⟨held.checkCode, held.command.symm.trans command, held.success rfl⟩
      have wasFresh : (decide (link.begun = link.connection) && link.sent) = true := fresh
      simp only [wasFresh, success, decide_true, Bool.and_true, Bool.or_true]
    · have before := linked.waiting awaits told (status.symm.trans ok)
      simp only [before, Bool.true_or]

omit [LawfulByteBuffer] in
private theorem linked_published {link : Link} (linked : Linked link)
    (allowed : ¬ Misleads link (.reader .publish)) (standing : link.reader.place = .publishing status)
    (sound : ReaderSound (link.reader.publish status)) :
    Linked (link.witness (link.reader.publish status) .publish) := by
  have confirmed : (link.system.uploader 0).awaitsLogin = true → link.wait ≠ .entering →
      status = .responseOk → link.confirmed = true := by
    intro awaits begun ok
    subst ok
    by_contra unconfirmed
    have answers : link.reader.responsePacketType = CmdCode.platformLogin.value ∧ link.fresh = true :=
      Classical.byContradiction fun other =>
        allowed ⟨awaits, begun, standing, Bool.eq_false_iff.mpr unconfirmed, other⟩
    exact unconfirmed (linked.published standing answers.2 answers.1)
  simp only [Link.witness, standing]
  cases waiting : link.wait with
  | entering =>
    refine ⟨sound, linked.online, linked.counted, fun there => (by cases there), fun _ told => ?_⟩
    cases told
  | asleep notified =>
    refine ⟨sound, linked.online, linked.counted, fun there => (by cases there), fun awaits _ ok => ?_⟩
    exact confirmed awaits (by rw [waiting]; exact Wait.noConfusion) ok
  | returned =>
    refine ⟨sound, linked.online, linked.counted, fun there => (by cases there), fun awaits _ ok => ?_⟩
    exact confirmed awaits (by rw [waiting]; exact Wait.noConfusion) ok

private theorem linked_reader {link : Link} {reader : ResponseReader} (linked : Linked link)
    (allowed : ¬ Misleads link (.reader event)) (stepped : link.reader.step event = some reader) :
    Linked (link.witness reader event) := by
  have sound := linked.sound.step stepped
  cases ResponseReader.step_cases stepped with
  | begins standing | wakes standing | interrupted standing | throws standing =>
    simp only [Link.witness, standing]
    exact linked_quiet linked sound (fun there => by cases there) (.inl rfl)
  | sleeps standing =>
    simp only [Link.witness, standing]
    exact linked_quiet linked sound (fun there => by cases there) (.inr rfl)
  | received standing size room => exact linked_received _ linked standing sound
  | fails standing failed =>
    have quiet := linked_quiet linked sound
      (fun there => by cases there; rcases failed with failed | failed <;> cases failed) (.inl rfl)
    unfold Link.witness
    split
    all_goals first
      | exact quiet
      | (rename_i reading; cases reading)
  | published standing => exact linked_published linked allowed standing sound
  | answered standing =>
    simp only [Link.witness, standing]
    refine linked_quiet linked sound (fun there => ?_) (.inl rfl)
    dsimp only at there
    split at there <;> cases there

omit [LawfulByteBuffer] in
private theorem linked_send {link : Link} {after : State 1} (linked : Linked link)
    (moved : link.system.step (.outside 0 .next) = some after) (sent : Bool) :
    Linked { link.follow after with wait := .entering, sent := sent } := by
  have entering : Linked { link with wait := .entering } :=
    ⟨linked.sound, linked.online, linked.counted, linked.published, fun _ told => by cases told⟩
  have followed := linked_follow entering (follows_step moved) (fun same => by cases same)
    (fun told => by cases told)
  rw [follow_wait] at followed
  exact ⟨followed.sound, followed.online, followed.counted, followed.published, followed.waiting⟩

/-- Every step but a misleading one keeps a login that is taken for done confirmed. -/
theorem linked_step {link after : Link} {action : LinkAction} (linked : Linked link)
    (allowed : ¬ Misleads link action) (stepped : link.step action = some after) : Linked after := by
  cases Link.step_cases stepped with
  | system permitted moved =>
    have follows := follows_step moved
    refine linked_follow linked follows (fun same awaits => ?_) fun _ arrived => ?_
    · rw [same] at permitted
      have called : (link.system.uploader 0).calling = false := permitted
      rw [calling_of_awaits awaits] at called
      cases called
    · rcases follows.awaits arrived with before | ⟨login, event, sends, same⟩
      · exact before
      · rw [same] at permitted
        have called : (link.system.uploader 0).calling = false := permitted
        rw [sends] at called
        cases called
  | sentLogin standing up moved => exact linked_send linked moved _
  | sentLogout standing moved => exact linked_send linked moved _
  | waits =>
    exact ⟨linked.sound, linked.online, linked.counted, linked.published, fun _ told => by cases told⟩
  | @wakes notified asleep =>
    refine ⟨linked.sound, linked.online, linked.counted, linked.published, fun awaits _ ok => ?_⟩
    cases notified with
    | true => exact linked.waiting awaits (by rw [asleep]; rfl) ok
    | false =>
      by_contra unconfirmed
      exact allowed ⟨awaits, asleep, ok, Bool.eq_false_iff.mpr unconfirmed⟩
  | timedOut =>
    exact ⟨linked.sound.expire, linked.online, linked.counted, linked.published,
      fun _ _ ok => by cases ok⟩
  | switched standing back moved =>
    have follows := follows_step moved
    refine linked_follow linked follows (fun same awaits => ?_) fun _ arrived => ?_
    · have ok : link.reader.responseStatus = .responseOk := by
        injection same with _ event
        injection event
      exact linked.waiting awaits (by rw [back]; rfl) ok
    · rcases follows.awaits arrived with before | ⟨login, event, sends, _⟩
      · exact before
      · rw [sends] at standing
        cases standing
  | reader observes moved => exact linked_reader linked allowed moved

theorem linked_of_reach {capacity : Nat} {link : Link}
    (reach : Reach (platformLink capacity) (fun link action => ¬ Misleads link action) link) :
    Linked link := by
  apply reach.invariant
  · rintro link ⟨mode, rfl⟩
    exact ⟨.initial, fun _ up => (by cases up), fun confirmed => (by cases confirmed),
      fun there => (by cases there), fun awaits => (by cases awaits)⟩
  · intro before action after linked allowed stepped
    exact linked_step linked allowed stepped

/-- As long as no status misleads the uploader, `setupConnAndLogin` returns only when
a login success has been read on the connection since it sent its login on it, and
vehicle packets are written only on a connection on which one has been read. -/
theorem login_answered {capacity : Nat} {link : Link}
    (reach : Reach (platformLink capacity) (fun link action => ¬ Misleads link action) link) :
    (Returns link → link.confirmed = true) ∧
      ∀ after, (platformLink capacity).step link (.system (.sent 0)) = some after →
        link.loggedIn = true := by
  have linked := linked_of_reach reach
  refine ⟨fun returns => ?_, fun after stepped => ?_⟩
  · exact linked.waiting returns.standing (by rw [returns.back]; rfl) returns.ok
  · simp only [platformLink, Link.step] at stepped
    split at stepped
    · rename_i up
      obtain ⟨system, moved, _⟩ := Option.map_eq_some_iff.mp stepped
      cases State.step_cases moved with
      | sent standing => exact linked.online (by rw [standing]; rfl) up
    · cases stepped

end Runs

def answeredBy (frame : List UInt8) : List LinkAction :=
  [.system (.start 0), .system (.outside 0 .next), .system (.outside 0 .next),
    .system (.outside 0 .next), .system (.outside 0 .next), .system (.outside 0 .connects),
    .system (.outside 0 .next), .send true, .wait] ++ (readsFrame frame).map .reader ++ [.wake]

theorem login_answered_once : ∃ link, Returns link ∧ link.confirmed = true := by
  let := ByteBuffer.reference
  have := ByteBuffer.reference_lawful
  have initial : Reach (platformLink 1) (fun link action => ¬ Misleads link action)
      (Link.initial 1 (some .release)) := .start ⟨_, rfl⟩
  obtain ⟨link, reach, returns⟩ := initial.exists_of_schedule Returns
    (answeredBy (sampleResponse .platformLogin 65)) (by decide +kernel)
  exact ⟨link, returns, (login_answered reach).1 returns⟩

/-- The response to a vehicle's login arrives during the wait. -/
theorem login_answered_by_other :
    ∃ link, Reachable (@platformLink ByteBuffer.reference 1) link ∧
      Returns link ∧ link.confirmed = false := by
  let := ByteBuffer.reference
  have initial : Reachable (platformLink 1) (Link.initial 1 (some .release)) := .start ⟨_, rfl⟩
  exact initial.exists_of_schedule (fun link => Returns link ∧ link.confirmed = false)
    (answeredBy (sampleResponse .vehicleLogin 65)) (by decide +kernel)

end MotorInfoUpload
