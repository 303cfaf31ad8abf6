import MotorInfoUpload.Forwarder.Paths
import MotorInfoUpload.Forwarder.Ownership

namespace MotorInfoUpload

open Machine

variable {n : Nat} {before after : State n} {i : Fin n}

/-- The events after which `Uploader::run` closes its connection and returns. -/
inductive Ending (before : State n) (i : Fin n) : Event → Prop where
  | unrecognized (standing : before.uploader i = .outside .starting) (mode : before.mode = none) :
      Ending before i .next
  | throws (standing : before.uploader i = .outside (.connecting login)) : Ending before i .throws
  | refused (standing : before.uploader i = .outside (.loginWait login)) :
      Ending before i (.answered .responseNotOk)
  -- the reader sets `init` when it finds the connection lost, maybe before the wait is over
  | unexpected (standing : before.uploader i = .outside (.loginWait login)) :
      Ending before i (.answered .init)
  | unanswered (standing : before.uploader i = .outside (.logoutWait k))
      (other : status ≠ .responseOk) : Ending before i (.answered status)

private theorem ends_path (standing : before.uploader i = .outside place)
    (path : Path before up place event next later) (closing : next = .outside .closing) :
    Ending before i event := by
  cases path with
  | unrecognized mode => exact .unrecognized standing mode
  | throws => exact .throws standing
  | refused refusal =>
    rcases refusal with rfl | rfl
    · exact .refused standing
    · exact .unexpected standing
  | unanswered other => exact .unanswered standing other
  | @loggedIn login => cases login <;> cases closing
  | _ => cases closing

section Runs

variable [ByteBufferApi] [LawfulByteBuffer] {capacity : Nat}

omit [ByteBufferApi] [LawfulByteBuffer] in
private theorem stays_or_moves {j : Fin n} {next : UploaderAt} (elsewhere : next ≠ .outside .closing)
    (runs : before.uploader i ≠ .outside .closing) :
    (before.move j next).uploader i ≠ .outside .closing := by
  rcases eq_or_ne i j with rfl | other
  · rwa [State.move_uploader]
  · rwa [State.move_other _ _ other]

/-- A packet that has come this far can be marked, and is not empty and not illegal. -/
private theorem upload_goes_on (kept : Kept before) (moved : UploadMove before j woken after)
    (runs : before.uploader i ≠ .outside .closing) : after.uploader i ≠ .outside .closing := by
  cases moved with
  | toRealtime | toReissue | goesOn | skips => exact stays_or_moves nofun runs
  | realtimeTook | reissueTook | putBackStored => exact stays_or_moves nofun runs
  | realtimeSleeps | reissueSleeps | putBackFull => exact runs
  | @reissueSpoilt _ data _ standing taken refused =>
    have sound := kept.sound .reissue data (by simp [State.contents, taken.queue])
    obtain ⟨buf, marked, -⟩ := markReissue_forwardable sound.forwardable
    rw [marked] at refused
    cases refused
  | @illegal packet standing other =>
    have sound := kept.sound (.uploader j) packet (by simp [State.contents, standing, UploaderAt.held])
    exact absurd sound.forwardable.legal other

private theorem goes_on (kept : Kept before) (moved : Move before action after)
    (inside : ∀ j event, action ≠ .outside j event) (runs : before.uploader i ≠ .outside .closing) :
    after.uploader i ≠ .outside .closing := by
  cases moved with
  | start | sent | failed => exact stays_or_moves nofun runs
  | push | signal | accept | drop | wakeRealtime | wakeReissue => exact runs
  | service moved => cases moved <;> exact runs
  | upload moved => exact upload_goes_on kept moved runs
  | outside => exact absurd rfl (inside _ _)

/-- No packet ends an uploader, whatever the vehicles send: it ends only because of the mode, of an
exception of the connection attempt, or of the status it finds after it has waited for the answer
to a login or a logout. -/
theorem uploader_ends (reach : Reach (forwarder n capacity) FailsWhole before)
    (stepped : before.step action = some after) (runs : before.uploader i ≠ .outside .closing)
    (ends : after.uploader i = .outside .closing) :
    ∃ event, action = .outside i event ∧ Ending before i event := by
  cases action with
  | outside j event =>
    rw [State.step] at stepped
    split at stepped
    · rename_i place standing
      obtain ⟨-, next, up, path, uploader, -⟩ := State.outsideStep_path standing stepped
      rw [uploader] at ends
      rcases eq_or_ne i j with rfl | other
      · rw [Function.update_self] at ends
        exact ⟨event, rfl, ends_path standing path ends⟩
      · rw [Function.update_of_ne other] at ends
        exact absurd ends runs
    · cases stepped
  | _ => exact absurd ends (goes_on (kept_of_reach reach) (State.step_cases stepped) nofun runs)

omit [ByteBufferApi] [LawfulByteBuffer] in
/-- The platform refuses the login. -/
theorem uploader_ends_refused : ∃ before : State 1,
    before.uploader 0 = .outside (.loginWait .forward) ∧
      Ending before 0 (.answered .responseNotOk) := by
  let := ByteBuffer.reference
  have := ByteBuffer.reference_lawful
  have initial : Reach (forwarder 1 1) FailsWhole (State.initial 1 1 (some .release)) := .start ⟨_, rfl⟩
  obtain ⟨before, reach, waits⟩ := initial.exists_of_schedule
    (fun state => state.uploader 0 = .outside (.loginWait .forward)) (loggedIn.take 9)
    (by decide +kernel)
  have stepped : before.step (.outside 0 (.answered .responseNotOk)) =
      some (before.move 0 (.outside .closing)) := by
    rw [State.step, waits]
    rfl
  obtain ⟨event, same, ends⟩ := uploader_ends reach stepped (by simp [waits])
    (State.move_uploader ..)
  cases same
  exact ⟨before, waits, ends⟩

end Runs

end MotorInfoUpload
