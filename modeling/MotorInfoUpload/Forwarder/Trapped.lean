import MotorInfoUpload.Forwarder.Deadlock
import MotorInfoUpload.Forwarder.Paths

/-! Calls of the service thread that never return, and with them its handler: all threads wait
for each other, or the service thread waits for a packet that only it could bring. -/

namespace MotorInfoUpload

open Machine

variable {n : Nat} {realtime reissue : BlockQueue (Thread n) Packet}

/-- The queue call that the service thread is in waits. -/
def ServiceAt.Waits (realtime reissue : BlockQueue (Thread n) Packet) : ServiceAt → Prop
  | .drainTake _ => realtime.queue = []
  | .drainPut _ _ | .putReissue _ => reissue.queue.length = reissue.capacity
  | .putRealtime _ => realtime.queue.length = realtime.capacity
  | _ => False

/-- The uploader is about to end, or the queue call that it is in waits. -/
def UploaderAt.Waits (realtime reissue : BlockQueue (Thread n) Packet) : UploaderAt → Prop
  | .outside .closing | .outside .stopped => True
  | .takeRealtime => realtime.queue = []
  | .takeReissue => reissue.queue = []
  | .putBack _ => reissue.queue.length = reissue.capacity
  | _ => False

instance (place : ServiceAt) : Decidable (place.Waits realtime reissue) :=
  match place with
  | .drainTake _ | .drainPut _ _ | .putReissue _ | .putRealtime _ =>
    inferInstanceAs (Decidable (_ = _))
  | .idle | .checking _ _ | .drainCheck _ => .isFalse id

instance (place : UploaderAt) : Decidable (place.Waits realtime reissue) :=
  match place with
  | .takeRealtime | .takeReissue | .putBack _ => inferInstanceAs (Decidable (_ = _))
  | .outside .closing | .outside .stopped => .isTrue trivial
  | .outside .unstarted | .outside .starting | .outside (.connecting _) | .outside (.loginCheck _)
  | .outside (.loginSend _) | .outside (.loginWait _) | .outside (.logoutSend _)
  | .outside (.logoutWait _) | .outside .top | .outside .offline | .outside .check
  | .select | .loaded _ | .sending _ => .isFalse id

/-- Nothing will come of the handler that the service thread is in, as long as there are only these
`n` uploaders: one that a later SIGUSR2 started would take from the reissue queue. -/
inductive Trapped (state : State n) : Prop where
  | alone (standing : state.service = .drainTake packet) (nothing : state.realtime.queue = [])
  | together (service : state.service.Waits state.realtime state.reissue)
      (uploaders : ∀ i, (state.uploader i).Waits state.realtime state.reissue)

/-- Only what the queues hold says who waits. -/
structure SameContents (before after : State n) : Prop where
  realtime : after.realtime.queue = before.realtime.queue
  reissue : after.reissue.queue = before.reissue.queue
  realtimeCapacity : after.realtime.capacity = before.realtime.capacity
  reissueCapacity : after.reissue.capacity = before.reissue.capacity

variable {before after : State n}

theorem SameContents.service (same : SameContents before after) {place : ServiceAt}
    (waits : place.Waits before.realtime before.reissue) :
    place.Waits after.realtime after.reissue := by
  cases place with
  | idle | checking | drainCheck => exact waits
  | drainTake => exact same.realtime.trans waits
  | drainPut | putReissue =>
    simp only [ServiceAt.Waits, same.reissue, same.reissueCapacity]
    exact waits
  | putRealtime =>
    simp only [ServiceAt.Waits, same.realtime, same.realtimeCapacity]
    exact waits

theorem SameContents.uploader (same : SameContents before after) {place : UploaderAt}
    (waits : place.Waits before.realtime before.reissue) :
    place.Waits after.realtime after.reissue := by
  cases place with
  | outside place =>
    cases place with
    | closing | stopped => trivial
    | _ => exact waits
  | select | loaded | sending => exact waits
  | takeRealtime => exact same.realtime.trans waits
  | takeReissue => exact same.reissue.trans waits
  | putBack =>
    simp only [UploaderAt.Waits, same.reissue, same.reissueCapacity]
    exact waits

namespace Trapped

private theorem stays (service : before.service.Waits before.realtime before.reissue)
    (uploaders : ∀ i, (before.uploader i).Waits before.realtime before.reissue)
    (same : SameContents before after) (stands : after.service = before.service)
    (stand : after.uploader = before.uploader) : Trapped after := by
  refine .together ?_ fun i => ?_
  · rw [stands]
    exact same.service service
  · rw [stand]
    exact same.uploader (uploaders i)

private theorem service_stays (service : before.service.Waits before.realtime before.reissue)
    (uploaders : ∀ i, (before.uploader i).Waits before.realtime before.reissue)
    (moved : ServiceMove before woken after) : Trapped after := by
  cases moved with
  | found standing | missed standing | offline standing | drained standing | draining standing =>
    rw [standing] at service
    exact service.elim
  | drainSleeps | drainFull | reissueFull | realtimeFull =>
    exact stays service uploaders ⟨rfl, rfl, rfl, rfl⟩ rfl rfl
  | drainTook standing taken =>
    rw [standing] at service
    exact absurd (taken.queue.symm.trans service) (List.cons_ne_nil _ _)
  | drainStored standing stored | reissueStored standing stored | realtimeStored standing stored =>
    rw [standing] at service
    exact absurd service (Nat.ne_of_lt stored.room)

private theorem upload_stays [ByteBufferApi]
    (service : before.service.Waits before.realtime before.reissue)
    (uploaders : ∀ i, (before.uploader i).Waits before.realtime before.reissue)
    (moved : UploadMove before i woken after) : Trapped after := by
  have waits := uploaders i
  cases moved with
  | toRealtime standing | toReissue standing | goesOn standing | skips standing
  | illegal standing =>
    rw [standing] at waits
    exact waits.elim
  | realtimeSleeps | reissueSleeps | putBackFull =>
    exact stays service uploaders ⟨rfl, rfl, rfl, rfl⟩ rfl rfl
  | realtimeTook standing taken | reissueTook standing taken | reissueSpoilt standing taken =>
    rw [standing] at waits
    exact absurd (taken.queue.symm.trans waits) (List.cons_ne_nil _ _)
  | putBackStored standing stored =>
    rw [standing] at waits
    exact absurd waits (Nat.ne_of_lt stored.room)

/-- An uploader outside the queues that waits for nothing more is on its way out. -/
private theorem outside_stays [ByteBufferApi]
    (service : before.service.Waits before.realtime before.reissue)
    (uploaders : ∀ i, (before.uploader i).Waits before.realtime before.reissue)
    (standing : before.uploader i = .outside place)
    (stepped : before.outsideStep i place event = some after) : Trapped after := by
  obtain ⟨same, next, up, path, uploader, -⟩ := State.outsideStep_path standing stepped
  have waits := uploaders i
  rw [standing] at waits
  cases path with
  | stops =>
    refine .together ?_ fun j => ?_
    · rw [same.service, same.realtime, same.reissue]
      exact service
    · rw [uploader, same.realtime, same.reissue]
      rcases eq_or_ne j i with rfl | other
      · rw [Function.update_self]
        trivial
      · rw [Function.update_of_ne other]
        exact uploaders j
  | _ => exact waits.elim

/-- Only the service thread fills the realtime queue. -/
private theorem alone_stays [ByteBufferApi] (standing : before.service = .drainTake packet)
    (nothing : before.realtime.queue = []) (moved : Move before action after) : Trapped after := by
  cases moved with
  | accept free =>
    rw [standing] at free
    cases free
  | service moved =>
    cases moved with
    | drainSleeps => exact .alone standing nothing
    | drainTook _ taken => exact absurd (taken.queue.symm.trans nothing) (List.cons_ne_nil _ _)
    | found other | missed other | offline other | drained other | draining other
    | drainFull other | drainStored other | reissueFull other | reissueStored other
    | realtimeFull other | realtimeStored other =>
      rw [standing] at other
      cases other
  | outside _ moved => cases moved <;> exact .alone standing nothing
  | upload moved =>
    cases moved with
    | realtimeTook _ taken => exact absurd (taken.queue.symm.trans nothing) (List.cons_ne_nil _ _)
    | _ => exact .alone standing nothing
  | wakeRealtime woken => exact .alone standing ((BlockQueue.wake_cases woken).1.trans nothing)
  | start | push | signal | sent | failed | drop | wakeReissue => exact .alone standing nothing

theorem step [ByteBufferApi] (trapped : Trapped before)
    (stepped : before.step action = some after) : Trapped after := by
  cases trapped with
  | alone standing nothing => exact alone_stays standing nothing (State.step_cases stepped)
  | together service uploaders =>
    have waiting {i : Fin n} {place : UploaderAt} (standing : before.uploader i = place) :
        place.Waits before.realtime before.reissue := standing ▸ uploaders i
    cases action with
    | outside i event =>
      rw [State.step] at stepped
      split at stepped
      · rename_i place standing
        exact outside_stays service uploaders standing stepped
      · cases stepped
    | start =>
      cases State.step_cases stepped with
      | start fresh => exact (waiting fresh).elim
    | accept =>
      cases State.step_cases stepped with
      | accept free =>
        rw [free] at service
        exact service.elim
    | service =>
      cases State.step_cases stepped with
      | service moved => exact service_stays service uploaders moved
    | upload =>
      cases State.step_cases stepped with
      | upload moved => exact upload_stays service uploaders moved
    | sent =>
      cases State.step_cases stepped with
      | sent standing => exact (waiting standing).elim
    | failed =>
      cases State.step_cases stepped with
      | failed standing => exact (waiting standing).elim
    | push =>
      cases State.step_cases stepped with
      | push => exact stays service uploaders ⟨rfl, rfl, rfl, rfl⟩ rfl rfl
    | signal =>
      cases State.step_cases stepped with
      | signal => exact stays service uploaders ⟨rfl, rfl, rfl, rfl⟩ rfl rfl
    | drop =>
      cases State.step_cases stepped with
      | drop => exact stays service uploaders ⟨rfl, rfl, rfl, rfl⟩ rfl rfl
    | wakeRealtime =>
      cases State.step_cases stepped with
      | wakeRealtime woken =>
        obtain ⟨queue, capacity, -⟩ := BlockQueue.wake_cases woken
        exact stays service uploaders ⟨queue, rfl, capacity, rfl⟩ rfl rfl
    | wakeReissue =>
      cases State.step_cases stepped with
      | wakeReissue woken =>
        obtain ⟨queue, capacity, -⟩ := BlockQueue.wake_cases woken
        exact stays service uploaders ⟨rfl, queue, rfl, capacity⟩ rfl rfl

theorem busy (trapped : Trapped before) : before.service ≠ .idle := by
  intro idle
  cases trapped with
  | alone standing => simp [idle] at standing
  | together service =>
    rw [idle] at service
    exact service

end Trapped

theorem ServiceAt.waits_of_call {state : State n} (calling : state.service.call name = some request)
    (waits : BlockQueue.Waits (state.queue name) request) :
    state.service.Waits state.realtime state.reissue := by
  cases standing : state.service with
  | idle | checking | drainCheck => simp [standing, ServiceAt.call] at calling
  | drainTake =>
    cases name with
    | reissue => simp [standing, ServiceAt.call] at calling
    | realtime =>
      rw [standing] at calling
      cases calling
      cases waits with
      | take nothing => exact nothing
  | putRealtime =>
    cases name with
    | reissue => simp [standing, ServiceAt.call] at calling
    | realtime =>
      rw [standing] at calling
      cases calling
      cases waits with
      | put full => exact full
  | drainPut | putReissue =>
    cases name with
    | realtime => simp [standing, ServiceAt.call] at calling
    | reissue =>
      rw [standing] at calling
      cases calling
      cases waits with
      | put full => exact full

theorem UploaderAt.waits_of_call {state : State n}
    (calling : (state.uploader i).call name = some request)
    (waits : BlockQueue.Waits (state.queue name) request) :
    (state.uploader i).Waits state.realtime state.reissue := by
  cases standing : state.uploader i with
  | outside | select | loaded | sending => simp [standing, UploaderAt.call] at calling
  | takeRealtime =>
    cases name with
    | reissue => simp [standing, UploaderAt.call] at calling
    | realtime =>
      rw [standing] at calling
      cases calling
      cases waits with
      | take nothing => exact nothing
  | takeReissue =>
    cases name with
    | realtime => simp [standing, UploaderAt.call] at calling
    | reissue =>
      rw [standing] at calling
      cases calling
      cases waits with
      | take nothing => exact nothing
  | putBack =>
    cases name with
    | realtime => simp [standing, UploaderAt.call] at calling
    | reissue =>
      rw [standing] at calling
      cases calling
      cases waits with
      | put full => exact full

end MotorInfoUpload
