import MotorInfoUpload.Machine.Ownership
import MotorInfoUpload.Forwarder.Moves
import MotorInfoUpload.Forwarder.Reissue

namespace MotorInfoUpload

open Machine

def UploaderAt.held : UploaderAt → List Packet
  | .loaded packet | .sending packet | .putBack packet => [packet]
  | .outside _ | .select | .takeRealtime | .takeReissue => []

/-- The packet on its way from the realtime to the reissue queue. -/
def ServiceAt.drained : ServiceAt → List Packet
  | .drainPut _ data => [data]
  | _ => []

def ServiceAt.fresh : ServiceAt → List Packet
  | .idle => []
  | .checking _ packet | .drainCheck packet | .drainTake packet | .drainPut packet _
  | .putReissue packet | .putRealtime packet => [packet]

/-- The places a packet can be in. -/
inductive Place (n : Nat) where
  | realtime
  | reissue
  | service
  | uploader (i : Fin n)
  | written
deriving DecidableEq

variable {n : Nat}

namespace State

def contents (state : State n) : Place n → List Packet
  | .realtime => state.realtime.queue
  | .reissue => state.reissue.queue
  | .service => state.service.drained ++ state.service.fresh
  | .uploader i => (state.uploader i).held
  | .written => state.written

def keys (state : State n) (place : Place n) : List Nat := (state.contents place).map Packet.seq

end State

/-- A failing write leaves the position of the packet where it was. -/
def FailsWhole (_ : State n) : Action n → Prop
  | .failed _ progress => progress = 0
  | _ => True

instance (state : State n) (action : Action n) : Decidable (FailsWhole state action) :=
  match action with
  | .failed _ _ => inferInstanceAs (Decidable (_ = _))
  | .start _ | .push | .signal | .accept _ | .service _ | .outside _ _ | .upload _ _ | .drop _
  | .sent _ | .wakeRealtime _ | .wakeReissue _ => .isTrue trivial

section Ownership

variable [ByteBufferApi]

/-- A packet as it was accepted, or marked as a reissue of that. -/
def Sound (accepted : List ByteBuffer) (packet : Packet) : Prop :=
  ∃ original, accepted[packet.seq]? = some original ∧ Forwardable original ∧
    (packet.buf = original ∨ markReissue original = .ok packet.buf)

/-- Every accepted packet has one owner, and every packet is sound. -/
structure Kept (state : State n) : Prop where
  owned : Owned state.keys state.accepted.length
  sound : ∀ place, ∀ packet ∈ state.contents place, Sound state.accepted packet

theorem Sound.append (sound : Sound accepted packet) (buf : ByteBuffer) :
    Sound (accepted ++ [buf]) packet := by
  obtain ⟨original, found, same⟩ := sound
  obtain ⟨below, _⟩ := List.getElem?_eq_some_iff.mp found
  exact ⟨original, by rw [List.getElem?_append_left below, found], same⟩

theorem Sound.forwardable [LawfulByteBuffer] (sound : Sound accepted packet) :
    Forwardable packet.buf := by
  obtain ⟨original, _, forwardable, same | marked⟩ := sound
  · exact same ▸ forwardable
  · obtain ⟨buf, succeeded, still, _⟩ := markReissue_forwardable forwardable
    have only : buf = packet.buf := Except.ok.inj (succeeded.symm.trans marked)
    exact only ▸ still

/-- Marking a sound packet leaves it sound: a second marking changes nothing. -/
theorem Sound.marked [LawfulByteBuffer] (sound : Sound accepted packet)
    (marked : markReissue packet.buf = .ok buf) : Sound accepted { packet with buf } := by
  obtain ⟨original, found, forwardable, same | earlier⟩ := sound
  · exact ⟨original, found, forwardable, .inr (same ▸ marked)⟩
  · obtain ⟨once, succeeded, _, again⟩ := markReissue_forwardable forwardable
    have only : once = packet.buf := Except.ok.inj (succeeded.symm.trans earlier)
    have kept : buf = packet.buf := Except.ok.inj (marked.symm.trans (only ▸ again))
    exact ⟨original, found, forwardable, .inr (kept ▸ earlier)⟩

private theorem Kept.unmoved {before after : State n} (kept : Kept before)
    (same : ∀ place, after.contents place = before.contents place)
    (accepted : after.accepted = before.accepted) : Kept after where
  owned := by
    rw [accepted]
    refine kept.owned.unmoved fun place => ?_
    rw [State.keys, State.keys, same]
  sound place packet member := by
    rw [accepted]
    exact kept.sound place packet (same place ▸ member)

private theorem Kept.transfer {before after : State n} (kept : Kept before)
    (source target : Place n) (apart : source ≠ target) (old packet : Packet)
    (same : packet.seq = old.seq) (sound : Sound before.accepted packet)
    (lost : (before.contents source).Perm (old :: after.contents source))
    (gained : (after.contents target).Perm (packet :: before.contents target))
    (others : ∀ place, place ≠ source → place ≠ target →
      after.contents place = before.contents place)
    (accepted : after.accepted = before.accepted) : Kept after where
  owned := by
    rw [accepted]
    refine kept.owned.transfer apart old.seq ?_ ?_ ?_
    · exact lost.map Packet.seq
    · have moved := gained.map Packet.seq
      rw [List.map_cons, same] at moved
      exact moved
    · intro place atSource atTarget
      rw [State.keys, State.keys, others place atSource atTarget]
  sound place other member := by
    rw [accepted]
    by_cases atSource : place = source
    · subst atSource
      exact kept.sound place other (lost.mem_iff.mpr (List.mem_cons_of_mem _ member))
    by_cases atTarget : place = target
    · subst atTarget
      rcases List.mem_cons.mp (gained.mem_iff.mp member) with rfl | already
      · exact sound
      · exact kept.sound place other already
    · exact kept.sound place other (others place atSource atTarget ▸ member)

private theorem Kept.handed {before after : State n} (kept : Kept before) (packet : Packet)
    (source target : Place n) (apart : source ≠ target)
    (lost : (before.contents source).Perm (packet :: after.contents source))
    (gained : (after.contents target).Perm (packet :: before.contents target))
    (others : ∀ place, place ≠ source → place ≠ target →
      after.contents place = before.contents place)
    (accepted : after.accepted = before.accepted) : Kept after := by
  have member : packet ∈ before.contents source := lost.mem_iff.mpr (List.mem_cons_self ..)
  exact kept.transfer source target apart packet packet rfl (kept.sound _ _ member) lost gained
    others accepted

omit [ByteBufferApi] in
private theorem move_contents (before : State n) (i : Fin n) (place : UploaderAt)
    (same : place.held = (before.uploader i).held) (where_ : Place n) :
    (before.move i place).contents where_ = before.contents where_ := by
  cases where_ with
  | uploader j =>
    by_cases here : j = i
    · subst here
      simp [State.contents, same]
    · simp [State.contents, here]
  | realtime | reissue | service | written => rfl

private theorem kept_service {before after : State n} (kept : Kept before)
    (moved : ServiceMove before woken after) : Kept after := by
  cases moved with
  | found standing | missed standing | offline standing | drained standing | draining standing =>
    refine kept.unmoved (fun place => ?_) rfl
    cases place <;> simp [State.contents, standing, ServiceAt.drained, ServiceAt.fresh]
  | drainSleeps | drainFull | reissueFull | realtimeFull =>
    refine kept.unmoved (fun place => ?_) rfl
    cases place <;> rfl
  | @drainTook packet realtime data standing taken =>
    refine kept.handed data .realtime .service (by simp) ?_ ?_ ?_ rfl
    · simp [State.contents, taken.queue]
    · simp [State.contents, standing, ServiceAt.drained, ServiceAt.fresh]
    · intro place atSource atTarget
      cases place with
      | realtime => exact absurd rfl atSource
      | service => exact absurd rfl atTarget
      | reissue | uploader | written => rfl
  | @drainStored packet data reissue standing stored =>
    refine kept.handed data .service .reissue (by simp) ?_ ?_ ?_ rfl
    · simp [State.contents, standing, ServiceAt.drained, ServiceAt.fresh]
    · simp [State.contents, stored.queue]
    · intro place atSource atTarget
      cases place with
      | service => exact absurd rfl atSource
      | reissue => exact absurd rfl atTarget
      | realtime | uploader | written => rfl
  | @reissueStored packet reissue standing stored =>
    refine kept.handed packet .service .reissue (by simp) ?_ ?_ ?_ rfl
    · simp [State.contents, standing, ServiceAt.drained, ServiceAt.fresh]
    · simp [State.contents, stored.queue]
    · intro place atSource atTarget
      cases place with
      | service => exact absurd rfl atSource
      | reissue => exact absurd rfl atTarget
      | realtime | uploader | written => rfl
  | @realtimeStored packet realtime standing stored =>
    refine kept.handed packet .service .realtime (by simp) ?_ ?_ ?_ rfl
    · simp [State.contents, standing, ServiceAt.drained, ServiceAt.fresh]
    · simp [State.contents, stored.queue]
    · intro place atSource atTarget
      cases place with
      | service => exact absurd rfl atSource
      | realtime => exact absurd rfl atTarget
      | reissue | uploader | written => rfl

private theorem kept_outside {before after : State n} (kept : Kept before)
    (standing : before.uploader i = .outside place) (moved : OutsideMove before i place after) :
    Kept after := by
  have nothing : (before.uploader i).held = [] := by rw [standing]; rfl
  cases moved with
  | walks next => exact kept.unmoved (move_contents before i _ nothing.symm) rfl
  | enters ready => exact kept.unmoved (move_contents before i _ nothing.symm) rfl
  | connects calling down =>
    refine kept.unmoved (fun place => ?_) rfl
    cases place <;> rfl
  | closes next =>
    have dropped : Kept (before.connection i false) := ⟨kept.owned, kept.sound⟩
    have empty : (.outside next : UploaderAt).held = ((before.connection i false).uploader i).held :=
      nothing.symm
    exact dropped.unmoved (move_contents _ i _ empty) rfl
  | online waited =>
    have empty : (.outside .check : UploaderAt).held = (before.uploader i).held := nothing.symm
    have checked : Kept (before.move i (.outside .check)) :=
      kept.unmoved (move_contents before i _ empty) rfl
    exact ⟨checked.owned, checked.sound⟩

omit [ByteBufferApi] in
private theorem move_elsewhere (before : State n) (i : Fin n) (place : UploaderAt)
    {where_ : Place n} (apart : where_ ≠ .uploader i) :
    (before.move i place).contents where_ = before.contents where_ := by
  cases where_ with
  | uploader j =>
    have other : j ≠ i := fun same => apart (same ▸ rfl)
    simp [State.contents, other]
  | realtime | reissue | service | written => rfl

private theorem Kept.remaining [LawfulByteBuffer] {before : State n} (kept : Kept before)
    (member : packet ∈ before.contents place) : 0 < ByteBufferApi.remaining packet.buf := by
  obtain ⟨start, long, _, _⟩ := (kept.sound place packet member).forwardable
  rw [LawfulByteBuffer.remaining_eq]
  omega

private theorem kept_upload [LawfulByteBuffer] {before after : State n} (kept : Kept before)
    (moved : UploadMove before i woken after) : Kept after := by
  cases moved with
  | toRealtime standing nothing =>
    exact kept.unmoved (move_contents before i _ (by rw [standing]; rfl)) rfl
  | toReissue standing more =>
    exact kept.unmoved (move_contents before i _ (by rw [standing]; rfl)) rfl
  | goesOn standing more =>
    exact kept.unmoved (move_contents before i _ (by rw [standing]; rfl)) rfl
  | realtimeSleeps | reissueSleeps | putBackFull =>
    refine kept.unmoved (fun place => ?_) rfl
    cases place <;> rfl
  | @realtimeTook realtime data standing taken =>
    refine kept.handed data .realtime (.uploader i) (by simp) ?_ ?_ ?_ rfl
    · simp [State.contents, taken.queue]
    · simp [State.contents, standing, UploaderAt.held]
    · intro place atSource atTarget
      exact Eq.trans (by cases place <;> first | rfl | exact absurd rfl atSource)
        (move_elsewhere before i (.loaded data) atTarget)
  | @reissueTook reissue data buf standing taken marked =>
    have member : data ∈ before.contents .reissue := by simp [State.contents, taken.queue]
    refine kept.transfer .reissue (.uploader i) (by simp) data { data with buf } rfl
      ((kept.sound _ _ member).marked marked) ?_ ?_ ?_ rfl
    · simp [State.contents, taken.queue]
    · simp [State.contents, standing, UploaderAt.held]
    · intro place atSource atTarget
      exact Eq.trans (by cases place <;> first | rfl | exact absurd rfl atSource)
        (move_elsewhere before i (.loaded { data with buf }) atTarget)
  | @reissueSpoilt reissue data exception standing taken refused =>
    have member : data ∈ before.contents .reissue := by simp [State.contents, taken.queue]
    obtain ⟨marked, succeeded, _⟩ := markReissue_forwardable (kept.sound _ _ member).forwardable
    rw [succeeded] at refused
    cases refused
  | @skips packet standing nothing =>
    have member : packet ∈ before.contents (.uploader i) := by
      simp [State.contents, standing, UploaderAt.held]
    have more := kept.remaining member
    omega
  | @illegal packet standing other =>
    have member : packet ∈ before.contents (.uploader i) := by
      simp [State.contents, standing, UploaderAt.held]
    exact absurd (kept.sound _ _ member).forwardable.legal other
  | @putBackStored packet reissue standing stored =>
    refine kept.handed packet (.uploader i) .reissue (by simp) ?_ ?_ ?_ rfl
    · simp [State.contents, standing, UploaderAt.held]
    · simp [State.contents, stored.queue]
    · intro place atSource atTarget
      exact Eq.trans (by cases place <;> first | rfl | exact absurd rfl atTarget)
        (move_elsewhere before i (.outside .top) atSource)

theorem returned_forwardable [LawfulByteBuffer] {session : TcpSession} (read : session.FrameRead)
    (returned : session.returned = some buf) : Forwardable buf := by
  unfold TcpSession.returned at returned
  split at returned
  · rename_i parsed accepted
    exact parseDataUnit_forwardable read accepted returned
  · cases returned

private theorem kept_accept [LawfulByteBuffer] {before : State n} (kept : Kept before)
    (free : before.service = .idle) (forwardable : Forwardable buf) :
    Kept { before with
      service := .checking 0 ⟨before.accepted.length, buf⟩
      accepted := before.accepted ++ [buf] } where
  owned := by
    change Owned _ (before.accepted ++ [buf]).length
    rw [List.length_append]
    refine kept.owned.issue .service ?_ fun place elsewhere => ?_
    · simp [State.keys, State.contents, free, ServiceAt.drained, ServiceAt.fresh]
    · cases place with
      | service => exact absurd rfl elsewhere
      | realtime | reissue | uploader | written => exact List.Perm.refl _
  sound place packet member := by
    have earlier (already : packet ∈ before.contents place) :=
      (kept.sound place packet already).append buf
    cases place with
    | service =>
      have new : packet = ⟨before.accepted.length, buf⟩ := by
        simpa [State.contents, ServiceAt.drained, ServiceAt.fresh] using member
      subst new
      exact ⟨buf, List.getElem?_concat_length, forwardable, .inl rfl⟩
    | realtime | reissue | uploader | written => exact earlier member

/-- Every step keeps every packet, as long as a failing write leaves its position. -/
theorem kept_step [LawfulByteBuffer] {before after : State n} (kept : Kept before)
    (whole : FailsWhole before action) (moved : Move before action after) : Kept after := by
  cases moved with
  | @start i fresh =>
    exact kept.unmoved (move_contents before i _ (by rw [fresh]; rfl)) rfl
  | push | signal | drop => exact ⟨kept.owned, kept.sound⟩
  | wakeRealtime woken | wakeReissue woken =>
    refine kept.unmoved (fun place => ?_) rfl
    cases place <;> first | rfl | exact (BlockQueue.wake_cases woken).1
  | accept free serving read returned =>
    exact kept_accept kept free (returned_forwardable read returned)
  | service moved => exact kept_service kept moved
  | outside standing moved => exact kept_outside kept standing moved
  | upload moved => exact kept_upload kept moved
  | @sent i packet standing legal =>
    refine kept.handed packet (.uploader i) .written (by simp) ?_ ?_ ?_ rfl
    · simp [State.contents, standing, UploaderAt.held]
    · simp [State.contents]
    · intro place atSource atTarget
      exact Eq.trans (by cases place <;> first | rfl | exact absurd rfl atTarget)
        (move_elsewhere before i (.outside .top) atSource)
  | @failed i packet progress standing legal room =>
    have none : progress = 0 := whole
    subst none
    have same : packet.buf.advance 0 room = packet.buf := rfl
    exact kept.unmoved (move_contents before i _ (by rw [standing, same]; rfl)) rfl

/-- Both queues have the capacity they were made with. -/
def Sized (capacity : Nat) (state : State n) : Prop :=
  state.realtime.capacity = capacity ∧ state.reissue.capacity = capacity

theorem sized_step {capacity : Nat} {before after : State n} (sized : Sized capacity before)
    (moved : Move before action after) : Sized capacity after := by
  cases moved with
  | start | push | signal | accept | sent | failed | drop => exact sized
  | service moved =>
    cases moved with
    | found | missed | offline | drained | draining | drainSleeps | drainFull | reissueFull
    | realtimeFull => exact sized
    | drainTook standing taken => exact ⟨taken.capacity.trans sized.1, sized.2⟩
    | drainStored standing stored => exact ⟨sized.1, stored.capacity.trans sized.2⟩
    | reissueStored standing stored => exact ⟨sized.1, stored.capacity.trans sized.2⟩
    | realtimeStored standing stored => exact ⟨stored.capacity.trans sized.1, sized.2⟩
  | outside standing moved => cases moved <;> exact sized
  | upload moved =>
    cases moved with
    | toRealtime | toReissue | realtimeSleeps | reissueSleeps | goesOn | skips | illegal
    | putBackFull => exact sized
    | realtimeTook standing taken => exact ⟨taken.capacity.trans sized.1, sized.2⟩
    | reissueTook standing taken marked => exact ⟨sized.1, taken.capacity.trans sized.2⟩
    | reissueSpoilt standing taken refused => exact ⟨sized.1, taken.capacity.trans sized.2⟩
    | putBackStored standing stored => exact ⟨sized.1, stored.capacity.trans sized.2⟩
  | wakeRealtime woken => exact ⟨(BlockQueue.wake_cases woken).2.1.trans sized.1, sized.2⟩
  | wakeReissue woken => exact ⟨sized.1, (BlockQueue.wake_cases woken).2.1.trans sized.2⟩

variable {capacity : Nat} {state : State n}

theorem sized_of_reach {guard : State n → Action n → Prop}
    (reach : Reach (forwarder n capacity) guard state) : Sized capacity state := by
  apply reach.invariant
  · rintro state ⟨mode, rfl⟩
    exact ⟨rfl, rfl⟩
  · intro before action after sized _ stepped
    exact sized_step sized (State.step_cases stepped)

theorem kept_of_reach [LawfulByteBuffer] (reach : Reach (forwarder n capacity) FailsWhole state) :
    Kept state := by
  apply reach.invariant
  · rintro state ⟨mode, rfl⟩
    refine ⟨Owned.empty fun place => ?_, fun place packet member => ?_⟩
    · cases place <;> rfl
    · cases place <;> cases member
  · intro before action after kept whole stepped
    exact kept_step kept whole (State.step_cases stepped)

/-- Every accepted packet is in exactly one place, once, as it was accepted or
marked as a reissue; the queues stay within `MaxVehicleDataQueueSize`; and no
packet is found empty or with a command that cannot be sent. -/
theorem accepted_packets_kept [LawfulByteBuffer]
    (reach : Reach (forwarder n capacity) FailsWhole state) :
    (∀ seq < state.accepted.length, ∃ place, (∃ packet ∈ state.contents place, packet.seq = seq) ∧
      ∀ other, (∃ packet ∈ state.contents other, packet.seq = seq) → other = place) ∧
    (∀ place, ((state.contents place).map Packet.seq).Nodup) ∧
    (∀ place, ∀ packet ∈ state.contents place, ∃ original,
      state.accepted[packet.seq]? = some original ∧
        (packet.buf = original ∨ markReissue original = .ok packet.buf)) ∧
    state.realtime.queue.length ≤ capacity ∧ state.reissue.queue.length ≤ capacity ∧
    (∀ i packet, state.uploader i = .loaded packet → 0 < ByteBufferApi.remaining packet.buf) ∧
    ∀ i packet, state.uploader i = .sending packet →
      DataPacketHeader.cmdId packet.buf.array ∈ legalCmds := by
  have kept := kept_of_reach reach
  have sized := sized_of_reach reach
  have holds (seq : Nat) (place : Place n) :
      (∃ packet ∈ state.contents place, packet.seq = seq) ↔ seq ∈ state.keys place :=
    List.mem_map.symm
  refine ⟨fun seq below => ?_, kept.owned.nodup, fun place packet member => ?_, ?_, ?_, ?_, ?_⟩
  · simp only [holds]
    exact kept.owned.exists_unique seq below
  · obtain ⟨original, found, _, same⟩ := kept.sound place packet member
    exact ⟨original, found, same⟩
  · exact sized.1 ▸ state.realtime.bounded
  · exact sized.2 ▸ state.reissue.bounded
  · intro i packet standing
    have member : packet ∈ state.contents (.uploader i) := by
      simp [State.contents, standing, UploaderAt.held]
    exact kept.remaining member
  · intro i packet standing
    have member : packet ∈ state.contents (.uploader i) := by
      simp [State.contents, standing, UploaderAt.held]
    exact (kept.sound _ _ member).forwardable.legal

end Ownership

/-- A vehicle's login whose first send fails is still there, in the reissue queue. -/
theorem accepted_packets_kept_failed :
    ∃ state : State 1, (state.accepted.length = 1 ∧ state.written = []) ∧
      ∃ place, ∃ packet ∈ state.contents place, packet.seq = 0 := by
  let := ByteBuffer.reference
  have := ByteBuffer.reference_lawful
  have initial : Reach (forwarder 1 1) FailsWhole (State.initial 1 1 (some .release)) :=
    .start ⟨_, rfl⟩
  obtain ⟨state, reach, both⟩ := initial.exists_of_schedule
    (fun state => state.accepted.length = 1 ∧ state.written = [])
    (loggedIn ++ [.accept (sampleRead .vehicleLogin), .service none, .service (some (.uploader 0)),
      .upload 0 none, .upload 0 none, .drop 0, .failed 0 0, .upload 0 none]) (by decide +kernel)
  obtain ⟨place, found, _⟩ := (accepted_packets_kept reach).1 0 (by rw [both.1]; decide)
  exact ⟨state, both, place, found⟩

end MotorInfoUpload
