import MotorInfoUpload.Forwarder.Ownership
import Mathlib.Data.List.FinRange

namespace MotorInfoUpload

open Machine

variable {n : Nat}

def Place.all (n : Nat) : List (Place n) :=
  [.written, .realtime, .reissue, .service] ++ (List.finRange n).map .uploader

theorem Place.mem_all (place : Place n) : place ∈ Place.all n := by
  cases place <;> simp [Place.all]

theorem Place.all_nodup : (Place.all n).Nodup := by
  refine List.nodup_append.mpr ⟨by simp, (List.nodup_finRange n).map fun i j same => ?_, ?_⟩
  · cases same
    rfl
  · rintro place first other member rfl
    obtain ⟨i, -, rfl⟩ := List.mem_map.mp member
    simp at first

theorem ServiceAt.inHand_le (service : ServiceAt) : (service.drained ++ service.fresh).length ≤ 2 := by
  cases service <;> simp [ServiceAt.drained, ServiceAt.fresh]

theorem UploaderAt.held_le (uploader : UploaderAt) : uploader.held.length ≤ 1 := by
  cases uploader <;> simp [UploaderAt.held]

def State.uploading (state : State n) : List Packet :=
  (List.finRange n).flatMap fun i => (state.uploader i).held

theorem State.uploading_le (state : State n) : state.uploading.length ≤ n := by
  have each (uploaders : List (Fin n)) :
      (uploaders.flatMap fun i => (state.uploader i).held).length ≤ uploaders.length := by
    induction uploaders with
    | nil => exact Nat.le_refl 0
    | cons i rest ih =>
      have one := (state.uploader i).held_le
      rw [List.flatMap_cons, List.length_append, List.length_cons]
      omega
  have all := each (List.finRange n)
  rwa [List.length_finRange] at all

theorem conserved_of_reach [ByteBufferApi] [LawfulByteBuffer] {capacity : Nat} {state : State n}
    (reach : Reach (forwarder n capacity) FailsWhole state) :
    ((state.written ++ state.realtime.queue ++ state.reissue.queue ++
        (state.service.drained ++ state.service.fresh) ++ state.uploading).map Packet.seq).Perm
      (List.range state.accepted.length) := by
  have whole := (kept_of_reach reach).owned.perm (Place.all n) Place.all_nodup Place.mem_all
  have same : (Place.all n).flatMap state.keys =
      (state.written ++ state.realtime.queue ++ state.reissue.queue ++
        (state.service.drained ++ state.service.fresh) ++ state.uploading).map Packet.seq := by
    simp [Place.all, State.keys, State.contents, State.uploading, List.flatMap_map, List.map_flatMap]
  rwa [same] at whole

theorem accepted_le [ByteBufferApi] [LawfulByteBuffer] {capacity : Nat} {state : State n}
    (reach : Reach (forwarder n capacity) FailsWhole state) :
    state.accepted.length ≤ state.written.length + 2 * capacity + n +
      (state.service.drained ++ state.service.fresh).length := by
  have size := (conserved_of_reach reach).length_eq
  simp only [List.length_map, List.length_append, List.length_range] at size
  obtain ⟨realtime, reissue⟩ := sized_of_reach reach
  have first := state.realtime.bounded
  have second := state.reissue.bounded
  have hands := state.uploading_le
  rw [List.length_append]
  omega

/-- As long as every failed write has sent nothing, the packets written, queued and in the
hands of a thread are the packets accepted, each once; so that no more than two full
queues, a packet for each uploader and two for the service thread are behind. -/
theorem backlog [ByteBufferApi] [LawfulByteBuffer] {capacity : Nat} {state : State n}
    (reach : Reach (forwarder n capacity) FailsWhole state) :
    ((state.written ++ state.realtime.queue ++ state.reissue.queue ++
        (state.service.drained ++ state.service.fresh) ++ state.uploading).map Packet.seq).Perm
      (List.range state.accepted.length) ∧
    state.accepted.length ≤ state.written.length + 2 * capacity + n + 2 := by
  refine ⟨conserved_of_reach reach, ?_⟩
  have under := accepted_le reach
  have service := state.service.inHand_le
  omega

/-- The only packet is in the hands of the service thread. -/
theorem backlog_one : ∃ state : State 1, state.accepted.length = 1 ∧ state.written = [] ∧
    ((state.written ++ state.realtime.queue ++ state.reissue.queue ++
      (state.service.drained ++ state.service.fresh) ++ state.uploading).map Packet.seq).Perm
      (List.range state.accepted.length) := by
  let := ByteBuffer.reference
  have := ByteBuffer.reference_lawful
  have initial : Reach (forwarder 1 1) FailsWhole (State.initial 1 1 (some .release)) := .start ⟨_, rfl⟩
  obtain ⟨state, reach, accepted, written⟩ := initial.exists_of_schedule
    (fun state => state.accepted.length = 1 ∧ state.written = [])
    (loggedIn ++ [.accept (sampleRead .vehicleLogin)]) (by decide +kernel)
  exact ⟨state, accepted, written, (backlog reach).1⟩

end MotorInfoUpload
