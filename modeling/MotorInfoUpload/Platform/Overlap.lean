import MotorInfoUpload.Platform.AsyncWrite
import MotorInfoUpload.Session.Moves

namespace MotorInfoUpload

open Machine

variable {Id Reader : Type} [DecidableEq Id]

def Wire.outstanding (wire : Wire Id Reader) (id : Id) : List (Write Id Reader) :=
  wire.pending.filter fun write => write.target = id

section Guard

variable [ByteBufferApi]

/-- The session that a step starts a write to: the one a response is forwarded to, or
the one whose heartbeat is answered. -/
def Wire.writesTo (wire : Wire Id Reader) : WireEvent Id Reader → Option Id
  | .reader reader .answer => wire.forwardee reader
  | .service (.handle id) =>
    if ∃ session ∈ (wire.server.sessions id).bind Server.whole, RepliesTo session then some id
    else none
  | _ => none

/-- A step starts a write to a session whose previous write has not completed. -/
def Overlaps (wire : Wire Id Reader) (event : WireEvent Id Reader) : Prop :=
  ∃ id ∈ wire.writesTo event, wire.outstanding id ≠ []

instance [DecidableEq Reader] (wire : Wire Id Reader) (event : WireEvent Id Reader) :
    Decidable (Overlaps wire event) := inferInstanceAs (Decidable (∃ _ ∈ _, _))

end Guard

section Steps

variable [ByteBufferApi] {settings : Settings} {wire : Wire Id Reader}

omit [DecidableEq Id] in
private theorem replied_repliesTo {id : Id} {handled : Handled Id} {buffer : ByteBuffer}
    (replied : wire.replied id = some handled) (written : handled.written = some buffer) :
    ∃ session ∈ (wire.server.sessions id).bind Server.whole, RepliesTo session := by
  obtain ⟨connection, bytes, session, found, arrived, framed, handler⟩ :=
    Server.handled_iff.mp ((wire.replied_eq id).symm.trans replied)
  obtain ⟨whole, limited, command, _⟩ := readDataUnitHandler_written handler written
  have taken := Server.whole_iff.mpr ⟨bytes, session, arrived, framed, limited⟩
  exact ⟨whole, Option.bind_eq_some_iff.mpr ⟨connection, found, taken⟩, command⟩

variable [LawfulByteBuffer]

omit [DecidableEq Id] in
private theorem repliesTo_replied {id : Id} {session : TcpSession}
    (sound : wire.server.Sound settings)
    (whole : (wire.server.sessions id).bind Server.whole = some session)
    (answers : RepliesTo session) :
    ∃ handled buffer, wire.replied id = some handled ∧ handled.written = some buffer := by
  obtain ⟨connection, found, takes⟩ := Option.bind_eq_some_iff.mp whole
  obtain ⟨bytes, takes⟩ := sound.takesWhole found takes
  obtain ⟨reply, parse, _⟩ :=
    parseDataUnit_heartBeat id wire.server.table takes.read answers.command answers.bare.2
  exact ⟨_, reply, (wire.replied_eq id).trans (takes.handled_eq parse),
    (TcpSession.afterParse_output session _ _).2⟩

private theorem pending_started {after : Wire Id Reader} {event : WireEvent Id Reader} {id : Id}
    [DecidableEq Reader] (sound : wire.server.Sound settings)
    (moved : Wire.Move settings wire event after) (writes : wire.writesTo event = some id) :
    ∃ write : Write Id Reader, write.target = id ∧ after.pending = wire.pending ++ [write] := by
  cases moved with
  | @service event server spontaneous moved =>
    cases event with
    | handle other =>
      unfold Wire.writesTo at writes
      dsimp only at writes
      split at writes <;> cases writes
      rename_i found
      obtain ⟨session, whole, answers⟩ := found
      obtain ⟨handled, buffer, replied, written⟩ := repliesTo_replied sound whole answers
      refine ⟨⟨id, .packet id (wire.generation id), buffer.position, [], buffer.window,
        none⟩, rfl, ?_⟩
      rw [Wire.serve_pending, replied, Option.bind_some, written]
      rfl
    | accept | arrive | breaks | expire | timeout | respond | writeDone | writeFailed => cases writes
  | @read event reader after other moved =>
    unfold Wire.writesTo at writes
    split at writes
    · rename_i same
      cases same
      exact absurd rfl other
    · rename_i same
      cases same
    · cases writes
  | answered standing moved nobody => cases nobody.symm.trans writes
  | forwarded standing moved found responds =>
    cases found.symm.trans writes
    exact ⟨_, rfl, rfl⟩
  | timeout | transmitted | completed | failed => cases writes

omit [LawfulByteBuffer] in
private theorem targets_kept {after : Wire Id Reader} {event : WireEvent Id Reader}
    [DecidableEq Reader] (moved : Wire.Move settings wire event after)
    (silent : wire.writesTo event = none) :
    (after.pending.map Write.target).Sublist (wire.pending.map Write.target) := by
  cases moved with
  | @service event server spontaneous moved =>
    cases event with
    | handle id =>
      unfold Wire.writesTo at silent
      dsimp only at silent
      split at silent
      · cases silent
      · rename_i unanswered
        rw [Wire.serve_pending]
        cases replied : wire.replied id with
        | none => simp
        | some handled =>
          cases written : handled.written with
          | none => simp [written]
          | some buffer => exact absurd (replied_repliesTo replied written) unanswered
    | accept | arrive | breaks | expire | timeout | respond | writeDone | writeFailed =>
      exact .refl _
  | read | answered | timeout => exact .refl _
  | forwarded standing moved found responds => cases found.symm.trans silent
  | @transmitted k write bytes found sends =>
    have same : (wire.pending.map Write.target)[k]? = some write.target := by
      rw [List.getElem?_map, found, Option.map_some]
    obtain ⟨inside, target⟩ := List.getElem?_eq_some_iff.mp same
    have kept : (wire.pending.set k { write with sent := write.sent ++ bytes }).map Write.target =
        wire.pending.map Write.target := by
      rw [List.map_set, ← target, List.set_getElem_self]
    exact kept ▸ .refl _
  | completed | failed => exact (List.eraseIdx_sublist ..).map _

omit [ByteBufferApi] [LawfulByteBuffer] in
private theorem outstanding_length (wire : Wire Id Reader) (id : Id) :
    (wire.outstanding id).length = (wire.pending.map Write.target).count id := by
  rw [Wire.outstanding, List.count, List.countP_map, List.countP_eq_length_filter]
  rfl

/-- What one step does to writes that do not overlap. -/
private theorem overlap_step {after : Wire Id Reader} {event : WireEvent Id Reader}
    [DecidableEq Reader] (sound : wire.server.Sound settings)
    (single : ∀ id, (wire.outstanding id).length ≤ 1)
    (moved : Wire.Move settings wire event after) :
    (∀ id, (after.outstanding id).length ≤ 1) ↔ ¬ Overlaps wire event := by
  cases writes : wire.writesTo event with
  | none =>
    refine iff_of_true (fun id => ?_) fun overlaps => ?_
    · rw [outstanding_length]
      exact Nat.le_trans ((targets_kept moved writes).count_le id)
        (outstanding_length wire id ▸ single id)
    · obtain ⟨id, target, _⟩ := overlaps
      cases writes.symm.trans target
  | some target =>
    obtain ⟨write, aimed, pending⟩ := pending_started sound moved writes
    have added (id : Id) : after.outstanding id =
        wire.outstanding id ++ if target = id then [write] else [] := by
      rw [Wire.outstanding, pending, List.filter_append, Wire.outstanding]
      by_cases here : target = id <;> simp [here, aimed]
    constructor
    · rintro still ⟨id, same, busy⟩
      cases writes.symm.trans same
      have more := List.length_pos_iff.mpr busy
      have both := still target
      rw [added, if_pos rfl, List.length_append, List.length_singleton] at both
      omega
    · intro allowed id
      rw [added]
      by_cases here : target = id
      · have idle : wire.outstanding id = [] := by
          by_contra busy
          exact allowed ⟨id, here ▸ writes, busy⟩
        rw [idle, if_pos here]
        exact Nat.le_refl 1
      · rw [if_neg here, List.append_nil]
        exact single id

/-- As long as nothing is written to a vehicle whose previous write has not completed,
no two writes to one vehicle are outstanding. The first step that does so breaks this. -/
theorem writes_never_overlap [DecidableEq Reader]
    (reach : Reach (asyncWrites Id Reader settings) (fun wire event => ¬ Overlaps wire event) wire) :
    (∀ id, (wire.outstanding id).length ≤ 1) ∧
      ∀ event after, wire.step settings event = some after →
        ((∀ id, (after.outstanding id).length ≤ 1) ↔ ¬ Overlaps wire event) := by
  have sound {wire : Wire Id Reader} (reach : Reach (asyncWrites Id Reader settings)
      (fun wire event => ¬ Overlaps wire event) wire) : wire.server.Sound settings :=
    Server.sound_of_reach (asyncWrites_server reach)
  have single : ∀ id, (wire.outstanding id).length ≤ 1 := by
    induction reach with
    | start initial =>
      rw [initial]
      exact fun id => Nat.zero_le 1
    | next earlier allowed stepped ih =>
      exact (overlap_step (sound earlier) ih (Wire.step_cases stepped)).mpr allowed
  exact ⟨single, fun event after stepped =>
    overlap_step (sound reach) single (Wire.step_cases stepped)⟩

end Steps

theorem writes_never_overlap_login : ∃ wire : Wire Nat Unit,
    wire.outstanding 0 ≠ [] ∧ (wire.outstanding 0).length ≤ 1 := by
  let := ByteBuffer.reference
  have := ByteBuffer.reference_lawful
  have initial : Reach (asyncWrites Nat Unit ⟨some .release, []⟩)
      (fun wire event => ¬ Overlaps wire event) (.initial Nat Unit) := .start rfl
  obtain ⟨wire, reach, busy⟩ := initial.exists_of_schedule (fun wire => wire.outstanding 0 ≠ [])
    loginForwarded (by decide +kernel)
  exact ⟨wire, busy, (writes_never_overlap reach).1 0⟩

/-- The response to a second login of the vehicle is forwarded while the first one is
still being written. -/
theorem responses_overlap : ∃ wire : Wire Nat Unit,
    Reachable (@asyncWrites Nat Unit _ _ ByteBuffer.reference ⟨some .release, []⟩) wire ∧
    ¬ (wire.outstanding 0).length ≤ 1 := by
  let := ByteBuffer.reference
  have initial : Reachable (asyncWrites Nat Unit ⟨some .release, []⟩) (.initial Nat Unit) :=
    .start rfl
  exact initial.exists_of_schedule (fun wire => ¬ (wire.outstanding 0).length ≤ 1)
    (loginForwarded ++ (readsFrame (sampleResponse .vehicleLogin 65)).map (.reader ()) ++
      [.reader () .answer]) (by decide +kernel)

end MotorInfoUpload
