import MotorInfoUpload.Machine.History
import MotorInfoUpload.Forwarder.Origin
import MotorInfoUpload.Session.Stream

namespace MotorInfoUpload

open Machine

variable {n : Nat}

/-- Whether the packet in the hand of each uploader was taken from the reissue queue. A
packet that has been in that queue leaves it in no other way. -/
def takenFrom (taken : Fin n → Bool) (before after : State n) (i : Fin n) : Bool :=
  match before.uploader i, after.uploader i with
  | .takeReissue, .loaded _ => true
  | .takeRealtime, .loaded _ => false
  | _, _ => taken i

section Hands

variable [ByteBufferApi]

def takingForwarder (n capacity : Nat) : Automaton (Recorded (State n) (Fin n → Bool)) (Action n) :=
  (forwarder n capacity).recording (fun _ => false) fun taken before _ after =>
    takenFrom taken before after

inductive HandMove (before : State n) (i : Fin n) : UploaderAt → Prop where
  | stays : HandMove before i (before.uploader i)
  | empty (nothing : place.held = []) : HandMove before i place
  | goesOn (standing : before.uploader i = .loaded packet) : HandMove before i (.sending packet)
  | tookRealtime (standing : before.uploader i = .takeRealtime) : HandMove before i (.loaded data)
  | tookReissue (standing : before.uploader i = .takeReissue)
      (member : data ∈ before.contents .reissue) (marked : markReissue data.buf = .ok buf) :
      HandMove before i (.loaded { data with buf })
  | failed (standing : before.uploader i = .sending packet)
      (room : packet.buf.position + progress ≤ packet.buf.limit) :
      HandMove before i (.putBack { packet with buf := packet.buf.advance progress room })

variable {before after : State n} {action : Action n}

private theorem hand_move {i j : Fin n} {place : UploaderAt}
    (own : j = i → HandMove before j place) : HandMove before j ((before.move i place).uploader j) := by
  by_cases here : j = i
  · subst here
    rw [State.move_uploader]
    exact own rfl
  · rw [State.move_other _ _ here]
    exact .stays

theorem Move.hand (moved : Move before action after) (j : Fin n) :
    HandMove before j (after.uploader j) := by
  cases moved with
  | start => exact hand_move fun _ => .empty rfl
  | push | signal | accept | drop | wakeRealtime | wakeReissue => exact .stays
  | service moved => cases moved <;> exact .stays
  | outside standing moved =>
    cases moved with
    | walks | enters | closes | online => exact hand_move fun _ => .empty rfl
    | connects => exact .stays
  | upload moved =>
    cases moved with
    | toRealtime | toReissue | reissueSpoilt | skips | illegal | putBackStored =>
      exact hand_move fun _ => .empty rfl
    | realtimeSleeps | reissueSleeps | putBackFull => exact .stays
    | realtimeTook standing taken => exact hand_move fun same => .tookRealtime (same ▸ standing)
    | reissueTook standing taken marked =>
      exact hand_move fun same => .tookReissue (same ▸ standing)
        (by simp [State.contents, taken.queue]) marked
    | goesOn standing more => exact hand_move fun same => .goesOn (same ▸ standing)
  | sent => exact hand_move fun _ => .empty rfl
  | failed standing legal room => exact hand_move fun same => .failed (same ▸ standing) room

/-- `original` is the packet of the frame of a session, and the bytes of `packet` are
its own, or those of its reissue. -/
structure MadeOf (accepted : List ByteBuffer) (packet : Packet) (session : TcpSession)
    (original : ByteBuffer) : Prop where
  read : session.FrameRead
  returned : session.returned = some original
  found : accepted[packet.seq]? = some original
  kept : packet.buf.position = 0 → packet.buf = original ∨ markReissue original = .ok packet.buf

def Traced (accepted : List ByteBuffer) (packet : Packet) : Prop :=
  ∃ session original, MadeOf accepted packet session original

def Reissued (accepted : List ByteBuffer) (packet : Packet) : Prop :=
  ∃ session original, MadeOf accepted packet session original ∧
    (packet.buf.position = 0 → markReissue original = .ok packet.buf)

variable {accepted : List ByteBuffer} {packet : Packet} {session : TcpSession} {original : ByteBuffer}

theorem MadeOf.append (made : MadeOf accepted packet session original) (more : List ByteBuffer) :
    MadeOf (accepted ++ more) packet session original where
  read := made.read
  returned := made.returned
  found := by
    obtain ⟨below, _⟩ := List.getElem?_eq_some_iff.mp made.found
    rw [List.getElem?_append_left below, made.found]
  kept := made.kept

theorem MadeOf.advanced {progress : Nat} (made : MadeOf accepted packet session original)
    (room : packet.buf.position + progress ≤ packet.buf.limit) :
    MadeOf accepted { packet with buf := packet.buf.advance progress room } session original where
  read := made.read
  returned := made.returned
  found := made.found
  kept start := by
    have nothing : packet.buf.position + progress = 0 := start
    have none : progress = 0 := by omega
    subst none
    exact made.kept (by omega)

theorem markReissue_position {buf marked : ByteBuffer} (succeeded : markReissue buf = .ok marked) :
    marked.position = buf.position := by
  unfold markReissue at succeeded
  split at succeeded
  · dsimp only at succeeded
    split at succeeded <;> cases succeeded
    rfl
  · cases succeeded
    rfl

variable [LawfulByteBuffer]

theorem MadeOf.marked {buf : ByteBuffer} (made : MadeOf accepted packet session original)
    (succeeded : markReissue packet.buf = .ok buf) :
    MadeOf accepted { packet with buf } session original ∧
      (buf.position = 0 → markReissue original = .ok buf) := by
  have marks (start : buf.position = 0) : markReissue original = .ok buf := by
    obtain ⟨marked, once, _, again⟩ :=
      markReissue_forwardable (returned_forwardable made.read made.returned)
    rcases made.kept ((markReissue_position succeeded).symm.trans start) with same | earlier
    · exact same ▸ succeeded
    · cases Except.ok.inj (once.symm.trans earlier)
      exact Except.ok.inj (again.symm.trans succeeded) ▸ once
  exact ⟨⟨made.read, made.returned, made.found, fun start => .inr (marks start)⟩, marks⟩

/-- Every packet is made of a frame, and marked if it was taken from the reissue queue. -/
structure Marks (state : State n) (taken : Fin n → Bool) : Prop where
  traced : ∀ place, ∀ packet ∈ state.contents place, Traced state.accepted packet
  reissued : ∀ i, taken i = true → ∀ packet ∈ (state.uploader i).held,
    Reissued state.accepted packet

private theorem traced_step (traced : ∀ place, ∀ packet ∈ before.contents place,
      Traced before.accepted packet) (moved : Move before action after) (place : Place n)
    (packet : Packet) (member : packet ∈ after.contents place) : Traced after.accepted packet := by
  rw [moved.accepted]
  cases moved.comes member with
  | stays already =>
    obtain ⟨session, original, made⟩ := traced _ _ already
    exact ⟨session, original, made.append _⟩
  | carried source other already =>
    obtain ⟨session, original, made⟩ := traced _ _ already
    exact ⟨session, original, made.append _⟩
  | marked already marked =>
    obtain ⟨session, original, made⟩ := traced _ _ already
    exact ⟨session, original, (made.marked marked).1.append _⟩
  | advanced failing already room =>
    obtain ⟨session, original, made⟩ := traced _ _ already
    exact ⟨session, original, (made.advanced room).append _⟩
  | @accepted session buf accepting read returned =>
    subst accepting
    refine ⟨session, buf, read, returned, ?_, fun _ => .inl rfl⟩
    rw [Action.accepts, returned]
    exact List.getElem?_concat_length

private theorem marks_step {taken : Fin n → Bool} (marks : Marks before taken)
    (moved : Move before action after) : Marks after (takenFrom taken before after) := by
  refine ⟨fun place packet => traced_step marks.traced moved place packet, fun i flag packet held => ?_⟩
  rw [moved.accepted]
  have hand := moved.hand i
  unfold takenFrom at flag
  generalize after.uploader i = place at hand flag held
  cases hand with
  | stays =>
    have own : taken i = true := by
      cases spot : before.uploader i <;> simpa [spot] using flag
    obtain ⟨session, original, made, marked⟩ := marks.reissued i own packet held
    exact ⟨session, original, made.append _, marked⟩
  | empty nothing =>
    rw [nothing] at held
    cases held
  | goesOn standing =>
    rw [standing] at flag
    obtain ⟨session, original, made, marked⟩ :=
      marks.reissued i flag packet (by rwa [standing])
    exact ⟨session, original, made.append _, marked⟩
  | tookRealtime standing =>
    rw [standing] at flag
    cases flag
  | tookReissue standing member marked =>
    obtain rfl := List.mem_singleton.mp held
    obtain ⟨session, original, made⟩ := marks.traced _ _ member
    obtain ⟨still, again⟩ := made.marked marked
    exact ⟨session, original, still.append _, again⟩
  | failed standing room =>
    rw [standing] at flag
    obtain rfl := List.mem_singleton.mp held
    obtain ⟨session, original, made, marked⟩ :=
      marks.reissued i flag _ (by rw [standing]; exact List.mem_singleton_self _)
    refine ⟨session, original, (made.advanced room).append _, fun start => ?_⟩
    have nothing : _ + _ = 0 := start
    obtain ⟨unsent, rfl⟩ := Nat.add_eq_zero_iff.mp nothing
    exact marked unsent

theorem marks_of_reach {capacity : Nat} {recorded : Recorded (State n) (Fin n → Bool)}
    (reach : Reachable (takingForwarder n capacity) recorded) :
    Marks recorded.state recorded.log := by
  induction reach with
  | start initially =>
    obtain ⟨⟨mode, initial⟩, nothing⟩ := initially
    rw [initial, nothing]
    refine ⟨fun place packet member => ?_, fun i flag => by cases flag⟩
    cases place <;> cases member
  | next _ _ stepped ih =>
    obtain ⟨after, moved, same⟩ := Option.map_eq_some_iff.mp stepped
    subst same
    exact marks_step ih (State.step_cases moved)

end Hands

section CheckCode

theorem xorBytes_cons (byte : UInt8) (bytes : List UInt8) :
    xorBytes (byte :: bytes) = byte ^^^ xorBytes bytes := by
  have start (checkCode : UInt8) : bytes.foldl (fun checkCode byte => checkCode ^^^ byte) checkCode =
      checkCode ^^^ xorBytes bytes := by
    unfold xorBytes
    induction bytes generalizing checkCode with
    | nil => simp
    | cons next rest ih =>
      rw [List.foldl_cons, List.foldl_cons, ih, ih (0 ^^^ next), UInt8.zero_xor, UInt8.xor_assoc]
  calc xorBytes (byte :: bytes)
      = bytes.foldl (fun checkCode byte => checkCode ^^^ byte) (0 ^^^ byte) := rfl
    _ = 0 ^^^ byte ^^^ xorBytes bytes := start (0 ^^^ byte)
    _ = byte ^^^ xorBytes bytes := by rw [UInt8.zero_xor]

/-- A check code over all bytes follows the rule, which leaves the start code out,
if and only if the two bytes of the start code are equal. -/
theorem checkCode_iff (first second : UInt8) (rest : List UInt8) :
    CheckCodeRight (first :: second :: rest ++ [xorBytes (first :: second :: rest)]) ↔
      first = second := by
  have rule : ((first :: second :: rest ++ [xorBytes (first :: second :: rest)]).drop 2).dropLast =
      rest := by
    change (rest ++ [_]).dropLast = rest
    exact List.dropLast_concat
  have cancels : first ^^^ second ^^^ xorBytes rest = xorBytes rest ↔ first ^^^ second = 0 := by
    have injective := @UInt8.xor_left_inj (first ^^^ second) 0 (xorBytes rest)
    rwa [UInt8.zero_xor] at injective
  rw [CheckCodeRight, rule, List.getLast?_concat, Option.some_inj, xorBytes_cons, xorBytes_cons,
    ← UInt8.xor_assoc, cancels, UInt8.xor_eq_zero_iff]

/-- The bytes of a frame whose command is overwritten with that of a reissue, and whose
last byte with the exclusive or of all bytes before it. -/
def remarked (frame : List UInt8) : List UInt8 :=
  let bytes := DataPacketHeader.setCmdId frame .reissueUpload
  bytes.set (frame.length - 1) (xorBytes bytes.dropLast)

/-- `bytes` are those of `frame` as a reissue, but for the check code. -/
structure ReissueOf (frame bytes : List UInt8) : Prop where
  command : DataPacketHeader.cmdId bytes = CmdCode.reissueUpload.value
  size : bytes.length = frame.length
  others : ∀ index, index ≠ 2 → index ≠ frame.length - 1 → bytes[index]? = frame[index]?

theorem remarked_reissueOf (frame : List UInt8) (long : 3 < frame.length) :
    ReissueOf frame (remarked frame) where
  command := by
    have apart : frame.length - 1 ≠ 2 := by omega
    have inside : 2 < frame.length := by omega
    simp [remarked, DataPacketHeader.cmdId, DataPacketHeader.setCmdId, List.getD_eq_getElem?_getD,
      apart, inside]
  size := by simp [remarked]
  others index other behind := by
    rw [remarked, List.getElem?_set_ne (Ne.symm behind), DataPacketHeader.setCmdId,
      List.getElem?_set_ne (Ne.symm other)]

theorem remarked_checkCode (frame : List UInt8) (long : 3 < frame.length) :
    CheckCodeRight (remarked frame) ↔ frame[0]? = frame[1]? := by
  obtain ⟨first, second, third, body, rfl⟩ :
      ∃ first second third body, frame = first :: second :: third :: body := by
    rcases frame with _ | ⟨first, _ | ⟨second, _ | ⟨third, body⟩⟩⟩
    · simp at long
    · simp at long
    · simp at long
    · exact ⟨first, second, third, body, rfl⟩
  obtain ⟨front, last, rfl⟩ := body.eq_nil_or_concat.resolve_left (by rintro rfl; simp at long)
  have bytes : remarked (first :: second :: third :: (front ++ [last])) =
      first :: second :: (CmdCode.reissueUpload.value :: front) ++
        [xorBytes (first :: second :: (CmdCode.reissueUpload.value :: front))] := by
    simp [remarked, DataPacketHeader.setCmdId, List.dropLast_cons_of_ne_nil, List.set_append_right]
  rw [List.concat_eq_append, bytes, checkCode_iff]
  exact Option.some_inj.symm

variable [ByteBufferApi] [LawfulByteBuffer]

theorem markReissue_window {buf marked : ByteBuffer} (forwardable : Forwardable buf)
    (realtime : DataPacketHeader.cmdId buf.array = CmdCode.realtimeUpload.value)
    (succeeded : markReissue buf = .ok marked) : marked.window = remarked buf.window := by
  obtain ⟨result, bcc, once, position, limit, array, code⟩ := markReissue_realtime forwardable realtime
  cases Except.ok.inj (once.symm.trans succeeded)
  have start := forwardable.start
  have bytes : DataPacketHeader.setCmdId buf.window .reissueUpload =
      (DataPacketHeader.setCmdId buf.array .reissueUpload).take buf.limit := by
    rw [ByteBuffer.window, start, List.drop_zero, DataPacketHeader.setCmdId, ← List.take_set]
    rfl
  have front : (DataPacketHeader.setCmdId buf.window .reissueUpload).dropLast =
      (DataPacketHeader.setCmdId buf.array .reissueUpload).take (buf.limit - 1) := by
    rw [List.dropLast_eq_take, DataPacketHeader.setCmdId_length, ByteBuffer.window_length, start,
      bytes, List.take_take, Nat.sub_zero, Nat.min_eq_left (Nat.sub_le _ _)]
  rw [ByteBuffer.window, position.trans start, List.drop_zero, limit, array, List.take_set, ← bytes,
    remarked, front, ← code, ByteBuffer.window_length, start, Nat.sub_zero]

omit [ByteBufferApi] [LawfulByteBuffer] in
theorem uploaded_start (header time : List UInt8) (blocks : List (List UInt8))
    (size : header.length = DataPacketHeader.size) (early : index < 22) :
    (uploaded header time blocks)[index]? = header[index]? := by
  have inside : index < header.length := by
    rw [size]
    unfold DataPacketHeader.size
    omega
  rw [uploaded, List.append_assoc, List.getElem?_append_left (by simpa using inside),
    DataPacketHeader.setDataUnitLength, List.getElem?_set_ne (by omega),
    List.getElem?_set_ne (by omega)]

private theorem returned_upload {session : TcpSession} {original : ByteBuffer}
    (read : session.FrameRead) (returned : session.returned = some original)
    (upload : session.cmdId = CmdCode.realtimeUpload.value ∨
      session.cmdId = CmdCode.reissueUpload.value) :
    CheckCodeRight original.window ∧ DataPacketHeader.cmdId original.array = session.cmdId ∧
      original.window[0]? = session.frame[0]? ∧ original.window[1]? = session.frame[1]? := by
  have forwardable := returned_forwardable read returned
  have long := forwardable.long
  have limited := read.limited
  unfold DataPacketHeader.size at long limited
  unfold TcpSession.returned at returned
  split at returned
  · rename_i parsed accepted
    obtain ⟨start, kind⟩ := parseDataUnit_returned read accepted returned
    cases kind with
    | @upload unit check time blocks command whole shape window =>
      have size : (session.packetRef.array.take DataPacketHeader.size).length =
          DataPacketHeader.size := by
        rw [List.length_take, read.capacity]
        rfl
      have front : original.array.take original.limit = original.window := by
        rw [ByteBuffer.window, start, List.drop_zero]
      have byte (index : Nat) (early : index < 22) :
          original.window[index]? = session.frame[index]? := by
        rw [window, uploaded_start _ _ _ size early, TcpSession.frame,
          List.getElem?_take_of_lt (by unfold DataPacketHeader.size; omega),
          List.getElem?_take_of_lt (by omega)]
      refine ⟨window ▸ uploaded_checkCode _ _ _ size, ?_, byte 0 (by decide), byte 1 (by decide)⟩
      rw [← cmdId_take original.array original.limit (by omega), front, TcpSession.cmdId,
        ← cmdId_take session.packetRef.array session.packetRef.limit (by omega),
        DataPacketHeader.cmdId, DataPacketHeader.cmdId, List.getD_eq_getElem?_getD,
        List.getD_eq_getElem?_getD, byte 2 (by decide)]
      rfl
    | verbatim command =>
      rcases upload with realtime | reissue <;> rcases command with login | logout <;>
        simp_all [TcpSession.cmdId, CmdCode.value]
  · cases returned

theorem marked_frame {session : TcpSession} {original marked : ByteBuffer} (read : session.FrameRead)
    (returned : session.returned = some original) (succeeded : markReissue original = .ok marked)
    (upload : session.cmdId = CmdCode.realtimeUpload.value ∨
      session.cmdId = CmdCode.reissueUpload.value) :
    ReissueOf original.window marked.window ∧ (CheckCodeRight marked.window ↔
      session.cmdId = CmdCode.reissueUpload.value ∨ session.frame[0]? = session.frame[1]?) := by
  have forwardable := returned_forwardable read returned
  have start := forwardable.start
  have long : 3 < original.window.length := by
    have enough := forwardable.long
    unfold DataPacketHeader.size at enough
    rw [ByteBuffer.window_length]
    omega
  obtain ⟨right, command, first, second⟩ := returned_upload read returned upload
  rcases upload with realtime | reissue
  · have other : session.cmdId ≠ CmdCode.reissueUpload.value := by rw [realtime]; decide
    rw [markReissue_window forwardable (command.trans realtime) succeeded]
    refine ⟨remarked_reissueOf _ long, ?_⟩
    rw [remarked_checkCode _ long, first, second, or_iff_right other]
  · have same : markReissue original = .ok original :=
      markReissue_other (by rw [command, reissue]; decide)
    cases Except.ok.inj (same.symm.trans succeeded)
    refine ⟨⟨?_, rfl, fun _ _ _ => rfl⟩, iff_of_true right (.inl reissue)⟩
    rw [← reissue, ← command, ByteBuffer.window, start, List.drop_zero,
      cmdId_take _ _ (by have := forwardable.long; unfold DataPacketHeader.size at this; omega)]

end CheckCode

/-- A packet that leaves the reissue queue does so in the hand of an uploader, which then
sends it. What is sent from its start for a realtime or reissue frame is that packet with
the command of a reissue and another last byte at most. This byte is right if and only if
the frame was a reissue already, or the two bytes of its start code are equal. -/
theorem reissued_frame [ByteBufferApi] [LawfulByteBuffer] {capacity : Nat}
    {recorded : Recorded (State n) (Fin n → Bool)} {i : Fin n} {packet : Packet}
    (reach : Reachable (takingForwarder n capacity) recorded)
    (standing : recorded.state.uploader i = .sending packet) (taken : recorded.log i = true)
    (unsent : packet.buf.position = 0) :
    ∃ original, recorded.state.accepted[packet.seq]? = some original ∧
      (∃ session : TcpSession, session.FrameRead ∧ session.returned = some original) ∧
      ∀ session : TcpSession, session.FrameRead → session.returned = some original →
        session.cmdId = CmdCode.realtimeUpload.value ∨
          session.cmdId = CmdCode.reissueUpload.value →
        ReissueOf original.window packet.buf.window ∧ (CheckCodeRight packet.buf.window ↔
          session.cmdId = CmdCode.reissueUpload.value ∨
            session.frame[0]? = session.frame[1]?) := by
  obtain ⟨session, original, made, marked⟩ := (marks_of_reach reach).reissued i taken packet
    (by rw [standing]; exact List.mem_singleton_self _)
  exact ⟨original, made.found, ⟨session, made.read, made.returned⟩,
    fun _ read returned upload => marked_frame read returned (marked unsent) upload⟩

/-- A session hands over its frame while nobody is connected; the uploader then takes it
from the reissue queue. -/
def reissues (session : TcpSession) : List (Action 1) :=
  [.start 0, .push, .accept session, .service none, .service none, .service none, .service none,
    .outside 0 .next, .outside 0 .next, .outside 0 .next, .outside 0 .next, .outside 0 .connects,
    .outside 0 .next, .outside 0 .next, .outside 0 (.answered .responseOk), .upload 0 none,
    .upload 0 none, .upload 0 none]

def oddStart : TcpSession :=
  { sampleSession with
    packetRef := sampleSession.packetRef.withArray (sampleSession.packetRef.array.set 0 36)
      List.length_set }

/-- The sample frame is sent as a reissue. -/
theorem reissued_frame_sample : ∃ (recorded : Recorded (State 1) (Fin 1 → Bool)) (packet : Packet)
    (original : ByteBuffer), Reachable (@takingForwarder ByteBuffer.reference 1 5) recorded ∧
      recorded.state.uploader 0 = .sending packet ∧ recorded.log 0 = true ∧
      recorded.state.accepted[packet.seq]? = some original ∧
      @TcpSession.returned ByteBuffer.reference sampleSession = some original ∧
      ReissueOf original.window packet.buf.window ∧ CheckCodeRight packet.buf.window := by
  let := ByteBuffer.reference
  have := ByteBuffer.reference_lawful
  have initial : Reachable (takingForwarder 1 5)
      ⟨State.initial 1 5 (some .release), fun _ => false⟩ := .start ⟨⟨_, rfl⟩, rfl⟩
  obtain ⟨recorded, reach, packet, _, standing, taken, unsent, accepted⟩ :=
    initial.exists_of_schedule (fun recorded => ∃ packet ∈ (recorded.state.uploader 0).held,
      recorded.state.uploader 0 = .sending packet ∧ recorded.log 0 = true ∧
        packet.buf.position = 0 ∧ recorded.state.accepted[packet.seq]? = sampleSession.returned)
      (reissues sampleSession) (by decide +kernel)
  obtain ⟨original, found, _, frame⟩ := reissued_frame reach standing taken unsent
  have returned : sampleSession.returned = some original := accepted.symm.trans found
  obtain ⟨reissue, right⟩ := frame sampleSession (by decide +kernel) returned (.inl rfl)
  exact ⟨recorded, packet, original, reach, standing, taken, found, returned, reissue,
    right.mpr (.inr rfl)⟩

/-- A packet that was made of a frame with an odd start code is sent as a reissue whose
check code is wrong. -/
theorem odd_start_reissued : ∃ recorded : Recorded (State 1) (Fin 1 → Bool),
    Reachable (@takingForwarder ByteBuffer.reference 1 5) recorded ∧
    oddStart.FrameRead ∧ oddStart.cmdId = CmdCode.realtimeUpload.value ∧
    ∃ packet ∈ (recorded.state.uploader 0).held, recorded.state.uploader 0 = .sending packet ∧
      recorded.log 0 = true ∧ packet.buf.position = 0 ∧
      recorded.state.accepted[packet.seq]? = @TcpSession.returned ByteBuffer.reference oddStart ∧
      ¬ CheckCodeRight packet.buf.window := by
  let := ByteBuffer.reference
  have initial : Reachable (takingForwarder 1 5)
      ⟨State.initial 1 5 (some .release), fun _ => false⟩ := .start ⟨⟨_, rfl⟩, rfl⟩
  obtain ⟨recorded, reach, sent⟩ := initial.exists_of_schedule
    (fun recorded => ∃ packet ∈ (recorded.state.uploader 0).held,
      recorded.state.uploader 0 = .sending packet ∧ recorded.log 0 = true ∧
        packet.buf.position = 0 ∧ recorded.state.accepted[packet.seq]? = oddStart.returned ∧
        ¬ CheckCodeRight packet.buf.window)
    (reissues oddStart) (by decide +kernel)
  exact ⟨recorded, reach, by decide +kernel, by decide +kernel, sent⟩

end MotorInfoUpload
