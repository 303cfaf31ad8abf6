import MotorInfoUpload.Machine.Run
import MotorInfoUpload.Platform.Reading

/-! The reads that the reader asks for and the room that its buffer has for them. The
check of the declared length leaves out the check byte, which the last read asks for
as well. -/

namespace MotorInfoUpload

open Machine

/-- The length that the header of a frame declares, as read behind its start code. -/
def declaredLength (header : List UInt8) : Nat := DataPacketHeader.dataUnitLength ([35, 35] ++ header)

/-- The header that is read declares exactly as many bytes as the buffer has left. -/
def DeclaresAllRoom (reader : ResponseReader) : ReaderEvent → Prop
  | .read bytes => reader.place = .reading .header ∧ declaredLength bytes = 488
  | _ => False

private def declaresAllRoom (reader : ResponseReader) (event : ReaderEvent) :
    Decidable (DeclaresAllRoom reader event) :=
  match event with
  | .read bytes =>
    inferInstanceAs (Decidable (reader.place = .reading .header ∧ declaredLength bytes = 488))
  | .check _ | .wakes | .interrupted | .fails _ | .throws | .publish | .answer => .isFalse id

instance (reader : ResponseReader) (event : ReaderEvent) : Decidable (DeclaresAllRoom reader event) :=
  declaresAllRoom reader event

/-- What holds of the reader while no header declares all the room. -/
structure ReadsWithin (reader : ResponseReader) : Prop where
  sound : ReaderSound reader
  limit : ∀ part, reader.place = .reading part → reader.responseBuf.limit = 512
  startCode : reader.place = .reading .header →
    DataPacketHeader.startCode reader.responseBuf.array = [35, 35]
  length : ∀ length, reader.place = .reading (.dataUnit length) → length ≤ 487

private theorem ReadsWithin.elsewhere {reader : ResponseReader} (sound : ReaderSound reader)
    (place : ∀ part, reader.place ≠ .reading part) : ReadsWithin reader where
  sound := sound
  limit part there := absurd there (place part)
  startCode there := absurd there (place _)
  length _ there := absurd there (place _)

/-- The bytes of a header, behind the start code, are those of the memory it is read into. -/
private theorem declared_length {buffer : ByteBuffer} (start : buffer.position = 2)
    (startCode : DataPacketHeader.startCode buffer.array = [35, 35]) (size : bytes.length = 22)
    (room : buffer.position + bytes.length ≤ buffer.limit) :
    DataPacketHeader.dataUnitLength (buffer.store bytes room).array = declaredLength bytes := by
  have stored : (buffer.store bytes room).array =
      [35, 35] ++ bytes ++ buffer.array.drop (buffer.position + bytes.length) := by
    change ByteBuffer.splice buffer.array buffer.position bytes = _
    rw [ByteBuffer.splice, start]
    exact congrArg (fun front => front ++ bytes ++ _) startCode
  have header : (buffer.store bytes room).array.take DataPacketHeader.size =
      ([35, 35] ++ bytes).take DataPacketHeader.size := by
    rw [stored]
    apply List.take_append_of_le_length
    simp [size, DataPacketHeader.size]
  exact (header_congr header).2.2

section Runs

variable [ByteBufferApi]

def responseReader : Automaton ResponseReader ReaderEvent where
  start reader := reader = .initial
  step := ResponseReader.step

variable [LawfulByteBuffer] {reader after : ResponseReader}

theorem header_read (within : ReadsWithin reader) (reading : reader.place = .reading .header)
    (size : bytes.length = 22) :
    ∃ next, reader.step (.read bytes) = some next ∧ next.responseBuf.position = 24 ∧
      next.responseBuf.limit = 512 ∧
      next.place = if 488 < declaredLength bytes then .publishing .responseFormatErr
        else .reading (.dataUnit (declaredLength bytes)) := by
  have start : reader.responseBuf.position = 2 := within.sound.reading .header reading
  have limit := within.limit .header reading
  have room : reader.responseBuf.position + bytes.length ≤ reader.responseBuf.limit := by omega
  have counted := declared_length start (within.startCode reading) size room
  refine ⟨_, ResponseReader.step_read reading size room, ?_, limit, ?_⟩
  · change reader.responseBuf.position + bytes.length = 24
    omega
  · have remaining : ByteBufferApi.remaining (reader.responseBuf.store bytes room) = 488 := by
      rw [LawfulByteBuffer.remaining_eq]
      change reader.responseBuf.limit - (reader.responseBuf.position + bytes.length) = 488
      omega
    simp only [ResponseReader.received, counted, remaining]

theorem dataUnit_read (within : ReadsWithin reader)
    (reading : reader.place = .reading (.dataUnit length)) (size : bytes.length = length + 1) :
    ∃ next status, reader.step (.read bytes) = some next ∧ next.place = .publishing status ∧
      next.responseBuf.window = reader.responseBuf.filled ++ bytes := by
  have start : reader.responseBuf.position = 24 := within.sound.reading _ reading
  have limit := within.limit _ reading
  have short := within.length length reading
  have room : reader.responseBuf.position + bytes.length ≤ reader.responseBuf.limit := by omega
  have long : 3 < (reader.responseBuf.store bytes room).flipped.limit := by
    change 3 < reader.responseBuf.position + bytes.length
    omega
  obtain ⟨status, judged⟩ : ∃ status,
      ResponseReader.judge (reader.responseBuf.store bytes room).flipped = .ok status :=
    ⟨_, ResponseReader.judge_eq _ rfl long⟩
  refine ⟨_, status, ResponseReader.step_read reading size room, ?_, ?_⟩
  · unfold ResponseReader.received
    simp only [LawfulByteBuffer.flip_eq, judged]
  · unfold ResponseReader.received
    simp only [LawfulByteBuffer.flip_eq, judged]
    rw [ByteBuffer.flipped_window, ByteBuffer.store_filled]

/-- Every step of the reader keeps it within its buffer, unless a header declares all
the room that is left. -/
theorem ReadsWithin.step (within : ReadsWithin reader) (allowed : ¬ DeclaresAllRoom reader event)
    (stepped : reader.step event = some after) : ReadsWithin after := by
  have sound := within.sound.step stepped
  cases ResponseReader.step_cases stepped with
  | begins standing =>
    constructor
    · exact sound
    · intro part there
      unfold ResponseReader.readResponse
      rw [LawfulByteBuffer.clear_eq]
      exact within.sound.capacity
    · intro there
      cases there
    · intro length there
      cases there
  | sleeps | wakes | interrupted | throws | fails | published =>
    exact .elsewhere sound fun part there => by cases there
  | answered standing =>
    refine .elsewhere sound fun part there => ?_
    dsimp only at there
    split at there <;> cases there
  | @received part bytes reading size room =>
    cases part with
    | startCode =>
      have start : reader.responseBuf.position = 0 := within.sound.reading _ reading
      have limit := within.limit _ reading
      by_cases startCode :
          DataPacketHeader.startCode (reader.responseBuf.store bytes room).array = [35, 35]
      · simp only [ResponseReader.received, if_pos startCode] at sound ⊢
        refine ⟨sound, fun _ _ => limit, fun _ => startCode, fun length there => ?_⟩
        cases there
      · simp only [ResponseReader.received, if_neg startCode] at sound ⊢
        exact .elsewhere sound fun part there => by cases there
    | header =>
      obtain ⟨next, stepped', start, limit, place⟩ := header_read within reading size
      rw [stepped] at stepped'
      cases stepped'
      have length : ¬ declaredLength bytes = 488 := fun declared => allowed ⟨reading, declared⟩
      refine ⟨sound, fun _ _ => limit, fun there => ?_, fun length there => ?_⟩
      · rw [place] at there
        split at there <;> cases there
      · rw [place] at there
        split at there
        · cases there
        · cases there
          omega
    | dataUnit length =>
      obtain ⟨next, status, stepped', place, window⟩ := dataUnit_read within reading size
      rw [stepped] at stepped'
      cases stepped'
      refine .elsewhere sound fun part there => ?_
      rw [place] at there
      cases there

theorem readsWithin_initial : ReadsWithin .initial :=
  .elsewhere .initial fun part there => by cases there

theorem readsWithin (reach : Reach responseReader
    (fun reader event => ¬ DeclaresAllRoom reader event) reader) : ReadsWithin reader := by
  apply reach.invariant
  · rintro state rfl
    exact readsWithin_initial
  · intro state event after within allowed stepped
    exact within.step allowed stepped

/-- While no header declares exactly the room that is left of the buffer, every read asks
for no more than the buffer has left, whatever bytes it returns leave the thread going,
and a frame is read whole or reported as a format error. A header that declares exactly
that room makes the next read ask for a byte too many. -/
theorem reads_within_buffer (reach : Reach responseReader
    (fun reader event => ¬ DeclaresAllRoom reader event) reader) :
    (∀ part, reader.place = .reading part →
      part.size ≤ ByteBufferApi.remaining reader.responseBuf ∧
      ∀ bytes, bytes.length = part.size →
        ∃ next, reader.step (.read bytes) = some next ∧ next.place ≠ .stopped) ∧
    (∀ length bytes, reader.place = .reading (.dataUnit length) → bytes.length = length + 1 →
      ∃ next status, reader.step (.read bytes) = some next ∧ next.place = .publishing status ∧
        next.responseBuf.window = reader.responseBuf.filled ++ bytes) ∧
    ∀ bytes next, reader.place = .reading .header → reader.step (.read bytes) = some next →
      (next.place = if 488 < declaredLength bytes then .publishing .responseFormatErr
        else .reading (.dataUnit (declaredLength bytes))) ∧
      ((∀ part, next.place = .reading part →
          part.size ≤ ByteBufferApi.remaining next.responseBuf) ↔ declaredLength bytes ≠ 488) := by
  have within := readsWithin reach
  refine ⟨fun part reading => ?_, fun length bytes reading size => dataUnit_read within reading size,
    fun bytes next reading stepped => ?_⟩
  · have start := within.sound.reading part reading
    have limit := within.limit part reading
    have fits : reader.responseBuf.position + part.size ≤ reader.responseBuf.limit := by
      cases part with
      | startCode => simp [start, limit, Part.start, Part.size]
      | header => simp [start, limit, Part.start, Part.size, DataPacketHeader.size]
      | dataUnit length =>
        have short := within.length length reading
        simp only [start, limit, Part.start, Part.size, DataPacketHeader.size]
        omega
    refine ⟨by rw [LawfulByteBuffer.remaining_eq]; omega, fun bytes size => ?_⟩
    cases part with
    | startCode =>
      refine ⟨_, ResponseReader.step_read reading size (by rw [size]; exact fits), ?_⟩
      unfold ResponseReader.received
      dsimp only
      split <;> exact ReaderAt.noConfusion
    | header =>
      obtain ⟨next, stepped, -, -, place⟩ := header_read within reading size
      refine ⟨next, stepped, ?_⟩
      rw [place]
      split <;> exact ReaderAt.noConfusion
    | dataUnit length =>
      obtain ⟨next, status, stepped, place, -⟩ := dataUnit_read within reading size
      exact ⟨next, stepped, by rw [place]; exact ReaderAt.noConfusion⟩
  · have size : bytes.length = 22 := by
      cases ResponseReader.step_cases stepped with
      | received standing size room =>
        rw [reading] at standing
        cases standing
        exact size
    obtain ⟨same, stepped', start, limit, place⟩ := header_read within reading size
    rw [stepped] at stepped'
    cases stepped'
    refine ⟨place, ?_⟩
    rw [place, LawfulByteBuffer.remaining_eq, start, limit]
    constructor
    · intro fits declared
      rw [declared] at fits
      have more : 489 ≤ 488 := fits (.dataUnit 488) rfl
      omega
    · intro different part there
      split at there
      · cases there
      · cases there
        change declaredLength bytes + 1 ≤ 512 - 24
        omega

end Runs

/-- A frame of the largest length that fits is read whole. -/
theorem reads_within_buffer_largest :
    ∃ reader : ResponseReader, reader.place = .reading (.dataUnit 487) ∧
      488 ≤ @ByteBufferApi.remaining ByteBuffer.reference reader.responseBuf := by
  let := ByteBuffer.reference
  have := ByteBuffer.reference_lawful
  have initial : Reach responseReader (fun reader event => ¬ DeclaresAllRoom reader event)
      .initial := .start rfl
  obtain ⟨reader, reach, standing⟩ := initial.exists_of_schedule
    (fun reader => reader.place = .reading (.dataUnit 487))
    [.check true, .read [35, 35], .read (List.replicate 20 1 ++ [1, 231])] (by decide +kernel)
  exact ⟨reader, standing, ((reads_within_buffer reach).1 _ standing).1⟩

/-- After a header that declares 488 bytes, 489 bytes are asked for and 488 are left. -/
theorem read_asks_too_much :
    ∃ reader, Reachable (@responseReader ByteBuffer.reference) reader ∧
      reader.place = .reading (.dataUnit 488) ∧
      @ByteBufferApi.remaining ByteBuffer.reference reader.responseBuf < (Part.dataUnit 488).size := by
  let := ByteBuffer.reference
  have initial : Reachable responseReader .initial := .start rfl
  exact initial.exists_of_schedule
    (fun reader => reader.place = .reading (.dataUnit 488) ∧
      ByteBufferApi.remaining reader.responseBuf < (Part.dataUnit 488).size)
    [.check true, .read [35, 35], .read (List.replicate 20 1 ++ [1, 232])] (by decide +kernel)

end MotorInfoUpload
