import MotorInfoUpload.Platform.Frames

/-! What follows a frame that the reader has rejected. It goes on at the next byte with
reads of two bytes, so that it finds the next frame only behind an even number of bytes. -/

namespace MotorInfoUpload

open ResponseReader

/-- Bytes that the reader rejects as a format error: strays without a `#`, or a frame
that declares more than the buffer has room for, without a `#` in its data unit. -/
inductive Rejected : List UInt8 → Prop where
  | strays (bytes : List UInt8) (some : bytes ≠ []) (plain : ∀ byte ∈ bytes, byte ≠ 35) :
      Rejected bytes
  | tooLong (header unit : List UInt8) (check : UInt8) (size : header.length = DataPacketHeader.size)
      (startCode : DataPacketHeader.startCode header = [35, 35])
      (declared : DataPacketHeader.dataUnitLength header = unit.length) (large : 488 < unit.length)
      (plain : ∀ byte ∈ unit, byte ≠ 35) : Rejected (header ++ unit ++ [check])

def BackInStep [ByteBufferApi] (reader : ResponseReader) (rejected : List UInt8)
    (frames : List (List UInt8)) (rest : List UInt8) : Prop :=
  ∃ count returned skipped,
    reader.calls count (rejected ++ (frames.flatten ++ rest)) = some returned ∧
      ∀ k frame, frames[k]? = some frame → ∃ after, ReadAs frame after ∧
        returned[skipped + k]? = some (after, (frames.drop (k + 1)).flatten ++ rest)

section Calls

variable [ByteBufferApi] [LawfulByteBuffer] {reader : ResponseReader}

omit [LawfulByteBuffer] in
private theorem readPart_past (standing : reader.place = .publishing status) :
    reader.readPart stream = some (reader, stream) := by
  unfold readPart
  rw [standing]

/-- A call that rejects what it has read, `position` bytes of the stream. -/
structure Rejects (reader : ResponseReader) (stream : List UInt8) (returned : ResponseReader)
    (left : List UInt8) : Prop where
  called : reader.call stream = some (returned, left)
  place : returned.place = .answering
  status : returned.responseStatus = .responseFormatErr
  capacity : returned.responseBuf.array.length = 512
  position : returned.responseBuf.position ≠ 0

omit [LawfulByteBuffer] in
private theorem rejects_of_parts {started headed : ResponseReader}
    (begun : reader.step (.check true) = some reader.readResponse)
    (first : reader.readResponse.readPart stream = some (started, middle))
    (second : started.readPart middle = some (headed, left))
    (place : headed.place = .publishing .responseFormatErr)
    (capacity : headed.responseBuf.array.length = 512) (position : headed.responseBuf.position ≠ 0) :
    Rejects reader stream (headed.publish .responseFormatErr) left where
  called := by
    unfold call
    rw [begun, Option.bind_some, first, Option.bind_some]
    dsimp only
    rw [second, Option.bind_some]
    dsimp only
    rw [readPart_past place, Option.bind_some]
    dsimp only
    unfold step
    rw [place]
    rfl
  place := rfl
  status := rfl
  capacity := capacity
  position := position

private theorem call_strays (second : UInt8) (rest : List UInt8) (standing : reader.place = .check)
    (capacity : reader.responseBuf.array.length = 512) (plain : first ≠ 35) :
    ∃ returned, Rejects reader (first :: second :: rest) returned rest := by
  obtain ⟨begun, midway⟩ := Midway.begins [first, second] standing capacity
  obtain ⟨filled, memory, limit, position, bytes, read⟩ :=
    midway.read rest (Nat.le_refl 2) (show 2 ≤ 512 by decide)
  have other : ¬ DataPacketHeader.startCode filled.array = [35, 35] := by
    have start : filled.array.take filled.position = [first, second] := bytes
    rw [position] at start
    intro same
    cases start.symm.trans same
    exact plain rfl
  have refused : reader.readResponse.received filled .startCode =
      { reader.readResponse with responseBuf := filled, place := .publishing .responseFormatErr } := by
    simp only [received, if_neg other]
  rw [refused] at read
  refine ⟨_, rejects_of_parts begun read (readPart_past rfl) rfl memory ?_⟩
  change filled.position ≠ 0
  rw [position]
  exact Nat.succ_ne_zero _

private theorem call_tooLong (rest : List UInt8) (standing : reader.place = .check)
    (capacity : reader.responseBuf.array.length = 512)
    (size : header.length = DataPacketHeader.size)
    (startCode : DataPacketHeader.startCode header = [35, 35])
    (large : 488 < DataPacketHeader.dataUnitLength header) :
    ∃ returned, Rejects reader (header ++ rest) returned rest := by
  obtain ⟨begun, midway⟩ := Midway.begins header standing capacity
  have short : header.length ≤ 512 := by
    rw [size]
    decide
  have long : 2 ≤ header.length := by
    rw [size]
    decide
  obtain ⟨started, first, atHeader⟩ := midway.startCode rest startCode long short
  obtain ⟨filled, memory, limit, position, bytes, second⟩ :=
    atHeader.read rest (Nat.le_of_eq size.symm) short
  have whole : filled.array.take DataPacketHeader.size = header.take DataPacketHeader.size := by
    have start : filled.array.take filled.position = header.take (2 + 22) := bytes
    rw [position] at start
    exact start
  have counted : DataPacketHeader.dataUnitLength filled.array = DataPacketHeader.dataUnitLength header :=
    (header_congr whole).2.2
  have room : ByteBufferApi.remaining filled < DataPacketHeader.dataUnitLength header := by
    rw [LawfulByteBuffer.remaining_eq, limit, position]
    exact large
  have refused : (started.received filled .header).place = .publishing .responseFormatErr := by
    simp only [received, counted, if_pos room]
  have nothing : header.drop (Part.header.start + Part.header.size) = [] :=
    List.drop_eq_nil_of_le (Nat.le_of_eq size)
  rw [nothing, List.nil_append] at second
  refine ⟨_, rejects_of_parts begun first second refused memory ?_⟩
  change filled.position ≠ 0
  rw [position]
  exact Nat.succ_ne_zero _

/-- What has been read in a call, of the stream it started at. -/
def Gathers (stream left : List UInt8) (reader : ResponseReader) : Prop :=
  reader.responseBuf.array.length = 512 ∧ match reader.place with
    | .reading part => reader.responseBuf.position = part.start ∧
        reader.responseBuf.position + left.length = stream.length
    | .publishing status => left.length + 2 ≤ stream.length ∧
        (status.judged = true → reader.responseBuf.position = 0) ∧
        (reader.responseBuf.position = 0 →
          reader.responseBuf.window.length + left.length = stream.length)
    | _ => True

private theorem received_gathers {part : Part} {filled : ByteBuffer}
    (memory : filled.array.length = 512) (position : filled.position = part.start + part.size)
    (counted : filled.position + left.length = stream.length) :
    Gathers stream left (reader.received filled part) := by
  cases part with
  | startCode =>
    have two : filled.position = 2 := position
    by_cases startCode : DataPacketHeader.startCode filled.array = [35, 35]
    · simp only [received, if_pos startCode]
      exact ⟨memory, two, counted⟩
    · simp only [received, if_neg startCode]
      refine ⟨memory, by omega, fun judged => (by cases judged), fun start => ?_⟩
      cases two.symm.trans start
  | header =>
    have all : filled.position = 24 := position
    by_cases large : ByteBufferApi.remaining filled < DataPacketHeader.dataUnitLength filled.array
    · simp only [received, if_pos large]
      refine ⟨memory, by omega, fun judged => (by cases judged), fun start => ?_⟩
      cases all.symm.trans start
    · simp only [received, if_neg large]
      exact ⟨memory, all, counted⟩
  | dataUnit length =>
    have whole : filled.position = 24 + (length + 1) := position
    unfold received
    rw [LawfulByteBuffer.flip_eq]
    have window : filled.flipped.window.length + left.length = stream.length := by
      rw [ByteBuffer.flipped_window, filled.filled_length, counted]
    cases ResponseReader.judge filled.flipped with
    | ok status => exact ⟨memory, by omega, fun _ => rfl, fun _ => window⟩
    | error exception => exact ⟨memory, trivial⟩

private theorem readPart_gathers (gathers : Gathers stream left reader)
    (read : reader.readPart left = some (after, rest)) : Gathers stream rest after := by
  unfold readPart at read
  split at read
  · rename_i part standing
    split at read
    · rename_i enough
      obtain ⟨next, stepped, same⟩ := Option.map_eq_some_iff.mp read
      cases same
      cases step_cases stepped with
      | received reading size room =>
        rw [standing] at reading
        cases reading
        obtain ⟨memory, counts⟩ := gathers
        rw [standing] at counts
        apply received_gathers
        · exact (ByteBuffer.splice_length (Nat.le_trans room (ByteBuffer.limit_le _))).trans memory
        · change reader.responseBuf.position + _ = _
          rw [size, counts.1]
        · change reader.responseBuf.position + _ + _ = _
          rw [size, List.length_drop]
          omega
    · cases read
  · cases read
    exact gathers

private theorem call_takes (capacity : reader.responseBuf.array.length = 512)
    (called : reader.call stream = some (returned, left)) :
    returned.responseBuf.array.length = 512 ∧ left.length + 2 ≤ stream.length ∧
      (returned.responseBuf.position = 0 →
        returned.responseBuf.window.length + left.length = stream.length) := by
  unfold call at called
  obtain ⟨begun, began, called⟩ := Option.bind_eq_some_iff.mp called
  obtain ⟨⟨started, stream₁⟩, first, called⟩ := Option.bind_eq_some_iff.mp called
  obtain ⟨⟨headed, stream₂⟩, second, called⟩ := Option.bind_eq_some_iff.mp called
  obtain ⟨⟨ended, stream₃⟩, third, called⟩ := Option.bind_eq_some_iff.mp called
  obtain ⟨last, published, same⟩ := Option.map_eq_some_iff.mp called
  cases same
  have gathers : Gathers stream stream begun := by
    cases step_cases began with
    | begins standing =>
      unfold readResponse
      rw [LawfulByteBuffer.clear_eq]
      exact ⟨capacity, rfl, Nat.zero_add _⟩
  have ends := readPart_gathers (readPart_gathers (readPart_gathers gathers first) second) third
  cases step_cases published with
  | @published status standing =>
    obtain ⟨memory, counts⟩ := ends
    rw [standing] at counts
    obtain ⟨least, start, window⟩ := counts
    by_cases judged : status.judged = true
    · rw [publish_buffer status (start judged)]
      exact ⟨memory, least, window⟩
    · have same : (ended.publish status).responseBuf = ended.responseBuf := by
        cases status <;> first | rfl | exact absurd rfl judged
      rw [same]
      exact ⟨memory, least, window⟩

/-- A call that starts at none of the bytes from which a frame could be read to its end
reads no such frame, nor does any later one. -/
private theorem never_read (place : Nat) (capacity : reader.responseBuf.array.length = 512)
    (apart : stream.length ≠ place) (below : stream.length ≤ place + 1)
    (called : reader.calls count stream = some returned) :
    ∀ entry ∈ returned, entry.1.responseBuf.position = 0 →
      entry.1.responseBuf.window.length + entry.2.length ≠ place := by
  induction count generalizing reader stream returned with
  | zero =>
    cases called
    simp
  | succ count ih =>
    unfold calls at called
    obtain ⟨⟨first, left⟩, once, called⟩ := Option.bind_eq_some_iff.mp called
    obtain ⟨next, answered, called⟩ := Option.bind_eq_some_iff.mp called
    obtain ⟨later, rest, same⟩ := Option.map_eq_some_iff.mp called
    cases same
    obtain ⟨memory, least, window⟩ := call_takes capacity once
    have kept : next.responseBuf.array.length = 512 := by
      cases step_cases answered with
      | answered standing => exact memory
    have others := ih kept (by omega) (by omega) rest
    intro entry member
    rcases List.mem_cons.mp member with same | elsewhere
    · subst same
      intro start
      rw [window start]
      exact apart
    · exact others entry elsewhere

omit [LawfulByteBuffer] in
private theorem Rejects.leads {returned : ResponseReader}
    (rejects : Rejects reader stream returned left) :
    Leads reader stream [(returned, left)] { returned with place := .check } left := by
  apply Leads.call rejects.called
  apply answered rejects.place
  rw [rejects.status]
  exact ResponseReaderStatus.noConfusion

structure Skips (reader : ResponseReader) (stream : List UInt8)
    (earlier : List (ResponseReader × List UInt8)) (next : ResponseReader) (left : List UInt8) :
    Prop where
  leads : Leads reader stream earlier next left
  place : next.place = .check
  capacity : next.responseBuf.array.length = 512
  positions : ∀ entry ∈ earlier, entry.1.responseBuf.position ≠ 0

omit [LawfulByteBuffer] in
private theorem Skips.refl (standing : reader.place = .check)
    (capacity : reader.responseBuf.array.length = 512) : Skips reader stream [] reader stream :=
  ⟨Leads.refl reader stream, standing, capacity, by simp⟩

omit [LawfulByteBuffer] in
private theorem Rejects.skips {returned next : ResponseReader}
    (rejects : Rejects reader stream returned middle)
    (skips : Skips { returned with place := .check } middle earlier next left) :
    Skips reader stream ((returned, middle) :: earlier) next left where
  leads := rejects.leads.trans skips.leads
  place := skips.place
  capacity := skips.capacity
  positions entry member := by
    rcases List.mem_cons.mp member with same | later
    · exact same ▸ rejects.position
    · exact skips.positions entry later

/-- Strays in pairs, none of which starts with a `#`, are rejected pair by pair. -/
private theorem skips_pairs (pairs : Nat) (strays rest : List UInt8) (standing : reader.place = .check)
    (capacity : reader.responseBuf.array.length = 512) (even : strays.length = 2 * pairs)
    (plain : ∀ byte ∈ strays.dropLast, byte ≠ 35) :
    ∃ earlier next, Skips reader (strays ++ rest) earlier next rest := by
  induction pairs generalizing reader strays with
  | zero =>
    cases List.eq_nil_of_length_eq_zero even
    exact ⟨[], reader, .refl standing capacity⟩
  | succ pairs ih =>
    obtain ⟨first, tail, rfl⟩ := List.exists_cons_of_length_eq_add_one even
    have odd : tail.length = 2 * pairs + 1 := Nat.succ.inj even
    obtain ⟨second, strays, rfl⟩ := List.exists_cons_of_length_eq_add_one odd
    have start : first ≠ 35 := plain first List.mem_cons_self
    have others : ∀ byte ∈ strays.dropLast, byte ≠ 35 := by
      intro byte member
      cases strays with
      | nil => cases member
      | cons third strays =>
        exact plain byte (List.mem_cons_of_mem _ (List.mem_cons_of_mem _ member))
    obtain ⟨returned, rejects⟩ := call_strays second (strays ++ rest) standing capacity start
    have again : ({ returned with place := .check } : ResponseReader).place = .check := rfl
    obtain ⟨earlier, next, skips⟩ := ih strays again rejects.capacity (Nat.succ.inj odd) others
    exact ⟨_, next, rejects.skips skips⟩

private theorem skips_strays (strays rest : List UInt8) (standing : reader.place = .check)
    (capacity : reader.responseBuf.array.length = 512)
    (plain : ∀ byte ∈ strays.dropLast, byte ≠ 35) :
    ∃ earlier next last, last.length = strays.length % 2 ∧
      Skips reader (strays ++ rest) earlier next (last ++ rest) := by
  have split := List.take_append_drop (2 * (strays.length / 2)) strays
  have half : (strays.take (2 * (strays.length / 2))).length = 2 * (strays.length / 2) := by
    rw [List.length_take]
    omega
  have within : (strays.take (2 * (strays.length / 2))).dropLast ⊆ strays.dropLast := by
    rw [List.dropLast_eq_take, List.dropLast_eq_take, List.take_take, half]
    apply List.take_subset_take_left
    omega
  obtain ⟨earlier, next, skips⟩ := skips_pairs (strays.length / 2) _
    (strays.drop (2 * (strays.length / 2)) ++ rest) standing capacity half
    fun byte member => plain byte (within member)
  rw [← List.append_assoc, split] at skips
  refine ⟨earlier, next, _, ?_, skips⟩
  rw [List.length_drop]
  omega

private theorem Rejected.skips (rejected : Rejected bytes) (rest : List UInt8)
    (standing : reader.place = .check) (capacity : reader.responseBuf.array.length = 512) :
    ∃ earlier next last, last.length = bytes.length % 2 ∧
      Skips reader (bytes ++ rest) earlier next (last ++ rest) := by
  cases rejected with
  | strays _ some plain =>
    exact skips_strays bytes rest standing capacity fun byte member =>
      plain byte (List.dropLast_subset _ member)
  | tooLong header unit check size startCode declared large plain =>
    obtain ⟨returned, rejects⟩ := call_tooLong (unit ++ [check] ++ rest) standing capacity size startCode
      (declared ▸ large)
    have again : ({ returned with place := .check } : ResponseReader).place = .check := rfl
    obtain ⟨earlier, next, last, odd, skips⟩ := skips_strays (unit ++ [check]) rest again
      rejects.capacity (by simpa using plain)
    refine ⟨(returned, unit ++ [check] ++ rest) :: earlier, next, last, ?_, ?_⟩
    · rw [odd]
      simp only [List.length_append, size, List.length_singleton, DataPacketHeader.size]
      omega
    · rw [List.append_assoc header, List.append_assoc header]
      exact rejects.skips skips

/-- Behind an even number of rejected bytes the reader is back in step. -/
theorem back_in_step (frames : List (List UInt8)) (rest : List UInt8) (standing : reader.place = .check)
    (capacity : reader.responseBuf.array.length = 512) (rejected : Rejected bytes)
    (each : ∀ frame ∈ frames, PlatformFrame frame) (even : bytes.length % 2 = 0) :
    BackInStep reader bytes frames rest := by
  obtain ⟨earlier, next, last, size, skips⟩ :=
    rejected.skips (frames.flatten ++ rest) standing capacity
  rw [even] at size
  cases List.eq_nil_of_length_eq_zero size
  obtain ⟨returned, final, leads, count, readAs⟩ :=
    frames_lead frames rest next skips.place skips.capacity each
  refine ⟨(earlier ++ returned).length, earlier ++ returned, earlier.length, ?_, ?_⟩
  · have called := skips.leads.trans leads 0
    rw [Nat.add_zero] at called
    rw [called, calls, Option.map_some, List.append_nil]
  · intro k frame found
    obtain ⟨after, read, place⟩ := readAs k frame found
    refine ⟨after, read, ?_⟩
    rw [List.getElem?_append_right (Nat.le_add_right _ _), Nat.add_sub_cancel_left, place]

omit [LawfulByteBuffer] in
private theorem calls_take (called : reader.calls (count + more) stream = some returned) :
    reader.calls count stream = some (returned.take count) := by
  induction count generalizing reader stream returned with
  | zero => rfl
  | succ count ih =>
    rw [Nat.succ_add] at called
    unfold calls at called ⊢
    obtain ⟨⟨first, left⟩, once, called⟩ := Option.bind_eq_some_iff.mp called
    obtain ⟨next, goesOn, called⟩ := Option.bind_eq_some_iff.mp called
    obtain ⟨later, rest, same⟩ := Option.map_eq_some_iff.mp called
    cases same
    simp [once, goesOn, ih rest]

theorem out_of_step (first : List UInt8) (frames : List (List UInt8)) (rest : List UInt8)
    (standing : reader.place = .check) (capacity : reader.responseBuf.array.length = 512)
    (rejected : Rejected bytes) (odd : bytes.length % 2 = 1) :
    ¬ BackInStep reader bytes (first :: frames) rest := by
  rintro ⟨count, returned, skipped, called, readAs⟩
  obtain ⟨after, read, place⟩ := readAs 0 first rfl
  obtain ⟨earlier, next, last, size, skips⟩ :=
    rejected.skips ((first :: frames).flatten ++ rest) standing capacity
  rw [odd] at size
  have member := List.mem_of_getElem? place
  have total : (last ++ ((first :: frames).flatten ++ rest)).length =
      ((first :: frames).flatten ++ rest).length + 1 := by
    rw [List.length_append, size, Nat.add_comm]
  by_cases enough : earlier.length ≤ count
  · obtain ⟨more, rfl⟩ := Nat.le.dest enough
    obtain ⟨later, calledLater, same⟩ := Option.map_eq_some_iff.mp ((skips.leads more).symm.trans called)
    subst same
    rcases List.mem_append.mp member with before | behind
    · exact skips.positions _ before read.start
    · refine never_read _ skips.capacity (by omega) (Nat.le_of_eq total) calledLater _ behind
        read.start ?_
      simp only [read.window, List.flatten_cons, List.drop_succ_cons, List.drop_zero,
        List.length_append, Nat.add_assoc]
  · have fewer : count ≤ earlier.length := Nat.le_of_not_le enough
    obtain ⟨more, whole⟩ := Nat.le.dest fewer
    have all := skips.leads 0
    rw [Nat.add_zero, calls, Option.map_some, List.append_nil, ← whole] at all
    have front := calls_take all
    rw [called] at front
    cases front
    exact skips.positions _ (List.mem_of_mem_take member) read.start

/-- The reader gets back in step with the frames behind rejected bytes exactly when these
are even in number. -/
theorem back_in_step_iff (bytes : List UInt8) (frames : List (List UInt8)) (rest : List UInt8)
    (reader : ResponseReader) (standing : reader.place = .check)
    (capacity : reader.responseBuf.array.length = 512) (rejected : Rejected bytes)
    (nonempty : frames ≠ []) (each : ∀ frame ∈ frames, PlatformFrame frame) :
    BackInStep reader bytes frames rest ↔ bytes.length % 2 = 0 := by
  constructor
  · intro inStep
    obtain ⟨first, others, rfl⟩ := List.exists_cons_of_ne_nil nonempty
    refine Classical.byContradiction fun odd => ?_
    exact out_of_step first others rest standing capacity rejected (by omega) inStep
  · intro even
    exact back_in_step frames rest standing capacity rejected each even

end Calls

/-- Behind two stray bytes both responses are read. -/
theorem back_in_step_iff_two :
    @BackInStep ByteBuffer.reference (@ResponseReader.initial ByteBuffer.reference) [1, 2]
      sampleResponses [] := by
  let := ByteBuffer.reference
  have := ByteBuffer.reference_lawful
  have each : ∀ frame ∈ sampleResponses, PlatformFrame frame := by decide +kernel
  exact (back_in_step_iff [1, 2] sampleResponses [] .initial rfl
    (LawfulByteBuffer.allocate_fresh 512).1 (.strays _ (by decide) (by simp)) (by decide) each).mpr rfl

/-- Behind a single stray byte the next response is never read. -/
theorem stray_byte_loses_step :
    Rejected [1] ∧ PlatformFrame (sampleResponse .platformLogin 65) ∧
      ¬ @BackInStep ByteBuffer.reference (@ResponseReader.initial ByteBuffer.reference) [1]
        [sampleResponse .platformLogin 65] [] := by
  let := ByteBuffer.reference
  have := ByteBuffer.reference_lawful
  have stray : Rejected [1] := .strays _ (by decide) (by simp)
  refine ⟨stray, by decide +kernel, ?_⟩
  exact out_of_step _ [] [] rfl (LawfulByteBuffer.allocate_fresh 512).1 stray rfl

end MotorInfoUpload
