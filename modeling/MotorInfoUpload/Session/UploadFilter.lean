import MotorInfoUpload.Session.FilterCorrect
import Mathlib.Data.List.Basic

namespace MotorInfoUpload

open Grammar

namespace Filter

private theorem kept_cons (word : List UInt8) (pieces : List (List UInt8)) :
    (if forwarded word then word else []) ++ (pieces.filter forwarded).flatten =
      ((word :: pieces).filter forwarded).flatten := by
  by_cases kind : forwarded word = true
  · rw [if_pos kind, List.filter_cons_of_pos kind, List.flatten_cons]
  · rw [if_neg kind, List.filter_cons_of_neg kind, List.nil_append]

variable {packet : ByteBuffer} [ByteBufferApi]

private theorem blocks_done {before : Filter}
    (done : ¬ 1 < ByteBufferApi.remaining before.packetRef) :
    before.blocks fuel = some (.ok before) := by
  unfold blocks
  rw [if_neg done]

theorem blocks_more {before after : Filter}
    (more : 1 < ByteBufferApi.remaining before.packetRef) (round : before.block = .ok after) :
    before.blocks (fuel + 1) = after.blocks fuel := by
  rw [blocks, if_pos more, round]

theorem blocks_add (extra : Nat) (ended : Filter.blocks fuel before = some result) :
    before.blocks (fuel + extra) = some result := by
  induction fuel generalizing before with
  | zero =>
    unfold blocks at ended ⊢
    split at ended
    · cases ended
    · rename_i done
      rw [if_neg done]
      exact ended
  | succ fuel ih =>
    rw [Nat.succ_add]
    unfold blocks at ended ⊢
    split at ended
    · rename_i more
      rw [if_pos more]
      cases round : before.block with
      | error exception => simpa only [round] using ended
      | ok after =>
        simp only [round] at ended ⊢
        exact ih ended
    · rename_i done
      rw [if_neg done]
      exact ended

variable [LawfulByteBuffer]

theorem remaining_window (packetRef : ByteBuffer) :
    ByteBufferApi.remaining packetRef = packetRef.window.length := by
  rw [LawfulByteBuffer.remaining_eq, ByteBuffer.window_length]

private theorem block_shrinks {before after : Filter} (small : packet.array.length < 65534)
    (ready : Ready packet before) (more : 1 < ByteBufferApi.remaining before.packetRef)
    (round : before.block = .ok after) :
    ∃ word, InfoBlock word ∧
      Moved (tape packet) before after word (if forwarded word then word else []) ∧
      after.packetRef.window.length < before.packetRef.window.length := by
  rw [remaining_window] at more
  have nonempty : before.packetRef.window ≠ [] := List.ne_nil_of_length_pos (by omega)
  obtain ⟨word, kept, ⟨block, rfl⟩, moved⟩ := block_sound small ready nonempty round
  refine ⟨word, block, moved, ?_⟩
  have input : before.packetRef.window = word ++ after.packetRef.window := moved.input
  have positive := List.length_pos_iff.mpr block.ne_nil
  rw [input, List.length_append]
  omega

/-- What the loop accepts is a sequence of blocks with at most one byte after it. -/
theorem blocks_sound {before after : Filter} (small : packet.array.length < 65534)
    (ready : Ready packet before) (ended : before.blocks fuel = some (.ok after)) :
    ∃ pieces : List (List UInt8), (∀ piece ∈ pieces, InfoBlock piece) ∧
      Moved (tape packet) before after pieces.flatten (pieces.filter forwarded).flatten ∧
      ByteBufferApi.remaining after.packetRef ≤ 1 := by
  induction fuel generalizing before with
  | zero =>
    unfold blocks at ended
    split at ended
    · cases ended
    · rename_i done
      cases ended
      exact ⟨[], by simp, .refl ready, Nat.le_of_not_lt done⟩
  | succ fuel ih =>
    by_cases more : 1 < ByteBufferApi.remaining before.packetRef
    · cases round : before.block with
      | error exception =>
        rw [blocks, if_pos more, round] at ended
        cases ended
      | ok middle =>
        rw [blocks_more more round] at ended
        obtain ⟨word, block, moved, _⟩ := block_shrinks small ready more round
        obtain ⟨pieces, each, rest, short⟩ := ih moved.ready ended
        refine ⟨word :: pieces, ?_, ?_, short⟩
        · intro piece member
          rcases List.mem_cons.mp member with same | later
          · exact same ▸ block
          · exact each piece later
        · rw [← kept_cons, List.flatten_cons]
          exact moved.trans rest
    · rw [blocks_done more] at ended
      cases ended
      exact ⟨[], by simp, .refl ready, Nat.le_of_not_lt more⟩

/-- As many rounds as bytes are enough for the loop to end. -/
theorem blocks_end {before : Filter} (small : packet.array.length < 65534)
    (ready : Ready packet before) (bytes : before.packetRef.window.length ≤ fuel) :
    ∃ result, before.blocks fuel = some result := by
  induction fuel generalizing before with
  | zero =>
    have done : ¬ 1 < ByteBufferApi.remaining before.packetRef := by
      rw [remaining_window]
      omega
    exact ⟨_, blocks_done done⟩
  | succ fuel ih =>
    by_cases more : 1 < ByteBufferApi.remaining before.packetRef
    · cases round : before.block with
      | error exception => exact ⟨_, by rw [blocks, if_pos more, round]⟩
      | ok after =>
        obtain ⟨word, _, moved, shrunk⟩ := block_shrinks small ready more round
        rw [blocks_more more round]
        exact ih moved.ready (by omega)
    · exact ⟨_, blocks_done more⟩

theorem blocks_complete {before : Filter} (small : packet.array.length < 65534)
    (ready : Ready packet before) (pieces : List (List UInt8))
    (each : ∀ piece ∈ pieces, InfoBlock piece)
    (split : before.packetRef.window = pieces.flatten ++ [check])
    (rounds : pieces.length ≤ fuel) :
    ∃ after, before.blocks fuel = some (.ok after) ∧
      Moved (tape packet) before after pieces.flatten (pieces.filter forwarded).flatten := by
  induction pieces generalizing before fuel with
  | nil =>
    have done : ¬ 1 < ByteBufferApi.remaining before.packetRef := by
      rw [remaining_window, split]
      exact Nat.lt_irrefl 1
    exact ⟨before, blocks_done done, .refl ready⟩
  | cons piece pieces ih =>
    have block : InfoBlock piece := each piece List.mem_cons_self
    obtain ⟨fuel, rfl⟩ : ∃ less, fuel = less + 1 := ⟨fuel - 1, by simp at rounds; omega⟩
    have more : 1 < ByteBufferApi.remaining before.packetRef := by
      have positive := List.length_pos_iff.mpr block.ne_nil
      rw [remaining_window, split, List.flatten_cons]
      simp only [List.length_append, List.length_singleton]
      omega
    rw [List.flatten_cons, List.append_assoc] at split
    obtain ⟨middle, round, moved⟩ := block_complete small ready ⟨block, rfl⟩ split
    obtain ⟨after, ended, rest⟩ := ih moved.ready
      (fun other member => each other (List.mem_cons_of_mem _ member)) (moved.unread_eq split)
      (by simpa using rounds)
    refine ⟨after, by rw [blocks_more more round]; exact ended, ?_⟩
    rw [← kept_cons, List.flatten_cons]
    exact moved.trans rest

theorem header_put {packetRef : ByteBuffer} (atUnit : packetRef.position = DataPacketHeader.size) :
    ∃ rtData, ByteBufferApi.putArray (ByteBufferApi.allocate packetRef.capacity) packetRef.array 0
        DataPacketHeader.size = .ok rtData ∧ Ready packetRef ⟨packetRef, rtData⟩ ∧
      rtData.filled = packetRef.array.take DataPacketHeader.size := by
  obtain ⟨size, position, limit⟩ := LawfulByteBuffer.allocate_fresh packetRef.capacity
  generalize allocated : ByteBufferApi.allocate packetRef.capacity = fresh at size position limit
  unfold ByteBuffer.capacity at size limit
  have inside := packetRef.position_le
  have whole := packetRef.limit_le
  have given : 0 + DataPacketHeader.size ≤ packetRef.array.length := by omega
  have copied : ((packetRef.array.drop 0).take DataPacketHeader.size).length =
      DataPacketHeader.size := by
    rw [List.drop_zero, List.length_take]
    omega
  have room : fresh.position + ((packetRef.array.drop 0).take DataPacketHeader.size).length ≤
      fresh.limit := by omega
  have fits := ByteBuffer.splice_length (Nat.le_trans room fresh.limit_le)
  refine ⟨fresh.store _ room, LawfulByteBuffer.putArray_room _ given room,
    ⟨rfl, rfl, fits.trans size, ?_, ?_⟩, ?_⟩
  · exact limit.trans (size.symm.trans fits.symm)
  · simp only [ByteBuffer.store, position, copied, atUnit]
    exact Nat.le_of_eq (Nat.zero_add _)
  · rw [ByteBuffer.store_filled, ByteBuffer.filled, position, List.take_zero, List.nil_append,
      List.drop_zero]

theorem begin_put {packetRef : ByteBuffer} (atUnit : packetRef.position = DataPacketHeader.size) :
    ∃ header : Filter, header.packetRef = packetRef ∧ Ready packetRef header ∧
      header.rtData.filled = packetRef.array.take DataPacketHeader.size ∧
      begin packetRef = header.put TimeForward.size := by
  obtain ⟨rtData, copied, ready, filled⟩ := header_put atUnit
  refine ⟨⟨packetRef, rtData⟩, rfl, ready, filled, ?_⟩
  simp only [begin, copied]

omit [ByteBufferApi] [LawfulByteBuffer] in
private theorem length_written (rtData : ByteBuffer) (filled : rtData.filled = header ++ data)
    (size : header.length = DataPacketHeader.size) :
    (rtData.withArray (DataPacketHeader.setDataUnitLength rtData.array length)
      DataPacketHeader.setDataUnitLength_length).filled =
        DataPacketHeader.setDataUnitLength header length ++ data := by
  have moved : (DataPacketHeader.setDataUnitLength rtData.array length).take rtData.position =
      DataPacketHeader.setDataUnitLength rtData.filled length := by
    simp only [DataPacketHeader.setDataUnitLength, List.take_set, ByteBuffer.filled]
  have high : 22 < header.length := by rw [size]; decide
  have low : 23 < (header.set 22 (UInt8.ofNat (length.toNat / 256))).length := by
    rw [List.length_set, size]
    decide
  apply moved.trans
  rw [filled, DataPacketHeader.setDataUnitLength, List.set_append_left _ _ high,
    List.set_append_left _ _ low]
  rfl

omit [LawfulByteBuffer] in
theorem finish_left {filter : Filter} (finished : filter.finish = .ok packet) :
    ByteBufferApi.remaining filter.packetRef = 1 := by
  by_cases one : ByteBufferApi.remaining filter.packetRef = 1
  · exact one
  · simp only [finish, ne_eq, one, not_false_iff, if_true] at finished
    cases finished

theorem finish_ok {filter : Filter} (ready : Ready packet filter)
    (one : ByteBufferApi.remaining filter.packetRef = 1)
    (filled : filter.rtData.filled = header ++ data)
    (size : header.length = DataPacketHeader.size) :
    ∃ result, filter.finish = .ok result ∧ result.position = 0 ∧
      result.window =
        DataPacketHeader.setDataUnitLength header (UInt16.ofNat data.length) ++ data ++
          [xorBytes ((DataPacketHeader.setDataUnitLength header (UInt16.ofNat data.length) ++
            data).drop 2)] := by
  obtain ⟨packetRef, rtData⟩ := filter
  have position : rtData.position = header.length + data.length := by
    rw [← ByteBuffer.filled_length, filled, List.length_append]
  have counted : rtData.position - DataPacketHeader.size = data.length := by omega
  have room : rtData.position < rtData.limit := by
    have behind : rtData.position ≤ packetRef.position := ready.behind
    have inside := packetRef.limit_le
    have same : packetRef.array = packet.array := ready.array
    have capacity : rtData.array.length = packet.array.length := ready.capacity
    have unlimited : rtData.limit = rtData.array.length := ready.unlimited
    have remaining : packetRef.limit - packetRef.position = 1 :=
      (LawfulByteBuffer.remaining_eq packetRef).symm.trans one
    rw [same] at inside
    omega
  have unchecked := @length_written _ _ (UInt16.ofNat data.length) rtData filled size
  have atEnd : (rtData.withArray (DataPacketHeader.setDataUnitLength rtData.array
    (UInt16.ofNat data.length)) DataPacketHeader.setDataUnitLength_length).position <
      (rtData.withArray (DataPacketHeader.setDataUnitLength rtData.array
        (UInt16.ofNat data.length)) DataPacketHeader.setDataUnitLength_length).limit := room
  simp only [finish, one, counted, ne_eq, not_true, if_false]
  generalize rtData.withArray (DataPacketHeader.setDataUnitLength rtData.array
    (UInt16.ofNat data.length)) DataPacketHeader.setDataUnitLength_length = written
    at unchecked atEnd ⊢
  have checked : (written.array.drop 2).take (written.position - 2) = written.filled.drop 2 := by
    rw [ByteBuffer.filled, List.drop_take]
  have nonempty : written.filled.drop 2 ≠ [] := by
    apply List.ne_nil_of_length_pos
    rw [unchecked, List.length_drop, List.length_append,
      DataPacketHeader.setDataUnitLength_length, size]
    unfold DataPacketHeader.size
    omega
  obtain ⟨stored, put, start, window⟩ :=
    ByteBuffer.put_flip written (xorBytes (written.filled.drop 2)) atEnd
  refine ⟨ByteBufferApi.flip stored, ?_, start, ?_⟩
  · simp only [checked, Util.generateBlockCheckCharacter_ok nonempty, bind, Except.bind, put]
    rfl
  · rw [window, unchecked]

end Filter

/-- The bytes of the packet that goes out for a frame with this header: its data
unit filtered, the length and the check byte rewritten. -/
def uploaded (header time : List UInt8) (blocks : List (List UInt8)) : List UInt8 :=
  let unchecked := DataPacketHeader.setDataUnitLength header
    (UInt16.ofNat (filtered time blocks).length) ++ filtered time blocks
  unchecked ++ [xorBytes (unchecked.drop 2)]

private theorem blocks_le_bytes (blocks : List (List UInt8)) (each : ∀ block ∈ blocks, InfoBlock block) :
    blocks.length ≤ blocks.flatten.length := by
  induction blocks with
  | nil => exact Nat.le_refl 0
  | cons block blocks ih =>
    have positive := List.length_pos_iff.mpr (each block List.mem_cons_self).ne_nil
    have later := ih fun other member => each other (List.mem_cons_of_mem _ member)
    simp only [List.length_cons, List.flatten_cons, List.length_append]
    omega

private theorem length_bytes (header : List UInt8) (size : header.length = DataPacketHeader.size)
    (length : Nat) (short : length < 65536) :
    ∃ high low : UInt8, high.toNat * 256 + low.toNat = length ∧
      DataPacketHeader.setDataUnitLength header (UInt16.ofNat length) =
        header.take 22 ++ [high, low] := by
  have exact16 : (UInt16.ofNat length).toNat = length := by
    rw [UInt16.toNat_ofNat']
    exact Nat.mod_eq_of_lt short
  refine ⟨UInt8.ofNat (length / 256), UInt8.ofNat length, ?_, ?_⟩
  · simp only [UInt8.toNat_ofNat']
    omega
  · obtain ⟨first, second, tail⟩ : ∃ first second, header.drop 22 = [first, second] := by
      apply List.length_eq_two.mp
      rw [List.length_drop, size]
      rfl
    have front : (header.take 22).length = 22 := by
      rw [List.length_take, size]
      rfl
    have whole := List.take_append_drop 22 header
    rw [tail] at whole
    rw [DataPacketHeader.setDataUnitLength, exact16, ← whole]
    simp [List.set_append_right, front]

theorem uploaded_bytes (header time : List UInt8) (blocks : List (List UInt8))
    (size : header.length = DataPacketHeader.size)
    (short : (filtered time blocks).length < 65536) :
    ∃ high low bcc : UInt8, high.toNat * 256 + low.toNat = (filtered time blocks).length ∧
      uploaded header time blocks =
        header.take 22 ++ [high, low] ++ filtered time blocks ++ [bcc] := by
  obtain ⟨high, low, counted, written⟩ := length_bytes header size _ short
  exact ⟨high, low, _, counted, by rw [uploaded, written]⟩

theorem uploaded_checkCode (header time : List UInt8) (blocks : List (List UInt8))
    (size : header.length = DataPacketHeader.size) :
    CheckCodeRight (uploaded header time blocks) := by
  unfold uploaded CheckCodeRight
  have long : 2 ≤ (DataPacketHeader.setDataUnitLength header
      (UInt16.ofNat (filtered time blocks).length) ++ filtered time blocks).length := by
    rw [List.length_append, DataPacketHeader.setDataUnitLength_length, size]
    unfold DataPacketHeader.size
    omega
  simp only [List.getLast?_append, List.getLast?_singleton, Option.some_or]
  rw [List.drop_append_of_le_length long, List.dropLast_concat]

theorem uploaded_packet {packetRef packet : ByteBuffer} (unit : DataUnit bytes time blocks)
    (capacity : packetRef.array.length = MAXPACK_LENGTH) (short : bytes.length < 65536)
    (window : packet.window =
      uploaded (packetRef.array.take DataPacketHeader.size) time blocks) :
    ∃ high low bcc : UInt8,
      packet.window = packetRef.array.take 22 ++ [high, low] ++ filtered time blocks ++ [bcc] ∧
      high.toNat * 256 + low.toNat = (filtered time blocks).length ∧
      CheckCodeRight packet.window := by
  have size : (packetRef.array.take DataPacketHeader.size).length = DataPacketHeader.size := by
    rw [List.length_take, capacity]
    rfl
  have kept := filtered_length_le unit
  obtain ⟨high, low, bcc, length, written⟩ := uploaded_bytes _ time blocks size (by omega)
  refine ⟨high, low, bcc, ?_, length, ?_⟩
  · rw [window, written, List.take_take]
    rfl
  · rw [window]
    exact uploaded_checkCode _ time blocks size

section Upload

variable [ByteBufferApi] {packetRef packet : ByteBuffer}

theorem parseUpload_add (extra : Nat) (ended : parseUpload fuel packetRef = some result) :
    parseUpload (fuel + extra) packetRef = some result := by
  unfold parseUpload at ended ⊢
  cases began : Filter.begin packetRef with
  | error exception => simpa only [began] using ended
  | ok filter =>
    simp only [began] at ended ⊢
    obtain ⟨last, looped, same⟩ := Option.map_eq_some_iff.mp ended
    rw [Filter.blocks_add extra looped, Option.map_some, same]

theorem parseDataUnitWithin_upload (self : Session) (session : TcpSession)
    (table : SessionTable Session) (fuel : Nat)
    (atUnit : session.packetRef.position = DataPacketHeader.size)
    (upload : DataPacketHeader.cmdId session.packetRef.array = CmdCode.realtimeUpload.value ∨
      DataPacketHeader.cmdId session.packetRef.array = CmdCode.reissueUpload.value) :
    parseDataUnitWithin fuel self session table =
      (parseUpload fuel session.packetRef).map fun parsed => parsed.map fun rtData =>
        ⟨some rtData, session, table, none⟩ := by
  unfold parseDataUnitWithin
  rw [if_neg (not_not_intro atUnit)]
  exact if_pos upload.symm

variable [LawfulByteBuffer]

theorem parseUpload_complete (atUnit : packetRef.position = DataPacketHeader.size)
    (small : packetRef.array.length < 65534) (unit : DataUnit bytes time blocks)
    (received : packetRef.window = bytes ++ [check]) (rounds : blocks.length ≤ fuel) :
    ∃ packet, parseUpload fuel packetRef = some (.ok packet) ∧ packet.position = 0 ∧
      packet.window = uploaded (packetRef.array.take DataPacketHeader.size) time blocks := by
  obtain ⟨header, same, ready, filled, began⟩ := Filter.begin_put atUnit
  have split : header.packetRef.window = time ++ (blocks.flatten ++ [check]) := by
    rw [same, received, unit.whole, List.append_assoc]
  obtain ⟨first, timed, moved⟩ := (Filter.put_reads TimeForward.size).complete ready
    ⟨unit.timeSize, rfl⟩ split
  obtain ⟨last, looped, rest⟩ := Filter.blocks_complete small moved.ready blocks unit.each
    (moved.unread_eq split) rounds
  have left : last.packetRef.window = [check] := rest.unread_eq (moved.unread_eq split)
  have one : ByteBufferApi.remaining last.packetRef = 1 := by
    rw [LawfulByteBuffer.remaining_eq, ← ByteBuffer.window_length, left, List.length_singleton]
  have put : last.rtData.filled =
      packetRef.array.take DataPacketHeader.size ++ filtered time blocks := by
    have output : last.rtData.filled = header.rtData.filled ++ (time ++ _) := (moved.trans rest).output
    rw [output, filled, filtered]
  have size : (packetRef.array.take DataPacketHeader.size).length = DataPacketHeader.size := by
    have inside := packetRef.position_le
    have whole := packetRef.limit_le
    rw [List.length_take]
    omega
  obtain ⟨packet, finished, start, window⟩ := Filter.finish_ok rest.ready one put size
  refine ⟨packet, ?_, start, window⟩
  simp only [parseUpload, began, timed, looped, Option.map_some, finished]

theorem parseUpload_sound (atUnit : packetRef.position = DataPacketHeader.size)
    (small : packetRef.array.length < 65534) (received : packetRef.window = bytes ++ [check])
    (accepted : parseUpload fuel packetRef = some (.ok packet)) :
    ∃ time blocks, DataUnit bytes time blocks := by
  obtain ⟨header, same, ready, filled, began⟩ := Filter.begin_put atUnit
  unfold parseUpload at accepted
  cases timed : header.put TimeForward.size with
  | error exception =>
    simp only [began, timed, Option.some.injEq] at accepted
    cases accepted
  | ok first =>
    simp only [began, timed] at accepted
    obtain ⟨outcome, looped, ended⟩ := Option.map_eq_some_iff.mp accepted
    cases outcome with
    | error exception => cases ended
    | ok last =>
      have one : ByteBufferApi.remaining last.packetRef = 1 := Filter.finish_left ended
      obtain ⟨time, kept, ⟨timeSize, rfl⟩, moved⟩ := (Filter.put_reads _).sound ready timed
      obtain ⟨blocks, each, rest, _⟩ := Filter.blocks_sound small moved.ready looped
      have input : packetRef.window = (kept ++ blocks.flatten) ++ last.packetRef.window := by
        rw [← same]
        exact (moved.trans rest).input
      rw [LawfulByteBuffer.remaining_eq, ← ByteBuffer.window_length] at one
      obtain ⟨left, shape⟩ := List.length_eq_one_iff.mp one
      rw [received, shape] at input
      exact ⟨kept, blocks, timeSize, (List.append_inj' input rfl).1, each⟩

theorem parseUpload_end (atUnit : packetRef.position = DataPacketHeader.size)
    (small : packetRef.array.length < 65534) (enough : packetRef.window.length ≤ fuel) :
    ∃ result, parseUpload fuel packetRef = some result := by
  obtain ⟨header, same, ready, filled, began⟩ := Filter.begin_put atUnit
  unfold parseUpload
  cases timed : header.put TimeForward.size with
  | error exception =>
    refine ⟨.error (Filter.rethrow exception), ?_⟩
    simp only [began, timed]
  | ok first =>
    obtain ⟨word, kept, derives, moved⟩ := (Filter.put_reads _).sound ready timed
    have shorter : first.packetRef.window.length ≤ fuel := by
      have input : header.packetRef.window = word ++ first.packetRef.window := moved.input
      rw [same] at input
      rw [input, List.length_append] at enough
      omega
    obtain ⟨outcome, looped⟩ := Filter.blocks_end small moved.ready shorter
    simp only [began, timed, looped, Option.map_some]
    exact ⟨_, rfl⟩

theorem parseUpload_unit (atUnit : packetRef.position = DataPacketHeader.size)
    (small : packetRef.array.length < 65534) (unit : DataUnit bytes time blocks)
    (received : packetRef.window = bytes ++ [check]) :
    ∃ packet, parseUpload packetRef.window.length packetRef = some (.ok packet) ∧
      packet.position = 0 ∧
      packet.window = uploaded (packetRef.array.take DataPacketHeader.size) time blocks := by
  have fewer := blocks_le_bytes blocks unit.each
  have counted : packetRef.window.length = bytes.length + 1 := by
    rw [received, List.length_append, List.length_singleton]
  have whole : bytes.length = time.length + blocks.flatten.length := by
    rw [unit.whole, List.length_append]
  exact parseUpload_complete atUnit small unit received (by omega)

/-- `parseDataUnit` on an upload frame that fits into the packet buffer: it ends,
it returns a packet exactly when the data unit is time bytes and info blocks up to
the check byte, and that packet is the frame without its blocks of types 8 and 9,
with its length and check byte made anew. -/
theorem parseDataUnit_filters (self : Session) (session : TcpSession)
    (table : SessionTable Session) (unit : List UInt8) (check : UInt8)
    (capacity : session.packetRef.array.length = MAXPACK_LENGTH)
    (atUnit : session.packetRef.position = DataPacketHeader.size)
    (upload : DataPacketHeader.cmdId session.packetRef.array = CmdCode.realtimeUpload.value ∨
      DataPacketHeader.cmdId session.packetRef.array = CmdCode.reissueUpload.value)
    (received : session.packetRef.window = unit ++ [check]) :
    ∃ outcome, parseDataUnit self session table = some outcome ∧
      (∀ fuel, unit.length + 1 ≤ fuel →
        parseDataUnitWithin fuel self session table = some outcome) ∧
      ((∃ parsed packet, outcome = .ok parsed ∧ parsed.packet = some packet) ↔
        ∃ time blocks, DataUnit unit time blocks) ∧
      ∀ time blocks, DataUnit unit time blocks →
        ∃ (packet : ByteBuffer) (high low bcc : UInt8),
          outcome = .ok ⟨some packet, session, table, none⟩ ∧ packet.position = 0 ∧
          packet.window = session.packetRef.array.take 22 ++ [high, low] ++
            filtered time blocks ++ [bcc] ∧
          high.toNat * 256 + low.toNat = (filtered time blocks).length ∧
          CheckCodeRight packet.window := by
  have small : session.packetRef.array.length < 65534 := by rw [capacity]; decide
  have counted : session.packetRef.window.length = unit.length + 1 := by
    rw [received, List.length_append, List.length_singleton]
  obtain ⟨result, ended⟩ := parseUpload_end atUnit small (Nat.le_refl _)
  have within (fuel : Nat) (enough : unit.length + 1 ≤ fuel) :
      parseDataUnitWithin fuel self session table =
        some (result.map fun rtData => ⟨some rtData, session, table, none⟩) := by
    obtain ⟨extra, rfl⟩ := Nat.le.dest enough
    rw [parseDataUnitWithin_upload self session table _ atUnit upload, ← counted,
      parseUpload_add extra ended, Option.map_some]
  have accepts {time blocks} (shape : DataUnit unit time blocks) :
      ∃ packet, result = .ok packet ∧ packet.position = 0 ∧
        packet.window = uploaded (session.packetRef.array.take DataPacketHeader.size) time blocks := by
    obtain ⟨packet, parsed, start, window⟩ := parseUpload_unit atUnit small shape received
    exact ⟨packet, Option.some.inj (ended.symm.trans parsed), start, window⟩
  refine ⟨result.map fun rtData => ⟨some rtData, session, table, none⟩, ?_, within, ⟨?_, ?_⟩, ?_⟩
  · exact within _ (Nat.le_of_eq counted.symm)
  · rintro ⟨parsed, packet, accepted, _⟩
    cases result with
    | error exception => cases accepted
    | ok packet => exact parseUpload_sound atUnit small received ended
  · rintro ⟨time, blocks, shape⟩
    obtain ⟨packet, rfl, _⟩ := accepts shape
    exact ⟨_, packet, rfl, rfl⟩
  · intro time blocks shape
    obtain ⟨packet, rfl, start, window⟩ := accepts shape
    have short : unit.length < 65536 := by
      have total := session.packetRef.position_add_window
      have inside := session.packetRef.limit_le
      omega
    obtain ⟨high, low, bcc, written, length, right⟩ := uploaded_packet shape capacity short window
    exact ⟨packet, high, low, bcc, rfl, start, written, length, right⟩

end Upload

def sampleUnit : List UInt8 := [17, 5, 16, 17, 12, 0] ++ (1 :: List.replicate 20 7) ++ [8, 255]

def sampleSession : TcpSession where
  packetRef := ⟨[35, 35, 2, 254] ++ List.replicate 17 65 ++ [1, 0, 29] ++ sampleUnit ++ [9] ++
    List.replicate 458 0, 24, 54, by decide, by decide +kernel⟩
  dataUnitLen := 29
  vin := List.replicate 17 65
  quit := false

theorem sampleUnit_dataUnit :
    DataUnit sampleUnit [17, 5, 16, 17, 12, 0] [1 :: List.replicate 20 7, [8, 255]] where
  timeSize := rfl
  whole := rfl
  each block member := by
    rcases List.mem_pair.mp member with rfl | rfl
    · exact .vehicle _ rfl
    · exact .voltage 255 [] (.none (.inl rfl)) (by simp)

theorem parseDataUnit_filters_sample :
    ∃ packet : ByteBuffer,
      @parseDataUnit ByteBuffer.reference Unit () sampleSession SessionTable.empty =
        some (.ok ⟨some packet, sampleSession, SessionTable.empty, none⟩) ∧
      packet.window.length = 52 := by
  let := ByteBuffer.reference
  have := ByteBuffer.reference_lawful
  obtain ⟨outcome, parsed, _, _, accepted⟩ := parseDataUnit_filters () sampleSession
    SessionTable.empty sampleUnit 9 (by decide +kernel) rfl (.inl rfl)
    (by decide +kernel)
  obtain ⟨packet, high, low, bcc, rfl, _, window, _⟩ := accepted _ _ sampleUnit_dataUnit
  exact ⟨packet, parsed, by rw [window]; rfl⟩

end MotorInfoUpload
