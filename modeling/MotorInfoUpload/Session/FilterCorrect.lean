import MotorInfoUpload.Grammar.Reader
import MotorInfoUpload.Session.ParseDataUnit
import MotorInfoUpload.Session.InfoBlock

namespace MotorInfoUpload

open Grammar

namespace Filter

/-- The states of the filter on one packet: the packet's memory and limit stay,
`rtData` has the same capacity and never gets ahead of the packet. -/
structure Ready (packet : ByteBuffer) (filter : Filter) : Prop where
  array : filter.packetRef.array = packet.array
  limit : filter.packetRef.limit = packet.limit
  capacity : filter.rtData.array.length = packet.array.length
  unlimited : filter.rtData.limit = filter.rtData.array.length
  behind : filter.rtData.position ≤ filter.packetRef.position

/-- The packet's unread bytes are the input, the bytes put into `rtData` the output. -/
def tape (packet : ByteBuffer) : Tape Filter UInt8 where
  unread filter := filter.packetRef.window
  output filter := filter.rtData.filled
  ready := Ready packet

def Then (first second : List UInt8 → Prop) (word : List UInt8) : Prop :=
  ∃ head tail, first head ∧ second tail ∧ word = head ++ tail

/-- Words copied to the output whole, and words dropped whole. -/
def Copies (grammar : List UInt8 → Prop) : Rule UInt8 := fun word kept => grammar word ∧ kept = word

def Drops (grammar : List UInt8 → Prop) : Rule UInt8 := fun word kept => grammar word ∧ kept = []

theorem copies_seq (first second : List UInt8 → Prop) (word kept : List UInt8) :
    Seq (Copies first) (Copies second) word kept ↔ Copies (Then first second) word kept := by
  constructor
  · rintro ⟨⟨head, rfl⟩, ⟨tail, rfl⟩⟩
    exact ⟨⟨_, _, head, tail, rfl⟩, rfl⟩
  · rintro ⟨⟨head, tail, isHead, isTail, rfl⟩, rfl⟩
    exact .mk ⟨isHead, rfl⟩ ⟨isTail, rfl⟩

theorem subsystemNumber_ok (message : String) (s : UInt8) (count : Nat) :
    subsystemNumber message s = .ok count ↔ Announces s count := by
  unfold subsystemNumber
  constructor
  · intro accepted
    split at accepted
    · rename_i marked
      cases accepted
      exact .none marked
    · rename_i unmarked
      split at accepted
      · cases accepted
      · cases accepted
        exact .some unmarked (by omega) (by omega)
  · intro announced
    cases announced with
    | none marked => rw [if_pos marked]
    | some unmarked lower upper => rw [if_neg unmarked, if_neg (by omega)]

theorem rep_drops (grammar : List UInt8 → Prop) (count : Nat) (word kept : List UInt8) :
    Rep (Drops grammar) count word kept ↔
      Drops (fun word => ∃ subsystems : List (List UInt8), subsystems.length = count ∧
        (∀ subsystem ∈ subsystems, grammar subsystem) ∧ word = subsystems.flatten) word kept := by
  constructor
  · intro derives
    induction derives with
    | nil => exact ⟨⟨[], rfl, by simp, rfl⟩, rfl⟩
    | cons head tail ih =>
      obtain ⟨derives, rfl⟩ := head
      obtain ⟨⟨subsystems, length, each, rfl⟩, rfl⟩ := ih
      refine ⟨⟨_ :: subsystems, by rw [List.length_cons, length], ?_, rfl⟩, rfl⟩
      intro subsystem member
      rcases List.mem_cons.mp member with same | later
      · exact same ▸ derives
      · exact each subsystem later
  · rintro ⟨⟨subsystems, rfl, each, rfl⟩, rfl⟩
    induction subsystems with
    | nil => exact .nil
    | cons first later ih =>
      have tail := ih fun subsystem member => each subsystem (List.mem_cons_of_mem _ member)
      have head : Drops grammar first [] := ⟨each first List.mem_cons_self, rfl⟩
      simpa using Rep.cons head tail

def IsSubsystems (subsystem : List UInt8 → Prop) (word : List UInt8) : Prop :=
  ∃ (typ s : UInt8) (subsystems : List (List UInt8)), Announces s subsystems.length ∧
    (∀ each ∈ subsystems, subsystem each) ∧ word = typ :: s :: subsystems.flatten

private theorem subsystems_word (subsystem : List UInt8 → Prop) (message : String)
    (word kept : List UInt8) :
    Seq (Drops fun word => word.length = 1)
      (fun word kept => ∃ s, Seq (Drops fun word => word = [s])
        (fun word kept => ∃ sysn, subsystemNumber message s = .ok sysn ∧
          Rep (Drops subsystem) sysn word kept) word kept) word kept ↔
      Drops (IsSubsystems subsystem) word kept := by
  simp only [rep_drops, subsystemNumber_ok]
  constructor
  · rintro ⟨⟨one, rfl⟩, ⟨s, ⟨⟨rfl, rfl⟩, ⟨sysn, announced, ⟨subsystems, rfl, each, rfl⟩, rfl⟩⟩⟩⟩
    obtain ⟨typ, rfl⟩ := List.length_eq_one_iff.mp one
    exact ⟨⟨typ, s, subsystems, announced, each, rfl⟩, rfl⟩
  · rintro ⟨⟨typ, s, subsystems, announced, each, rfl⟩, rfl⟩
    have size : [typ].length = 1 := rfl
    exact .of ⟨size, rfl⟩ ⟨s, .of ⟨rfl, rfl⟩
      ⟨_, announced, ⟨subsystems, rfl, each, rfl⟩, rfl⟩ rfl rfl⟩ rfl rfl

variable {packet : ByteBuffer} {filter : Filter}

theorem Ready.space (ready : Ready packet filter)
    (given : filter.packetRef.position + count ≤ filter.packetRef.limit) :
    filter.rtData.position + (filter.packetRef.window.take count).length ≤ filter.rtData.limit := by
  have behind := ready.behind
  have inside := filter.packetRef.limit_le
  rw [ready.array] at inside
  rw [ready.unlimited, ready.capacity, List.length_take, ByteBuffer.window_length]
  omega

theorem Ready.advance {packetRef rtData : ByteBuffer} (ready : Ready packet ⟨packetRef, rtData⟩)
    (given : packetRef.position + count ≤ packetRef.limit) :
    Ready packet ⟨packetRef.advance count given, rtData⟩ where
  array := ready.array
  limit := ready.limit
  capacity := ready.capacity
  unlimited := ready.unlimited
  behind := Nat.le_trans ready.behind (Nat.le_add_right _ _)

private theorem window_split (buffer : ByteBuffer) (room : buffer.position + count ≤ buffer.limit) :
    buffer.window = buffer.window.take count ++ (buffer.advance count room).window := by
  rw [ByteBuffer.advance_window, List.take_append_drop]

private theorem moved_drop (ready : Ready packet filter)
    (given : filter.packetRef.position + count ≤ filter.packetRef.limit) :
    Moved (tape packet) filter ⟨filter.packetRef.advance count given, filter.rtData⟩
      (filter.packetRef.window.take count) [] where
  input := window_split _ given
  output := (List.append_nil _).symm
  ready := ready.advance given

private theorem moved_copy (ready : Ready packet filter)
    (given : filter.packetRef.position + count ≤ filter.packetRef.limit) :
    Moved (tape packet) filter
      ⟨filter.packetRef.advance count given,
        filter.rtData.store (filter.packetRef.window.take count) (ready.space given)⟩
      (filter.packetRef.window.take count) (filter.packetRef.window.take count) where
  input := window_split _ given
  output := ByteBuffer.store_filled _ (ready.space given)
  ready := by
    have fits : filter.rtData.position + (filter.packetRef.window.take count).length ≤
        filter.rtData.array.length := by rw [← ready.unlimited]; exact ready.space given
    refine ⟨ready.array, ready.limit, ?_, ?_, ?_⟩
    · exact (ByteBuffer.splice_length fits).trans ready.capacity
    · exact ready.unlimited.trans (ByteBuffer.splice_length fits).symm
    · have behind := ready.behind
      simp only [ByteBuffer.store, ByteBuffer.advance, List.length_take]
      omega

private theorem room_of_split {word rest : List UInt8} (split : filter.packetRef.window = word ++ rest) :
    filter.packetRef.position + word.length ≤ filter.packetRef.limit := by
  have total := filter.packetRef.position_add_window
  rw [split, List.length_append] at total
  omega

private theorem taken (buffer : ByteBuffer) (room : buffer.position + count ≤ buffer.limit) :
    (buffer.window.take count).length = count := by
  rw [List.length_take, ByteBuffer.window_length]
  omega

private theorem head_of_window (buffer : ByteBuffer) (more : buffer.position < buffer.limit)
    (split : buffer.window = byte :: rest) :
    buffer.byteAt buffer.position more = byte := by
  have shown := buffer.window_cons more
  rw [split] at shown
  exact ((List.cons.inj shown).1).symm

private theorem starts (moved : Moved (tape packet) before after word kept)
    (split : before.packetRef.window = typ :: rest) (nonempty : word ≠ []) :
    ∃ data, word = typ :: data := by
  cases word with
  | nil => exact absurd rfl nonempty
  | cons first data =>
    have input : before.packetRef.window = first :: (data ++ (tape packet).unread after) :=
      moved.input
    rw [split] at input
    exact ⟨data, by rw [(List.cons.inj input).1]⟩

variable [ByteBufferApi] [LawfulByteBuffer]

theorem put_reads (count : Nat) :
    Reads (tape packet) (Copies fun word => word.length = count) (put count) where
  sound {before after} ready success := by
    by_cases given : before.packetRef.position + count ≤ before.packetRef.limit
    · have computed := LawfulByteBuffer.putBuffer_room before.rtData before.packetRef given
        (ready.space given)
      simp only [put, computed, Except.ok.injEq] at success
      subst success
      exact ⟨_, _, ⟨taken _ given, rfl⟩, moved_copy ready given⟩
    · obtain ⟨what, failed⟩ := LawfulByteBuffer.putBuffer_underflow before.rtData before.packetRef
        (Nat.lt_of_not_le given)
      simp only [put, failed] at success
      cases success
  complete {before word kept rest} ready derives split := by
    obtain ⟨rfl, rfl⟩ := derives
    have given := room_of_split split
    have same : before.packetRef.window.take kept.length = kept := by
      rw [show before.packetRef.window = kept ++ rest from split, List.take_left']
      rfl
    have moved := moved_copy ready given
    refine ⟨_, ?_, by simpa only [same] using moved⟩
    simp only [put, LawfulByteBuffer.putBuffer_room before.rtData before.packetRef given
      (ready.space given), same]

theorem movePosition_reads (count : Nat) :
    Reads (tape packet) (Drops fun word => word.length = count) (movePosition count) where
  sound {before after} ready success := by
    by_cases given : before.packetRef.position + count ≤ before.packetRef.limit
    · simp only [movePosition, LawfulByteBuffer.move_forward before.packetRef given,
        Except.ok.injEq] at success
      subst success
      exact ⟨_, _, ⟨taken _ given, rfl⟩, moved_drop ready given⟩
    · obtain ⟨what, failed⟩ := LawfulByteBuffer.move_overflow before.packetRef
        (Nat.lt_of_not_le given)
      simp only [movePosition, failed] at success
      cases success
  complete {before word kept rest} ready derives split := by
    obtain ⟨rfl, rfl⟩ := derives
    have given := room_of_split split
    have same : before.packetRef.window.take word.length = word := by
      rw [show before.packetRef.window = word ++ rest from split, List.take_left']
      rfl
    have moved := moved_drop ready given
    refine ⟨_, ?_, by simpa only [same] using moved⟩
    simp only [movePosition, LawfulByteBuffer.move_forward before.packetRef given]

theorem peek_head (filter : Filter) (split : filter.packetRef.window = byte :: rest) :
    filter.peek = .ok byte := by
  have more : filter.packetRef.position < filter.packetRef.limit :=
    room_of_split (show filter.packetRef.window = [byte] ++ rest from split)
  simp only [peek, LawfulByteBuffer.getAt_read filter.packetRef more,
    head_of_window filter.packetRef more split]

theorem get_reads : ReadsValue (tape packet) (fun byte => Drops fun word => word = [byte]) get where
  sound {before value after} ready success := by
    by_cases more : before.packetRef.position < before.packetRef.limit
    · simp only [get, LawfulByteBuffer.get_read before.packetRef more, Except.ok.injEq,
        Prod.mk.injEq] at success
      obtain ⟨same, rfl⟩ := success
      have moved := moved_drop ready (show before.packetRef.position + 1 ≤ _ from more)
      rw [before.packetRef.window_cons more, same, List.take_succ_cons, List.take_zero] at moved
      exact ⟨_, _, ⟨rfl, rfl⟩, moved⟩
    · obtain ⟨what, failed⟩ := LawfulByteBuffer.get_underflow before.packetRef
        (Nat.le_of_not_lt more)
      simp only [get, failed] at success
      cases success
  complete {before value word kept rest} ready derives split := by
    obtain ⟨rfl, rfl⟩ := derives
    have more := room_of_split split
    have moved := moved_drop ready (show before.packetRef.position + 1 ≤ _ from more)
    have first : before.packetRef.window = value :: rest := split
    rw [first, List.take_succ_cons, List.take_zero] at moved
    refine ⟨_, ?_, moved⟩
    simp only [get, LawfulByteBuffer.get_read before.packetRef more,
      head_of_window before.packetRef more first]

/-- Two bytes, dropped; the value read is their big-endian number. -/
theorem getShort_reads : ReadsValue (tape packet)
    (fun value => Drops fun word => ∃ high low : UInt8, word = [high, low] ∧
      value = high.toNat * 256 + low.toNat) getShort where
  sound {before value after} ready success := by
    by_cases room : before.packetRef.position + 2 ≤ before.packetRef.limit
    · obtain ⟨short, loaded, meaning⟩ := LawfulByteBuffer.getShort_read before.packetRef room
      simp only [getShort, loaded, Except.ok.injEq, Prod.mk.injEq] at success
      obtain ⟨same, rfl⟩ := success
      have moved := moved_drop ready room
      have first := before.packetRef.window_cons (by omega)
      have second := (before.packetRef.advance 1 (by omega)).window_cons room
      rw [ByteBuffer.advance_window] at second
      rw [first, second, List.take_succ_cons, List.take_succ_cons, List.take_zero] at moved
      exact ⟨_, _, ⟨⟨_, _, rfl, same.symm.trans meaning⟩, rfl⟩, moved⟩
    · obtain ⟨what, failed⟩ := LawfulByteBuffer.getShort_underflow before.packetRef
        (Nat.lt_of_not_le room)
      simp only [getShort, failed] at success
      cases success
  complete {before value word kept rest} ready derives split := by
    obtain ⟨⟨high, low, rfl, rfl⟩, rfl⟩ := derives
    have room : before.packetRef.position + 2 ≤ before.packetRef.limit := room_of_split split
    obtain ⟨short, loaded, meaning⟩ := LawfulByteBuffer.getShort_read before.packetRef room
    have moved := moved_drop ready room
    have first : before.packetRef.window = high :: low :: rest := split
    have second : (before.packetRef.advance 1 (by omega)).window = low :: rest := by
      rw [ByteBuffer.advance_window, first, List.drop_succ_cons, List.drop_zero]
    have lowRead : before.packetRef.byteAt (before.packetRef.position + 1) (by omega) = low :=
      head_of_window (before.packetRef.advance 1 (by omega)) room second
    rw [head_of_window _ (by omega) first, lowRead] at meaning
    rw [first, List.take_succ_cons, List.take_succ_cons, List.take_zero] at moved
    refine ⟨_, ?_, moved⟩
    simp only [getShort, loaded, meaning]

theorem putFaults_reads : Reads (tape packet) (Copies FaultList) putFaults where
  sound {before after} ready success := by
    obtain ⟨n, looked, ended⟩ := bind_ok success
    obtain ⟨word, kept, ⟨size, rfl⟩, moved⟩ := (put_reads _).sound ready ended
    cases kept with
    | nil =>
      simp only [List.length_nil] at size
      omega
    | cons first codes =>
      have split : before.packetRef.window = first :: (codes ++ (tape packet).unread after) :=
        moved.input
      have same : n = first := Except.ok.inj (looked.symm.trans (peek_head before split))
      subst same
      refine ⟨_, _, ⟨.mk n codes ?_, rfl⟩, moved⟩
      rw [List.length_cons] at size
      unfold faultCount
      omega
  complete {before word kept rest} ready derives split := by
    obtain ⟨⟨n, codes, counted⟩, rfl⟩ := derives
    have looked := peek_head before split
    have size : (n :: codes).length = 1 + faultCount n * 4 := by
      rw [List.length_cons, counted]
      omega
    obtain ⟨after, ended, moved⟩ := (put_reads (1 + faultCount n * 4)).complete ready ⟨size, rfl⟩ split
    refine ⟨after, ?_, moved⟩
    unfold putFaults
    rw [looked]
    exact ended

def IsAlarm : List UInt8 → Prop :=
  Then (fun word => word.length = 6) (Then FaultList (Then FaultList (Then FaultList FaultList)))

theorem putAlarm_reads : Reads (tape packet) (Copies IsAlarm) putAlarm := by
  have three := ((@putFaults_reads packet _ _).seq putFaults_reads).iff (copies_seq _ _)
  have two := (putFaults_reads.seq three).iff (copies_seq _ _)
  have one := (putFaults_reads.seq two).iff (copies_seq _ _)
  exact ((put_reads 6).seq one).iff (copies_seq _ _)

theorem skipVoltage_reads : Reads (tape packet) (Drops VoltageSubsystem) skipVoltage := by
  have reads := (@movePosition_reads packet _ _ 9).seq (get_reads.seq fun m =>
    (movePosition_reads (2 * m.toNat)).refuse (m.toNat < 1 ∨ 200 < m.toNat)
      (.runtime ("invalid 本帧单体电池总数: " ++ toString m.toNat)))
  refine Reads.congr (reads.iff fun word kept => ⟨?_, ?_⟩) fun filter => ?_
  · rintro ⟨⟨headSize, rfl⟩, ⟨m, ⟨rfl, rfl⟩, ⟨good, counted, rfl⟩⟩⟩
    exact ⟨.mk _ m _ headSize (by omega) (by omega) counted, rfl⟩
  · rintro ⟨⟨head, m, cells, headSize, lower, upper, counted⟩, rfl⟩
    exact .of ⟨headSize, rfl⟩ ⟨m, .of ⟨rfl, rfl⟩ ⟨by omega, counted, rfl⟩ rfl rfl⟩ rfl rfl
  · rfl

theorem skipVoltages_reads (sysn : Nat) :
    Reads (tape packet) (Rep (Drops VoltageSubsystem) sysn) (skipVoltages sysn) := by
  refine (skipVoltage_reads.iterate sysn).congr fun filter => ?_
  induction sysn generalizing filter with
  | zero => rfl
  | succ sysn ih =>
    simp only [skipVoltages, iterate]
    congr 1
    funext next
    exact ih next

theorem skipVoltageBlock_reads :
    Reads (tape packet) (Drops (IsSubsystems VoltageSubsystem)) skipVoltageBlock := by
  have reads := (@movePosition_reads packet _ _ 1).seq (get_reads.seq fun s =>
    Reads.compute (subsystemNumber "invalid 可充电储能电压子系统个数: " s) skipVoltages_reads)
  exact (reads.iff (subsystems_word _ _)).congr fun _ => rfl

/-- A marked probe number asks to skip more bytes than any packet holds, so
whatever the loop does next is never reached. -/
private theorem marked_fails (small : packet.array.length < 65534) (ready : Ready packet filter)
    (marked : m = 0xffff ∨ m = 0xfffe) : filter.movePosition m ≠ .ok after := by
  intro success
  obtain ⟨word, kept, ⟨size, _⟩, moved⟩ := (movePosition_reads m).sound ready success
  have length := filter.packetRef.window_length
  have inside := filter.packetRef.limit_le
  have input : filter.packetRef.window = word ++ (tape packet).unread after := moved.input
  rw [input, List.length_append] at length
  rw [ready.array] at inside
  omega

private theorem probes_read (small : packet.array.length < 65534)
    {marked rest : Filter → Except Exception Filter}
    (reads : Reads (tape packet) (Rep (Drops TemperatureSubsystem) rounds) rest) (m : Nat) :
    Reads (tape packet) (fun word kept => (1 ≤ m ∧ m ≤ 65531) ∧
        Seq (Drops fun word => word.length = m) (Rep (Drops TemperatureSubsystem) rounds) word kept)
      (fun filter =>
        if m = 0xffff ∨ m = 0xfffe then filter.movePosition m >>= marked
        else if m < 1 ∨ 65531 < m then
          .error (.runtime ("invalid 可充电储能温度探针个数: " ++ toString m))
        else filter.movePosition m >>= rest) where
  sound {before after} ready success := by
    split at success
    · rename_i isMarked
      obtain ⟨middle, moved, _⟩ := bind_ok success
      exact absurd moved (marked_fails small ready isMarked)
    · split at success
      · cases success
      · rename_i inRange
        obtain ⟨word, kept, derives, moved⟩ := ((movePosition_reads m).seq reads).sound ready success
        exact ⟨word, kept, ⟨⟨by omega, by omega⟩, derives⟩, moved⟩
  complete {before word kept left} ready derives split := by
    obtain ⟨⟨lower, upper⟩, derives⟩ := derives
    obtain ⟨after, ended, moved⟩ := ((movePosition_reads m).seq reads).complete ready derives split
    refine ⟨after, ?_, moved⟩
    rw [if_neg (by omega), if_neg (by omega)]
    exact ended

theorem skipTemperatures_reads (small : packet.array.length < 65534) (rounds i : Nat) :
    Reads (tape packet) (Rep (Drops TemperatureSubsystem) rounds)
      (skipTemperatures rounds i (i + rounds)) := by
  induction rounds generalizing i with
  | zero => exact Reads.skip
  | succ rounds ih =>
    have rest : Reads (tape packet) (Rep (Drops TemperatureSubsystem) rounds)
        (skipTemperatures rounds (i + 1) (i + (rounds + 1))) := by
      rw [show i + (rounds + 1) = i + 1 + rounds by omega]
      exact ih (i + 1)
    have reads := (@movePosition_reads packet _ _ 1).seq (getShort_reads.seq
      (@probes_read packet _ _ rounds small (skipTemperatures rounds (i + 1) 0) _ rest))
    refine Reads.congr (reads.iff fun word kept => ⟨?_, ?_⟩) fun filter => ?_
    · rintro ⟨⟨one, rfl⟩, ⟨m, ⟨⟨high, low, rfl, rfl⟩, rfl⟩, ⟨⟨lower, upper⟩, ⟨⟨counted, rfl⟩, tail⟩⟩⟩⟩
      obtain ⟨number, rfl⟩ := List.length_eq_one_iff.mp one
      have head : Drops TemperatureSubsystem (number :: high :: low :: _) [] :=
        ⟨.mk number high low _ lower upper counted, rfl⟩
      have whole := Rep.cons head tail
      exact whole
    · intro derives
      cases derives with
      | cons head tail =>
        obtain ⟨⟨number, high, low, probes, lower, upper, counted⟩, rfl⟩ := head
        have one : [number].length = 1 := rfl
        exact .of ⟨one, rfl⟩ ⟨_, .of ⟨⟨high, low, rfl, rfl⟩, rfl⟩
          ⟨⟨lower, upper⟩, .of ⟨counted, rfl⟩ tail rfl rfl⟩ rfl rfl⟩ rfl rfl
    · rw [skipTemperatures, if_pos (by omega)]
      rfl

theorem skipTemperatureBlock_reads (small : packet.array.length < 65534) :
    Reads (tape packet) (Drops (IsSubsystems TemperatureSubsystem)) skipTemperatureBlock := by
  have loop (sysn : Nat) := skipTemperatures_reads small sysn 0
  simp only [Nat.zero_add] at loop
  have reads := (@movePosition_reads packet _ _ 1).seq (get_reads.seq fun s =>
    Reads.compute (subsystemNumber "invalid 可充电储能温度子系统个数: " s) loop)
  exact (reads.iff (subsystems_word _ _)).congr fun _ => rfl

def Info : Rule UInt8 := fun word kept =>
  InfoBlock word ∧ kept = if forwarded word then word else []

private theorem put_block (ready : Ready packet before)
    (split : before.packetRef.window = typ :: rest)
    (success : before.put (size + 1) = .ok after)
    (block : ∀ data : List UInt8, data.length = size → InfoBlock (typ :: data))
    (kind : ∀ data, forwarded (typ :: data) = true) :
    ∃ word kept, Info word kept ∧ Moved (tape packet) before after word kept := by
  obtain ⟨word, kept, ⟨length, rfl⟩, moved⟩ := (put_reads (size + 1)).sound ready success
  obtain ⟨data, rfl⟩ := starts moved split (List.ne_nil_of_length_eq_add_one length)
  have counted : data.length = size := by simpa using length
  exact ⟨_, _, ⟨block data counted, by rw [if_pos (kind data)]⟩, moved⟩

open VehicleDataStructInfo in
private theorem switch_sound (small : packet.array.length < 65534) (ready : Ready packet before)
    (split : before.packetRef.window = typ :: rest) (success : before.switch typ = .ok after) :
    ∃ word kept, Info word kept ∧ Moved (tape packet) before after word kept := by
  unfold switch at success
  by_cases vehicle : typ = CBV_typeCode
  · subst vehicle
    exact put_block ready split success (fun data => .vehicle data) (fun _ => rfl)
  rw [if_neg vehicle] at success
  by_cases motor : typ = DM_typeCode
  · subst motor
    exact put_block ready split success (fun data => .motor data) (fun _ => rfl)
  rw [if_neg motor] at success
  by_cases location : typ = L_typeCode
  · subst location
    exact put_block ready split success (fun data => .location data) (fun _ => rfl)
  rw [if_neg location] at success
  by_cases extreme : typ = EV_typeCode
  · subst extreme
    exact put_block ready split success (fun data => .extreme data) (fun _ => rfl)
  rw [if_neg extreme] at success
  by_cases alarm : typ = A_typeCode
  · subst alarm
    rw [if_pos rfl] at success
    obtain ⟨word, kept, ⟨derives, rfl⟩, moved⟩ := putAlarm_reads.sound ready success
    obtain ⟨six, tail, size, ⟨battery, tail₂, isBattery, ⟨motors, tail₃, isMotor,
      ⟨engine, other, isEngine, isOther, rfl⟩, rfl⟩, rfl⟩, rfl⟩ := derives
    have nonempty : six ≠ [] := List.ne_nil_of_length_eq_add_one size
    obtain ⟨data, shape⟩ := starts moved split (by simp [nonempty])
    obtain ⟨first, head, rfl⟩ := List.exists_cons_of_ne_nil nonempty
    rw [List.cons_append] at shape
    obtain ⟨rfl, rfl⟩ := List.cons.inj shape
    have block := InfoBlock.alarm head (by simpa using size) isBattery isMotor isEngine isOther
    refine ⟨_, _, ⟨?_, (if_pos rfl).symm⟩, moved⟩
    simpa [A_typeCode] using block
  rw [if_neg alarm] at success
  by_cases voltage : typ = RESV_typeCode
  · subst voltage
    rw [if_pos rfl] at success
    obtain ⟨word, kept, ⟨⟨first, s, subsystems, announced, each, rfl⟩, rfl⟩, moved⟩ :=
      skipVoltageBlock_reads.sound ready success
    obtain ⟨data, shape⟩ := starts moved split (List.cons_ne_nil _ _)
    obtain ⟨rfl, rfl⟩ := List.cons.inj shape
    have dropped : ¬ forwarded (8 :: s :: subsystems.flatten) = true := by simp [forwarded]
    exact ⟨_, _, ⟨.voltage s subsystems announced each, (if_neg dropped).symm⟩, moved⟩
  rw [if_neg voltage] at success
  by_cases temperature : typ = REST_typeCode
  · subst temperature
    rw [if_pos rfl] at success
    obtain ⟨word, kept, ⟨⟨first, s, subsystems, announced, each, rfl⟩, rfl⟩, moved⟩ :=
      (skipTemperatureBlock_reads small).sound ready success
    obtain ⟨data, shape⟩ := starts moved split (List.cons_ne_nil _ _)
    obtain ⟨rfl, rfl⟩ := List.cons.inj shape
    have dropped : ¬ forwarded (9 :: s :: subsystems.flatten) = true := by simp [forwarded]
    exact ⟨_, _, ⟨.temperature s subsystems announced each, (if_neg dropped).symm⟩, moved⟩
  rw [if_neg temperature] at success
  cases success

private theorem block_of_switch {before after : Filter} (split : before.packetRef.window = typ :: rest)
    (success : before.switch typ = .ok after) : before.block = .ok after := by
  unfold block
  rw [peek_head before split]
  exact success

theorem block_complete {before : Filter} (small : packet.array.length < 65534)
    (ready : Ready packet before)
    (derives : Info word kept) (split : before.packetRef.window = word ++ rest) :
    ∃ after, before.block = .ok after ∧ Moved (tape packet) before after word kept := by
  obtain ⟨block, rfl⟩ := derives
  cases block with
  | vehicle data size =>
    obtain ⟨after, ended, moved⟩ := (put_reads 21).complete ready ⟨congrArg (· + 1) size, rfl⟩ split
    exact ⟨after, block_of_switch split ended, moved⟩
  | motor data size =>
    obtain ⟨after, ended, moved⟩ := (put_reads 14).complete ready ⟨congrArg (· + 1) size, rfl⟩ split
    exact ⟨after, block_of_switch split ended, moved⟩
  | location data size =>
    obtain ⟨after, ended, moved⟩ := (put_reads 10).complete ready ⟨congrArg (· + 1) size, rfl⟩ split
    exact ⟨after, block_of_switch split ended, moved⟩
  | extreme data size =>
    obtain ⟨after, ended, moved⟩ := (put_reads 15).complete ready ⟨congrArg (· + 1) size, rfl⟩ split
    exact ⟨after, block_of_switch split ended, moved⟩
  | @alarm battery motors engine other head size isBattery isMotor isEngine isOther =>
    have isAlarm : IsAlarm (7 :: (head ++ battery ++ motors ++ engine ++ other)) :=
      ⟨7 :: head, _, congrArg (· + 1) size, ⟨battery, _, isBattery, ⟨motors, _, isMotor,
        ⟨engine, other, isEngine, isOther, rfl⟩, rfl⟩, rfl⟩, by simp⟩
    obtain ⟨after, ended, moved⟩ := putAlarm_reads.complete ready ⟨isAlarm, rfl⟩ split
    exact ⟨after, block_of_switch split ended, moved⟩
  | voltage s subsystems announced each =>
    obtain ⟨after, ended, moved⟩ := skipVoltageBlock_reads.complete ready
      ⟨⟨8, s, subsystems, announced, each, rfl⟩, rfl⟩ split
    exact ⟨after, block_of_switch split ended, moved⟩
  | temperature s subsystems announced each =>
    obtain ⟨after, ended, moved⟩ := (skipTemperatureBlock_reads small).complete ready
      ⟨⟨9, s, subsystems, announced, each, rfl⟩, rfl⟩ split
    exact ⟨after, block_of_switch split ended, moved⟩

theorem block_sound {before after : Filter} (small : packet.array.length < 65534)
    (ready : Ready packet before)
    (more : before.packetRef.window ≠ []) (success : before.block = .ok after) :
    ∃ word kept, Info word kept ∧ Moved (tape packet) before after word kept := by
  obtain ⟨typ, rest, split⟩ := List.exists_cons_of_ne_nil more
  obtain ⟨looked, peeked, switched⟩ := bind_ok success
  have same : looked = typ := Except.ok.inj (peeked.symm.trans (peek_head before split))
  subst same
  exact switch_sound small ready split switched

end Filter

end MotorInfoUpload
