import MotorInfoUpload.Session.UploadFilter
import Mathlib.Algebra.GroupWithZero.Nat

/-! Temperature subsystems whose probe number is one of the two markers for "abnormal"
and "invalid". Counted as no probes, as the markers are in every other count field,
they would be subsystems of three bytes; the filter takes a packet with such a
subsystem only if there is none. -/

namespace MotorInfoUpload

open Grammar

/-- A subsystem with a marked probe number and no probes. -/
inductive MarkedSubsystem : List UInt8 → Prop where
  | mk (number low : UInt8) (marked : low = 0xff ∨ low = 0xfe) : MarkedSubsystem [number, 0xff, low]

/-- The probes of a subsystem: none where their number is marked. -/
def probeCount : List UInt8 → Nat
  | _ :: high :: low :: _ =>
    let m := high.toNat * 256 + low.toNat
    if m = 0xffff ∨ m = 0xfffe then 0 else m
  | _ => 0

/-- A type-9 block in which probe numbers may be marked. -/
structure ProbeBlock (s : UInt8) (subsystems : List (List UInt8)) : Prop where
  counted : Announces s subsystems.length
  each : ∀ subsystem ∈ subsystems, TemperatureSubsystem subsystem ∨ MarkedSubsystem subsystem

inductive MarkableBlock : List UInt8 → Prop where
  | info (block : InfoBlock bytes) : MarkableBlock bytes
  | temperature (shape : ProbeBlock s subsystems) : MarkableBlock (9 :: s :: subsystems.flatten)

/-- A type-9 block with a marked probe number. -/
def CarriesMark (block : List UInt8) : Prop :=
  ∃ s subsystems, ProbeBlock s subsystems ∧ (∃ subsystem ∈ subsystems, MarkedSubsystem subsystem) ∧
    block = 9 :: s :: subsystems.flatten

/-- A data unit that is well formed when marked probe numbers count as none. -/
structure MarkableUnit (bytes time : List UInt8) (blocks : List (List UInt8)) : Prop where
  timeSize : time.length = 6
  whole : bytes = time ++ blocks.flatten
  each : ∀ block ∈ blocks, MarkableBlock block

theorem announces_unique (first : Announces s count) (second : Announces s other) :
    count = other := by
  cases first with
  | none marked =>
    cases second with
    | none _ => rfl
    | some unmarked _ _ => exact absurd marked unmarked
  | some unmarked _ _ =>
    cases second with
    | none marked => exact absurd marked unmarked
    | some _ _ _ => rfl

theorem TemperatureSubsystem.length (plain : TemperatureSubsystem subsystem) :
    subsystem.length = 3 + probeCount subsystem := by
  obtain ⟨number, high, low, probes, lower, upper, counted⟩ := plain
  have unmarked : ¬ (high.toNat * 256 + low.toNat = 0xffff ∨
      high.toNat * 256 + low.toNat = 0xfffe) := by omega
  simp only [probeCount, if_neg unmarked, List.length_cons, counted]
  omega

theorem MarkedSubsystem.length (marked : MarkedSubsystem subsystem) :
    subsystem.length = 3 + probeCount subsystem := by
  obtain ⟨number, low, rfl | rfl⟩ := marked
  · rfl
  · rfl

/-- The length that a block has if a marked number counts as none. -/
theorem ProbeBlock.length (shape : ProbeBlock s subsystems) :
    (9 :: s :: subsystems.flatten).length =
      2 + (subsystems.map fun subsystem => 3 + probeCount subsystem).sum := by
  have each := shape.each
  have total : subsystems.flatten.length =
      (subsystems.map fun subsystem => 3 + probeCount subsystem).sum := by
    rw [List.length_flatten]
    congr 1
    apply List.map_congr_left
    intro subsystem member
    rcases each subsystem member with plain | marked
    · exact plain.length
    · exact marked.length
  simp only [List.length_cons, total]
  omega

private theorem not_marked (plain : TemperatureSubsystem subsystem) : ¬ MarkedSubsystem subsystem := by
  intro marked
  obtain ⟨number, low, isMarked⟩ := marked
  obtain ⟨_, _, _, _, lower, upper, counted⟩ := plain
  rcases isMarked with rfl | rfl
  · simp at upper
  · simp at upper

private theorem subsystem_unique (plain : TemperatureSubsystem first)
    (second : TemperatureSubsystem other ∨ MarkedSubsystem other)
    (same : first ++ rest = other ++ left) : first = other := by
  obtain ⟨number, high, low, probes, lower, upper, counted⟩ := plain
  rcases second with temperature | marked
  · obtain ⟨number', high', low', probes', lower', upper', counted'⟩ := temperature
    simp only [List.cons_append, List.cons.injEq] at same
    obtain ⟨rfl, rfl, rfl, probesSame⟩ := same
    have equal := (List.append_inj probesSame (counted.trans counted'.symm)).1
    rw [equal]
  · obtain ⟨number', low', isMarked⟩ := marked
    simp only [List.cons_append, List.cons.injEq] at same
    obtain ⟨rfl, rfl, rfl, -⟩ := same
    rcases isMarked with rfl | rfl
    · simp at upper
    · simp at upper

private theorem subsystems_unique {plain markable : List (List UInt8)}
    (size : plain.length = markable.length)
    (each : ∀ subsystem ∈ plain, TemperatureSubsystem subsystem)
    (others : ∀ subsystem ∈ markable, TemperatureSubsystem subsystem ∨ MarkedSubsystem subsystem)
    (same : plain.flatten ++ rest = markable.flatten ++ left) : plain = markable := by
  induction plain generalizing markable with
  | nil => exact (List.eq_nil_of_length_eq_zero size.symm).symm
  | cons first plain ih =>
    cases markable with
    | nil => cases size
    | cons other markable =>
      rw [List.flatten_cons, List.flatten_cons, List.append_assoc, List.append_assoc] at same
      have equal := subsystem_unique (each first List.mem_cons_self) (others other List.mem_cons_self)
        same
      subst equal
      have later := ih (Nat.succ.inj size)
        (fun subsystem member => each subsystem (List.mem_cons_of_mem _ member))
        (fun subsystem member => others subsystem (List.mem_cons_of_mem _ member))
        (List.append_cancel_left same)
      rw [later]

private theorem temperature_plain (block : InfoBlock word) (shape : ProbeBlock s subsystems)
    (same : word ++ rest = 9 :: s :: subsystems.flatten ++ left) :
    (∀ subsystem ∈ subsystems, TemperatureSubsystem subsystem) ∧
      word = 9 :: s :: subsystems.flatten := by
  cases block with
  | temperature s' plain announced each =>
    simp only [List.cons_append, List.cons.injEq, true_and] at same
    obtain ⟨rfl, same⟩ := same
    have equal := subsystems_unique (announces_unique announced shape.counted) each shape.each same
    subst equal
    exact ⟨each, rfl⟩
  | vehicle | motor | location | extreme | alarm | voltage => simp at same

private theorem plain_of_info (block : InfoBlock (9 :: s :: subsystems.flatten))
    (shape : ProbeBlock s subsystems) : ∀ subsystem ∈ subsystems, TemperatureSubsystem subsystem := by
  have same : 9 :: s :: subsystems.flatten ++ [] = 9 :: s :: subsystems.flatten ++ [] := rfl
  exact (temperature_plain block shape same).1

theorem MarkableUnit.unmarked (shape : MarkableUnit bytes time blocks)
    (unmarked : ∀ block ∈ blocks, ¬ CarriesMark block) : DataUnit bytes time blocks where
  timeSize := shape.timeSize
  whole := shape.whole
  each block member := by
    have unmarkedBlock := unmarked block member
    cases shape.each block member with
    | info block => exact block
    | @temperature s subsystems probes =>
      refine .temperature s subsystems probes.counted fun subsystem inside => ?_
      refine (probes.each subsystem inside).resolve_right fun marked => ?_
      exact unmarkedBlock ⟨s, subsystems, probes, ⟨subsystem, inside, marked⟩, rfl⟩

theorem DataUnit.unmarked (unit : DataUnit bytes time blocks) :
    ∀ block ∈ blocks, ¬ CarriesMark block := by
  rintro block member ⟨s, subsystems, probes, ⟨subsystem, inside, marked⟩, rfl⟩
  have plain := plain_of_info (unit.each _ member) probes
  exact not_marked (plain subsystem inside) marked

namespace Filter

variable {packet : ByteBuffer} [ByteBufferApi] [LawfulByteBuffer]

theorem block_markable {before after : Filter} (small : packet.array.length < 65534)
    (ready : Ready packet before) (markable : MarkableBlock word)
    (split : before.packetRef.window = word ++ rest) (round : before.block = .ok after) :
    InfoBlock word ∧ Moved (tape packet) before after word (if forwarded word then word else []) := by
  cases markable with
  | info block =>
    obtain ⟨same, ended, moved⟩ := block_complete small ready ⟨block, rfl⟩ split
    rw [ended] at round
    cases round
    exact ⟨block, moved⟩
  | @temperature s subsystems shape =>
    have nonempty : before.packetRef.window ≠ [] := by
      rw [split]
      simp
    obtain ⟨read, kept, ⟨block, rfl⟩, moved⟩ := block_sound small ready nonempty round
    have input : before.packetRef.window = read ++ after.packetRef.window := moved.input
    obtain ⟨each, rfl⟩ := temperature_plain block shape (input.symm.trans split)
    exact ⟨.temperature s subsystems shape.counted each, moved⟩

/-- What one type-9 block makes the filter do: it goes on right after the block, its
length counted with no probes for marked numbers, when no number is marked. -/
theorem block_probes {before : Filter} (small : packet.array.length < 65534)
    (ready : Ready packet before) (shape : ProbeBlock s subsystems)
    (split : before.packetRef.window = 9 :: s :: subsystems.flatten ++ rest) :
    (∃ after, before.block = .ok after ∧ after.packetRef.window = rest ∧
        after.packetRef.position = before.packetRef.position +
          (2 + (subsystems.map fun subsystem => 3 + probeCount subsystem).sum)) ↔
      ∀ subsystem ∈ subsystems, ¬ MarkedSubsystem subsystem := by
  constructor
  · rintro ⟨after, round, -, -⟩ subsystem member
    have block := (block_markable small ready (.temperature shape) split round).1
    have plain := plain_of_info block shape
    exact not_marked (plain subsystem member)
  · intro unmarked
    have each (subsystem : List UInt8) (member : subsystem ∈ subsystems) :
        TemperatureSubsystem subsystem :=
      (shape.each subsystem member).resolve_right (unmarked subsystem member)
    have block : InfoBlock (9 :: s :: subsystems.flatten) :=
      .temperature s subsystems shape.counted each
    obtain ⟨after, round, moved⟩ := block_complete small ready ⟨block, rfl⟩ split
    have left : after.packetRef.window = rest := moved.unread_eq split
    refine ⟨after, round, left, ?_⟩
    have start := before.packetRef.position_add_window
    have stop := after.packetRef.position_add_window
    rw [moved.ready.limit, left] at stop
    rw [ready.limit, split, List.length_append, shape.length] at start
    omega

theorem blocks_markable {before after : Filter} (small : packet.array.length < 65534)
    (ready : Ready packet before) (pieces : List (List UInt8))
    (each : ∀ piece ∈ pieces, MarkableBlock piece)
    (split : before.packetRef.window = pieces.flatten ++ [check])
    (ended : before.blocks fuel = some (.ok after)) : ∀ piece ∈ pieces, InfoBlock piece := by
  induction pieces generalizing before fuel with
  | nil => simp
  | cons piece pieces ih =>
    have markable := each piece List.mem_cons_self
    have positive : 0 < piece.length := by
      cases markable with
      | info block => exact List.length_pos_iff.mpr block.ne_nil
      | temperature shape => exact Nat.succ_pos _
    have more : 1 < ByteBufferApi.remaining before.packetRef := by
      rw [remaining_window, split, List.flatten_cons]
      simp only [List.length_append, List.length_singleton]
      omega
    rw [List.flatten_cons, List.append_assoc] at split
    cases fuel with
    | zero => simp [blocks, more] at ended
    | succ fuel =>
      cases round : before.block with
      | error exception => simp [blocks, more, round] at ended
      | ok middle =>
        rw [blocks_more more round] at ended
        obtain ⟨block, moved⟩ := block_markable small ready markable split round
        have later := ih moved.ready
          (fun other member => each other (List.mem_cons_of_mem _ member)) (moved.unread_eq split) ended
        intro other member
        rcases List.mem_cons.mp member with same | elsewhere
        · exact same ▸ block
        · exact later other elsewhere

end Filter

section Upload

variable [ByteBufferApi] [LawfulByteBuffer] {packetRef packet : ByteBuffer}

theorem parseUpload_markable (atUnit : packetRef.position = DataPacketHeader.size)
    (small : packetRef.array.length < 65534) (received : packetRef.window = bytes ++ [check])
    (shape : MarkableUnit bytes time blocks)
    (accepted : parseUpload fuel packetRef = some (.ok packet)) : DataUnit bytes time blocks := by
  obtain ⟨header, same, ready, filled, began⟩ := Filter.begin_put atUnit
  have split : header.packetRef.window = time ++ (blocks.flatten ++ [check]) := by
    rw [same, received, shape.whole, List.append_assoc]
  obtain ⟨first, timed, moved⟩ := (Filter.put_reads TimeForward.size).complete ready
    ⟨shape.timeSize, rfl⟩ split
  simp only [parseUpload, began, timed] at accepted
  obtain ⟨outcome, looped, ended⟩ := Option.map_eq_some_iff.mp accepted
  cases outcome with
  | error exception => cases ended
  | ok last =>
    have plain := Filter.blocks_markable small moved.ready blocks shape.each
      (moved.unread_eq split) looped
    exact ⟨shape.timeSize, shape.whole, plain⟩

/-- A packet with a type-9 block is accepted, with the block left out and the others
kept, exactly when no probe number in it is marked: the loop over its subsystems never
gets past a marked number. -/
theorem marked_probes (self : Session) (session : TcpSession) (table : SessionTable Session)
    (unit : List UInt8) (check : UInt8) (time : List UInt8) (blocks : List (List UInt8))
    (capacity : session.packetRef.array.length = MAXPACK_LENGTH)
    (atUnit : session.packetRef.position = DataPacketHeader.size)
    (upload : DataPacketHeader.cmdId session.packetRef.array = CmdCode.realtimeUpload.value ∨
      DataPacketHeader.cmdId session.packetRef.array = CmdCode.reissueUpload.value)
    (received : session.packetRef.window = unit ++ [check])
    (shape : MarkableUnit unit time blocks) :
    ((∃ (packet : ByteBuffer) (high low bcc : UInt8),
        parseDataUnit self session table = some (.ok ⟨some packet, session, table, none⟩) ∧
        packet.position = 0 ∧
        packet.window = session.packetRef.array.take 22 ++ [high, low] ++
          filtered time blocks ++ [bcc] ∧
        high.toNat * 256 + low.toNat = (filtered time blocks).length ∧
        CheckCodeRight packet.window) ↔
      ∀ block ∈ blocks, ¬ CarriesMark block) ∧
    ∀ (filter : Filter) (s : UInt8) (subsystems : List (List UInt8)) (rest : List UInt8),
      Filter.Ready session.packetRef filter → ProbeBlock s subsystems →
      filter.packetRef.window = 9 :: s :: subsystems.flatten ++ rest →
      ((∃ after, filter.block = .ok after ∧ after.packetRef.window = rest ∧
          after.packetRef.position = filter.packetRef.position +
            (2 + (subsystems.map fun subsystem => 3 + probeCount subsystem).sum)) ↔
        ∀ subsystem ∈ subsystems, ¬ MarkedSubsystem subsystem) := by
  have small : session.packetRef.array.length < 65534 := by rw [capacity]; decide
  have parsed : parseDataUnit self session table =
      (parseUpload session.packetRef.window.length session.packetRef).map fun parsed =>
        parsed.map fun rtData => ⟨some rtData, session, table, none⟩ :=
    parseDataUnitWithin_upload self session table _ atUnit upload
  refine ⟨⟨?_, ?_⟩, ?_⟩
  · rintro ⟨packet, high, low, bcc, accepted, -⟩
    rw [parsed] at accepted
    obtain ⟨outcome, filtering, same⟩ := Option.map_eq_some_iff.mp accepted
    cases outcome with
    | error exception => cases same
    | ok rtData => exact (parseUpload_markable atUnit small received shape filtering).unmarked
  · intro unmarked
    have plain := shape.unmarked unmarked
    obtain ⟨packet, filtering, start, window⟩ := parseUpload_unit atUnit small plain received
    have short : unit.length < 65536 := by
      have total := session.packetRef.position_add_window
      have inside := session.packetRef.limit_le
      rw [received, List.length_append] at total
      omega
    obtain ⟨high, low, bcc, written, length, right⟩ := uploaded_packet plain capacity short window
    refine ⟨packet, high, low, bcc, ?_, start, written, length, right⟩
    rw [parsed, filtering]
    rfl
  · intro filter s subsystems rest ready probes split
    exact Filter.block_probes small ready probes split

end Upload

def sessionWith (unit : List UInt8) (fits : unit.length ≤ 487) : TcpSession where
  packetRef := ⟨[35, 35, 2, 254] ++ List.replicate 17 65 ++ [1, 0, UInt8.ofNat unit.length] ++ unit ++
    List.replicate (488 - unit.length) 0, 24, 25 + unit.length, by omega, by simp; omega⟩
  dataUnitLen := unit.length
  vin := List.replicate 17 65
  quit := false

/-- Time bytes and a type-9 block with one subsystem. -/
def probedUnit (subsystem : List UInt8) : List UInt8 := [17, 5, 16, 17, 12, 0, 9, 1] ++ subsystem

theorem probedUnit_markable (each : TemperatureSubsystem subsystem ∨ MarkedSubsystem subsystem) :
    MarkableUnit (probedUnit subsystem) [17, 5, 16, 17, 12, 0] [9 :: 1 :: [subsystem].flatten] where
  timeSize := rfl
  whole := by simp [probedUnit]
  each block member := by
    cases List.mem_singleton.mp member
    have one : Announces 1 [subsystem].length := .some (by decide) (by decide) (by decide)
    exact .temperature ⟨one, by simpa using each⟩

/-- One temperature subsystem with one probe is skipped. -/
theorem marked_probes_counted :
    ∃ packet : ByteBuffer, @parseDataUnit ByteBuffer.reference Unit ()
        (sessionWith (probedUnit [1, 0, 1, 60]) (by decide)) SessionTable.empty =
      some (.ok ⟨some packet, sessionWith (probedUnit [1, 0, 1, 60]) (by decide),
        SessionTable.empty, none⟩) ∧ packet.window.length = 31 := by
  let := ByteBuffer.reference
  have := ByteBuffer.reference_lawful
  have plain : TemperatureSubsystem [1, 0, 1, 60] := .mk 1 0 1 [60] (by decide) (by decide) rfl
  have both := marked_probes () (sessionWith (probedUnit [1, 0, 1, 60]) (by decide))
    SessionTable.empty (probedUnit [1, 0, 1, 60]) 0 [17, 5, 16, 17, 12, 0] _ (by decide +kernel) rfl
    (.inl rfl) (by decide +kernel) (probedUnit_markable (.inl plain))
  have unit : DataUnit (probedUnit [1, 0, 1, 60]) [17, 5, 16, 17, 12, 0]
      [9 :: 1 :: [[1, 0, 1, 60]].flatten] := by
    refine ⟨rfl, rfl, fun block member => ?_⟩
    cases List.mem_singleton.mp member
    exact .temperature 1 _ (.some (by decide) (by decide) (by decide)) (by simpa using plain)
  obtain ⟨packet, high, low, bcc, parsed, _, window, _⟩ := both.1.mpr unit.unmarked
  exact ⟨packet, parsed, by rw [window]; rfl⟩

/-- A subsystem whose probe number is marked invalid makes the packet be refused. -/
theorem marked_probes_refused :
    MarkableUnit (probedUnit [1, 255, 255]) [17, 5, 16, 17, 12, 0] [9 :: 1 :: [[1, 255, 255]].flatten] ∧
      ∃ exception, @parseDataUnit ByteBuffer.reference Unit ()
        (sessionWith (probedUnit [1, 255, 255]) (by decide)) SessionTable.empty =
          some (.error exception) := by
  refine ⟨probedUnit_markable (.inr (.mk 1 255 (.inl rfl))), ?_⟩
  have refused : (@parseDataUnit ByteBuffer.reference Unit ()
      (sessionWith (probedUnit [1, 255, 255]) (by decide)) SessionTable.empty).map Except.toBool =
        some false := by decide +kernel
  obtain ⟨outcome, parsed, failed⟩ := Option.map_eq_some_iff.mp refused
  cases outcome with
  | ok parsed => cases failed
  | error exception => exact ⟨exception, parsed⟩

end MotorInfoUpload
