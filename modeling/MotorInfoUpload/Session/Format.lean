import MotorInfoUpload.Grammar.PrefixFree
import MotorInfoUpload.Session.MarkedProbes
import MotorInfoUpload.Session.Stream

namespace MotorInfoUpload

open Grammar

theorem isFrame_free : PrefixFree IsFrame := by
  intro one other rest left framed next texts
  exact framed.eq_of_prefix next (texts ▸ List.prefix_append ..)

theorem faultList_free : PrefixFree FaultList := by
  refine (PrefixFree.bind (PrefixFree.sized 1)
    fun begin _ => PrefixFree.sized (4 * faultCount (begin.headD 0))).mono fun text faults => ?_
  cases faults with
  | mk n codes counted => exact ⟨[n], codes, rfl, counted, rfl⟩

theorem voltageSubsystem_free : PrefixFree VoltageSubsystem := by
  refine (PrefixFree.bind (PrefixFree.sized 10)
    fun begin _ => PrefixFree.sized (2 * (begin.getD 9 0).toNat)).mono fun text subsystem => ?_
  cases subsystem with
  | mk head m cells size lower upper counted =>
    refine ⟨head ++ [m], cells, by simp [size], ?_, by simp⟩
    rw [counted, List.getD_eq_getElem?_getD, ← size, List.getElem?_concat_length]
    rfl

theorem temperatureSubsystem_free : PrefixFree TemperatureSubsystem := by
  refine (PrefixFree.bind (PrefixFree.sized 3) fun begin _ =>
    PrefixFree.sized ((begin.getD 1 0).toNat * 256 + (begin.getD 2 0).toNat)).mono
    fun text subsystem => ?_
  cases subsystem with
  | mk number high low probes lower upper counted =>
    exact ⟨[number, high, low], probes, rfl, counted, rfl⟩

private theorem subsystems_eq {subsystem : List UInt8 → Prop} {words others : List (List UInt8)}
    {s : UInt8} (free : PrefixFree subsystem) (counted : Announces s words.length)
    (announced : Announces s others.length) (each : ∀ text ∈ words, subsystem text)
    (every : ∀ text ∈ others, subsystem text) (texts : words.flatten ++ rest = others.flatten ++ left) :
    words = others :=
  free.words_eq each every (announces_unique counted announced) texts

theorem infoBlock_free : PrefixFree InfoBlock := by
  intro one other rest left block next texts
  cases block with
  | vehicle data size | motor data size | location data size | extreme data size =>
    cases next with
    | vehicle other long | motor other long | location other long | extreme other long =>
      first
        | simp at texts; done
        | simp only [List.cons_append, List.cons.injEq, true_and] at texts
          rw [(List.append_inj texts (size.trans long.symm)).1]
    | alarm | voltage | temperature => simp at texts
  | @alarm f₁ f₂ f₃ f₄ head size battery motor engine other =>
    cases next with
    | @alarm g₁ g₂ g₃ g₄ head' size' battery' motor' engine' other' =>
      simp only [List.cons_append, List.cons.injEq, true_and, List.append_assoc] at texts
      obtain ⟨same, first⟩ := List.append_inj texts (size.trans size'.symm)
      have same₁ := faultList_free _ _ _ _ battery battery' first
      have second := List.append_cancel_left (same₁ ▸ first)
      have same₂ := faultList_free _ _ _ _ motor motor' second
      have third := List.append_cancel_left (same₂ ▸ second)
      have same₃ := faultList_free _ _ _ _ engine engine' third
      have fourth := List.append_cancel_left (same₃ ▸ third)
      rw [same, same₁, same₂, same₃, faultList_free _ _ _ _ other other' fourth]
    | vehicle | motor | location | extreme | voltage | temperature => simp at texts
  | voltage s subsystems counted each =>
    cases next with
    | voltage s' others announced every =>
      simp only [List.cons_append, List.cons.injEq, true_and] at texts
      obtain ⟨rfl, texts⟩ := texts
      rw [subsystems_eq voltageSubsystem_free counted announced each every texts]
    | vehicle | motor | location | extreme | alarm | temperature => simp at texts
  | temperature s subsystems counted each =>
    cases next with
    | temperature s' others announced every =>
      simp only [List.cons_append, List.cons.injEq, true_and] at texts
      obtain ⟨rfl, texts⟩ := texts
      rw [subsystems_eq temperatureSubsystem_free counted announced each every texts]
    | vehicle | motor | location | extreme | alarm | voltage => simp at texts

theorem DataUnit.unique {bytes time clock : List UInt8} {blocks others : List (List UInt8)}
    (unit : DataUnit bytes time blocks) (again : DataUnit bytes clock others) :
    time = clock ∧ blocks = others := by
  have texts := unit.whole.symm.trans again.whole
  obtain ⟨same, rest⟩ := List.append_inj texts (unit.timeSize.trans again.timeSize.symm)
  exact ⟨same, infoBlock_free.flatten_inj (fun _ block => block.ne_nil) unit.each again.each rest⟩

private theorem setDataUnitLength_self (header : List UInt8)
    (size : header.length = DataPacketHeader.size) :
    DataPacketHeader.setDataUnitLength header
      (UInt16.ofNat (DataPacketHeader.dataUnitLength header)) = header := by
  have high : 22 < header.length := by rw [size]; decide
  have low : 23 < header.length := by rw [size]; decide
  have length : DataPacketHeader.dataUnitLength header = header[22].toNat * 256 + header[23].toNat := by
    simp [DataPacketHeader.dataUnitLength, List.getD_eq_getElem?_getD, high, low]
  have below := header[22].toNat_lt
  have less := header[23].toNat_lt
  have counted : (UInt16.ofNat (DataPacketHeader.dataUnitLength header)).toNat =
      DataPacketHeader.dataUnitLength header := by
    rw [UInt16.toNat_ofNat']
    exact Nat.mod_eq_of_lt (by omega)
  have first : UInt8.ofNat (DataPacketHeader.dataUnitLength header / 256) = header[22] := by
    have whole : DataPacketHeader.dataUnitLength header / 256 = header[22].toNat := by omega
    rw [whole, UInt8.ofNat_toNat]
  have second : UInt8.ofNat (DataPacketHeader.dataUnitLength header) = header[23] := by
    apply UInt8.toNat_inj.mp
    rw [UInt8.toNat_ofNat']
    omega
  rw [DataPacketHeader.setDataUnitLength, counted, first, second, List.set_getElem_self,
    List.set_getElem_self]

/-- An upload frame taken apart. -/
structure UploadFrame (frame unit time : List UInt8) (check : UInt8)
    (blocks : List (List UInt8)) : Prop where
  framed : IsFrame frame
  received : frame.drop DataPacketHeader.size = unit ++ [check]
  shape : DataUnit unit time blocks

namespace UploadFrame

variable {frame unit time : List UInt8} {check : UInt8} {blocks : List (List UInt8)}

theorem whole (upload : UploadFrame frame unit time check blocks) :
    frame = frame.take DataPacketHeader.size ++ unit ++ [check] := by
  rw [List.append_assoc, ← upload.received, List.take_append_drop]

theorem headerSize (upload : UploadFrame frame unit time check blocks) :
    (frame.take DataPacketHeader.size).length = DataPacketHeader.size :=
  List.length_take_of_le (Nat.le_of_lt upload.framed.long)

theorem unitSize (upload : UploadFrame frame unit time check blocks) :
    unit.length = DataPacketHeader.dataUnitLength (frame.take DataPacketHeader.size) := by
  have header : (frame.take DataPacketHeader.size).take DataPacketHeader.size =
      frame.take DataPacketHeader.size := List.take_of_length_le (Nat.le_of_eq upload.headerSize)
  have framed : frame.length = DataPacketHeader.size + DataPacketHeader.dataUnitLength frame + 1 :=
    upload.framed
  have long := congrArg List.length upload.received
  rw [List.length_drop, List.length_append, List.length_singleton] at long
  rw [(header_congr header).2.2]
  omega

/-- A frame goes out as it came in exactly if its check byte is right and none of its
blocks is left out. -/
theorem uploaded_eq_iff (upload : UploadFrame frame unit time check blocks) :
    uploaded (frame.take DataPacketHeader.size) time blocks = frame ↔
      CheckCodeRight frame ∧ ∀ block ∈ blocks, forwarded block = true := by
  have size := upload.headerSize
  constructor
  · intro same
    refine ⟨same ▸ uploaded_checkCode _ time blocks size, ?_⟩
    have rest := upload.received
    rw [← same, uploaded, List.append_assoc, List.drop_left' (by simpa using size)] at rest
    obtain ⟨left, -⟩ := List.append_inj' rest rfl
    have shorter : DataUnit unit time (blocks.filter forwarded) :=
      ⟨upload.shape.timeSize, left.symm, fun block member =>
        upload.shape.each block (List.mem_of_mem_filter member)⟩
    exact List.filter_eq_self.mp (upload.shape.unique shorter).2.symm
  · rintro ⟨right, all⟩
    have kept : filtered time blocks = unit := by
      rw [filtered, List.filter_eq_self.mpr all, ← upload.shape.whole]
    have unchecked : DataPacketHeader.setDataUnitLength (frame.take DataPacketHeader.size)
        (UInt16.ofNat (filtered time blocks).length) = frame.take DataPacketHeader.size := by
      rw [kept, upload.unitSize, setDataUnitLength_self _ size]
    rw [CheckCodeRight, upload.whole, List.getLast?_concat, Option.some_inj] at right
    have enough : 2 ≤ (frame.take DataPacketHeader.size ++ unit).length := by
      rw [List.length_append, size]
      unfold DataPacketHeader.size
      omega
    rw [List.drop_append_of_le_length enough, List.dropLast_concat] at right
    rw [uploaded, unchecked, kept]
    nth_rewrite 3 [upload.whole]
    rw [right]

/-- What goes out for a frame is a frame without the blocks that are left out. -/
theorem outgoing (upload : UploadFrame frame unit time check blocks) :
    ∃ bcc, UploadFrame (uploaded (frame.take DataPacketHeader.size) time blocks)
      (filtered time blocks) time bcc (blocks.filter forwarded) := by
  have size := upload.headerSize
  have fewer := filtered_length_le upload.shape
  have short : (filtered time blocks).length < 65536 := by
    have counted := upload.unitSize
    have below := ((frame.take DataPacketHeader.size).getD 22 0).toNat_lt
    have less := ((frame.take DataPacketHeader.size).getD 23 0).toNat_lt
    rw [DataPacketHeader.dataUnitLength] at counted
    omega
  obtain ⟨high, low, bcc, counted, written⟩ := uploaded_bytes _ time blocks size short
  generalize front : (frame.take DataPacketHeader.size).take 22 = begins at written
  have frontSize : begins.length = 22 := by
    rw [← front]
    exact List.length_take_of_le (by rw [size]; decide)
  refine ⟨bcc, ?_, ?_, upload.shape.timeSize, rfl, fun block member =>
    upload.shape.each block (List.mem_of_mem_filter member)⟩
  · rw [IsFrame, written, DataPacketHeader.dataUnitLength]
    have first : (begins ++ [high, low] ++ filtered time blocks ++ [bcc])[22]? = some high := by
      simp [frontSize]
    have second : (begins ++ [high, low] ++ filtered time blocks ++ [bcc])[23]? = some low := by
      simp [List.getElem?_append_right, frontSize]
    simp only [List.getD_eq_getElem?_getD, first, second, Option.getD_some, counted]
    simp [frontSize, DataPacketHeader.size]
    omega
  · rw [written, List.append_assoc, List.drop_left']
    simp [frontSize, DataPacketHeader.size]

end UploadFrame

theorem FrameOutput.header (output : FrameOutput frame [packet] replies) (framed : IsFrame frame) :
    DataPacketHeader.cmdId packet.window = DataPacketHeader.cmdId frame ∧
      DataPacketHeader.vin packet.window = DataPacketHeader.vin frame := by
  have size : (frame.take DataPacketHeader.size).length = DataPacketHeader.size :=
    List.length_take_of_le (Nat.le_of_lt framed.long)
  have header : (frame.take DataPacketHeader.size).take DataPacketHeader.size =
      frame.take DataPacketHeader.size := List.take_of_length_le (Nat.le_of_eq size)
  obtain ⟨command, vin, -⟩ := header_congr header
  cases output with
  | upload _ received shape start window =>
    rw [window, cmdId_uploaded _ _ _ size, vin_uploaded _ _ _ size]
    exact ⟨command, vin⟩
  | verbatim _ start window => exact window ▸ ⟨rfl, rfl⟩

private theorem upload_not_verbatim {frame : List UInt8}
    (command : DataPacketHeader.cmdId frame = CmdCode.realtimeUpload.value ∨
      DataPacketHeader.cmdId frame = CmdCode.reissueUpload.value) : ¬ Verbatim frame := by
  rcases command with upload | upload <;> simp [Verbatim, upload, CmdCode.value]

namespace FrameOutput

variable {frame : List UInt8} {packet : ByteBuffer} {packets replies others : List ByteBuffer}

theorem unique (output : FrameOutput frame [packet] replies) (other : FrameOutput frame packets others) :
    ∃ again, packets = [again] ∧ again.position = 0 ∧ again.window = packet.window := by
  cases output with
  | upload command received shape start window =>
    cases other with
    | @upload _ _ _ _ again _ received' shape' start' window' =>
      obtain ⟨rfl, -⟩ := List.append_inj' (received.symm.trans received') rfl
      obtain ⟨rfl, rfl⟩ := shape.unique shape'
      exact ⟨again, rfl, start', window'.trans window.symm⟩
    | verbatim verbatim => exact absurd verbatim (upload_not_verbatim command)
    | reply bare =>
      have beats := bare.1
      rcases command with upload | upload <;> simp [upload, CmdCode.value] at beats
    | rejected refused => exact absurd (.inr (.inl ⟨command, _, _, _, _, received, shape⟩)) refused
  | verbatim verbatim start window =>
    cases other with
    | upload command => exact absurd verbatim (upload_not_verbatim command)
    | @verbatim again _ start' window' => exact ⟨again, rfl, start', window'.trans window.symm⟩
    | reply bare =>
      have beats := bare.1
      rcases verbatim with login | logout
      · simp [login, CmdCode.value] at beats
      · simp [logout, CmdCode.value] at beats
    | rejected refused => exact absurd (.inl verbatim) refused

/-- A packet is a frame of which it is made itself. -/
theorem again (output : FrameOutput frame [packet] replies) (framed : IsFrame frame) :
    IsFrame packet.window ∧ Parseable packet.window ∧ FrameOutput packet.window [packet] [] := by
  have command := (output.header framed).1
  cases output with
  | verbatim verbatim start window =>
    rw [window]
    exact ⟨framed, .inl verbatim, .verbatim verbatim start window⟩
  | @upload unit check time blocks _ upload received shape start window =>
    have frame : UploadFrame frame unit time check blocks := ⟨framed, received, shape⟩
    obtain ⟨bcc, next⟩ := frame.outgoing
    have right := uploaded_checkCode _ time blocks frame.headerSize
    have unchanged := next.uploaded_eq_iff.mpr ⟨right, fun block => List.of_mem_filter⟩
    rw [← window] at next unchanged
    rw [← command] at upload
    exact ⟨next.framed, .inr (.inl ⟨upload, _, _, _, _, next.received, next.shape⟩),
      .upload upload next.received next.shape start unchanged.symm⟩

theorem unchanged_iff (output : FrameOutput frame [packet] replies) (framed : IsFrame frame) :
    packet.window = frame ↔ Verbatim frame ∨ CheckCodeRight frame ∧
      ∀ unit check time blocks, frame.drop DataPacketHeader.size = unit ++ [check] →
        DataUnit unit time blocks → ∀ block ∈ blocks, forwarded block = true := by
  cases output with
  | verbatim verbatim start window => exact iff_of_true window (.inl verbatim)
  | @upload unit check time blocks _ command received shape start window =>
    have frame : UploadFrame frame unit time check blocks := ⟨framed, received, shape⟩
    rw [window, frame.uploaded_eq_iff, or_iff_right (upload_not_verbatim command)]
    refine and_congr_right fun _ => ⟨fun all other last clock pieces split unit => ?_,
      fun all => all unit check time blocks received shape⟩
    obtain ⟨rfl, -⟩ := List.append_inj' (received.symm.trans split) rfl
    obtain ⟨-, rfl⟩ := shape.unique unit
    exact all

end FrameOutput

section Sessions

variable [ByteBufferApi] [LawfulByteBuffer] {Session Other : Type} {self : Session} {other : Other}
  {table : SessionTable Session} {others : SessionTable Other} {parsed : Parsed Session}
  {session again : TcpSession} {packet : ByteBuffer}

omit [ByteBufferApi] [LawfulByteBuffer] in
theorem TcpSession.FrameRead.isFrame (read : session.FrameRead)
    (counted : session.dataUnitLen = DataPacketHeader.dataUnitLength session.frame) :
    IsFrame session.frame := by
  rw [IsFrame, ← counted, TcpSession.frame, List.length_take_of_le session.packetRef.limit_le,
    read.limited]

private theorem returned_output (read : session.FrameRead)
    (counted : session.dataUnitLen = DataPacketHeader.dataUnitLength session.frame)
    (parse : parseDataUnit self session table = some (.ok parsed))
    (packetIs : parsed.packet = some packet) :
    ∃ replies, FrameOutput session.frame [packet] replies := by
  have output := read.output counted parse
  rw [(session.afterParse_output table parsed).1, packetIs] at output
  exact ⟨_, output⟩

/-- A session makes a packet of a frame of which nothing but a packet can be made. -/
theorem TcpSession.FrameRead.takes {holds : ByteBuffer → Prop} (read : session.FrameRead)
    (counted : session.dataUnitLen = DataPacketHeader.dataUnitLength session.frame)
    (parseable : Parseable session.frame)
    (gives : ∀ packets replies, FrameOutput session.frame packets replies →
      ∃ packet, packets = [packet] ∧ holds packet) (self : Session) (table : SessionTable Session) :
    ∃ parsed packet, parseDataUnit self session table = some (.ok parsed) ∧
      parsed.packet = some packet ∧ holds packet := by
  obtain ⟨parsed, parse⟩ := (parseDataUnit_ok_iff self table read counted).mpr parseable
  have output := read.output counted parse
  rw [(session.afterParse_output table parsed).1] at output
  obtain ⟨packet, single, held⟩ := gives _ _ output
  cases returned : parsed.packet with
  | none => simp [returned] at single
  | some found =>
    rw [returned] at single
    cases single
    exact ⟨parsed, _, parse, returned, held⟩

/-- Filtering twice is filtering once: a session that reads a packet as its frame, here or in
another service behind this one, takes it, and makes the same bytes of it. -/
theorem parseDataUnit_again (read : session.FrameRead)
    (counted : session.dataUnitLen = DataPacketHeader.dataUnitLength session.frame)
    (parse : parseDataUnit self session table = some (.ok parsed))
    (packetIs : parsed.packet = some packet) (reread : again.FrameRead)
    (recounted : again.dataUnitLen = DataPacketHeader.dataUnitLength again.frame)
    (same : again.frame = packet.window) :
    ∃ reparsed next, parseDataUnit other again others = some (.ok reparsed) ∧
      reparsed.packet = some next ∧ next.position = 0 ∧ next.window = packet.window := by
  obtain ⟨replies, output⟩ := returned_output read counted parse packetIs
  obtain ⟨-, parseable, itself⟩ := output.again (read.isFrame counted)
  rw [← same] at parseable itself
  exact reread.takes recounted parseable (fun packets replies next => itself.unique next) other others

/-- A frame becomes a packet as it is exactly if it is a login or a logout, or its check byte
is right and it has no block that the filter leaves out. -/
theorem parseDataUnit_unchanged_iff (read : session.FrameRead)
    (counted : session.dataUnitLen = DataPacketHeader.dataUnitLength session.frame)
    (parse : parseDataUnit self session table = some (.ok parsed))
    (packetIs : parsed.packet = some packet) :
    packet.window = session.frame ↔ Verbatim session.frame ∨ CheckCodeRight session.frame ∧
      ∀ unit check time blocks, session.frame.drop DataPacketHeader.size = unit ++ [check] →
        DataUnit unit time blocks → ∀ block ∈ blocks, forwarded block = true := by
  obtain ⟨replies, output⟩ := returned_output read counted parse packetIs
  exact output.unchanged_iff (read.isFrame counted)

end Sessions

/-- What is left of the sample session's frame, without the voltage block. -/
def filteredFrame : List UInt8 :=
  let frame := [35, 35, 2, 254] ++ List.replicate 17 65 ++ [1, 0, 27] ++ [17, 5, 16, 17, 12, 0] ++
    (1 :: List.replicate 20 7)
  frame ++ [xorBytes (frame.drop 2)]

def filteredSession : TcpSession where
  packetRef := ⟨filteredFrame ++ List.replicate 460 0, 24, 52, by decide,
    by simp [-List.reduceReplicate, filteredFrame]⟩
  dataUnitLen := 27
  vin := List.replicate 17 65
  quit := false

/-- The voltage block of the sample unit is left out, and then nothing more. -/
theorem parseDataUnit_again_sample : ∃ (parsed reparsed : Parsed Unit) (packet next : ByteBuffer),
    @parseDataUnit ByteBuffer.reference Unit () sampleSession SessionTable.empty = some (.ok parsed) ∧
    parsed.packet = some packet ∧ packet.window ≠ sampleSession.frame ∧
    @parseDataUnit ByteBuffer.reference Unit () filteredSession SessionTable.empty =
      some (.ok reparsed) ∧ reparsed.packet = some next ∧ next.window = packet.window := by
  let := ByteBuffer.reference
  have := ByteBuffer.reference_lawful
  have read : sampleSession.FrameRead := by decide +kernel
  have reread : filteredSession.FrameRead := by decide +kernel
  have taken : (parseDataUnit () sampleSession SessionTable.empty).any (fun result =>
      result.toOption.any fun parsed => parsed.packet.any fun packet =>
        decide (packet.window = filteredSession.frame)) = true := by decide +kernel
  obtain ⟨result, parse, taken⟩ := (Option.any_eq_true _ _).mp taken
  cases result with
  | error exception => cases taken
  | ok parsed =>
    have taken : parsed.packet.any (fun packet =>
        decide (packet.window = filteredSession.frame)) = true := taken
    obtain ⟨packet, packetIs, same⟩ := (Option.any_eq_true _ _).mp taken
    have same : packet.window = filteredSession.frame := of_decide_eq_true same
    obtain ⟨reparsed, next, reparse, nextIs, -, window⟩ := parseDataUnit_again read
      (by decide +kernel) parse packetIs reread (by decide +kernel) same.symm
    refine ⟨parsed, reparsed, packet, next, parse, packetIs, ?_, reparse, nextIs, window⟩
    rw [same]
    decide +kernel

/-- The sample unit has a voltage block, and its packet is another one. -/
theorem parseDataUnit_changes_sample : ∃ (parsed : Parsed Unit) (packet : ByteBuffer),
    @parseDataUnit ByteBuffer.reference Unit () sampleSession SessionTable.empty = some (.ok parsed) ∧
    parsed.packet = some packet ∧ packet.window ≠ sampleSession.frame := by
  let := ByteBuffer.reference
  have := ByteBuffer.reference_lawful
  have read : sampleSession.FrameRead := by decide +kernel
  have received : sampleSession.frame.drop DataPacketHeader.size = sampleUnit ++ [9] := by
    decide +kernel
  have taken : (parseDataUnit () sampleSession SessionTable.empty).any
      (fun result => result.toOption.any fun parsed => parsed.packet.isSome) = true := by decide +kernel
  rw [Option.any_eq_true] at taken
  obtain ⟨result, parse, taken⟩ := taken
  cases result with
  | error exception => cases taken
  | ok parsed =>
    obtain ⟨packet, packetIs⟩ := Option.isSome_iff_exists.mp taken
    refine ⟨parsed, packet, parse, packetIs, fun same => ?_⟩
    rcases (parseDataUnit_unchanged_iff read (by decide +kernel) parse packetIs).mp same with
      verbatim | ⟨-, all⟩
    · exact absurd verbatim (by decide +kernel)
    · exact absurd (all _ _ _ _ received sampleUnit_dataUnit [8, 255] (by simp)) (by decide)

end MotorInfoUpload
