import MotorInfoUpload.Forwarder.System

namespace MotorInfoUpload

private theorem cmdId_setCmdId (memory : List UInt8) (code : CmdCode) (long : 2 < memory.length) :
    DataPacketHeader.cmdId (DataPacketHeader.setCmdId memory code) = code.value := by
  simp [DataPacketHeader.cmdId, DataPacketHeader.setCmdId, List.getD_eq_getElem?_getD, long]

private theorem cmdId_set (memory : List UInt8) (index : Nat) (byte : UInt8) (other : index ≠ 2) :
    DataPacketHeader.cmdId (memory.set index byte) = DataPacketHeader.cmdId memory := by
  simp only [DataPacketHeader.cmdId, List.getD_eq_getElem?_getD, List.getElem?_set_ne other]

variable [ByteBufferApi] {buf : ByteBuffer}

theorem markReissue_other (other : DataPacketHeader.cmdId buf.array ≠ CmdCode.realtimeUpload.value) :
    markReissue buf = .ok buf := if_neg other

variable [LawfulByteBuffer]

theorem markReissue_realtime (forwardable : Forwardable buf)
    (realtime : DataPacketHeader.cmdId buf.array = CmdCode.realtimeUpload.value) :
    ∃ marked bcc, markReissue buf = .ok marked ∧ marked.position = buf.position ∧
      marked.limit = buf.limit ∧
      marked.array = (DataPacketHeader.setCmdId buf.array .reissueUpload).set (buf.limit - 1) bcc ∧
      bcc = xorBytes ((DataPacketHeader.setCmdId buf.array .reissueUpload).take (buf.limit - 1)) := by
  obtain ⟨start, long, fits, _⟩ := forwardable
  have inside := buf.limit_le
  have remaining : ByteBufferApi.remaining (buf.withArray
      (DataPacketHeader.setCmdId buf.array .reissueUpload) DataPacketHeader.setCmdId_length) =
        buf.limit := by
    rw [LawfulByteBuffer.remaining_eq]
    change buf.limit - buf.position = buf.limit
    rw [start, Nat.sub_zero]
  have size : sizeMinus buf.limit 1 = buf.limit - 1 :=
    sizeMinus_eq (Nat.lt_of_le_of_lt (Nat.zero_le _) long)
  have bytes : ((DataPacketHeader.setCmdId buf.array .reissueUpload).drop (buf.position + 0)).take
      (buf.limit - 1) =
        (DataPacketHeader.setCmdId buf.array .reissueUpload).take (buf.limit - 1) := by
    rw [start, List.drop_zero]
  have nonempty : (DataPacketHeader.setCmdId buf.array .reissueUpload).take (buf.limit - 1) ≠ [] := by
    apply List.ne_nil_of_length_pos
    rw [List.length_take, DataPacketHeader.setCmdId_length]
    unfold DataPacketHeader.size at long
    omega
  have checked : Util.generateBlockCheckCharacterOf (buf.withArray
      (DataPacketHeader.setCmdId buf.array .reissueUpload) DataPacketHeader.setCmdId_length) 0
      (buf.limit - 1) =
        .ok (xorBytes ((DataPacketHeader.setCmdId buf.array .reissueUpload).take (buf.limit - 1))) := by
    unfold Util.generateBlockCheckCharacterOf
    rw [remaining, if_neg (by omega)]
    change Util.generateBlockCheckCharacter (((DataPacketHeader.setCmdId buf.array
      .reissueUpload).drop (buf.position + 0)).take (buf.limit - 1)) = _
    rw [bytes, Util.generateBlockCheckCharacter_ok nonempty]
  unfold markReissue
  rw [if_pos realtime]
  simp only [remaining, size, checked]
  refine ⟨_, _, rfl, rfl, rfl, ?_, rfl⟩
  change (DataPacketHeader.setCmdId buf.array .reissueUpload).set (buf.position + buf.limit - 1) _ = _
  rw [start, Nat.zero_add]

/-- Marking a forwardable packet succeeds, keeps it forwardable, and is done once. -/
theorem markReissue_forwardable (forwardable : Forwardable buf) :
    ∃ marked, markReissue buf = .ok marked ∧ Forwardable marked ∧
      markReissue marked = .ok marked := by
  by_cases realtime : DataPacketHeader.cmdId buf.array = CmdCode.realtimeUpload.value
  · obtain ⟨marked, bcc, succeeded, position, limit, array, _⟩ :=
      markReissue_realtime forwardable realtime
    obtain ⟨start, long, fits, _⟩ := forwardable
    have inside := buf.limit_le
    have reissue : DataPacketHeader.cmdId marked.array = CmdCode.reissueUpload.value := by
      unfold DataPacketHeader.size at long
      rw [array, cmdId_set _ _ _ (by omega), cmdId_setCmdId _ _ (by omega)]
    refine ⟨marked, succeeded, ⟨position.trans start, limit ▸ long, limit ▸ fits, ?_⟩, ?_⟩
    · rw [reissue]
      decide
    · exact markReissue_other (by rw [reissue]; decide)
  · exact ⟨buf, markReissue_other realtime, forwardable, markReissue_other realtime⟩

end MotorInfoUpload
