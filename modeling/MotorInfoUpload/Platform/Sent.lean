import MotorInfoUpload.Platform.LoginFrame
import MotorInfoUpload.Session.Laundering

namespace MotorInfoUpload

open Machine

/-- The header of the structure names the command and counts the rest. -/
structure Labelled {size : Nat} (cmd : CmdCode) (memory : Packed UInt8 size) : Prop where
  cmdId : memory.field 2 1 = [cmd.value]
  dataUnitLength : memory.field 22 2 = shortBytes (UInt16.ofNat (size - DataPacketHeader.size - 1))

section Memory

variable {size : Nat} {cmd : CmdCode} {memory : Packed UInt8 size}

theorem Labelled.put {offset : Nat} {cells : List UInt8} {fits : offset + cells.length ≤ size}
    (labelled : Labelled cmd memory) (behind : 24 ≤ offset) :
    Labelled cmd (memory.put offset cells fits) := by
  constructor
  · rw [Packed.field_put_apart (by omega), labelled.cmdId]
  · rw [Packed.field_put_apart (by omega), labelled.dataUnitLength]

theorem Labelled.filled {paltformId unit : List UInt8} {vinned : Packed UInt8 size}
    {fits : 2 + [cmd.value].length ≤ size} (unitFits : 22 + unit.length ≤ size)
    (counted : unit = shortBytes (UInt16.ofNat (size - DataPacketHeader.size - 1)))
    (copied : (memory.put 2 [cmd.value] fits).copy 4 paltformId = some vinned) :
    Labelled cmd (vinned.put 22 unit unitFits) := by
  subst counted
  obtain ⟨within, rfl⟩ := Packed.copy_some_iff.mp copied
  constructor
  · rw [Packed.field_put_apart (.inl (by omega)), Packed.field_put_apart (.inl (by omega))]
    exact Packed.field_put rfl
  · exact Packed.field_put rfl

theorem Labelled.withCheckCode (room : 24 < size) (labelled : Labelled cmd memory) :
    Labelled cmd (MotorInfoUpload.withCheckCode memory (by omega)) := labelled.put (by omega)

theorem Labelled.isFrame (room : 24 < size) (small : size < 65536) (labelled : Labelled cmd memory) :
    IsFrame memory.toList ∧ DataPacketHeader.cmdId memory.toList = cmd.value := by
  refine ⟨?_, Packed.getD_of_field labelled.cmdId Nat.zero_lt_one 0⟩
  have length := short_exact labelled.dataUnitLength
  rw [UInt16.toNat_ofNat', DataPacketHeader.size] at length
  rw [IsFrame, DataPacketHeader.dataUnitLength, length, List.Vector.toList_length,
    DataPacketHeader.size]
  omega

end Memory

structure UploaderData.Labelled (data : UploaderData) : Prop where
  login : MotorInfoUpload.Labelled .platformLogin data.loginData
  logout : MotorInfoUpload.Labelled .platformLogout data.logoutData

theorem UploaderData.fill_labelled {config : LoginConfig} {no : Nat} {fresh data : UploaderData}
    {short : config.publicServerUserName.length ≤ 12}
    (filled : fresh.fill config no short = some data) : data.Labelled := by
  obtain ⟨loginData, login, rest⟩ := Option.bind_eq_some_iff.mp filled
  obtain ⟨logoutData, logout, same⟩ := Option.bind_eq_some_iff.mp rest
  cases same
  exact ⟨.filled (by decide) rfl login, .filled (by decide) rfl logout⟩

theorem UploaderData.construct_labelled {config : LoginConfig} {no : Nat} {fresh data : UploaderData}
    (constructed : Uploader.construct config no fresh = .ok (some data)) : data.Labelled := by
  obtain ⟨short, -, filled⟩ := construct_accepts constructed
  exact fill_labelled filled

theorem UploaderData.Labelled.updateLoginData {data : UploaderData} (labelled : data.Labelled)
    (serialNumber : UInt16) (time : LocalTime) :
    (data.updateLoginData serialNumber time).Labelled := by
  refine ⟨?_, labelled.logout⟩
  simp only [UploaderData.updateLoginData]
  exact Labelled.put (Labelled.put labelled.login (by decide)) (by decide)

theorem UploaderData.Labelled.updateLogoutData {data : UploaderData} (labelled : data.Labelled)
    (time : LocalTime) : (data.updateLogoutData time).Labelled := by
  refine ⟨labelled.login, ?_⟩
  simp only [UploaderData.updateLogoutData]
  exact Labelled.put (Labelled.put labelled.logout (by decide)) (by decide)

def FrameCall.cmd : FrameCall → CmdCode
  | .login _ _ => .platformLogin
  | .logout _ => .platformLogout

section Sending

variable [ByteBufferApi] [LawfulByteBuffer]

theorem UploaderData.send_login (data : UploaderData) (serialNumber : UInt16) (time : LocalTime) :
    let updated := data.updateLoginData serialNumber time
    let sent := withCheckCode updated.loginData (by decide)
    data.send (.login serialNumber time) = .ok ({ updated with loginData := sent }, sent.toList) := by
  simp only [UploaderData.send, sendPacked_ok, bind, Except.bind, pure, Except.pure]

theorem UploaderData.send_logout (data : UploaderData) (time : LocalTime) :
    let updated := data.updateLogoutData time
    let sent := withCheckCode updated.logoutData (by decide)
    data.send (.logout time) = .ok ({ updated with logoutData := sent }, sent.toList) := by
  simp only [UploaderData.send, sendPacked_ok, bind, Except.bind, pure, Except.pure]

theorem UploaderData.Labelled.send {data : UploaderData} (labelled : data.Labelled)
    (call : FrameCall) :
    ∃ after frame, data.send call = .ok (after, frame) ∧ after.Labelled ∧ IsFrame frame ∧
      DataPacketHeader.cmdId frame = call.cmd.value := by
  cases call with
  | login serialNumber time =>
    obtain ⟨login, logout⟩ := labelled.updateLoginData serialNumber time
    have sent := login.withCheckCode (by decide)
    exact ⟨_, _, data.send_login serialNumber time, ⟨sent, logout⟩,
      sent.isFrame (by decide) (by decide)⟩
  | logout time =>
    obtain ⟨login, logout⟩ := labelled.updateLogoutData time
    have sent := logout.withCheckCode (by decide)
    exact ⟨_, _, data.send_logout time, ⟨login, sent⟩, sent.isFrame (by decide) (by decide)⟩

end Sending

end MotorInfoUpload
