import MotorInfoUpload.Machine.Packed
import MotorInfoUpload.Platform.LoginLoop
import MotorInfoUpload.Session.ParseDataUnit

namespace MotorInfoUpload

open Machine

/-- The `resource` of the constructor; its strings are given by their bytes. -/
structure LoginConfig where
  publicServerUserName : List UInt8
  publicServerPassword : List UInt8
  encryptionAlgorithm : Int
  paltformId : List UInt8

/-- What `localtime` returns, with its documented ranges. -/
structure LocalTime extends Tm where
  hour : Int
  min : Int
  sec : Int
  mon_range : 0 ≤ mon ∧ mon ≤ 11
  mday_range : 1 ≤ mday ∧ mday ≤ 31
  hour_range : 0 ≤ hour ∧ hour ≤ 23
  min_range : 0 ≤ min ∧ min ≤ 59
  sec_range : 0 ≤ sec ∧ sec ≤ 60

/-- An integer assigned to a `uint8_t`. -/
def byteOf (value : Int) : UInt8 := UInt8.ofNat (value % 256).toNat

theorem byteOf_toNat (value : Int) : ((byteOf value).toNat : Int) = value % 256 := by
  have positive := Int.emod_nonneg value (by decide : (256 : Int) ≠ 0)
  have small := Int.emod_lt_of_pos value (by decide : (0 : Int) < 256)
  rw [byteOf, UInt8.toNat_ofNat']
  omega

/-- The bytes of `host_to_network_short (value)` in memory. -/
def shortBytes (value : UInt16) : List UInt8 :=
  [UInt8.ofNat (value.toNat / 256), UInt8.ofNat value.toNat]

@[simp] theorem shortBytes_length (value : UInt16) : (shortBytes value).length = 2 := rfl

/-- `sizeof (LoginDataForward_t)`: header, time, serial number 2, user name 12, password 20,
encryption 1, check code 1, packed. -/
abbrev LoginDataForward.size : Nat := 66

/-- `sizeof (LogoutDataForward_t)`: header, time, serial number 2, check code 1, packed. -/
abbrev LogoutDataForward.size : Nat := 33

def DataPacketHeader.construct {size : Nat} (memory : Packed UInt8 size) (room : 24 ≤ size) :
    Packed UInt8 size :=
  let memory := memory.put 0 [35, 35] (by simp; omega)
  let memory := memory.put 3 [0xfe] (by simp; omega)
  memory.put 4 (List.replicate VINLEN 0) (by simp [VINLEN]; omega)

def LoginDataForward.construct (memory : Packed UInt8 LoginDataForward.size) :
    Packed UInt8 LoginDataForward.size :=
  let memory := DataPacketHeader.construct memory (by decide)
  let memory := memory.put 32 (List.replicate 12 0) (by decide)
  memory.put 44 (List.replicate 20 0) (by decide)

/-- `m_loginData` and `m_logoutData`. -/
structure UploaderData where
  loginData : Packed UInt8 LoginDataForward.size
  logoutData : Packed UInt8 LogoutDataForward.size

/-- The loop of the constructor from `i` on, with `left` numbers below `no`: the suffix of
the user name, which ends with the field. -/
def addOnes (length : Nat) : Nat → Nat → Packed UInt8 LoginDataForward.size →
    Packed UInt8 LoginDataForward.size
  | 0, _, loginData => loginData
  | left + 1, i, loginData =>
    if beyond : 12 ≤ length + i then loginData
    else addOnes length left (i + 1)
      (loginData.put (32 + (length + i)) [49] (by simp [LoginDataForward.size]; omega))

/-- The credentials and the encryption that the constructor puts into `m_loginData`. -/
def LoginDataForward.credentials (config : LoginConfig) (no : Nat)
    (short : config.publicServerUserName.length ≤ 12) (loginData : Packed UInt8 LoginDataForward.size) :
    Packed UInt8 LoginDataForward.size :=
  let loginData := loginData.put 32 config.publicServerUserName (by simp [LoginDataForward.size]; omega)
  let loginData := addOnes config.publicServerUserName.length no 0 loginData
  let loginData := loginData.put 44 (config.publicServerPassword.take 20)
    (by simp [LoginDataForward.size]; omega)
  let loginData := loginData.put 64 [byteOf config.encryptionAlgorithm] (by simp [LoginDataForward.size])
  loginData.put 21 (loginData.field 64 1) (by rw [Packed.field_length (by decide)]; decide)

/-- The constructor after its check: `none` when the copy of the platform id runs beyond a
structure. -/
def UploaderData.fill (config : LoginConfig) (no : Nat) (short : config.publicServerUserName.length ≤ 12)
    (fresh : UploaderData) : Option UploaderData := do
  let loginData := LoginDataForward.construct fresh.loginData
  let logoutData := DataPacketHeader.construct fresh.logoutData (by decide)
  let loginData := LoginDataForward.credentials config no short loginData
  let logoutData := logoutData.put 21 (loginData.field 64 1)
    (by rw [Packed.field_length (by decide)]; decide)
  let loginData := loginData.put 2 [CmdCode.platformLogin.value] (by simp [LoginDataForward.size])
  let logoutData := logoutData.put 2 [CmdCode.platformLogout.value] (by simp [LogoutDataForward.size])
  let loginData ← loginData.copy 4 config.paltformId
  let logoutData ← logoutData.copy 4 config.paltformId
  let dataUnitLength := LoginDataForward.size - DataPacketHeader.size - 1
  let loginData := loginData.put 22 (shortBytes (UInt16.ofNat dataUnitLength))
    (by rw [shortBytes_length]; decide)
  let dataUnitLength := LogoutDataForward.size - DataPacketHeader.size - 1
  let logoutData := logoutData.put 22 (shortBytes (UInt16.ofNat dataUnitLength))
    (by rw [shortBytes_length]; decide)
  return ⟨loginData, logoutData⟩

/-- The constructor of `Uploader`, on the memory that it is given for the two members. -/
def Uploader.construct (config : LoginConfig) (no : Nat) (fresh : UploaderData) :
    Except Exception (Option UploaderData) :=
  if illegal : config.publicServerUserName.length > 12 ∨ config.publicServerPassword.length > 20 then
    .error (.runtime "Uploader(): PublicServerUserName or PublicServerPassword Illegal")
  else .ok (fresh.fill config no (by omega))

def timeBytes (time : LocalTime) : List UInt8 :=
  [byteOf (time.year - 100), byteOf (time.mon + 1), byteOf time.mday, byteOf time.hour, byteOf time.min,
    byteOf time.sec]

@[simp] theorem timeBytes_length (time : LocalTime) : (timeBytes time).length = 6 := rfl

def UploaderData.updateLoginData (data : UploaderData) (serialNumber : UInt16) (time : LocalTime) :
    UploaderData :=
  let loginData := data.loginData.put 24 (timeBytes time) (by rw [timeBytes_length]; decide)
  { data with
    loginData := loginData.put 30 (shortBytes serialNumber) (by rw [shortBytes_length]; decide) }

def UploaderData.updateLogoutData (data : UploaderData) (time : LocalTime) : UploaderData :=
  let logoutData := data.logoutData.put 24 (timeBytes time) (by rw [timeBytes_length]; decide)
  { data with
    logoutData := logoutData.put 30 (data.loginData.field 30 2)
      (by rw [Packed.field_length (by decide)]; decide) }

/-- A `ByteBuffer` around a structure, not a copy of it. -/
def wrapped {size : Nat} (memory : Packed UInt8 size) : ByteBuffer :=
  ⟨memory.toList, 0, size, Nat.zero_le _, by simp⟩

theorem wrapped_window {size : Nat} (memory : Packed UInt8 size) :
    (wrapped memory).window = memory.toList := by
  change (memory.toList.take size).drop 0 = _
  rw [List.drop_zero, List.take_of_length_le (by simp)]

section Sending

variable [ByteBufferApi]

/-- The two cases of `tcpSendData` that send a structure: its check code is its last byte,
and what is sent is the structure with it. -/
def sendPacked {size : Nat} (memory : Packed UInt8 size) (room : 3 < size) :
    Except Exception (Packed UInt8 size × List UInt8) := do
  let checkCode ← Util.generateBlockCheckCharacterOf (wrapped memory) 2 (size - 3)
  let memory := memory.put (size - 1) [checkCode] (by simp; omega)
  return (memory, (wrapped memory).window)

/-- What `setupConnAndLogin` and `logout` have sent. -/
inductive FrameCall where
  | login (serialNumber : UInt16) (time : LocalTime)
  | logout (time : LocalTime)

def UploaderData.send (data : UploaderData) : FrameCall → Except Exception (UploaderData × List UInt8)
  | .login serialNumber time => do
    let data := data.updateLoginData serialNumber time
    let (loginData, frame) ← sendPacked data.loginData (by decide)
    return ({ data with loginData }, frame)
  | .logout time => do
    let data := data.updateLogoutData time
    let (logoutData, frame) ← sendPacked data.logoutData (by decide)
    return ({ data with logoutData }, frame)

def UploaderData.sends (data : UploaderData) : List FrameCall → Except Exception UploaderData
  | [] => .ok data
  | call :: older => do
    let data ← data.sends older
    let (data, _) ← data.send call
    return data

end Sending

/-- The loop adds as many characters as there is room for, at most `left`. -/
theorem addOnes_eq {length left i : Nat} {loginData : Packed UInt8 LoginDataForward.size}
    (room : length + i ≤ 12) :
    addOnes length left i loginData = loginData.put (32 + (length + i))
      (List.replicate (min left (12 - (length + i))) 49) (by simp [LoginDataForward.size]; omega) := by
  induction left generalizing i loginData with
  | zero => simp [addOnes, Packed.put_nil]
  | succ left ih =>
    unfold addOnes
    split
    · have none : 12 - (length + i) = 0 := by omega
      simp [none, Packed.put_nil]
    · have count : min (left + 1) (12 - (length + i)) = min left (12 - (length + (i + 1))) + 1 := by
        omega
      rw [ih (by omega)]
      apply Packed.put_put_next
      · simp
        omega
      · rw [count, List.replicate_succ]
        rfl

def padded (length : Nat) (bytes : List UInt8) : List UInt8 :=
  bytes ++ List.replicate (length - bytes.length) 0

/-- The user name of a channel: a character `1` for each auxiliary link, up to the end of
the field. -/
def channelName (name : List UInt8) (no : Nat) : List UInt8 :=
  name ++ List.replicate (min no (12 - name.length)) 49

structure Headed {size : Nat} (cmd : CmdCode) (config : LoginConfig) (memory : Packed UInt8 size) :
    Prop where
  startCode : memory.field 0 2 = [35, 35]
  cmdId : memory.field 2 1 = [cmd.value]
  vin : memory.field 4 VINLEN = padded VINLEN config.paltformId
  encryptionAlgorithm : memory.field 21 1 = [byteOf config.encryptionAlgorithm]
  dataUnitLength : memory.field 22 2 = shortBytes (UInt16.ofNat (size - DataPacketHeader.size - 1))

/-- A filled `m_loginData`. -/
structure Filled (config : LoginConfig) (no : Nat) (loginData : Packed UInt8 LoginDataForward.size) :
    Prop where
  header : Headed .platformLogin config loginData
  username : loginData.field 32 12 = padded 12 (channelName config.publicServerUserName no)
  password : loginData.field 44 20 = padded 20 config.publicServerPassword
  encryptionAlgorithm : loginData.field 64 1 = [byteOf config.encryptionAlgorithm]

section Fill

variable {size : Nat} {config : LoginConfig} {no : Nat} {memory : Packed UInt8 size}

theorem DataPacketHeader.construct_start (room : 24 ≤ size) :
    (construct memory room).field 0 2 = [35, 35] := by
  simp (disch := simp [VINLEN]) only [construct, Packed.field_put_apart, Packed.field_put]

theorem DataPacketHeader.construct_vin (room : 24 ≤ size) :
    (construct memory room).field 4 VINLEN = List.replicate VINLEN 0 := by
  simp only [construct, Packed.field_put, List.length_replicate]

theorem Headed.put {cmd : CmdCode} {offset : Nat} {cells : List UInt8}
    {fits : offset + cells.length ≤ size} (headed : Headed cmd config memory) (behind : 24 ≤ offset) :
    Headed cmd config (memory.put offset cells fits) := by
  obtain ⟨startCode, cmdId, vin, encryptionAlgorithm, dataUnitLength⟩ := headed
  constructor
  · rw [Packed.field_put_apart (by omega), startCode]
  · rw [Packed.field_put_apart (by omega), cmdId]
  · rw [Packed.field_put_apart (by unfold VINLEN; omega), vin]
  · rw [Packed.field_put_apart (by omega), encryptionAlgorithm]
  · rw [Packed.field_put_apart (by omega), dataUnitLength]

theorem channelName_length (no : Nat) (short : config.publicServerUserName.length ≤ 12) :
    (channelName config.publicServerUserName no).length ≤ 12 := by
  simp only [channelName, List.length_append, List.length_replicate]
  omega

theorem username_written (short : config.publicServerUserName.length ≤ 12)
    (loginData : Packed UInt8 LoginDataForward.size)
    (fits : 32 + config.publicServerUserName.length ≤ LoginDataForward.size)
    (both : 32 + (channelName config.publicServerUserName no).length ≤ LoginDataForward.size) :
    addOnes config.publicServerUserName.length no 0 (loginData.put 32 config.publicServerUserName fits) =
      loginData.put 32 (channelName config.publicServerUserName no) both := by
  rw [addOnes_eq (by omega)]
  exact Packed.put_put_next rfl rfl

theorem field_put_padded {offset length : Nat} {cells : List UInt8} {fits : offset + cells.length ≤ size}
    (within : cells.length ≤ length) (clear : memory.field offset length = List.replicate length 0) :
    (memory.put offset cells fits).field offset length = padded length cells := by
  rw [Packed.field_put_start within, clear, List.drop_replicate, padded]

/-- The credentials are behind the header, but for the encryption, its byte 21. -/
theorem LoginDataForward.credentials_header (no : Nat) (short : config.publicServerUserName.length ≤ 12)
    (legal : config.publicServerPassword.length ≤ 20) {loginData : Packed UInt8 LoginDataForward.size}
    {offset length : Nat} (header : offset + length ≤ 21) :
    (credentials config no short loginData).field offset length = loginData.field offset length := by
  have bound := channelName_length no short
  have both : 32 + (channelName config.publicServerUserName no).length ≤ LoginDataForward.size := by
    change _ ≤ 66
    omega
  simp only [credentials, username_written short _ _ both, List.take_of_length_le legal]
  rw [Packed.field_put_apart (.inl header), Packed.field_put_apart (.inl (by omega)),
    Packed.field_put_apart (.inl (by omega)), Packed.field_put_apart (.inl (by omega))]

theorem LoginDataForward.credentials_filled (no : Nat) (short : config.publicServerUserName.length ≤ 12)
    (legal : config.publicServerPassword.length ≤ 20) (fresh : Packed UInt8 LoginDataForward.size) :
    let loginData := credentials config no short (construct fresh)
    loginData.field 0 2 = [35, 35] ∧ loginData.field 4 VINLEN = List.replicate VINLEN 0 ∧
      loginData.field 21 1 = [byteOf config.encryptionAlgorithm] ∧
      loginData.field 32 12 = padded 12 (channelName config.publicServerUserName no) ∧
      loginData.field 44 20 = padded 20 config.publicServerPassword ∧
      loginData.field 64 1 = [byteOf config.encryptionAlgorithm] := by
  have bound := channelName_length no short
  have both : 32 + (channelName config.publicServerUserName no).length ≤ LoginDataForward.size := by
    change _ ≤ 66
    omega
  intro loginData
  refine ⟨?_, ?_, ?_⟩
  · rw [credentials_header no short legal (by decide)]
    simp (disch := simp) only [construct, Packed.field_put_apart, DataPacketHeader.construct_start]
  · rw [credentials_header no short legal (by decide)]
    simp (disch := simp [VINLEN]) only [construct, Packed.field_put_apart,
      DataPacketHeader.construct_vin]
  simp only [loginData, credentials, username_written short _ _ both, List.take_of_length_le legal,
    construct]
  refine ⟨?_, ?_, ?_, ?_⟩
  · simp (disch := first | (simp; done) | (simp; omega)) only [Packed.field_put]
  · simp (disch := first | (simp; done) | (simp; omega)) only [Packed.field_put_apart, Packed.field_put]
    apply field_put_padded bound
    simp (disch := simp) only [Packed.field_put_apart, Packed.field_put]
  · simp (disch := first | (simp; done) | (simp; omega)) only [Packed.field_put_apart, Packed.field_put]
    apply field_put_padded legal
    simp (disch := first | (simp; done) | (simp; omega)) only [Packed.field_put_apart, Packed.field_put]
  · simp (disch := simp) only [Packed.field_put_apart, Packed.field_put]

theorem headed_filled {cmd : CmdCode} (room : 24 ≤ size) (fits : config.paltformId.length ≤ VINLEN)
    (startCode : memory.field 0 2 = [35, 35]) (clear : memory.field 4 VINLEN = List.replicate VINLEN 0)
    (encryption : memory.field 21 1 = [byteOf config.encryptionAlgorithm]) :
    Headed cmd config (((memory.put 2 [cmd.value] (by simp; omega)).put 4 config.paltformId
      (by simp only [VINLEN] at fits; omega)).put 22
      (shortBytes (UInt16.ofNat (size - DataPacketHeader.size - 1))) (by simp; omega)) := by
  have vinLength : VINLEN = 17 := rfl
  constructor
  · simp (disch := first | (simp; done) | (simp; omega)) only [Packed.field_put_apart, startCode]
  · simp (disch := first | (simp; done) | (simp; omega)) only [Packed.field_put_apart, Packed.field_put]
  · rw [Packed.field_put_apart (.inl (by omega))]
    apply field_put_padded fits
    simp (disch := first | (simp; done) | (simp; omega)) only [Packed.field_put_apart, clear]
  · simp (disch := first | (simp; done) | (simp; omega)) only [Packed.field_put_apart, encryption]
  · exact Packed.field_put rfl

private theorem behind_header {offset length : Nat} {cmdId vin unit : List UInt8}
    {fits : 2 + cmdId.length ≤ size} {vinFits : 4 + vin.length ≤ size}
    {unitFits : 22 + unit.length ≤ size} (command : cmdId.length = 1)
    (short : vin.length ≤ VINLEN) (counted : unit.length = 2) (behind : 24 ≤ offset) :
    (((memory.put 2 cmdId fits).put 4 vin vinFits).put 22 unit unitFits).field offset length =
      memory.field offset length := by
  have vinLength : VINLEN = 17 := rfl
  rw [Packed.field_put_apart (.inr (by omega)), Packed.field_put_apart (.inr (by omega)),
    Packed.field_put_apart (.inr (by omega))]

theorem UploaderData.fill_filled (no : Nat) (short : config.publicServerUserName.length ≤ 12)
    (legal : config.publicServerPassword.length ≤ 20) (fits : config.paltformId.length ≤ VINLEN)
    (fresh : UploaderData) :
    ∃ data, fresh.fill config no short = some data ∧ Filled config no data.loginData ∧
      Headed .platformLogout config data.logoutData := by
  have vinLength : VINLEN = 17 := rfl
  obtain ⟨startCode, clear, headerEncryption, username, password, encryption⟩ :=
    LoginDataForward.credentials_filled no short legal fresh.loginData
  have loginFits : 4 + config.paltformId.length ≤ LoginDataForward.size := by
    change _ ≤ 66
    omega
  have logoutFits : 4 + config.paltformId.length ≤ LogoutDataForward.size := by
    change _ ≤ 33
    omega
  simp only [fill, Packed.copy_fits loginFits, Packed.copy_fits logoutFits, bind, Option.bind, pure]
  refine ⟨_, rfl, ⟨?_, ?_, ?_, ?_⟩, ?_⟩
  · exact headed_filled (by decide) fits startCode clear headerEncryption
  · rw [behind_header rfl fits rfl (by decide), username]
  · rw [behind_header rfl fits rfl (by decide), password]
  · rw [behind_header rfl fits rfl (by decide), encryption]
  · apply headed_filled (by decide) fits
    · simp (disch := first | (simp; done) | (simp; omega)) only [encryption, Packed.field_put_apart,
        DataPacketHeader.construct_start]
    · simp (disch := first | (simp; done) | (simp; omega)) only [encryption, Packed.field_put_apart,
        DataPacketHeader.construct_vin]
    · simp only [encryption]
      exact Packed.field_put rfl

end Fill

/-- The bytes of a frame decode, by the layout of the header, to a platform login or logout
of the configuration with the given number and time. -/
structure FrameEncodes (cmd : CmdCode) (config : LoginConfig) (serialNumber : UInt16) (time : LocalTime)
    (frame : List UInt8) : Prop where
  startCode : DataPacketHeader.startCode frame = [35, 35]
  cmdId : DataPacketHeader.cmdId frame = cmd.value
  vin : DataPacketHeader.vin frame = padded VINLEN config.paltformId
  encryptionAlgorithm : ((frame.getD 21 0).toNat : Int) = config.encryptionAlgorithm
  dataUnitLength : DataPacketHeader.dataUnitLength frame = frame.length - 25
  year : ((frame.getD 24 0).toNat : Int) = time.year - 100
  mon : ((frame.getD 25 0).toNat : Int) = time.mon + 1
  mday : ((frame.getD 26 0).toNat : Int) = time.mday
  hour : ((frame.getD 27 0).toNat : Int) = time.hour
  min : ((frame.getD 28 0).toNat : Int) = time.min
  sec : ((frame.getD 29 0).toNat : Int) = time.sec
  serial : (frame.getD 30 0).toNat * 256 + (frame.getD 31 0).toNat = serialNumber.toNat
  checkCode : CheckCodeRight frame

/-- A login frame of the configuration, on the link `no`. -/
structure LoginEncodes (config : LoginConfig) (no : Nat) (serialNumber : UInt16) (time : LocalTime)
    (frame : List UInt8) : Prop extends FrameEncodes .platformLogin config serialNumber time frame where
  size : frame.length = LoginDataForward.size
  username : (frame.drop 32).take 12 = padded 12 (channelName config.publicServerUserName no)
  password : (frame.drop 44).take 20 = padded 20 config.publicServerPassword
  loginEncryption : ((frame.getD 64 0).toNat : Int) = config.encryptionAlgorithm

structure LogoutEncodes (config : LoginConfig) (serialNumber : UInt16) (time : LocalTime)
    (frame : List UInt8) : Prop extends FrameEncodes .platformLogout config serialNumber time frame where
  size : frame.length = LogoutDataForward.size

/-- The configuration and the time fit into the fields of a frame. -/
structure Encodable (config : LoginConfig) (time : LocalTime) : Prop where
  paltformId : config.paltformId.length ≤ VINLEN
  encryptionAlgorithm : 0 ≤ config.encryptionAlgorithm ∧ config.encryptionAlgorithm ≤ 255
  year : 100 ≤ time.year ∧ time.year ≤ 355

section Encoding

variable {size : Nat} {config : LoginConfig} {no : Nat} {memory : Packed UInt8 size} {cmd : CmdCode}
  {serialNumber : UInt16} {time : LocalTime} {frame : List UInt8}

theorem FrameEncodes.encodable (encodes : FrameEncodes cmd config serialNumber time frame) :
    Encodable config time where
  paltformId := by
    have length := congrArg List.length encodes.vin
    simp only [DataPacketHeader.vin, padded, List.length_take, List.length_append,
      List.length_replicate] at length
    omega
  encryptionAlgorithm := by
    have bound := (frame.getD 21 0).toNat_lt
    have same := encodes.encryptionAlgorithm
    omega
  year := by
    have bound := (frame.getD 24 0).toNat_lt
    have same := encodes.year
    omega

def withCheckCode (memory : Packed UInt8 size) (room : 3 < size) : Packed UInt8 size :=
  memory.put (size - 1) [xorBytes (memory.field 2 (size - 3))] (by simp; omega)

theorem checkCode_right (room : 3 < size) : CheckCodeRight (withCheckCode memory room).toList := by
  have length := memory.toList_length
  have whole : (withCheckCode memory room).toList =
      memory.toList.take (size - 1) ++ [xorBytes (memory.field 2 (size - 3))] := by
    change _ ++ _ ++ memory.toList.drop _ = _
    rw [List.drop_eq_nil_of_le (by simp; omega), List.append_nil]
  have checked : ((withCheckCode memory room).toList.drop 2).dropLast = memory.field 2 (size - 3) := by
    rw [whole, List.drop_append_of_le_length (by simp; omega), List.dropLast_concat, List.drop_take]
    rfl
  rw [CheckCodeRight, checked, whole, List.getLast?_concat]

theorem sendPacked_ok [ByteBufferApi] [LawfulByteBuffer] (room : 3 < size) :
    sendPacked memory room = .ok (withCheckCode memory room, (withCheckCode memory room).toList) := by
  have nonempty : memory.field 2 (size - 3) ≠ [] := by
    apply List.ne_nil_of_length_pos
    rw [Packed.field_length (by omega)]
    omega
  have checked : Util.generateBlockCheckCharacterOf (wrapped memory) 2 (size - 3) =
      .ok (xorBytes (memory.field 2 (size - 3))) := by
    have enough : ¬ ByteBufferApi.remaining (wrapped memory) < 2 + (size - 3) := by
      rw [LawfulByteBuffer.remaining_eq]
      change ¬ size - 0 < _
      omega
    rw [Util.generateBlockCheckCharacterOf, if_neg enough]
    exact Util.generateBlockCheckCharacter_ok nonempty
  simp only [sendPacked, checked, wrapped_window, withCheckCode, bind, Except.bind, pure, Except.pure]

theorem withCheckCode_field {offset length : Nat} (room : 3 < size)
    (apart : offset + length ≤ size - 1) :
    (withCheckCode memory room).field offset length = memory.field offset length :=
  Packed.field_put_apart (.inl apart)

theorem shortBytes_value (value : UInt16) :
    (UInt8.ofNat (value.toNat / 256)).toNat * 256 + (UInt8.ofNat value.toNat).toNat = value.toNat := by
  have small := value.toNat_lt
  rw [UInt8.toNat_ofNat', UInt8.toNat_ofNat']
  omega

private theorem byte_exact {offset length i : Nat} {cells : List UInt8} {value : Int}
    (known : memory.field offset length = cells) (inside : i < length)
    (given : cells.getD i 0 = byteOf value) (positive : 0 ≤ value) (small : value ≤ 255) :
    ((memory.toList.getD (offset + i) 0).toNat : Int) = value := by
  rw [Packed.getD_of_field known inside, given, byteOf_toNat]
  omega

theorem short_exact {offset : Nat} {value : UInt16}
    (known : memory.field offset 2 = shortBytes value) :
    (memory.toList.getD offset 0).toNat * 256 + (memory.toList.getD (offset + 1) 0).toNat =
      value.toNat := by
  have high := Packed.getD_of_field known (Nat.zero_lt_two) 0
  have low := Packed.getD_of_field known (Nat.one_lt_two) 0
  rw [← shortBytes_value value, low]
  exact congrArg (fun byte : UInt8 => byte.toNat * 256 + _) high

/-- A structure with the right fields is sent as a frame that decodes to what they stand for. -/
theorem frameEncodes (room : 33 ≤ size) (small : size < 65536) (headed : Headed cmd config memory)
    (timed : memory.field 24 6 = timeBytes time) (numbered : memory.field 30 2 = shortBytes serialNumber)
    (encodable : Encodable config time) :
    FrameEncodes cmd config serialNumber time (withCheckCode memory (by omega)).toList := by
  have sent : Headed cmd config (withCheckCode memory (by omega)) := headed.put (by omega)
  rw [← withCheckCode_field (by omega) (by omega)] at timed numbered
  obtain ⟨_, ⟨notNegative, byteLong⟩, year⟩ := encodable
  have mon := time.mon_range
  have mday := time.mday_range
  have hour := time.hour_range
  have min := time.min_range
  have sec := time.sec_range
  constructor
  · exact sent.startCode
  · exact Packed.getD_of_field sent.cmdId Nat.zero_lt_one 0
  · exact sent.vin
  · exact byte_exact sent.encryptionAlgorithm Nat.zero_lt_one rfl notNegative byteLong
  · have length := short_exact sent.dataUnitLength
    rw [UInt16.toNat_ofNat', DataPacketHeader.size] at length
    rw [DataPacketHeader.dataUnitLength, length, List.Vector.toList_length]
    omega
  · exact byte_exact timed (i := 0) (by decide) rfl (by omega) (by omega)
  · exact byte_exact timed (i := 1) (by decide) rfl (by omega) (by omega)
  · exact byte_exact timed (i := 2) (by decide) rfl (by omega) (by omega)
  · exact byte_exact timed (i := 3) (by decide) rfl (by omega) (by omega)
  · exact byte_exact timed (i := 4) (by decide) rfl (by omega) (by omega)
  · exact byte_exact timed (i := 5) (by decide) rfl (by omega) (by omega)
  · exact short_exact numbered
  · exact checkCode_right (by omega)

end Encoding

def lastSerial : List FrameCall → Option UInt16
  | [] => none
  | .login serialNumber _ :: _ => some serialNumber
  | .logout _ :: older => lastSerial older

section Runs

variable {config : LoginConfig} {no : Nat} {data : UploaderData} {older : List FrameCall}
  {serialNumber : UInt16} {time : LocalTime}

theorem Filled.put {loginData : Packed UInt8 LoginDataForward.size} {offset : Nat} {cells : List UInt8}
    {fits : offset + cells.length ≤ LoginDataForward.size} (filled : Filled config no loginData)
    (behind : 24 ≤ offset) (apart : offset + cells.length ≤ 32 ∨ 65 ≤ offset) :
    Filled config no (loginData.put offset cells fits) where
  header := filled.header.put behind
  username := by rw [Packed.field_put_apart (by omega), filled.username]
  password := by rw [Packed.field_put_apart (by omega), filled.password]
  encryptionAlgorithm := by rw [Packed.field_put_apart (by omega), filled.encryptionAlgorithm]

structure Ready (config : LoginConfig) (no : Nat) (data : UploaderData) (older : List FrameCall) :
    Prop where
  login : Filled config no data.loginData
  logout : Headed .platformLogout config data.logoutData
  serial : ∀ serialNumber, lastSerial older = some serialNumber →
    data.loginData.field 30 2 = shortBytes serialNumber

theorem updateLoginData_time :
    (data.updateLoginData serialNumber time).loginData.field 24 6 = timeBytes time := by
  simp only [UploaderData.updateLoginData]
  rw [Packed.field_put_apart (.inl (by simp)), Packed.field_put (timeBytes_length time)]

theorem updateLoginData_serial :
    (data.updateLoginData serialNumber time).loginData.field 30 2 = shortBytes serialNumber := by
  simp only [UploaderData.updateLoginData]
  exact Packed.field_put rfl

theorem updateLoginData_filled (filled : Filled config no data.loginData) :
    Filled config no (data.updateLoginData serialNumber time).loginData := by
  simp only [UploaderData.updateLoginData]
  have timed : Filled config no
      (data.loginData.put 24 (timeBytes time) (by simp [LoginDataForward.size])) :=
    filled.put (by decide) (.inl (by simp))
  exact timed.put (by decide) (.inl (by simp))

theorem updateLogoutData_time :
    (data.updateLogoutData time).logoutData.field 24 6 = timeBytes time := by
  simp only [UploaderData.updateLogoutData]
  rw [Packed.field_put_apart (.inl (by simp)), Packed.field_put (timeBytes_length time)]

theorem updateLogoutData_serial :
    (data.updateLogoutData time).logoutData.field 30 2 = data.loginData.field 30 2 := by
  simp only [UploaderData.updateLogoutData]
  exact Packed.field_put (Packed.field_length (by decide))

theorem updateLogoutData_headed (headed : Headed .platformLogout config data.logoutData) :
    Headed .platformLogout config (data.updateLogoutData time).logoutData := by
  simp only [UploaderData.updateLogoutData]
  have timed : Headed .platformLogout config
      (data.logoutData.put 24 (timeBytes time) (by simp [LogoutDataForward.size])) :=
    headed.put (by decide)
  exact timed.put (by decide)

section Sent

variable [ByteBufferApi]

theorem sends_cons {reached after : UploaderData} {call : FrameCall} {frame : List UInt8}
    (sent : data.sends older = .ok reached) (sending : reached.send call = .ok (after, frame)) :
    data.sends (call :: older) = .ok after := by
  simp [UploaderData.sends, sent, sending, bind, Except.bind, pure, Except.pure]

variable [LawfulByteBuffer]

theorem Ready.loginSent (ready : Ready config no data older) (serialNumber : UInt16) (time : LocalTime) :
    ∃ loginData, data.send (.login serialNumber time) = .ok ({ data with loginData }, loginData.toList) ∧
      Ready config no { data with loginData } (.login serialNumber time :: older) ∧
      (Encodable config time → LoginEncodes config no serialNumber time loginData.toList) := by
  have filled : Filled config no (data.updateLoginData serialNumber time).loginData :=
    updateLoginData_filled ready.login
  have sent : Filled config no
      (withCheckCode (data.updateLoginData serialNumber time).loginData (by decide)) :=
    filled.put (by decide) (.inr (by decide))
  refine ⟨withCheckCode (data.updateLoginData serialNumber time).loginData (by decide), ?_, ?_, ?_⟩
  · simp only [UploaderData.send, sendPacked_ok, bind, Except.bind, pure, Except.pure]
    rfl
  · refine ⟨sent, ready.logout, ?_⟩
    intro number last
    cases last
    rw [withCheckCode_field _ (by decide), updateLoginData_serial]
  · intro encodable
    have encodes := frameEncodes (by decide) (by decide) filled.header updateLoginData_time
      updateLoginData_serial encodable
    obtain ⟨notNegative, byteLong⟩ := encodable.encryptionAlgorithm
    have encryption := byte_exact sent.encryptionAlgorithm Nat.zero_lt_one rfl notNegative byteLong
    exact ⟨encodes, List.Vector.toList_length _, sent.username, sent.password, encryption⟩

theorem Ready.logoutSent (ready : Ready config no data older) (time : LocalTime) :
    ∃ logoutData, data.send (.logout time) = .ok ({ data with logoutData }, logoutData.toList) ∧
      Ready config no { data with logoutData } (.logout time :: older) ∧
      (Encodable config time → ∀ serialNumber, lastSerial older = some serialNumber →
        LogoutEncodes config serialNumber time logoutData.toList) := by
  have headed : Headed .platformLogout config (data.updateLogoutData time).logoutData :=
    updateLogoutData_headed ready.logout
  have sent : Headed .platformLogout config
      (withCheckCode (data.updateLogoutData time).logoutData (by decide)) := headed.put (by decide)
  refine ⟨withCheckCode (data.updateLogoutData time).logoutData (by decide), ?_, ?_, ?_⟩
  · simp only [UploaderData.send, sendPacked_ok, bind, Except.bind, pure, Except.pure]
    rfl
  · exact ⟨ready.login, sent, ready.serial⟩
  · intro encodable serialNumber last
    have numbered : (data.updateLogoutData time).logoutData.field 30 2 = shortBytes serialNumber := by
      rw [updateLogoutData_serial, ready.serial serialNumber last]
    exact ⟨frameEncodes (by decide) (by decide) headed updateLogoutData_time numbered encodable,
      List.Vector.toList_length _⟩

theorem Ready.sends (ready : Ready config no data []) (older : List FrameCall) :
    ∃ reached, data.sends older = .ok reached ∧ Ready config no reached older := by
  induction older with
  | nil => exact ⟨data, rfl, ready⟩
  | cons call older ih =>
    obtain ⟨reached, sent, readyThen⟩ := ih
    cases call with
    | login serialNumber time =>
      obtain ⟨loginData, sending, readyNow, -⟩ := readyThen.loginSent serialNumber time
      exact ⟨_, sends_cons sent sending, readyNow⟩
    | logout time =>
      obtain ⟨logoutData, sending, readyNow, -⟩ := readyThen.logoutSent time
      exact ⟨_, sends_cons sent sending, readyNow⟩

end Sent

end Runs

/-- The frame that an uploader of the configuration sends for a call, after older ones. -/
def SendsFrame [ByteBufferApi] (config : LoginConfig) (no : Nat) (fresh : UploaderData)
    (older : List FrameCall) (call : FrameCall) (frame : List UInt8) : Prop :=
  ∃ data reached after, Uploader.construct config no fresh = .ok (some data) ∧
    data.sends older = .ok reached ∧ reached.send call = .ok (after, frame)

theorem construct_accepts {config : LoginConfig} {no : Nat} {fresh : UploaderData}
    (accepted : Uploader.construct config no fresh = .ok outcome) :
    ∃ short : config.publicServerUserName.length ≤ 12, config.publicServerPassword.length ≤ 20 ∧
      fresh.fill config no short = outcome := by
  unfold Uploader.construct at accepted
  split at accepted
  · cases accepted
  · exact ⟨by omega, by omega, Except.ok.inj accepted⟩

/-- For every configuration that the constructor accepts, the login frames, and the logout
frames after one, decode to the configuration, the link, the number and the time exactly if
these fit into their fields. -/
theorem frames_encode_iff [ByteBufferApi] [LawfulByteBuffer] {config : LoginConfig} {no : Nat}
    {fresh : UploaderData} (accepted : Uploader.construct config no fresh = .ok outcome)
    (older : List FrameCall) (time : LocalTime) :
    (∀ serialNumber, (∃ frame, SendsFrame config no fresh older (.login serialNumber time) frame ∧
      LoginEncodes config no serialNumber time frame) ↔ Encodable config time) ∧
    ∀ serialNumber, lastSerial older = some serialNumber →
      ((∃ frame, SendsFrame config no fresh older (.logout time) frame ∧
        LogoutEncodes config serialNumber time frame) ↔ Encodable config time) := by
  obtain ⟨short, legal, filling⟩ := construct_accepts accepted
  have reaches (encodable : Encodable config time) : ∃ data reached,
      Uploader.construct config no fresh = .ok (some data) ∧ data.sends older = .ok reached ∧
        Ready config no reached older := by
    obtain ⟨data, filled, login, logout⟩ :=
      UploaderData.fill_filled no short legal encodable.paltformId fresh
    obtain ⟨reached, sent, ready⟩ := Ready.sends ⟨login, logout, nofun⟩ older
    rw [filled] at filling
    exact ⟨data, reached, by rw [accepted, filling], sent, ready⟩
  constructor
  · intro serialNumber
    constructor
    · rintro ⟨frame, -, encodes⟩
      exact encodes.encodable
    · intro encodable
      obtain ⟨data, reached, constructed, sent, ready⟩ := reaches encodable
      obtain ⟨loginData, sending, -, encodes⟩ := ready.loginSent serialNumber time
      exact ⟨_, ⟨data, reached, _, constructed, sent, sending⟩, encodes encodable⟩
  · intro serialNumber last
    constructor
    · rintro ⟨frame, -, encodes⟩
      exact encodes.encodable
    · intro encodable
      obtain ⟨data, reached, constructed, sent, ready⟩ := reaches encodable
      obtain ⟨logoutData, sending, -, encodes⟩ := ready.logoutSent time
      exact ⟨_, ⟨data, reached, _, constructed, sent, sending⟩, encodes encodable serialNumber last⟩

/-- The first moment of July 2017. -/
def sampleTime : LocalTime :=
  ⟨⟨117, 6, 1⟩, 0, 0, 0, by decide, by decide, by decide, by decide, by decide⟩

def sampleMemory : UploaderData := ⟨⟨List.replicate 66 0, rfl⟩, ⟨List.replicate 33 0, rfl⟩⟩

/-- An id that fills its field, on the second link: the login frame and the logout after it. -/
theorem frames_encode_second :
    let := ByteBuffer.reference
    let config : LoginConfig := ⟨[84, 84], [48], 1, List.replicate 17 51⟩
    (∃ frame, SendsFrame config 1 sampleMemory [] (.login 7 sampleTime) frame ∧
        LoginEncodes config 1 7 sampleTime frame) ∧
      ∃ frame, SendsFrame config 1 sampleMemory [.login 7 sampleTime] (.logout sampleTime) frame ∧
        LogoutEncodes config 7 sampleTime frame := by
  intro _ config
  have := ByteBuffer.reference_lawful
  have accepted : Uploader.construct config 1 sampleMemory =
      .ok (sampleMemory.fill config 1 (by decide)) := rfl
  have encodable : Encodable config sampleTime := ⟨by decide, by decide, by decide⟩
  obtain ⟨login, _⟩ := frames_encode_iff accepted [] sampleTime
  obtain ⟨_, logout⟩ := frames_encode_iff accepted [.login 7 sampleTime] sampleTime
  exact ⟨(login 7).mpr encodable, (logout 7 rfl).mpr encodable⟩

/-- An id of 18 bytes: its last one is sent as the encryption algorithm. -/
theorem login_frame_overrun :
    ∃ frame, @SendsFrame ByteBuffer.reference ⟨[84, 84], [48], 1, List.replicate 17 51 ++ [65]⟩ 0
        sampleMemory [] (.login 7 sampleTime) frame ∧
      frame.getD 21 0 = 65 ∧
      ¬ LoginEncodes ⟨[84, 84], [48], 1, List.replicate 17 51 ++ [65]⟩ 0 7 sampleTime frame := by
  let := ByteBuffer.reference
  refine ⟨_, ⟨_, _, _, rfl, rfl, rfl⟩, by decide, fun encodes => ?_⟩
  exact absurd encodes.encodable.paltformId (by decide)

end MotorInfoUpload
