namespace MotorInfoUpload

/-- The exceptions the modelled code throws. `runtime` is `std::runtime_error`,
`byteBuffer` is `bytebuf::ByteBufferException`; `assertion` is a failed `assert`. -/
inductive Exception where
  | runtime (what : String)
  | byteBuffer (what : String)
  | assertion
deriving DecidableEq

/-- `size - count` on values of type `size_t`, which wraps around below zero. -/
def sizeMinus (size count : Nat) : Nat :=
  if count ≤ size then size - count else size + 18446744073709551616 - count

theorem sizeMinus_eq (enough : count ≤ size) : sizeMinus size count = size - count := if_pos enough

def VINLEN : Nat := 17

def MAXPACK_LENGTH : Nat := 512

inductive CmdCode where
  | init
  | vehicleLogin
  | realtimeUpload
  | reissueUpload
  | vehicleLogout
  | platformLogin
  | platformLogout
  | heartBeat
deriving DecidableEq

def CmdCode.value : CmdCode → UInt8
  | init => 0
  | vehicleLogin => 1
  | realtimeUpload => 2
  | reissueUpload => 3
  | vehicleLogout => 4
  | platformLogin => 5
  | platformLogout => 6
  | heartBeat => 7

inductive ResponseFlag where
  | success
  | error
  | vinrepeat
deriving DecidableEq

def ResponseFlag.value : ResponseFlag → UInt8
  | success => 1
  | error => 2
  | vinrepeat => 3

inductive EnumRunMode where
  | release
  | vehicleCompliance
  | platformCompliance
deriving DecidableEq

inductive ResponseReaderStatus where
  | init
  | responseOk
  | timeout
  | responseNotOk
  | connectionClosed
  | responseFormatErr
deriving DecidableEq

namespace DataPacketHeader

/-- `sizeof (DataPacketHeader_t)`: start code 2, command 1, response flag 1,
VIN 17, encryption 1, data unit length 2, packed. -/
def size : Nat := 24

def startCode (memory : List UInt8) : List UInt8 := memory.take 2

def cmdId (memory : List UInt8) : UInt8 := memory.getD 2 0

def responseFlag (memory : List UInt8) : UInt8 := memory.getD 3 0

def vin (memory : List UInt8) : List UInt8 := (memory.drop 4).take VINLEN

/-- `network_to_host_short (dataUnitLength)`. -/
def dataUnitLength (memory : List UInt8) : Nat :=
  (memory.getD 22 0).toNat * 256 + (memory.getD 23 0).toNat

def setCmdId (memory : List UInt8) (cmdId : CmdCode) : List UInt8 := memory.set 2 cmdId.value

def setResponseFlag (memory : List UInt8) (flag : ResponseFlag) : List UInt8 :=
  memory.set 3 flag.value

/-- `dataUnitLength = host_to_network_short (length)`. -/
def setDataUnitLength (memory : List UInt8) (length : UInt16) : List UInt8 :=
  (memory.set 22 (UInt8.ofNat (length.toNat / 256))).set 23 (UInt8.ofNat length.toNat)

@[simp] theorem setCmdId_length : (setCmdId memory code).length = memory.length := by
  simp [setCmdId]

@[simp] theorem setResponseFlag_length :
    (setResponseFlag memory flag).length = memory.length := by simp [setResponseFlag]

@[simp] theorem setDataUnitLength_length :
    (setDataUnitLength memory length).length = memory.length := by simp [setDataUnitLength]

end DataPacketHeader

/-- `sizeof (TimeForward_t)`. -/
def TimeForward.size : Nat := 6

namespace VehicleDataStructInfo

def CBV_typeCode : UInt8 := 1
def CBV_size : Nat := 20
def DM_typeCode : UInt8 := 2
def DM_size : Nat := 13
def L_typeCode : UInt8 := 5
def L_size : Nat := 9
def EV_typeCode : UInt8 := 6
def EV_size : Nat := 14
def A_typeCode : UInt8 := 7
def RESV_typeCode : UInt8 := 8
def REST_typeCode : UInt8 := 9

end VehicleDataStructInfo

/-- The exclusive or of a run of bytes, the loop of `generateBlockCheckCharacter`. -/
def xorBytes (bytes : List UInt8) : UInt8 := bytes.foldl (fun checkCode byte => checkCode ^^^ byte) 0

namespace Util

/-- `generateBlockCheckCharacter (ptr, size)` on the `size` bytes at `ptr`. -/
def generateBlockCheckCharacter (bytes : List UInt8) : Except Exception UInt8 :=
  if bytes.length < 1 then
    .error (.runtime "Util::generateBlockCheckCharacter(): Illegal source")
  else .ok (xorBytes bytes)

theorem generateBlockCheckCharacter_ok (nonempty : bytes ≠ []) :
    generateBlockCheckCharacter bytes = .ok (xorBytes bytes) := by
  have positive := List.length_pos_iff.mpr nonempty
  exact if_neg (by omega)

end Util

/-- A frame's last byte is the exclusive or of its bytes from index 2 to the
one before last: the rule of `readResponse` for the platform's frames. -/
def CheckCodeRight (frame : List UInt8) : Prop :=
  frame.getLast? = some (xorBytes ((frame.drop 2).dropLast))

instance (frame : List UInt8) : Decidable (CheckCodeRight frame) :=
  inferInstanceAs (Decidable (_ = _))

/-- A frame that starts with `##` and carries the right check code. -/
def ValidFrame (frame : List UInt8) : Prop :=
  DataPacketHeader.startCode frame = [35, 35] ∧ CheckCodeRight frame

instance (frame : List UInt8) : Decidable (ValidFrame frame) :=
  inferInstanceAs (Decidable (_ ∧ _))

end MotorInfoUpload
