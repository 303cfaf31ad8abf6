import MotorInfoUpload.Machine.Logged
import MotorInfoUpload.Session.UploadFilter

/-! The regions of memory that `parseDataUnit` writes: its functions once more, each
with a log of its writes. Without the log they are the functions themselves. -/

namespace MotorInfoUpload

open Machine

structure Region where
  capacity : Nat
  offset : Nat
  length : Nat
deriving DecidableEq

/-- The region lies inside a buffer of the given capacity, which is that of its own. -/
def Region.Inside (capacity : Nat) (region : Region) : Prop :=
  region.capacity = capacity ∧ region.offset + region.length ≤ capacity

instance (capacity : Nat) (region : Region) : Decidable (region.Inside capacity) :=
  inferInstanceAs (Decidable (_ ∧ _))

variable [ByteBufferApi]

namespace Filter

/-- `rtData->put (*m_packetRef, count)`, which writes nothing when the packet has
less left. -/
def putLogged (count : Nat) (filter : Filter) : Logged Region Exception Filter where
  log := if filter.packetRef.position + count ≤ filter.packetRef.limit then
      [⟨filter.rtData.capacity, filter.rtData.position, count⟩]
    else []
  result := filter.put count

def putFaultsLogged (filter : Filter) : Logged Region Exception Filter := do
  let n ← Logged.quiet filter.peek
  let n := if n = 0xff ∨ n = 0xfe then 0 else n.toNat
  filter.putLogged (1 + n * 4)

def putAlarmLogged (filter : Filter) : Logged Region Exception Filter := do
  let filter ← filter.putLogged 6
  let filter ← filter.putFaultsLogged
  let filter ← filter.putFaultsLogged
  let filter ← filter.putFaultsLogged
  filter.putFaultsLogged

open VehicleDataStructInfo in
/-- The cases of voltage and temperature blocks only move in the packet. -/
def switchLogged (typ : UInt8) (filter : Filter) : Logged Region Exception Filter :=
  if typ = CBV_typeCode then filter.putLogged (CBV_size + 1)
  else if typ = DM_typeCode then filter.putLogged (DM_size + 1)
  else if typ = L_typeCode then filter.putLogged (L_size + 1)
  else if typ = EV_typeCode then filter.putLogged (EV_size + 1)
  else if typ = A_typeCode then filter.putAlarmLogged
  else if typ = RESV_typeCode then .quiet filter.skipVoltageBlock
  else if typ = REST_typeCode then .quiet filter.skipTemperatureBlock
  else .quiet (.error (.runtime ("invalid info type code: " ++ toString typ.toNat)))

def blockLogged (filter : Filter) : Logged Region Exception Filter := do
  let typ ← Logged.quiet filter.peek
  filter.switchLogged typ

def blocksLogged : Nat → Filter → Option (Logged Region Exception Filter)
  | fuel, filter =>
    if 1 < ByteBufferApi.remaining filter.packetRef then
      match fuel with
      | 0 => none
      | fuel + 1 => match filter.blockLogged.result with
        | .error _ => some filter.blockLogged
        | .ok next => (blocksLogged fuel next).map (Logged.after filter.blockLogged.log)
    else some (pure filter)

def beginLogged (packetRef : ByteBuffer) : Logged Region Exception Filter :=
  let rtData := ByteBufferApi.allocate packetRef.capacity
  let header : Logged Region Exception Filter :=
    ⟨[⟨rtData.capacity, rtData.position, DataPacketHeader.size⟩],
      match ByteBufferApi.putArray rtData packetRef.array 0 DataPacketHeader.size with
      | .error what => .error (.byteBuffer what)
      | .ok rtData => .ok ⟨packetRef, rtData⟩⟩
  header >>= putLogged TimeForward.size

/-- The new length is written into the header, the new check code behind the data. -/
def finishLogged (filter : Filter) : Logged Region Exception ByteBuffer where
  log := if ByteBufferApi.remaining filter.packetRef = 1 then
      [⟨filter.rtData.capacity, 22, 2⟩, ⟨filter.rtData.capacity, filter.rtData.position, 1⟩]
    else []
  result := filter.finish

end Filter

def parseUploadLogged (fuel : Nat) (packetRef : ByteBuffer) :
    Option (Logged Region Exception ByteBuffer) :=
  let begun := (Filter.beginLogged packetRef).mapError Filter.rethrow
  match begun.result with
  | .error exception => some ⟨begun.log, .error exception⟩
  | .ok filter => (filter.blocksLogged fuel).map fun ended =>
    (ended.mapError Filter.rethrow >>= Filter.finishLogged).after begun.log

/-- The regions that `parseDataUnit` writes for the frame that a session has read: those
of `rtData`, or the response flag and the check byte of a heartbeat. -/
def TcpSession.regions (session : TcpSession) : List Region :=
  let cmdId := DataPacketHeader.cmdId session.packetRef.array
  if cmdId = CmdCode.reissueUpload.value ∨ cmdId = CmdCode.realtimeUpload.value then
    ((parseUploadLogged session.packetRef.window.length session.packetRef).map Logged.log).getD []
  else if cmdId = CmdCode.heartBeat.value ∧ ByteBufferApi.remaining session.packetRef = 1 ∧
      session.dataUnitLen = 0 then
    [⟨session.packetRef.capacity, 3, 1⟩,
      ⟨session.packetRef.capacity, session.packetRef.position, 1⟩]
  else []

namespace Filter

@[simp] theorem putLogged_result (count : Nat) (filter : Filter) :
    (filter.putLogged count).result = filter.put count := rfl

@[simp] theorem putFaultsLogged_result (filter : Filter) :
    filter.putFaultsLogged.result = filter.putFaults := by
  simp [putFaultsLogged, putFaults]

@[simp] theorem putAlarmLogged_result (filter : Filter) :
    filter.putAlarmLogged.result = filter.putAlarm := by
  simp [putAlarmLogged, putAlarm]

@[simp] theorem switchLogged_result (typ : UInt8) (filter : Filter) :
    (filter.switchLogged typ).result = filter.switch typ := by
  unfold switchLogged switch
  repeat' split
  all_goals simp

@[simp] theorem blockLogged_result (filter : Filter) :
    filter.blockLogged.result = filter.block := by
  simp [blockLogged, block]

theorem blocksLogged_result (fuel : Nat) (filter : Filter) :
    (filter.blocksLogged fuel).map Logged.result = filter.blocks fuel := by
  induction fuel generalizing filter with
  | zero =>
    unfold blocksLogged blocks
    split <;> rfl
  | succ fuel ih =>
    unfold blocksLogged blocks
    split
    · rw [blockLogged_result]
      cases round : filter.block with
      | error exception => simp [round]
      | ok next =>
        simp only [Option.map_map]
        exact ih next
    · rfl

theorem beginLogged_result (packetRef : ByteBuffer) :
    (beginLogged packetRef).result = begin packetRef := by
  unfold beginLogged begin
  simp only [Logged.result_bind]
  cases ByteBufferApi.putArray (ByteBufferApi.allocate packetRef.capacity) packetRef.array 0
    DataPacketHeader.size <;> rfl

end Filter

/-- Without its log the filter is the one that has been verified. -/
theorem parseUploadLogged_result (fuel : Nat) (packetRef : ByteBuffer) :
    (parseUploadLogged fuel packetRef).map Logged.result = parseUpload fuel packetRef := by
  have begun : ((Filter.beginLogged packetRef).mapError Filter.rethrow).result =
      (Filter.begin packetRef).mapError Filter.rethrow := by
    rw [← Filter.beginLogged_result]
    rfl
  unfold parseUploadLogged parseUpload
  simp only [begun]
  cases Filter.begin packetRef with
  | error exception => rfl
  | ok filter =>
    have unchanged : (Except.ok filter).mapError Filter.rethrow = .ok filter := rfl
    simp only [unchanged]
    rw [← Filter.blocksLogged_result, Option.map_map, Option.map_map]
    refine congrArg (Option.map · _) (funext fun looped => ?_)
    obtain ⟨log, result⟩ := looped
    cases result <;> rfl

end MotorInfoUpload
