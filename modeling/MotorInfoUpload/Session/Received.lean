import MotorInfoUpload.Session.UploadFilter

namespace MotorInfoUpload

/-- The session has read a whole frame: its packet buffer of `MAXPACK_LENGTH`
bytes stands behind the header and is limited to the frame. -/
structure TcpSession.FrameRead (session : TcpSession) : Prop where
  capacity : session.packetRef.array.length = MAXPACK_LENGTH
  atUnit : session.packetRef.position = DataPacketHeader.size
  limited : session.packetRef.limit = DataPacketHeader.size + session.dataUnitLen + 1

instance (session : TcpSession) : Decidable session.FrameRead :=
  decidable_of_iff (session.packetRef.array.length = MAXPACK_LENGTH ∧
      session.packetRef.position = DataPacketHeader.size ∧
      session.packetRef.limit = DataPacketHeader.size + session.dataUnitLen + 1)
    ⟨fun ⟨capacity, atUnit, limited⟩ => ⟨capacity, atUnit, limited⟩,
      fun ⟨capacity, atUnit, limited⟩ => ⟨capacity, atUnit, limited⟩⟩

/-- The bytes the vehicle sent as the frame. -/
def TcpSession.frame (session : TcpSession) : List UInt8 :=
  session.packetRef.array.take session.packetRef.limit

/-- The commands of packets that `tcpSendData` sends. -/
def legalCmds : List UInt8 := [CmdCode.vehicleLogin.value, CmdCode.realtimeUpload.value,
  CmdCode.reissueUpload.value, CmdCode.vehicleLogout.value]

/-- What the uploader needs of a packet: it is read from the start, it has more
than a header and no more than a packet buffer, and its command is one that
`tcpSendData` knows. -/
structure Forwardable (buf : ByteBuffer) : Prop where
  start : buf.position = 0
  long : DataPacketHeader.size < buf.limit
  fits : buf.limit ≤ MAXPACK_LENGTH
  legal : DataPacketHeader.cmdId buf.array ∈ legalCmds

theorem cmdId_take (memory : List UInt8) (length : Nat) (long : 2 < length) :
    DataPacketHeader.cmdId (memory.take length) = DataPacketHeader.cmdId memory := by
  simp only [DataPacketHeader.cmdId, List.getD_eq_getElem?_getD, List.getElem?_take_of_lt long]

theorem cmdId_append (front back : List UInt8) (long : 2 < front.length) :
    DataPacketHeader.cmdId (front ++ back) = DataPacketHeader.cmdId front := by
  simp only [DataPacketHeader.cmdId, List.getD_eq_getElem?_getD, List.getElem?_append_left long]

theorem vin_set (memory : List UInt8) (index : Nat) (byte : UInt8)
    (outside : index < 4 ∨ 4 + VINLEN ≤ index) :
    DataPacketHeader.vin (memory.set index byte) = DataPacketHeader.vin memory := by
  unfold DataPacketHeader.vin
  rcases outside with before | behind
  · rw [List.drop_set_of_lt before]
  · rw [List.drop_set, if_neg (by omega), List.take_set_of_le (by omega)]

theorem vin_append (front back : List UInt8) (long : 4 + VINLEN ≤ front.length) :
    DataPacketHeader.vin (front ++ back) = DataPacketHeader.vin front := by
  have enough : VINLEN ≤ (front.drop 4).length := by
    rw [List.length_drop]
    omega
  unfold DataPacketHeader.vin
  rw [List.drop_append_of_le_length (by omega), List.take_append_of_le_length enough]

theorem header_congr {memory other : List UInt8}
    (same : memory.take DataPacketHeader.size = other.take DataPacketHeader.size) :
    DataPacketHeader.cmdId memory = DataPacketHeader.cmdId other ∧
      DataPacketHeader.vin memory = DataPacketHeader.vin other ∧
      DataPacketHeader.dataUnitLength memory = DataPacketHeader.dataUnitLength other := by
  have byte (index : Nat) (inside : index < DataPacketHeader.size) :
      memory.getD index 0 = other.getD index 0 := by
    rw [List.getD_eq_getElem?_getD, List.getD_eq_getElem?_getD,
      ← List.getElem?_take_of_lt inside, same, List.getElem?_take_of_lt inside]
  have vin (bytes : List UInt8) : DataPacketHeader.vin bytes =
      ((bytes.take DataPacketHeader.size).drop 4).take VINLEN := by
    rw [List.drop_take, List.take_take]
    rfl
  refine ⟨byte 2 (by decide), by rw [vin, vin, same], ?_⟩
  rw [DataPacketHeader.dataUnitLength, DataPacketHeader.dataUnitLength, byte 22 (by decide),
    byte 23 (by decide)]

theorem cmdId_uploaded (header time : List UInt8) (blocks : List (List UInt8))
    (size : header.length = DataPacketHeader.size) :
    DataPacketHeader.cmdId (uploaded header time blocks) = DataPacketHeader.cmdId header := by
  have long : 2 < (DataPacketHeader.setDataUnitLength header
      (UInt16.ofNat (filtered time blocks).length)).length := by
    rw [DataPacketHeader.setDataUnitLength_length, size]
    decide
  rw [uploaded, List.append_assoc, cmdId_append _ _ long]
  simp only [DataPacketHeader.cmdId, DataPacketHeader.setDataUnitLength,
    List.getD_eq_getElem?_getD]
  rw [List.getElem?_set_ne (by decide), List.getElem?_set_ne (by decide)]

theorem vin_uploaded (header time : List UInt8) (blocks : List (List UInt8))
    (size : header.length = DataPacketHeader.size) :
    DataPacketHeader.vin (uploaded header time blocks) = DataPacketHeader.vin header := by
  have long : 4 + VINLEN ≤ (DataPacketHeader.setDataUnitLength header
      (UInt16.ofNat (filtered time blocks).length)).length := by
    rw [DataPacketHeader.setDataUnitLength_length, size]
    decide
  rw [uploaded, List.append_assoc, vin_append _ _ long, DataPacketHeader.setDataUnitLength,
    vin_set _ _ _ (.inr (by decide)), vin_set _ _ _ (.inr (by decide))]

theorem window_header (buffer : ByteBuffer) (start : buffer.position = 0)
    (long : DataPacketHeader.size ≤ buffer.limit) :
    DataPacketHeader.cmdId buffer.window = DataPacketHeader.cmdId buffer.array ∧
      DataPacketHeader.vin buffer.window = DataPacketHeader.vin buffer.array := by
  have window : buffer.window = buffer.array.take buffer.limit := by
    rw [ByteBuffer.window, start, List.drop_zero]
  have enough : min (VINLEN) (buffer.limit - 4) = VINLEN := by
    unfold DataPacketHeader.size at long
    unfold VINLEN
    omega
  rw [window]
  refine ⟨cmdId_take _ _ (Nat.lt_of_lt_of_le (by decide) long), ?_⟩
  rw [DataPacketHeader.vin, DataPacketHeader.vin, List.drop_take, List.take_take, enough]

/-- The two ways a packet comes out of `parseDataUnit`: an upload frame filtered,
or a login or logout frame as it is. -/
inductive Returned (session : TcpSession) (packet : ByteBuffer) : Prop where
  | upload (command : DataPacketHeader.cmdId session.packetRef.array = CmdCode.realtimeUpload.value ∨
        DataPacketHeader.cmdId session.packetRef.array = CmdCode.reissueUpload.value)
      (whole : session.packetRef.window = unit ++ [check]) (shape : DataUnit unit time blocks)
      (window : packet.window =
        uploaded (session.packetRef.array.take DataPacketHeader.size) time blocks)
  | verbatim (command : DataPacketHeader.cmdId session.packetRef.array = CmdCode.vehicleLogin.value ∨
        DataPacketHeader.cmdId session.packetRef.array = CmdCode.vehicleLogout.value)
      (same : packet = session.packetRef.rewound)

variable [ByteBufferApi]

/-- Everything that `parseDataUnit` can hand back, one constructor for each kind of
frame it accepts. -/
inductive Parsing (self : Session) (session : TcpSession) (table : SessionTable Session) :
    Parsed Session → Prop where
  | upload (command : DataPacketHeader.cmdId session.packetRef.array = CmdCode.reissueUpload.value ∨
        DataPacketHeader.cmdId session.packetRef.array = CmdCode.realtimeUpload.value)
      (filtered : parseUpload session.packetRef.window.length session.packetRef =
        some (.ok rtData)) :
      Parsing self session table ⟨some rtData, session, table, none⟩
  | login (command : DataPacketHeader.cmdId session.packetRef.array = CmdCode.vehicleLogin.value)
      (rewound : rewindPacket session.packetRef = .ok packetRef) :
      Parsing self session table
        ⟨some packetRef, { session with packetRef }, table.insert session.vin self, none⟩
  | logout (command : DataPacketHeader.cmdId session.packetRef.array = CmdCode.vehicleLogout.value)
      (rewound : rewindPacket session.packetRef = .ok packetRef) :
      Parsing self session table
        ⟨some packetRef, { session with packetRef, quit := true }, table.erase session.vin, none⟩
  | heartBeat (command : DataPacketHeader.cmdId session.packetRef.array = CmdCode.heartBeat.value)
      (replied : replyHeartBeat session = .ok packetRef) :
      Parsing self session table ⟨none, { session with packetRef }, table, some packetRef⟩

theorem parseDataUnit_cases {self : Session} {session : TcpSession} {table : SessionTable Session}
    {parsed : Parsed Session} (accepted : parseDataUnit self session table = some (.ok parsed)) :
    session.packetRef.position = DataPacketHeader.size ∧ Parsing self session table parsed := by
  unfold parseDataUnit parseDataUnitWithin at accepted
  split at accepted
  · cases accepted
  rename_i standing
  refine ⟨of_not_not standing, ?_⟩
  dsimp only at accepted
  split at accepted
  · rename_i command
    obtain ⟨outcome, filtered, same⟩ := Option.map_eq_some_iff.mp accepted
    cases outcome with
    | error exception => cases same
    | ok rtData =>
      cases same
      exact .upload command filtered
  split at accepted
  · rename_i command
    cases rewound : rewindPacket session.packetRef with
    | error exception => simp only [rewound] at accepted; cases accepted
    | ok packetRef =>
      simp only [rewound] at accepted
      cases accepted
      exact .login command rewound
  split at accepted
  · rename_i command
    cases rewound : rewindPacket session.packetRef with
    | error exception => simp only [rewound] at accepted; cases accepted
    | ok packetRef =>
      simp only [rewound] at accepted
      cases accepted
      exact .logout command rewound
  split at accepted
  · rename_i command
    cases replied : replyHeartBeat session with
    | error exception => simp only [replied] at accepted; cases accepted
    | ok packetRef =>
      simp only [replied] at accepted
      cases accepted
      exact .heartBeat command replied
  · cases accepted

theorem replyHeartBeat_bare {session : TcpSession} (replied : replyHeartBeat session = .ok reply) :
    session.dataUnitLen = 0 := by
  unfold replyHeartBeat at replied
  split at replied
  · rename_i bare
    exact bare.2
  · cases replied

theorem Parsing.quit {self : Session} {session : TcpSession} {table : SessionTable Session}
    {parsed : Parsed Session} (parsing : Parsing self session table parsed) :
    parsed.session.quit = true ↔ session.quit = true ∨
      DataPacketHeader.cmdId session.packetRef.array = CmdCode.vehicleLogout.value := by
  cases parsing with
  | upload command =>
    have stays : DataPacketHeader.cmdId session.packetRef.array ≠ CmdCode.vehicleLogout.value := by
      rcases command with command | command <;> rw [command] <;> decide
    exact ⟨.inl, fun quit => quit.resolve_right stays⟩
  | login command | heartBeat command =>
    have stays : DataPacketHeader.cmdId session.packetRef.array ≠ CmdCode.vehicleLogout.value := by
      rw [command]
      decide
    exact ⟨.inl, fun quit => quit.resolve_right stays⟩
  | logout command => exact ⟨fun _ => .inr command, fun _ => rfl⟩

theorem parseDataUnit_command {self : Session} {session : TcpSession} {table : SessionTable Session}
    {parsed : Parsed Session} (accepted : parseDataUnit self session table = some (.ok parsed))
    (returned : parsed.packet = some packet) :
    DataPacketHeader.cmdId session.packetRef.array ∈ legalCmds := by
  cases (parseDataUnit_cases accepted).2 with
  | upload command => rcases command with command | command <;> simp [command, legalCmds]
  | login command => simp [command, legalCmds]
  | logout command => simp [command, legalCmds]
  | heartBeat => cases returned

variable [LawfulByteBuffer] {session : TcpSession} {packet : ByteBuffer}

private theorem upload_returned (read : session.FrameRead)
    (command : DataPacketHeader.cmdId session.packetRef.array = CmdCode.realtimeUpload.value ∨
      DataPacketHeader.cmdId session.packetRef.array = CmdCode.reissueUpload.value)
    (accepted : parseUpload fuel session.packetRef = some (.ok packet)) :
    packet.position = 0 ∧ Returned session packet := by
  have small : session.packetRef.array.length < 65534 := by rw [read.capacity]; decide
  have more : session.packetRef.window ≠ [] := by
    have atUnit := read.atUnit
    have limited := read.limited
    apply List.ne_nil_of_length_pos
    rw [ByteBuffer.window_length]
    omega
  have whole := (List.dropLast_concat_getLast more).symm
  obtain ⟨time, blocks, shape⟩ := parseUpload_sound read.atUnit small whole accepted
  obtain ⟨other, parsed, start, window⟩ := parseUpload_complete read.atUnit small shape whole
    (Nat.le_add_left blocks.length fuel)
  have same : packet = other :=
    Except.ok.inj (Option.some.inj ((parseUpload_add blocks.length accepted).symm.trans parsed))
  subst same
  exact ⟨start, .upload command whole shape window⟩

theorem rewindPacket_ok : rewindPacket session.packetRef = .ok session.packetRef.rewound := by
  rw [rewindPacket, LawfulByteBuffer.setPosition_inside session.packetRef (Nat.zero_le _)]
  rfl

/-- What `parseDataUnit` can return as a packet. -/
theorem parseDataUnit_returned {self : Session} {table : SessionTable Session}
    {parsed : Parsed Session} (read : session.FrameRead)
    (accepted : parseDataUnit self session table = some (.ok parsed))
    (returned : parsed.packet = some packet) : packet.position = 0 ∧ Returned session packet := by
  cases (parseDataUnit_cases accepted).2 with
  | upload command filtered =>
    cases returned
    exact upload_returned read command.symm filtered
  | login command rewound =>
    cases returned
    cases Except.ok.inj (rewindPacket_ok.symm.trans rewound)
    exact ⟨rfl, .verbatim (.inl command) rfl⟩
  | logout command rewound =>
    cases returned
    cases Except.ok.inj (rewindPacket_ok.symm.trans rewound)
    exact ⟨rfl, .verbatim (.inr command) rfl⟩
  | heartBeat => cases returned

theorem parseDataUnit_ends (self : Session) (table : SessionTable Session) (read : session.FrameRead) :
    ∃ parsing, parseDataUnit self session table = some parsing := by
  have small : session.packetRef.array.length < 65534 := by rw [read.capacity]; decide
  obtain ⟨result, ended⟩ := parseUpload_end read.atUnit small (Nat.le_refl _)
  unfold parseDataUnit parseDataUnitWithin
  rw [if_neg (not_not_intro read.atUnit), ended]
  dsimp only
  split
  · exact ⟨_, rfl⟩
  split
  · exact ⟨_, rfl⟩
  split
  · exact ⟨_, rfl⟩
  split
  · exact ⟨_, rfl⟩
  · exact ⟨_, rfl⟩

theorem parseDataUnit_verbatim {self : Session} {table : SessionTable Session}
    (read : session.FrameRead)
    (command : DataPacketHeader.cmdId session.packetRef.array = CmdCode.vehicleLogin.value ∨
      DataPacketHeader.cmdId session.packetRef.array = CmdCode.vehicleLogout.value) :
    ∃ parsed, parseDataUnit self session table = some (.ok parsed) ∧
      parsed.packet = some session.packetRef.rewound := by
  unfold parseDataUnit parseDataUnitWithin
  rw [if_neg (not_not_intro read.atUnit)]
  simp only [rewindPacket_ok]
  rcases command with command | command
  · rw [command]
    exact ⟨_, rfl, rfl⟩
  · rw [command]
    exact ⟨_, rfl, rfl⟩

/-- The reply to a heartbeat: the frame with the flag for success and a new check code. -/
def heartBeatReply (frame : List UInt8) : List UInt8 :=
  let header := DataPacketHeader.setResponseFlag (frame.take DataPacketHeader.size) .success
  header ++ [xorBytes (header.drop 2)]

theorem replyHeartBeat_ok (read : session.FrameRead) (bare : session.dataUnitLen = 0) :
    ∃ reply, replyHeartBeat session = .ok reply ∧ reply.position = 0 ∧
      reply.window = heartBeatReply session.frame := by
  obtain ⟨capacity, atUnit, limited⟩ := read
  have one : ByteBufferApi.remaining session.packetRef = 1 := by
    rw [LawfulByteBuffer.remaining_eq]
    omega
  have header : session.frame.take DataPacketHeader.size =
      session.packetRef.array.take DataPacketHeader.size := by
    rw [TcpSession.frame, List.take_take, Nat.min_eq_left (by omega)]
  have room : (session.packetRef.withArray
      (DataPacketHeader.setResponseFlag session.packetRef.array .success)
      DataPacketHeader.setResponseFlag_length).position < (session.packetRef.withArray
        (DataPacketHeader.setResponseFlag session.packetRef.array .success)
        DataPacketHeader.setResponseFlag_length).limit := by
    change session.packetRef.position < session.packetRef.limit
    omega
  have filled : (session.packetRef.withArray
      (DataPacketHeader.setResponseFlag session.packetRef.array .success)
      DataPacketHeader.setResponseFlag_length).filled =
        DataPacketHeader.setResponseFlag (session.frame.take DataPacketHeader.size) .success := by
    change (session.packetRef.array.set 3 _).take session.packetRef.position = _
    rw [atUnit, List.take_set, header]
    rfl
  have start : (session.packetRef.withArray
      (DataPacketHeader.setResponseFlag session.packetRef.array .success)
      DataPacketHeader.setResponseFlag_length).position = DataPacketHeader.size := atUnit
  unfold replyHeartBeat heartBeatReply
  rw [if_pos ⟨one, bare⟩, ← filled]
  dsimp only
  generalize session.packetRef.withArray
    (DataPacketHeader.setResponseFlag session.packetRef.array .success)
    DataPacketHeader.setResponseFlag_length = written at room filled start ⊢
  have checked : (written.array.drop 2).take (DataPacketHeader.size - 2) = written.filled.drop 2 := by
    rw [ByteBuffer.filled, List.drop_take, start]
  have nonempty : written.filled.drop 2 ≠ [] := by
    apply List.ne_nil_of_length_pos
    rw [List.length_drop, ByteBuffer.filled_length, start]
    decide
  obtain ⟨stored, put, flipped, window⟩ :=
    ByteBuffer.put_flip written (xorBytes (written.filled.drop 2)) room
  refine ⟨ByteBufferApi.flip stored, ?_, flipped, window⟩
  simp only [checked, Util.generateBlockCheckCharacter_ok nonempty, bind, Except.bind, put]
  rfl

/-- Every packet that `parseDataUnit` returns is one the uploader can forward. -/
theorem parseDataUnit_forwardable {self : Session} {table : SessionTable Session}
    {parsed : Parsed Session} (read : session.FrameRead)
    (accepted : parseDataUnit self session table = some (.ok parsed))
    (returned : parsed.packet = some packet) : Forwardable packet := by
  obtain ⟨start, returned⟩ := parseDataUnit_returned read accepted returned
  cases returned with
  | upload command whole shape window =>
    have size : (session.packetRef.array.take DataPacketHeader.size).length =
        DataPacketHeader.size := by
      rw [List.length_take, read.capacity]
      rfl
    have long : DataPacketHeader.size < packet.window.length := by
      rw [window, uploaded]
      simp only [List.length_append, DataPacketHeader.setDataUnitLength_length, size,
        List.length_singleton]
      omega
    have limit : packet.window.length = packet.limit := by
      rw [ByteBuffer.window_length, start, Nat.sub_zero]
    have cmdId : DataPacketHeader.cmdId packet.array =
        DataPacketHeader.cmdId session.packetRef.array := by
      have bytes : packet.array.take packet.limit = packet.window := by
        rw [ByteBuffer.window, start, List.drop_zero]
      rw [← cmdId_take packet.array packet.limit (by unfold DataPacketHeader.size at long; omega),
        bytes, window, cmdId_uploaded _ _ _ size, cmdId_take _ _ (by decide)]
    have fits : packet.window.length ≤ MAXPACK_LENGTH := by
      have kept := filtered_length_le shape
      have total := session.packetRef.position_add_window
      have inside := session.packetRef.limit_le
      have atUnit := read.atUnit
      have capacity := read.capacity
      rw [whole, List.length_append, List.length_singleton] at total
      rw [window, uploaded]
      simp only [List.length_append, DataPacketHeader.setDataUnitLength_length, size,
        List.length_singleton]
      omega
    refine ⟨start, limit ▸ long, limit ▸ fits, ?_⟩
    rw [cmdId]
    rcases command with command | command <;> simp [command, legalCmds]
  | verbatim command same =>
    subst same
    refine ⟨rfl, ?_, ?_, ?_⟩
    · have limited := read.limited
      change DataPacketHeader.size < session.packetRef.limit
      omega
    · have inside := session.packetRef.limit_le
      have capacity := read.capacity
      change session.packetRef.limit ≤ MAXPACK_LENGTH
      omega
    · change DataPacketHeader.cmdId session.packetRef.array ∈ legalCmds
      rcases command with command | command <;> simp [command, legalCmds]

theorem parseDataUnit_headerVin {self : Session} {table : SessionTable Session}
    {parsed : Parsed Session} (read : session.FrameRead)
    (accepted : parseDataUnit self session table = some (.ok parsed))
    (returned : parsed.packet = some packet) :
    DataPacketHeader.vin packet.array = DataPacketHeader.vin session.packetRef.array := by
  obtain ⟨start, long, _, _⟩ := parseDataUnit_forwardable read accepted returned
  obtain ⟨_, kind⟩ := parseDataUnit_returned read accepted returned
  cases kind with
  | upload command whole shape window =>
    have size : (session.packetRef.array.take DataPacketHeader.size).length =
        DataPacketHeader.size := by
      rw [List.length_take, read.capacity]
      rfl
    have header : DataPacketHeader.vin (session.packetRef.array.take DataPacketHeader.size) =
        DataPacketHeader.vin session.packetRef.array :=
      (header_congr (by rw [List.take_take, Nat.min_self])).2.1
    rw [← (window_header packet start (Nat.le_of_lt long)).2, window, vin_uploaded _ _ _ size, header]
  | verbatim command same => rw [same]; rfl

def sampleFrame (cmd : CmdCode) : List UInt8 :=
  let frame := [35, 35, cmd.value, 254] ++ List.replicate 17 65 ++ [1, 0, 30] ++ List.replicate 30 1
  frame ++ [xorBytes (frame.drop 2)]

def sampleRead (cmd : CmdCode) : TcpSession where
  packetRef := ⟨sampleFrame cmd ++ List.replicate 457 0, 24, 55, by decide,
    by simp [-List.reduceReplicate, sampleFrame]⟩
  dataUnitLen := 30
  vin := List.replicate 17 65
  quit := false

end MotorInfoUpload
