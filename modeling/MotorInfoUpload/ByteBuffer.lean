/-! The external class `bytebuf::ByteBuffer`: its observable state, its operations
as a parameter of the development, and what the code relies on as laws. -/

namespace MotorInfoUpload

/-- The observable state of a buffer: `array()` up to `capacity()`, `position()`
and `limit()`. -/
@[ext] structure ByteBuffer where
  array : List UInt8
  position : Nat
  limit : Nat
  position_le : position ≤ limit
  limit_le : limit ≤ array.length
deriving DecidableEq

namespace ByteBuffer

def capacity (buffer : ByteBuffer) : Nat := buffer.array.length

/-- The bytes between `position` and `limit`, those still to be read. -/
def window (buffer : ByteBuffer) : List UInt8 :=
  (buffer.array.take buffer.limit).drop buffer.position

def byteAt (buffer : ByteBuffer) (index : Nat) (inside : index < buffer.limit) : UInt8 :=
  buffer.array.get ⟨index, Nat.lt_of_lt_of_le inside buffer.limit_le⟩

def filled (buffer : ByteBuffer) : List UInt8 := buffer.array.take buffer.position

def advance (buffer : ByteBuffer) (count : Nat)
    (room : buffer.position + count ≤ buffer.limit) : ByteBuffer :=
  ⟨buffer.array, buffer.position + count, buffer.limit, room, buffer.limit_le⟩

def retreat (buffer : ByteBuffer) (count : Nat) : ByteBuffer :=
  ⟨buffer.array, buffer.position - count, buffer.limit,
    Nat.le_trans (Nat.sub_le _ _) buffer.position_le, buffer.limit_le⟩

def splice (memory : List UInt8) (offset : Nat) (bytes : List UInt8) : List UInt8 :=
  memory.take offset ++ bytes ++ memory.drop (offset + bytes.length)

theorem splice_length {memory bytes : List UInt8} (fits : offset + bytes.length ≤ memory.length) :
    (splice memory offset bytes).length = memory.length := by
  simp only [splice, List.length_append, List.length_take, List.length_drop]
  omega

/-- The buffer with `bytes` put at its position. -/
def store (buffer : ByteBuffer) (bytes : List UInt8)
    (room : buffer.position + bytes.length ≤ buffer.limit) : ByteBuffer :=
  ⟨splice buffer.array buffer.position bytes, buffer.position + bytes.length, buffer.limit, room,
    by rw [splice_length (Nat.le_trans room buffer.limit_le)]; exact buffer.limit_le⟩

/-- The buffer with other memory of the same size behind it: a write through
the pointer that `array()` returns. -/
def withArray (buffer : ByteBuffer) (memory : List UInt8)
    (same : memory.length = buffer.array.length) : ByteBuffer :=
  ⟨memory, buffer.position, buffer.limit, buffer.position_le, by rw [same]; exact buffer.limit_le⟩

def flipped (buffer : ByteBuffer) : ByteBuffer :=
  ⟨buffer.array, 0, buffer.position, Nat.zero_le _,
    Nat.le_trans buffer.position_le buffer.limit_le⟩

def rewound (buffer : ByteBuffer) : ByteBuffer :=
  ⟨buffer.array, 0, buffer.limit, Nat.zero_le _, buffer.limit_le⟩

def cleared (buffer : ByteBuffer) : ByteBuffer :=
  ⟨buffer.array, 0, buffer.array.length, Nat.zero_le _, Nat.le_refl _⟩

theorem window_length (buffer : ByteBuffer) :
    buffer.window.length = buffer.limit - buffer.position := by
  have inside := buffer.limit_le
  simp only [window, List.length_drop, List.length_take]
  omega

theorem window_eq (buffer : ByteBuffer) :
    (buffer.array.drop buffer.position).take buffer.window.length = buffer.window := by
  rw [window_length, window, List.drop_take]

theorem position_add_window (buffer : ByteBuffer) :
    buffer.position + buffer.window.length = buffer.limit := by
  have ordered := buffer.position_le
  rw [window_length]
  omega

theorem filled_length (buffer : ByteBuffer) : buffer.filled.length = buffer.position := by
  have ordered := buffer.position_le
  have inside := buffer.limit_le
  simp only [filled, List.length_take]
  omega

theorem advance_window (buffer : ByteBuffer) (room : buffer.position + count ≤ buffer.limit) :
    (buffer.advance count room).window = buffer.window.drop count := by
  simp only [window, advance, List.drop_drop]

theorem store_filled (buffer : ByteBuffer) (room : buffer.position + bytes.length ≤ buffer.limit) :
    (buffer.store bytes room).filled = buffer.filled ++ bytes := by
  have inside := buffer.limit_le
  have enough : buffer.position ≤ buffer.array.length := by omega
  simp only [filled, store, splice]
  rw [List.take_append_of_le_length (by simp; omega), List.take_append, List.length_take,
    Nat.min_eq_left enough, List.take_take, Nat.min_eq_right (by omega),
    Nat.add_sub_cancel_left, List.take_length]

theorem flipped_window (buffer : ByteBuffer) : buffer.flipped.window = buffer.filled := rfl

theorem window_cons (buffer : ByteBuffer) (more : buffer.position < buffer.limit) :
    buffer.window = buffer.byteAt buffer.position more ::
      buffer.window.drop 1 := by
  have inside : buffer.position < (buffer.array.take buffer.limit).length := by
    have := buffer.limit_le
    simp only [List.length_take]
    omega
  simp only [window, List.drop_drop]
  rw [List.drop_eq_getElem_cons inside, List.getElem_take]
  rfl

end ByteBuffer

/-- The operations of `bytebuf::ByteBuffer` that the repository calls. The
error of an operation is the `what()` of the `ByteBufferException` it throws. -/
class ByteBufferApi where
  allocate (capacity : Nat) : ByteBuffer
  remaining (buffer : ByteBuffer) : Nat
  setPosition (buffer : ByteBuffer) (position : Nat) : Except String ByteBuffer
  setLimit (buffer : ByteBuffer) (limit : Nat) : Except String ByteBuffer
  movePosition (buffer : ByteBuffer) (count : Nat) (back : Bool) : Except String ByteBuffer
  get (buffer : ByteBuffer) : Except String (UInt8 × ByteBuffer)
  getAt (buffer : ByteBuffer) (index : Nat) : Except String UInt8
  getShort (buffer : ByteBuffer) : Except String (UInt16 × ByteBuffer)
  put (buffer : ByteBuffer) (byte : UInt8) : Except String ByteBuffer
  putArray (buffer : ByteBuffer) (source : List UInt8) (offset length : Nat) :
    Except String ByteBuffer
  /-- `put(ByteBuffer& source, length)`: the result is the buffer put into and
  the source it was taken from. -/
  putBuffer (buffer source : ByteBuffer) (length : Nat) : Except String (ByteBuffer × ByteBuffer)
  flip (buffer : ByteBuffer) : ByteBuffer
  rewind (buffer : ByteBuffer) : ByteBuffer
  clear (buffer : ByteBuffer) : ByteBuffer

/-- `ntohs` of the platform the makefiles build for, which is little-endian. -/
def ntohs (value : UInt16) : UInt16 := UInt16.ofNat (value.toNat % 256 * 256 + value.toNat / 256)

/-- The documented behaviour of the external class that the code relies on.
Nothing is assumed of reading by index at or beyond the limit, which
`get (position ())` does where a unit breaks off: whatever it gives, the call
after it throws. -/
class LawfulByteBuffer [ByteBufferApi] : Prop where
  allocate_fresh (capacity : Nat) :
    (ByteBufferApi.allocate capacity).array.length = capacity ∧
      (ByteBufferApi.allocate capacity).position = 0 ∧
      (ByteBufferApi.allocate capacity).limit = capacity
  remaining_eq (buffer : ByteBuffer) :
    ByteBufferApi.remaining buffer = buffer.limit - buffer.position
  setPosition_inside (buffer : ByteBuffer) (inside : position ≤ buffer.limit) :
    ByteBufferApi.setPosition buffer position =
      .ok ⟨buffer.array, position, buffer.limit, inside, buffer.limit_le⟩
  setLimit_inside (buffer : ByteBuffer) (ordered : buffer.position ≤ limit)
      (inside : limit ≤ buffer.array.length) :
    ByteBufferApi.setLimit buffer limit =
      .ok ⟨buffer.array, buffer.position, limit, ordered, inside⟩
  move_forward (buffer : ByteBuffer) (room : buffer.position + count ≤ buffer.limit) :
    ByteBufferApi.movePosition buffer count false = .ok (buffer.advance count room)
  move_overflow (buffer : ByteBuffer) (beyond : buffer.limit < buffer.position + count) :
    ∃ what, ByteBufferApi.movePosition buffer count false = .error what
  move_back (buffer : ByteBuffer) (room : count ≤ buffer.position) :
    ByteBufferApi.movePosition buffer count true = .ok (buffer.retreat count)
  get_read (buffer : ByteBuffer) (more : buffer.position < buffer.limit) :
    ByteBufferApi.get buffer =
      .ok (buffer.byteAt buffer.position more, buffer.advance 1 more)
  get_underflow (buffer : ByteBuffer) (done : buffer.limit ≤ buffer.position) :
    ∃ what, ByteBufferApi.get buffer = .error what
  getAt_read (buffer : ByteBuffer) (inside : index < buffer.limit) :
    ByteBufferApi.getAt buffer index =
      .ok (buffer.byteAt index inside)
  /-- `getShort` loads two bytes as the host stores them, so that `ntohs` of
  the result reads them big-endian. -/
  getShort_read (buffer : ByteBuffer) (room : buffer.position + 2 ≤ buffer.limit) :
    ∃ value, ByteBufferApi.getShort buffer = .ok (value, buffer.advance 2 room) ∧
      (ntohs value).toNat =
        (buffer.byteAt buffer.position (by omega)).toNat * 256 +
          (buffer.byteAt (buffer.position + 1) (by omega)).toNat
  getShort_underflow (buffer : ByteBuffer) (beyond : buffer.limit < buffer.position + 2) :
    ∃ what, ByteBufferApi.getShort buffer = .error what
  put_room (buffer : ByteBuffer) (room : buffer.position < buffer.limit) :
    ByteBufferApi.put buffer byte = .ok (buffer.store [byte] room)
  putArray_room (buffer : ByteBuffer) (given : offset + length ≤ source.length)
      (room : buffer.position + ((source.drop offset).take length).length ≤ buffer.limit) :
    ByteBufferApi.putArray buffer source offset length =
      .ok (buffer.store ((source.drop offset).take length) room)
  putBuffer_room (buffer source : ByteBuffer) (given : source.position + length ≤ source.limit)
      (room : buffer.position + (source.window.take length).length ≤ buffer.limit) :
    ByteBufferApi.putBuffer buffer source length =
      .ok (buffer.store (source.window.take length) room, source.advance length given)
  putBuffer_underflow (buffer source : ByteBuffer)
      (beyond : source.limit < source.position + length) :
    ∃ what, ByteBufferApi.putBuffer buffer source length = .error what
  flip_eq (buffer : ByteBuffer) : ByteBufferApi.flip buffer = buffer.flipped
  rewind_eq (buffer : ByteBuffer) : ByteBufferApi.rewind buffer = buffer.rewound
  clear_eq (buffer : ByteBuffer) : ByteBufferApi.clear buffer = buffer.cleared

namespace ByteBuffer

theorem put_flip [ByteBufferApi] [LawfulByteBuffer] (buffer : ByteBuffer) (byte : UInt8)
    (room : buffer.position < buffer.limit) :
    ∃ stored, ByteBufferApi.put buffer byte = .ok stored ∧
      (ByteBufferApi.flip stored).position = 0 ∧
      (ByteBufferApi.flip stored).window = buffer.filled ++ [byte] := by
  have fits : buffer.position + [byte].length ≤ buffer.limit := room
  refine ⟨buffer.store [byte] fits, LawfulByteBuffer.put_room buffer fits, ?_, ?_⟩
  · rw [LawfulByteBuffer.flip_eq]
    rfl
  · rw [LawfulByteBuffer.flip_eq, flipped_window, store_filled]

/-- A buffer that behaves as documented everywhere, used to run the code on
concrete inputs. -/
@[reducible] def reference : ByteBufferApi where
  allocate capacity :=
    ⟨List.replicate capacity 0, 0, capacity, Nat.zero_le _, by simp⟩
  remaining buffer := buffer.limit - buffer.position
  setPosition buffer position :=
    if inside : position ≤ buffer.limit then
      .ok ⟨buffer.array, position, buffer.limit, inside, buffer.limit_le⟩
    else .error "position"
  setLimit buffer limit :=
    if inside : buffer.position ≤ limit ∧ limit ≤ buffer.array.length then
      .ok ⟨buffer.array, buffer.position, limit, inside.1, inside.2⟩
    else .error "limit"
  movePosition buffer count back :=
    if back then
      if count ≤ buffer.position then .ok (buffer.retreat count) else .error "movePosition"
    else if room : buffer.position + count ≤ buffer.limit then .ok (buffer.advance count room)
    else .error "movePosition"
  get buffer :=
    if more : buffer.position < buffer.limit then
      .ok (buffer.byteAt buffer.position more, buffer.advance 1 more)
    else .error "get"
  getAt buffer index :=
    if inside : index < buffer.limit then
      .ok (buffer.byteAt index inside)
    else .error "get"
  getShort buffer :=
    if room : buffer.position + 2 ≤ buffer.limit then
      .ok (ntohs (UInt16.ofNat (
          (buffer.byteAt buffer.position (by omega)).toNat * 256 +
          (buffer.byteAt (buffer.position + 1) (by omega)).toNat)),
        buffer.advance 2 room)
    else .error "getShort"
  put buffer byte :=
    if room : buffer.position < buffer.limit then .ok (buffer.store [byte] room)
    else .error "put"
  putArray buffer source offset length :=
    if room : buffer.position + ((source.drop offset).take length).length ≤ buffer.limit then
      .ok (buffer.store ((source.drop offset).take length) room)
    else .error "put"
  putBuffer buffer source length :=
    if given : source.position + length ≤ source.limit then
      if room : buffer.position + (source.window.take length).length ≤ buffer.limit then
        .ok (buffer.store (source.window.take length) room, source.advance length given)
      else .error "put"
    else .error "put"
  flip := flipped
  rewind := rewound
  clear := cleared

private theorem ntohs_pair (highBound : high < 256) (lowBound : low < 256) :
    ntohs (UInt16.ofNat (high * 256 + low)) = UInt16.ofNat (low * 256 + high) := by
  have whole : (UInt16.ofNat (high * 256 + low)).toNat = high * 256 + low := by
    rw [UInt16.toNat_ofNat']
    exact Nat.mod_eq_of_lt (by omega)
  have swapped : (high * 256 + low) % 256 * 256 + (high * 256 + low) / 256 = low * 256 + high := by
    omega
  unfold ntohs
  rw [whole, swapped]

private theorem ntohs_ntohs (high low : UInt8) :
    (ntohs (ntohs (UInt16.ofNat (high.toNat * 256 + low.toNat)))).toNat =
      high.toNat * 256 + low.toNat := by
  have highBound := high.toNat_lt
  have lowBound := low.toNat_lt
  rw [ntohs_pair highBound lowBound, ntohs_pair lowBound highBound, UInt16.toNat_ofNat']
  exact Nat.mod_eq_of_lt (by omega)

theorem reference_lawful : @LawfulByteBuffer reference := by
  let := reference
  constructor
  · intro capacity
    exact ⟨List.length_replicate, rfl, rfl⟩
  · intro buffer
    rfl
  · intro position buffer inside
    exact dif_pos inside
  · intro limit buffer ordered inside
    exact dif_pos ⟨ordered, inside⟩
  · intro count buffer room
    exact dif_pos room
  · intro count buffer beyond
    exact ⟨_, dif_neg (Nat.not_le.mpr beyond)⟩
  · intro count buffer room
    exact if_pos room
  · intro buffer more
    exact dif_pos more
  · intro buffer done
    exact ⟨_, dif_neg (Nat.not_lt.mpr done)⟩
  · intro index buffer inside
    exact dif_pos inside
  · intro buffer room
    exact ⟨_, dif_pos room, ntohs_ntohs _ _⟩
  · intro buffer beyond
    exact ⟨_, dif_neg (Nat.not_le.mpr beyond)⟩
  · intro byte buffer room
    exact dif_pos room
  · intro offset length source buffer given room
    exact dif_pos room
  · intro length buffer source given room
    exact (dif_pos given).trans (dif_pos room)
  · intro length buffer source beyond
    exact ⟨_, dif_neg (Nat.not_le.mpr beyond)⟩
  · exact fun _ => rfl
  · exact fun _ => rfl
  · exact fun _ => rfl

end ByteBuffer

end MotorInfoUpload
