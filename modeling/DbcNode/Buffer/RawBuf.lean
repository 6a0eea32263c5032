import DbcNode.ByteBuf

namespace DbcNode

/-- `memcpy` to a place in the allocation. -/
def overwrite (memory : Bytes) (pos : Nat) (bytes : Bytes) : Bytes :=
  memory.take pos ++ bytes ++ memory.drop (pos + bytes.length)

theorem overwrite_length {memory bytes : Bytes} {pos : Nat} (fits : pos + bytes.length ≤ memory.length) :
    (overwrite memory pos bytes).length = memory.length := by
  simp only [overwrite, List.length_append, List.length_take, List.length_drop]
  omega

/-- From a place at or before the copy to its end. -/
theorem overwrite_read {memory bytes : Bytes} {start pos : Nat} (before : start ≤ pos)
    (fits : pos + bytes.length ≤ memory.length) :
    ((overwrite memory pos bytes).drop start).take (pos - start + bytes.length) =
      (memory.drop start).take (pos - start) ++ bytes := by
  have front : (memory.take pos).length = pos := by
    rw [List.length_take]
    omega
  have dropped : (overwrite memory pos bytes).drop start =
      (memory.drop start).take (pos - start) ++ (bytes ++ memory.drop (pos + bytes.length)) := by
    rw [overwrite, List.append_assoc, List.drop_append_of_le_length (by omega), List.drop_take]
  have kept : ((memory.drop start).take (pos - start)).length = pos - start := by
    rw [List.length_take, List.length_drop]
    omega
  rw [dropped, ← List.append_assoc, List.take_append_of_le_length (by rw [List.length_append]; omega)]
  exact List.take_of_length_le (by rw [List.length_append]; omega)

/-- What is before the copy stays. -/
theorem overwrite_before {memory bytes : Bytes} {start pos : Nat} (before : start ≤ pos)
    (fits : pos + bytes.length ≤ memory.length) :
    ((overwrite memory pos bytes).drop start).take (pos - start) = (memory.drop start).take (pos - start) := by
  have whole := congrArg (List.take (pos - start)) (overwrite_read before fits)
  have kept : ((memory.drop start).take (pos - start)).length = pos - start := by
    rw [List.length_take, List.length_drop]
    omega
  rw [List.take_take, min_eq_left (by omega), List.take_append_of_le_length (by omega), List.take_take] at whole
  rw [whole, min_self]

/-- `byte_buf` with its pointers as addresses: `memory` is what the
allocation at `buf` holds. -/
structure RawBuf where
  len : Nat
  buf : Nat
  memory : Bytes
  writePtr : Nat
  writeBound : Nat
  autoAlloc : Bool
  readPtr : Nat
  readBound : Nat
  deriving DecidableEq, Repr

inductive BufCall
  /-- `place` is where a new allocation is made, should the call make
  one. -/
  | writeToByteBuf (bytes : Bytes) (place : Nat)
  | readFromByteBuf (bufLen : Nat)
  | moveReadPtr (moveLen : Nat)
  | moveWritePtr (moveLen : Nat)
  | moveBuf
  | reset
  /-- The holder of `get_write_ptr` puts bytes there, as a socket does. -/
  | fill (bytes : Bytes)
  deriving DecidableEq, Repr

namespace RawBuf

/-- The constructor. -/
def make (len : Nat) (autoAlloc : Bool) (place : Nat) : RawBuf :=
  ⟨len, place, List.replicate len 0, place, place + len, autoAlloc, place, place⟩

/-- What is at an address of the allocation. -/
def cells (b : RawBuf) (start stop : Nat) : Bytes := (b.memory.drop (start - b.buf)).take (stop - start)

/-- The readable region. -/
def readable (b : RawBuf) : Bytes := b.cells b.readPtr b.readBound

/-- The region that is free to be written. -/
def free (b : RawBuf) : Bytes := b.cells b.writePtr b.writeBound

def getValidReadLen (b : RawBuf) : Nat :=
  if b.readPtr < b.readBound then (b.readBound - b.readPtr) % 2 ^ 32 else 0

def getValidWriteLen (b : RawBuf) : Nat :=
  if b.writePtr < b.writeBound then (b.writeBound - b.writePtr) % 2 ^ 32 else 0

def resetPtrs (b : RawBuf) : RawBuf := { b with readPtr := b.buf, writePtr := b.buf, readBound := b.buf }

/-- The copy of the end of a write, and the moves of the pointers. -/
def append (b : RawBuf) (bytes : Bytes) : RawBuf :=
  { b with
    memory := overwrite b.memory (b.writePtr - b.buf) bytes
    writePtr := b.writePtr + bytes.length
    readBound := b.writePtr + bytes.length }

/-- The unread bytes in a new allocation. -/
def moveInto (b : RawBuf) (newLen place : Nat) : RawBuf :=
  { b with
    len := newLen
    buf := place
    memory := overwrite (List.replicate newLen 0) 0 (b.cells b.readPtr (b.readPtr + b.getValidReadLen))
    writePtr := place + b.getValidReadLen
    writeBound := place + newLen
    readBound := place + b.getValidReadLen
    readPtr := place }

/-- The loop of a write that does not fit, in the arithmetic of
`uint32_t`. -/
def grow (b : RawBuf) (bytes : Bytes) (place : Nat) : Nat → Nat → Except (Stop Exn) RawBuf
  | 0, _ => .error .diverged
  | rounds + 1, newLen =>
    if newLen ≤ maxByteBufLen then
      if bytes.length < (newLen + 2 ^ 32 - b.getValidReadLen) % 2 ^ 32 then
        .ok ((b.moveInto newLen place).append bytes)
      else grow b bytes place rounds (newLen * 2 % 2 ^ 32)
    else .error (.thrown .lengthError)

def writeToByteBuf (bytes : Bytes) (place : Nat) : Prog Exn RawBuf Unit := fun b =>
  if bytes = [] then (.error .asserted, b)
  else if b.writePtr + bytes.length ≤ b.writeBound then (.ok (), b.append bytes)
  else if b.autoAlloc then
    match b.grow bytes place 26 (b.len * 2 % 2 ^ 32) with
    | .ok grown => (.ok (), grown)
    | .error e => (.error e, b)
  else (.error (.thrown .lengthError), b)

def readFromByteBuf (bufLen : Nat) : Prog Exn RawBuf Bytes := fun b =>
  if b.readPtr + bufLen ≤ b.readBound then
    (.ok (b.cells b.readPtr (b.readPtr + bufLen)), { b with readPtr := b.readPtr + bufLen })
  else (.error (.thrown .lengthError), b)

def moveWritePtr (moveLen : Nat) : Prog Exn RawBuf Unit := fun b =>
  if moveLen = 0 then (.error .asserted, b)
  else if moveLen ≤ b.getValidWriteLen then
    (.ok (), { b with writePtr := b.writePtr + moveLen, readBound := b.writePtr + moveLen })
  else (.error (.thrown .lengthError), b)

def moveReadPtr (moveLen : Nat) : Prog Exn RawBuf Unit := fun b =>
  if moveLen < b.getValidReadLen then (.ok (), { b with readPtr := b.readPtr + moveLen })
  else if moveLen = b.getValidReadLen then (.ok (), b.resetPtrs)
  else (.error (.thrown .lengthError), b)

def moveBuf : Prog Exn RawBuf Unit := fun b =>
  if b.readPtr = b.buf then (.ok (), b)
  else if b.readPtr = b.writePtr then (.ok (), b.resetPtrs)
  else if b.readPtr < b.writePtr then
    let moveLen := (b.writePtr - b.readPtr) % 2 ^ 32
    if moveLen = b.len then (.ok (), b)
    else if moveLen < b.len then
      (.ok (), { b with
        memory := overwrite b.memory 0 (b.cells b.readPtr (b.readPtr + moveLen))
        readPtr := b.buf
        writePtr := b.buf + moveLen
        readBound := b.buf + moveLen })
    else (.error (.thrown .lengthError), b)
  else (.error (.thrown .lengthError), b)

/-- What does not fit into the free region is not put there. -/
def fill (bytes : Bytes) (b : RawBuf) : RawBuf :=
  if b.writePtr + bytes.length ≤ b.writeBound then
    { b with memory := overwrite b.memory (b.writePtr - b.buf) bytes }
  else b

/-- Any of the calls, with the bytes that it gives to its caller. -/
def call : BufCall → Prog Exn RawBuf Bytes
  | .writeToByteBuf bytes place => do
    writeToByteBuf bytes place
    pure []
  | .readFromByteBuf bufLen => readFromByteBuf bufLen
  | .moveReadPtr moveLen => do
    moveReadPtr moveLen
    pure []
  | .moveWritePtr moveLen => do
    moveWritePtr moveLen
    pure []
  | .moveBuf => do
    moveBuf
    pure []
  | .reset => fun b => (.ok [], b.resetPtrs)
  | .fill bytes => fun b => (.ok [], b.fill bytes)

/-- The pointers stand in their order within the allocation. -/
structure Ordered (b : RawBuf) : Prop where
  start : b.buf ≤ b.readPtr
  unread : b.readPtr ≤ b.readBound
  joint : b.readBound = b.writePtr
  room : b.writePtr ≤ b.writeBound
  stop : b.writeBound = b.buf + b.len
  backed : b.memory.length = b.len
  positive : 0 < b.len
  small : b.len < 2 ^ 31

variable {b : RawBuf}

theorem make_ordered {len : Nat} (positive : 0 < len) (small : len < 2 ^ 31) (autoAlloc : Bool) (place : Nat) :
    (make len autoAlloc place).Ordered :=
  ⟨le_rfl, le_rfl, rfl, Nat.le_add_right _ _, rfl, List.length_replicate, positive, small⟩

theorem make_readable (len : Nat) (autoAlloc : Bool) (place : Nat) : (make len autoAlloc place).readable = [] := by
  simp [make, readable, cells]

theorem cells_length (ordered : b.Ordered) {start stop : Nat} (above : b.buf ≤ start)
    (below : stop ≤ b.writeBound) : (b.cells start stop).length = stop - start := by
  have stopAt := ordered.stop
  have backed := ordered.backed
  rw [cells, List.length_take, List.length_drop]
  omega

theorem cells_append {start middle stop : Nat} (first : b.buf ≤ start) (second : start ≤ middle)
    (third : middle ≤ stop) :
    b.cells start middle ++ b.cells middle stop = b.cells start stop := by
  simp only [cells]
  have parts : stop - start = (middle - start) + (stop - middle) := by omega
  rw [parts, List.take_add, List.drop_drop]
  congr 3
  omega

theorem Ordered.getValidReadLen (ordered : b.Ordered) : b.getValidReadLen = b.readBound - b.readPtr := by
  obtain ⟨start, unread, joint, room, stop, backed, positive, small⟩ := ordered
  unfold RawBuf.getValidReadLen
  split
  · exact Nat.mod_eq_of_lt (by omega)
  · omega

theorem Ordered.getValidWriteLen (ordered : b.Ordered) : b.getValidWriteLen = b.writeBound - b.writePtr := by
  obtain ⟨start, unread, joint, room, stop, backed, positive, small⟩ := ordered
  unfold RawBuf.getValidWriteLen
  split
  · exact Nat.mod_eq_of_lt (by omega)
  · omega

theorem Ordered.readable_length (ordered : b.Ordered) : b.readable.length = b.readBound - b.readPtr := by
  refine cells_length ordered ordered.start ?_
  rw [ordered.joint]
  exact ordered.room

theorem Ordered.readLen (ordered : b.Ordered) : b.getValidReadLen = b.readable.length := by
  rw [ordered.getValidReadLen, ordered.readable_length]

theorem Ordered.unread_cells (ordered : b.Ordered) : b.cells b.readPtr (b.readPtr + b.getValidReadLen) =
    b.readable := by
  have unread := ordered.unread
  rw [ordered.getValidReadLen, readable]
  congr
  omega

theorem Ordered.reset (ordered : b.Ordered) : b.resetPtrs.Ordered := by
  obtain ⟨start, unread, joint, room, stop, backed, positive, small⟩ := ordered
  exact ⟨le_rfl, le_rfl, rfl, by simp only [resetPtrs]; omega, stop, backed, positive, small⟩

@[simp] theorem reset_readable (b : RawBuf) : b.resetPtrs.readable = [] := by
  simp [resetPtrs, readable, cells]

/-- A copy that fits goes to the end of what is readable. -/
theorem Ordered.append (ordered : b.Ordered) {bytes : Bytes} (fits : b.writePtr + bytes.length ≤ b.writeBound) :
    (b.append bytes).Ordered ∧ (b.append bytes).readable = b.readable ++ bytes := by
  obtain ⟨start, unread, joint, room, stop, backed, positive, small⟩ := ordered
  have within : b.writePtr - b.buf + bytes.length ≤ b.memory.length := by omega
  refine ⟨⟨start, ?_, rfl, fits, stop, ?_, positive, small⟩, ?_⟩
  · simp only [RawBuf.append]
    omega
  · simp only [RawBuf.append]
    rw [overwrite_length within, backed]
  · simp only [RawBuf.append, readable, cells]
    have length : b.writePtr + bytes.length - b.readPtr =
      b.writePtr - b.buf - (b.readPtr - b.buf) + bytes.length := by
      omega
    have unreadLength : b.readBound - b.readPtr = b.writePtr - b.buf - (b.readPtr - b.buf) := by omega
    rw [length, unreadLength, overwrite_read (by omega) within]

/-- A larger allocation takes over what is readable. -/
theorem Ordered.moveInto (ordered : b.Ordered) {newLen : Nat} (place : Nat) (enough : b.readable.length < newLen)
    (small : newLen < 2 ^ 31) : (b.moveInto newLen place).Ordered ∧ (b.moveInto newLen place).readable =
      b.readable := by
  have length := ordered.readLen
  have within : 0 + b.readable.length ≤ (List.replicate newLen (0 : UInt8)).length := by
    rw [List.length_replicate]
    omega
  have memory : (b.moveInto newLen place).memory = overwrite (List.replicate newLen 0) 0 b.readable := by
    simp only [RawBuf.moveInto]
    rw [ordered.unread_cells]
  refine ⟨⟨le_rfl, Nat.le_add_right _ _, rfl, ?_, rfl, ?_, by simp only [RawBuf.moveInto]; omega, small⟩, ?_⟩
  · simp only [RawBuf.moveInto]
    omega
  · rw [memory, overwrite_length within, List.length_replicate]
    rfl
  · rw [readable, cells, memory]
    simp only [RawBuf.moveInto]
    have read := overwrite_read (Nat.le_refl 0) within
    simp only [Nat.sub_self, List.take_zero, List.nil_append, Nat.zero_add] at read
    rw [length, Nat.add_sub_cancel_left, Nat.sub_self]
    exact read

end RawBuf

end DbcNode
