import DbcNode.Buffer.RawBuf
import DbcNode.Lib.Runs

namespace DbcNode

/-- What a call that returns does to the queue, where `staged` is what its
caller has put into the free region before. -/
def BufCall.onQueue (queue staged : Bytes) : BufCall → Bytes
  | .writeToByteBuf bytes _ => queue ++ bytes
  | .readFromByteBuf bufLen => queue.drop bufLen
  | .moveReadPtr moveLen => queue.drop moveLen
  | .moveWritePtr moveLen => queue ++ staged.take moveLen
  | .moveBuf => queue
  | .reset => []
  | .fill _ => queue

/-- The calls that the queue has an answer for: it has the bytes that are
taken from it, and the free region has those that are added. -/
def BufCall.Serves (queue staged : Bytes) : BufCall → Prop
  | .writeToByteBuf bytes _ => bytes ≠ []
  | .readFromByteBuf bufLen => bufLen ≤ queue.length
  | .moveReadPtr moveLen => moveLen ≤ queue.length
  | .moveWritePtr moveLen => 0 < moveLen ∧ moveLen ≤ staged.length
  | _ => True

def BufCall.answer (queue : Bytes) : BufCall → Bytes
  | .readFromByteBuf bufLen => queue.take bufLen
  | _ => []

def BufCall.isWrite : BufCall → Bool
  | .writeToByteBuf _ _ => true
  | _ => false

namespace RawBuf
variable {b : RawBuf}

/-- How a call ends: it returns and acts on the queue, or it leaves the
buffer alone. -/
structure Ends (b : RawBuf) (c : BufCall) (result : Except (Stop Exn) Bytes) (after : RawBuf) : Prop where
  ordered : after.Ordered
  auto : after.autoAlloc = b.autoAlloc
  returned : ∀ bytes, result = .ok bytes → c.Serves b.readable b.free ∧ bytes = c.answer b.readable ∧
    after.readable = c.onQueue b.readable b.free
  stopped : ∀ stop, result = .error stop → after = b ∧ stop ≠ .diverged ∧
    (c.isWrite = true ∨ ¬ c.Serves b.readable b.free)

theorem Ends.refuse (ordered : b.Ordered) {c : BufCall} {stop : Stop Exn} (ends : stop ≠ .diverged)
    (refused : c.isWrite = true ∨ ¬ c.Serves b.readable b.free) : b.Ends c (.error stop) b := by
  refine ⟨ordered, rfl, fun _ => nofun, ?_⟩
  intro other same
  cases same
  exact ⟨rfl, ends, refused⟩

theorem Ends.finish {c : BufCall} {after : RawBuf} {bytes : Bytes} (ordered : after.Ordered)
    (auto : after.autoAlloc = b.autoAlloc) (serves : c.Serves b.readable b.free)
    (answer : bytes = c.answer b.readable) (queue : after.readable = c.onQueue b.readable b.free) :
    b.Ends c (.ok bytes) after := by
  refine ⟨ordered, auto, ?_, fun _ => nofun⟩
  intro other same
  cases same
  exact ⟨serves, answer, queue⟩

theorem void_ok {p : Prog Exn RawBuf Unit} {after : RawBuf} (ran : p b = (.ok (), after)) :
    (p >>= fun _ => pure ([] : Bytes)) b = (.ok [], after) := by
  simp only [Bind.bind, ran]
  rfl

theorem void_error {p : Prog Exn RawBuf Unit} {after : RawBuf} {stop : Stop Exn}
    (ran : p b = (.error stop, after)) : (p >>= fun _ => pure ([] : Bytes)) b = (.error stop, after) := by
  simp only [Bind.bind, ran]

theorem readable_drop (start : b.buf ≤ b.readPtr) (n : Nat) :
    ({ b with readPtr := b.readPtr + n } : RawBuf).readable = b.readable.drop n := by
  have place : b.readPtr + n - b.buf = b.readPtr - b.buf + n := by omega
  have length : b.readBound - (b.readPtr + n) = b.readBound - b.readPtr - n := by omega
  simp only [readable, cells, List.drop_take, List.drop_drop, place, length]

theorem Ordered.free_length (ordered : b.Ordered) : b.free.length = b.writeBound - b.writePtr := by
  obtain ⟨start, unread, joint, _, _, _, _, _⟩ := id ordered
  exact cells_length ordered (by omega) le_rfl

/-- The length doubles up to the limit, which it reaches before the rounds
end. -/
theorem Ordered.grow (ordered : b.Ordered) (bytes : Bytes) (place : Nat) {rounds newLen : Nat}
    (least : b.len < newLen) (fits : newLen < 2 ^ 32) (enough : maxByteBufLen < newLen * 2 ^ rounds) :
    b.grow bytes place (rounds + 1) newLen = .error (.thrown .lengthError) ∨
      ∃ grown, b.grow bytes place (rounds + 1) newLen = .ok grown ∧ grown.Ordered ∧
        grown.autoAlloc = b.autoAlloc ∧ grown.readable = b.readable ++ bytes := by
  have held : b.getValidReadLen ≤ b.len := by
    rw [ordered.getValidReadLen]
    obtain ⟨start, unread, joint, room, stop, _, _, _⟩ := ordered
    omega
  induction rounds generalizing newLen with
  | zero =>
    rw [RawBuf.grow, if_neg (by omega)]
    exact Or.inl rfl
  | succ rounds ih =>
    rw [RawBuf.grow]
    by_cases small : newLen ≤ maxByteBufLen
    · have limit : maxByteBufLen = 2 ^ 24 := rfl
      have difference : (newLen + 2 ^ 32 - b.getValidReadLen) % 2 ^ 32 = newLen - b.getValidReadLen := by omega
      rw [if_pos small, difference]
      by_cases room : bytes.length < newLen - b.getValidReadLen
      · rw [if_pos room]
        have unread := ordered.readLen
        have moved := ordered.moveInto place (by omega : b.readable.length < newLen) (by omega)
        have within : (b.moveInto newLen place).writePtr + bytes.length ≤ (b.moveInto newLen place).writeBound := by
          simp only [RawBuf.moveInto]
          omega
        have appended := moved.1.append within
        exact Or.inr ⟨_, rfl, appended.1, rfl, by rw [appended.2, moved.2]⟩
      · have doubled : newLen * 2 % 2 ^ 32 = newLen * 2 := by omega
        rw [if_neg room, doubled]
        refine ih (by omega) (by omega) ?_
        rw [Nat.pow_succ] at enough
        linarith
    · rw [if_neg small]
      exact Or.inl rfl

theorem Ordered.write (ordered : b.Ordered) (bytes : Bytes) (place : Nat) :
    ∃ result after, call (.writeToByteBuf bytes place) b = (result, after) ∧
      b.Ends (.writeToByteBuf bytes place) result after := by
  have small := ordered.small
  have positive := ordered.positive
  have refused : ∀ stop, stop ≠ Stop.diverged → writeToByteBuf bytes place b = (.error stop, b) →
      ∃ result after, call (.writeToByteBuf bytes place) b = (result, after) ∧
        b.Ends (.writeToByteBuf bytes place) result after :=
    fun stop ends ran => ⟨_, _, void_error ran, Ends.refuse ordered ends (Or.inl rfl)⟩
  by_cases empty : bytes = []
  · exact refused .asserted (by simp) (if_pos empty)
  by_cases fits : b.writePtr + bytes.length ≤ b.writeBound
  · have ran : writeToByteBuf bytes place b = (.ok (), b.append bytes) := by
      rw [writeToByteBuf, if_neg empty, if_pos fits]
    have appended := ordered.append fits
    exact ⟨_, _, void_ok ran, Ends.finish appended.1 rfl empty rfl appended.2⟩
  by_cases auto : b.autoAlloc = true
  · have doubled : b.len * 2 % 2 ^ 32 = b.len * 2 := by omega
    have limit : maxByteBufLen = 2 ^ 24 := rfl
    have grows :=
      ordered.grow bytes place (by omega : b.len < b.len * 2) (by omega)
        (by omega : maxByteBufLen < b.len * 2 * 2 ^ 25)
    rcases grows with thrown | ⟨grown, grew, after, same, queue⟩
    · refine refused (.thrown .lengthError) (by simp) ?_
      rw [writeToByteBuf, if_neg empty, if_neg fits, if_pos auto, doubled, thrown]
    · have ran : writeToByteBuf bytes place b = (.ok (), grown) := by
        rw [writeToByteBuf, if_neg empty, if_neg fits, if_pos auto, doubled, grew]
      exact ⟨_, _, void_ok ran, Ends.finish after same empty rfl queue⟩
  · refine refused (.thrown .lengthError) (by simp) ?_
    rw [writeToByteBuf, if_neg empty, if_neg fits, if_neg auto]

theorem Ordered.read (ordered : b.Ordered) (bufLen : Nat) :
    ∃ result after, call (.readFromByteBuf bufLen) b = (result, after) ∧
      b.Ends (.readFromByteBuf bufLen) result after := by
  have length := ordered.readable_length
  by_cases enough : b.readPtr + bufLen ≤ b.readBound
  · have ran : readFromByteBuf bufLen b =
        (.ok (b.cells b.readPtr (b.readPtr + bufLen)), { b with readPtr := b.readPtr + bufLen }) := if_pos enough
    obtain ⟨start, unread, joint, room, stop, backed, positive, small⟩ := ordered
    refine ⟨_, _, ran, Ends.finish ⟨?_, enough, joint, room, stop, backed, positive, small⟩ rfl ?_ ?_ ?_⟩
    · simp only
      omega
    · simp only [BufCall.Serves]
      omega
    · simp only [BufCall.answer, readable, cells, List.take_take]
      congr 1
      omega
    · exact readable_drop start bufLen
  · have unread := ordered.unread
    exact ⟨_, _, if_neg enough, Ends.refuse ordered (by simp) (Or.inr (by simp only [BufCall.Serves]; omega))⟩

theorem Ordered.moveReadPtr (ordered : b.Ordered) (moveLen : Nat) :
    ∃ result after, call (.moveReadPtr moveLen) b = (result, after) ∧
      b.Ends (.moveReadPtr moveLen) result after := by
  have length := ordered.readLen
  by_cases less : moveLen < b.getValidReadLen
  · have ran : RawBuf.moveReadPtr moveLen b = (.ok (), { b with readPtr := b.readPtr + moveLen }) := if_pos less
    rw [ordered.getValidReadLen] at less length
    obtain ⟨start, unread, joint, room, stop, backed, positive, small⟩ := ordered
    refine ⟨_, _, void_ok ran, Ends.finish ⟨?_, ?_, joint, room, stop, backed, positive, small⟩ rfl ?_ rfl ?_⟩
    · simp only
      omega
    · simp only
      omega
    · simp only [BufCall.Serves]
      omega
    · exact readable_drop start moveLen
  by_cases all : moveLen = b.getValidReadLen
  · have ran : RawBuf.moveReadPtr moveLen b = (.ok (), b.resetPtrs) := by
      rw [RawBuf.moveReadPtr, if_neg less, if_pos all]
    refine ⟨_, _, void_ok ran, Ends.finish ordered.reset rfl ?_ rfl ?_⟩
    · simp only [BufCall.Serves]
      omega
    · rw [reset_readable, BufCall.onQueue, all, length, List.drop_length]
  · have ran : RawBuf.moveReadPtr moveLen b = (.error (.thrown .lengthError), b) := by
      rw [RawBuf.moveReadPtr, if_neg less, if_neg all]
    exact ⟨_, _, void_error ran, Ends.refuse ordered (by simp) (Or.inr (by simp only [BufCall.Serves]; omega))⟩

theorem Ordered.moveWritePtr (ordered : b.Ordered) (moveLen : Nat) :
    ∃ result after, call (.moveWritePtr moveLen) b = (result, after) ∧
      b.Ends (.moveWritePtr moveLen) result after := by
  have length := ordered.free_length
  rw [← ordered.getValidWriteLen] at length
  by_cases zero : moveLen = 0
  · exact ⟨_, _, void_error (if_pos zero),
      Ends.refuse ordered (by simp) (Or.inr (by simp only [BufCall.Serves]; omega))⟩
  by_cases enough : moveLen ≤ b.getValidWriteLen
  · have ran : RawBuf.moveWritePtr moveLen b =
        (.ok (), { b with writePtr := b.writePtr + moveLen, readBound := b.writePtr + moveLen }) := by
      rw [RawBuf.moveWritePtr, if_neg zero, if_pos enough]
    have room := enough
    rw [ordered.getValidWriteLen] at room
    have joint := ordered.joint
    obtain ⟨start, unread, _, below, stop, backed, positive, small⟩ := ordered
    refine ⟨_, _, void_ok ran, Ends.finish ⟨start, ?_, rfl, ?_, stop, backed, positive, small⟩ rfl ?_ rfl ?_⟩
    · simp only
      omega
    · simp only
      omega
    · simp only [BufCall.Serves]
      omega
    · change b.cells b.readPtr (b.writePtr + moveLen) = b.readable ++ b.free.take moveLen
      have taken : b.free.take moveLen = b.cells b.writePtr (b.writePtr + moveLen) := by
        simp only [free, cells, List.take_take]
        congr 1
        omega
      rw [taken, readable, joint, cells_append start (by omega) (by omega)]
  · have ran : RawBuf.moveWritePtr moveLen b = (.error (.thrown .lengthError), b) := by
      rw [RawBuf.moveWritePtr, if_neg zero, if_neg enough]
    exact ⟨_, _, void_error ran, Ends.refuse ordered (by simp) (Or.inr (by simp only [BufCall.Serves]; omega))⟩

theorem Ordered.moveBuf (ordered : b.Ordered) :
    ∃ result after, call .moveBuf b = (result, after) ∧ b.Ends .moveBuf result after := by
  by_cases front : b.readPtr = b.buf
  · exact ⟨_, _, void_ok (if_pos front), Ends.finish ordered rfl trivial rfl rfl⟩
  by_cases drained : b.readPtr = b.writePtr
  · have ran : RawBuf.moveBuf b = (.ok (), b.resetPtrs) := by rw [RawBuf.moveBuf, if_neg front, if_pos drained]
    refine ⟨_, _, void_ok ran, Ends.finish ordered.reset rfl trivial rfl ?_⟩
    have nothing : b.readable = [] := by
      refine List.eq_nil_of_length_eq_zero ?_
      rw [ordered.readable_length, ordered.joint, drained, Nat.sub_self]
    rw [reset_readable, BufCall.onQueue, nothing]
  · have length := ordered.readable_length
    have unreadCells := ordered.unread_cells
    have readLen := ordered.getValidReadLen
    obtain ⟨start, unread, joint, room, stop, backed, positive, small⟩ := ordered
    have behind : b.readPtr < b.writePtr := by omega
    have moveLen : (b.writePtr - b.readPtr) % 2 ^ 32 = b.readable.length := by
      rw [length, joint]
      exact Nat.mod_eq_of_lt (by omega)
    have fewer : b.readable.length < b.len := by omega
    rw [readLen, ← length] at unreadCells
    have ran : RawBuf.moveBuf b = (.ok (), { b with
        memory := overwrite b.memory 0 b.readable
        readPtr := b.buf
        writePtr := b.buf + b.readable.length
        readBound := b.buf + b.readable.length }) := by
      rw [RawBuf.moveBuf, if_neg front, if_neg drained, if_pos behind]
      simp only [moveLen]
      rw [if_neg fewer.ne, if_pos fewer, unreadCells]
    have within : 0 + b.readable.length ≤ b.memory.length := by omega
    refine ⟨_, _, void_ok ran, Ends.finish ⟨le_rfl, Nat.le_add_right _ _, rfl, ?_, stop, ?_, positive, small⟩ rfl
      trivial rfl ?_⟩
    · simp only
      omega
    · simp only
      rw [overwrite_length within, backed]
    · have read := overwrite_read (Nat.le_refl 0) within
      simp only [Nat.sub_self, List.take_zero, List.nil_append, Nat.zero_add] at read
      rw [readable, cells]
      simp only [Nat.sub_self, Nat.add_sub_cancel_left]
      exact read

theorem Ordered.fill (ordered : b.Ordered) (bytes : Bytes) : b.Ends (.fill bytes) (.ok []) (b.fill bytes) := by
  unfold RawBuf.fill
  split
  · rename_i fits
    have joint := ordered.joint
    obtain ⟨start, unread, _, room, stop, backed, positive, small⟩ := ordered
    have within : b.writePtr - b.buf + bytes.length ≤ b.memory.length := by omega
    refine Ends.finish ⟨start, unread, joint, room, stop, ?_, positive, small⟩ rfl trivial rfl ?_
    · rw [overwrite_length within, backed]
    · have read := overwrite_before (by omega : b.readPtr - b.buf ≤ b.writePtr - b.buf) within
      have length : b.readBound - b.readPtr = b.writePtr - b.buf - (b.readPtr - b.buf) := by omega
      simp only [readable, cells, BufCall.onQueue]
      rw [length, read]
  · exact Ends.finish ordered rfl trivial rfl rfl

/-- What every call does to a buffer whose pointers stand in order. -/
theorem Ordered.call (ordered : b.Ordered) (c : BufCall) :
    ∃ result after, RawBuf.call c b = (result, after) ∧ b.Ends c result after := by
  cases c with
  | writeToByteBuf bytes place => exact ordered.write bytes place
  | readFromByteBuf bufLen => exact ordered.read bufLen
  | moveReadPtr moveLen => exact ordered.moveReadPtr moveLen
  | moveWritePtr moveLen => exact ordered.moveWritePtr moveLen
  | moveBuf => exact ordered.moveBuf
  | reset => exact ⟨_, _, rfl, Ends.finish ordered.reset rfl trivial rfl (reset_readable b)⟩
  | fill bytes => exact ⟨_, _, rfl, ordered.fill bytes⟩

end RawBuf

/-- A buffer with the queue that its calls so far make: a call that returns
acts on the queue and another one does not. -/
structure BufHistory where
  buf : RawBuf
  queue : Bytes
  deriving DecidableEq, Repr

namespace BufHistory

def start (len place : Nat) : BufHistory := ⟨.make len true place, []⟩

def step (s : BufHistory) (c : BufCall) : Option BufHistory :=
  match RawBuf.call c s.buf with
  | (.ok _, after) => some ⟨after, c.onQueue s.queue s.buf.free⟩
  | (.error _, after) => some ⟨after, s.queue⟩

structure Refines (s : BufHistory) : Prop where
  ordered : s.buf.Ordered
  same : s.buf.readable = s.queue

theorem Refines.step {s next : BufHistory} {c : BufCall} (refines : s.Refines) (ran : s.step c = some next) :
    next.Refines := by
  obtain ⟨result, after, called, ends⟩ := refines.ordered.call c
  unfold BufHistory.step at ran
  rw [called] at ran
  cases result with
  | ok bytes =>
    cases ran
    refine ⟨ends.ordered, ?_⟩
    rw [(ends.returned bytes rfl).2.2, refines.same]
  | error stop =>
    cases ran
    refine ⟨ends.ordered, ?_⟩
    rw [(ends.stopped stop rfl).1, refines.same]

/-- After every sequence of calls the readable region is the queue and the
pointers stand in order; a call answers from the queue, it ends, and where
it throws, the content is as it was. -/
theorem buf_refines_fifo {len place : Nat} (positive : 0 < len) (small : len < 2 ^ 31) {trace : List BufCall}
    {s : BufHistory} (run : Reaches step (start len place) trace s) :
    s.buf.readable = s.queue ∧
    (s.buf.buf ≤ s.buf.readPtr ∧ s.buf.readPtr ≤ s.buf.readBound ∧ s.buf.readBound = s.buf.writePtr ∧
      s.buf.writePtr ≤ s.buf.writeBound ∧ s.buf.writeBound = s.buf.buf + s.buf.len) ∧
    ∀ c, ∃ result after, RawBuf.call c s.buf = (result, after) ∧
      (∀ bytes, result = .ok bytes → c.Serves s.queue s.buf.free ∧ bytes = c.answer s.queue) ∧
      (∀ stop, result = .error stop → after.readable = s.queue ∧ stop ≠ .diverged ∧
        (c.isWrite = true ∨ ¬ c.Serves s.queue s.buf.free)) := by
  have refines : s.Refines :=
    run.invariant ⟨RawBuf.make_ordered positive small true place, RawBuf.make_readable len true place⟩
    fun refines _ ran => refines.step ran
  obtain ⟨ordered, same⟩ := refines
  refine ⟨same, ⟨ordered.start, ordered.unread, ordered.joint, ordered.room, ordered.stop⟩, fun c => ?_⟩
  obtain ⟨result, after, called, ends⟩ := ordered.call c
  rw [← same]
  refine ⟨result, after, called, ?_, ?_⟩
  · intro bytes returned
    obtain ⟨serves, answer, _⟩ := ends.returned bytes returned
    exact ⟨serves, answer⟩
  · intro stop stopped
    obtain ⟨unchanged, ending, refused⟩ := ends.stopped stop stopped
    exact ⟨by rw [unchanged], ending, refused⟩

/-- A write that makes the buffer grow, and a read of the first byte. -/
theorem buf_refines_fifo_grown : ∃ s, Reaches step (start 2 100)
    [.readFromByteBuf 1, .writeToByteBuf [3] 200, .writeToByteBuf [1, 2] 200] s ∧ s.buf.readable = [2, 3] := by
  have ran : runAll step (start 2 100) [.writeToByteBuf [1, 2] 200, .writeToByteBuf [3] 200, .readFromByteBuf 1] =
      some ⟨⟨4, 200, [1, 2, 3, 0], 203, 204, true, 201, 203⟩, [2, 3]⟩ := by decide +kernel
  have run := Reaches.of_runAll _ .start ran
  exact ⟨_, run, (buf_refines_fifo (by decide) (by decide) run).1⟩

end BufHistory

end DbcNode
