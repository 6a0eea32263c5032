import DbcNode.Lib.BlockHash
import DbcNode.Lib.Bytes

namespace DbcNode.Util

/-- `Ch` of `sha256.cpp`, which is modelled here without the variant for
processors with SSE4, together with `Hash` of `hash.h`. -/
def ch (x y z : UInt32) : UInt32 := z ^^^ (x &&& (y ^^^ z))

def maj (x y z : UInt32) : UInt32 := (x &&& y) ||| (z &&& (x ||| y))

/-- `Sigma0`, and the three after it. -/
def bigSigma0 (x : UInt32) : UInt32 :=
    (x >>> 2 ||| x <<< 30) ^^^ (x >>> 13 ||| x <<< 19) ^^^ (x >>> 22 ||| x <<< 10)

def bigSigma1 (x : UInt32) : UInt32 := (x >>> 6 ||| x <<< 26) ^^^ (x >>> 11 ||| x <<< 21) ^^^ (x >>> 25 ||| x <<< 7)

def smallSigma0 (x : UInt32) : UInt32 := (x >>> 7 ||| x <<< 25) ^^^ (x >>> 18 ||| x <<< 14) ^^^ (x >>> 3)

def smallSigma1 (x : UInt32) : UInt32 := (x >>> 17 ||| x <<< 15) ^^^ (x >>> 19 ||| x <<< 13) ^^^ (x >>> 10)

/-- The eight words `s[0]` to `s[7]`, and the variables of the same names
that a block starts with. -/
structure Regs where
  a : UInt32
  b : UInt32
  c : UInt32
  d : UInt32
  e : UInt32
  f : UInt32
  g : UInt32
  h : UInt32
  deriving DecidableEq, Repr

/-- `Round`. The source hands the variables to the next call moved on by one
place; here the values move. -/
def round (r : Regs) (k w : UInt32) : Regs :=
  let t1 := r.h + bigSigma1 r.e + ch r.e r.f r.g + k + w
  let t2 := bigSigma0 r.a + maj r.a r.b r.c
  ⟨t1 + t2, r.a, r.b, r.c, r.d + t1, r.e, r.f, r.g⟩

/-- `Initialize`. -/
def initialState : Regs :=
  ⟨0x6a09e667, 0xbb67ae85, 0x3c6ef372, 0xa54ff53a, 0x510e527f, 0x9b05688c, 0x1f83d9ab, 0x5be0cd19⟩

def roundConstants : List UInt32 := [
  0x428a2f98, 0x71374491, 0xb5c0fbcf, 0xe9b5dba5, 0x3956c25b, 0x59f111f1, 0x923f82a4, 0xab1c5ed5,
  0xd807aa98, 0x12835b01, 0x243185be, 0x550c7dc3, 0x72be5d74, 0x80deb1fe, 0x9bdc06a7, 0xc19bf174,
  0xe49b69c1, 0xefbe4786, 0x0fc19dc6, 0x240ca1cc, 0x2de92c6f, 0x4a7484aa, 0x5cb0a9dc, 0x76f988da,
  0x983e5152, 0xa831c66d, 0xb00327c8, 0xbf597fc7, 0xc6e00bf3, 0xd5a79147, 0x06ca6351, 0x14292967,
  0x27b70a85, 0x2e1b2138, 0x4d2c6dfc, 0x53380d13, 0x650a7354, 0x766a0abb, 0x81c2c92e, 0x92722c85,
  0xa2bfe8a1, 0xa81a664b, 0xc24b8b70, 0xc76c51a3, 0xd192e819, 0xd6990624, 0xf40e3585, 0x106aa070,
  0x19a4c116, 0x1e376c08, 0x2748774c, 0x34b0bcb5, 0x391c0cb3, 0x4ed8aa4a, 0x5b9cca4f, 0x682e6ff3,
  0x748f82ee, 0x78a5636f, 0x84c87814, 0x8cc70208, 0x90befffa, 0xa4506ceb, 0xbef9a3f7, 0xc67178f2]

def readBE32 (chunk : Bytes) (at_ : Nat) : UInt32 := UInt32.ofNat (ofBE ((chunk.drop at_).take 4))

/-- One of the 64 lines of `Transform`: `w0` to `w15` are read first, and
then each is added to in its turn. -/
def roundLine (chunk : Bytes) (st : Regs × List UInt32) (i : Nat) : Regs × List UInt32 :=
  let word (j : Nat) := st.2.getD (j % 16) 0
  let w := if i < 16 then readBE32 chunk (4 * i)
    else word i + (smallSigma1 (word (i + 14)) + word (i + 9) + smallSigma0 (word (i + 1)))
  (round st.1 (roundConstants.getD i 0) w, st.2.set (i % 16) w)

def Regs.add (s r : Regs) : Regs :=
  ⟨s.a + r.a, s.b + r.b, s.c + r.c, s.d + r.d, s.e + r.e, s.f + r.f, s.g + r.g, s.h + r.h⟩

/-- `Transform` of one block. -/
def transformBlock (s : Regs) (chunk : Bytes) : Regs :=
  s.add ((List.range 64).foldl (roundLine chunk) (s, List.replicate 16 0)).1

/-- `Transform`. -/
def transform (s : Regs) (chunk : Bytes) (blocks : Nat) : Regs := absorb 64 transformBlock blocks s chunk

structure CSHA256 where
  s : Regs
  buf : Bytes
  bytes : UInt64

namespace CSHA256

/-- What is in the buffer before anything is written is not set. -/
def init (buf : Fin 64 → UInt8) : CSHA256 := ⟨initialState, List.ofFn buf, 0⟩

def memcpy (buf : Bytes) (at_ : Nat) (data : Bytes) : Bytes := buf.take at_ ++ data ++ buf.drop (at_ + data.length)

/-- Fill the buffer, and process it. With the hasher comes what is left of
the data, and `bufsize`. -/
def fillBuffer (hasher : CSHA256) (data : Bytes) : CSHA256 × Bytes × Nat :=
  let bufsize := hasher.bytes.toNat % 64
  if bufsize ≠ 0 ∧ bufsize + data.length ≥ 64 then
    let buf := memcpy hasher.buf bufsize (data.take (64 - bufsize))
    (⟨transform hasher.s buf 1, buf, hasher.bytes + UInt64.ofNat (64 - bufsize)⟩, data.drop (64 - bufsize), 0)
  else (hasher, data, bufsize)

def processBlocks (hasher : CSHA256) (data : Bytes) : CSHA256 × Bytes :=
  if data.length ≥ 64 then
    let blocks := data.length / 64
    (⟨transform hasher.s data blocks, hasher.buf, hasher.bytes + UInt64.ofNat (64 * blocks)⟩,
      data.drop (64 * blocks))
  else (hasher, data)

/-- Fill the buffer with what remains. -/
def keepRest (hasher : CSHA256) (bufsize : Nat) (data : Bytes) : CSHA256 :=
  if data.length > 0 then
    ⟨hasher.s, memcpy hasher.buf bufsize data, hasher.bytes + UInt64.ofNat data.length⟩
  else hasher

def write (hasher : CSHA256) (data : Bytes) : CSHA256 :=
  let (hasher, data, bufsize) := hasher.fillBuffer data
  let (hasher, data) := hasher.processBlocks data
  hasher.keepRest bufsize data

/-- The eight words as `WriteBE32` puts them down. -/
def digest (s : Regs) : Bytes := [s.a, s.b, s.c, s.d, s.e, s.f, s.g, s.h].flatMap (fun word => toBE 4 word.toNat)

def finalize (hasher : CSHA256) : Bytes × CSHA256 :=
  let pad : Bytes := 0x80 :: List.replicate 63 0
  let sizedesc := toBE 8 (hasher.bytes <<< 3).toNat
  let padded := hasher.write (pad.take (1 + (119 - hasher.bytes.toNat % 64) % 64))
  let ended := padded.write sizedesc
  (digest ended.s, ended)

def reset (hasher : CSHA256) : CSHA256 := ⟨initialState, hasher.buf, 0⟩

end CSHA256

/-- `Hash` of two iterators, through `CHash256`. -/
def hash256 (garbage : Fin 64 → UInt8) (data : Bytes) : Bytes :=
  let (buf, sha) := ((CSHA256.init garbage).write data).finalize
  (sha.reset.write buf).finalize.1

/-- The standard says what the hash of a message is in one piece. It has the
choice function in this form, which the source saves an operation of. -/
def standardCh (x y z : UInt32) : UInt32 := (x &&& y) ^^^ (~~~x &&& z)

/-- The majority function as the standard has it. -/
def standardMaj (x y z : UInt32) : UInt32 := (x &&& y) ^^^ (x &&& z) ^^^ (y &&& z)

theorem ch_eq_standard (x y z : UInt32) : ch x y z = standardCh x y z := by
  apply UInt32.eq_of_toBitVec_eq
  apply BitVec.eq_of_getElem_eq
  intro i inside
  simp only [ch, standardCh, UInt32.toBitVec_xor, UInt32.toBitVec_and, UInt32.toBitVec_not, BitVec.getElem_xor,
    BitVec.getElem_and, BitVec.getElem_not]
  cases x.toBitVec[i] <;> cases y.toBitVec[i] <;> cases z.toBitVec[i] <;> rfl

theorem maj_eq_standard (x y z : UInt32) : maj x y z = standardMaj x y z := by
  apply UInt32.eq_of_toBitVec_eq
  apply BitVec.eq_of_getElem_eq
  intro i inside
  simp only [maj, standardMaj, UInt32.toBitVec_xor, UInt32.toBitVec_and, UInt32.toBitVec_or, BitVec.getElem_xor,
    BitVec.getElem_and, BitVec.getElem_or]
  cases x.toBitVec[i] <;> cases y.toBitVec[i] <;> cases z.toBitVec[i] <;> rfl

/-- One of the 64 steps of the standard: all eight variables move on, and
two of them get the temporary words. -/
def standardRound (r : Regs) (k w : UInt32) : Regs where
  a := (r.h + bigSigma1 r.e + standardCh r.e r.f r.g + k + w) + (bigSigma0 r.a + standardMaj r.a r.b r.c)
  b := r.a
  c := r.b
  d := r.c
  e := r.d + (r.h + bigSigma1 r.e + standardCh r.e r.f r.g + k + w)
  f := r.e
  g := r.f
  h := r.g

theorem round_eq_standard : round = standardRound := by
  funext r k w
  rw [round, ch_eq_standard, maj_eq_standard]
  rfl

/-- The words of the message schedule. -/
def scheduled (block : Bytes) (t : Nat) : UInt32 :=
  if t < 16 then readBE32 block (4 * t)
  else smallSigma1 (scheduled block (t - 2)) + scheduled block (t - 7) + smallSigma0 (scheduled block (t - 15)) +
    scheduled block (t - 16)
  termination_by t

def compression (s : Regs) (block : Bytes) : Regs :=
  s.add ((List.range 64).foldl (fun r t => standardRound r (roundConstants.getD t 0) (scheduled block t)) s)

/-- The message, a one bit, as few zeros as fill the last block, and the
length in bits. -/
def padded (message : Bytes) : Bytes :=
  message ++ 0x80 :: List.replicate ((64 - (message.length + 9) % 64) % 64) 0 ++ toBE 8 (8 * message.length)

def sha256 (message : Bytes) : Bytes :=
  CSHA256.digest (absorb 64 compression ((padded message).length / 64) initialState (padded message))

/-- The window of sixteen words that the source works in holds the last
words of the schedule. -/
theorem roundLine_window (block : Bytes) (s : Regs) {n : Nat} :
    ∃ window : List UInt32, (List.range n).foldl (roundLine block) (s, List.replicate 16 0) =
        ((List.range n).foldl (fun r t => round r (roundConstants.getD t 0) (scheduled block t)) s, window) ∧
      window.length = 16 ∧ ∀ t, t < n → n ≤ t + 16 → window.getD (t % 16) 0 = scheduled block t := by
  induction n with
  | zero => exact ⟨_, rfl, List.length_replicate, fun t early => by omega⟩
  | succ n ih =>
    obtain ⟨window, reached, length, holds⟩ := ih
    have word : (if n < 16 then readBE32 block (4 * n)
        else window.getD (n % 16) 0 + (smallSigma1 (window.getD ((n + 14) % 16) 0) +
          window.getD ((n + 9) % 16) 0 + smallSigma0 (window.getD ((n + 1) % 16) 0))) = scheduled block n := by
      rw [scheduled]
      split
      · rfl
      · rename_i later
        have back : ∀ k, 0 < k → k ≤ 16 → window.getD ((n + (16 - k)) % 16) 0 = scheduled block (n - k) := by
          intro k positive within
          have same : (n + (16 - k)) % 16 = (n - k) % 16 := by omega
          rw [same]
          exact holds (n - k) (by omega) (by omega)
        have first := back 16 (by omega) (by omega)
        rw [Nat.sub_self, Nat.add_zero] at first
        rw [first, back 2 (by omega) (by omega), back 7 (by omega) (by omega), back 15 (by omega) (by omega)]
        exact UInt32.add_comm _ _
    refine ⟨window.set (n % 16) (scheduled block n), ?_, by rw [List.length_set, length], ?_⟩
    · rw [List.range_succ, List.foldl_append, List.foldl_append, reached, List.foldl_cons, List.foldl_nil,
        List.foldl_cons, List.foldl_nil]
      simp only [roundLine]
      rw [word]
    · intro t early recent
      rcases Nat.lt_succ_iff_lt_or_eq.mp early with before | rfl
      · have apart : n % 16 ≠ t % 16 := by omega
        rw [List.getD_eq_getElem?_getD, List.getElem?_set_ne apart, ← List.getD_eq_getElem?_getD]
        exact holds t before (by omega)
      · have inside : t % 16 < window.length := by omega
        rw [List.getD_eq_getElem?_getD, List.getElem?_set_self inside]
        rfl

theorem transformBlock_eq (s : Regs) (block : Bytes) : transformBlock s block = compression s block := by
  obtain ⟨window, reached, _, _⟩ := roundLine_window block s (n := 64)
  rw [transformBlock, reached, compression, round_eq_standard]

namespace CSHA256
variable {hasher : CSHA256} {message data buf : Bytes} {at_ : Nat}

theorem length_memcpy (buf data : Bytes) (within : at_ + data.length ≤ buf.length) :
    (memcpy buf at_ data).length = buf.length := by
  simp only [memcpy, List.length_append, List.length_take, List.length_drop]
  omega

theorem take_memcpy (buf data : Bytes) (within : at_ + data.length ≤ buf.length) :
    (memcpy buf at_ data).take (at_ + data.length) = buf.take at_ ++ data := by
  have length : (buf.take at_ ++ data).length = at_ + data.length := by
    rw [List.length_append, List.length_take, Nat.min_eq_left (by omega)]
  rw [memcpy, List.take_left' length]

/-- A hasher that has been given this message. -/
structure Holds (hasher : CSHA256) (message : Bytes) : Prop where
  absorbed : Absorbed 64 transformBlock initialState message hasher.s (hasher.buf.take (message.length % 64))
  room : hasher.buf.length = 64
  bytes : hasher.bytes.toNat = message.length % 2 ^ 64

theorem Holds.init (garbage : Fin 64 → UInt8) : Holds (CSHA256.init garbage) [] :=
  ⟨Absorbed.nothing (by decide) _, List.length_ofFn, rfl⟩

theorem Holds.reset (holds : Holds hasher message) : Holds hasher.reset [] :=
  ⟨Absorbed.nothing (by decide) _, holds.room, rfl⟩

theorem Holds.bufsize (holds : Holds hasher message) : hasher.bytes.toNat % 64 = message.length % 64 := by
  rw [holds.bytes, Nat.mod_mod_of_dvd _ (by decide)]

theorem Holds.pending (holds : Holds hasher message) :
    (hasher.buf.take (message.length % 64)).length = message.length % 64 := holds.absorbed.length_mod

theorem Holds.count (holds : Holds hasher message) (n : Nat) :
    (hasher.bytes + UInt64.ofNat n).toNat = (message.length + n) % 2 ^ 64 := by
  rw [UInt64.toNat_add, UInt64.toNat_ofNat', holds.bytes]
  omega

/-- After the first step the buffer is empty, or the data does not fill
it. -/
theorem Holds.fillBuffer (holds : Holds hasher message) (data : Bytes) :
    ∃ front rest filled bufsize, hasher.fillBuffer data = (filled, rest, bufsize) ∧ data = front ++ rest ∧
      Holds filled (message ++ front) ∧ bufsize = (message ++ front).length % 64 ∧
      (bufsize = 0 ∨ bufsize + rest.length < 64) := by
  have size := holds.bufsize
  have room := holds.room
  have pending := holds.pending
  rw [CSHA256.fillBuffer]
  split
  · rename_i full
    have front : (data.take (64 - hasher.bytes.toNat % 64)).length = 64 - hasher.bytes.toNat % 64 := by
      rw [List.length_take]
      omega
    have inside :
      hasher.bytes.toNat % 64 + (data.take (64 - hasher.bytes.toNat % 64)).length ≤ hasher.buf.length := by
      omega
    have copied := take_memcpy hasher.buf (data.take (64 - hasher.bytes.toNat % 64)) inside
    have kept := length_memcpy hasher.buf (data.take (64 - hasher.bytes.toNat % 64)) inside
    have whole : hasher.bytes.toNat % 64 + (data.take (64 - hasher.bytes.toNat % 64)).length =
        (memcpy hasher.buf (hasher.bytes.toNat % 64) (data.take (64 - hasher.bytes.toNat % 64))).length := by omega
    rw [whole, List.take_length, size] at copied
    have empty : (message ++ data.take (64 - hasher.bytes.toNat % 64)).length % 64 = 0 := by
      rw [List.length_append, front]
      omega
    refine ⟨_, _, _, _, rfl, (List.take_append_drop _ data).symm, ⟨?_, ?_, ?_⟩, empty.symm, Or.inl rfl⟩
    · have filled := holds.absorbed.fill (data.take (64 - hasher.bytes.toNat % 64)) 1 (by
        rw [List.length_append, pending, front]
        omega)
      rw [empty, List.take_zero]
      simp only [transform]
      rw [size] at filled ⊢
      rw [copied]
      exact filled
    · exact kept.trans room
    · rw [holds.count, List.length_append, front]
  · rename_i short
    refine ⟨[], data, hasher, _, rfl, rfl, by rwa [List.append_nil], by rw [List.append_nil, size], ?_⟩
    omega

theorem Holds.processBlocks (holds : Holds hasher message) (data : Bytes)
    (short : message.length % 64 = 0 ∨ message.length % 64 + data.length < 64) :
    ∃ front rest processed, hasher.processBlocks data = (processed, rest) ∧ data = front ++ rest ∧
      Holds processed (message ++ front) ∧ (message ++ front).length % 64 = message.length % 64 ∧
      message.length % 64 + rest.length < 64 := by
  rw [CSHA256.processBlocks]
  split
  · rename_i long
    have empty : message.length % 64 = 0 := by omega
    have front : (data.take (64 * (data.length / 64))).length = 64 * (data.length / 64) := by
      rw [List.length_take]
      omega
    have same : (message ++ data.take (64 * (data.length / 64))).length % 64 = message.length % 64 := by
      rw [List.length_append, front]
      omega
    refine ⟨_, _, _, rfl, (List.take_append_drop _ data).symm, ⟨?_, holds.room, ?_⟩, same, ?_⟩
    · have absorbed := holds.absorbed
      rw [empty, List.take_zero] at absorbed
      have filled := absorbed.fill (data.take (64 * (data.length / 64))) (data.length / 64) front
      rw [same, empty, List.take_zero]
      have whole : absorb 64 transformBlock (data.length / 64) hasher.s data =
          absorb 64 transformBlock (data.length / 64) hasher.s (data.take (64 * (data.length / 64))) := by
        have cut := absorb_append transformBlock front.ge hasher.s (data.drop (64 * (data.length / 64)))
        rwa [List.take_append_drop] at cut
      simp only [transform]
      rw [whole]
      exact filled
    · rw [holds.count, List.length_append, front]
    · rw [List.length_drop]
      omega
  · rename_i few
    refine ⟨[], data, hasher, rfl, rfl, by rwa [List.append_nil], by rw [List.append_nil], ?_⟩
    omega

theorem Holds.keepRest (holds : Holds hasher message) (data : Bytes)
    (short : message.length % 64 + data.length < 64) :
    Holds (hasher.keepRest (message.length % 64) data) (message ++ data) := by
  rw [CSHA256.keepRest]
  split
  · have pending := holds.pending
    have room := holds.room
    have within : message.length % 64 + data.length ≤ hasher.buf.length := by omega
    have kept := holds.absorbed.keep data (by rw [List.length_append, pending]; exact short)
    have length : (message ++ data).length % 64 = message.length % 64 + data.length := by
      rw [List.length_append]
      omega
    refine ⟨?_, ?_, ?_⟩
    · rw [length, take_memcpy _ _ within]
      exact kept
    · exact (length_memcpy _ _ within).trans room
    · rw [holds.count, List.length_append]
  · rename_i nothing
    obtain rfl : data = [] := List.length_eq_zero_iff.mp (by omega)
    rwa [List.append_nil]

/-- However a message is cut up, writing the pieces leaves the hasher with
the message. -/
theorem Holds.write (holds : Holds hasher message) (data : Bytes) :
    Holds (hasher.write data) (message ++ data) := by
  obtain ⟨front, rest, filled, bufsize, fill, rfl, held, size, short⟩ := holds.fillBuffer data
  subst size
  obtain ⟨whole, rest', processed, process, rfl, held', same, short'⟩ := held.processBlocks rest short
  rw [CSHA256.write, fill]
  simp only [process]
  rw [← same] at short' ⊢
  rw [← List.append_assoc, ← List.append_assoc]
  exact held'.keepRest rest' short'

theorem Holds.writes (holds : Holds hasher message) (pieces : List Bytes) :
    Holds (pieces.foldl CSHA256.write hasher) (message ++ pieces.flatten) := by
  induction pieces generalizing hasher message with
  | nil => rwa [List.flatten_nil, List.append_nil]
  | cons piece pieces ih =>
    have later := ih (holds.write piece)
    rwa [List.append_assoc, ← List.flatten_cons] at later

theorem toBE_mod (w n : Nat) : toBE w (n % 256 ^ w) = toBE w n := by
  have back := toBE_ofBE (toBE w n)
  rwa [toBE_length, ofBE_toBE] at back

/-- What `Finalize` writes after the message is the padding of the
standard. -/
theorem Holds.padded (holds : Holds hasher message) :
    ∃ ended, hasher.finalize = (digest ended.s, ended) ∧ Holds ended (Util.padded message) := by
  have zeros : 1 + (119 - hasher.bytes.toNat % 64) % 64 = (64 - (message.length + 9) % 64) % 64 + 1 := by
    have size := holds.bufsize
    omega
  have pad : (0x80 :: List.replicate 63 (0 : UInt8)).take (1 + (119 - hasher.bytes.toNat % 64) % 64) =
      0x80 :: List.replicate ((64 - (message.length + 9) % 64) % 64) 0 := by
    rw [zeros, List.take_succ_cons, List.take_replicate, Nat.min_eq_left (by omega)]
  have sizedesc : toBE 8 (hasher.bytes <<< 3).toNat = toBE 8 (8 * message.length) := by
    have shifted : (hasher.bytes <<< 3).toNat = 8 * message.length % 256 ^ 8 := by
      rw [UInt64.toNat_shiftLeft, holds.bytes, Nat.shiftLeft_eq]
      have places : (3 : UInt64).toNat % 64 = 3 := rfl
      rw [places]
      omega
    rw [shifted, toBE_mod]
  refine ⟨_, rfl, ?_⟩
  have written := (holds.write (0x80 :: List.replicate ((64 - (message.length + 9) % 64) % 64) 0)).write
    (toBE 8 (8 * message.length))
  rw [pad, sizedesc]
  exact written

theorem length_padded (message : Bytes) : (Util.padded message).length % 64 = 0 := by
  simp only [Util.padded, List.length_append, List.length_cons, List.length_replicate, toBE_length]
  omega

theorem Holds.digest (holds : Holds hasher message) : hasher.finalize.1 = sha256 message := by
  obtain ⟨ended, final, held⟩ := holds.padded
  have absorbed := held.absorbed
  rw [length_padded, List.take_zero] at absorbed
  have compressed : transformBlock = compression := by
    funext s block
    exact transformBlock_eq s block
  rw [final, absorbed.state_eq, compressed, sha256]

/-- However the message is cut up between the calls of `Write`, `Finalize`
gives the hash of the standard, whatever the buffer held before. -/
theorem finalize_writes (garbage : Fin 64 → UInt8) (pieces : List Bytes) :
    (pieces.foldl CSHA256.write (CSHA256.init garbage)).finalize.1 = sha256 pieces.flatten :=
  ((Holds.init garbage).writes pieces).digest

-- the first digest of `SelfTest`
example : ((init (fun _ => 7)).write []).finalize.1.take 8 = [0xe3, 0xb0, 0xc4, 0x42, 0x98, 0xfc, 0x1c, 0x14] := by
  decide +kernel

end CSHA256

theorem hash256_eq (garbage : Fin 64 → UInt8) (data : Bytes) : hash256 garbage data = sha256 (sha256 data) := by
  have first := (CSHA256.Holds.init garbage).write data
  obtain ⟨ended, final, held⟩ := first.padded
  have second := (held.reset.write (CSHA256.digest ended.s)).digest
  have hashed := first.digest
  rw [final] at hashed
  rw [hash256, final]
  simp only
  rw [second]
  simp only [List.nil_append] at hashed ⊢
  rw [hashed]

end DbcNode.Util
