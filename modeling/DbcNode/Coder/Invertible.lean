import DbcNode.Coder.Unpack

namespace DbcNode

namespace ByteBuf

/-- A reset buffer takes this many bytes: they fit the allocation, or one of
its doublings that is allowed has more room than they need. -/
def Room (b : ByteBuf) (n : Nat) : Prop :=
  n ≤ b.len ∨ b.autoAlloc = true ∧ ∃ k, b.len * 2 ^ (k + 1) ≤ maxByteBufLen ∧ n < b.len * 2 ^ (k + 1)

theorem grow_cases (b : ByteBuf) (bytes : Bytes) {rounds newLen : Nat} (positive : 0 < rounds)
    (enough : maxByteBufLen < newLen * 2 ^ (rounds - 1)) :
    (∃ grown, b.grow bytes rounds newLen = .ok grown ∧ grown.data = b.data ++ bytes ∧
        ∃ k, newLen * 2 ^ k ≤ maxByteBufLen ∧ b.data.length + bytes.length < newLen * 2 ^ k) ∨
      (b.grow bytes rounds newLen = .error (.thrown .lengthError) ∧
        ∀ k, newLen * 2 ^ k ≤ maxByteBufLen → newLen * 2 ^ k ≤ b.data.length + bytes.length) := by
  induction rounds generalizing newLen with
  | zero => omega
  | succ rounds ih =>
    rw [ByteBuf.grow]
    by_cases small : newLen ≤ maxByteBufLen
    · rw [dif_pos small]
      by_cases room : bytes.length < newLen - b.data.length
      · rw [dif_pos room]
        exact Or.inl ⟨_, rfl, rfl, 0, by omega, by omega⟩
      · rw [dif_neg room]
        have next : 0 < rounds := by
          rcases Nat.eq_zero_or_pos rounds with rfl | more
          · rw [Nat.zero_add, Nat.sub_self, Nat.pow_zero, Nat.mul_one] at enough
            omega
          · exact more
        have doubled : newLen * 2 ^ rounds = newLen * 2 * 2 ^ (rounds - 1) := by
          rw [Nat.mul_assoc, ← Nat.pow_succ', show (rounds - 1).succ = rounds by omega]
        rw [Nat.add_sub_cancel, doubled] at enough
        rcases ih next enough with ⟨grown, ran, data, k, allowed, enough⟩ | ⟨ran, full⟩
        · refine Or.inl ⟨grown, ran, data, k + 1, ?_, ?_⟩
          · rwa [Nat.pow_succ', ← Nat.mul_assoc]
          · rwa [Nat.pow_succ', ← Nat.mul_assoc]
        · refine Or.inr ⟨ran, fun k allowed => ?_⟩
          cases k with
          | zero => omega
          | succ k =>
            rw [Nat.pow_succ', ← Nat.mul_assoc] at allowed ⊢
            exact full k allowed
    · rw [dif_neg small]
      refine Or.inr ⟨rfl, fun k allowed => ?_⟩
      have wider : newLen * 1 ≤ newLen * 2 ^ k := Nat.mul_le_mul_left newLen Nat.one_le_two_pow
      omega

/-- A write behind what a reset buffer has taken since fits, or throws. -/
theorem write_room {b : ByteBuf} {bytes : Bytes} (start : b.readPos = 0) (length : 0 < b.len) (some : bytes ≠ []) :
    (∃ written, writeToByteBuf bytes b = (.ok (), written) ∧ written.data = b.data ++ bytes ∧
        b.Room (b.data.length + bytes.length)) ∨
      (writeToByteBuf bytes b = (.error (.thrown .lengthError), b) ∧ ¬ b.Room (b.data.length + bytes.length)) := by
  rw [writeToByteBuf, if_neg some]
  by_cases room : b.readPos + b.data.length + bytes.length ≤ b.len
  · rw [dif_pos room]
    exact Or.inl ⟨_, rfl, rfl, Or.inl (by omega)⟩
  · rw [dif_neg room]
    by_cases auto : b.autoAlloc = true
    · rw [if_pos auto]
      have enough : maxByteBufLen < b.len * 2 * 2 ^ (26 - 1) := by
        unfold maxByteBufLen
        omega
      have doubled (k : Nat) : b.len * 2 * 2 ^ k = b.len * 2 ^ (k + 1) := by rw [Nat.pow_succ', Nat.mul_assoc]
      rcases b.grow_cases bytes (by decide : 0 < 26) enough with ⟨grown, ran, data, k, allowed, wide⟩ | ⟨ran, full⟩
      · rw [ran]
        rw [doubled] at allowed wide
        exact Or.inl ⟨grown, rfl, data, Or.inr ⟨auto, k, allowed, wide⟩⟩
      · rw [ran]
        refine Or.inr ⟨rfl, ?_⟩
        rintro (fits | ⟨_, k, allowed, wide⟩)
        · omega
        · have reached := full k (by rwa [doubled])
          rw [doubled] at reached
          omega
    · rw [if_neg auto]
      refine Or.inr ⟨rfl, ?_⟩
      rintro (fits | ⟨growing, _⟩)
      · omega
      · exact auto growing

/-- A write within the allocation changes the bytes only. -/
theorem write_within {b : ByteBuf} {bytes : Bytes} (start : b.readPos = 0) (some : bytes ≠ [])
    (room : b.data.length + bytes.length ≤ b.len) :
    ∃ written, writeToByteBuf bytes b = (.ok (), written) ∧ written.data = b.data ++ bytes ∧
      written.readPos = 0 ∧ written.len = b.len ∧ written.autoAlloc = b.autoAlloc := by
  refine ⟨{ b with data := b.data ++ bytes, fits := by rw [List.length_append]; omega }, ?_, rfl, start, rfl, rfl⟩
  rw [writeToByteBuf, if_neg some, dif_pos (by omega)]

end ByteBuf

namespace Compress

/-- A header with this flag byte and this type byte, and what follows it. -/
def packetOf (flag type : UInt8) (rest : Bytes) : Bytes := toBE 4 (8 + rest.length) ++ ([0, 0, flag, type] ++ rest)

theorem packetOf_length (flag type : UInt8) (rest : Bytes) :
    (packetOf flag type rest).length = 8 + rest.length := by
  simp only [packetOf, List.length_append, toBE_length, List.length_cons, List.length_nil]
  omega

theorem packetOf_take (flag type : UInt8) (rest : Bytes) :
    (packetOf flag type rest).take 4 = toBE 4 (8 + rest.length) :=
  List.take_left' (toBE_length _ _)

theorem packetOf_word (flag type : UInt8) (rest : Bytes) :
    ((packetOf flag type rest).drop 4).take 4 = [0, 0, flag, type] := by
  rw [packetOf, List.drop_left' (toBE_length _ _)]
  rfl

theorem packetOf_drop (flag type : UInt8) (rest : Bytes) : (packetOf flag type rest).drop 8 = rest := by
  rw [packetOf, ← List.append_assoc]
  exact List.drop_left' (by rw [List.length_append, toBE_length]; rfl)

theorem packetOf_type (flag type : UInt8) (rest : Bytes) :
    packetType (packetOf flag type rest) = flag.toNat * 256 + type.toNat := by
  rw [packetType, packetOf_word]
  simp [ofBE]

theorem packetOf_plain (type : UInt8) (rest : Bytes) : hasCompressFlag (packetOf 0 type rest) = false := by
  have small := type.toNat_lt
  rw [hasCompressFlag, packetOf_type, decide_eq_false_iff_not, Nat.and_one_is_mod, Nat.shiftRight_eq_div_pow]
  simp only [UInt8.toNat_zero]
  omega

theorem packetOf_packed (type : UInt8) (rest : Bytes) : hasCompressFlag (packetOf 1 type rest) = true := by
  have small := type.toNat_lt
  rw [hasCompressFlag, packetOf_type, decide_eq_true_iff, Nat.and_one_is_mod, Nat.shiftRight_eq_div_pow]
  simp only [UInt8.toNat_one]
  omega

/-- The mask takes the flag out of the type word. -/
theorem packetOf_masked (type : UInt8) (rest : Bytes) :
    toBE 4 (packetType (packetOf 1 type rest) &&& 0xFFFF00FF) = [0, 0, 0, type] := by
  have masked : ∀ n < 256, toBE 4 (256 + n &&& 0xFFFF00FF) = [0, 0, 0, UInt8.ofNat n] := by decide +kernel
  have word := masked type.toNat type.toNat_lt
  rw [UInt8.ofNat_toNat] at word
  rw [packetOf_type, UInt8.toNat_one, Nat.one_mul, word]

theorem packetOf_size {flag type : UInt8} {rest : Bytes} (small : 8 + rest.length < 2 ^ 31) :
    ofBE ((packetOf flag type rest).take 4) = (packetOf flag type rest).length := by
  rw [packetOf_take, packetOf_length, ofBE_toBE]
  omega

/-- A packet of at least the header: its length field is its size and its
type word has only the bits of its last byte. -/
structure Plain (packet : Bytes) : Prop where
  header : packetHeaderLen ≤ packet.length
  length : ofBE (packet.take 4) = packet.length
  type : packetType packet < 256

theorem Plain.eq {packet : Bytes} (plain : Plain packet) :
    ∃ type, packet = packetOf 0 type (packet.drop packetHeaderLen) := by
  have header : 8 ≤ packet.length := plain.header
  have first : (packet.take 4).length = 4 := by rw [List.length_take]; omega
  have second : ((packet.drop 4).take 4).length = 4 := by rw [List.length_take, List.length_drop]; omega
  have size : packet.take 4 = toBE 4 packet.length := by
    rw [← plain.length]
    conv_lhs => rw [← toBE_ofBE (packet.take 4), first]
  have type : ofBE ((packet.drop 4).take 4) < 256 := plain.type
  have word : (packet.drop 4).take 4 = [0, 0, 0, UInt8.ofNat (packetType packet)] := by
    conv_lhs => rw [← toBE_ofBE ((packet.drop 4).take 4), second]
    rw [toBE_small (w := 3) (by omega), toBE_small (w := 2) (by omega), toBE_small (w := 1) (by omega)]
    rfl
  have rest : (packet.drop 4).drop 4 = packet.drop 8 := List.drop_drop
  refine ⟨UInt8.ofNat (packetType packet), ?_⟩
  conv_lhs => rw [← List.take_append_drop 4 packet, ← List.take_append_drop 4 (packet.drop 4)]
  rw [packetOf, size, word, rest, packetHeaderLen, List.length_drop, show 8 + (packet.length - 8) =
    packet.length by omega]

/-- `compress` in any buffer that holds a packet: the packet with its flag
and its text, or there is no text or no room for it. -/
theorem compress_room (snappy : Snappy) {b : ByteBuf} {type : UInt8} {body : Bytes}
    (data : b.data = packetOf 0 type body) :
    (∃ packed, compress snappy b = (.ok true, packed) ∧ packed.data = packetOf 1 type (snappy.compress body) ∧
        snappy.compress body ≠ [] ∧ b.Room (8 + (snappy.compress body).length)) ∨
      ((compress snappy b).1 ≠ .ok true ∧
        ¬ (snappy.compress body ≠ [] ∧ b.Room (8 + (snappy.compress body).length))) := by
  obtain ⟨ctext, text⟩ : ∃ ctext, ctext = snappy.compress body := ⟨_, rfl⟩
  have held := b.fits
  have size : b.data.length = 8 + body.length := by rw [data, packetOf_length]
  obtain ⟨one, first, held, start, wide, auto⟩ := ByteBuf.write_within (b := b.reset) rfl
    (toBE_four_ne_nil (8 + ctext.length)) (by
      rw [ByteBuf.reset_data, toBE_length, List.length_nil]
      change 4 ≤ b.len
      omega)
  obtain ⟨two, second, held', start', wide', auto'⟩ := ByteBuf.write_within (b := one) start
    (show [0, 0, 1, type] ≠ [] by simp) (by
      rw [held, wide, ByteBuf.reset_data, List.nil_append, toBE_length]
      change 8 ≤ b.len
      omega)
  have run : compress snappy b = orFalse (do
      ByteBuf.writeToByteBuf (toBE 4 (8 + ctext.length))
      ByteBuf.writeToByteBuf [0, 0, 1, type]
      ByteBuf.writeToByteBuf ctext) b.reset := by
    rw [compress, Prog.bind_ok (Prog.fetch_run _ _), Prog.bind_ok (Prog.update_run _ _), data, packetHeaderLen,
      packetOf_drop, packetOf_word, ← text]
    rfl
  have header : two.data = toBE 4 (8 + ctext.length) ++ [0, 0, 1, type] := by
    rw [held', held, ByteBuf.reset_data, List.nil_append]
  have eight : two.data.length = 8 := by rw [header, List.length_append, toBE_length]; rfl
  have same (n : Nat) : two.Room n ↔ b.Room n := by
    rw [ByteBuf.Room, ByteBuf.Room, wide', wide, auto', auto]
    rfl
  rw [run, orFalse, Prog.bind_ok first, Prog.bind_ok second, ← text]
  by_cases empty : ctext = []
  · refine Or.inr ⟨?_, fun fine => fine.1 empty⟩
    rw [empty, ByteBuf.writeToByteBuf, if_pos rfl]
    intro wrong
    cases wrong
  · have positive : 0 < two.len := by
      rw [wide', wide]
      change 0 < b.len
      omega
    rcases ByteBuf.write_room start' positive empty with ⟨three, third, appended, room⟩ | ⟨third, full⟩
    · rw [eight, same] at room
      refine Or.inl ⟨three, by rw [third], ?_, empty, room⟩
      rw [appended, header, packetOf, List.append_assoc]
    · rw [eight, same] at full
      refine Or.inr ⟨?_, fun fine => full fine.2⟩
      rw [third]
      intro wrong
      cases wrong

/-- `uncompress` of such a packet writes the packet with this text, unless
there is no text or no room for it. -/
theorem uncompress_room {snappy : Snappy} {ctext text : Bytes} (type : UInt8) (small : 8 + ctext.length < 2 ^ 31)
    (inflated : snappy.uncompress ctext = some text) :
    (∃ out, uncompress snappy (packetOf 1 type ctext) ByteBuf.fresh = (.ok true, out) ∧
      out.data = packetOf 0 type text ∧
        text ≠ [] ∧ 8 + text.length < ByteBuf.capacity) ∨
      ((uncompress snappy (packetOf 1 type ctext) ByteBuf.fresh).1 ≠ .ok true ∧
        ¬ (text ≠ [] ∧ 8 + text.length < ByteBuf.capacity)) := by
  obtain ⟨out, still, wide, header, start⟩ :=
    Coder.uncompress_text (packetOf_packed type ctext) (packetOf_size small) (by rw [packetOf_drop, inflated])
  rw [packetOf_masked] at header
  have eight : out.data.length = 8 := by rw [header, List.length_append, toBE_length]; rfl
  rw [start, orFalse]
  by_cases empty : text = []
  · refine Or.inr ⟨?_, fun fine => fine.1 empty⟩
    rw [empty, ByteBuf.writeToByteBuf, if_pos rfl]
    intro wrong
    cases wrong
  · rcases still.write empty with ⟨written, ran, _, appended⟩ | ⟨ran, full⟩
    · have room := still.write_lt wide ran
      refine Or.inl ⟨written, by rw [ran], ?_, empty, by omega⟩
      rw [appended, header, packetOf, List.append_assoc]
    · refine Or.inr ⟨?_, fun fine => ?_⟩
      · rw [ran]
        intro wrong
        cases wrong
      · have room := fine.2
        omega

/-- The packet and its compressed form are within the limit of a buffer. -/
def Fits (snappy : Snappy) (packet : Bytes) : Prop :=
  packet.length ≤ maxByteBufLen ∧
    packetHeaderLen + (snappy.compress (packet.drop packetHeaderLen)).length ≤ maxByteBufLen

/-- Compressing the packet in a buffer can be undone: its flag is clear
before and set afterwards, the length field is the new size, and
`uncompress` into a new buffer gives the packet back. -/
structure Invertible (snappy : Snappy) (b : ByteBuf) : Prop where
  before : hasCompressFlag b.data = false
  after : ∀ packed, compress snappy b = (.ok true, packed) →
    hasCompressFlag packed.data = true ∧ ofBE (packed.data.take 4) = packed.data.length
  back : Fits snappy b.data → ∃ packed out, compress snappy b = (.ok true, packed) ∧
    uncompress snappy packed.data ByteBuf.fresh = (.ok true, out) ∧ out.data = b.data

/-- There is a body, its compressed text is not empty and has room in the
buffer it came from, and the packet is below what a new buffer grows to. -/
structure Spacious (snappy : Snappy) (b : ByteBuf) : Prop where
  body : b.data.drop packetHeaderLen ≠ []
  text : snappy.compress (b.data.drop packetHeaderLen) ≠ []
  room : b.Room (packetHeaderLen + (snappy.compress (b.data.drop packetHeaderLen)).length)
  limit : b.data.length < ByteBuf.capacity

/-- Of a packet that is within the limit of a buffer, and compressed is so
too, the compressing can be undone exactly when there is a body, its
compressed text is not empty and has room in the buffer, and a new buffer
can grow to the packet. -/
theorem invertible_iff {snappy : Snappy} (undoes : snappy.Undoes) {b : ByteBuf} (plain : Plain b.data) :
    Invertible snappy b ↔ (Fits snappy b.data → Spacious snappy b) := by
  obtain ⟨type, data⟩ := plain.eq
  obtain ⟨body, rest⟩ : ∃ body, body = b.data.drop packetHeaderLen := ⟨_, rfl⟩
  rw [← rest] at data
  have size : b.data.length = 8 + body.length := by rw [data, packetOf_length]
  have inflated := undoes body
  have small (packed : ByteBuf) (same : packed.data = packetOf 1 type (snappy.compress body)) :
      8 + (snappy.compress body).length < 2 ^ 31 := by
    have held := packed.fits
    have bounded := packed.bounded
    rw [same, packetOf_length] at held
    omega
  constructor
  · intro invertible fits
    obtain ⟨packed, out, ran, ran', _⟩ := invertible.back fits
    rcases compress_room snappy data with ⟨packed', again, same, text, room⟩ | ⟨failed, _⟩
    · obtain rfl : packed' = packed := congrArg Prod.snd (again.symm.trans ran)
      rw [same] at ran'
      rcases uncompress_room type (small packed' same) inflated with ⟨_, _, _, body, room'⟩ | ⟨failed, _⟩
      · rw [rest] at body text room
        exact ⟨body, text, room, by omega⟩
      · exact absurd (congrArg Prod.fst ran') failed
    · exact absurd (congrArg Prod.fst ran) failed
  · intro spacious
    refine ⟨by rw [data, packetOf_plain], fun packed ran => ?_, fun fits => ?_⟩
    · rcases compress_room snappy data with ⟨packed', again, same, _⟩ | ⟨failed, _⟩
      · obtain rfl : packed' = packed := congrArg Prod.snd (again.symm.trans ran)
        rw [same]
        exact ⟨packetOf_packed _ _, packetOf_size (small packed' same)⟩
      · exact absurd (congrArg Prod.fst ran) failed
    · obtain ⟨some, text, room, limit⟩ := spacious fits
      rw [← rest] at some text room
      rcases compress_room snappy data with ⟨packed, ran, same, _⟩ | ⟨_, cramped⟩
      · rcases uncompress_room type (small packed same) inflated with ⟨out, ran', back, _⟩ | ⟨_, cramped⟩
        · exact ⟨packed, out, ran, by rw [same, ran'], by rw [back, data]⟩
        · exact absurd ⟨some, by omega⟩ cramped
      · exact absurd ⟨text, room⟩ cramped

/-- What the library makes of a short text: its length and one literal. -/
def literal : Snappy where
  compress text :=
    if text.length < 15 then
      UInt8.ofNat text.length :: (if text = [] then [] else UInt8.ofNat ((text.length - 1) * 4) :: text)
    else 255 :: text
  uncompress
    | [] => none
    | n :: rest => if n = 255 then some rest else if n = 0 then some [] else some (rest.drop 1)

theorem literal_undoes : literal.Undoes := by
  intro text
  by_cases short : text.length < 15
  · have value : (UInt8.ofNat text.length).toNat = text.length := by
      rw [UInt8.toNat_ofNat']
      omega
    have packed : literal.compress text =
        UInt8.ofNat text.length :: (if text = [] then [] else UInt8.ofNat ((text.length - 1) * 4) :: text) :=
          if_pos short
    have low : UInt8.ofNat text.length ≠ 255 := by
      intro same
      rw [same] at value
      have high : (255 : UInt8).toNat = 255 := rfl
      omega
    rw [packed]
    change (if UInt8.ofNat text.length = 255 then _ else if UInt8.ofNat text.length = 0 then _ else _) = _
    rw [if_neg low]
    by_cases empty : text = []
    · rw [empty]
      rfl
    · have positive := List.length_pos_of_ne_nil empty
      have nonzero : UInt8.ofNat text.length ≠ 0 := by
        intro same
        rw [same] at value
        have zero : (0 : UInt8).toNat = 0 := rfl
        omega
      rw [if_neg nonzero, if_neg empty]
      rfl
  · have packed : literal.compress text = 255 :: text := if_neg short
    rw [packed]
    rfl

/-- A packet with one byte behind its header. -/
def oneByte : ByteBuf := { ByteBuf.fresh with data := [0, 0, 0, 9, 0, 0, 0, 0, 97], fits := by decide }

theorem one_byte_invertible : Invertible literal oneByte :=
  (invertible_iff literal_undoes ⟨by decide, by decide, by decide⟩).mpr fun _ =>
    ⟨by decide, by decide, Or.inl (by decide), by decide⟩

/-- A packet that is its header. -/
def headerOnly : ByteBuf := { ByteBuf.fresh with data := [0, 0, 0, 8, 0, 0, 0, 0], fits := by decide }

/-- The text of a compressed header is empty, and `uncompress` asserts when
it writes that. -/
theorem empty_body_not_inverted : literal.Undoes ∧ Plain headerOnly.data ∧ Fits literal headerOnly.data ∧
    ¬ Invertible literal headerOnly := by
  refine ⟨literal_undoes, ⟨by decide, by decide, by decide⟩, ⟨by decide, by decide⟩, fun invertible => ?_⟩
  obtain ⟨packed, out, ran, ran', _⟩ := invertible.back ⟨by decide, by decide⟩
  have asserts : (uncompress literal (compress literal headerOnly).2.data ByteBuf.fresh).1 = .error .asserted := by
    decide +kernel
  rw [ran, ran'] at asserts
  cases asserts

end Compress

end DbcNode
