import DbcNode.Lib.Bytes

namespace DbcNode.Util

/-- The characters of `base64_encode` and `base64_decode`. The arrays of
three and of four characters that the source fills are the patterns of the
functions here. -/
def base64Chars : Bytes := str "ABCDEFGHIJKLMNOPQRSTUVWXYZabcdefghijklmnopqrstuvwxyz0123456789+/"

def base64Char (n : UInt8) : UInt8 := base64Chars.getD n.toNat 0

def isBase64 (c : UInt8) : Bool :=
  65 ≤ c ∧ c ≤ 90 ∨ 97 ≤ c ∧ c ≤ 122 ∨ isDigit c ∨ c = 43 ∨ c = 47

/-- `base64_chars.find`, as an unsigned character. -/
def base64Index (c : UInt8) : UInt8 := UInt8.ofNat (base64Chars.idxOf c)

def quadOf (a b c : UInt8) : List UInt8 :=
  [(a &&& 0xfc) >>> 2, ((a &&& 0x03) <<< 4) + ((b &&& 0xf0) >>> 4),
    ((b &&& 0x0f) <<< 2) + ((c &&& 0xc0) >>> 6), c &&& 0x3f]

def tripleOf (a b c d : UInt8) : Bytes :=
  [(a <<< 2) + ((b &&& 0x30) >>> 4), ((b &&& 0xf) <<< 4) + ((c &&& 0x3c) >>> 2), ((c &&& 0x3) <<< 6) + d]

def encodeTriples : Bytes → Bytes
  | [] => []
  | [a] => ((quadOf a 0 0).take 2).map base64Char ++ [61, 61]
  | [a, b] => ((quadOf a b 0).take 3).map base64Char ++ [61]
  | a :: b :: c :: rest => (quadOf a b c).map base64Char ++ encodeTriples rest

/-- The length is an `unsigned int`. -/
def base64Encode (bytes : Bytes) (inLen : Int) : Bytes := encodeTriples (bytes.take (inLen.toNat % 2 ^ 32))

def decodeQuads : Bytes → Bytes
  | [] => []
  | [_] => []
  | [a, b] => (tripleOf (base64Index a) (base64Index b) 0 0).take 1
  | [a, b, c] => (tripleOf (base64Index a) (base64Index b) (base64Index c) 0).take 2
  | a :: b :: c :: d :: rest =>
    tripleOf (base64Index a) (base64Index b) (base64Index c) (base64Index d) ++ decodeQuads rest

/-- The size is counted down in an `int`, which reaches zero after its last
32 bits. -/
def base64Decode (text : Bytes) : Bytes := decodeQuads ((text.take (text.length % 2 ^ 32)).takeWhile isBase64)

example : base64Encode (str "fixed") 5 = str "Zml4ZWQ=" ∧ base64Decode (str "Zml4ZWQ=") = str "fixed" := by
  decide +kernel

theorem forall_byte {p : UInt8 → Prop} (holds : ∀ n : Fin 256, p (UInt8.ofNat n)) (b : UInt8) : p b := by
  have found := holds ⟨b.toNat, b.toNat_lt⟩
  rwa [UInt8.ofNat_toNat] at found

/-- The shifts of the encoder, as numbers. -/
theorem encoder_shifts (b : UInt8) :
    ((b &&& 0xfc) >>> 2).toNat = b.toNat / 4 ∧ ((b &&& 0x03) <<< 4).toNat = b.toNat % 4 * 16 ∧
      ((b &&& 0xf0) >>> 4).toNat = b.toNat / 16 ∧ ((b &&& 0x0f) <<< 2).toNat = b.toNat % 16 * 4 ∧
      ((b &&& 0xc0) >>> 6).toNat = b.toNat / 64 ∧ (b &&& 0x3f).toNat = b.toNat % 64 := by
  revert b
  refine forall_byte ?_
  decide +kernel

/-- The shifts of the decoder, as numbers. -/
theorem decoder_shifts (b : UInt8) :
    (b <<< 2).toNat = b.toNat % 64 * 4 ∧ ((b &&& 0x30) >>> 4).toNat = b.toNat / 16 % 4 ∧
      ((b &&& 0xf) <<< 4).toNat = b.toNat % 16 * 16 ∧ ((b &&& 0x3c) >>> 2).toNat = b.toNat / 4 % 16 ∧
      ((b &&& 0x3) <<< 6).toNat = b.toNat % 4 * 64 := by
  revert b
  refine forall_byte ?_
  decide +kernel

/-- The four indices of three bytes. -/
theorem quadOf_eq (a b c : UInt8) : ∃ n m k l, quadOf a b c = [n, m, k, l] ∧ n.toNat = a.toNat / 4 ∧
    m.toNat = a.toNat % 4 * 16 + b.toNat / 16 ∧ k.toNat = b.toNat % 16 * 4 + c.toNat / 64 ∧
      l.toNat = c.toNat % 64 := by
  obtain ⟨first, second, _⟩ := encoder_shifts a
  obtain ⟨_, _, third, fourth, _⟩ := encoder_shifts b
  obtain ⟨_, _, _, _, fifth, sixth⟩ := encoder_shifts c
  have a_lt := a.toNat_lt
  have b_lt := b.toNat_lt
  have c_lt := c.toNat_lt
  refine ⟨_, _, _, _, rfl, first, ?_, ?_, sixth⟩
  · rw [UInt8.toNat_add, second, third]
    omega
  · rw [UInt8.toNat_add, fourth, fifth]
    omega

theorem tripleOf_eq {n m k l a b c : UInt8} (first : n.toNat = a.toNat / 4)
    (second : m.toNat = a.toNat % 4 * 16 + b.toNat / 16) (third : k.toNat = b.toNat % 16 * 4 + c.toNat / 64)
    (fourth : l.toNat = c.toNat % 64) : tripleOf n m k l = [a, b, c] := by
  obtain ⟨ofN, _⟩ := decoder_shifts n
  obtain ⟨_, ofM, ofM', _⟩ := decoder_shifts m
  obtain ⟨_, _, _, ofK, ofK'⟩ := decoder_shifts k
  have a_lt := a.toNat_lt
  have b_lt := b.toNat_lt
  have c_lt := c.toNat_lt
  have one : (n <<< 2) + ((m &&& 0x30) >>> 4) = a := by
    refine UInt8.toNat_inj.mp ?_
    rw [UInt8.toNat_add, ofN, ofM]
    omega
  have two : ((m &&& 0xf) <<< 4) + ((k &&& 0x3c) >>> 2) = b := by
    refine UInt8.toNat_inj.mp ?_
    rw [UInt8.toNat_add, ofM', ofK]
    omega
  have three : ((k &&& 0x3) <<< 6) + l = c := by
    refine UInt8.toNat_inj.mp ?_
    rw [UInt8.toNat_add, ofK']
    omega
  rw [tripleOf, one, two, three]

theorem base64_char {n : UInt8} (small : n.toNat < 64) :
    isBase64 (base64Char n) = true ∧ base64Index (base64Char n) = n := by
  have all : ∀ n : Fin 64, isBase64 (base64Char (UInt8.ofNat n)) = true ∧
      base64Index (base64Char (UInt8.ofNat n)) = UInt8.ofNat n := by decide +kernel
  have found := all ⟨n.toNat, small⟩
  rwa [UInt8.ofNat_toNat] at found

theorem isBase64_fill : isBase64 61 = false := by decide

/-- What is written for some bytes is read back from the characters before
the filling. -/
theorem decodeQuads_encodeTriples (bytes : Bytes) :
    decodeQuads ((encodeTriples bytes).takeWhile isBase64) = bytes := by
  induction bytes using encodeTriples.induct with
  | case1 => rfl
  | case2 a =>
    obtain ⟨n, m, k, l, quad, first, second, third, fourth⟩ := quadOf_eq a 0 0
    have a_lt := a.toNat_lt
    obtain ⟨isN, ofN⟩ := base64_char (n := n) (by omega)
    obtain ⟨isM, ofM⟩ := base64_char (n := m) (by simp at second; omega)
    have triple := tripleOf_eq first second (c := 0) (k := 0) (l := 0) rfl rfl
    simp [encodeTriples, quad, isN, isM, isBase64_fill, decodeQuads, ofN, ofM, triple]
  | case3 a b =>
    obtain ⟨n, m, k, l, quad, first, second, third, fourth⟩ := quadOf_eq a b 0
    have a_lt := a.toNat_lt
    have b_lt := b.toNat_lt
    obtain ⟨isN, ofN⟩ := base64_char (n := n) (by omega)
    obtain ⟨isM, ofM⟩ := base64_char (n := m) (by omega)
    obtain ⟨isK, ofK⟩ := base64_char (n := k) (by simp at third; omega)
    have triple := tripleOf_eq first second third (l := 0) rfl
    simp [encodeTriples, quad, isN, isM, isK, isBase64_fill, decodeQuads, ofN, ofM, ofK, triple]
  | case4 a b c rest ih =>
    obtain ⟨n, m, k, l, quad, first, second, third, fourth⟩ := quadOf_eq a b c
    have a_lt := a.toNat_lt
    have b_lt := b.toNat_lt
    have c_lt := c.toNat_lt
    obtain ⟨isN, ofN⟩ := base64_char (n := n) (by omega)
    obtain ⟨isM, ofM⟩ := base64_char (n := m) (by omega)
    obtain ⟨isK, ofK⟩ := base64_char (n := k) (by omega)
    obtain ⟨isL, ofL⟩ := base64_char (n := l) (by omega)
    have triple := tripleOf_eq first second third fourth
    simp [encodeTriples, quad, isN, isM, isK, isL, decodeQuads, ofN, ofM, ofK, ofL, triple, ih]

theorem encodeTriples_length (bytes : Bytes) : (encodeTriples bytes).length = (bytes.length + 2) / 3 * 4 := by
  induction bytes using encodeTriples.induct with
  | case1 => rfl
  | case2 a => simp [encodeTriples, quadOf]
  | case3 a b => simp [encodeTriples, quadOf]
  | case4 a b c rest ih =>
    simp only [encodeTriples, quadOf, List.map_cons, List.map_nil, List.length_append, List.length_cons,
      List.length_nil, ih]
    omega

theorem decodeQuads_length (text : Bytes) : (decodeQuads text).length ≤ text.length / 4 * 3 + 2 := by
  induction text using decodeQuads.induct with
  | case1 => exact Nat.zero_le _
  | case2 => exact Nat.zero_le _
  | case3 a b => simp [decodeQuads, tripleOf]
  | case4 a b c => simp [decodeQuads, tripleOf]
  | case5 a b c d rest ih =>
    simp only [decodeQuads, tripleOf, List.length_append, List.length_cons, List.length_nil]
    omega

/-- Whatever text is decoded, the bytes are fewer than `2 ^ 32`. -/
theorem base64Decode_length (text : Bytes) : (base64Decode text).length < 2 ^ 32 := by
  have taken := (List.takeWhile_sublist isBase64 (l := text.take (text.length % 2 ^ 32))).length_le
  have bound := decodeQuads_length ((text.take (text.length % 2 ^ 32)).takeWhile isBase64)
  rw [List.length_take] at taken
  unfold base64Decode
  omega

/-- Decoding undoes encoding where the text is shorter than `2 ^ 32`
characters. -/
theorem base64Decode_encode {bytes : Bytes} (small : bytes.length + 2 < 2 ^ 31 + 2 ^ 30) :
    base64Decode (base64Encode bytes bytes.length) = bytes := by
  have whole : base64Encode bytes bytes.length = encodeTriples bytes := by
    rw [base64Encode, Int.toNat_natCast, Nat.mod_eq_of_lt (by omega), List.take_length]
  have length := encodeTriples_length bytes
  rw [whole, base64Decode, Nat.mod_eq_of_lt (by omega), List.take_length, decodeQuads_encodeTriples]

end DbcNode.Util
