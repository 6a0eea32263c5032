import DbcNode.Lib.Prog
import DbcNode.Util.Crypt

namespace DbcNode.Util

open Monitor (toInt32 toInt32_eq_self_iff)

section Hex
variable {source : Bytes} {n : Int}

theorem toShort_eq {z w : Int} (low : -2 ^ 15 ≤ w) (high : w < 2 ^ 15) (same : z = w ∨ z = w + 2 ^ 16) :
    toShort z = w := by
  rw [toShort, Int.bmod_eq_iff (by decide)]
  refine ⟨?_, ?_, ?_⟩ <;> omega

/-- A `short` never reaches a length of more than 32766: it wraps around. -/
theorem hexLoop_endless (long : 32766 < n) (rounds : Nat) {i : Int} (low : -2 ^ 15 ≤ i) (high : i < 2 ^ 15)
    (even : i % 2 = 0) (dest : Bytes) (places : List Int) : hexLoop source n rounds i dest places = none := by
  induction rounds generalizing i dest places with
  | zero => rfl
  | succ rounds ih =>
    rw [hexLoop, if_pos (by omega)]
    by_cases last : i = 32766
    · rw [toShort_eq (w := -2 ^ 15) le_rfl (by decide) (Or.inr (by omega))]
      exact ih le_rfl (by decide) (by decide) _ _
    · rw [toShort_eq (w := i + 2) (by omega) (by omega) (Or.inl rfl)]
      exact ih (by omega) (by omega) (by omega) _ _

theorem hexLoop_step (short : n ≤ 32766) {k : Int} (nonneg : 0 ≤ k) (more : 2 * k < n) (rounds : Nat) (dest : Bytes)
    (places : List Int) : hexLoop source n (rounds + 1) (2 * k) dest places =
      hexLoop source n rounds (2 * (k + 1))
        (dest.set k.toNat (hexByte (cStrAt source (2 * k)) (cStrAt source (2 * k + 1)))) (places ++ [k]) := by
  have half : 2 * k / 2 = k := by omega
  have next : 2 * k + 2 = 2 * (k + 1) := by omega
  rw [hexLoop, if_pos more, half, next, toShort_eq (w := 2 * (k + 1)) (by omega) (by omega) (Or.inl rfl)]

theorem hexLoop_places (short : n ≤ 32766) {rounds : Nat} {k : Int} (nonneg : 0 ≤ k) {dest : Bytes}
    {places : List Int} {result : Bytes × List Int}
    (ends : hexLoop source n rounds (2 * k) dest places = some result) (place : Int) :
    place ∈ result.2 ↔ place ∈ places ∨ k ≤ place ∧ 2 * place < n := by
  induction rounds generalizing k dest places with
  | zero => cases ends
  | succ rounds ih =>
    by_cases more : 2 * k < n
    · rw [hexLoop_step short nonneg more] at ends
      rw [ih (by omega) ends, List.mem_append, List.mem_singleton, or_assoc]
      refine or_congr_right ?_
      omega
    · rw [hexLoop, if_neg more] at ends
      cases ends
      have behind : ¬ (k ≤ place ∧ 2 * place < n) := by omega
      simp only [behind, or_false]

theorem hexLoop_ends (short : n ≤ 32766) {rounds : Nat} {k : Int} (nonneg : 0 ≤ k) (enough : n ≤ 2 * (k + rounds))
    (dest : Bytes) (places : List Int) : ∃ result, hexLoop source n (rounds + 1) (2 * k) dest places =
      some result := by
  induction rounds generalizing k dest places with
  | zero =>
    rw [hexLoop, if_neg (by omega)]
    exact ⟨_, rfl⟩
  | succ rounds ih =>
    by_cases more : 2 * k < n
    · rw [hexLoop_step short nonneg more]
      exact ih (by omega) (by omega) _ _
    · rw [hexLoop, if_neg more]
      exact ⟨_, rfl⟩

end Hex

/-- From some number of rounds on the bytes of a key that fits are there. -/
theorem keyBytes_fits {key : Bytes} (fits : HexFits key.length) :
    ∃ enough, ∀ rounds, enough ≤ rounds → ∃ bytes, keyBytes rounds key = .ok bytes := by
  have short : toInt32 key.length ≤ 32766 := by
    rcases fits with none | ⟨short, _⟩
    · omega
    · exact short
  refine ⟨16384, fun rounds enough => ?_⟩
  obtain ⟨rounds, rfl⟩ : ∃ r, rounds = r + 1 := ⟨rounds - 1, by omega⟩
  obtain ⟨⟨dest, places⟩, ends⟩ := @hexLoop_ends key _ short rounds 0 le_rfl (by omega)
    (List.replicate (key.length / 2) 0) []
  have written := hexLoop_places short le_rfl ends
  rw [Int.mul_zero] at ends
  have inside : ∀ place ∈ places, 0 ≤ place ∧ place < (key.length / 2 : Nat) := by
    intro place member
    obtain none | ⟨nonneg, less⟩ := (written place).mp member
    · cases none
    · rcases fits with none | ⟨_, fits⟩
      · omega
      · omega
  refine ⟨dest, ?_⟩
  rw [keyBytes, ends]
  exact if_pos inside

/-- A key that does not fit keeps the call from ending or has it write
outside of the buffer. -/
theorem keyBytes_misfit {key : Bytes} (misfit : ¬ HexFits key.length) (rounds : Nat) :
    keyBytes rounds key = .error .endless ∨ keyBytes rounds key = .error .corrupts := by
  rcases ran : hexLoop key (toInt32 key.length) rounds 0 (List.replicate (key.length / 2) 0) [] with
    _ | ⟨dest, places⟩
  · rw [keyBytes, ran]
    exact Or.inl rfl
  · have short : toInt32 key.length ≤ 32766 := by
      by_contra long
      rw [hexLoop_endless (by omega) rounds (by decide) (by decide) (by decide)] at ran
      cases ran
    obtain ⟨positive, larger⟩ : 0 < toInt32 key.length ∧ (key.length / 2 : Nat) < (toInt32 key.length + 1) / 2 := by
      unfold HexFits at misfit
      omega
    have written := hexLoop_places (k := 0) short le_rfl ran ((toInt32 key.length + 1) / 2 - 1)
    have listed := written.mpr (Or.inr ⟨by omega, by omega⟩)
    rw [keyBytes, ran]
    refine Or.inr (if_neg fun inside => ?_)
    have below := inside _ listed
    omega

section Open
variable {lib : CryptoBox}

theorem toInt32_of {z w : Int} (low : -2 ^ 31 ≤ w) (high : w < 2 ^ 31) (same : (2 ^ 32 : Int) ∣ w - z) :
    toInt32 z = w := by
  rw [toInt32, Int.bmod_eq_iff (by decide)]
  refine ⟨?_, ?_, ?_⟩
  · norm_num
    omega
  · norm_num
    omega
  · exact_mod_cast same

theorem newBuffer_ok {n : Int} (nonneg : 0 ≤ n) : newBuffer n = .ok () := if_neg (by omega)

theorem newBuffer_throws {n : Int} (below : n < 0) : newBuffer n = .error .throws := if_pos below

theorem passLength_ok {n : Int} (nonneg : 0 ≤ n) : passLength n = .ok () := if_neg (by omega)

theorem fillBuffer_ok {size offset count : Int} (inside : offset + count ≤ size) :
    fillBuffer size offset count = .ok () :=
  if_pos inside

theorem fillBuffer_corrupts {size offset count : Int} (outside : size < offset + count) :
    fillBuffer size offset count = .error .corrupts := if_neg (by omega)

/-- Between a nonce and two gigabytes every length is right, and the library
decides. -/
theorem openData_eq {strData : Bytes} (nonce : 24 ≤ strData.length) (small : strData.length < 2 ^ 31 + 8)
    (bytePub bytePriv oriMessage : Bytes) : openData lib strData bytePub bytePriv oriMessage =
      match lib.boxOpen (zeroBytes 16 ++ strData.drop 24) (strData.take 24) bytePub bytePriv with
      | some message => .ok (true, message.drop 32)
      | none => .ok (false, oriMessage) := by
  have rest : minus strData.length 24 = strData.length - 24 := minus_of_le (by omega) nonce
  have whole : minus (strData.length + 16) 24 = strData.length - 8 :=
    (minus_of_le (by omega) (by omega)).trans (by omega)
  have real : toInt32 (minus (strData.length + 16) 24) = strData.length - 8 := by
    rw [whole]
    refine toInt32_of (by omega) (by omega) ?_
    omega
  unfold openData
  simp only [real, rest]
  rw [newBuffer_ok (by omega), fillBuffer_ok (by omega), fillBuffer_ok (by omega), fillBuffer_ok (by omega),
    passLength_ok (by omega)]
  rfl

/-- From two gigabytes on the length is below zero as an `int32_t`. -/
theorem openData_throws {strData : Bytes} (large : 2 ^ 31 + 8 ≤ strData.length) (small : strData.length < 2 ^ 32)
    (bytePub bytePriv oriMessage : Bytes) : openData lib strData bytePub bytePriv oriMessage = .error .throws := by
  have whole : minus (strData.length + 16) 24 = strData.length - 8 :=
    (minus_of_le (by omega) (by omega)).trans (by omega)
  have real : toInt32 (minus (strData.length + 16) 24) = strData.length - 8 - 2 ^ 32 := by
    rw [whole]
    refine toInt32_of (by omega) (by omega) ?_
    omega
  unfold openData
  simp only [real]
  rw [fillBuffer_ok (by omega), newBuffer_throws (by omega)]
  rfl

/-- Less than a nonce makes a length below zero or a copy that does not end
in time. -/
theorem openData_short {strData : Bytes} (short : strData.length < 24) (bytePub bytePriv oriMessage : Bytes) :
    openData lib strData bytePub bytePriv oriMessage = .error .throws ∨
      openData lib strData bytePub bytePriv oriMessage = .error .corrupts := by
  have real : toInt32 (minus (strData.length + 16) 24) = strData.length - 8 := by
    refine toInt32_of (by omega) (by omega) ?_
    unfold minus
    omega
  unfold openData
  simp only [real]
  rw [fillBuffer_ok (by omega)]
  by_cases below : (strData.length : Int) - 8 < 0
  · rw [newBuffer_throws below]
    exact Or.inl rfl
  · have copied : strData.length < minus strData.length 24 := by
      unfold minus
      omega
    rw [newBuffer_ok (by omega), fillBuffer_ok (by omega), fillBuffer_corrupts (by omega)]
    exact Or.inr rfl

end Open

section Decrypt
variable {lib : CryptoBox}

theorem decryptData_eq {rounds : Nat} {pubKey privKey bytePub bytePriv : Bytes}
    (ofPub : keyBytes rounds pubKey = .ok bytePub) (ofPriv : keyBytes rounds privKey = .ok bytePriv)
    (data oriMessage : Bytes) :
    decryptData lib rounds data pubKey privKey oriMessage =
      openData lib (base64Decode data) bytePub bytePriv oriMessage := by
  rw [decryptData, ofPub, ok_bind, ofPriv, ok_bind]

theorem keyBytes_cases (rounds : Nat) (key : Bytes) : (∃ bytes, keyBytes rounds key = .ok bytes) ∨
    keyBytes rounds key = .error .endless ∨ keyBytes rounds key = .error .corrupts := by
  unfold keyBytes
  split
  · exact Or.inr (Or.inl rfl)
  · split
    · exact Or.inl ⟨_, rfl⟩
    · exact Or.inr (Or.inr rfl)

/-- A call that ends without a write outside of a buffer had the bytes of
both keys. -/
theorem decryptData_keys {rounds : Nat} {data pubKey privKey oriMessage : Bytes}
    (ends : decryptData lib rounds data pubKey privKey oriMessage ≠ .error .endless)
    (inside : decryptData lib rounds data pubKey privKey oriMessage ≠ .error .corrupts) :
    ∃ bytePub bytePriv, keyBytes rounds pubKey = .ok bytePub ∧ keyBytes rounds privKey = .ok bytePriv := by
  rcases keyBytes_cases rounds pubKey with ⟨bytePub, ofPub⟩ | failed | failed
  · rcases keyBytes_cases rounds privKey with ⟨bytePriv, ofPriv⟩ | failed | failed
    · exact ⟨bytePub, bytePriv, ofPub, ofPriv⟩
    · rw [decryptData, ofPub, ok_bind, failed] at ends
      exact absurd rfl ends
    · rw [decryptData, ofPub, ok_bind, failed] at inside
      exact absurd rfl inside
  · rw [decryptData, failed] at ends
    exact absurd rfl ends
  · rw [decryptData, failed] at inside
    exact absurd rfl inside

theorem hexFits_of_bytes {rounds : Nat} {key bytes : Bytes} (done : keyBytes rounds key = .ok bytes) :
    HexFits key.length := by
  by_contra misfit
  rcases keyBytes_misfit misfit rounds with failed | failed
  · rw [failed] at done
    cases done
  · rw [failed] at done
    cases done

theorem decryptsInBounds_iff (works : lib.Works) (data pubKey privKey oriMessage : Bytes) :
    DecryptsInBounds lib data pubKey privKey oriMessage ↔
      HexFits pubKey.length ∧ HexFits privKey.length ∧ 24 ≤ (base64Decode data).length := by
  constructor
  · rintro ⟨rounds, ends, answers⟩
    obtain ⟨bytePub, bytePriv, ofPub, ofPriv⟩ : ∃ bytePub bytePriv, keyBytes rounds pubKey = .ok bytePub ∧
        keyBytes rounds privKey = .ok bytePriv := by
      rcases ends with ⟨answer, ends⟩ | ends
      · exact decryptData_keys (by rw [ends]; nofun) (by rw [ends]; nofun)
      · exact decryptData_keys (by rw [ends]; nofun) (by rw [ends]; nofun)
    refine ⟨hexFits_of_bytes ofPub, hexFits_of_bytes ofPriv, ?_⟩
    by_contra short
    have refused := answers (by omega)
    rw [decryptData_eq ofPub ofPriv] at refused
    rcases @openData_short lib _ (not_le.mp short) bytePub bytePriv oriMessage with failed | failed
    · rw [failed] at refused
      cases refused
    · rw [failed] at refused
      cases refused
  · rintro ⟨pubFits, privFits, nonce⟩
    obtain ⟨enoughPub, ofPub⟩ := keyBytes_fits pubFits
    obtain ⟨enoughPriv, ofPriv⟩ := keyBytes_fits privFits
    obtain ⟨bytePub, ofPub⟩ := ofPub (max enoughPub enoughPriv) (le_max_left _ _)
    obtain ⟨bytePriv, ofPriv⟩ := ofPriv (max enoughPub enoughPriv) (le_max_right _ _)
    refine ⟨max enoughPub enoughPriv, ?_⟩
    rw [decryptData_eq ofPub ofPriv]
    rcases Nat.lt_or_ge (base64Decode data).length (2 ^ 31 + 8) with small | large
    · rw [openData_eq nonce small]
      constructor
      · left
        split
        · exact ⟨_, rfl⟩
        · exact ⟨_, rfl⟩
      · intro short
        have padded : (zeroBytes 16 ++ (base64Decode data).drop 24).length < 32 := by
          rw [List.length_append, zeroBytes, List.length_replicate, List.length_drop]
          omega
        rw [works.short _ _ _ _ padded]
    · refine ⟨Or.inr (openData_throws large (base64Decode_length data) _ _ _), fun short => ?_⟩
      omega

end Decrypt

end DbcNode.Util
