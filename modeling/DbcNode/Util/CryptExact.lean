import DbcNode.Util.CryptBounds

namespace DbcNode.Util

open Monitor (toInt32 toInt32_eq_self_iff)

section Keys

theorem getD_append_self (before rest : Bytes) (c : UInt8) : (before ++ c :: rest).getD before.length 0 = c := by
  simp

/-- The digits of even number that are left fill the rest of the buffer. -/
theorem hexLoop_bytes {source rest : Bytes} (short : source.length ≤ 32766) {before done : Bytes} {rounds : Nat}
    {places : List Int} {result : Bytes × List Int} (whole : source = before ++ rest)
    (place : before.length = 2 * done.length) (even : rest.length % 2 = 0)
    (ends : hexLoop source source.length rounds (2 * (done.length : Nat))
      (done ++ List.replicate (rest.length / 2) 0) places = some result) : result.1 = done ++ hexBytes rest := by
  have length := congrArg List.length whole
  rw [List.length_append] at length
  induction rest using hexBytes.induct generalizing before done rounds places with
  | case1 high low rest ih =>
    simp only [List.length_cons] at length even
    cases rounds with
    | zero => cases ends
    | succ rounds =>
      have first : cStrAt source (2 * (done.length : Nat)) = high := by
        have index : (2 * ((done.length : Nat) : Int)).toNat = before.length := by omega
        rw [cStrAt, index, whole]
        exact getD_append_self _ _ _
      have second : cStrAt source (2 * (done.length : Nat) + 1) = low := by
        have index : (2 * ((done.length : Nat) : Int) + 1).toNat = (before ++ [high]).length := by
          rw [List.length_append, List.length_singleton]
          omega
        rw [cStrAt, index, whole, List.append_cons]
        exact getD_append_self _ _ _
      have room : (rest.length + 1 + 1) / 2 = rest.length / 2 + 1 := by omega
      have stored : (done ++ List.replicate ((high :: low :: rest).length / 2) 0).set (done.length : Int).toNat
          (hexByte high low) = (done ++ [hexByte high low]) ++ List.replicate (rest.length / 2) 0 := by
        rw [List.length_cons, List.length_cons, room, List.replicate_succ, Int.toNat_natCast,
          List.set_append_right _ _ le_rfl, Nat.sub_self, List.set_cons_zero, List.append_assoc]
        rfl
      have next : ((done.length : Nat) : Int) + 1 = ((done ++ [hexByte high low]).length : Nat) := by
        rw [List.length_append, List.length_singleton, Nat.cast_add]
        rfl
      rw [hexLoop_step (by omega) (by omega) (by omega), first, second, stored, next] at ends
      have found := @ih (before ++ [high, low]) _ _ _ (by rw [whole, List.append_assoc]; rfl)
        (by simp only [List.length_append, List.length_cons, List.length_nil]; omega) (by omega) ends
        (by simp only [List.length_append, List.length_cons, List.length_nil]; omega)
      rw [found, hexBytes, List.append_assoc]
      rfl
  | case2 rest notTwo =>
    have empty : rest = [] := by
      rcases rest with _ | ⟨a, _ | ⟨b, rest⟩⟩
      · rfl
      · simp at even
      · exact absurd rfl (notTwo a b rest)
    subst empty
    cases rounds with
    | zero => cases ends
    | succ rounds =>
      rw [List.length_nil] at length
      rw [hexLoop, if_neg (by omega)] at ends
      cases ends
      rfl

theorem keyBytes_eq {key bytes : Bytes} {rounds : Nat} (length : key.length = 64)
    (done : keyBytes rounds key = .ok bytes) :
    bytes = hexBytes key := by
  have same : toInt32 key.length = key.length := toInt32_eq_self_iff.mpr (by omega)
  unfold keyBytes at done
  rw [same] at done
  split at done
  · cases done
  · rename_i dest places ran
    have found := @hexLoop_bytes key key (by omega) [] [] _ _ _ rfl rfl (by omega) ran
    split at done
    · cases done
      exact found
    · cases done

theorem hexBytes_length (key : Bytes) : (hexBytes key).length = key.length / 2 := by
  induction key using hexBytes.induct with
  | case1 high low rest ih =>
    simp only [hexBytes, List.length_cons, ih]
    omega
  | case2 rest notTwo =>
    rcases rest with _ | ⟨a, _ | ⟨b, rest⟩⟩
    · rfl
    · simp [hexBytes]
    · exact absurd rfl (notTwo a b rest)

/-- A `short` counts 64 digits. -/
theorem hexFits_sixtyFour : HexFits 64 := by
  unfold HexFits
  decide +kernel

end Keys

section Exchange
variable {lib : CryptoBox}

/-- The length that `encrypt_data` gets must leave room for the padding. -/
theorem encryptData_fails {len : Int} (range : -2 ^ 31 ≤ len ∧ len < 2 ^ 31) (outside : len < 0 ∨ 2 ^ 31 ≤ len + 32)
    (rounds : Nat) (nonce data pubKey privKey sealed : Bytes) :
    encryptData lib rounds nonce data len pubKey privKey ≠ .ok sealed := by
  intro done
  rcases outside with below | large
  · have size : toInt32 (32 + len) = 32 + len := toInt32_eq_self_iff.mpr (by omega)
    unfold encryptData at done
    simp only [size] at done
    by_cases negative : 32 + len < 0
    · rw [newBuffer_throws negative, error_bind] at done
      cases done
    · rw [newBuffer_ok (by omega), ok_bind, fillBuffer_corrupts (by omega), error_bind] at done
      cases done
  · have size : toInt32 (32 + len) = 32 + len - 2 ^ 32 := toInt32_of (by omega) (by omega) (by omega)
    unfold encryptData at done
    simp only [size] at done
    rw [newBuffer_throws (by omega), error_bind] at done
    cases done

theorem toInt32_range (z : Int) : -2 ^ 31 ≤ toInt32 z ∧ toInt32 z < 2 ^ 31 := toInt32_eq_self_iff.mp Int.bmod_bmod

theorem encryptData_keys {len : Int} (nonneg : 0 ≤ len) (small : len + 32 < 2 ^ 31) {rounds : Nat}
    {nonce data pubKey privKey sealed : Bytes}
    (done : encryptData lib rounds nonce data len pubKey privKey = .ok sealed) :
    ∃ bytePub bytePriv, keyBytes rounds pubKey = .ok bytePub ∧ keyBytes rounds privKey = .ok bytePriv := by
  have size : toInt32 (32 + len) = 32 + len := toInt32_eq_self_iff.mpr (by omega)
  unfold encryptData at done
  simp only [size] at done
  rw [newBuffer_ok (by omega), ok_bind, fillBuffer_ok (by omega), ok_bind, fillBuffer_ok (by omega),
    ok_bind] at done
  obtain ⟨bytePub, ofPub, done⟩ := except_bind_ok.mp done
  obtain ⟨bytePriv, ofPriv, _⟩ := except_bind_ok.mp done
  exact ⟨bytePub, bytePriv, ofPub, ofPriv⟩

theorem encryptData_eq {len : Int} (nonneg : 0 ≤ len) (small : len + 32 < 2 ^ 31) {rounds : Nat}
    {pubKey privKey bytePub bytePriv : Bytes} (ofPub : keyBytes rounds pubKey = .ok bytePub)
    (ofPriv : keyBytes rounds privKey = .ok bytePriv) (nonce data : Bytes) :
    encryptData lib rounds nonce data len pubKey privKey =
      .ok (base64Encode (nonce ++ (lib.box (zeroBytes 32 ++ data.take len.toNat) nonce bytePub bytePriv).drop 16)
        (len + 40)) := by
  have size : toInt32 (32 + len) = 32 + len := toInt32_eq_self_iff.mpr (by omega)
  have total : 32 + len - 16 + 24 = len + 40 := by omega
  unfold encryptData
  simp only [size, total]
  rw [newBuffer_ok (by omega), ok_bind, fillBuffer_ok (by omega), ok_bind, fillBuffer_ok (by omega), ok_bind,
    ofPub, ok_bind, ofPriv, ok_bind, ok_bind, passLength_ok (by omega), ok_bind, newBuffer_ok (by omega), ok_bind,
    fillBuffer_ok (by omega), ok_bind, fillBuffer_ok (by omega), ok_bind]
  rfl

/-- What is sealed with a length that is not too large is opened with it. -/
theorem exchange (works : lib.Works) (own other : KeyPair lib) {nonce : Bytes} (nonceLength : nonce.length = 24)
    {len : Nat} (small : len + 32 < 2 ^ 31) {data : Bytes} (inside : len ≤ data.length) {rounds : Nat}
    {pub priv pub' priv' : Bytes} (ofPub : keyBytes rounds own.pubKey = .ok pub)
    (ofPriv : keyBytes rounds own.privKey = .ok priv) (ofPub' : keyBytes rounds other.pubKey = .ok pub')
    (ofPriv' : keyBytes rounds other.privKey = .ok priv') (oriMessage : Bytes) :
    ∃ sealed, encryptData lib rounds nonce data len other.pubKey own.privKey = .ok sealed ∧
      decryptData lib rounds sealed own.pubKey other.privKey oriMessage = .ok (true, data.take len) := by
  have pubIs : pub = lib.publicOf priv := by
    rw [keyBytes_eq own.pub_length ofPub, keyBytes_eq own.priv_length ofPriv, own.paired]
  have pubIs' : pub' = lib.publicOf priv' := by
    rw [keyBytes_eq other.pub_length ofPub', keyBytes_eq other.priv_length ofPriv', other.paired]
  have privLength : priv.length = 32 := by
    rw [keyBytes_eq own.priv_length ofPriv, hexBytes_length, own.priv_length]
  have privLength' : priv'.length = 32 := by
    rw [keyBytes_eq other.priv_length ofPriv', hexBytes_length, other.priv_length]
  obtain ⟨body, bodyLength, seals, opens⟩ :=
    works.opens (data.take len) nonce priv priv' nonceLength privLength privLength'
  rw [List.length_take, Nat.min_eq_left inside] at bodyLength
  have realLength : (nonce ++ body).length = len + 40 := by
    rw [List.length_append]
    omega
  have decoded : base64Decode (base64Encode (nonce ++ body) ((len : Int) + 40)) = nonce ++ body := by
    have cast : ((len : Int) + 40) = (nonce ++ body).length := by
      rw [realLength]
      rfl
    rw [cast]
    exact base64Decode_encode (by omega)
  refine ⟨_, encryptData_eq (Int.natCast_nonneg len) (by omega) ofPub' ofPriv nonce data, ?_⟩
  rw [decryptData_eq ofPub ofPriv', Int.toNat_natCast, pubIs', seals, List.drop_left' (by rfl), decoded,
    openData_eq (by omega) (by omega), List.drop_left' nonceLength, List.take_left' nonceLength, pubIs, opens]
  simp only
  rw [List.drop_left' (by rfl)]

theorem KeyPair.bytes (pair : KeyPair lib) : ∃ enough, ∀ rounds, enough ≤ rounds →
    (∃ pub, keyBytes rounds pair.pubKey = .ok pub) ∧ ∃ priv, keyBytes rounds pair.privKey = .ok priv := by
  obtain ⟨forPub, ofPub⟩ := @keyBytes_fits pair.pubKey (by rw [pair.pub_length]; exact hexFits_sixtyFour)
  obtain ⟨forPriv, ofPriv⟩ := @keyBytes_fits pair.privKey (by rw [pair.priv_length]; exact hexFits_sixtyFour)
  refine ⟨max forPub forPriv, fun rounds enough => ?_⟩
  exact ⟨ofPub rounds (by omega), ofPriv rounds (by omega)⟩

theorem restores_iff (works : lib.Works) (own other : KeyPair lib) {nonce : Bytes} (nonceLength : nonce.length = 24)
    (message oriMessage : Bytes) : Restores lib own other nonce message oriMessage ↔
      message.length + 32 < 2 ^ 31 := by
  constructor
  · rintro ⟨rounds, sealed, encrypted, decrypted⟩
    by_contra large
    by_cases outside : toInt32 message.length < 0 ∨ 2 ^ 31 ≤ toInt32 message.length + 32
    · exact encryptData_fails (toInt32_range _) outside _ _ _ _ _ _ encrypted
    · obtain ⟨len, same⟩ : ∃ len : Nat, toInt32 message.length = len := ⟨(toInt32 message.length).toNat, by omega⟩
      rw [same] at encrypted outside
      obtain ⟨pub', priv, ofPub', ofPriv⟩ := encryptData_keys (by omega) (by omega) encrypted
      obtain ⟨pub, priv', ofPub, ofPriv'⟩ :=
        @decryptData_keys lib _ _ _ _ _ (by rw [decrypted]; nofun) (by rw [decrypted]; nofun)
      obtain ⟨sealed', encrypted', decrypted'⟩ :=
        @exchange lib works own other nonce nonceLength len (by omega) message
        (by omega) _ _ _ _ _ ofPub ofPriv ofPub' ofPriv' oriMessage
      cases encrypted.symm.trans encrypted'
      have kept := decrypted.symm.trans decrypted'
      simp only [Except.ok.injEq, Prod.mk.injEq, true_and] at kept
      have length := congrArg List.length kept
      rw [List.length_take] at length
      omega
  · intro small
    obtain ⟨forOwn, ofOwn⟩ := own.bytes
    obtain ⟨forOther, ofOther⟩ := other.bytes
    obtain ⟨⟨pub, ofPub⟩, priv, ofPriv⟩ := ofOwn (max forOwn forOther) (le_max_left _ _)
    obtain ⟨⟨pub', ofPub'⟩, priv', ofPriv'⟩ := ofOther (max forOwn forOther) (le_max_right _ _)
    have length : toInt32 message.length = message.length := toInt32_eq_self_iff.mpr (by omega)
    obtain ⟨sealed, encrypted, decrypted⟩ :=
      exchange works own other nonceLength small le_rfl ofPub ofPriv ofPub' ofPriv' oriMessage
    rw [List.take_length] at decrypted
    refine ⟨max forOwn forOther, sealed, ?_, decrypted⟩
    rw [length]
    exact encrypted

end Exchange

/-- A call with a key and data from the network stays in bounds just where
the digits of the keys fit and the data has a nonce, and a message comes out
as it was just where its length leaves room for the padding. -/
theorem crypt_exact {lib : CryptoBox} (works : lib.Works) :
    (∀ data pubKey privKey oriMessage, DecryptsInBounds lib data pubKey privKey oriMessage ↔
      HexFits pubKey.length ∧ HexFits privKey.length ∧ 24 ≤ (base64Decode data).length) ∧
    ∀ (own other : KeyPair lib) (nonce message oriMessage : Bytes), nonce.length = 24 →
      (Restores lib own other nonce message oriMessage ↔ message.length + 32 < 2 ^ 31) :=
  ⟨decryptsInBounds_iff works, fun own other _ message oriMessage nonceLength =>
    restores_iff works own other nonceLength message oriMessage⟩

section Example

/-- A library that seals nothing, but refuses what is too short. -/
def plainBox : CryptoBox where
  box padded _ _ _ := zeroBytes 16 ++ padded.drop 16
  boxOpen sealed _ _ _ := if sealed.length < 32 then none else some (zeroBytes 32 ++ sealed.drop 32)
  publicOf priv := priv

theorem plainBox_works : plainBox.Works where
  short _ _ _ _ less := if_pos less
  opens message nonce priv priv' _ _ _ := by
    refine ⟨zeroBytes 16 ++ message, ?_, rfl, ?_⟩
    · rw [List.length_append, zeroBytes, List.length_replicate]
      omega
    · have enough : ¬ (zeroBytes 16 ++ (zeroBytes 16 ++ message)).length < 32 := by
        simp only [List.length_append, zeroBytes, List.length_replicate]
        omega
      simp only [plainBox, if_neg enough]
      rfl

/-- Thirty bytes have a nonce, but no tag. -/
theorem crypt_exact_short :
    DecryptsInBounds plainBox (List.replicate 40 65) (List.replicate 64 48) (List.replicate 64 49) [] :=
  ((crypt_exact plainBox_works).1 _ _ _ _).mpr ⟨hexFits_sixtyFour, hexFits_sixtyFour, by decide +kernel⟩

/-- A key of one digit has its byte written behind a buffer of none. -/
theorem odd_key_corrupts :
    ¬ DecryptsInBounds plainBox (List.replicate 40 65) (str "A") (List.replicate 64 49) [] := by
  have odd : ¬ HexFits (str "A").length := by
    unfold HexFits
    decide +kernel
  rintro ⟨rounds, ends, _⟩
  rcases keyBytes_misfit odd rounds with failed | failed
  · rw [decryptData, failed, error_bind] at ends
    simp at ends
  · rw [decryptData, failed, error_bind] at ends
    simp at ends

end Example

end DbcNode.Util
