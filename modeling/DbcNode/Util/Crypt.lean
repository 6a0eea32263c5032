import DbcNode.Monitor.Usage
import DbcNode.Util.Base64
import DbcNode.Util.MemInfo

namespace DbcNode.Util

open Monitor (toInt32 toInt32_eq_self_iff)

/-- What ends a call of `HexStrToByte`, `encrypt_data` or `decrypt_data`
before its result, or keeps it from ending. An allocation of a length that
is not negative succeeds. -/
inductive Fault where
  | throws
  | endless
  /-- A write outside of its buffer. -/
  | corrupts
  /-- A length below zero for the crypto library. -/
  | negative
  deriving DecidableEq, Repr

/-- `new unsigned char[n]`. -/
def newBuffer (n : Int) : Except Fault Unit := if n < 0 then .error .throws else .ok ()

/-- `memset` and `memcpy`, by the size of the buffer that they write to. -/
def fillBuffer (size offset count : Int) : Except Fault Unit :=
  if offset + count ≤ size then .ok () else .error .corrupts

def passLength (n : Int) : Except Fault Unit := if n < 0 then .error .negative else .ok ()

/-- A value of type `short`. -/
def toShort (z : Int) : Int := Int.bmod z (2 ^ 16)

def hexDigit (c : UInt8) : UInt8 :=
  let upper := if 97 ≤ c ∧ c ≤ 122 then c - 32 else c
  if upper > 0x39 then upper - 0x37 else upper - 0x30

def hexByte (high low : UInt8) : UInt8 := (hexDigit high <<< 4) ||| hexDigit low

/-- A character of a `c_str`, the zero behind its last one included. -/
def cStrAt (text : Bytes) (i : Int) : UInt8 := text.getD i.toNat 0

/-- The loop of `HexStrToByte`: the buffer that it fills, and the places
that it writes to. -/
def hexLoop (source : Bytes) (sourceLen : Int) : Nat → Int → Bytes → List Int → Option (Bytes × List Int)
  | 0, _, _, _ => none
  | rounds + 1, i, dest, places =>
    if i < sourceLen then
      hexLoop source sourceLen rounds (toShort (i + 2))
        (dest.set (i / 2).toNat (hexByte (cStrAt source i) (cStrAt source (i + 1)))) (places ++ [i / 2])
    else some (dest, places)

/-- The bytes of a key: a buffer of half its size, filled by
`HexStrToByte`. -/
def keyBytes (rounds : Nat) (key : Bytes) : Except Fault Bytes :=
  match hexLoop key (toInt32 key.length) rounds 0 (List.replicate (key.length / 2) 0) [] with
  | none => .error .endless
  | some (dest, places) =>
    if ∀ place ∈ places, 0 ≤ place ∧ place < (key.length / 2 : Nat) then .ok dest else .error .corrupts

/-- The crypto library; `publicOf` is the public key that belongs to a
private one. -/
structure CryptoBox where
  box : Bytes → Bytes → Bytes → Bytes → Bytes
  boxOpen : Bytes → Bytes → Bytes → Bytes → Option Bytes
  publicOf : Bytes → Bytes

def zeroBytes (n : Nat) : Bytes := List.replicate n 0

/-- What is known of the library: `crypto_box_open` refuses less than its
padding, and it undoes `crypto_box` between the owners of two keys. -/
structure CryptoBox.Works (lib : CryptoBox) : Prop where
  short : ∀ sealed nonce pub priv, sealed.length < 32 → lib.boxOpen sealed nonce pub priv = none
  opens : ∀ message nonce priv priv', nonce.length = 24 → priv.length = 32 → priv'.length = 32 →
    ∃ body, body.length = message.length + 16 ∧
      lib.box (zeroBytes 32 ++ message) nonce (lib.publicOf priv') priv = zeroBytes 16 ++ body ∧
      lib.boxOpen (zeroBytes 16 ++ body) nonce (lib.publicOf priv) priv' = some (zeroBytes 32 ++ message)

section Crypt
variable (lib : CryptoBox) (rounds : Nat)

/-- `encrypt_data`, with the nonce that `randombytes` gives. -/
def encryptData (nonce data : Bytes) (len : Int) (pubKey privKey : Bytes) : Except Fault Bytes := do
  let psize := toInt32 (32 + len)
  newBuffer psize
  fillBuffer psize 0 32
  fillBuffer psize 32 (len % 2 ^ 64)
  let padded := zeroBytes 32 ++ data.take len.toNat
  let bytePub ← keyBytes rounds pubKey
  let bytePriv ← keyBytes rounds privKey
  newBuffer psize
  passLength psize
  let encrypted := lib.box padded nonce bytePub bytePriv
  newBuffer (psize - 16 + 24)
  fillBuffer (psize - 16 + 24) 0 24
  fillBuffer (psize - 16 + 24) 24 (psize - 16)
  let realEncrypted := nonce ++ encrypted.drop 16
  pure (base64Encode realEncrypted (psize - 16 + 24))

/-- `decrypt_data` behind the keys and the decoding. -/
def openData (strData bytePub bytePriv oriMessage : Bytes) : Except Fault (Bool × Bytes) := do
  let nonce := strData.take 24
  fillBuffer 24 0 24
  let realLen := toInt32 (minus (strData.length + 16) 24)
  newBuffer realLen
  fillBuffer realLen 0 realLen
  fillBuffer realLen 16 (minus strData.length 24)
  let encrypt := zeroBytes 16 ++ strData.drop 24
  newBuffer realLen
  passLength realLen
  match lib.boxOpen encrypt nonce bytePub bytePriv with
  | some message => pure (true, message.drop 32)
  | none => pure (false, oriMessage)

def decryptData (data pubKey privKey oriMessage : Bytes) : Except Fault (Bool × Bytes) := do
  let bytePub ← keyBytes rounds pubKey
  let bytePriv ← keyBytes rounds privKey
  openData lib (base64Decode data) bytePub bytePriv oriMessage

end Crypt

/-- The call ends, with a result or by throwing, and it answers false when
there is less than a nonce and a tag. -/
def DecryptsInBounds (lib : CryptoBox) (data pubKey privKey oriMessage : Bytes) : Prop :=
  ∃ rounds, ((∃ answer, decryptData lib rounds data pubKey privKey oriMessage = .ok answer) ∨
      decryptData lib rounds data pubKey privKey oriMessage = .error .throws) ∧
    ((base64Decode data).length < 24 + 16 →
      decryptData lib rounds data pubKey privKey oriMessage = .ok (false, oriMessage))

/-- The digits of a key fill its buffer and no more, and a `short` counts
them. -/
def HexFits (size : Nat) : Prop :=
  toInt32 size ≤ 0 ∨ toInt32 size ≤ 32766 ∧ (toInt32 size + 1) / 2 ≤ (size / 2 : Nat)

def hexBytes : Bytes → Bytes
  | high :: low :: rest => hexByte high low :: hexBytes rest
  | _ => []

/-- Two keys of 64 digits that belong together. -/
structure KeyPair (lib : CryptoBox) where
  pubKey : Bytes
  privKey : Bytes
  pub_length : pubKey.length = 64
  priv_length : privKey.length = 64
  paired : hexBytes pubKey = lib.publicOf (hexBytes privKey)

/-- What one side encrypts for the other comes out as it was. -/
def Restores (lib : CryptoBox) (own other : KeyPair lib) (nonce message oriMessage : Bytes) : Prop :=
  ∃ rounds sealed,
    encryptData lib rounds nonce message (toInt32 message.length) other.pubKey own.privKey = .ok sealed ∧
    decryptData lib rounds sealed own.pubKey other.privKey oriMessage = .ok (true, message)

end DbcNode.Util
