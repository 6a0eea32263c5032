import DbcNode.Lib.Bytes
import DbcNode.Lib.Documents
import DbcNode.Lib.Fills
import DbcNode.Lib.Prog
import DbcNode.Request.Authority

namespace DbcNode

/-- What comes back from an address of the chain. -/
inductive ChainAnswer
  | lost
  | garbled
  | body (doc : Json)

def hexDigit (b : UInt8) : Option Nat :=
  if isDigit b then some (b.toNat - 48)
  else if 97 ≤ b ∧ b ≤ 102 then some (b.toNat - 87)
  else if 65 ≤ b ∧ b ≤ 70 then some (b.toNat - 55)
  else none

def hexValue (text : Bytes) : Nat :=
  (text.takeWhile (fun b => (hexDigit b).isSome)).foldl (fun n b => n * 16 + (hexDigit b).getD 0) 0

/-- The digits of a number may follow `0x`. -/
def hexMagnitude : Bytes → Nat
  | 48 :: 120 :: rest => hexValue rest
  | 48 :: 88 :: rest => hexValue rest
  | text => hexValue text

/-- `strtol` with base 16. -/
def strtolHex (text : Bytes) : Int :=
  match text.dropWhile isBlank with
  | 45 :: rest => saturate (-(hexMagnitude rest : Int))
  | 43 :: rest => saturate (hexMagnitude rest)
  | rest => saturate (hexMagnitude rest)

namespace ChainAnswer

/-- The result in the first answer that arrives. A text that is no document
is read as one that has none. -/
def resultOf : List ChainAnswer → Option Json
  | [] => none
  | .lost :: rest => resultOf rest
  | .garbled :: _ => none
  | .body doc :: _ => doc.member (str "result")

def textOf (name : Bytes) (answers : List ChainAnswer) : Option Bytes :=
  ((resultOf answers).bind (·.member name)).bind Json.getString

def verifyTexts : List Bytes :=
  [str "addingCustomizeInfo", str "distributingOrder", str "committeeVerifying", str "committeeRefused"]

def onlineTexts : List Bytes := [str "waitingFulfill", str "online"]

def rentedTexts : List Bytes := [str "creating", str "rented"]

/-- Any other text, and no text at all, is that of a machine that is
online. -/
def requestMachineStatus (answers : List ChainAnswer) : MachineStatus :=
  let machineStatus := (textOf (str "machineStatus") answers).getD []
  if machineStatus ∈ verifyTexts then .verify
  else if machineStatus ∈ onlineTexts then .online
  else if machineStatus ∈ rentedTexts then .rented
  else .online

/-- `GetInt64` of a number, which asserts that it is an integer of 64 bits;
what is no number is passed over. -/
def int64Of : Json → Except (Stop Bytes) Int
  | .int value => if -2 ^ 63 ≤ value ∧ value < 2 ^ 63 then .ok value else .error .asserted
  | .number => .error .asserted
  | _ => .ok 0

/-- The renter and the end of the rent; what is not found stays empty. -/
def requestCurRenter (answers : List ChainAnswer) : Except (Stop Bytes) (Bytes × Int) :=
  match textOf (str "renter") answers with
  | none => .ok ([], 0)
  | some renter =>
    match (resultOf answers).bind (·.member (str "rentEnd")) with
    | none => .ok (renter, 0)
    | some rentEnd => (int64Of rentEnd).map (fun rentEnd => (renter, rentEnd))

/-- The text of the number of the current block. -/
def blockText (doc : Json) : Option Bytes :=
  ((((doc.member (str "result")).bind (·.member (str "block"))).bind (·.member (str "header"))).bind
    (·.member (str "number"))).bind Json.getString

/-- The number of the current block, in the first answer that is a document.
A document that is no object has no members to ask for. -/
def blockNumber : List ChainAnswer → Except (Stop Bytes) (Option Int)
  | [] => .ok none
  | .lost :: rest => blockNumber rest
  | .garbled :: rest => blockNumber rest
  | .body doc :: _ => if doc.isObject then .ok ((blockText doc).map strtolHex) else .error .asserted

def requestCurBlock (answers : List ChainAnswer) : Except (Stop Bytes) Int := (blockNumber answers).map (·.getD 0)

/-- A block that is positive was obtained, and it is a number of 64 bits. -/
theorem blockNumber_of_pos {answers : List ChainAnswer} {block : Int} (ran : requestCurBlock answers = .ok block)
    (positive : 0 < block) : blockNumber answers = .ok (some block) := by
  unfold requestCurBlock at ran
  rcases number : blockNumber answers with stop | found
  · rw [number] at ran
    cases ran
  · rw [number] at ran
    cases found with
    | none =>
      have zero : (0 : Int) = block := Except.ok.inj ran
      omega
    | some value =>
      have same : value = block := Except.ok.inj ran
      rw [same]

theorem saturate_lt (n : Int) : saturate n < 2 ^ 63 := by
  unfold saturate
  omega

theorem strtolHex_lt (text : Bytes) : strtolHex text < 2 ^ 63 := by
  unfold strtolHex
  split <;> exact saturate_lt _

theorem blockNumber_lt {answers : List ChainAnswer} {block : Int}
    (obtained : blockNumber answers = .ok (some block)) :
    block < 2 ^ 63 := by
  induction answers with
  | nil => cases obtained
  | cons answer rest ih =>
    cases answer with
    | lost => exact ih obtained
    | garbled => exact ih obtained
    | body doc =>
      unfold blockNumber at obtained
      split at obtained
      · obtain ⟨text, _, same⟩ := Option.map_eq_some_iff.mp (Except.ok.inj obtained)
        exact same ▸ strtolHex_lt text
      · cases obtained

/-- No answer and no lack of one is taken for an unknown status. -/
theorem requestMachineStatus_ne_unknown (answers : List ChainAnswer) : requestMachineStatus answers ≠ .unknown := by
  unfold requestMachineStatus
  extract_lets machineStatus
  split
  · exact fun same => by cases same
  · split
    · exact fun same => by cases same
    · split <;> exact fun same => by cases same

theorem requestMachineStatus_verify {answers : List ChainAnswer} (verify : requestMachineStatus answers = .verify) :
    ∃ text, textOf (str "machineStatus") answers = some text ∧ text ∈ verifyTexts := by
  unfold requestMachineStatus at verify
  extract_lets machineStatus at verify
  split at verify
  · rename_i listed
    rcases found : textOf (str "machineStatus") answers with _ | text
    · have listed : ([] : Bytes) ∈ verifyTexts := by simpa [machineStatus, found] using listed
      exact absurd listed (by decide)
    · exact ⟨text, rfl, by simpa [machineStatus, found] using listed⟩
  · split at verify
    · cases verify
    · split at verify <;> cases verify

/-- The renter that the query gives is the one of the answer, where the
answer has one. -/
theorem requestCurRenter_eq {answers : List ChainAnswer} {renter : Bytes} {rentEnd : Int}
    (ran : requestCurRenter answers = .ok (renter, rentEnd)) :
    renter = (textOf (str "renter") answers).getD [] := by
  unfold requestCurRenter at ran
  split at ran
  · rename_i none
    rw [none]
    exact (congrArg Prod.fst (Except.ok.inj ran)).symm
  · rename_i found _ some
    rw [some]
    split at ran
    · exact (congrArg Prod.fst (Except.ok.inj ran)).symm
    · rename_i json _
      rcases number : int64Of json with stop | value
      · rw [number] at ran
        cases ran
      · rw [number] at ran
        exact (congrArg Prod.fst (Except.ok.inj ran)).symm

end ChainAnswer

/-- A node of the chain that `HttpDBCChainClient::init` keeps:
`net_address`, with the name of a host in the place of its address. -/
structure NetAddress where
  ip : Bytes
  port : UInt16
  deriving DecidableEq, Repr

/-- How a configured address behaves while it is tried: its client is not
valid, there is no answer, or an answer comes after so many milliseconds of
the clock. -/
inductive Probe
  | invalid
  | lost
  | answered (msec : Int)
  deriving DecidableEq, Repr

/-- A configured address, which may leave out the port. -/
def netAddress (text : Bytes) : Option NetAddress :=
  match splitText 58 text with
  | [] => none
  | [ip] => some ⟨ip, 443⟩
  | ip :: port :: _ => some ⟨ip, portOf port⟩

/-- The key in `m_addrs`, an `int32_t`. -/
def chainKey (i : Nat) : Probe → Int
  | .invalid => 0xFFFF + i
  | .lost => 0xFF + i
  | .answered msec => Int.bmod msec (2 ^ 32)

/-- `m_addrs` after `init`. -/
def chainAddrs (texts : List Bytes) (probe : Nat → Probe) : OrdMap Int NetAddress :=
  texts.zipIdx.foldl (fun m entry =>
    match netAddress entry.1 with
    | none => m
    | some address => m.insert (chainKey entry.2 (probe entry.2)) address) .empty

/-- The keys of the configured addresses in their order. -/
def chainKeys (n : Nat) (probe : Nat → Probe) : List Int := (List.range n).map fun i => chainKey i (probe i)

theorem chainAddrs_eq {texts : List Bytes} {addresses : List NetAddress} (probe : Nat → Probe)
    (parsed : texts.map netAddress = addresses.map some) :
    chainAddrs texts probe = .fill ((chainKeys texts.length probe).zip addresses) := by
  induction texts using List.reverseRecOn generalizing addresses with
  | nil =>
    rw [List.map_nil] at parsed
    rw [List.map_eq_nil_iff.mp parsed.symm]
    rfl
  | append_singleton texts text ih =>
    rw [List.map_append, List.map_singleton] at parsed
    obtain ⟨before, last, rfl, same, single⟩ := List.map_eq_append_iff.mp parsed.symm
    obtain ⟨address, rfl, found⟩ := List.map_eq_singleton_iff.mp single
    have length : before.length = texts.length := by
      have lengths := congrArg List.length same
      rwa [List.length_map, List.length_map] at lengths
    have keys : (chainKeys (texts ++ [text]).length probe).zip (before ++ [address]) =
        (chainKeys texts.length probe).zip before ++ [(chainKey texts.length (probe texts.length), address)] := by
      rw [chainKeys, List.length_append, List.length_singleton, List.range_succ, List.map_append,
        List.map_singleton, List.zip_append]
      · rfl
      · rw [List.length_map, List.length_range, length]
    rw [keys, chainAddrs, List.zipIdx_append, List.foldl_append, OrdMap.fill, List.foldl_append]
    have first := ih same.symm
    rw [chainAddrs, OrdMap.fill] at first
    rw [first, List.zipIdx_singleton, List.foldl_cons, List.foldl_nil, List.foldl_cons, List.foldl_nil]
    simp only [Nat.zero_add, ← found]

/-- Every configured address is in `m_addrs` once just where no two of them
are kept under one key. -/
theorem count_chainAddrs_iff {texts : List Bytes} {addresses : List NetAddress} (probe : Nat → Probe)
    (parsed : texts.map netAddress = addresses.map some) (distinct : addresses.Nodup) :
    (∀ address ∈ addresses, (chainAddrs texts probe).values.count address = 1) ↔
      (chainKeys texts.length probe).Nodup := by
  have length : (chainKeys texts.length probe).length = addresses.length := by
    have lengths := congrArg List.length parsed
    rw [List.length_map, List.length_map] at lengths
    rw [chainKeys, List.length_map, List.length_range, lengths]
  have seconds : ((chainKeys texts.length probe).zip addresses).map (·.2) = addresses := List.map_snd_zip length.ge
  have firsts : ((chainKeys texts.length probe).zip addresses).map (·.1) = chainKeys texts.length probe :=
    List.map_fst_zip length.le
  have differ : (((chainKeys texts.length probe).zip addresses).map (·.2)).Nodup := by
    rw [seconds]
    exact distinct
  have counted := OrdMap.count_fill_iff differ
  rwa [seconds, firsts, ← chainAddrs_eq probe parsed] at counted

end DbcNode
