import DbcNode.Lib.Bytes

namespace DbcNode.Monitor

def zbxTcpHeaderData : Bytes := str "ZBXD"

/-- A number as it is in memory. -/
def ofLE (bytes : Bytes) : Nat := ofBE bytes.reverse

def toLE (w n : Nat) : Bytes := (toBE w n).reverse

/-- What `sendJsonData` sends. -/
def zabbixFrame (json : Bytes) : Bytes := zbxTcpHeaderData ++ 1 :: toLE 8 (json.length % 2 ^ 64) ++ json

/-- `char buf[4096]` behind the bytes that are received. -/
def replyBuf (received : Bytes) : Bytes := received ++ List.replicate (4096 - received.length) 0

/-- The place of a text in a C string, and how many bytes are read to tell.
A string without end is read on behind the buffer. -/
def strstr (part : Bytes) : Bytes → Nat → Option Nat × Nat
  | [], place => (none, place + 1)
  | b :: rest, place =>
    if part.isPrefixOf (b :: rest) then (some place, place + part.length)
    else if b = 0 then (none, place + 1)
    else strstr part rest (place + 1)

/-- The places from a first one up to another. -/
structure ReadRange where
  start : Nat
  stop : Nat
  deriving DecidableEq, Repr

/-- The place of the text and its length, as the header tells it. -/
def getJsonString (result : Bytes) : Option (Nat × Nat) × List ReadRange :=
  match strstr zbxTcpHeaderData result 0 with
  | (none, count) => (none, [⟨0, count⟩])
  | (some place, count) =>
    (some (place + 13, ofLE ((result.drop (place + 5)).take 8)), [⟨0, count⟩, ⟨place + 5, place + 13⟩])

/-- What `sendData` does with a reply, up to the first read behind the
buffer. -/
def parseReply (received : Bytes) : Bytes × List ReadRange :=
  match getJsonString (replyBuf received) with
  | (none, reads) => ([], reads)
  | (some (jsonstr, jsonLength), reads) =>
    if jsonLength > 0 ∧ received.length > jsonLength then
      (((replyBuf received).drop jsonstr).take jsonLength, reads ++ [⟨jsonstr, jsonstr + jsonLength⟩])
    else ([], reads)

/-- The bytes behind a header, all of which were received with it. -/
def Framed (received reply : Bytes) : Prop :=
  ∃ place, zbxTcpHeaderData <+: received.drop place ∧ reply.length = ofLE ((received.drop (place + 5)).take 8) ∧
    reply = (received.drop (place + 13)).take reply.length ∧ place + 13 + reply.length ≤ received.length

/-- Nothing is read from `limit` on, and the reply is empty or what a header
in the received bytes announces. -/
structure RepliesRight (limit : Nat) (received : Bytes) : Prop where
  inside : ∀ read ∈ (parseReply received).2, read.stop ≤ limit
  framed : (parseReply received).1 = [] ∨ Framed received (parseReply received).1

/-- The header ends before `limit` and the length that it announces is zero,
too large to be taken, or received; without a header there is a zero byte
before `limit`, at which the search ends. -/
def Announced (limit : Nat) (received : Bytes) : Prop :=
  match strstr zbxTcpHeaderData (replyBuf received) 0 with
  | (none, _) => ∃ place < limit, (replyBuf received)[place]? = some 0
  | (some place, _) =>
    let jsonLength := ofLE (((replyBuf received).drop (place + 5)).take 8)
    place + 13 ≤ limit ∧ (jsonLength = 0 ∨ received.length ≤ jsonLength ∨ place + 13 + jsonLength ≤ received.length)

section Search
variable {part text : Bytes} {place found count : Nat}

/-- Where the text is found it is, and nowhere before. -/
theorem strstr_some (ran : strstr part text place = (some found, count)) :
    place ≤ found ∧ count = found + part.length ∧ part <+: text.drop (found - place) ∧
      ∀ other, place ≤ other → part <+: text.drop (other - place) → found ≤ other := by
  induction text generalizing place with
  | nil => cases ran
  | cons b rest ih =>
    rw [strstr] at ran
    split at ran
    · rename_i here
      cases ran
      rw [Nat.sub_self]
      exact ⟨le_rfl, rfl, List.isPrefixOf_iff_prefix.mp here, fun other after _ => after⟩
    · rename_i missing
      split at ran
      · cases ran
      · obtain ⟨after, length, starts, first⟩ := ih ran
        have step : found - place = found - (place + 1) + 1 := by omega
        refine ⟨by omega, length, ?_, ?_⟩
        · rw [step, List.drop_succ_cons]
          exact starts
        · intro other later starts'
          rcases Nat.eq_or_lt_of_le later with rfl | later
          · rw [Nat.sub_self] at starts'
            exact absurd (List.isPrefixOf_iff_prefix.mpr starts') missing
          · refine first other later ?_
            have step' : other - place = other - (place + 1) + 1 := by omega
            rwa [step', List.drop_succ_cons] at starts'

/-- A search in vain reads up to the first zero byte. -/
theorem strstr_none {limit : Nat} (ran : strstr part text place = (none, count))
    (inside : limit ≤ place + text.length) :
    count ≤ limit ↔ ∃ n, place + n < limit ∧ text[n]? = some 0 := by
  induction text generalizing place with
  | nil =>
    cases ran
    simp only [List.length_nil] at inside
    constructor
    · intro within
      omega
    · rintro ⟨n, before, _⟩
      omega
  | cons b rest ih =>
    rw [strstr] at ran
    split at ran
    · cases ran
    rw [List.length_cons] at inside
    split at ran
    · rename_i zero
      cases ran
      constructor
      · intro within
        exact ⟨0, by omega, by rw [List.getElem?_cons_zero, zero]⟩
      · rintro ⟨n, before, _⟩
        omega
    · rename_i other
      rw [ih ran (by omega)]
      constructor
      · rintro ⟨n, before, zero⟩
        exact ⟨n + 1, by omega, zero⟩
      · rintro ⟨n, before, zero⟩
        cases n with
        | zero => exact (other (Option.some.inj zero)).elim
        | succ n => exact ⟨n, by omega, zero⟩

end Search

section Buffer
variable {received : Bytes}

theorem replyBuf_length (fits : received.length ≤ 4096) : (replyBuf received).length = 4096 := by
  rw [replyBuf, List.length_append, List.length_replicate]
  omega

/-- Bytes of the buffer that were received. -/
theorem replyBuf_take {start n : Nat} (inside : start + n ≤ received.length) :
    ((replyBuf received).drop start).take n = (received.drop start).take n := by
  rw [replyBuf, List.drop_append_of_le_length (by omega), List.take_append_of_le_length]
  rw [List.length_drop]
  omega

/-- The header holds no zero, so it is found among the received bytes
only. -/
theorem header_received {place : Nat} (starts : zbxTcpHeaderData <+: (replyBuf received).drop place) :
    zbxTcpHeaderData <+: received.drop place ∧ place + 4 ≤ received.length := by
  have last : (replyBuf received)[place + 3]? = some 68 := by
    obtain ⟨rest, whole⟩ := starts
    rw [← List.getElem?_drop, ← whole]
    rfl
  have inside : place + 3 < received.length := by
    by_contra behind
    rw [replyBuf, List.getElem?_append_right (by omega)] at last
    obtain ⟨_, zero⟩ := List.getElem?_eq_some_iff.mp last
    rw [List.getElem_replicate] at zero
    exact absurd zero (by decide)
  refine ⟨?_, by omega⟩
  have text := List.prefix_iff_eq_take.mp starts
  rw [show zbxTcpHeaderData.length = 4 from rfl, replyBuf_take (by omega)] at text
  rw [text]
  exact List.take_prefix 4 _

theorem header_found {place : Nat} (starts : zbxTcpHeaderData <+: received.drop place) :
    zbxTcpHeaderData <+: (replyBuf received).drop place := by
  by_cases inside : place ≤ received.length
  · rw [replyBuf, List.drop_append_of_le_length inside]
    exact starts.trans (List.prefix_append _ _)
  · rw [List.drop_of_length_le (by omega)] at starts
    exact absurd (List.prefix_nil.mp starts) (by decide)

end Buffer

section Parse
variable {received : Bytes} {limit place count : Nat}

theorem parseReply_none (missing : strstr zbxTcpHeaderData (replyBuf received) 0 = (none, count)) :
    parseReply received = ([], [⟨0, count⟩]) := by
  simp only [parseReply, getJsonString, missing]

theorem parseReply_some (found : strstr zbxTcpHeaderData (replyBuf received) 0 = (some place, count)) :
    parseReply received =
      let jsonLength := ofLE (((replyBuf received).drop (place + 5)).take 8)
      if jsonLength > 0 ∧ received.length > jsonLength
        then (((replyBuf received).drop (place + 13)).take jsonLength,
          [⟨0, count⟩, ⟨place + 5, place + 13⟩, ⟨place + 13, place + 13 + jsonLength⟩])
        else ([], [⟨0, count⟩, ⟨place + 5, place + 13⟩]) := by
  simp only [parseReply, getJsonString, found]
  rfl

/-- Without a header all that is read is up to the first zero byte. -/
theorem repliesRight_none (room : limit ≤ (replyBuf received).length)
    (missing : strstr zbxTcpHeaderData (replyBuf received) 0 = (none, count)) :
    RepliesRight limit received ↔ ∃ place < limit, (replyBuf received)[place]? = some 0 := by
  have parsed := parseReply_none missing
  have ends : count ≤ limit ↔ ∃ place < limit, (replyBuf received)[place]? = some 0 := by
    simpa using @strstr_none _ _ _ _ limit missing (by omega)
  rw [← ends]
  constructor
  · rintro ⟨inside, -⟩
    rw [parsed] at inside
    exact inside _ (List.mem_singleton_self _)
  · intro within
    refine ⟨?_, ?_⟩ <;> rw [parsed]
    · exact List.forall_mem_singleton.mpr within
    · exact Or.inl rfl

/-- With a header that announces nothing, or no less than what was received,
the length is all that is read behind it. -/
theorem repliesRight_short (found : strstr zbxTcpHeaderData (replyBuf received) 0 = (some place, count))
    (short : ¬ (ofLE (((replyBuf received).drop (place + 5)).take 8) > 0 ∧
      received.length > ofLE (((replyBuf received).drop (place + 5)).take 8))) :
    RepliesRight limit received ↔ place + 13 ≤ limit := by
  obtain ⟨-, length, -, -⟩ := strstr_some found
  rw [show zbxTcpHeaderData.length = 4 from rfl] at length
  have parsed := parseReply_some found
  simp only at parsed
  rw [if_neg short] at parsed
  constructor
  · rintro ⟨inside, -⟩
    rw [parsed] at inside
    exact inside ⟨place + 5, place + 13⟩ (by simp)
  · intro headerInside
    refine ⟨?_, ?_⟩ <;> rw [parsed]
    · simp only [List.forall_mem_cons, List.not_mem_nil, false_implies, implies_true, and_true]
      exact ⟨by omega, headerInside⟩
    · exact Or.inl rfl

/-- With a header that announces less than what was received, the copy is
right where all of it was received. -/
theorem repliesRight_copy (received_le : received.length ≤ limit) (room : limit ≤ (replyBuf received).length)
    (found : strstr zbxTcpHeaderData (replyBuf received) 0 = (some place, count)) {jsonLength : Nat}
    (declared : ofLE (((replyBuf received).drop (place + 5)).take 8) = jsonLength)
    (taken : jsonLength > 0 ∧ received.length > jsonLength) :
    RepliesRight limit received ↔ place + 13 ≤ limit ∧ place + 13 + jsonLength ≤ received.length := by
  obtain ⟨-, length, starts, first⟩ := strstr_some found
  rw [Nat.sub_zero] at starts
  rw [show zbxTcpHeaderData.length = 4 from rfl] at length
  obtain ⟨header, reached⟩ := header_received starts
  have parsed := parseReply_some found
  simp only [declared] at parsed
  rw [if_pos taken] at parsed
  constructor
  · rintro ⟨inside, framed⟩
    rw [parsed] at inside framed
    simp only [List.forall_mem_cons, List.not_mem_nil, false_implies, implies_true, and_true] at inside
    obtain ⟨_, headerInside, copyInside⟩ := inside
    refine ⟨headerInside, ?_⟩
    have copied : (((replyBuf received).drop (place + 13)).take jsonLength).length = jsonLength := by
      rw [List.length_take, List.length_drop]
      omega
    rcases framed with empty | ⟨other, otherStarts, _, _, received'⟩
    · simp only at empty
      rw [empty, List.length_nil] at copied
      omega
    · have least := first other (Nat.zero_le _) (header_found otherStarts)
      simp only [copied] at received'
      omega
  · rintro ⟨headerInside, inside⟩
    have copy : ((replyBuf received).drop (place + 13)).take jsonLength =
        (received.drop (place + 13)).take jsonLength := replyBuf_take inside
    have copied : ((received.drop (place + 13)).take jsonLength).length = jsonLength := by
      rw [List.length_take, List.length_drop]
      omega
    have told : ofLE ((received.drop (place + 5)).take 8) = jsonLength := by
      rw [← declared, replyBuf_take (by omega)]
    refine ⟨?_, Or.inr ⟨place, header, ?_, ?_, ?_⟩⟩ <;> rw [parsed]
    · simp only [List.forall_mem_cons, List.not_mem_nil, false_implies, implies_true, and_true]
      exact ⟨by omega, by omega, by omega⟩
    · simp only [copy, copied, told]
    · simp only [copy, copied]
    · simp only [copy, copied]
      exact inside

/-- Received bytes are read right just where the header, if there is one, is
announced truly, whether all of the buffer may be read or only what was
received. -/
theorem repliesRight_iff (received_le : received.length ≤ limit) (limit_le : limit ≤ 4096) :
    RepliesRight limit received ↔ Announced limit received := by
  have room : limit ≤ (replyBuf received).length := by
    rw [replyBuf_length (received_le.trans limit_le)]
    exact limit_le
  unfold Announced
  cases searched : strstr zbxTcpHeaderData (replyBuf received) 0 with
  | mk result count =>
    cases result with
    | none => exact repliesRight_none room searched
    | some place =>
      by_cases taken : ofLE (((replyBuf received).drop (place + 5)).take 8) > 0 ∧
          received.length > ofLE (((replyBuf received).drop (place + 5)).take 8)
      · rw [repliesRight_copy received_le room searched rfl taken]
        refine and_congr_right fun _ => ⟨fun inside => Or.inr (Or.inr inside), ?_⟩
        rintro (none | short | inside)
        · omega
        · omega
        · exact inside
      · rw [repliesRight_short searched taken]
        exact (and_iff_left (by omega)).symm

theorem ofLE_toLE {n : Nat} (small : n < 2 ^ 64) : ofLE (toLE 8 n) = n := by
  rw [ofLE, toLE, List.reverse_reverse, ofBE_toBE]
  exact Nat.mod_eq_of_lt (small.trans_eq (by norm_num))

/-- What is framed for sending is taken out of its frame again. -/
theorem parseReply_frame {json : Bytes} (small : json.length < 4096 - 13) :
    (parseReply (zabbixFrame json)).1 = json := by
  have length : (toLE 8 (json.length % 2 ^ 64)).length = 8 := by rw [toLE, List.length_reverse, toBE_length]
  have size : (zabbixFrame json).length = 13 + json.length := by
    simp only [zabbixFrame, List.length_append, List.length_cons, length, show zbxTcpHeaderData.length = 4 from rfl]
  have starts : zbxTcpHeaderData <+: replyBuf (zabbixFrame json) :=
    (((List.prefix_append _ _).trans (List.prefix_append _ json)).trans (List.prefix_append _ _))
  have searched : strstr zbxTcpHeaderData (replyBuf (zabbixFrame json)) 0 = (some 0, 4) := by
    obtain ⟨rest, whole⟩ := starts
    rw [← whole]
    rfl
  have told : ((zabbixFrame json).drop (0 + 5)).take 8 = toLE 8 (json.length % 2 ^ 64) := by
    have split : zabbixFrame json = (zbxTcpHeaderData ++ [1]) ++ (toLE 8 (json.length % 2 ^ 64) ++ json) := by
      simp only [zabbixFrame, List.append_assoc, List.cons_append, List.nil_append]
    rw [split, List.drop_left' (show (zbxTcpHeaderData ++ [1]).length = 0 + 5 from rfl), List.take_left' length]
  have behind : (zabbixFrame json).drop (0 + 13) = json := by
    rw [zabbixFrame, List.drop_left']
    rw [List.length_append, List.length_cons, length]
    rfl
  have whole : json.length % 2 ^ 64 = json.length := Nat.mod_eq_of_lt (by omega)
  have declared : ofLE (((replyBuf (zabbixFrame json)).drop (0 + 5)).take 8) = json.length := by
    rw [replyBuf_take (by omega), told, ofLE_toLE (by omega), whole]
  rw [parseReply_some searched]
  simp only [declared]
  by_cases empty : json.length = 0
  · rw [if_neg (by omega)]
    exact (List.eq_nil_of_length_eq_zero empty).symm
  · rw [if_pos (by omega)]
    simp only
    rw [replyBuf_take (by omega), behind, List.take_length]

end Parse

/-- Replies of any bytes are read right just where their header announces
what was received, whichever way the limit of a read is taken, and a framed
text is read back. -/
theorem replies_exact {received : Bytes} {limit : Nat} (within : received.length ≤ limit) (small : limit ≤ 4096) :
    (RepliesRight limit received ↔ Announced limit received) ∧
      ∀ json, json.length < 4096 - 13 → (parseReply (zabbixFrame json)).1 = json :=
  ⟨repliesRight_iff within small, fun _ short => parseReply_frame short⟩

theorem replies_exact_numbers : RepliesRight 16 (zabbixFrame (str "[1]")) ∧
    (parseReply (zabbixFrame (str "[1]"))).1 = str "[1]" := by
  obtain ⟨right, framed⟩ := @replies_exact (zabbixFrame (str "[1]")) 16 (by decide) (by decide)
  refine ⟨right.mpr ?_, framed _ (by decide)⟩
  have searched : strstr zbxTcpHeaderData (replyBuf (zabbixFrame (str "[1]"))) 0 = (some 0, 4) := by decide +kernel
  simp only [Announced, searched]
  decide +kernel

theorem strstr_replicate (n place : Nat) :
    strstr zbxTcpHeaderData (List.replicate n 120) place = (none, place + n + 1) := by
  induction n generalizing place with
  | zero => rfl
  | succ n ih =>
    rw [List.replicate_succ, strstr, if_neg (by simp [zbxTcpHeaderData, str, List.isPrefixOf]),
      if_neg (by decide), ih]
    congr 1
    omega

/-- A header that announces ten bytes where three were received: the reply
gets seven zeros. And a full buffer without a header, behind which the
search goes on. -/
theorem replies_beyond : ¬ RepliesRight 4096 (zbxTcpHeaderData ++ 1 :: toLE 8 10 ++ str "abc") ∧
    ¬ RepliesRight 4096 (List.replicate 4096 120) := by
  constructor
  · rintro ⟨-, empty | ⟨place, -, -, -, received⟩⟩
    · exact absurd empty (by decide +kernel)
    · have length : (parseReply (zbxTcpHeaderData ++ 1 :: toLE 8 10 ++ str "abc")).1.length = 10 := by
        decide +kernel
      have size : (zbxTcpHeaderData ++ 1 :: toLE 8 10 ++ str "abc").length = 16 := by decide
      omega
  · rintro ⟨inside, -⟩
    have searched : strstr zbxTcpHeaderData (replyBuf (List.replicate 4096 120)) 0 = (none, 4097) := by
      rw [replyBuf, List.length_replicate, Nat.sub_self, List.replicate_zero, List.append_nil, strstr_replicate]
    rw [parseReply_none searched] at inside
    exact absurd (inside ⟨0, 4097⟩ (List.mem_singleton_self _)) (by decide)

end DbcNode.Monitor
