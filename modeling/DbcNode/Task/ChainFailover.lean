import DbcNode.Task.ChainClient

namespace DbcNode

namespace ChainAnswer

def rentEndNumber (answer : Option Json) : Except (Stop Bytes) Int :=
  match answer with
  | none => .ok 0
  | some rentEnd => int64Of rentEnd

/-- The end of the rent, which is zero for anyone but the renter. -/
def requestRentEnd (wallet : Bytes) (answers : List ChainAnswer) : Except (Stop Bytes) Int :=
  match textOf (str "renter") answers with
  | none => .ok 0
  | some renter =>
    if renter ≠ wallet then .ok 0 else rentEndNumber ((resultOf answers).bind (·.member (str "rentEnd")))

/-- A member of the result of one answer. -/
def memberOf (name : Bytes) : ChainAnswer → Option Json
  | .body doc => (doc.member (str "result")).bind (·.member name)
  | _ => none

def memberText (name : Bytes) (answer : ChainAnswer) : Option Bytes := (memberOf name answer).bind Json.getString

/-- A member that is an integer of 64 bits. -/
def memberInt (name : Bytes) (answer : ChainAnswer) : Option Int :=
  ((memberOf name answer).bind Json.getInt).filter fun value => -2 ^ 63 ≤ value ∧ value < 2 ^ 63

def statusOf (machineStatus : Bytes) : MachineStatus :=
  if machineStatus ∈ verifyTexts then .verify
  else if machineStatus ∈ onlineTexts then .online
  else if machineStatus ∈ rentedTexts then .rented
  else .online

end ChainAnswer

open ChainAnswer

/-- A query: which answers end its loop, the value of a well-formed answer,
and what an ill-formed one leaves as the result, where it does not end the
process. -/
structure Ladder (α : Type) where
  hears : ChainAnswer → Bool
  value : ChainAnswer → Option α
  fallback : ChainAnswer → Option α
  initial : α
  heard : ∀ answer, (value answer).isSome → hears answer = true

namespace Ladder
variable {α : Type}

def resultOf (l : Ladder α) (first : ChainAnswer) : Except (Stop Bytes) α :=
  match (l.value first).or (l.fallback first) with
  | some result => .ok result
  | none => .error .asserted

/-- The loop over the answers of the nodes. -/
def run (l : Ladder α) (answers : List ChainAnswer) : Except (Stop Bytes) α :=
  match answers.find? l.hears with
  | none => .ok l.initial
  | some first => l.resultOf first

theorem run_first {l : Ladder α} {answers : List ChainAnswer} {first : ChainAnswer}
    (found : answers.find? l.hears = some first) : l.run answers = l.resultOf first := by
  simp only [run, found]

theorem resultOf_value {l : Ladder α} {first : ChainAnswer} {result : α} (value : l.value first = some result) :
    l.resultOf first = .ok result := by
  simp only [resultOf, value, Option.some_or]

theorem resultOf_fallback {l : Ladder α} {first : ChainAnswer} (value : l.value first = none) {result : α} :
    l.resultOf first = .ok result ↔ l.fallback first = some result := by
  simp only [resultOf, value, Option.none_or]
  cases l.fallback first <;> simp

/-- Whenever a node gives a well-formed answer, the query returns the value
of one. -/
def FailsOver (value : ChainAnswer → Option α) (query : List ChainAnswer → Except (Stop Bytes) α)
    (answers : List ChainAnswer) : Prop :=
  (∃ answer ∈ answers, (value answer).isSome) →
    ∃ answer ∈ answers, ∃ result, value answer = some result ∧ query answers = .ok result

/-- The first answer that ends the loop is well-formed, or what it leaves as
the result happens to be the value of another answer. -/
def FirstSpeaks (l : Ladder α) (answers : List ChainAnswer) : Prop :=
  ∀ first, answers.find? l.hears = some first → (l.value first).isSome ∨
    ∃ answer ∈ answers, ∃ result, l.value answer = some result ∧ l.fallback first = some result

theorem failsOver_iff (l : Ladder α) (answers : List ChainAnswer) : FailsOver l.value l.run answers ↔
    (∀ answer ∈ answers, l.value answer = none) ∨ l.FirstSpeaks answers := by
  constructor
  · intro fails
    by_cases some : ∃ answer ∈ answers, (l.value answer).isSome
    · refine Or.inr fun first found => ?_
      obtain ⟨answer, member, result, isValue, ran⟩ := fails some
      rw [run_first found] at ran
      cases value : l.value first with
      | some result => exact Or.inl rfl
      | none => exact Or.inr ⟨answer, member, result, isValue, (resultOf_fallback value).mp ran⟩
    · refine Or.inl fun answer member => ?_
      by_contra other
      exact some ⟨answer, member, Option.isSome_iff_ne_none.mpr other⟩
  · rintro (none | speaks) ⟨answer, member, isSome⟩
    · rw [none answer member] at isSome
      cases isSome
    · cases found : answers.find? l.hears with
      | none => exact absurd (l.heard answer isSome) (List.find?_eq_none.mp found answer member)
      | some first =>
        cases value : l.value first with
        | some result =>
          exact ⟨first, List.mem_of_find?_eq_some found, result, value,
            (run_first found).trans (resultOf_value value)⟩
        | none =>
          rcases speaks first found with isValue | ⟨other, others, result, isValue, left⟩
          · rw [value] at isValue
            cases isValue
          · exact ⟨other, others, result, isValue, (run_first found).trans ((resultOf_fallback value).mpr left)⟩

end Ladder

/-- An answer that arrives ends the loop of a query. -/
def arrives : ChainAnswer → Bool
  | .lost => false
  | _ => true

/-- Only a document ends the loop of the query for the block. -/
def isDocument : ChainAnswer → Bool
  | .body _ => true
  | _ => false

theorem memberOf_arrives {name : Bytes} {answer : ChainAnswer} {json : Json}
    (found : memberOf name answer = some json) :
    arrives answer = true := by
  cases answer with
  | lost => cases found
  | garbled => rfl
  | body doc => rfl

theorem memberText_arrives {name text : Bytes} {answer : ChainAnswer} (found : memberText name answer = some text) :
    arrives answer = true := by
  obtain ⟨_, member, _⟩ := Option.bind_eq_some_iff.mp found
  exact memberOf_arrives member

def blockValue : ChainAnswer → Option Int
  | .body doc => (blockText doc).map strtolHex
  | _ => none

def blockLadder : Ladder Int where
  hears := isDocument
  value := blockValue
  fallback
    | .body doc => if doc.isObject then some 0 else none
    | _ => some 0
  initial := 0
  heard answer isValue := by
    cases answer with
    | lost => cases isValue
    | garbled => cases isValue
    | body doc => rfl

def statusValue (answer : ChainAnswer) : Option MachineStatus :=
    (memberText (str "machineStatus") answer).map statusOf

def statusLadder : Ladder MachineStatus where
  hears := arrives
  value := statusValue
  fallback _ := some .online
  initial := .online
  heard answer isValue := by
    obtain ⟨status, value⟩ := Option.isSome_iff_exists.mp isValue
    obtain ⟨text, found, _⟩ := Option.map_eq_some_iff.mp value
    exact memberText_arrives found

/-- The end of the rent that an answer tells: zero where another one is the
renter. -/
def rentEndValue (wallet : Bytes) (answer : ChainAnswer) : Option Int :=
  (memberText (str "renter") answer).bind fun renter =>
    if renter ≠ wallet then some 0 else memberInt (str "rentEnd") answer

/-- A number that is no integer of 64 bits. -/
def oddNumber (answer : ChainAnswer) : Bool :=
  match memberOf (str "rentEnd") answer with
  | some json => (int64Of json).toOption.isNone
  | none => false

def rentEndLadder (wallet : Bytes) : Ladder Int where
  hears := arrives
  value := rentEndValue wallet
  fallback answer := if memberText (str "renter") answer = some wallet ∧ oddNumber answer then none else some 0
  initial := 0
  heard answer isValue := by
    obtain ⟨rentEnd, value⟩ := Option.isSome_iff_exists.mp isValue
    obtain ⟨renter, found, _⟩ := Option.bind_eq_some_iff.mp value
    exact memberText_arrives found

def renterValue (answer : ChainAnswer) : Option (Bytes × Int) :=
  (memberText (str "renter") answer).bind fun renter => (memberInt (str "rentEnd") answer).map fun rentEnd =>
    (renter, rentEnd)

def renterLadder : Ladder (Bytes × Int) where
  hears := arrives
  value := renterValue
  fallback answer :=
    match memberText (str "renter") answer with
    | none => some ([], 0)
    | some renter => if oddNumber answer then none else some (renter, 0)
  initial := ([], 0)
  heard answer isValue := by
    obtain ⟨both, value⟩ := Option.isSome_iff_exists.mp isValue
    obtain ⟨renter, found, _⟩ := Option.bind_eq_some_iff.mp value
    exact memberText_arrives found

theorem resultOf_eq (answers : List ChainAnswer) (name : Bytes) :
    (resultOf answers).bind (·.member name) = (answers.find? arrives).bind (memberOf name) := by
  induction answers with
  | nil => rfl
  | cons answer rest ih =>
    cases answer with
    | lost => exact ih
    | garbled => rfl
    | body doc => rfl

theorem textOf_eq (answers : List ChainAnswer) (name : Bytes) :
    textOf name answers = (answers.find? arrives).bind (memberText name) := by
  rw [textOf, resultOf_eq]
  cases answers.find? arrives with
  | none => rfl
  | some first => rfl

theorem isObject_of_blockText {doc : Json} {text : Bytes} (found : blockText doc = some text) :
    doc.isObject = true := by
  cases doc with
  | object members => rfl
  | null => cases found
  | bool value => cases found
  | int value => cases found
  | number => cases found
  | string text => cases found
  | array items => cases found

theorem requestCurBlock_eq (answers : List ChainAnswer) : requestCurBlock answers = blockLadder.run answers := by
  induction answers with
  | nil => rfl
  | cons answer rest ih =>
    cases answer with
    | lost => exact ih
    | garbled => exact ih
    | body doc =>
      refine Eq.trans ?_ (@Ladder.run_first _ blockLadder (.body doc :: rest) _ rfl).symm
      rw [requestCurBlock, blockNumber]
      cases text : blockText doc with
      | none =>
        have value : blockLadder.value (.body doc) = none := congrArg (Option.map strtolHex) text
        by_cases object : doc.isObject = true
        · have left : blockLadder.fallback (.body doc) = some 0 := if_pos object
          rw [if_pos object, (Ladder.resultOf_fallback value).mpr left]
          rfl
        · rw [if_neg object]
          have left : blockLadder.fallback (.body doc) = none := if_neg object
          simp only [Ladder.resultOf, value, left]
          rfl
      | some text' =>
        have value : blockLadder.value (.body doc) = some (strtolHex text') := congrArg (Option.map strtolHex) text
        rw [if_pos (isObject_of_blockText text), Ladder.resultOf_value value]
        rfl

theorem requestMachineStatus_eq (answers : List ChainAnswer) :
    .ok (requestMachineStatus answers) = statusLadder.run answers := by
  have status : requestMachineStatus answers = statusOf ((textOf (str "machineStatus") answers).getD []) := rfl
  rw [status, textOf_eq]
  cases found : answers.find? arrives with
  | none =>
    have silent : statusLadder.run answers = .ok .online := by simp only [Ladder.run, statusLadder, found]
    rw [silent]
    rfl
  | some first =>
    rw [Ladder.run_first (l := statusLadder) found, Option.bind_some]
    cases text : memberText (str "machineStatus") first with
    | none =>
      have value : statusLadder.value first = none := congrArg (Option.map statusOf) text
      exact ((Ladder.resultOf_fallback value).mpr rfl).symm
    | some text' => exact (Ladder.resultOf_value (congrArg (Option.map statusOf) text)).symm

/-- The number of an answer as the queries read it. -/
theorem rentEndNumber_eq (answer : ChainAnswer) : rentEndNumber (memberOf (str "rentEnd") answer) =
    match memberInt (str "rentEnd") answer with
    | some rentEnd => .ok rentEnd
    | none => if oddNumber answer then .error .asserted else .ok 0 := by
  unfold memberInt oddNumber rentEndNumber
  cases memberOf (str "rentEnd") answer with
  | none => rfl
  | some json =>
    cases json with
    | int value =>
      by_cases fits : -2 ^ 63 ≤ value ∧ value < 2 ^ 63
      · have number : int64Of (.int value) = .ok value := if_pos fits
        have kept : (some value).filter (fun value => decide (-2 ^ 63 ≤ value ∧ value < 2 ^ 63)) = some value :=
          Option.filter_eq_some_iff.mpr ⟨rfl, decide_eq_true fits⟩
        simp only [number, Json.getInt, Option.bind_some, kept]
      · have number : int64Of (.int value) = .error .asserted := if_neg fits
        have dropped : (some value).filter (fun value => decide (-2 ^ 63 ≤ value ∧ value < 2 ^ 63)) = none :=
          Option.filter_eq_none_iff.mpr fun other same => by
            cases same
            exact decide_eq_true_iff.not.mpr fits
        simp only [number, Json.getInt, Option.bind_some, dropped]
        rfl
    | number => rfl
    | null => rfl
    | bool => rfl
    | string => rfl
    | array => rfl
    | object => rfl

theorem requestRentEnd_eq (wallet : Bytes) (answers : List ChainAnswer) :
    requestRentEnd wallet answers = (rentEndLadder wallet).run answers := by
  rw [requestRentEnd, textOf_eq, resultOf_eq]
  cases found : answers.find? arrives with
  | none =>
    have silent : (rentEndLadder wallet).run answers = .ok 0 := by simp only [Ladder.run, rentEndLadder, found]
    rw [silent]
    rfl
  | some first =>
    rw [Ladder.run_first (l := rentEndLadder wallet) found, Option.bind_some, Option.bind_some]
    cases text : memberText (str "renter") first with
    | none =>
      have value : (rentEndLadder wallet).value first = none := by
        simp only [rentEndLadder, rentEndValue, text, Option.bind_none]
      refine ((Ladder.resultOf_fallback value).mpr ?_).symm
      simp only [rentEndLadder, text]
      rfl
    | some renter =>
      by_cases other : renter ≠ wallet
      · have value : (rentEndLadder wallet).value first = some 0 := by
          simp only [rentEndLadder, rentEndValue, text, Option.bind_some, if_pos other]
        rw [Ladder.resultOf_value value]
        exact if_pos other
      · have same : renter = wallet := not_not.mp other
        have value : (rentEndLadder wallet).value first = memberInt (str "rentEnd") first := by
          simp only [rentEndLadder, rentEndValue, text, Option.bind_some, if_neg other]
        have left : (rentEndLadder wallet).fallback first = if oddNumber first then none else some 0 := by
          simp only [rentEndLadder, text, same, true_and]
        simp only [if_neg other, rentEndNumber_eq, Ladder.resultOf, value, left]
        cases memberInt (str "rentEnd") first with
        | some rentEnd => rfl
        | none => cases oddNumber first <;> rfl

theorem requestCurRenter_ladder (answers : List ChainAnswer) :
    requestCurRenter answers = renterLadder.run answers := by
  rw [requestCurRenter, textOf_eq, resultOf_eq]
  cases found : answers.find? arrives with
  | none =>
    have silent : renterLadder.run answers = .ok ([], 0) := by simp only [Ladder.run, renterLadder, found]
    rw [silent]
    rfl
  | some first =>
    rw [Ladder.run_first (l := renterLadder) found, Option.bind_some, Option.bind_some]
    cases text : memberText (str "renter") first with
    | none =>
      have value : renterLadder.value first = none := by
        simp only [renterLadder, renterValue, text, Option.bind_none]
      refine ((Ladder.resultOf_fallback value).mpr ?_).symm
      simp only [renterLadder, text]
    | some renter =>
      have value : renterLadder.value first = (memberInt (str "rentEnd") first).map fun rentEnd =>
        (renter, rentEnd) := by
        simp only [renterLadder, renterValue, text, Option.bind_some]
      have left : renterLadder.fallback first = if oddNumber first then none else some (renter, 0) := by
        simp only [renterLadder, text]
      have number := rentEndNumber_eq first
      simp only [Ladder.resultOf, value, left]
      cases json : memberOf (str "rentEnd") first with
      | none =>
        have missing : memberInt (str "rentEnd") first = none := by
          simp only [memberInt, json, Option.bind_none, Option.filter_none]
        have even : oddNumber first = false := by simp only [oddNumber, json]
        simp only [missing, even]
        rfl
      | some json' =>
        rw [json] at number
        change (int64Of json').map _ = _
        change int64Of json' = _ at number
        rw [number]
        cases memberInt (str "rentEnd") first with
        | some rentEnd => rfl
        | none => cases oddNumber first <;> rfl

/-- After `init` every configured address is kept once just where no two of
them have one key, that is, where no two answered within the same number of
milliseconds and none of these numbers is the place of one that failed. Each
query returns the value of a well-formed answer whenever there is one, just
where the first node that it hears from gives one or leaves what another
well-formed answer has as well. -/
theorem failover_exact {texts : List Bytes} {addresses : List NetAddress} (probe : Nat → Probe)
    (parsed : texts.map netAddress = addresses.map some) (distinct : addresses.Nodup) :
    ((∀ address ∈ addresses, (chainAddrs texts probe).values.count address = 1) ↔
      (chainKeys texts.length probe).Nodup) ∧
    ∀ answers wallet,
      (Ladder.FailsOver blockValue requestCurBlock answers ↔
        (∀ answer ∈ answers, blockValue answer = none) ∨ blockLadder.FirstSpeaks answers) ∧
      (Ladder.FailsOver statusValue (fun answers => .ok (requestMachineStatus answers)) answers ↔
        (∀ answer ∈ answers, statusValue answer = none) ∨ statusLadder.FirstSpeaks answers) ∧
      (Ladder.FailsOver (rentEndValue wallet) (requestRentEnd wallet) answers ↔
        (∀ answer ∈ answers, rentEndValue wallet answer = none) ∨ (rentEndLadder wallet).FirstSpeaks answers) ∧
      (Ladder.FailsOver renterValue requestCurRenter answers ↔
        (∀ answer ∈ answers, renterValue answer = none) ∨ renterLadder.FirstSpeaks answers) := by
  refine ⟨count_chainAddrs_iff probe parsed distinct, fun answers wallet => ⟨?_, ?_, ?_, ?_⟩⟩
  · rw [funext requestCurBlock_eq]
    exact blockLadder.failsOver_iff answers
  · rw [funext requestMachineStatus_eq]
    exact statusLadder.failsOver_iff answers
  · rw [funext (requestRentEnd_eq wallet)]
    exact (rentEndLadder wallet).failsOver_iff answers
  · rw [funext requestCurRenter_ladder]
    exact renterLadder.failsOver_iff answers

section Example

def statusAnswer (status : String) : ChainAnswer :=
  .body (.object [(str "result", .object [(str "machineStatus", .string (str status))])])

/-- Two nodes, one of which does not answer. -/
theorem failover_exact_two :
    (chainAddrs [str "a", str "b:80"] fun i => if i = 0 then .lost else .answered 7).values.count
      ⟨str "a", 443⟩ = 1 ∧
    (chainAddrs [str "a", str "b:80"] fun i => if i = 0 then .lost else .answered 7).values.count ⟨str "b",
      80⟩ = 1 := by
  have each := (@failover_exact [str "a", str "b:80"] [⟨str "a", 443⟩, ⟨str "b", 80⟩]
    (fun i => if i = 0 then .lost else .answered 7) (by decide) (by decide)).1.mpr (by decide)
  exact ⟨each _ (by decide), each _ (by decide)⟩

/-- Of two nodes that answer within the same millisecond one is lost; and a
node whose answer has no status hides that the machine is rented. -/
theorem nodes_lost : ¬ (∀ address ∈ [(⟨str "a", 443⟩ : NetAddress), ⟨str "b", 80⟩],
      (chainAddrs [str "a", str "b:80"] fun _ => .answered 7).values.count address = 1) ∧
    ¬ Ladder.FailsOver statusValue (fun answers => .ok (requestMachineStatus answers))
      [.garbled, statusAnswer "rented"] := by
  constructor
  · decide
  · intro fails
    obtain ⟨answer, member, result, isValue, ran⟩ := fails ⟨statusAnswer "rented", by simp, by decide⟩
    cases ran
    simp only [List.mem_cons, List.not_mem_nil, or_false] at member
    rcases member with rfl | rfl
    · cases isValue
    · exact absurd isValue (by decide)

end Example

end DbcNode
