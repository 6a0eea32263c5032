import DbcNode.Lib.Digits
import DbcNode.Task.Nat

namespace DbcNode

/-- The form of a custom port that a command is made for, with its parts. -/
inductive PortForm
  | single (port : Bytes)
  | mapped (dport inner : Bytes)
  | range (first last : Bytes)
  | ranges (first last toFirst toLast : Bytes)
  deriving DecidableEq

namespace PortForm

/-- The parts of the text that go into the command. -/
def fragments : PortForm → List Bytes
  | single port => [port]
  | mapped dport inner => [dport, inner]
  | range first last => [first, last]
  | ranges first last toFirst toLast => [first, last, toFirst, toLast]

/-- The command, without the name of the chain. -/
def rule (r : IptableInfo) (protocol : Bytes) : PortForm → Bytes
  | single port => r.portRule protocol port port
  | mapped dport inner => r.portRule protocol dport inner
  | range first last => r.rangeRule protocol first last first last
  | ranges first last toFirst toLast => r.rangeRule protocol first last toFirst toLast

end PortForm

/-- Two parts that are numbers. -/
def numbersOf (separator : UInt8) (text : Bytes) : Option (Bytes × Bytes) :=
  (pairOf separator text).filter fun pair => isDigits pair.1 ∧ isDigits pair.2

/-- The text is of the form `a-b:c-d`. -/
def rangesOf (text : Bytes) : Option PortForm :=
  (pairOf 58 text).bind fun outer =>
    (pairOf 45 outer.1).bind fun here =>
      (pairOf 45 outer.2).map fun there => .ranges here.1 here.2 there.1 there.2

/-- The branches of `shell_add_iptable_to_system` for a port, in their
order. -/
def portForm (port : Bytes) : Option PortForm :=
  if isDigits port then some (.single port)
  else ((numbersOf 58 port).map fun pair => .mapped pair.1 pair.2).or
    (((numbersOf 45 port).map fun pair => .range pair.1 pair.2).or (rangesOf port))

/-- The protocol of a custom port, and its form. -/
def customForm (text : Bytes) : Option (Bytes × PortForm) :=
  (pairOf 44 text).bind fun both =>
    if both.1 = str "tcp" ∨ both.1 = str "udp" then (portForm (trimText both.2)).map (both.1, ·) else none

/-- What a custom port puts into commands is digits. -/
def DigitsOnly (text : Bytes) : Prop :=
  ∀ protocol form, customForm text = some (protocol, form) → ∀ fragment ∈ form.fragments, isDigits fragment = true

/-- Where a custom port is of the form `a-b:c-d`, it is written in digits,
dashes and colons. -/
def PlainRanges (text : Bytes) : Prop :=
  ∀ protocol port, pairOf 44 text = some (protocol, port) → protocol = str "tcp" ∨ protocol = str "udp" →
    (rangesOf (trimText port)).isSome → ∀ b ∈ trimText port, isDigit b = true ∨ b = 45 ∨ b = 58

theorem numbersOf_some {separator : UInt8} {text first second : Bytes}
    (pair : pairOf separator text = some (first, second)) :
    numbersOf separator text = if isDigits first ∧ isDigits second then some (first, second) else none := by
  rw [numbersOf, pair, Option.filter_some]
  simp

theorem numbersOf_none {separator : UInt8} {text : Bytes} (missing : pairOf separator text = none) :
    numbersOf separator text = none := by
  rw [numbersOf, missing]
  rfl

theorem ranges_eq (r : IptableInfo) (protocol dport inner : Bytes) :
    IptableInfo.customPortRule.ranges r protocol dport inner =
      ((pairOf 45 dport).bind fun here => (pairOf 45 inner).map fun there =>
        PortForm.ranges here.1 here.2 there.1 there.2).map (·.rule r protocol) := by
  unfold IptableInfo.customPortRule.ranges pairOf
  split
  · rename_i here there
    rw [here, there]
    rfl
  · rename_i other
    split
    · rename_i here
      split
      · rename_i there
        exact (other _ _ _ _ here there).elim
      · rfl
    · rfl

theorem customPortRule_eq (r : IptableInfo) (protocol port : Bytes) :
    r.customPortRule protocol port = (portForm port).map (·.rule r protocol) := by
  unfold IptableInfo.customPortRule portForm
  split
  · rfl
  split
  · rename_i dport inner colons
    have outer := pairOf_eq_some.mpr colons
    rw [numbersOf_some outer]
    split
    · rfl
    · rw [ranges_eq, rangesOf, outer]
      split
      · rename_i first last dashes
        rw [numbersOf_some (pairOf_eq_some.mpr dashes)]
        split
        · rfl
        · rfl
      · rename_i dashes
        rw [numbersOf_none (pairOf_eq_none.mpr dashes)]
        rfl
  · rename_i first last dashes colons
    have single := pairOf_eq_none.mpr colons
    rw [numbersOf_none single, numbersOf_some (pairOf_eq_some.mpr dashes), rangesOf, single]
    split
    · rfl
    · rfl
  · rename_i colons dashes
    have single := pairOf_eq_none.mpr colons
    rw [numbersOf_none single,
      numbersOf_none (pairOf_eq_none.mpr fun first last two => dashes first last two), rangesOf, single]
    rfl

theorem customRule_eq (r : IptableInfo) (text : Bytes) :
    r.customRule text = (customForm text).map fun both => both.2.rule r both.1 := by
  unfold IptableInfo.customRule customForm
  split
  · rename_i protocol port parts
    rw [pairOf_eq_some.mpr parts, Option.bind_some]
    split
    · rw [customPortRule_eq, Option.map_map]
      rfl
    · rfl
  · rename_i parts
    rw [pairOf_eq_none.mpr parts]
    rfl

section Ranges
variable {port first last toFirst toLast : Bytes} {form : PortForm}

theorem rangesOf_eq_some (parts : rangesOf port = some form) : ∃ dport inner first last toFirst toLast,
    pairOf 58 port = some (dport, inner) ∧ pairOf 45 dport = some (first, last) ∧
      pairOf 45 inner = some (toFirst, toLast) ∧ form = .ranges first last toFirst toLast := by
  obtain ⟨outer, colons, rest⟩ := Option.bind_eq_some_iff.mp parts
  obtain ⟨here, dashes, rest⟩ := Option.bind_eq_some_iff.mp rest
  obtain ⟨there, others, rfl⟩ := Option.map_eq_some_iff.mp rest
  exact ⟨outer.1, outer.2, here.1, here.2, there.1, there.2, colons, dashes, others, rfl⟩

theorem numbersOf_eq_some {separator : UInt8} (numbers : numbersOf separator port = some (first, last)) :
    pairOf separator port = some (first, last) ∧ isDigits first = true ∧ isDigits last = true := by
  obtain ⟨pair, digits⟩ := Option.filter_eq_some_iff.mp numbers
  exact ⟨pair, of_decide_eq_true digits⟩

theorem not_mem_of_isDigits {b : UInt8} {text : Bytes} (digits : isDigits text = true) (other : isDigit b = false) :
    b ∉ text := by
  intro member
  rw [(isDigits_iff.mp digits).2 b member] at other
  cases other

/-- The form `a-b:c-d` is none of the others. -/
theorem portForm_ranges (parts : rangesOf port = some form) : portForm port = some form := by
  obtain ⟨dport, inner, first, last, toFirst, toLast, colons, dashes, _, rfl⟩ := rangesOf_eq_some parts
  have single : isDigits port = false := by
    by_contra digits
    rw [Bool.not_eq_false] at digits
    rw [pairOf_of_not_mem (not_mem_of_isDigits digits (by decide))] at colons
    cases colons
  have mapped : numbersOf 58 port = none := by
    rw [numbersOf_some colons, if_neg]
    rintro ⟨digits, _⟩
    rw [pairOf_of_not_mem (not_mem_of_isDigits digits (by decide))] at dashes
    cases dashes
  have range : numbersOf 45 port = none := by
    cases numbers : numbersOf 45 port with
    | none => rfl
    | some both =>
      obtain ⟨pair, here, there⟩ : pairOf 45 port = some (both.1, both.2) ∧ isDigits both.1 = true ∧
        isDigits both.2 = true :=
        numbersOf_eq_some numbers
      have apart : (58 : UInt8) ∉ port := fun member => by
        rcases (mem_of_pairOf pair).mpr ⟨member, by decide⟩ with inFirst | inLast
        · exact not_mem_of_isDigits here (by decide) inFirst
        · exact not_mem_of_isDigits there (by decide) inLast
      rw [pairOf_of_not_mem apart] at colons
      cases colons
  rw [portForm, single, if_neg Bool.false_ne_true, mapped, range, parts]
  rfl

/-- What the other branches put into a command is checked. -/
theorem portForm_checked (found : portForm port = some form) (apart : rangesOf port = none) :
    ∀ fragment ∈ form.fragments, isDigits fragment = true := by
  unfold portForm at found
  split at found
  · rename_i digits
    cases found
    intro fragment member
    rw [List.mem_singleton.mp member]
    exact digits
  · rw [apart, Option.or_none, Option.or_eq_some_iff] at found
    rcases found with mapped | ⟨_, range⟩
    · obtain ⟨both, numbers, rfl⟩ := Option.map_eq_some_iff.mp mapped
      obtain ⟨_, here, there⟩ := numbersOf_eq_some numbers
      exact List.forall_mem_cons.mpr ⟨here, List.forall_mem_singleton.mpr there⟩
    · obtain ⟨both, numbers, rfl⟩ := Option.map_eq_some_iff.mp range
      obtain ⟨_, here, there⟩ := numbersOf_eq_some numbers
      exact List.forall_mem_cons.mpr ⟨here, List.forall_mem_singleton.mpr there⟩

/-- The parts of `a-b:c-d` are digits where there is nothing else in the
text. -/
theorem rangesOf_digits (parts : rangesOf port = some form) :
    (∀ fragment ∈ form.fragments, isDigits fragment = true) ↔
    ∀ b ∈ port, isDigit b = true ∨ b = 45 ∨ b = 58 := by
  obtain ⟨dport, inner, first, last, toFirst, toLast, colons, dashes, others, rfl⟩ := rangesOf_eq_some parts
  obtain ⟨firstFilled, lastFilled⟩ := ne_nil_of_pairOf dashes
  obtain ⟨toFirstFilled, toLastFilled⟩ := ne_nil_of_pairOf others
  simp only [PortForm.fragments, List.forall_mem_cons, isDigits_iff, firstFilled, lastFilled, toFirstFilled,
    toLastFilled, ne_eq, not_false_eq_true, true_and, List.not_mem_nil, false_imp_iff, implies_true, and_true]
  constructor
  · rintro ⟨one, two, three, four⟩ b member
    by_cases colon : b = 58
    · exact Or.inr (Or.inr colon)
    · by_cases dash : b = 45
      · exact Or.inr (Or.inl dash)
      · refine Or.inl ?_
        rcases (mem_of_pairOf colons).mpr ⟨member, colon⟩ with left | right
        · rcases (mem_of_pairOf dashes).mpr ⟨left, dash⟩ with inFirst | inLast
          · exact one b inFirst
          · exact two b inLast
        · rcases (mem_of_pairOf others).mpr ⟨right, dash⟩ with inFirst | inLast
          · exact three b inFirst
          · exact four b inLast
  · intro plain
    have digit : ∀ b, b ≠ 45 → (b ∈ dport ∨ b ∈ inner) → isDigit b = true := by
      intro b dash inside
      obtain ⟨member, colon⟩ := (mem_of_pairOf colons).mp inside
      exact (plain b member).resolve_right (not_or.mpr ⟨dash, colon⟩)
    have left : ∀ b, (b ∈ first ∨ b ∈ last) → isDigit b = true := fun b inside =>
      have both := (mem_of_pairOf dashes).mp inside
      digit b both.2 (Or.inl both.1)
    have right : ∀ b, (b ∈ toFirst ∨ b ∈ toLast) → isDigit b = true := fun b inside =>
      have both := (mem_of_pairOf others).mp inside
      digit b both.2 (Or.inr both.1)
    exact ⟨fun b member => left b (Or.inl member), fun b member => left b (Or.inr member),
      fun b member => right b (Or.inl member), fun b member => right b (Or.inr member)⟩

theorem digitsOnly_iff (text : Bytes) : DigitsOnly text ↔ PlainRanges text := by
  have forms : ∀ port, (∀ form, portForm port = some form → ∀ fragment ∈ form.fragments, isDigits fragment = true) ↔
      ((rangesOf port).isSome → ∀ b ∈ port, isDigit b = true ∨ b = 45 ∨ b = 58) := by
    intro port
    cases parts : rangesOf port with
    | none => exact iff_of_true (fun form found => portForm_checked found parts) nofun
    | some form =>
      simp only [portForm_ranges parts, Option.some.injEq, forall_eq', Option.isSome_some, true_imp_iff]
      exact rangesOf_digits parts
  unfold DigitsOnly PlainRanges customForm
  constructor
  · intro digits protocol port parts known
    rw [parts, Option.bind_some, if_pos known] at digits
    refine (forms (trimText port)).mp fun form found => digits protocol form ?_
    rw [found]
    rfl
  · intro plain protocol form found
    obtain ⟨⟨name, port⟩, parts, found⟩ := Option.bind_eq_some_iff.mp found
    split at found
    · rename_i known
      obtain ⟨_, here, same⟩ := Option.map_eq_some_iff.mp found
      cases same
      exact (forms (trimText port)).mpr (plain name port parts known) form here
    · cases found

end Ranges

/-- The rules of the custom ports are those of their forms, and hold only
digits of their texts exactly when each text of the form `a-b:c-d` is one of
digits, dashes and colons. -/
theorem custom_ports_digits_iff (r : IptableInfo) :
    r.customPort.filterMap r.customRule =
        r.customPort.filterMap (fun text => (customForm text).map fun both => both.2.rule r both.1) ∧
      ((∀ text ∈ r.customPort, DigitsOnly text) ↔ ∀ text ∈ r.customPort, PlainRanges text) := by
  refine ⟨congrArg (List.filterMap · r.customPort) (funext (customRule_eq r)), ?_⟩
  exact forall_congr' fun text => imp_congr_right fun _ => digitsOnly_iff text

/-- A command in the place of a port goes into the rule as it stands. -/
theorem reboot_in_rule : ¬ ∀ text ∈ [str "tcp,1-2$(reboot):3-4"], DigitsOnly text := by
  intro digits
  have form : customForm (str "tcp,1-2$(reboot):3-4") =
      some (str "tcp", .ranges (str "1") (str "2$(reboot)") (str "3") (str "4")) := by
    decide +kernel
  have bad := digits _ List.mem_cons_self _ _ form (str "2$(reboot)") (List.mem_cons_of_mem _ List.mem_cons_self)
  exact absurd bad (by decide)

end DbcNode
