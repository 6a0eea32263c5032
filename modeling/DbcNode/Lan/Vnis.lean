import DbcNode.Lan.Node

namespace DbcNode

theorem decimal_ne_nil (n : Nat) : decimal n ≠ [] := by
  have digits : (toString n).toList ≠ [] := by
    rw [Nat.toString_eq_ofList_toDigits, String.toList_ofList]
    exact Nat.toDigits_ne_nil
  rw [decimal, str, Ne, List.map_eq_nil_iff]
  exact digits

namespace LanNode
variable {s : LanNode} {rand : Nat → Nat}

/-- The loop of `RandomVni`: the VNI and how many numbers were drawn for it;
`tryCount` is what the source compares with ten and never raises. -/
def randomVniLoop (s : LanNode) (rand : Nat → Nat) : Nat → Nat → Nat → Option (Bytes × Nat)
  | 0, _, _ => none
  | rounds + 1, drawn, tryCount =>
    if tryCount > 10 then some ([], drawn)
    else
      let temp := decimal (rand drawn % vniMax)
      let vni := if s.checkVni temp then [] else temp
      if vni = [] then s.randomVniLoop rand rounds (drawn + 1) tryCount else some (vni, drawn + 1)

/-- The loop ends within a number of draws, with no VNI or with one that no
known network has. -/
def Chooses (s : LanNode) (rand : Nat → Nat) (bound : Nat) : Prop :=
  ∃ rounds vni drawn, s.randomVniLoop rand rounds 0 0 = some (vni, drawn) ∧ drawn ≤ bound ∧
    (vni = [] ∨ s.checkVni vni = false)

theorem randomVniLoop_taken {drawn : Nat} (taken : s.checkVni (decimal (rand drawn % vniMax)) = true)
    (rounds : Nat) :
    s.randomVniLoop rand (rounds + 1) drawn 0 = s.randomVniLoop rand rounds (drawn + 1) 0 := by
  simp only [randomVniLoop, taken]
  rfl

theorem randomVniLoop_free {drawn : Nat} (free : s.checkVni (decimal (rand drawn % vniMax)) = false)
    (rounds : Nat) :
    s.randomVniLoop rand (rounds + 1) drawn 0 = some (decimal (rand drawn % vniMax), drawn + 1) := by
  simp only [randomVniLoop, free, Bool.false_eq_true, if_false, if_neg (decimal_ne_nil _)]
  rfl

theorem randomVniLoop_skip {count : Nat} (taken : ∀ i < count, s.checkVni (decimal (rand i % vniMax)) = true)
    (rounds : Nat) :
    s.randomVniLoop rand (rounds + count) 0 0 = s.randomVniLoop rand rounds count 0 := by
  induction count generalizing rounds with
  | zero => rfl
  | succ count ih =>
    have shifted : rounds + (count + 1) = rounds + 1 + count := by omega
    rw [shifted, ih (fun i small => taken i (by omega)), randomVniLoop_taken (taken count (Nat.lt_succ_self count))]

/-- As long as all that is drawn is taken, the loop goes on. -/
theorem randomVniLoop_none (taken : ∀ i, s.checkVni (decimal (rand i % vniMax)) = true) (rounds drawn : Nat) :
    s.randomVniLoop rand rounds drawn 0 = none := by
  induction rounds generalizing drawn with
  | zero => rfl
  | succ rounds ih =>
    rw [randomVniLoop_taken (taken drawn)]
    exact ih (drawn + 1)

/-- The first free number that is drawn ends the loop. -/
theorem randomVniLoop_some {drawn later : Nat} (after : drawn ≤ later)
    (free : s.checkVni (decimal (rand later % vniMax)) = false) :
    ∃ rounds vni count, s.randomVniLoop rand rounds drawn 0 = some (vni, count) ∧ count ≤ later + 1 ∧
      s.checkVni vni = false := by
  obtain ⟨gap, rfl⟩ := Nat.exists_eq_add_of_le after
  induction gap generalizing drawn with
  | zero => exact ⟨1, _, drawn + 1, randomVniLoop_free free 0, le_rfl, free⟩
  | succ gap ih =>
    by_cases here : s.checkVni (decimal (rand drawn % vniMax)) = true
    · have moved : drawn + (gap + 1) = drawn + 1 + gap := by omega
      rw [moved] at free ⊢
      obtain ⟨rounds, vni, count, ran, few, chosen⟩ := ih (Nat.le_add_right _ _) free
      exact ⟨rounds + 1, vni, count, (randomVniLoop_taken here rounds).trans ran, few, chosen⟩
    · have open' := Bool.eq_false_of_not_eq_true here
      exact ⟨1, _, drawn + 1, randomVniLoop_free open' 0, by omega, open'⟩

/-- For a sequence of draws the loop ends just where one of them is free,
and it ends within draws that do not depend on the sequence just where no
VNI is taken at all. -/
theorem random_vni_exact (s : LanNode) :
    (∀ rand, (∃ bound, s.Chooses rand bound) ↔ ∃ i, s.checkVni (decimal (rand i % vniMax)) = false) ∧
    ((∃ bound, ∀ rand, s.Chooses rand bound) ↔ ∀ n < vniMax, s.checkVni (decimal n) = false) := by
  have ends : ∀ {rand bound}, s.Chooses rand bound → ∃ i, s.checkVni (decimal (rand i % vniMax)) = false := by
    rintro rand bound ⟨rounds, vni, drawn, ran, -, -⟩
    by_contra taken
    have all : ∀ i, s.checkVni (decimal (rand i % vniMax)) = true :=
      fun i => Bool.eq_true_of_not_eq_false fun free => taken ⟨i, free⟩
    rw [randomVniLoop_none all] at ran
    cases ran
  constructor
  · refine fun rand => ⟨fun ⟨_, chosen⟩ => ends chosen, fun ⟨i, free⟩ => ?_⟩
    obtain ⟨rounds, vni, count, ran, few, chosen⟩ := randomVniLoop_some (Nat.zero_le i) free
    exact ⟨i + 1, rounds, vni, count, ran, few, Or.inr chosen⟩
  · constructor
    · rintro ⟨bound, always⟩ n small
      obtain ⟨_, free⟩ := ends (always fun _ => n)
      rwa [Nat.mod_eq_of_lt small] at free
    · refine fun free => ⟨1, fun rand => ?_⟩
      have first := free _ (Nat.mod_lt (rand 0) (by decide : 0 < vniMax))
      exact ⟨1, _, 1, randomVniLoop_free first 0, le_rfl, Or.inr first⟩

/-- What is chosen from the numbers of a list is what the loop ends with on
any draws that begin with them. -/
theorem randomVni_eq {rands : List Nat} {vni : Bytes} (chosen : s.randomVni rands = some vni) (beyond : Nat → Nat) :
    ∃ rounds drawn, s.randomVniLoop (fun i => (rands[i]?).getD (beyond i)) rounds 0 0 = some (vni, drawn) := by
  obtain ⟨free, before, after, split, taken⟩ := List.find?_eq_some_iff_append.mp chosen
  have free : s.checkVni vni = false := by simpa using free
  obtain ⟨first, rest, rfl, firsts, rests⟩ := List.map_eq_append_iff.mp split
  obtain ⟨n, later, rfl, rfl, -⟩ := List.map_eq_cons_iff.mp rests
  have drawnTaken : ∀ i < first.length,
    s.checkVni (decimal (((first ++ n :: later)[i]?).getD (beyond i) % vniMax)) = true := by
    intro i small
    rw [List.getElem?_append_left small, List.getElem?_eq_getElem small, Option.getD_some]
    have member : decimal (first[i] % vniMax) ∈ before := by
      rw [← firsts]
      exact List.mem_map_of_mem (List.getElem_mem small)
    simpa using taken _ member
  have here : ((first ++ n :: later)[first.length]?).getD (beyond first.length) = n := by
    rw [List.getElem?_append_right le_rfl, Nat.sub_self]
    rfl
  refine ⟨1 + first.length, first.length + 1, ?_⟩
  have skipped :=
    @randomVniLoop_skip s (fun i => ((first ++ n :: later)[i]?).getD (beyond i)) first.length drawnTaken 1
  rw [skipped, randomVniLoop_free (by simpa only [here] using free)]
  simp only [here]

section Full

/-- Six letters for a number, by which a network can be called. -/
def letter (n place : Nat) : UInt8 := UInt8.ofNat (65 + n / 16 ^ place % 16)

def numberedName (n : Nat) : Bytes := [letter n 0, letter n 1, letter n 2, letter n 3, letter n 4, letter n 5]

theorem numberedName_inj {m n : Nat} (small : m < vniMax) (small' : n < vniMax)
    (same : numberedName m = numberedName n) :
    m = n := by
  have digit : ∀ place, letter m place = letter n place → m / 16 ^ place % 16 = n / 16 ^ place % 16 := by
    intro place equal
    have numbers := congrArg UInt8.toNat equal
    simp only [letter, UInt8.toNat_ofNat'] at numbers
    omega
  simp only [numberedName, List.cons.injEq, and_true] at same
  obtain ⟨a, b, c, d, e, f⟩ := same
  have a := digit 0 a
  have b := digit 1 b
  have c := digit 2 c
  have d := digit 3 d
  have e := digit 4 e
  have f := digit 5 f
  simp only [vniMax, Nat.reducePow] at *
  omega

def numberedNetwork (n : Nat) : NetworkInfo :=
  ⟨numberedName n, str "br" ++ numberedName n, str "vx" ++ numberedName n, decimal n, str "10.0.0.0/24",
    str "10.0.0.1", str "10.0.0.254", str "tap0", str "a", str "w", [], 7, ⟨false, false⟩, 7⟩

/-- A network for each of the first numbers. -/
def crowded (n : Nat) : LanNode :=
  (List.range n).foldl (fun s vni => s.put (numberedName vni) (numberedNetwork vni)) (LanNode.fresh (str "b"))

theorem crowded_taken {n k : Nat} (most : n ≤ vniMax) (small : k < n) :
    ∃ info, (crowded n).networks.find (numberedName k) = some info ∧ info.vxlanVni = decimal k := by
  induction n with
  | zero => omega
  | succ n ih =>
    have step : (crowded (n + 1)).networks = (crowded n).networks.insert (numberedName n) (numberedNetwork n) := by
      rw [crowded, List.range_succ, List.foldl_append]
      rfl
    rw [step]
    by_cases last : k = n
    · subst last
      exact ⟨_, OrdMap.find_insert_self _ _ _, rfl⟩
    · have different : numberedName k ≠ numberedName n := by
        intro same
        exact last (numberedName_inj (by omega) (by omega) same)
      rw [OrdMap.find_insert_ne different]
      exact ih (by omega) (by omega)

/-- With every VNI taken the loop ends on no sequence of draws. -/
theorem crowded_never : ¬ ∃ rand bound, (crowded vniMax).Chooses rand bound := by
  rintro ⟨rand, bound, rounds, vni, drawn, ran, -⟩
  have taken : ∀ i, (crowded vniMax).checkVni (decimal (rand i % vniMax)) = true := by
    intro i
    obtain ⟨info, found, same⟩ := crowded_taken le_rfl (Nat.mod_lt (rand i) (by decide : 0 < vniMax))
    have member : info ∈ (crowded vniMax).networks.values := List.mem_map.mpr ⟨_, OrdMap.find_eq_some.mp found, rfl⟩
    exact List.any_eq_true.mpr ⟨info, member, decide_eq_true same⟩
  rw [randomVniLoop_none taken] at ran
  cases ran

end Full

end LanNode

end DbcNode
