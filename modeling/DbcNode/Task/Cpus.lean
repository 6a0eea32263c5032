import DbcNode.Task.Resources

namespace DbcNode

namespace Host

/-- Rounding gives the first multiple at or above the count. -/
theorem roundUp_least {unit : Int} {fuel : Nat} {count : Int}
    (near : ∃ m, unit ∣ m ∧ count ≤ m ∧ m - count ≤ fuel) :
    unit ∣ roundUp unit fuel count ∧ count ≤ roundUp unit fuel count ∧
      ∀ m, unit ∣ m → count ≤ m → roundUp unit fuel count ≤ m := by
  induction fuel generalizing count with
  | zero =>
    obtain ⟨m, multiple, above, close⟩ := near
    obtain rfl : m = count := by omega
    exact ⟨multiple, le_refl _, fun _ _ => id⟩
  | succ fuel ih =>
    rw [roundUp]
    by_cases done : count.tmod unit = 0
    · rw [if_pos done]
      exact ⟨Int.dvd_of_tmod_eq_zero done, le_refl _, fun _ _ => id⟩
    · rw [if_neg done]
      have next : ∀ m, unit ∣ m → count ≤ m → count + 1 ≤ m := by
        intro m multiple above
        have differs : count ≠ m := by
          rintro rfl
          exact done (Int.tmod_eq_zero_of_dvd multiple)
        omega
      obtain ⟨m, multiple, above, close⟩ := near
      obtain ⟨divides, low, least⟩ := ih ⟨m, multiple, next m multiple above, by omega⟩
      exact ⟨divides, by omega, fun k multiple' above' => least k multiple' (next k multiple' above')⟩

theorem roundUp_unit {unit : Int} (positive : 0 < unit) (count : Int) :
    unit ∣ roundUp unit unit.toNat count ∧ count ≤ roundUp unit unit.toNat count ∧
      ∀ m, unit ∣ m → count ≤ m → roundUp unit unit.toNat count ≤ m := by
  have low := Int.emod_nonneg (-count) (show unit ≠ 0 by omega)
  have high := Int.emod_lt_of_pos (-count) positive
  refine roundUp_least ⟨count + -count % unit, ?_, by omega, by omega⟩
  have split := Int.emod_add_mul_ediv (-count) unit
  exact ⟨-(-count / unit), by rw [Int.mul_neg]; omega⟩

/-- Rounding adds less than one unit. -/
theorem roundUp_lt {unit : Int} (positive : 0 < unit) (count : Int) :
    roundUp unit unit.toNat count < count + unit := by
  obtain ⟨divides, _, least⟩ := roundUp_unit positive count
  by_contra far
  have lower := least (roundUp unit unit.toNat count - unit) (Int.dvd_sub divides (dvd_refl unit)) (by omega)
  omega

/-- The search ends at a number of sockets that is enough, in its range. -/
theorem fitSockets_some {hw : Hardware} {request : Int} {fuel : Nat} {n : Int} {found : CpuTopology} {total : Int}
    (run : fitSockets hw request fuel n = some (found, total)) :
    ∃ m, n ≤ m ∧ m < n + fuel ∧
      total = roundUp (m * hw.threadsPerCpu) (m * hw.threadsPerCpu).toNat request ∧
      found = ⟨m, total.tdiv (m * hw.threadsPerCpu), hw.threadsPerCpu⟩ ∧ found.cores ≤ hw.physicalCoresPerCpu := by
  induction fuel generalizing n with
  | zero => cases run
  | succ fuel ih =>
    rw [fitSockets] at run
    by_cases enough : (roundUp (n * hw.threadsPerCpu) (n * hw.threadsPerCpu).toNat request).tdiv
      (n * hw.threadsPerCpu) ≤
        hw.physicalCoresPerCpu
    · rw [if_pos enough] at run
      cases run
      exact ⟨n, le_refl _, by omega, rfl, rfl, enough⟩
    · rw [if_neg enough] at run
      obtain ⟨m, low, high, rounded, shape, fits⟩ := ih run
      exact ⟨m, by omega, by omega, rounded, shape, fits⟩

/-- The search passes no number of sockets that is enough. -/
theorem fitSockets_found {hw : Hardware} {request : Int} {fuel : Nat} {n m : Int} (low : n ≤ m)
    (high : m < n + fuel)
    (enough : (roundUp (m * hw.threadsPerCpu) (m * hw.threadsPerCpu).toNat request).tdiv (m * hw.threadsPerCpu) ≤
      hw.physicalCoresPerCpu) :
    ∃ found, fitSockets hw request fuel n = some found := by
  induction fuel generalizing n with
  | zero => omega
  | succ fuel ih =>
    rw [fitSockets]
    by_cases first : (roundUp (n * hw.threadsPerCpu) (n * hw.threadsPerCpu).toNat request).tdiv
      (n * hw.threadsPerCpu) ≤
        hw.physicalCoresPerCpu
    · exact ⟨_, if_pos first⟩
    · have later : n ≠ m := by
        rintro rfl
        exact first enough
      rw [if_neg first]
      exact ih (by omega) (by omega)

/-- A machine that has processors, with the cores that `init_cpu_info`
counts. -/
structure Machine (hw : Hardware) : Prop where
  sockets : 0 < hw.physicalCpus
  coresPerCpu : 0 < hw.physicalCoresPerCpu
  threads : 0 < hw.threadsPerCpu
  cores : hw.cores = hw.physicalCpus * hw.physicalCoresPerCpu * hw.threadsPerCpu

/-- What an allocation is: a part of the machine with at least the cores
asked for, that the check before a start accepts. -/
structure Covers (hw : Hardware) (request : Int) (found : CpuTopology) : Prop where
  sockets : 1 ≤ found.sockets ∧ found.sockets ≤ hw.physicalCpus
  cores : 1 ≤ found.cores ∧ found.cores ≤ hw.physicalCoresPerCpu
  threads : found.threads = hw.threadsPerCpu
  enough : request ≤ found.sockets * found.cores * found.threads
  within : found.sockets * found.cores * found.threads ≤ hw.physicalCpus * hw.physicalCoresPerCpu * hw.threadsPerCpu
  accepted : checkCpu hw found = true

/-- The allocation of this many cores is right, whatever its caller has set
before. -/
structure AllocatesRight (hw : Hardware) (request : Int) (initial : CpuTopology) : Prop where
  succeeds : allocateCpu hw request initial ≠ none ↔
    0 < request ∧ request ≤ hw.physicalCpus * hw.physicalCoresPerCpu * hw.threadsPerCpu
  covers : ∀ found, allocateCpu hw request initial = some found → Covers hw request found

variable {hw : Hardware} {request : Int}

/-- A count that the machine has is found by the search, and rounded to what
it takes. -/
theorem fitSockets_machine (machine : Machine hw)
    (within : request ≤ hw.physicalCpus * hw.physicalCoresPerCpu * hw.threadsPerCpu) :
    ∃ sockets cores, fitSockets hw request hw.physicalCpus.toNat 1 =
        some (⟨sockets, cores, hw.threadsPerCpu⟩, sockets * cores * hw.threadsPerCpu) ∧
      1 ≤ sockets ∧ sockets ≤ hw.physicalCpus ∧ cores ≤ hw.physicalCoresPerCpu ∧
      request ≤ sockets * cores * hw.threadsPerCpu := by
  obtain ⟨socketsPositive, coresPositive, threadsPositive, _⟩ := machine
  have last : 0 < hw.physicalCpus * hw.threadsPerCpu := Int.mul_pos socketsPositive threadsPositive
  have all : hw.physicalCpus * hw.physicalCoresPerCpu * hw.threadsPerCpu =
      hw.physicalCpus * hw.threadsPerCpu * hw.physicalCoresPerCpu := by ring
  obtain ⟨_, _, least⟩ := roundUp_unit last request
  have enough :
    (roundUp (hw.physicalCpus * hw.threadsPerCpu) (hw.physicalCpus * hw.threadsPerCpu).toNat request).tdiv
      (hw.physicalCpus * hw.threadsPerCpu) ≤ hw.physicalCoresPerCpu := by
    have bound := least _ ⟨_, all⟩ within
    rw [all] at bound
    have monotone := Int.tdiv_le_tdiv last bound
    rwa [Int.mul_tdiv_cancel_left _ (by omega)] at monotone
  obtain ⟨⟨found, total⟩, run⟩ := fitSockets_found (show 1 ≤ hw.physicalCpus from socketsPositive)
    (show hw.physicalCpus < 1 + (hw.physicalCpus.toNat : Int) by omega) enough
  obtain ⟨m, low, high, rounded, shape, fits⟩ := fitSockets_some run
  have unit : 0 < m * hw.threadsPerCpu := Int.mul_pos (by omega) threadsPositive
  obtain ⟨divides, above, _⟩ := roundUp_unit unit request
  rw [← rounded] at divides above
  have whole : total = m * found.cores * hw.threadsPerCpu := by
    rw [shape]
    have cancel := Int.mul_tdiv_cancel' divides
    linarith
  have same : found = ⟨m, found.cores, hw.threadsPerCpu⟩ := by rw [shape]
  exact ⟨m, found.cores, by rw [run, whole, ← same], low, by omega, fits, by rw [← whole]; exact above⟩

/-- On a machine of fewer than 2^30 cores no number that the search comes by
is too large for `int32_t`, so that it does not matter that the numbers here
have no bound. -/
theorem search_within_int32 (machine : Machine hw) (small : hw.cores < 2 ^ 30)
    (within : request ≤ hw.cores) {n : Int} (low : 1 ≤ n) (high : n ≤ hw.physicalCpus) :
    n * hw.threadsPerCpu < 2 ^ 30 ∧ request ≤ roundUp (n * hw.threadsPerCpu) (n * hw.threadsPerCpu).toNat request ∧
      roundUp (n * hw.threadsPerCpu) (n * hw.threadsPerCpu).toNat request < 2 ^ 31 := by
  obtain ⟨_, coresPositive, threadsPositive, total⟩ := machine
  have unit : 0 < n * hw.threadsPerCpu := Int.mul_pos (by omega) threadsPositive
  have part : n * hw.threadsPerCpu ≤ hw.cores := by
    calc n * hw.threadsPerCpu ≤ hw.physicalCpus * hw.threadsPerCpu :=
      Int.mul_le_mul_of_nonneg_right high threadsPositive.le
      _ ≤ hw.physicalCpus * hw.threadsPerCpu * hw.physicalCoresPerCpu :=
        le_mul_of_one_le_right (Int.mul_nonneg (by omega) threadsPositive.le) coresPositive
      _ = hw.cores := by rw [total]; ring
  obtain ⟨_, above, _⟩ := roundUp_unit unit request
  have below := roundUp_lt unit request
  exact ⟨by omega, above, by omega⟩

/-- Every count that the machine has is allocated, and none above that. -/
theorem allocateCpu_cases (machine : Machine hw) (request : Int) (initial : CpuTopology) :
    (hw.cores < request ∧ allocateCpu hw request initial = none) ∨
      request ≤ hw.cores ∧ ∃ sockets cores,
        allocateCpu hw request initial = some ⟨sockets, cores, hw.threadsPerCpu⟩ ∧
        1 ≤ sockets ∧ sockets ≤ hw.physicalCpus ∧ cores ≤ hw.physicalCoresPerCpu ∧
        request ≤ sockets * cores * hw.threadsPerCpu := by
  by_cases beyond : request > hw.cores
  · exact Or.inl ⟨beyond, by rw [allocateCpu, if_pos beyond]⟩
  · have within : request ≤ hw.cores := by omega
    have total := machine.cores
    obtain ⟨sockets, cores, run, rest⟩ := fitSockets_machine machine (show request ≤ _ by omega)
    refine Or.inr ⟨within, sockets, cores, ?_, rest⟩
    rw [allocateCpu, if_neg beyond, run]
    exact if_pos rfl

theorem covers_of_positive (machine : Machine hw) (positive : 0 < request) {sockets cores : Int}
    (low : 1 ≤ sockets) (high : sockets ≤ hw.physicalCpus) (fits : cores ≤ hw.physicalCoresPerCpu)
    (enough : request ≤ sockets * cores * hw.threadsPerCpu) :
    Covers hw request ⟨sockets, cores, hw.threadsPerCpu⟩ := by
  have threads := machine.threads
  have unit : 0 < sockets * hw.threadsPerCpu := Int.mul_pos (by omega) threads
  have some : 1 ≤ cores := by
    by_contra none
    have nothing : sockets * hw.threadsPerCpu * cores ≤ 0 := Int.mul_nonpos_of_nonneg_of_nonpos unit.le (by omega)
    have same : sockets * cores * hw.threadsPerCpu = sockets * hw.threadsPerCpu * cores := by ring
    omega
  have part : sockets * cores ≤ hw.physicalCpus * hw.physicalCoresPerCpu :=
    mul_le_mul high fits (by omega) machine.sockets.le
  have within : sockets * cores * hw.threadsPerCpu ≤ hw.physicalCpus * hw.physicalCoresPerCpu * hw.threadsPerCpu :=
    Int.mul_le_mul_of_nonneg_right part threads.le
  refine ⟨⟨low, high⟩, ⟨some, fits⟩, rfl, enough, within, decide_eq_true ?_⟩
  have total := machine.cores
  rintro (nothing | beyond | beyond | beyond | beyond)
  · change sockets * cores * hw.threadsPerCpu ≤ 0 at nothing
    omega
  · change sockets * cores * hw.threadsPerCpu > hw.cores at beyond
    omega
  · exact absurd high (not_le.mpr beyond)
  · exact absurd fits (not_le.mpr beyond)
  · exact absurd beyond (lt_irrefl _)

/-- A count of cores is allocated rightly just where it is positive: one
above that of the machine is refused, and every other gets sockets and cores
of the machine that cover it. Nothing and less than nothing is allocated
too, as no cores of one socket. -/
theorem allocatesRight_iff (machine : Machine hw) (request : Int) (initial : CpuTopology) :
    AllocatesRight hw request initial ↔ 0 < request := by
  have total := machine.cores
  rcases allocateCpu_cases machine request initial with
    ⟨beyond, refused⟩ | ⟨within, sockets, cores, allocated, low, high, fits, enough⟩
  · have many : 0 < hw.cores := by
      rw [total]
      exact Int.mul_pos (Int.mul_pos machine.sockets machine.coresPerCpu) machine.threads
    constructor
    · intro _
      omega
    · intro _
      refine ⟨⟨fun granted => absurd refused granted, fun asked => ?_⟩, fun found granted => ?_⟩
      · omega
      · rw [refused] at granted
        cases granted
  · constructor
    · intro right
      exact (right.succeeds.mp (by rw [allocated]; nofun)).1
    · intro positive
      refine ⟨⟨fun _ => ⟨positive, by omega⟩, fun _ => by rw [allocated]; nofun⟩, fun found granted => ?_⟩
      obtain rfl : _ = found := Option.some.inj (allocated.symm.trans granted)
      exact covers_of_positive machine positive low high fits enough

/-- A machine of one processor with four cores of two threads. -/
def smallMachine : Hardware := ⟨8, 1, 4, 2, .empty⟩

theorem three_cores_right : AllocatesRight smallMachine 3 ⟨0, 0, 0⟩ :=
  (allocatesRight_iff ⟨by decide, by decide, by decide, by decide⟩ 3 ⟨0, 0, 0⟩).mpr (by decide)

/-- A modification to no cores is accepted, and the check before a start
refuses what it allocates. -/
theorem no_cores_allocated : Machine smallMachine ∧ ¬ AllocatesRight smallMachine (atoi (str "0")) ⟨1, 1, 2⟩ ∧
    allocateCpu smallMachine (atoi (str "0")) ⟨1, 1, 2⟩ = some ⟨1, 0, 2⟩ ∧
    checkCpu smallMachine ⟨1, 0, 2⟩ = false := by
  have allocated : allocateCpu smallMachine (atoi (str "0")) ⟨1, 1, 2⟩ = some ⟨1, 0, 2⟩ := by decide
  refine ⟨⟨by decide, by decide, by decide, by decide⟩, fun right => ?_, allocated, by decide⟩
  have positive := (right.succeeds.mp (by rw [allocated]; nofun)).1
  exact absurd positive (by decide)

end Host

end DbcNode
