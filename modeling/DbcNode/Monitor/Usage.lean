import DbcNode.Lib.OrdMap
import DbcNode.Lib.Bytes

namespace DbcNode.Monitor

/-- A value of type `int`. -/
def toInt32 (z : Int) : Int := Int.bmod z (2 ^ 32)

/-- `timespec`. -/
structure Timespec where
  sec : Int
  nsec : Int
  nonneg : 0 ≤ nsec
  small : nsec < 10 ^ 9

/-- The nanoseconds from one time to another. -/
def Timespec.since (now last : Timespec) : Int := 10 ^ 9 * (now.sec - last.sec) + (now.nsec - last.nsec)

structure DomainInfo where
  nrVirtCpu : UInt16
  cpuTime : UInt64
  realTime : Timespec
  cpuUsage : Rat

structure MemoryStats where
  total : UInt64
  unused : UInt64
  usage : Rat

structure DiskInfo where
  rdBytes : Int64
  wrBytes : Int64
  rdSpeed : Rat
  wrSpeed : Rat
  realTime : Timespec

structure NetworkInfo where
  rxBytes : Int64
  txBytes : Int64
  rxSpeed : Rat
  txSpeed : Rat
  realTime : Timespec

structure DomMonitorData where
  domInfo : DomainInfo
  memStats : MemoryStats
  diskStats : OrdMap Bytes DiskInfo
  netStats : OrdMap Bytes NetworkInfo

/-- What is worked out on the way: the integers with their exact values,
what is divided by, and the rates. -/
structure Arith where
  integers : List (Int × Int)
  divisors : List Int
  rates : List Rat

namespace Arith

def append (a b : Arith) : Arith := ⟨a.integers ++ b.integers, a.divisors ++ b.divisors, a.rates ++ b.rates⟩

def sum (parts : List Arith) : Arith := parts.foldr append ⟨[], [], []⟩

/-- No integer overflows, nothing is divided by zero, and no rate is
negative. -/
structure Exact (a : Arith) : Prop where
  integers : ∀ pair ∈ a.integers, pair.1 = pair.2
  divisors : ∀ divisor ∈ a.divisors, divisor ≠ 0
  rates : ∀ rate ∈ a.rates, 0 ≤ rate

end Arith

/-- The quotients are those of `float` without its rounding. -/
def DomainInfo.calculatorUsage (now last : DomainInfo) : DomainInfo × Arith :=
  let cpuExact : Int := ((now.cpuTime.toNat : Int) - last.cpuTime.toNat).tdiv 1000
  let cpuDiff := toInt32 ((now.cpuTime - last.cpuTime).toNat / 1000 : Nat)
  if cpuDiff > 0 then
    let realExact :=
      1000000 * (now.realTime.sec - last.realTime.sec) + (now.realTime.nsec - last.realTime.nsec).tdiv 1000
    let realDiff := toInt32 realExact
    let usage : Rat := toInt32 (100 * cpuDiff) / realDiff / now.nrVirtCpu.toNat
    ({ now with cpuUsage := usage },
      ⟨[(cpuDiff, cpuExact), (realDiff, realExact), (toInt32 (100 * cpuDiff), 100 * cpuExact)],
        [realDiff, now.nrVirtCpu.toNat], [usage]⟩)
  else ({ now with cpuUsage := 0 }, ⟨[(cpuDiff, cpuExact)], [], [0]⟩)

def MemoryStats.calculatorUsage (now _last : MemoryStats) : MemoryStats × Arith :=
  let usage : Rat := 100 * (now.total - now.unused).toNat / now.total.toNat
  ({ now with usage := usage }, ⟨[], [now.total.toNat], [usage]⟩)

/-- Two counters and the time of a sample, as disks and interfaces have
them. -/
structure Counters where
  first : Int64
  second : Int64
  realTime : Timespec

/-- The speeds of two counters since another sample. -/
def Counters.speeds (now last : Counters) : Rat × Rat × Arith :=
  let timeExact := now.realTime.sec - last.realTime.sec
  let timeDelta := toInt32 timeExact
  let first : Rat := (now.first - last.first).toInt / timeDelta
  let second : Rat := (now.second - last.second).toInt / timeDelta
  (first, second,
    ⟨[(timeDelta, timeExact), ((now.first - last.first).toInt, now.first.toInt - last.first.toInt),
      ((now.second - last.second).toInt, now.second.toInt - last.second.toInt)], [timeDelta], [first, second]⟩)

def DiskInfo.counters (disk : DiskInfo) : Counters := ⟨disk.rdBytes, disk.wrBytes, disk.realTime⟩

def DiskInfo.calculatorSpeed (now last : DiskInfo) : DiskInfo × Arith :=
  let (rdSpeed, wrSpeed, arith) := now.counters.speeds last.counters
  ({ now with rdSpeed := rdSpeed, wrSpeed := wrSpeed }, arith)

def NetworkInfo.counters (net : NetworkInfo) : Counters := ⟨net.rxBytes, net.txBytes, net.realTime⟩

def NetworkInfo.calculatorSpeed (now last : NetworkInfo) : NetworkInfo × Arith :=
  let (rxSpeed, txSpeed, arith) := now.counters.speeds last.counters
  ({ now with rxSpeed := rxSpeed, txSpeed := txSpeed }, arith)

/-- One kind of device of a sample, of which those are worked out that the
other sample has as well. -/
def calculated {α : Type} (speed : α → α → α × Arith) (now last : OrdMap Bytes α) : OrdMap Bytes α × Arith :=
  (now.filterMap fun name value =>
      match last.find name with
      | none => some value
      | some old => some (speed value old).1,
    .sum (now.entries.filterMap fun entry => (last.find entry.1).map fun old => (speed entry.2 old).2))

def DomMonitorData.calculatorUsageAndSpeed (now last : DomMonitorData) : DomMonitorData × Arith :=
  let domInfo := now.domInfo.calculatorUsage last.domInfo
  let memStats := now.memStats.calculatorUsage last.memStats
  let diskStats := calculated DiskInfo.calculatorSpeed now.diskStats last.diskStats
  let netStats := calculated NetworkInfo.calculatorSpeed now.netStats last.netStats
  (⟨domInfo.1, memStats.1, diskStats.1, netStats.1⟩, .sum [domInfo.2, memStats.2, diskStats.2, netStats.2])

namespace Arith

theorem exact_iff (a : Arith) : a.Exact ↔ (∀ pair ∈ a.integers, pair.1 = pair.2) ∧
    (∀ divisor ∈ a.divisors, divisor ≠ 0) ∧ ∀ rate ∈ a.rates, 0 ≤ rate :=
  ⟨fun ⟨integers, divisors, rates⟩ => ⟨integers, divisors, rates⟩,
    fun ⟨integers, divisors, rates⟩ => ⟨integers, divisors, rates⟩⟩

theorem append_exact_iff (a b : Arith) : (a.append b).Exact ↔ a.Exact ∧ b.Exact := by
  constructor
  · rintro ⟨integers, divisors, rates⟩
    simp only [append, List.forall_mem_append] at integers divisors rates
    exact ⟨⟨integers.1, divisors.1, rates.1⟩, ⟨integers.2, divisors.2, rates.2⟩⟩
  · rintro ⟨⟨integers, divisors, rates⟩, integers', divisors', rates'⟩
    refine ⟨?_, ?_, ?_⟩ <;> simp only [append, List.forall_mem_append]
    · exact ⟨integers, integers'⟩
    · exact ⟨divisors, divisors'⟩
    · exact ⟨rates, rates'⟩

theorem sum_exact_iff (parts : List Arith) : (sum parts).Exact ↔ ∀ part ∈ parts, part.Exact := by
  induction parts with
  | nil => exact ⟨fun _ => List.forall_mem_nil _, fun _ => ⟨List.forall_mem_nil _, List.forall_mem_nil _,
      List.forall_mem_nil _⟩⟩
  | cons part parts ih =>
    rw [List.forall_mem_cons, ← ih]
    exact append_exact_iff part (sum parts)

end Arith

theorem toInt32_eq_self_iff {z : Int} : toInt32 z = z ↔ -2 ^ 31 ≤ z ∧ z < 2 ^ 31 := by
  rw [toInt32, Int.bmod_eq_iff (by decide)]
  norm_num

/-- The counters can be told from each other: the samples are a second or
more apart on the clock, and no difference is too large. -/
def Counters.Apart (now last : Counters) : Prop :=
  0 < now.realTime.sec - last.realTime.sec ∧ now.realTime.sec - last.realTime.sec < 2 ^ 31 ∧
    now.first.toInt - last.first.toInt < 2 ^ 63 ∧ now.second.toInt - last.second.toInt < 2 ^ 63

/-- The sample is not earlier, and no counter decreases. -/
def Counters.Follows (now last : Counters) : Prop :=
  0 ≤ now.realTime.since last.realTime ∧ last.first.toInt ≤ now.first.toInt ∧ last.second.toInt ≤ now.second.toInt

theorem since_sec {now last : Timespec} (later : 0 ≤ now.since last) : 0 ≤ now.sec - last.sec := by
  have nowSmall := now.small
  have lastNonneg := last.nonneg
  unfold Timespec.since at later
  omega

theorem sub_exact_iff {a b : Int64} (le : b.toInt ≤ a.toInt) : (a - b).toInt = a.toInt - b.toInt ↔
    a.toInt - b.toInt < 2 ^ 63 := by
  rw [Int64.toInt_sub, Int.bmod_eq_iff (by decide)]
  norm_num
  omega

/-- What the three lists say for the speeds of two counters. -/
theorem Counters.exact_iff {now last : Counters} : (now.speeds last).2.2.Exact ↔
    (toInt32 (now.realTime.sec - last.realTime.sec) = now.realTime.sec - last.realTime.sec ∧
      (now.first - last.first).toInt = now.first.toInt - last.first.toInt ∧
      (now.second - last.second).toInt = now.second.toInt - last.second.toInt) ∧
    toInt32 (now.realTime.sec - last.realTime.sec) ≠ 0 ∧
    0 ≤ ((now.first - last.first).toInt / toInt32 (now.realTime.sec - last.realTime.sec) : Rat) ∧
    0 ≤ ((now.second - last.second).toInt / toInt32 (now.realTime.sec - last.realTime.sec) : Rat) := by
  rw [Arith.exact_iff]
  simp only [speeds, List.forall_mem_cons, List.not_mem_nil, false_implies, implies_true, and_true]

theorem Counters.speeds_exact_iff {now last : Counters} (follows : now.Follows last) :
    (now.speeds last).2.2.Exact ↔ now.Apart last := by
  obtain ⟨later, first, second⟩ := follows
  have seconds := since_sec later
  rw [Counters.exact_iff]
  constructor
  · rintro ⟨⟨time, firstExact, secondExact⟩, divisor, -⟩
    rw [time] at divisor
    exact ⟨by omega, (toInt32_eq_self_iff.mp time).2, (sub_exact_iff first).mp firstExact,
      (sub_exact_iff second).mp secondExact⟩
  · rintro ⟨apart, small, firstSmall, secondSmall⟩
    have time : toInt32 (now.realTime.sec - last.realTime.sec) = now.realTime.sec - last.realTime.sec :=
      toInt32_eq_self_iff.mpr ⟨by omega, small⟩
    have firstExact := (sub_exact_iff first).mpr firstSmall
    have secondExact := (sub_exact_iff second).mpr secondSmall
    rw [time, firstExact, secondExact]
    refine ⟨⟨rfl, rfl, rfl⟩, by omega, div_nonneg ?_ ?_, div_nonneg ?_ ?_⟩
    · exact_mod_cast Int.sub_nonneg_of_le first
    · exact_mod_cast seconds
    · exact_mod_cast Int.sub_nonneg_of_le second
    · exact_mod_cast seconds

/-- The samples of the processor are later, and its time grows by at most
that of all processors. -/
def DomainInfo.Follows (now last : DomainInfo) : Prop :=
  0 ≤ now.realTime.since last.realTime ∧ last.cpuTime.toNat ≤ now.cpuTime.toNat ∧
    (now.cpuTime.toNat - last.cpuTime.toNat : Int) ≤ now.nrVirtCpu.toNat * now.realTime.since last.realTime

/-- The microseconds of the processor and of the clock. -/
def DomainInfo.cpuMicros (now last : DomainInfo) : Nat := (now.cpuTime.toNat - last.cpuTime.toNat) / 1000

def DomainInfo.realMicros (now last : DomainInfo) : Int :=
  1000000 * (now.realTime.sec - last.realTime.sec) + (now.realTime.nsec - last.realTime.nsec).tdiv 1000

/-- The processor time grew by less than a microsecond, or by less than 21.5
seconds while at least a microsecond and less than 36 minutes went by. -/
def DomainInfo.Apart (now last : DomainInfo) : Prop :=
  now.cpuMicros last = 0 ∨
    100 * now.cpuMicros last < 2 ^ 31 ∧ 0 < now.realMicros last ∧ now.realMicros last < 2 ^ 31

theorem realMicros_nonneg {now last : DomainInfo} (later : 0 ≤ now.realTime.since last.realTime) :
    0 ≤ now.realMicros last := by
  have seconds := since_sec later
  have nowNonneg := now.realTime.nonneg
  have nowSmall := now.realTime.small
  have lastNonneg := last.realTime.nonneg
  have lastSmall := last.realTime.small
  unfold Timespec.since at later
  unfold DomainInfo.realMicros
  rcases Int.lt_or_le (now.realTime.nsec - last.realTime.nsec) 0 with less | least
  · have turned := Int.neg_tdiv (a := last.realTime.nsec - now.realTime.nsec) (b := 1000)
    have quotient : (last.realTime.nsec - now.realTime.nsec).tdiv 1000 =
      (last.realTime.nsec - now.realTime.nsec) / 1000 :=
      Int.tdiv_eq_ediv_of_nonneg (by omega)
    rw [Int.neg_sub, quotient] at turned
    omega
  · rw [Int.tdiv_eq_ediv_of_nonneg least]
    omega

theorem DomainInfo.calculatorUsage_exact_iff {now last : DomainInfo} (follows : now.Follows last) :
    (now.calculatorUsage last).2.Exact ↔ now.Apart last := by
  obtain ⟨later, grows, most⟩ := follows
  have clock := realMicros_nonneg later
  have difference : (now.cpuTime - last.cpuTime).toNat = now.cpuTime.toNat - last.cpuTime.toNat :=
    UInt64.toNat_sub_of_le _ _ (UInt64.le_iff_toNat_le.mpr grows)
  have exact : ((now.cpuTime.toNat : Int) - last.cpuTime.toNat).tdiv 1000 = now.cpuMicros last := by
    rw [Int.tdiv_eq_ediv_of_nonneg (by omega)]
    unfold DomainInfo.cpuMicros
    omega
  have usage : now.calculatorUsage last = if toInt32 (now.cpuMicros last) > 0
      then ({ now with
          cpuUsage := toInt32 (100 * toInt32 (now.cpuMicros last)) / toInt32 (now.realMicros last) /
            now.nrVirtCpu.toNat },
        ⟨[(toInt32 (now.cpuMicros last), now.cpuMicros last), (toInt32 (now.realMicros last), now.realMicros last),
          (toInt32 (100 * toInt32 (now.cpuMicros last)), 100 * now.cpuMicros last)],
          [toInt32 (now.realMicros last), now.nrVirtCpu.toNat],
          [toInt32 (100 * toInt32 (now.cpuMicros last)) / toInt32 (now.realMicros last) / now.nrVirtCpu.toNat]⟩)
      else ({ now with cpuUsage := 0 }, ⟨[(toInt32 (now.cpuMicros last), now.cpuMicros last)], [], [0]⟩) := by
    simp only [DomainInfo.calculatorUsage, difference, exact, DomainInfo.realMicros]
    rfl
  rw [usage]
  by_cases taken : toInt32 (now.cpuMicros last) > 0
  · rw [if_pos taken, Arith.exact_iff]
    simp only [List.forall_mem_cons, List.not_mem_nil, false_implies, implies_true, and_true]
    constructor
    · rintro ⟨⟨cpu, real, percent⟩, ⟨divisor, -⟩, -⟩
      rw [cpu] at percent taken
      rw [real] at divisor
      have fits := (toInt32_eq_self_iff.mp percent).2
      exact Or.inr ⟨by omega, by omega, (toInt32_eq_self_iff.mp real).2⟩
    · rintro (none | ⟨percentSmall, positive, realSmall⟩)
      · rw [none] at taken
        exact absurd taken (by decide)
      · have cpu : toInt32 (now.cpuMicros last) = now.cpuMicros last := toInt32_eq_self_iff.mpr ⟨by omega, by omega⟩
        have real : toInt32 (now.realMicros last) = now.realMicros last :=
          toInt32_eq_self_iff.mpr ⟨by omega, realSmall⟩
        have percent : toInt32 (100 * (now.cpuMicros last : Int)) = 100 * now.cpuMicros last :=
          toInt32_eq_self_iff.mpr ⟨by omega, by omega⟩
        have processors : (now.nrVirtCpu.toNat : Int) ≠ 0 := by
          intro none
          rw [none, Int.zero_mul] at most
          rw [cpu] at taken
          unfold DomainInfo.cpuMicros at taken
          omega
        have grown : 0 ≤ 100 * (now.cpuMicros last : Int) := by omega
        rw [cpu, real, percent]
        refine ⟨⟨rfl, rfl, rfl⟩, ⟨by omega, processors⟩, div_nonneg (div_nonneg ?_ ?_) ?_⟩
        · exact Int.cast_nonneg grown
        · exact Int.cast_nonneg clock
        · exact Nat.cast_nonneg _
  · rw [if_neg taken, Arith.exact_iff]
    simp only [List.forall_mem_cons, List.not_mem_nil, false_implies, implies_true, and_true, le_refl]
    constructor
    · intro cpu
      rw [cpu] at taken
      exact Or.inl (by omega)
    · rintro (none | ⟨percentSmall, -, -⟩)
      · exact toInt32_eq_self_iff.mpr ⟨by omega, by omega⟩
      · exact toInt32_eq_self_iff.mpr ⟨by omega, by omega⟩

theorem MemoryStats.calculatorUsage_exact_iff {now last : MemoryStats} :
    (now.calculatorUsage last).2.Exact ↔ now.total.toNat ≠ 0 := by
  rw [Arith.exact_iff]
  simp only [MemoryStats.calculatorUsage, List.forall_mem_cons, List.not_mem_nil, false_implies,
    implies_true, and_true, true_and, Nat.cast_ne_zero]
  exact ⟨fun both => both.1, fun some => ⟨some, div_nonneg (by positivity) (by positivity)⟩⟩

theorem calculated_exact_iff {α : Type} {speed : α → α → α × Arith} {now last : OrdMap Bytes α} :
    (calculated speed now last).2.Exact ↔
      ∀ name value old, now.find name = some value → last.find name = some old → (speed value old).2.Exact := by
  simp only [calculated, Arith.sum_exact_iff, List.mem_filterMap]
  constructor
  · intro exact name value old found before
    exact exact _ ⟨(name, value), OrdMap.find_eq_some.mp found, by rw [before]; rfl⟩
  · rintro exact part ⟨⟨name, value⟩, member, same⟩
    obtain ⟨old, before, rfl⟩ := Option.map_eq_some_iff.mp same
    exact exact name value old (OrdMap.find_eq_some.mpr member) before

/-- Two samples of one domain, one after the other. -/
structure DomMonitorData.Follows (now last : DomMonitorData) : Prop where
  domInfo : now.domInfo.Follows last.domInfo
  disks : ∀ name disk old, now.diskStats.find name = some disk → last.diskStats.find name = some old →
    disk.counters.Follows old.counters
  nets : ∀ name net old, now.netStats.find name = some net → last.netStats.find name = some old →
    net.counters.Follows old.counters

/-- All that is worked out for two samples is exact and no rate is negative,
just where their processor times, their memory, and each device that both
have allow it: products and differences are cut off to 32 bits on their
way. -/
theorem monitor_exact_iff {now last : DomMonitorData} (follows : now.Follows last) :
    (now.calculatorUsageAndSpeed last).2.Exact ↔
      now.domInfo.Apart last.domInfo ∧ now.memStats.total.toNat ≠ 0 ∧
      (∀ name disk old, now.diskStats.find name = some disk → last.diskStats.find name = some old →
        disk.counters.Apart old.counters) ∧
      (∀ name net old, now.netStats.find name = some net → last.netStats.find name = some old →
        net.counters.Apart old.counters) := by
  have disks : (calculated DiskInfo.calculatorSpeed now.diskStats last.diskStats).2.Exact ↔
      ∀ name disk old, now.diskStats.find name = some disk → last.diskStats.find name = some old →
        disk.counters.Apart old.counters := by
    rw [calculated_exact_iff]
    refine forall₃_congr fun name disk old => forall₂_congr fun found before => ?_
    exact Counters.speeds_exact_iff (follows.disks name disk old found before)
  have nets : (calculated NetworkInfo.calculatorSpeed now.netStats last.netStats).2.Exact ↔
      ∀ name net old, now.netStats.find name = some net → last.netStats.find name = some old →
        net.counters.Apart old.counters := by
    rw [calculated_exact_iff]
    refine forall₃_congr fun name net old => forall₂_congr fun found before => ?_
    exact Counters.speeds_exact_iff (follows.nets name net old found before)
  simp only [DomMonitorData.calculatorUsageAndSpeed, Arith.sum_exact_iff, List.forall_mem_cons, List.not_mem_nil,
    false_implies, implies_true, and_true]
  rw [DomainInfo.calculatorUsage_exact_iff follows.domInfo, MemoryStats.calculatorUsage_exact_iff, disks, nets]

section Example

/-- A domain with one processor and one disk. -/
def sample (sec : Int) (cpuTime : UInt64) (rdBytes : Int64) : DomMonitorData where
  domInfo := ⟨1, cpuTime, ⟨sec, 0, le_rfl, by decide⟩, 0⟩
  memStats := ⟨4096, 1024, 0⟩
  diskStats := .insert .empty [118, 100, 97] ⟨rdBytes, 0, 0, 0, ⟨sec, 0, le_rfl, by decide⟩⟩
  netStats := .empty

theorem sample_disk {sec : Int} {cpuTime : UInt64} {rdBytes : Int64} {name : Bytes} {disk : DiskInfo}
    (found : (sample sec cpuTime rdBytes).diskStats.find name = some disk) :
    disk = ⟨rdBytes, 0, 0, 0, ⟨sec, 0, le_rfl, by decide⟩⟩ := by
  have member :
    (name, disk) ∈ [(([118, 100, 97] : Bytes), (⟨rdBytes, 0, 0, 0, ⟨sec, 0, le_rfl, by decide⟩⟩ : DiskInfo))] :=
    OrdMap.find_eq_some.mp found
  exact congrArg Prod.snd (List.mem_singleton.mp member)

theorem sample_follows {sec last : Int} {cpuTime lastCpu : UInt64} {rdBytes lastBytes : Int64} (later : last ≤ sec)
    (grows : lastCpu.toNat ≤ cpuTime.toNat) (most : (cpuTime.toNat - lastCpu.toNat : Int) ≤ 10 ^ 9 * (sec - last))
    (reads : lastBytes.toInt ≤ rdBytes.toInt) :
    (sample sec cpuTime rdBytes).Follows (sample last lastCpu lastBytes) := by
  refine ⟨⟨?_, grows, ?_⟩, ?_, ?_⟩
  · simp only [sample, Timespec.since]
    omega
  · simp only [sample, Timespec.since, Int.sub_self, Int.add_zero]
    exact most.trans (Int.one_mul _).ge
  · intro name disk old found before
    rw [sample_disk found, sample_disk before]
    refine ⟨?_, reads, le_rfl⟩
    simp only [DiskInfo.counters, Timespec.since]
    omega
  · intro name net old found
    cases found

/-- Half a minute in which the processor worked for one second. -/
theorem monitor_exact_idle :
    ((sample 1030 6000000000 700).calculatorUsageAndSpeed (sample 1000 5000000000 500)).2.Exact := by
  refine (monitor_exact_iff (sample_follows (by decide) (by decide) (by decide) (by decide))).mpr
    ⟨?_, by decide, ?_, ?_⟩
  · exact Or.inr (by decide)
  · intro name disk old found before
    rw [sample_disk found, sample_disk before]
    unfold Counters.Apart
    decide
  · intro name net old found
    cases found

/-- Half a minute in which it was never idle: a hundred times the thirty
million microseconds is no `int`. -/
theorem busy_overflows : (sample 1030 35000000000 500).Follows (sample 1000 5000000000 500) ∧
    ¬ ((sample 1030 35000000000 500).calculatorUsageAndSpeed (sample 1000 5000000000 500)).2.Exact := by
  have follows : (sample 1030 35000000000 500).Follows (sample 1000 5000000000 500) :=
    sample_follows (by decide) (by decide) (by decide) (by decide)
  refine ⟨follows, fun exact => ?_⟩
  simp only [DomMonitorData.calculatorUsageAndSpeed, Arith.sum_exact_iff, List.forall_mem_cons] at exact
  have apart := (DomainInfo.calculatorUsage_exact_iff follows.domInfo).mp exact.1
  exact absurd apart (by unfold DomainInfo.Apart; decide)

end Example

end DbcNode.Monitor
