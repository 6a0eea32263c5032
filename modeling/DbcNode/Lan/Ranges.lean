import DbcNode.Lan.Records
import DbcNode.Lib.Masks

namespace DbcNode

namespace IpRangeHelper
variable {range : IpRangeHelper}

/-- `maximum`, with the count of the shift taken as in `netMask`. -/
def maximum (range : IpRangeHelper) : BitVec 64 := (0xFFFFFFFF#32 >>> (range.bits.toNat % 32)).setWidth 64

def getMaxDHCPLeases (range : IpRangeHelper) : Int := ((range.maximum - 1).setWidth 32).toInt

/-- The addresses of `a.b.c.d/n` are those with the first `n` bits of
`a.b.c.d`: from here on. -/
def network (range : IpRangeHelper) : Nat := roundDown range.ip.toNat (32 - range.bits.toNat)

/-- The last address of the subnet. -/
def broadcast (range : IpRangeHelper) : Nat := range.network + (2 ^ (32 - range.bits.toNat) - 1)

/-- The two addresses, read from their texts, bound a range of hosts of the
subnet, and the leases are as many as its addresses. Nothing wraps around on
the way. -/
structure Fits (range : IpRangeHelper) (ipStart ipEnd : Bytes) : Prop where
  shifts : (32#32 - range.bits).toNat < 32 ∧ range.bits.toNat < 32
  sums : (range.ip &&& range.netMask).toNat + 1 < 2 ^ 32 ∧ 0 < (range.ip ||| ~~~range.netMask).toNat
  leases : 0 < range.maximum.toNat ∧ range.maximum.toNat - 1 < 2 ^ 31
  addresses : ∃ first last, inetPton ipStart = some first ∧ inetPton ipEnd = some last ∧ first.toNat ≤ last.toNat ∧
    range.network < first.toNat ∧ last.toNat < range.broadcast ∧
      range.getMaxDHCPLeases = (last.toNat : Int) - first.toNat + 1

theorem octetOf_decimal : ∀ n < 256, octetOf (decimal n) = some n := by decide +kernel

theorem dot_not_mem_decimal : ∀ n < 256, (46 : UInt8) ∉ decimal n := by decide +kernel

/-- The text of an address is read back. -/
theorem inetPton_inetNtop (ip : BitVec 32) : inetPton (inetNtop ip) = some ip := by
  have octet (place : Nat) : ip.toNat / 256 ^ place % 256 < 256 := Nat.mod_lt _ (by decide)
  have split : (inetNtop ip).splitOn 46 = [decimal (ip.toNat / 256 ^ 3 % 256), decimal (ip.toNat / 256 ^ 2 % 256),
      decimal (ip.toNat / 256 ^ 1 % 256), decimal (ip.toNat / 256 ^ 0 % 256)] := by
    have joined : inetNtop ip = [46].intercalate [decimal (ip.toNat / 256 ^ 3 % 256),
      decimal (ip.toNat / 256 ^ 2 % 256),
        decimal (ip.toNat / 256 ^ 1 % 256), decimal (ip.toNat / 256 ^ 0 % 256)] := by
      simp [inetNtop, List.intercalate, List.intersperse]
    rw [joined]
    refine List.splitOn_intercalate 46 ?_ (by simp)
    intro text member
    simp only [List.mem_cons, List.not_mem_nil, or_false] at member
    rcases member with rfl | rfl | rfl | rfl <;> exact dot_not_mem_decimal _ (octet _)
  unfold inetPton
  rw [split]
  simp only [List.map_cons, List.map_nil, octetOf_decimal _ (octet _)]
  have bound := ip.isLt
  refine congrArg some (BitVec.eq_of_toNat_eq ?_)
  rw [BitVec.toNat_ofNat]
  omega

/-- The number of bits that the mask leaves to the hosts. -/
theorem netMask_eq (low : 1 ≤ range.bits.toNat) (high : range.bits.toNat ≤ 32) :
    range.netMask = BitVec.allOnes 32 <<< (32 - range.bits.toNat) := by
  have count : (32#32 - range.bits).toNat = 32 - range.bits.toNat := by
    rw [BitVec.toNat_sub]
    change (2 ^ 32 - range.bits.toNat + 32) % 2 ^ 32 = _
    omega
  unfold netMask
  rw [count, Nat.mod_eq_of_lt (by omega)]
  rfl

theorem maximum_toNat (high : range.bits.toNat < 32) : range.maximum.toNat = 2 ^ (32 - range.bits.toNat) - 1 := by
  have size : (2 : Nat) ^ 32 = 2 ^ (32 - range.bits.toNat) * 2 ^ range.bits.toNat := by
    rw [← pow_add]
    congr 1
    omega
  have positive : 0 < 2 ^ range.bits.toNat := Nat.two_pow_pos _
  unfold maximum
  rw [Nat.mod_eq_of_lt high, BitVec.toNat_setWidth, BitVec.toNat_ushiftRight, Nat.shiftRight_eq_div_pow]
  have quotient : (0xFFFFFFFF#32).toNat / 2 ^ range.bits.toNat = 2 ^ (32 - range.bits.toNat) - 1 := by
    have value : (0xFFFFFFFF#32).toNat = 2 ^ range.bits.toNat * 2 ^ (32 - range.bits.toNat) - (0 + 1) := by
      rw [mul_comm, ← size]
      rfl
    rw [value, Nat.mul_sub_div _ _ _ (by positivity), Nat.zero_div]
  rw [quotient]
  refine Nat.mod_eq_of_lt ?_
  have small : 2 ^ (32 - range.bits.toNat) ≤ 2 ^ 32 := Nat.pow_le_pow_right (by decide) (by omega)
  omega

theorem getMaxDHCPLeases_eq (low : 1 ≤ range.bits.toNat) (high : range.bits.toNat < 32) :
    range.getMaxDHCPLeases = (2 ^ (32 - range.bits.toNat) : Nat) - 2 := by
  have two : 2 ≤ 2 ^ (32 - range.bits.toNat) := Nat.le_self_pow (by omega) 2
  have small : 2 ^ (32 - range.bits.toNat) ≤ 2 ^ 31 := Nat.pow_le_pow_right (by decide) (by omega)
  have maximum := maximum_toNat high
  have value : ((range.maximum - 1).setWidth 32).toNat = 2 ^ (32 - range.bits.toNat) - 2 := by
    rw [BitVec.toNat_setWidth, BitVec.toNat_sub, maximum]
    change (2 ^ 64 - 1 + (2 ^ (32 - range.bits.toNat) - 1)) % 2 ^ 64 % 2 ^ 32 = _
    omega
  unfold getMaxDHCPLeases
  rw [BitVec.toInt_eq_toNat_of_lt (by rw [value]; omega), value]
  omega

/-- Between one and thirty bits the range is the hosts of the subnet. -/
theorem fits_of_bits (low : 1 ≤ range.bits.toNat) (high : range.bits.toNat ≤ 30) :
    range.Fits range.getIpStart range.getIpEnd := by
  have four : 4 ≤ 2 ^ (32 - range.bits.toNat) := by
    have less : 2 ^ 2 ≤ 2 ^ (32 - range.bits.toNat) := Nat.pow_le_pow_right (by decide) (by omega)
    exact less
  have small : 2 ^ (32 - range.bits.toNat) ≤ 2 ^ 31 := Nat.pow_le_pow_right (by decide) (by omega)
  have mask := netMask_eq low (by omega : range.bits.toNat ≤ 32)
  have bottom : (range.ip &&& range.netMask).toNat = range.network := by rw [mask, toNat_and_mask]; rfl
  have top : (range.ip ||| ~~~range.netMask).toNat = range.broadcast := by
    rw [mask, toNat_or_not_mask _ (by omega)]
    rfl
  have below := (range.ip ||| ~~~range.netMask).isLt
  rw [top] at below
  have span : range.broadcast = range.network + (2 ^ (32 - range.bits.toNat) - 1) := rfl
  have maximum := @maximum_toNat range (by omega)
  have first : ((range.ip &&& range.netMask) + 1).toNat = range.network + 1 := by
    rw [BitVec.toNat_add, bottom]
    exact Nat.mod_eq_of_lt (by simp; omega)
  have last : ((range.ip ||| ~~~range.netMask) - 1).toNat = range.broadcast - 1 := by
    rw [BitVec.toNat_sub, top]
    change (2 ^ 32 - 1 + range.broadcast) % 2 ^ 32 = _
    omega
  refine ⟨⟨?_, by omega⟩, by rw [bottom, top]; omega, by rw [maximum]; omega,
    _, _, inetPton_inetNtop _, inetPton_inetNtop _, ?_, ?_, ?_, ?_⟩
  · rw [BitVec.toNat_sub]
    change (2 ^ 32 - range.bits.toNat + 32) % 2 ^ 32 < 32
    omega
  · rw [first, last]
    omega
  · rw [first]
    omega
  · rw [last]
    omega
  · rw [first, last, getMaxDHCPLeases_eq low (by omega)]
    omega

/-- With thirty-one bits the two addresses change places, and with none or
more than that a shift is too far. -/
theorem fits_iff : range.Fits range.getIpStart range.getIpEnd ↔ 1 ≤ range.bits.toNat ∧ range.bits.toNat ≤ 30 := by
  constructor
  · rintro ⟨⟨left, right⟩, -, -, first, last, -, -, ordered, above, below, -⟩
    have low : 1 ≤ range.bits.toNat := by
      by_contra zero
      have none : range.bits = 0#32 := BitVec.eq_of_toNat_eq (by simp; omega)
      rw [none] at left
      exact absurd left (by decide)
    refine ⟨low, ?_⟩
    by_contra more
    have all : range.bits.toNat = 31 := by omega
    unfold broadcast at below
    rw [all] at below
    omega
  · rintro ⟨low, high⟩
    exact fits_of_bits low high

end IpRangeHelper

namespace LanNode
open IpRangeHelper
variable {s next : LanNode} {w : LanWorld} {name ipCidr wallet : Bytes} {sent : List LanMessage}

/-- The record of a new network has the ends of the range of its text. -/
theorem createNetworkServer_range (made : s.createNetworkServer w name ipCidr wallet = .ok (next, sent)) :
    ∃ range info, ofCidr ipCidr = .ok range ∧ next.networks.find name = some info ∧
      info.ipStart = range.getIpStart ∧ info.ipEnd = range.getIpEnd := by
  unfold createNetworkServer at made
  split at made
  · cases made
  · split at made
    · cases made
    · split at made
      · cases made
      · split at made
        · cases made
        · split at made
          · cases made
          · split at made
            · cases made
            · obtain ⟨range, read, made⟩ := except_bind_ok.mp made
              obtain ⟨_, _, made⟩ := except_bind_ok.mp made
              obtain ⟨_, _, made⟩ := except_bind_ok.mp made
              dsimp only at made
              split at made
              · cases made
                exact ⟨range, _, read, (find_put ..).trans (if_pos rfl), rfl, rfl⟩
              · cases made

/-- The range of a network that was made is the hosts of its subnet just
where the number after the slash is between one and thirty. The numbers are
those of 32 bits, with shifts as the source has them. -/
theorem range_fits_iff (made : s.createNetworkServer w name ipCidr wallet = .ok (next, sent)) :
    ∃ range info, ofCidr ipCidr = .ok range ∧ next.networks.find name = some info ∧
      (range.Fits info.ipStart info.ipEnd ↔ 1 ≤ range.bits.toNat ∧ range.bits.toNat ≤ 30) := by
  obtain ⟨range, info, read, found, start, last⟩ := createNetworkServer_range made
  refine ⟨range, info, read, found, ?_⟩
  rw [start, last]
  exact fits_iff

/-- A node without networks makes one. -/
def firstNetwork (ipCidr : Bytes) : Except Bytes LanSent :=
  (LanNode.fresh (str "a")).createNetworkServer (.fine 7 [5]) (str "abcdef") ipCidr (str "w")

theorem firstNetwork_info {test : NetworkInfo → Bool}
    (ran : ((firstNetwork ipCidr).toOption.bind
      (fun done => done.1.networks.find (str "abcdef"))).any test = true) :
    ∃ next sent info, firstNetwork ipCidr = .ok (next, sent) ∧ next.networks.find (str "abcdef") = some info ∧
      test info = true := by
  obtain ⟨info, found, passes⟩ := (Option.any_eq_true _ _).mp ran
  obtain ⟨⟨next, sent⟩, made, here⟩ := Option.bind_eq_some_iff.mp found
  cases result : firstNetwork ipCidr with
  | error text =>
    rw [result] at made
    cases made
  | ok done =>
    rw [result] at made
    cases made
    exact ⟨next, sent, info, rfl, here, passes⟩

/-- A subnet with eight bits for its hosts. -/
theorem range_fits_24 : ∃ (range : IpRangeHelper) (info : NetworkInfo), ofCidr (str "10.0.0.0/24") = .ok range ∧
    info.ipStart = str "10.0.0.1" ∧ info.ipEnd = str "10.0.0.254" ∧ range.Fits info.ipStart info.ipEnd := by
  have ran : ((firstNetwork (str "10.0.0.0/24")).toOption.bind
    (fun done => done.1.networks.find (str "abcdef"))).any
      (fun info => info.ipStart = str "10.0.0.1" ∧ info.ipEnd = str "10.0.0.254") = true := by decide +kernel
  have bits : (ofCidr (str "10.0.0.0/24")).toOption.any (fun range => 1 ≤ range.bits.toNat ∧
    range.bits.toNat ≤ 30) = true := by
    decide +kernel
  obtain ⟨next, sent, found, made, here, texts⟩ := firstNetwork_info ran
  obtain ⟨range, info, read, there, fits⟩ := range_fits_iff made
  obtain ⟨start, last⟩ := of_decide_eq_true texts
  rw [read] at bits
  cases there.symm.trans here
  exact ⟨range, found, read, start, last, fits.mpr (of_decide_eq_true bits)⟩

/-- A subnet of two addresses is accepted, and its range starts behind its
end. -/
theorem range_of_two_addresses :
    ¬ ∀ (s next : LanNode) (w : LanWorld) (name ipCidr wallet : Bytes) (sent : List LanMessage),
    s.createNetworkServer w name ipCidr wallet = .ok (next, sent) → ∃ range info, ofCidr ipCidr = .ok range ∧
      next.networks.find name = some info ∧ range.Fits info.ipStart info.ipEnd := by
  intro fits
  have ran : ((firstNetwork (str "10.0.0.0/31")).toOption.bind
    (fun done => done.1.networks.find (str "abcdef"))).any
      (fun info => inetPton info.ipStart = some 167772161#32 ∧ inetPton info.ipEnd = some 167772160#32) = true := by
    decide +kernel
  obtain ⟨next, sent, found, made, here, texts⟩ := firstNetwork_info ran
  obtain ⟨range, info, -, there, -, -, -, first, last, start, end_, ordered, -⟩ := fits _ _ _ _ _ _ _ made
  cases there.symm.trans here
  obtain ⟨low, high⟩ := of_decide_eq_true texts
  cases low.symm.trans start
  cases high.symm.trans end_
  exact absurd ordered (by decide)

end LanNode

end DbcNode
