import Mathlib.Data.Nat.Bitwise
import Mathlib.Tactic.Tauto

/-!
# The filter on resolved addresses

* `Ipv4Addr`, `Ipv6Addr`, `IpAddr` — addresses, with the tests of the standard library.
* `blockedRange`, `filterIp`, `pickSafeIp` — the filter as the connector computes it.
* `Cidr` — a range of addresses by base and length; `blockedV4Nets` and `blockedV6Nets` list the
  ranges that must not be reached. `blockedRange_eq_none_iff`: an address passes exactly when it
  lies in none of them, neither itself nor as an IPv4 address inside an IPv6 one.
-/

set_option linter.unusedSectionVars false

namespace Rollout.Http

/-! ## Addresses -/

/-- Source: `rollout-harness-tool/src/http/connector.rs` (`std::net::Ipv4Addr`). Kind: D -/
structure Ipv4Addr where
  /-- Its bits. -/
  bits : BitVec 32
deriving DecidableEq

/-- Source: `rollout-harness-tool/src/http/connector.rs` (`std::net::Ipv6Addr`). Kind: D -/
structure Ipv6Addr where
  /-- Its bits. -/
  bits : BitVec 128
deriving DecidableEq

/-- Source: `rollout-harness-tool/src/http/connector.rs` (`std::net::IpAddr`). Kind: D -/
inductive IpAddr
  | v4 (addr : Ipv4Addr)
  | v6 (addr : Ipv6Addr)
deriving DecidableEq

namespace Ipv4Addr

/-- The address of four octets. Source: none: infrastructure. Kind: D -/
def new (a b c d : Nat) : Ipv4Addr := ⟨BitVec.ofNat 32 (((a * 256 + b) * 256 + c) * 256 + d)⟩

/-- Its octets. Source: `rollout-harness-tool/src/http/connector.rs` (`octets`). Kind: D -/
def octet (v4 : Ipv4Addr) (i : Nat) : Nat := v4.bits.toNat / 256 ^ (3 - i) % 256

/-- Source: `rollout-harness-tool/src/http/connector.rs` `blocked_v4` (`is_loopback`). Kind: D -/
def isLoopback (v4 : Ipv4Addr) : Bool := v4.octet 0 == 127

/-- Source: `rollout-harness-tool/src/http/connector.rs` `blocked_v4` (`is_unspecified`). Kind: D -/
def isUnspecified (v4 : Ipv4Addr) : Bool := v4.bits == 0

/-- Source: `rollout-harness-tool/src/http/connector.rs` `blocked_v4` (`is_link_local`). Kind: D -/
def isLinkLocal (v4 : Ipv4Addr) : Bool := v4.octet 0 == 169 && v4.octet 1 == 254

/-- Source: `rollout-harness-tool/src/http/connector.rs` `blocked_v4` (`is_private`). Kind: D -/
def isPrivate (v4 : Ipv4Addr) : Bool :=
  v4.octet 0 == 10 || (v4.octet 0 == 172 && (decide (16 ≤ v4.octet 1) && decide (v4.octet 1 ≤ 31))) ||
    (v4.octet 0 == 192 && v4.octet 1 == 168)

/-- Source: `rollout-harness-tool/src/http/connector.rs` `blocked_v4` (`is_multicast`). Kind: D -/
def isMulticast (v4 : Ipv4Addr) : Bool := decide (224 ≤ v4.octet 0) && decide (v4.octet 0 ≤ 239)

/-- Source: `rollout-harness-tool/src/http/connector.rs` `blocked_v4` (`is_broadcast`). Kind: D -/
def isBroadcast (v4 : Ipv4Addr) : Bool := v4 == new 255 255 255 255

end Ipv4Addr

namespace Ipv6Addr

/-- Its segments. Source: `rollout-harness-tool/src/http/connector.rs` (`segments`). Kind: D -/
def segment (v6 : Ipv6Addr) (i : Nat) : Nat := v6.bits.toNat / 65536 ^ (7 - i) % 65536

/-- Source: `rollout-harness-tool/src/http/connector.rs` `blocked_v6` (`is_loopback`). Kind: D -/
def isLoopback (v6 : Ipv6Addr) : Bool := v6.bits == 1

/-- Source: `rollout-harness-tool/src/http/connector.rs` `blocked_v6` (`is_unspecified`). Kind: D -/
def isUnspecified (v6 : Ipv6Addr) : Bool := v6.bits == 0

/-- Source: `rollout-harness-tool/src/http/connector.rs` `blocked_v6` (`is_multicast`). Kind: D -/
def isMulticast (v6 : Ipv6Addr) : Bool := v6.segment 0 &&& 0xff00 == 0xff00

/-- The IPv4 address inside an IPv4-mapped or -compatible one: five zero segments, one that is zero
or all ones, and the address.
Source: `rollout-harness-tool/src/http/connector.rs` `blocked_range` (`to_ipv4`). Kind: D -/
def toIpv4 (v6 : Ipv6Addr) : Option Ipv4Addr :=
  if v6.segment 0 = 0 ∧ v6.segment 1 = 0 ∧ v6.segment 2 = 0 ∧ v6.segment 3 = 0 ∧ v6.segment 4 = 0 ∧
      (v6.segment 5 = 0 ∨ v6.segment 5 = 0xffff) then
    some (Ipv4Addr.new (v6.segment 6 / 256) (v6.segment 6 % 256) (v6.segment 7 / 256)
      (v6.segment 7 % 256))
  else none

end Ipv6Addr

/-! ## The filter -/

/-- Source: `rollout-harness-tool/src/http/connector.rs` `BlockReason`. Kind: D -/
inductive BlockReason
  | privateRange
  | cgnat
  | linkLocal
  | loopback
  | ipv6LinkLocal
  | ipv6UniqueLocal
  | multicast
  | unspecified
  | mappedV4
  | notAllowlisted
deriving DecidableEq

/-- Source: `rollout-harness-tool/src/http/connector.rs` `BlockReason::as_str`. Kind: D -/
def BlockReason.asStr : BlockReason → String
  | .privateRange => "RFC1918 private address"
  | .cgnat => "CGNAT shared address space"
  | .linkLocal => "link-local / cloud IMDS (169.254/16)"
  | .loopback => "loopback address"
  | .ipv6LinkLocal => "IPv6 link-local (fe80::/10)"
  | .ipv6UniqueLocal => "IPv6 unique-local (fc00::/7)"
  | .multicast => "multicast address"
  | .unspecified => "unspecified address"
  | .mappedV4 => "IPv4-mapped IPv6 wrapping a blocked address"
  | .notAllowlisted => "resolved IP not in egress allowlist"

/-- Source: `rollout-harness-tool/src/http/connector.rs` `blocked_v4`. Kind: D -/
def blockedV4 (v4 : Ipv4Addr) : Option BlockReason :=
  if v4.isLoopback then some .loopback
  else if v4.isUnspecified then some .unspecified
  else if v4.isLinkLocal then some .linkLocal
  else if v4.isPrivate then some .privateRange
  else if v4.isMulticast || v4.isBroadcast then some .multicast
  else if v4.octet 0 == 100 && (decide (64 ≤ v4.octet 1) && decide (v4.octet 1 ≤ 127)) then some .cgnat
  else none

/-- Source: `rollout-harness-tool/src/http/connector.rs` `blocked_v6`. Kind: D -/
def blockedV6 (v6 : Ipv6Addr) : Option BlockReason :=
  if v6.isLoopback then some .loopback
  else if v6.isUnspecified then some .unspecified
  else if v6.isMulticast then some .multicast
  else if v6.segment 0 &&& 0xffc0 == 0xfe80 then some .ipv6LinkLocal
  else if v6.segment 0 &&& 0xfe00 == 0xfc00 then some .ipv6UniqueLocal
  else none

/-- Why an address must not be connected to.
Source: `rollout-harness-tool/src/http/connector.rs` `blocked_range`. Kind: D -/
def blockedRange : IpAddr → Option BlockReason
  | .v4 v4 => blockedV4 v4
  | .v6 v6 =>
      if v6.toIpv4.any fun v4 => (blockedV4 v4).isSome then some .mappedV4 else blockedV6 v6

/-- Source: `rollout-harness-tool/src/http/connector.rs` `filter_ip`. Kind: D -/
def filterIp (ip : IpAddr) (allowlist : List IpAddr) (allowLoopback : Bool) : Option BlockReason :=
  let gate := if !allowlist.isEmpty && !decide (ip ∈ allowlist) then some .notAllowlisted else none
  match blockedRange ip with
  | some reason => if allowLoopback && reason == .loopback then gate else some reason
  | none => gate

/-- The loop of `pickSafeIp` with the last reason.
Source: `rollout-harness-tool/src/http/connector.rs` `pick_safe_ip`. Kind: D -/
def pickFrom (allowlist : List IpAddr) (allowLoopback : Bool) :
    BlockReason → List IpAddr → Except BlockReason IpAddr
  | last, [] => .error last
  | _, ip :: ips => match filterIp ip allowlist allowLoopback with
      | none => .ok ip
      | some reason => pickFrom allowlist allowLoopback reason ips

/-- The first safe address. Source: `rollout-harness-tool/src/http/connector.rs` `pick_safe_ip`.
Kind: D -/
def pickSafeIp (ips allowlist : List IpAddr) (allowLoopback : Bool) : Except BlockReason IpAddr :=
  pickFrom allowlist allowLoopback .unspecified ips

/-! ## Ranges -/

/-- A range of addresses: those that share the first bits with a base.
Source: none: infrastructure. Kind: D -/
structure Cidr (w : Nat) where
  /-- The base. -/
  base : BitVec w
  /-- How many bits are shared. -/
  len : Nat

/-- Source: none: infrastructure. Kind: D -/
def Cidr.Contains {w : Nat} (net : Cidr w) (addr : BitVec w) : Prop :=
  addr.toNat / 2 ^ (w - net.len) = net.base.toNat / 2 ^ (w - net.len)

/-- 127/8, 0.0.0.0, 169.254/16, 10/8, 172.16/12, 192.168/16, 100.64/10, 224/4, 255.255.255.255.
Source: `rollout-harness-tool/src/http/connector.rs` `blocked_v4`. Kind: D -/
def blockedV4Nets : List (Cidr 32) :=
  [⟨0x7f000000, 8⟩, ⟨0x00000000, 32⟩, ⟨0xa9fe0000, 16⟩, ⟨0x0a000000, 8⟩, ⟨0xac100000, 12⟩,
    ⟨0xc0a80000, 16⟩, ⟨0x64400000, 10⟩, ⟨0xe0000000, 4⟩, ⟨0xffffffff, 32⟩]

/-- ::1, ::, fe80::/10, fc00::/7, ff00::/8.
Source: `rollout-harness-tool/src/http/connector.rs` `blocked_v6`. Kind: D -/
def blockedV6Nets : List (Cidr 128) :=
  [⟨1, 128⟩, ⟨0, 128⟩, ⟨0xfe800000000000000000000000000000, 10⟩,
    ⟨0xfc000000000000000000000000000000, 7⟩, ⟨0xff000000000000000000000000000000, 8⟩]

/-- An IPv4 address as an IPv4-compatible IPv6 one: `::a.b.c.d`.
Source: none: infrastructure. Kind: D -/
def Ipv4Addr.compatible (v4 : Ipv4Addr) : Ipv6Addr := ⟨BitVec.ofNat 128 v4.bits.toNat⟩

/-- An IPv4 address as an IPv4-mapped IPv6 one: `::ffff:a.b.c.d`.
Source: none: infrastructure. Kind: D -/
def Ipv4Addr.mapped (v4 : Ipv4Addr) : Ipv6Addr :=
  ⟨BitVec.ofNat 128 (0xffff00000000 + v4.bits.toNat)⟩

/-- The ranges that must not be reached, also from inside an IPv6 address.
Source: `rollout-harness-tool/src/http/connector.rs` `blocked_range`. Kind: D -/
def Blocked : IpAddr → Prop
  | .v4 v4 => ∃ net ∈ blockedV4Nets, net.Contains v4.bits
  | .v6 v6 => (∃ net ∈ blockedV6Nets, net.Contains v6.bits) ∨
      ∃ v4 : Ipv4Addr, (v6 = v4.mapped ∨ v6 = v4.compatible) ∧
        ∃ net ∈ blockedV4Nets, net.Contains v4.bits

/-! ## IPv4 -/

section v4

variable (v4 : Ipv4Addr)

theorem contains_iff {w : Nat} {base : BitVec w} {len : Nat} {addr : BitVec w} :
    (⟨base, len⟩ : Cidr w).Contains addr ↔
      addr.toNat / 2 ^ (w - len) = base.toNat / 2 ^ (w - len) := Iff.rfl

theorem octet_zero : v4.octet 0 = v4.bits.toNat / 16777216 := by
  have := v4.bits.isLt
  unfold Ipv4Addr.octet
  omega

theorem octet_one : v4.octet 1 = v4.bits.toNat / 65536 % 256 := rfl

theorem isLoopback_iff : v4.isLoopback = true ↔ (⟨0x7f000000, 8⟩ : Cidr 32).Contains v4.bits := by
  rw [contains_iff, Ipv4Addr.isLoopback, beq_iff_eq, octet_zero]
  rfl

theorem isUnspecified_iff :
    v4.isUnspecified = true ↔ (⟨0x00000000, 32⟩ : Cidr 32).Contains v4.bits := by
  rw [contains_iff, Ipv4Addr.isUnspecified, beq_iff_eq, BitVec.toNat_eq]
  simp

theorem isLinkLocal_iff :
    v4.isLinkLocal = true ↔ (⟨0xa9fe0000, 16⟩ : Cidr 32).Contains v4.bits := by
  rw [contains_iff, Ipv4Addr.isLinkLocal, Bool.and_eq_true, beq_iff_eq, beq_iff_eq, octet_zero,
    octet_one]
  simp
  omega

theorem isPrivate_iff : v4.isPrivate = true ↔ (⟨0x0a000000, 8⟩ : Cidr 32).Contains v4.bits ∨
    (⟨0xac100000, 12⟩ : Cidr 32).Contains v4.bits ∨
    (⟨0xc0a80000, 16⟩ : Cidr 32).Contains v4.bits := by
  simp only [contains_iff, Ipv4Addr.isPrivate, Bool.or_eq_true, Bool.and_eq_true, beq_iff_eq,
    decide_eq_true_eq]
  rw [octet_zero, octet_one]
  simp
  omega

theorem isMulticast_iff :
    v4.isMulticast = true ↔ (⟨0xe0000000, 4⟩ : Cidr 32).Contains v4.bits := by
  simp only [contains_iff, Ipv4Addr.isMulticast, Bool.and_eq_true, decide_eq_true_eq, octet_zero]
  simp
  omega

theorem isBroadcast_iff :
    v4.isBroadcast = true ↔ (⟨0xffffffff, 32⟩ : Cidr 32).Contains v4.bits := by
  obtain ⟨bits⟩ := v4
  simp [Ipv4Addr.isBroadcast, Ipv4Addr.new, contains_iff, BitVec.toNat_eq]

theorem isCgnat_iff : (v4.octet 0 == 100 && (decide (64 ≤ v4.octet 1) && decide (v4.octet 1 ≤ 127)))
    = true ↔ (⟨0x64400000, 10⟩ : Cidr 32).Contains v4.bits := by
  simp only [contains_iff, Bool.and_eq_true, beq_iff_eq, decide_eq_true_eq]
  rw [octet_zero, octet_one]
  simp
  omega

/-- **An IPv4 address passes exactly outside the blocked ranges.**
Source: `rollout-harness-tool/src/http/connector.rs` `blocked_v4`. Kind: P -/
theorem blockedV4_eq_none_iff :
    blockedV4 v4 = none ↔ ¬ ∃ net ∈ blockedV4Nets, net.Contains v4.bits := by
  have hnets : (∃ net ∈ blockedV4Nets, net.Contains v4.bits) ↔ v4.isLoopback = true ∨
      v4.isUnspecified = true ∨ v4.isLinkLocal = true ∨ v4.isPrivate = true ∨
      (v4.isMulticast = true ∨ v4.isBroadcast = true) ∨ (v4.octet 0 == 100 &&
        (decide (64 ≤ v4.octet 1) && decide (v4.octet 1 ≤ 127))) = true := by
    rw [isLoopback_iff, isUnspecified_iff, isLinkLocal_iff, isPrivate_iff, isMulticast_iff,
      isBroadcast_iff, isCgnat_iff]
    simp only [blockedV4Nets, List.mem_cons, List.not_mem_nil, or_false, exists_eq_or_imp,
      exists_eq_left]
    tauto
  rw [hnets]
  unfold blockedV4
  split_ifs <;> simp_all

end v4

/-! ## IPv6 -/

section v6

variable (v6 : Ipv6Addr)

theorem segment_zero : v6.segment 0 = v6.bits.toNat / 2 ^ 112 := by
  have := v6.bits.isLt
  unfold Ipv6Addr.segment
  omega

/-- The first bits of a 16-bit number. Source: none: infrastructure. Kind: L -/
theorem and_high_bits {n k : Nat} (hn : n < 2 ^ 16) (hk : k ≤ 16) :
    n &&& (2 ^ 16 - 2 ^ k) = n / 2 ^ k * 2 ^ k := by
  have hmask : 2 ^ 16 - 2 ^ k = (2 ^ (16 - k) - 1) * 2 ^ k := by
    rw [Nat.sub_mul, ← Nat.pow_add, Nat.sub_add_cancel hk, Nat.one_mul]
  refine Nat.eq_of_testBit_eq fun i => ?_
  rw [hmask, Nat.testBit_and, Nat.testBit_mul_two_pow, Nat.testBit_mul_two_pow,
    Nat.testBit_two_pow_sub_one, Nat.testBit_div_two_pow]
  by_cases hki : k ≤ i
  · have hadd : i - k + k = i := by omega
    rw [hadd]
    by_cases hi : i < 16
    · have hlt : i - k < 16 - k := by omega
      simp [hki, hlt]
    · have hout : n.testBit i = false :=
        Nat.testBit_lt_two_pow
          (Nat.lt_of_lt_of_le hn (Nat.pow_le_pow_right (by omega) (by omega)))
      simp [hout]
  · simp [hki]

theorem segment_lt (i : Nat) : v6.segment i < 2 ^ 16 := Nat.mod_lt _ (by omega)

theorem v6_isLoopback_iff : v6.isLoopback = true ↔ (⟨1, 128⟩ : Cidr 128).Contains v6.bits := by
  rw [contains_iff, Ipv6Addr.isLoopback, beq_iff_eq, BitVec.toNat_eq]
  simp

theorem v6_isUnspecified_iff :
    v6.isUnspecified = true ↔ (⟨0, 128⟩ : Cidr 128).Contains v6.bits := by
  rw [contains_iff, Ipv6Addr.isUnspecified, beq_iff_eq, BitVec.toNat_eq]
  simp

theorem v6_isMulticast_iff : v6.isMulticast = true ↔
    (⟨0xff000000000000000000000000000000, 8⟩ : Cidr 128).Contains v6.bits := by
  have hmask := and_high_bits (segment_lt v6 0) (k := 8) (by omega)
  rw [contains_iff, Ipv6Addr.isMulticast, beq_iff_eq, show (0xff00 : Nat) = 2 ^ 16 - 2 ^ 8 from rfl,
    hmask, segment_zero]
  simp
  omega

theorem isLinkLocal6_iff : (v6.segment 0 &&& 0xffc0 == 0xfe80) = true ↔
    (⟨0xfe800000000000000000000000000000, 10⟩ : Cidr 128).Contains v6.bits := by
  have hmask := and_high_bits (segment_lt v6 0) (k := 6) (by omega)
  rw [contains_iff, beq_iff_eq, show (0xffc0 : Nat) = 2 ^ 16 - 2 ^ 6 from rfl, hmask, segment_zero]
  simp
  omega

theorem isUniqueLocal6_iff : (v6.segment 0 &&& 0xfe00 == 0xfc00) = true ↔
    (⟨0xfc000000000000000000000000000000, 7⟩ : Cidr 128).Contains v6.bits := by
  have hmask := and_high_bits (segment_lt v6 0) (k := 9) (by omega)
  rw [contains_iff, beq_iff_eq, show (0xfe00 : Nat) = 2 ^ 16 - 2 ^ 9 from rfl, hmask, segment_zero]
  simp
  omega

/-- An IPv6 address passes its own tests exactly outside the blocked ranges.
Source: `rollout-harness-tool/src/http/connector.rs` `blocked_v6`. Kind: P -/
theorem blockedV6_eq_none_iff :
    blockedV6 v6 = none ↔ ¬ ∃ net ∈ blockedV6Nets, net.Contains v6.bits := by
  have hnets : (∃ net ∈ blockedV6Nets, net.Contains v6.bits) ↔ v6.isLoopback = true ∨
      v6.isUnspecified = true ∨ v6.isMulticast = true ∨
      (v6.segment 0 &&& 0xffc0 == 0xfe80) = true ∨ (v6.segment 0 &&& 0xfe00 == 0xfc00) = true := by
    rw [v6_isLoopback_iff, v6_isUnspecified_iff, v6_isMulticast_iff, isLinkLocal6_iff,
      isUniqueLocal6_iff]
    simp only [blockedV6Nets, List.mem_cons, List.not_mem_nil, or_false, exists_eq_or_imp,
      exists_eq_left]
    tauto
  rw [hnets]
  unfold blockedV6
  split_ifs <;> simp_all

/-- The segments before the last two. Source: `rollout-harness-tool/src/http/connector.rs`
`blocked_range` (`to_ipv4`). Kind: P -/
theorem embeds_iff : (v6.segment 0 = 0 ∧ v6.segment 1 = 0 ∧ v6.segment 2 = 0 ∧ v6.segment 3 = 0 ∧
    v6.segment 4 = 0 ∧ (v6.segment 5 = 0 ∨ v6.segment 5 = 0xffff)) ↔
      v6.bits.toNat / 2 ^ 32 = 0xffff ∨ v6.bits.toNat / 2 ^ 32 = 0 := by
  have := v6.bits.isLt
  unfold Ipv6Addr.segment
  omega

theorem low_bits : Ipv4Addr.new (v6.segment 6 / 256) (v6.segment 6 % 256) (v6.segment 7 / 256)
    (v6.segment 7 % 256) = ⟨BitVec.ofNat 32 (v6.bits.toNat % 2 ^ 32)⟩ := by
  have hvalue : ((v6.segment 6 / 256 * 256 + v6.segment 6 % 256) * 256 + v6.segment 7 / 256) * 256 +
      v6.segment 7 % 256 = v6.bits.toNat % 2 ^ 32 := by
    unfold Ipv6Addr.segment
    omega
  rw [Ipv4Addr.new, hvalue]

theorem toNat_mapped (v4 : Ipv4Addr) : v4.mapped.bits.toNat = 0xffff00000000 + v4.bits.toNat := by
  have := v4.bits.isLt
  exact Nat.mod_eq_of_lt (by omega)

theorem toNat_compatible (v4 : Ipv4Addr) : v4.compatible.bits.toNat = v4.bits.toNat := by
  have := v4.bits.isLt
  exact Nat.mod_eq_of_lt (by omega)

/-- **The IPv4 address inside**: the one the address is the mapped or compatible form of.
Source: `rollout-harness-tool/src/http/connector.rs` `blocked_range` (`to_ipv4`). Kind: P -/
theorem toIpv4_iff {v4 : Ipv4Addr} :
    v6.toIpv4 = some v4 ↔ v6 = v4.mapped ∨ v6 = v4.compatible := by
  have hv4 := v4.bits.isLt
  have heq : ∀ a b : Ipv6Addr, a = b ↔ a.bits.toNat = b.bits.toNat := by
    rintro ⟨a⟩ ⟨b⟩
    rw [Ipv6Addr.mk.injEq, BitVec.toNat_eq]
  have heq4 : ∀ a b : Ipv4Addr, a = b ↔ a.bits.toNat = b.bits.toNat := by
    rintro ⟨a⟩ ⟨b⟩
    rw [Ipv4Addr.mk.injEq, BitVec.toNat_eq]
  rw [heq, heq, toNat_mapped, toNat_compatible]
  unfold Ipv6Addr.toIpv4
  rw [low_bits]
  simp only [embeds_iff]
  split
  · rw [Option.some.injEq, heq4]
    simp only [BitVec.toNat_ofNat]
    omega
  · simp only [reduceCtorEq, false_iff]
    omega

end v6

/-! ## What passes -/

/-- **An address passes exactly when it is in no blocked range**, neither itself nor as an IPv4
address inside an IPv6 one.
Source: `rollout-harness-tool/src/http/connector.rs` `blocked_range`. Kind: P -/
theorem blockedRange_eq_none_iff (ip : IpAddr) : blockedRange ip = none ↔ ¬ Blocked ip := by
  cases ip with
  | v4 v4 => exact blockedV4_eq_none_iff v4
  | v6 v6 =>
      have hinner : (v6.toIpv4.any fun v4 => (blockedV4 v4).isSome) = true ↔
          ∃ v4 : Ipv4Addr, (v6 = v4.mapped ∨ v6 = v4.compatible) ∧
            ∃ net ∈ blockedV4Nets, net.Contains v4.bits := by
        rw [Option.any_eq_true]
        refine exists_congr fun v4 => and_congr (toIpv4_iff v6) ?_
        rw [← not_iff_not, Bool.not_eq_true, Option.isSome_eq_false_iff, Option.isNone_iff_eq_none]
        exact blockedV4_eq_none_iff v4
      rw [Blocked, ← hinner, not_or, ← blockedV6_eq_none_iff, blockedRange]
      by_cases h : (v6.toIpv4.any fun v4 => (blockedV4 v4).isSome) = true
      · simp [h]
      · simp [h]

theorem filterIp_eq_none {ip : IpAddr} {allowlist : List IpAddr}
    (h : filterIp ip allowlist false = none) :
    ¬ Blocked ip ∧ (allowlist ≠ [] → ip ∈ allowlist) := by
  unfold filterIp at h
  cases hblocked : blockedRange ip with
  | some reason => simp [hblocked] at h
  | none =>
      refine ⟨(blockedRange_eq_none_iff ip).mp hblocked, fun hne => ?_⟩
      by_contra hmem
      simp [hblocked, hne, hmem] at h

/-- **The address picked** is one of the candidates, in no blocked range, and on the allowlist if
there is one. Source: `rollout-harness-tool/src/http/connector.rs` `pick_safe_ip`. Kind: P -/
theorem pickSafeIp_eq_ok {ips allowlist : List IpAddr} {ip : IpAddr}
    (h : pickSafeIp ips allowlist false = .ok ip) :
    ip ∈ ips ∧ ¬ Blocked ip ∧ (allowlist ≠ [] → ip ∈ allowlist) := by
  have hloop : ∀ last, pickFrom allowlist false last ips = .ok ip →
      ip ∈ ips ∧ filterIp ip allowlist false = none := by
    clear h
    induction ips with
    | nil =>
        intro last h
        cases h
    | cons a ips ih =>
        intro last h
        rw [pickFrom] at h
        cases hf : filterIp a allowlist false with
        | none =>
            rw [hf] at h
            cases h
            exact ⟨List.mem_cons_self .., hf⟩
        | some reason =>
            rw [hf] at h
            have hrest := ih reason h
            exact ⟨List.mem_cons_of_mem a hrest.1, hrest.2⟩
  obtain ⟨hmem, hfilter⟩ := hloop _ h
  exact ⟨hmem, filterIp_eq_none hfilter⟩

end Rollout.Http
