import Varmlen.Core.Xray

/-!
# Private addresses

The ranges that the LAN rule covers, as blocks and as conditions on an address, and
how they compare with the addresses that DNS may be sent to.  Xray unwraps an
IPv4-mapped address before it looks for its block; the test for a safe DNS address
does not.
-/

namespace Varmlen.Core

open Foundation.Ip

/-- An address in one of the private ranges. -/
def isLocal (address : IpAddr) : Bool := privateCidrs.any (blockCovers address)

/-- The private ranges, read. -/
def privateBlocks : List Cidr :=
  [⟨.v4 ⟨10, 0, 0, 0⟩, 8⟩, ⟨.v4 ⟨172, 16, 0, 0⟩, 12⟩, ⟨.v4 ⟨192, 168, 0, 0⟩, 16⟩,
    ⟨.v4 ⟨127, 0, 0, 0⟩, 8⟩, ⟨.v4 ⟨169, 254, 0, 0⟩, 16⟩, ⟨.v4 ⟨100, 64, 0, 0⟩, 10⟩,
    ⟨.v6 ⟨0, 0, 0, 0, 0, 0, 0, 1⟩, 128⟩, ⟨.v6 ⟨0xfc00, 0, 0, 0, 0, 0, 0, 0⟩, 7⟩,
    ⟨.v6 ⟨0xfe80, 0, 0, 0, 0, 0, 0, 0⟩, 10⟩]

theorem parse_privateCidrs : privateCidrs.map Cidr.parse = privateBlocks.map some := by
  decide

theorem isLocal_eq (address : IpAddr) :
    isLocal address = privateBlocks.any (·.contains address) := by
  calc
    isLocal address = (privateCidrs.map Cidr.parse).any (·.any (·.contains address)) := by
      rw [List.any_map]
      rfl
    _ = privateBlocks.any (·.contains address) := by
      rw [parse_privateCidrs, List.any_map]
      rfl

/-- The private IPv4 ranges by the leading bits of an address. -/
private theorem isLocal_v4_bits (address : Ipv4Addr) :
    isLocal (.v4 address) =
      (10 == address.toNat / 2 ^ 24 || (2753 == address.toNat / 2 ^ 20 ||
        (49320 == address.toNat / 2 ^ 16 || (127 == address.toNat / 2 ^ 24 ||
          (43518 == address.toNat / 2 ^ 16 || 401 == address.toNat / 2 ^ 22))))) := by
  rw [isLocal_eq]
  simp only [privateBlocks, List.any_cons, List.any_nil, Bool.or_false]
  rw [Cidr.contains_v4 24 10 rfl (by decide), Cidr.contains_v4 20 2753 rfl (by decide),
    Cidr.contains_v4 16 49320 rfl (by decide), Cidr.contains_v4 24 127 rfl (by decide),
    Cidr.contains_v4 16 43518 rfl (by decide), Cidr.contains_v4 22 401 rfl (by decide),
    Cidr.contains_v6_v4 (by decide), Cidr.contains_v6_v4 (by decide),
    Cidr.contains_v6_v4 (by decide)]
  simp only [Bool.or_false]

theorem isLocal_v4 (address : Ipv4Addr) :
    isLocal (.v4 address) = true ↔
      address.isPrivate = true ∨ address.isLoopback = true ∨ address.isLinkLocal = true ∨
        (address.a.val = 100 ∧ 64 ≤ address.b.val ∧ address.b.val ≤ 127) := by
  rcases address with ⟨a, b, c, d⟩
  have first : Ipv4Addr.toNat ⟨a, b, c, d⟩ / 2 ^ 24 = a.val := by
    simp only [Ipv4Addr.toNat]
    omega
  have second : Ipv4Addr.toNat ⟨a, b, c, d⟩ / 2 ^ 16 = a.val * 256 + b.val := by
    simp only [Ipv4Addr.toNat]
    omega
  have upper (bits : Nat) (small : bits ≤ 8) :
      Ipv4Addr.toNat ⟨a, b, c, d⟩ / 2 ^ (24 - bits) = (a.val * 256 + b.val) / 2 ^ (8 - bits) := by
    rw [← second, Nat.div_div_eq_div_mul, ← Nat.pow_add]
    congr 2
    omega
  have shared : 2753 = (a.val * 256 + b.val) / 2 ^ 4 ↔
      a.val = 172 ∧ 16 ≤ b.val ∧ b.val ≤ 31 := by omega
  have carrier : 401 = (a.val * 256 + b.val) / 2 ^ 6 ↔
      a.val = 100 ∧ 64 ≤ b.val ∧ b.val ≤ 127 := by omega
  have home : 49320 = a.val * 256 + b.val ↔ a.val = 192 ∧ b.val = 168 := by omega
  have link : 43518 = a.val * 256 + b.val ↔ a.val = 169 ∧ b.val = 254 := by omega
  rw [isLocal_v4_bits, upper 4 (by decide), upper 2 (by decide), first, second]
  simp only [Bool.or_eq_true, beq_iff_eq, shared, carrier,
    home, link, Ipv4Addr.isPrivate, Ipv4Addr.isLoopback, Ipv4Addr.isLinkLocal,
    Bool.and_eq_true, decide_eq_true_eq, Fin.ext_iff, or_assoc, and_assoc]
  rw [eq_comm (a := 10), eq_comm (a := 127)]
  rfl

/-- The private IPv6 ranges by the leading bits of an address. -/
private theorem isLocal_v6_bits {address : Ipv6Addr} (unmapped : address.toIpv4Mapped = none) :
    isLocal (.v6 address) =
      (1 == address.toNat / 2 ^ 0 || (126 == address.toNat / 2 ^ 121 ||
        1018 == address.toNat / 2 ^ 118)) := by
  rw [isLocal_eq]
  simp only [privateBlocks, List.any_cons, List.any_nil, Cidr.contains_v4_v6 unmapped,
    Bool.or_false, Bool.false_or]
  rw [Cidr.contains_v6 0 1 (by decide) unmapped rfl (by decide),
    Cidr.contains_v6 121 126 (by decide) unmapped rfl (by decide),
    Cidr.contains_v6 118 1018 (by decide) unmapped rfl (by decide)]

theorem isLocal_v6 {address : Ipv6Addr} (unmapped : address.toIpv4Mapped = none) :
    isLocal (.v6 address) = true ↔
      address.isLoopback = true ∨ address.isUniqueLocal = true ∨
        address.isUnicastLinkLocal = true := by
  rw [isLocal_v6_bits unmapped]
  rcases address with ⟨s0, s1, s2, s3, s4, s5, s6, s7⟩
  simp only [Bool.or_eq_true, beq_iff_eq, Ipv6Addr.toNat, Ipv6Addr.segments, List.foldl,
    Ipv6Addr.isLoopback, Ipv6Addr.isUniqueLocal,
    Ipv6Addr.isUnicastLinkLocal, Ipv6Addr.mk.injEq, Fin.ext_iff]
  have bounds := And.intro s1.isLt (And.intro s2.isLt (And.intro s3.isLt (And.intro s4.isLt
    (And.intro s5.isLt (And.intro s6.isLt s7.isLt)))))
  omega

/-- An IPv4-mapped address is local when the address inside is. -/
theorem isLocal_mapped {address : Ipv6Addr} {inner : Ipv4Addr}
    (mapped : address.toIpv4Mapped = some inner) :
    isLocal (.v6 address) = isLocal (.v4 inner) := by
  rw [isLocal_eq, isLocal_eq]
  simp only [Cidr.contains_mapped _ mapped]

/-- The safe addresses that are local all the same are IPv4-mapped ones. -/
theorem isLocal_iff_of_safe {address : IpAddr} (safe : isSafeRemoteDnsIp address = true) :
    isLocal address = true ↔
      ∃ wrapped inner, address = .v6 wrapped ∧ wrapped.toIpv4Mapped = some inner ∧
        isLocal (.v4 inner) = true := by
  cases address with
  | v4 address =>
      have notLocal : ¬ isLocal (.v4 address) = true := by
        rw [isLocal_v4]
        simp only [isSafeRemoteDnsIp, Bool.and_eq_true, Bool.not_eq_true',
          Bool.and_eq_false_iff, decide_eq_false_iff_not, beq_eq_false_iff_ne,
          Fin.ext_iff, ne_eq] at safe
        rcases safe with ⟨⟨⟨⟨⟨⟨notPrivate, notLoopback⟩, notLinkLocal⟩, _⟩, _⟩, _⟩, notShared⟩
        simp only [notPrivate, notLoopback, notLinkLocal, Bool.false_eq_true, false_or]
        omega
      simp [notLocal]
  | v6 address =>
      cases mapped : address.toIpv4Mapped with
      | some inner =>
          rw [isLocal_mapped mapped]
          simp [mapped]
      | none =>
          have notLocal : ¬ isLocal (.v6 address) = true := by
            rw [isLocal_v6 mapped]
            simp [isSafeRemoteDnsIp] at safe
            simp [safe]
          simp [notLocal, mapped]

end Varmlen.Core
