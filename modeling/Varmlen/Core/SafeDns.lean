import Varmlen.Core.DnsRoute
import Varmlen.Core.LanRoute
import Varmlen.Core.Local

/-!
# Safe DNS addresses

Which addresses the test for a safe DNS address lets through, and what a provider's
profile can name by them: a DNS server, the host of one, or the range of a direct rule.
The test does not look inside an IPv4-mapped address, so it lets every one of these
through, whatever IPv4 address the operating system takes it for.
-/

namespace Varmlen.Core

open Foundation.Ip Foundation.Json

def isMulticast : IpAddr → Bool
  | .v4 address => address.isMulticast
  | .v6 address => address.isMulticast

def isUnspecified : IpAddr → Bool
  | .v4 address => address.isUnspecified
  | .v6 address => address.isUnspecified

/-- An address that, once it is unwrapped, is in no private range and stands for a single
host. -/
structure IsRemote (address : IpAddr) : Prop where
  notLocal : isLocal address.canonical = false
  notMulticast : isMulticast address.canonical = false
  notUnspecified : isUnspecified address.canonical = false

/-- What a provider's profile names by an address that the test lets through. -/
inductive AcceptedThrough (address : IpAddr) : Prop
  /-- A DNS server whose address is given. -/
  | server {urls : UrlParser} {raw kept : String} {ips : List String} {probeUrl : Option String}
      (accepted : safeRemoteDnsAddress urls raw = some (kept, ips, probeUrl))
      (dialled : toText address ∈ ips) : AcceptedThrough address
  /-- A DNS server whose address the profile's hosts give. -/
  | host {server : VlessServer} {hostname : String}
      (listed : toText address ∈ providerDnsHostIps server hostname) : AcceptedThrough address
  /-- A range of a direct rule, by its address. -/
  | rule {proxyTags balancerTags : List String} {object : Object} {items : List Value}
      {text : String} (kept : keepsRule proxyTags balancerTags (.object object) = true)
      (direct : (object.get "outboundTag").bind Value.asString = some "direct")
      (ranges : (object.get "ip").bind Value.asArray = some items)
      (listed : .string text ∈ items)
      (named : parseChars (text.toList.takeWhile (· != '/')) = some address) :
      AcceptedThrough address

/-- An IPv4 address that no safe one may be. -/
def Ipv4Refused (address : Ipv4Addr) : Prop :=
  address.isPrivate = true ∨ address.isLoopback = true ∨ address.isLinkLocal = true ∨
    (address.a.val = 100 ∧ 64 ≤ address.b.val ∧ address.b.val ≤ 127) ∨
    address.isMulticast = true ∨ address.isUnspecified = true

/-- An IPv4-mapped address with such an address inside. -/
def MapsRefused (address : IpAddr) : Prop :=
  ∃ wrapped inner, address = .v6 wrapped ∧ wrapped.toIpv4Mapped = some inner ∧
    Ipv4Refused inner

section Addresses

variable {address : IpAddr} {wrapped : Ipv6Addr} {inner : Ipv4Addr}

theorem AcceptedThrough.safe (accepted : AcceptedThrough address) :
    isSafeRemoteDnsIp address = true := by
  cases accepted with
  | server accepted dialled =>
      rcases safeRemoteDnsAddress_eq_some accepted with ⟨literal, safe, rfl, _⟩
      rwa [toText_injective (List.mem_singleton.1 dialled)]
  | host listed => exact safe_of_providerDnsHostIps listed
  | @rule _ _ object items text kept direct ranges listed named =>
      have passed : isLocalRouteSelector (.string text) = false := by
        have none := notLocal_of_keepsRule kept direct
        rw [anyItem, ranges] at none
        exact Bool.eq_false_iff.2 (List.any_eq_false.1 none _ listed)
      simp only [isLocalRouteSelector, Value.asString] at passed
      split at passed
      next => cases passed
      next =>
        rw [named] at passed
        simpa using passed

theorem isRemote_v4 : IsRemote (.v4 inner) ↔ ¬Ipv4Refused inner := by
  have parts : IsRemote (.v4 inner) ↔
      ¬((isLocal (.v4 inner) = true ∨ inner.isMulticast = true) ∨
        inner.isUnspecified = true) := by
    simp only [not_or, Bool.not_eq_true]
    constructor
    · rintro ⟨notLocal, notMulticast, notUnspecified⟩
      exact ⟨⟨notLocal, notMulticast⟩, notUnspecified⟩
    · rintro ⟨⟨notLocal, notMulticast⟩, notUnspecified⟩
      exact ⟨notLocal, notMulticast, notUnspecified⟩
  rw [parts, isLocal_v4, Ipv4Refused]
  simp only [or_assoc]

/-- Of an IPv4-mapped address only the one inside matters. -/
theorem isRemote_mapped (mapped : wrapped.toIpv4Mapped = some inner) :
    IsRemote (.v6 wrapped) ↔ IsRemote (.v4 inner) := by
  have same : (IpAddr.v6 wrapped).canonical = (IpAddr.v4 inner).canonical := by
    simp only [IpAddr.canonical, mapped]
  constructor
  · rintro ⟨notLocal, notMulticast, notUnspecified⟩
    rw [same] at notLocal notMulticast notUnspecified
    exact ⟨notLocal, notMulticast, notUnspecified⟩
  · rintro ⟨notLocal, notMulticast, notUnspecified⟩
    rw [← same] at notLocal notMulticast notUnspecified
    exact ⟨notLocal, notMulticast, notUnspecified⟩

/-- The test lets every IPv4-mapped address through. -/
theorem safe_of_mapped (mapped : wrapped.toIpv4Mapped = some inner) :
    isSafeRemoteDnsIp (.v6 wrapped) = true := by
  rw [Ipv6Addr.toIpv4Mapped] at mapped
  split at mapped
  next marks =>
    rcases marks with ⟨first, _, _, _, _, mark⟩
    have marked (last : Fin 65536) : wrapped ≠ ⟨0, 0, 0, 0, 0, 0, 0, last⟩ := by
      rintro rfl
      cases mark
    simp [isSafeRemoteDnsIp, Ipv6Addr.isLoopback, Ipv6Addr.isUnspecified, Ipv6Addr.isMulticast,
      Ipv6Addr.isUniqueLocal, Ipv6Addr.isUnicastLinkLocal, first, marked]
  next => cases mapped

/-- All others that it lets through are remote. -/
theorem isRemote_of_safe (safe : isSafeRemoteDnsIp address = true)
    (plain : ¬MapsRefused address) : IsRemote address := by
  have localIff := isLocal_iff_of_safe safe
  cases address with
  | v4 inner =>
      have notLocal : isLocal (.v4 inner) = false := by
        rw [Bool.eq_false_iff, ne_eq, localIff]
        rintro ⟨_, _, isV6, _⟩
        cases isV6
      simp only [isSafeRemoteDnsIp, Bool.and_eq_true, Bool.not_eq_true'] at safe
      rcases safe with ⟨⟨⟨⟨_, notMulticast⟩, notUnspecified⟩, _⟩, _⟩
      exact ⟨notLocal, notMulticast, notUnspecified⟩
  | v6 wrapped =>
      cases mapped : wrapped.toIpv4Mapped with
      | some inner =>
          rw [isRemote_mapped mapped, isRemote_v4]
          exact fun refused => plain ⟨wrapped, inner, rfl, mapped, refused⟩
      | none =>
          have itself : (IpAddr.v6 wrapped).canonical = .v6 wrapped := by
            simp only [IpAddr.canonical, mapped]
          have notLocal : isLocal (.v6 wrapped) = false := by
            rw [Bool.eq_false_iff, ne_eq, localIff]
            rintro ⟨_, inner, ⟨⟩, isMapped, _⟩
            rw [mapped] at isMapped
            cases isMapped
          simp only [isSafeRemoteDnsIp, Bool.and_eq_true, Bool.not_eq_true'] at safe
          rcases safe with ⟨⟨⟨⟨_, notUnspecified⟩, notMulticast⟩, _⟩, _⟩
          rw [← itself] at notLocal
          refine ⟨notLocal, ?_, ?_⟩
          · rw [itself]
            exact notMulticast
          · rw [itself]
            exact notUnspecified

end Addresses

/-- What the test lets through, and what a profile names by it, is remote, except for the
IPv4-mapped forms of the addresses that the test refuses. -/
theorem isRemote_iff (address : IpAddr) :
    ((isSafeRemoteDnsIp address = true → IsRemote address) ∧
      (AcceptedThrough address → IsRemote address)) ↔ ¬MapsRefused address := by
  constructor
  · rintro ⟨remote, _⟩ ⟨wrapped, inner, rfl, mapped, refused⟩
    have inside := (isRemote_mapped mapped).1 (remote (safe_of_mapped mapped))
    exact isRemote_v4.1 inside refused
  · intro plain
    exact ⟨fun safe => isRemote_of_safe safe plain,
      fun accepted => isRemote_of_safe accepted.safe plain⟩

/-- `::ffff:10.0.0.1` is a DNS server that a profile may name. -/
theorem mapped_private_is_safe :
    isSafeRemoteDnsIp (.v6 ⟨0, 0, 0, 0, 0, 0xffff, 0x0a00, 1⟩) = true ∧
      ¬IsRemote (.v6 ⟨0, 0, 0, 0, 0, 0xffff, 0x0a00, 1⟩) := by
  refine ⟨by decide, ?_⟩
  rintro ⟨notLocal, _, _⟩
  have isLocal : isLocal (.v4 ⟨10, 0, 0, 1⟩) = true := by decide
  exact Bool.false_ne_true (notLocal.symm.trans isLocal)

end Varmlen.Core
