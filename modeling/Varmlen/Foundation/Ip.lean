import Mathlib.Data.List.TakeWhile
import Varmlen.Foundation.Numeral

/-!
# IP addresses, their text form and address blocks

Addresses are read and printed the way the Rust standard library does it: dotted
decimal without redundant zeros for IPv4; for IPv6 colon-separated hexadecimal
groups with one `::`, the first longest run of two or more zero groups
compressed, and a dotted tail for IPv4-mapped addresses.  Reading what was
printed gives the address back.

An address block is a base address and a prefix length.  Blocks compare
addresses after an IPv4-mapped IPv6 address has been unwrapped, which is how the
routing engines that consume these texts treat them.
-/

namespace Foundation.Ip

open Foundation.Numeral

/-- Octets have literals. -/
instance octet_neZero : NeZero 256 := ⟨by decide⟩

/-- Segments have literals. -/
instance segment_neZero : NeZero 65536 := ⟨by decide⟩

/-- The four octets of an IPv4 address. -/
structure Ipv4Addr where
  a : Fin 256
  b : Fin 256
  c : Fin 256
  d : Fin 256
  deriving DecidableEq, Repr

/-- The eight 16-bit segments of an IPv6 address. -/
structure Ipv6Addr where
  s0 : Fin 65536
  s1 : Fin 65536
  s2 : Fin 65536
  s3 : Fin 65536
  s4 : Fin 65536
  s5 : Fin 65536
  s6 : Fin 65536
  s7 : Fin 65536
  deriving DecidableEq, Repr

inductive IpAddr where
  | v4 (address : Ipv4Addr)
  | v6 (address : Ipv6Addr)
  deriving DecidableEq, Repr

namespace Ipv4Addr

/-- The address as one number, most significant octet first. -/
def toNat (address : Ipv4Addr) : Nat :=
  ((address.a.val * 256 + address.b.val) * 256 + address.c.val) * 256 + address.d.val

theorem toNat_injective : Function.Injective toNat := by
  intro address other same
  rcases address with ⟨a, b, c, d⟩
  rcases other with ⟨a', b', c', d'⟩
  simp only [toNat] at same
  simp only [mk.injEq, Fin.ext_iff]
  omega

def isPrivate (address : Ipv4Addr) : Bool :=
  address.a == 10 ||
    (address.a == 172 && 16 ≤ address.b.val && address.b.val ≤ 31) ||
    (address.a == 192 && address.b == 168)

def isLoopback (address : Ipv4Addr) : Bool := address.a == 127

def isLinkLocal (address : Ipv4Addr) : Bool := address.a == 169 && address.b == 254

def isMulticast (address : Ipv4Addr) : Bool :=
  224 ≤ address.a.val && address.a.val ≤ 239

def isUnspecified (address : Ipv4Addr) : Bool := address == ⟨0, 0, 0, 0⟩

def isBroadcast (address : Ipv4Addr) : Bool := address == ⟨255, 255, 255, 255⟩

end Ipv4Addr

namespace Ipv6Addr

/-- The segments in order. -/
def segments (address : Ipv6Addr) : List (Fin 65536) :=
  [address.s0, address.s1, address.s2, address.s3,
    address.s4, address.s5, address.s6, address.s7]

/-- The address whose segments are listed; `none` unless there are eight. -/
def ofSegments : List (Fin 65536) → Option Ipv6Addr
  | [s0, s1, s2, s3, s4, s5, s6, s7] => some ⟨s0, s1, s2, s3, s4, s5, s6, s7⟩
  | _ => none

@[simp] theorem ofSegments_segments (address : Ipv6Addr) :
    ofSegments address.segments = some address := rfl

@[simp] theorem segments_length (address : Ipv6Addr) :
    address.segments.length = 8 := rfl

/-- The address as one number, most significant segment first. -/
def toNat (address : Ipv6Addr) : Nat :=
  address.segments.foldl (fun number segment => number * 65536 + segment.val) 0

theorem toNat_injective : Function.Injective toNat := by
  intro address other same
  rcases address with ⟨s0, s1, s2, s3, s4, s5, s6, s7⟩
  rcases other with ⟨t0, t1, t2, t3, t4, t5, t6, t7⟩
  simp only [toNat, segments, List.foldl_cons, List.foldl_nil] at same
  simp only [mk.injEq, Fin.ext_iff]
  omega

def isLoopback (address : Ipv6Addr) : Bool := address == ⟨0, 0, 0, 0, 0, 0, 0, 1⟩

def isUnspecified (address : Ipv6Addr) : Bool := address == ⟨0, 0, 0, 0, 0, 0, 0, 0⟩

def isMulticast (address : Ipv6Addr) : Bool := address.s0.val / 256 == 0xff

/-- `fc00::/7`. -/
def isUniqueLocal (address : Ipv6Addr) : Bool := address.s0.val / 512 == 0xfc00 / 512

/-- `fe80::/10`. -/
def isUnicastLinkLocal (address : Ipv6Addr) : Bool :=
  address.s0.val / 64 == 0xfe80 / 64

/-- The IPv4 address inside `::ffff:a.b.c.d`. -/
def toIpv4Mapped (address : Ipv6Addr) : Option Ipv4Addr :=
  if address.s0 = 0 ∧ address.s1 = 0 ∧ address.s2 = 0 ∧ address.s3 = 0 ∧
      address.s4 = 0 ∧ address.s5 = 0xffff then
    some
      ⟨⟨address.s6.val / 256, by omega⟩, ⟨address.s6.val % 256, by omega⟩,
        ⟨address.s7.val / 256, by omega⟩, ⟨address.s7.val % 256, by omega⟩⟩
  else none

end Ipv6Addr

/-! ## Reading -/

/-- Read with `inner` after the separator `separator`. -/
def readAfter {α : Type} (separator : Char)
    (inner : List Char → Option (α × List Char)) :
    List Char → Option (α × List Char)
  | [] => none
  | head :: rest => if head = separator then inner rest else none

/-- One decimal octet; a leading zero would be octal elsewhere and is refused. -/
def readOctet (input : List Char) : Option (Fin 256 × List Char) :=
  readNumber 10 3 256 false input

/-- One hexadecimal group. -/
def readGroup (input : List Char) : Option (Fin 65536 × List Char) :=
  readNumber 16 4 65536 true input

def readIpv4 (input : List Char) : Option (Ipv4Addr × List Char) := do
  let (a, rest) ← readOctet input
  let (b, rest) ← readAfter '.' readOctet rest
  let (c, rest) ← readAfter '.' readOctet rest
  let (d, rest) ← readAfter '.' readOctet rest
  return (⟨a, b, c, d⟩, rest)

/-- Read at the first position directly, elsewhere after a colon. -/
def readSeparated {α : Type} (first : Bool)
    (inner : List Char → Option (α × List Char)) (input : List Char) :
    Option (α × List Char) :=
  if first then inner input else readAfter ':' inner input

/-- Read at most `limit` groups.  A dotted IPv4 tail is tried wherever two
groups still fit; the flag reports whether one was read. -/
def readGroups : (limit : Nat) → (first : Bool) → List Char →
    List (Fin 65536) × Bool × List Char
  | 0, _, input => ([], false, input)
  | limit + 1, first, input =>
      match (if 0 < limit then readSeparated first readIpv4 input else none) with
      | some (tail, rest) =>
          ([⟨tail.a.val * 256 + tail.b.val, by omega⟩,
            ⟨tail.c.val * 256 + tail.d.val, by omega⟩], true, rest)
      | none =>
          match readSeparated first readGroup input with
          | some (group, rest) =>
              let (groups, dotted, rest) := readGroups limit false rest
              (group :: groups, dotted, rest)
          | none => ([], false, input)

def readIpv6 (input : List Char) : Option (Ipv6Addr × List Char) :=
  let (head, dotted, rest) := readGroups 8 true input
  if head.length = 8 then (Ipv6Addr.ofSegments head).map (·, rest)
  else if dotted then none
  else
    match rest with
    | ':' :: ':' :: rest =>
        let (tail, _, rest) := readGroups (8 - (head.length + 1)) true rest
        let zeros := List.replicate (8 - head.length - tail.length) 0
        (Ipv6Addr.ofSegments (head ++ zeros ++ tail)).map (·, rest)
    | _ => none

/-- Accept a reading that consumed the whole input. -/
def complete {α : Type} : Option (α × List Char) → Option α
  | some (value, []) => some value
  | _ => none

/-- `str::parse::<IpAddr>`.  IPv6 is tried only where no IPv4 address could be
read at all. -/
def parseChars (input : List Char) : Option IpAddr :=
  match readIpv4 input with
  | some reading => (complete (some reading)).map .v4
  | none => (complete (readIpv6 input)).map .v6

def parse (text : String) : Option IpAddr := parseChars text.toList

/-! ## Printing -/

def decimal (octet : Fin 256) : List Char := Nat.toDigits 10 octet

def hex (group : Fin 65536) : List Char := Nat.toDigits 16 group

def ipv4Chars (address : Ipv4Addr) : List Char :=
  decimal address.a ++ '.' :: (decimal address.b ++ '.' ::
    (decimal address.c ++ '.' :: decimal address.d))

/-- Groups each preceded by a colon. -/
def groupTail (groups : List (Fin 65536)) : List Char :=
  groups.flatMap fun group => ':' :: hex group

/-- Colon-separated groups. -/
def groupChars : List (Fin 65536) → List Char
  | [] => []
  | group :: groups => hex group ++ groupTail groups

/-- A run of positions in the segment list. -/
structure Span where
  start : Nat
  len : Nat
  deriving DecidableEq, Repr

/-- The first longest run of zero segments, found in one pass that keeps the
longest run so far and the run that ends at the current position. -/
def longestZeros : List (Fin 65536) → (position : Nat) →
    (longest current : Span) → Span
  | [], _, longest, _ => longest
  | segment :: rest, position, longest, current =>
      if segment = 0 then
        let current : Span :=
          ⟨if current.len = 0 then position else current.start, current.len + 1⟩
        let longest := if longest.len < current.len then current else longest
        longestZeros rest (position + 1) longest current
      else longestZeros rest (position + 1) longest ⟨0, 0⟩

def ipv6Chars (address : Ipv6Addr) : List Char :=
  match address.toIpv4Mapped with
  | some inner => "::ffff:".toList ++ ipv4Chars inner
  | none =>
      let segments := address.segments
      let zeros := longestZeros segments 0 ⟨0, 0⟩ ⟨0, 0⟩
      if 1 < zeros.len then
        groupChars (segments.take zeros.start) ++ ':' :: ':' ::
          groupChars (segments.drop (zeros.start + zeros.len))
      else groupChars segments

def toChars : IpAddr → List Char
  | .v4 address => ipv4Chars address
  | .v6 address => ipv6Chars address

/-- `IpAddr::to_string`. -/
def toText (address : IpAddr) : String := String.ofList (toChars address)

/-! ## Round trip -/

section RoundTrip

theorem noDigitHead_nil {radix : Nat} : NoDigitHead radix [] := by
  intro head member
  simp at member

theorem noDigitHead_dot {rest : List Char} : NoDigitHead 10 ('.' :: rest) := by
  intro head member
  obtain rfl : '.' = head := by simpa using member
  decide

theorem noDigitHead_colon {rest : List Char} : NoDigitHead 16 (':' :: rest) := by
  intro head member
  obtain rfl : ':' = head := by simpa using member
  decide

theorem readOctet_decimal (octet : Fin 256) {rest : List Char}
    (stops : NoDigitHead 10 rest) :
    readOctet (decimal octet ++ rest) = some (octet, rest) :=
  readNumber_toDigits (by decide) (by decide) (by decide) (by decide) false octet stops

theorem readGroup_hex (group : Fin 65536) {rest : List Char}
    (stops : NoDigitHead 16 rest) :
    readGroup (hex group ++ rest) = some (group, rest) :=
  readNumber_toDigits (by decide) (by decide) (by decide) (by decide) true group stops

theorem readIpv4_ipv4Chars (address : Ipv4Addr) {rest : List Char}
    (stops : NoDigitHead 10 rest) :
    readIpv4 (ipv4Chars address ++ rest) = some (address, rest) := by
  simp only [readIpv4, ipv4Chars, List.append_assoc, List.cons_append]
  rw [readOctet_decimal address.a noDigitHead_dot]
  simp only [Option.bind_eq_bind, Option.bind_some, readAfter, if_true]
  rw [readOctet_decimal address.b noDigitHead_dot]
  simp only [Option.bind_some, if_true]
  rw [readOctet_decimal address.c noDigitHead_dot]
  simp only [Option.bind_some, if_true]
  rw [readOctet_decimal address.d stops]
  rfl

/-- A dotted address cannot be read from an input without a dot. -/
theorem readIpv4_eq_none {input : List Char} (noDot : '.' ∉ input) :
    readIpv4 input = none := by
  rw [readIpv4]
  cases first : readOctet input with
  | none => rfl
  | some reading =>
      rcases reading with ⟨octet, rest⟩
      have restNoDot : '.' ∉ rest := fun member =>
        noDot ((readNumber_suffix first).subset member)
      cases rest with
      | nil => rfl
      | cons head rest =>
          have : head ≠ '.' := fun equal => restNoDot (by simp [equal])
          simp [readAfter, this]

theorem dot_not_mem_hex (group : Fin 65536) : '.' ∉ hex group :=
  not_mem_toDigits (by decide) (by decide) (by decide) group.val

theorem dot_not_mem_groupTail (groups : List (Fin 65536)) : '.' ∉ groupTail groups := by
  simp [groupTail, dot_not_mem_hex]

theorem dot_not_mem_groupChars (groups : List (Fin 65536)) : '.' ∉ groupChars groups := by
  cases groups with
  | nil => simp [groupChars]
  | cons group groups =>
      simp [groupChars, dot_not_mem_hex, dot_not_mem_groupTail]

/-- Reading groups stops at the end of the input and at `::`. -/
def Stops (rest : List Char) : Prop := rest = [] ∨ ∃ after, rest = ':' :: ':' :: after

theorem noDigitHead_groupTail {rest : List Char} (stops : Stops rest)
    (groups : List (Fin 65536)) : NoDigitHead 16 (groupTail groups ++ rest) := by
  cases groups with
  | nil =>
      rcases stops with rfl | ⟨after, rfl⟩
      · exact noDigitHead_nil
      · exact noDigitHead_colon
  | cons group groups => exact noDigitHead_colon

private theorem readSeparated_stops {rest : List Char} (stops : Stops rest)
    (first : Bool) : readSeparated first readGroup rest = none := by
  have atColon : ∀ after, readGroup (':' :: after) = none := by
    intro after
    have digits : spanDigits 16 (':' :: after) = ([], ':' :: after) := by
      rw [spanDigits]
      rfl
    simp [readGroup, readNumber, digits]
  rcases stops with rfl | ⟨after, rfl⟩
  · cases first <;> rfl
  · cases first with
    | true => exact atColon (':' :: after)
    | false => simpa [readSeparated, readAfter] using atColon after

private theorem readSeparated_ipv4_none {input : List Char} (noDot : '.' ∉ input)
    (first : Bool) : readSeparated first readIpv4 input = none := by
  cases first with
  | true => exact readIpv4_eq_none noDot
  | false =>
      cases input with
      | nil => rfl
      | cons head rest =>
          have restNoDot : '.' ∉ rest := fun member => noDot (by simp [member])
          simp [readSeparated, readAfter, readIpv4_eq_none restNoDot]

private theorem readGroups_stops {rest : List Char} (stops : Stops rest)
    (noDot : '.' ∉ rest) (limit : Nat) (first : Bool) :
    readGroups limit first rest = ([], false, rest) := by
  cases limit with
  | zero => rfl
  | succ limit =>
      simp [readGroups, readSeparated_ipv4_none noDot, readSeparated_stops stops]

theorem readGroups_groupTail {rest : List Char} (stops : Stops rest)
    (noDot : '.' ∉ rest) (groups : List (Fin 65536)) (limit : Nat)
    (fits : groups.length ≤ limit) :
    readGroups limit false (groupTail groups ++ rest) = (groups, false, rest) := by
  induction groups generalizing limit with
  | nil => exact readGroups_stops stops noDot limit false
  | cons group groups ih =>
      cases limit with
      | zero => simp at fits
      | succ limit =>
          have inputNoDot : '.' ∉ groupTail (group :: groups) ++ rest := by
            simp [dot_not_mem_groupTail, noDot]
          have shape : groupTail (group :: groups) ++ rest =
              ':' :: (hex group ++ (groupTail groups ++ rest)) := by
            simp [groupTail]
          rw [readGroups, readSeparated_ipv4_none inputNoDot, shape]
          simp only [ite_self, readSeparated, readAfter, Bool.false_eq_true,
            if_false, if_true]
          rw [readGroup_hex group (noDigitHead_groupTail stops groups)]
          simp only [ih limit (by simpa using fits)]

theorem readGroups_groupChars {rest : List Char} (stops : Stops rest)
    (noDot : '.' ∉ rest) (groups : List (Fin 65536)) (limit : Nat)
    (fits : groups.length ≤ limit) :
    readGroups limit true (groupChars groups ++ rest) = (groups, false, rest) := by
  cases groups with
  | nil => exact readGroups_stops stops noDot limit true
  | cons group groups =>
      cases limit with
      | zero => simp at fits
      | succ limit =>
          have inputNoDot : '.' ∉ groupChars (group :: groups) ++ rest := by
            simp [dot_not_mem_groupChars, noDot]
          rw [readGroups, readSeparated_ipv4_none inputNoDot]
          simp only [ite_self, readSeparated, if_true, groupChars, List.append_assoc]
          rw [readGroup_hex group (noDigitHead_groupTail stops groups)]
          simp only [readGroups_groupTail stops noDot groups limit (by simpa using fits)]

/-- A span of zero segments inside `segments`. -/
def ZeroSpan (segments : List (Fin 65536)) (span : Span) : Prop :=
  ∃ before after, segments = before ++ List.replicate span.len 0 ++ after ∧
    (span.len ≠ 0 → before.length = span.start)

private theorem longestZeros_zeroSpan (done rest : List (Fin 65536))
    (longest current : Span) (isZero : ZeroSpan (done ++ rest) longest)
    (ending : ∃ before, done = before ++ List.replicate current.len 0 ∧
      (current.len ≠ 0 → before.length = current.start)) :
    ZeroSpan (done ++ rest) (longestZeros rest done.length longest current) := by
  induction rest generalizing done longest current with
  | nil => exact isZero
  | cons segment rest ih =>
      rcases ending with ⟨before, doneEq, startEq⟩
      have shift : done ++ segment :: rest = (done ++ [segment]) ++ rest := by simp
      rw [longestZeros]
      by_cases zero : segment = 0
      · -- The run ending here grows by one; it replaces the longest only if longer.
        rw [if_pos zero]
        subst zero
        let grown : Span :=
          ⟨if current.len = 0 then done.length else current.start, current.len + 1⟩
        have grownEnding : done ++ [0] = before ++ List.replicate grown.len 0 ∧
            (grown.len ≠ 0 → before.length = grown.start) := by
          constructor
          · rw [doneEq, List.append_assoc, ← List.replicate_succ']
          · intro _
            by_cases fresh : current.len = 0
            · simp [grown, fresh, doneEq]
            · simp [grown, fresh, startEq fresh]
        have grownZero : ZeroSpan ((done ++ [0]) ++ rest) grown :=
          ⟨before, rest, by rw [grownEnding.1], grownEnding.2⟩
        rw [shift] at isZero ⊢
        have lengthEq : done.length + 1 = (done ++ [(0 : Fin 65536)]).length := by simp
        have replaced : ZeroSpan ((done ++ [0]) ++ rest)
            (if longest.len < grown.len then grown else longest) := by
          split
          · exact grownZero
          · exact isZero
        rw [lengthEq]
        exact ih (done ++ [0]) _ grown replaced ⟨before, grownEnding⟩
      · rw [if_neg zero]
        rw [shift] at isZero ⊢
        have lengthEq : done.length + 1 = (done ++ [segment]).length := by simp
        rw [lengthEq]
        exact ih (done ++ [segment]) longest ⟨0, 0⟩ isZero
          ⟨done ++ [segment], by simp, by simp⟩

theorem zeroSpan_longestZeros (segments : List (Fin 65536)) :
    ZeroSpan segments (longestZeros segments 0 ⟨0, 0⟩ ⟨0, 0⟩) := by
  have start : ZeroSpan ([] ++ segments) ⟨0, 0⟩ := ⟨[], segments, by simp, by simp⟩
  simpa using longestZeros_zeroSpan [] segments ⟨0, 0⟩ ⟨0, 0⟩ start ⟨[], by simp, by simp⟩

private theorem readIpv6_groups (address : Ipv6Addr) :
    readIpv6 (groupChars address.segments) = some (address, []) := by
  have read := readGroups_groupChars (.inl rfl) (by simp) address.segments 8 (by simp)
  rw [List.append_nil] at read
  simp [readIpv6, read]

private theorem readIpv6_compressed (address : Ipv6Addr)
    {before after : List (Fin 65536)} {len : Nat} (long : 1 < len)
    (split : address.segments = before ++ List.replicate len 0 ++ after) :
    readIpv6 (groupChars before ++ ':' :: ':' :: groupChars after) =
      some (address, []) := by
  have total : before.length + len + after.length = 8 := by
    simpa [Nat.add_assoc] using (congrArg List.length split).symm
  have noDot : '.' ∉ ':' :: ':' :: groupChars after := by
    simp [dot_not_mem_groupChars]
  have readHead := readGroups_groupChars (.inr ⟨_, rfl⟩) noDot before 8 (by omega)
  have readTail := readGroups_groupChars (.inl rfl) (by simp) after
    (8 - (before.length + 1)) (by omega)
  rw [List.append_nil] at readTail
  have headShort : before.length ≠ 8 := by omega
  have zeros : 8 - before.length - after.length = len := by omega
  simp only [readIpv6, readHead, headShort, if_false, Bool.false_eq_true, readTail, zeros]
  rw [← split, Ipv6Addr.ofSegments_segments]
  rfl

private theorem readIpv6_mapped {address : Ipv6Addr} {inner : Ipv4Addr}
    (mapped : address.toIpv4Mapped = some inner) :
    readIpv6 ("::ffff:".toList ++ ipv4Chars inner) = some (address, []) := by
  have readInner := readIpv4_ipv4Chars inner (@noDigitHead_nil 10)
  rw [List.append_nil] at readInner
  have readHead : ∀ input, readGroups 8 true (':' :: input) = ([], false, ':' :: input) := by
    intro input
    rfl
  have readMark : ∀ input, readGroup ('f' :: 'f' :: 'f' :: 'f' :: ':' :: input) =
      some (0xffff, ':' :: input) := by
    intro input
    rfl
  have noIpv4 : ∀ input, readIpv4 ('f' :: input) = none := by
    intro input
    rfl
  have readTail : readGroups 7 true ('f' :: 'f' :: 'f' :: 'f' :: ':' :: ipv4Chars inner) =
      ([0xffff, ⟨inner.a.val * 256 + inner.b.val, by omega⟩,
        ⟨inner.c.val * 256 + inner.d.val, by omega⟩], true, []) := by
    rw [readGroups]
    simp only [Nat.zero_lt_succ, if_true, readSeparated, noIpv4, readMark]
    rw [readGroups]
    simp [readSeparated, readAfter, readInner]
  have chars : "::ffff:".toList ++ ipv4Chars inner =
      ':' :: ':' :: 'f' :: 'f' :: 'f' :: 'f' :: ':' :: ipv4Chars inner := rfl
  rw [chars, readIpv6, readHead]
  simp only [List.length_nil, readTail]
  simp only [Ipv6Addr.toIpv4Mapped] at mapped
  split at mapped
  next isMapped =>
    rcases isMapped with ⟨zero0, zero1, zero2, zero3, zero4, mark⟩
    rcases Option.some.inj mapped with rfl
    rcases address with ⟨s0, s1, s2, s3, s4, s5, s6, s7⟩
    simp only at zero0 zero1 zero2 zero3 zero4 mark
    subst zero0 zero1 zero2 zero3 zero4 mark
    simp [Ipv6Addr.ofSegments, Nat.div_add_mod']
  next => cases mapped

theorem readIpv6_ipv6Chars (address : Ipv6Addr) :
    readIpv6 (ipv6Chars address) = some (address, []) := by
  rw [ipv6Chars]
  cases mapped : address.toIpv4Mapped with
  | some inner => exact readIpv6_mapped mapped
  | none =>
      have span := zeroSpan_longestZeros address.segments
      simp only
      generalize longestZeros address.segments 0 ⟨0, 0⟩ ⟨0, 0⟩ = zeros at span ⊢
      rcases span with ⟨before, after, split, startEq⟩
      split
      next long =>
        have lengthEq := startEq (by omega)
        have beforeEq : address.segments.take zeros.start = before := by
          rw [← lengthEq, split, List.append_assoc]
          exact List.take_left
        have afterEq : address.segments.drop (zeros.start + zeros.len) = after := by
          rw [← lengthEq, split]
          exact List.drop_left' (by simp)
        rw [beforeEq, afterEq]
        exact readIpv6_compressed address long split
      next => exact readIpv6_groups address

private theorem readIpv4_ipv6Chars (address : Ipv6Addr) :
    readIpv4 (ipv6Chars address) = none := by
  rw [ipv6Chars]
  cases mapped : address.toIpv4Mapped with
  | some inner => rfl
  | none =>
      apply readIpv4_eq_none
      simp only
      split <;> simp [dot_not_mem_groupChars]

/-- Reading a printed address gives the address back. -/
@[simp] theorem parse_toText (address : IpAddr) : parse (toText address) = some address := by
  rw [parse, toText, String.toList_ofList, parseChars]
  cases address with
  | v4 address =>
      have read := readIpv4_ipv4Chars address (@noDigitHead_nil 10)
      rw [List.append_nil] at read
      simp [toChars, read, complete]
  | v6 address =>
      simp [toChars, readIpv4_ipv6Chars, readIpv6_ipv6Chars, complete]

end RoundTrip

/-! ## Address blocks -/

/-- The address itself, or the IPv4 address an IPv4-mapped one stands for. -/
def IpAddr.canonical : IpAddr → IpAddr
  | .v4 address => .v4 address
  | .v6 address =>
      match address.toIpv4Mapped with
      | some inner => .v4 inner
      | none => .v6 address

/-- A base address and the number of leading bits that matter. -/
structure Cidr where
  base : IpAddr
  prefixLen : Nat
  deriving DecidableEq, Repr

/-- Whether the block covers an address.  Blocks and addresses are compared in
canonical form, so families never mix. -/
def Cidr.contains (block : Cidr) (address : IpAddr) : Bool :=
  match block.base.canonical, address.canonical with
  | .v4 base, .v4 address =>
      base.toNat / 2 ^ (32 - block.prefixLen) == address.toNat / 2 ^ (32 - block.prefixLen)
  | .v6 base, .v6 address =>
      base.toNat / 2 ^ (128 - block.prefixLen) == address.toNat / 2 ^ (128 - block.prefixLen)
  | _, _ => false

/-- The number of bits of an address in canonical form. -/
def IpAddr.width (address : IpAddr) : Nat :=
  match address.canonical with
  | .v4 _ => 32
  | .v6 _ => 128

/-- Read `address` or `address/length`. -/
def Cidr.parse (text : String) : Option Cidr := do
  let addressChars := text.toList.takeWhile (· != '/')
  let base ← parseChars addressChars
  match text.toList.drop addressChars.length with
  | [] => return ⟨base, base.width⟩
  | _ :: lengthChars =>
      let (length, rest) ← readNumber 10 3 (base.width + 1) true lengthChars
      if rest.isEmpty then return ⟨base, length⟩ else none

/-! ### Addresses as blocks -/

/-- The characters that addresses are printed with. -/
def addressChars : List Char := "0123456789abcdef.:".toList

theorem mem_addressChars_of_toDigits {radix number : Nat} (radixGt : 1 < radix)
    (radixLe : radix ≤ 16) {char : Char} (member : char ∈ Nat.toDigits radix number) :
    char ∈ addressChars := by
  have digits : ∀ digit < 16, Nat.digitChar digit ∈ addressChars := by decide
  by_contra foreign
  apply not_mem_toDigits radixGt radixLe _ number member
  intro digit small same
  exact foreign (same ▸ digits digit small)

theorem mem_addressChars_of_ipv4Chars {address : Ipv4Addr} {char : Char}
    (member : char ∈ ipv4Chars address) : char ∈ addressChars := by
  have octets {octet : Fin 256} (member : char ∈ decimal octet) : char ∈ addressChars :=
    mem_addressChars_of_toDigits (by decide) (by decide) member
  have dot : '.' ∈ addressChars := by decide
  simp only [ipv4Chars, List.mem_append, List.mem_cons] at member
  rcases member with first | rfl | second | rfl | third | rfl | fourth
  · exact octets first
  · exact dot
  · exact octets second
  · exact dot
  · exact octets third
  · exact dot
  · exact octets fourth

theorem mem_addressChars_of_groupChars {groups : List (Fin 65536)} {char : Char}
    (member : char ∈ groupChars groups) : char ∈ addressChars := by
  have digits {group : Fin 65536} (member : char ∈ hex group) : char ∈ addressChars :=
    mem_addressChars_of_toDigits (by decide) (by decide) member
  cases groups with
  | nil => cases member
  | cons group groups =>
      simp only [groupChars, groupTail, List.mem_append, List.mem_flatMap,
        List.mem_cons] at member
      rcases member with first | ⟨later, _, rfl | within⟩
      · exact digits first
      · decide
      · exact digits within

theorem mem_addressChars {address : IpAddr} {char : Char} (member : char ∈ toChars address) :
    char ∈ addressChars := by
  have mapped : ("::ffff:".toList.all (addressChars.contains ·)) = true := by decide
  have colon : ':' ∈ addressChars := by decide
  cases address with
  | v4 address => exact mem_addressChars_of_ipv4Chars member
  | v6 address =>
      rw [toChars, ipv6Chars] at member
      split at member
      next =>
        rcases List.mem_append.1 member with wrapper | inner
        · exact List.contains_iff_mem.1 (List.all_eq_true.1 mapped char wrapper)
        · exact mem_addressChars_of_ipv4Chars inner
      next =>
        dsimp only at member
        split at member
        next =>
          simp only [List.mem_append, List.mem_cons] at member
          rcases member with before | rfl | rfl | after
          · exact mem_addressChars_of_groupChars before
          · exact colon
          · exact colon
          · exact mem_addressChars_of_groupChars after
        next => exact mem_addressChars_of_groupChars member

/-- A printed address is read as the block of that one address. -/
theorem Cidr.parse_toText (address : IpAddr) :
    Cidr.parse (toText address) = some ⟨address, address.width⟩ := by
  have whole : (toChars address).takeWhile (· != '/') = toChars address := by
    rw [List.takeWhile_eq_self_iff]
    intro char member
    have plain : (addressChars.all (· != '/')) = true := by decide
    exact List.all_eq_true.1 plain char (mem_addressChars member)
  have read : parseChars (toChars address) = some address := by
    have read := Ip.parse_toText address
    rwa [Ip.parse, toText, String.toList_ofList] at read
  simp [Cidr.parse, toText, whole, read]

theorem Cidr.base_of_parse {text : String} {block : Cidr}
    (parsed : Cidr.parse text = some block) :
    parseChars (text.toList.takeWhile (· != '/')) = some block.base := by
  rcases Option.bind_eq_some_iff.1 parsed with ⟨base, read, parsed⟩
  rw [read]
  split at parsed
  next =>
    cases parsed
    rfl
  next =>
    rcases Option.bind_eq_some_iff.1 parsed with ⟨⟨length, rest⟩, _, parsed⟩
    dsimp only at parsed
    split at parsed
    next =>
      cases parsed
      rfl
    next => cases parsed

theorem Cidr.contains_self (address : IpAddr) (prefixLen : Nat) :
    Cidr.contains ⟨address, prefixLen⟩ address = true := by
  rw [Cidr.contains]
  cases address.canonical <;> simp

/-- An IPv4 block by the leading bits of its addresses. -/
theorem Cidr.contains_v4 {base address : Ipv4Addr} {prefixLen : Nat} (shift leading : Nat)
    (shifted : 32 - prefixLen = shift) (bits : base.toNat / 2 ^ shift = leading) :
    Cidr.contains ⟨.v4 base, prefixLen⟩ (.v4 address) =
      (leading == address.toNat / 2 ^ shift) := by
  rw [← bits, ← shifted]
  rfl

theorem Cidr.contains_v6_v4 {base : Ipv6Addr} {address : Ipv4Addr} {prefixLen : Nat}
    (unmapped : base.toIpv4Mapped = none) :
    Cidr.contains ⟨.v6 base, prefixLen⟩ (.v4 address) = false := by
  simp only [Cidr.contains, IpAddr.canonical, unmapped]

/-- An IPv6 block by the leading bits of its addresses. -/
theorem Cidr.contains_v6 {base address : Ipv6Addr} {prefixLen : Nat} (shift leading : Nat)
    (baseUnmapped : base.toIpv4Mapped = none) (unmapped : address.toIpv4Mapped = none)
    (shifted : 128 - prefixLen = shift) (bits : base.toNat / 2 ^ shift = leading) :
    Cidr.contains ⟨.v6 base, prefixLen⟩ (.v6 address) =
      (leading == address.toNat / 2 ^ shift) := by
  rw [← bits, ← shifted]
  simp only [Cidr.contains, IpAddr.canonical, baseUnmapped, unmapped]

theorem Cidr.contains_v4_v6 {base : Ipv4Addr} {address : Ipv6Addr} {prefixLen : Nat}
    (unmapped : address.toIpv4Mapped = none) :
    Cidr.contains ⟨.v4 base, prefixLen⟩ (.v6 address) = false := by
  simp only [Cidr.contains, IpAddr.canonical, unmapped]

/-- Blocks do not tell an IPv4-mapped address from the one it stands for. -/
theorem Cidr.contains_mapped {address : Ipv6Addr} {inner : Ipv4Addr} (block : Cidr)
    (mapped : address.toIpv4Mapped = some inner) :
    block.contains (.v6 address) = block.contains (.v4 inner) := by
  simp only [Cidr.contains, IpAddr.canonical, mapped]

end Foundation.Ip
