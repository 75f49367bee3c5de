import Varmlen.Foundation.Utf8

/-!
# Reading bytes as UTF-8

Any bytes become a text: what is no character becomes the replacement character, one for
each stretch that begins like a character and for each byte that cannot begin one, as the
Rust standard library does it.  A text that was written comes back as it was.
-/

namespace Foundation.Utf8

/-- `U+FFFD`. -/
def replacement : Char := '\uFFFD'

/-- A character whose first bytes were read: the bytes that are missing, the values that
the next one may have, and the bits so far. -/
structure Started where
  missing : Nat
  low : Nat
  high : Nat
  bits : Nat
  deriving DecidableEq, Repr

/-- The first byte of a character of several.  The second byte is bounded where a shorter
form or a surrogate, or a number that is too large, would come out. -/
def lead (byte : Nat) : Option Started :=
  if 0xC2 ≤ byte ∧ byte ≤ 0xDF then some ⟨1, 0x80, 0xBF, byte - 0xC0⟩
  else if byte = 0xE0 then some ⟨2, 0xA0, 0xBF, 0x0⟩
  else if byte = 0xED then some ⟨2, 0x80, 0x9F, 0xD⟩
  else if 0xE1 ≤ byte ∧ byte ≤ 0xEF then some ⟨2, 0x80, 0xBF, byte - 0xE0⟩
  else if byte = 0xF0 then some ⟨3, 0x90, 0xBF, 0⟩
  else if byte = 0xF4 then some ⟨3, 0x80, 0x8F, 4⟩
  else if 0xF1 ≤ byte ∧ byte ≤ 0xF3 then some ⟨3, 0x80, 0xBF, byte - 0xF0⟩
  else none

/-- Read a byte between two characters. -/
def start (byte : Nat) : List Char × Option Started :=
  if byte < 0x80 then ([Char.ofNat byte], none)
  else
    match lead byte with
    | some started => ([], some started)
    | none => ([replacement], none)

/-- Read a byte inside a character; another byte begins anew. -/
def resume (started : Started) (byte : Nat) : List Char × Option Started :=
  if started.low ≤ byte ∧ byte ≤ started.high then
    let bits := started.bits * 64 + byte % 64
    if started.missing = 1 then ([Char.ofNat bits], none)
    else ([], some ⟨started.missing - 1, 0x80, 0xBF, bits⟩)
  else (replacement :: (start byte).1, (start byte).2)

def decode : Option Started → List UInt8 → List Char
  | none, [] => []
  | some _, [] => [replacement]
  | none, byte :: rest => (start byte.toNat).1 ++ decode (start byte.toNat).2 rest
  | some started, byte :: rest =>
      (resume started byte.toNat).1 ++ decode (resume started byte.toNat).2 rest

/-- `String::from_utf8_lossy`. -/
def fromUtf8Lossy (bytes : List UInt8) : String := String.ofList (decode none bytes)

/-- The bytes of a text. -/
def encode (chars : List Char) : List UInt8 := chars.flatMap String.utf8EncodeChar

theorem length_encode (chars : List Char) :
    (encode chars).length = bytes chars := by
  induction chars with
  | nil => rfl
  | cons char rest ih =>
      rw [encode, List.flatMap_cons, List.length_append, String.length_utf8EncodeChar, bytes_cons]
      exact congrArg (char.utf8Size + ·) ih

section RoundTrip

variable {started : Started} {byte bits : Nat} {rest : List UInt8}

theorem decode_start (small : byte < 256) :
    decode none (UInt8.ofNat byte :: rest) = (start byte).1 ++ decode (start byte).2 rest := by
  rw [decode, UInt8.toNat_ofNat', Nat.mod_eq_of_lt small]

theorem decode_resume (small : byte < 256) :
    decode (some started) (UInt8.ofNat byte :: rest) =
      (resume started byte).1 ++ decode (resume started byte).2 rest := by
  rw [decode, UInt8.toNat_ofNat', Nat.mod_eq_of_lt small]

/-- The first byte of a character of several. -/
theorem decode_lead (first : lead byte = some started) (high : 0x80 ≤ byte)
    (small : byte < 256) :
    decode none (UInt8.ofNat byte :: rest) = decode (some started) rest := by
  rw [decode_start small, start, if_neg (Nat.not_lt.2 high), first, List.nil_append]

/-- A byte that is not the last one of its character. -/
theorem decode_middle {missing low high : Nat} (above : low ≤ bits + 0x80)
    (below : bits + 0x80 ≤ high) (small : bits < 64) (value : Nat) :
    decode (some ⟨missing + 2, low, high, value⟩) (UInt8.ofNat (bits + 0x80) :: rest) =
      decode (some ⟨missing + 1, 0x80, 0xBF, value * 64 + bits⟩) rest := by
  have six : (bits + 0x80) % 64 = bits := by omega
  rw [decode_resume (by omega), resume, if_pos ⟨above, below⟩, six, if_neg (by simp)]
  rfl

/-- The last byte of a character. -/
theorem decode_last {low high : Nat} (above : low ≤ bits + 0x80)
    (below : bits + 0x80 ≤ high) (small : bits < 64) (value : Nat) :
    decode (some ⟨1, low, high, value⟩) (UInt8.ofNat (bits + 0x80) :: rest) =
      Char.ofNat (value * 64 + bits) :: decode none rest := by
  have six : (bits + 0x80) % 64 = bits := by omega
  rw [decode_resume (by omega), resume, if_pos ⟨above, below⟩, six, if_pos rfl]
  rfl

theorem lead_two : ∀ top < 32, 2 ≤ top → lead (top + 0xC0) = some ⟨1, 0x80, 0xBF, top⟩ := by
  decide

theorem lead_three : ∀ top < 16, lead (top + 0xE0) =
    some ⟨2, if top = 0 then 0xA0 else 0x80, if top = 0xD then 0x9F else 0xBF, top⟩ := by
  decide

theorem lead_four : ∀ top < 5, lead (top + 0xF0) =
    some ⟨3, if top = 0 then 0x90 else 0x80, if top = 4 then 0x8F else 0xBF, top⟩ := by
  decide

theorem decode_encodeChar (char : Char) :
    decode none (String.utf8EncodeChar char ++ rest) = char :: decode none rest := by
  have valid : char.val.toNat < 0xD800 ∨ 0xDFFF < char.val.toNat ∧ char.val.toNat < 0x110000 :=
    char.valid
  have same : Char.ofNat char.val.toNat = char := Char.ofNat_toNat char
  rw [String.utf8EncodeChar]
  generalize char.val.toNat = value at valid same
  split
  next one =>
    rw [List.singleton_append, decode_start (by omega), start, if_pos (by omega), same,
      List.singleton_append]
  next several =>
    split
    next two =>
      rw [Nat.mod_eq_of_lt (by omega)]
      simp only [List.cons_append, List.nil_append]
      rw [decode_lead (lead_two _ (by omega) (by omega)) (by omega) (by omega),
        decode_last (by omega) (by omega) (by omega)]
      rw [← same]
      congr 2
      omega
    next more =>
      split
      next three =>
        have top : value / 4096 < 16 := by omega
        rw [Nat.mod_eq_of_lt top]
        simp only [List.cons_append, List.nil_append]
        rw [decode_lead (lead_three _ top) (by omega) (by omega)]
        rw [decode_middle, decode_last (by omega) (by omega) (by omega), ← same]
        · congr 2
          omega
        · split <;> omega
        · split <;> omega
        · omega
      next four =>
        have top : value / 262144 < 5 := by omega
        rw [Nat.mod_eq_of_lt (Nat.lt_of_lt_of_le top (by decide))]
        simp only [List.cons_append, List.nil_append]
        rw [decode_lead (lead_four _ top) (by omega) (by omega)]
        rw [decode_middle, decode_middle (by omega) (by omega) (by omega),
          decode_last (by omega) (by omega) (by omega), ← same]
        · congr 2
          omega
        · split <;> omega
        · split <;> omega
        · omega

/-- What was written is read. -/
theorem decode_encode (chars : List Char) : decode none (encode chars ++ rest) =
    chars ++ decode none rest := by
  induction chars with
  | nil => rfl
  | cons char chars ih =>
      rw [encode, List.flatMap_cons, List.append_assoc, decode_encodeChar]
      exact congrArg (char :: ·) ih

end RoundTrip

/-! ## Parts of a text -/

theorem encode_append (left right : List Char) :
    encode (left ++ right) = encode left ++ encode right := List.flatMap_append

/-- The bytes of a character of several are all from 128 on. -/
theorem high_of_mem {char : Char} {byte : UInt8} (member : byte ∈ String.utf8EncodeChar char)
    (several : ¬char.val.toNat ≤ 0x7f) : 128 ≤ byte.toNat := by
  rw [String.utf8EncodeChar, if_neg several] at member
  generalize char.val.toNat = value at member
  split at member
  next =>
    rcases List.mem_pair.1 member with rfl | rfl
    · rw [UInt8.toNat_ofNat']
      omega
    · rw [UInt8.toNat_ofNat']
      omega
  next =>
    split at member
    next =>
      simp only [List.mem_cons, List.not_mem_nil, or_false] at member
      rcases member with rfl | rfl | rfl <;> rw [UInt8.toNat_ofNat'] <;> omega
    next =>
      simp only [List.mem_cons, List.not_mem_nil, or_false] at member
      rcases member with rfl | rfl | rfl | rfl <;> rw [UInt8.toNat_ofNat'] <;> omega

/-- A byte below 128 is a character of its own. -/
theorem encodeChar_of_mem {char : Char} {byte : UInt8} (member : byte ∈ String.utf8EncodeChar char)
    (ascii : byte.toNat < 128) :
    char.toNat = byte.toNat ∧ String.utf8EncodeChar char = [byte] := by
  have one : char.val.toNat ≤ 0x7f := by
    by_contra several
    exact absurd (high_of_mem member several) (Nat.not_le.2 ascii)
  rw [String.utf8EncodeChar, if_pos one] at member ⊢
  have small : char.val.toNat % 2 ^ 8 = char.val.toNat := Nat.mod_eq_of_lt (by omega)
  rw [List.mem_singleton.1 member, UInt8.toNat_ofNat', small]
  exact ⟨rfl, rfl⟩

/-- Where a byte below 128 stands, a character of the text does. -/
theorem split_of_encode {chars : List Char} {front back : List UInt8} {byte : UInt8}
    (ascii : byte.toNat < 128) (split : encode chars = front ++ byte :: back) :
    ∃ left char right, chars = left ++ char :: right ∧ char.toNat = byte.toNat ∧
      front = encode left ∧ back = encode right := by
  induction chars generalizing front with
  | nil => simp [encode] at split
  | cons first rest ih =>
      have text : String.utf8EncodeChar first ++ encode rest = front ++ byte :: back := split
      rcases List.append_eq_append_iff.1 text with ⟨more, isFront, tail⟩ | ⟨more, isFirst, tail⟩
      · rcases ih tail with ⟨left, char, right, rfl, code, rfl, rfl⟩
        exact ⟨first :: left, char, right, rfl, code, isFront, rfl⟩
      · cases more with
        | nil =>
            have later : encode rest = [] ++ byte :: back := tail.symm
            rcases ih later with ⟨left, char, right, rfl, code, none, rfl⟩
            refine ⟨first :: left, char, right, rfl, code, ?_, rfl⟩
            rw [List.append_nil] at isFirst
            rw [encode, List.flatMap_cons, ← encode, ← none, List.append_nil, isFirst]
        | cons head more =>
            rw [List.cons_append, List.cons.injEq] at tail
            have member : byte ∈ String.utf8EncodeChar first := by
              rw [isFirst, tail.1]
              simp
            rcases encodeChar_of_mem member ascii with ⟨code, alone⟩
            rw [alone] at isFirst
            rcases front with _ | ⟨_, front⟩
            · rw [List.nil_append, List.cons.injEq] at isFirst
              refine ⟨[], first, rest, rfl, code, rfl, ?_⟩
              rw [tail.2, ← isFirst.2, List.nil_append]
            · simp at isFirst

end Foundation.Utf8
