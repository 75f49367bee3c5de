import Varmlen.Foundation.TextParts
import Varmlen.Foundation.Utf8Lossy
import Varmlen.Daemon.DirectDns
import Varmlen.Daemon.Request

/-!
# The DNS probe

Before a connection counts as protected the daemon asks a resolver through the tunnel
(`daemon/src/dns.rs`).  The question is for the domain that was given, and the echo of a
question is no answer to it.
-/

namespace Varmlen.Daemon

open Foundation.Text Foundation.Utf8
open Foundation.Files (Bytes)

/-! ## Messages -/

def be16 (value : UInt16) : Bytes := [.ofNat (value.toNat / 256), .ofNat value.toNat]

/-- A label of a domain name. -/
def isLabel (label : String) : Bool :=
  label != "" && decide (byteLength label ≤ 63) && label.toList.all isAscii

def addLabels : List String → Bytes → Except DaemonError Bytes
  | [], query => .ok query
  | label :: rest, query =>
      if isLabel label then
        addLabels rest (query ++ .ofNat (byteLength label) :: encode label.toList)
      else .error ⟨.dnsVerificationFailed, "invalid DNS probe domain"⟩

def buildDnsQuery (transactionId : UInt16) (domain : String) : Except DaemonError Bytes :=
  match addLabels (split '.' domain)
      (be16 transactionId ++ [0x01, 0x00] ++ be16 1 ++ be16 0 ++ be16 0 ++ be16 0) with
  | .error error => .error error
  | .ok named =>
      let query := named ++ [0] ++ be16 1 ++ be16 1
      if 512 < query.length then
        .error ⟨.dnsVerificationFailed, "DNS probe query is too large"⟩
      else .ok query

def validateDnsResponse (transactionId : UInt16) (response : Bytes) : Bool :=
  decide (12 ≤ response.length) && response.take 2 == be16 transactionId &&
    response.getD 2 0 &&& 0x80 != 0

/-! ## What a resolver reads -/

/-- The labels of a name that is written out, and what follows it. -/
def readName : (labels : Nat) → Bytes → Option (List Bytes × Bytes)
  | _, [] => none
  | 0, length :: rest => if length = 0 then some ([], rest) else none
  | labels + 1, length :: rest =>
      if length = 0 then some ([], rest)
      else if 63 < length.toNat ∨ rest.length < length.toNat then none
      else (readName labels (rest.drop length.toNat)).map fun (others, after) =>
        (rest.take length.toNat :: others, after)

/-- A question for the addresses of a domain, one that is no response. -/
structure Asks (transactionId : UInt16) (domain : String) (query : Bytes) : Prop where
  transaction : query.take 2 = be16 transactionId
  isQuery : validDnsQuery query = true
  question : ∃ labels, readName query.length (query.drop 12) = some (labels, be16 1 ++ be16 1) ∧
    ".".intercalate (labels.map fromUtf8Lossy) = domain
  bounded : query.length ≤ 512

/-- The domains that can be asked for. -/
def IsAskable (domain : String) : Prop :=
  (∀ label ∈ split '.' domain, isLabel label = true) ∧ byteLength domain ≤ 494

section Query

variable {transactionId : UInt16} {domain : String} {labels : List String} {query : Bytes}

/-- The bytes of a name. -/
def nameBytes (labels : List String) : Bytes :=
  labels.flatMap fun label => .ofNat (byteLength label) :: encode label.toList

theorem addLabels_eq (labels : List String) (query : Bytes) :
    addLabels labels query =
      if labels.all isLabel then .ok (query ++ nameBytes labels)
      else .error ⟨.dnsVerificationFailed, "invalid DNS probe domain"⟩ := by
  induction labels generalizing query with
  | nil => simp [addLabels, nameBytes]
  | cons label rest ih =>
      rw [addLabels, List.all_cons]
      cases isLabel label with
      | false => rfl
      | true =>
          rw [if_pos rfl, ih, Bool.true_and]
          simp only [nameBytes, List.flatMap_cons, List.append_assoc]

theorem length_label (label : String) : (encode label.toList).length = byteLength label :=
  length_encode label.toList

/-- A name is read as its labels. -/
theorem readName_nameBytes (valid : ∀ label ∈ labels, isLabel label = true) (rest : Bytes)
    {count : Nat} (enough : labels.length ≤ count) :
    readName count (nameBytes labels ++ 0 :: rest) =
      some (labels.map fun label => encode label.toList, rest) := by
  induction labels generalizing count with
  | nil => cases count <;> rfl
  | cons label labels ih =>
      rw [List.forall_mem_cons] at valid
      cases count with
      | zero => cases enough
      | succ count =>
          have length := length_label label
          obtain ⟨⟨nonempty, short⟩, _⟩ : (label ≠ "" ∧ byteLength label ≤ 63) ∧ _ := by
            simpa only [isLabel, Bool.and_eq_true, bne_iff_ne, decide_eq_true_eq] using valid.1
          have positive : 0 < byteLength label := by
            cases chars : label.toList with
            | nil => exact absurd (String.toList_eq_nil_iff.1 chars) nonempty
            | cons char others =>
                have size := char.utf8Size_pos
                rw [byteLength, chars, List.map_cons, List.sum_cons]
                omega
          have counted : (UInt8.ofNat (byteLength label)).toNat = byteLength label := by
            rw [UInt8.toNat_ofNat']
            omega
          have notEnd : UInt8.ofNat (byteLength label) ≠ 0 := by
            intro isZero
            rw [isZero] at counted
            exact absurd counted.symm (Nat.ne_of_gt positive)
          have others := ih valid.2 (Nat.le_of_succ_le_succ enough)
          rw [nameBytes, List.flatMap_cons, List.cons_append, List.cons_append, List.append_assoc,
            readName, if_neg notEnd, counted, if_neg, List.take_left' length,
            List.drop_left' length]
          · change (readName count (nameBytes labels ++ 0 :: rest)).map _ = _
            rw [others]
            rfl
          · rw [List.length_append, length]
            omega

/-- The labels of a domain take up a byte more each than they have characters. -/
theorem length_nameBytes (parts : List (List Char)) (nonempty : parts ≠ []) :
    (nameBytes (parts.map String.ofList)).length = bytes (['.'].intercalate parts) + 1 := by
  induction parts with
  | nil => exact absurd rfl nonempty
  | cons first rest ih =>
      have head : (encode first).length = bytes first := length_encode first
      cases rest with
      | nil => simp [nameBytes, head]
      | cons second rest =>
          have others := ih (List.cons_ne_nil _ _)
          rw [List.map_cons, nameBytes, List.flatMap_cons, List.length_append,
            List.intercalate_cons_cons, bytes_append, bytes_append]
          change _ + (nameBytes ((second :: rest).map String.ofList)).length = _
          rw [others, List.length_cons, String.toList_ofList, head]
          have dot : bytes ['.'] = 1 := by decide
          omega

theorem length_query (domain : String) :
    (nameBytes (split '.' domain)).length = byteLength domain + 1 := by
  have nonempty : domain.toList.splitOn '.' ≠ [] := List.splitOn_ne_nil _ _
  have joined : ['.'].intercalate (domain.toList.splitOn '.') = domain.toList :=
    List.intercalate_splitOn _
  rw [split, length_nameBytes _ nonempty, joined]
  rfl

theorem length_le_nameBytes (labels : List String) : labels.length ≤ (nameBytes labels).length := by
  induction labels with
  | nil => exact Nat.le_refl 0
  | cons label rest ih =>
      rw [nameBytes, List.flatMap_cons, List.length_append, List.length_cons, List.length_cons]
      change rest.length + 1 ≤ _ + (nameBytes rest).length
      omega

/-- The domain is there again when its labels are put together. -/
theorem intercalate_split (domain : String) :
    ".".intercalate
        (((split '.' domain).map fun label => encode label.toList).map fromUtf8Lossy) =
      domain := by
  have same (label : String) : fromUtf8Lossy (encode label.toList) = label := by
    have decoded := @decode_encode [] label.toList
    rw [List.append_nil] at decoded
    rw [fromUtf8Lossy, decoded, decode, List.append_nil, String.ofList_toList]
  have labels : ((split '.' domain).map fun label => encode label.toList).map fromUtf8Lossy =
      split '.' domain := by
    simp [List.map_map, Function.comp_def, same]
  apply String.toList_inj.1
  rw [labels, String.toList_intercalate, split, List.map_map]
  have parts : (domain.toList.splitOn '.').map (String.toList ∘ String.ofList) =
      domain.toList.splitOn '.' := by
    simp [Function.comp_def]
  rw [parts]
  exact List.intercalate_splitOn _

/-- The fields in front of a name. -/
def queryHeader (transactionId : UInt16) : Bytes :=
  be16 transactionId ++ [0x01, 0x00] ++ be16 1 ++ be16 0 ++ be16 0 ++ be16 0

theorem buildDnsQuery_eq (transactionId : UInt16) (domain : String) :
    buildDnsQuery transactionId domain =
      if (split '.' domain).all isLabel then
        if 494 < byteLength domain then
          .error ⟨.dnsVerificationFailed, "DNS probe query is too large"⟩
        else
          .ok (queryHeader transactionId ++ (nameBytes (split '.' domain) ++
            0 :: (be16 1 ++ be16 1)))
      else .error ⟨.dnsVerificationFailed, "invalid DNS probe domain"⟩ := by
  have length : (queryHeader transactionId ++ nameBytes (split '.' domain) ++ [0] ++ be16 1 ++
      be16 1).length = byteLength domain + 18 := by
    simp only [List.length_append, length_query]
    simp [queryHeader, be16]
    omega
  rw [buildDnsQuery, addLabels_eq]
  cases (split '.' domain).all isLabel with
  | false => rfl
  | true =>
      simp only [if_true]
      change (if 512 < (queryHeader transactionId ++ nameBytes (split '.' domain) ++ [0] ++
        be16 1 ++ be16 1).length then _ else _) = _
      rw [length]
      by_cases large : 494 < byteLength domain
      · rw [if_pos large, if_pos (by omega)]
      · rw [if_neg large, if_neg (by omega)]
        simp only [queryHeader, List.append_assoc, List.cons_append, List.nil_append]

/-- The question in a message that is built. -/
theorem asks_query (transactionId : UInt16) (askable : IsAskable domain) :
    Asks transactionId domain
      (queryHeader transactionId ++ (nameBytes (split '.' domain) ++ 0 :: (be16 1 ++ be16 1))) where
  transaction := rfl
  isQuery := by
    have twelve : 12 ≤ (queryHeader transactionId ++
        (nameBytes (split '.' domain) ++ 0 :: (be16 1 ++ be16 1))).length := by
      simp [queryHeader, be16]
    have flags : (queryHeader transactionId ++
        (nameBytes (split '.' domain) ++ 0 :: (be16 1 ++ be16 1))).getD 2 0 = 0x01 := rfl
    rw [validDnsQuery, decide_eq_true twelve, flags]
    decide
  question := by
    refine ⟨_, ?_, intercalate_split domain⟩
    have count := length_le_nameBytes (split '.' domain)
    change readName _ (nameBytes (split '.' domain) ++ 0 :: (be16 1 ++ be16 1)) = _
    rw [readName_nameBytes askable.1 (be16 1 ++ be16 1) (by simp; omega)]
  bounded := by
    have short := askable.2
    simp only [List.length_append, List.length_cons, length_query]
    simp [queryHeader, be16]
    omega

end Query

/-- A question is for the domain that is asked for, and every domain can be asked for whose
labels are valid and that is not too long. -/
theorem buildDnsQuery_asks (transactionId : UInt16) (domain : String) :
    (IsAskable domain → ∃ query, buildDnsQuery transactionId domain = .ok query) ∧
    (∀ query, buildDnsQuery transactionId domain = .ok query →
      IsAskable domain ∧ Asks transactionId domain query ∧
        ∀ other, validateDnsResponse other query = false) ∧
    ∀ error, buildDnsQuery transactionId domain = .error error →
      error.code = .dnsVerificationFailed := by
  rw [buildDnsQuery_eq]
  refine ⟨?_, ?_, ?_⟩
  · intro ⟨labels, short⟩
    rw [if_pos (List.all_eq_true.2 labels), if_neg (Nat.not_lt.2 short)]
    exact ⟨_, rfl⟩
  · intro query built
    split at built
    next labels =>
      split at built
      next => cases built
      next short =>
        cases built
        have askable : IsAskable domain := ⟨List.all_eq_true.1 labels, Nat.le_of_not_lt short⟩
        refine ⟨askable, asks_query transactionId askable, ?_⟩
        intro other
        have flags : (queryHeader transactionId ++
            (nameBytes (split '.' domain) ++ 0 :: (be16 1 ++ be16 1))).getD 2 0 = 0x01 := rfl
        rw [validateDnsResponse, flags, Bool.and_eq_false_iff]
        exact .inr (by decide)
    next => cases built
  · intro error failed
    split at failed
    next =>
      split at failed
      next =>
        cases failed
        rfl
      next => cases failed
    next =>
      cases failed
      rfl

end Varmlen.Daemon
