import Varmlen.Foundation.JsonCompact
import Varmlen.Foundation.JsonSize
import Varmlen.Daemon.Envelope

/-!
# The size of a request

The bounds on a request are on its texts as they are, the bound on a frame is on the JSON
that carries them (`daemon/src/protocol.rs`).  A frame is as long as the escaped texts and
an envelope that 4096 bytes are enough for.
-/

namespace Varmlen.Daemon.Protocol

open Foundation.Ip Foundation.Json Foundation.Serde Foundation.Utf8

/-- Frames that are JSON texts. -/
def jsonWire (read : JsonReader) (parseUrl : String → Option Core.Url) : Wire String where
  write := Value.toText
  read text := (read text).toOption
  length := byteLength
  parseUrl

/-- The escaped texts of a request. -/
def payloadBytes (request : ConnectRequest) : Nat :=
  escapedBytes request.xrayConfig + escapedBytes request.validationConfig +
    (request.excludedApps.map escapedBytes).sum

/-- The request with every text empty. -/
def envelopeOf (request : ConnectRequest) : ConnectRequest :=
  { request with
    xrayConfig := ""
    validationConfig := ""
    excludedApps := request.excludedApps.map fun _ => "" }

/-- The bytes of the frame of a request. -/
def frameBytes (request : ConnectRequest) (operationId : UInt64) : Nat :=
  (requestFormat.write ⟨protocolVersion, operationId, .connect request⟩).textBytes

theorem encodeFrame_json (read : JsonReader) (parseUrl : String → Option Core.Url)
    (document : Value) :
    encodeFrame (jsonWire read parseUrl) document =
      if document.textBytes ≤ maxFrameBytes then .ok document.toText
      else .error .frameTooLarge := by
  have size : (jsonWire read parseUrl).length ((jsonWire read parseUrl).write document) =
      document.textBytes := rfl
  rw [encodeFrame, size]
  split
  next large => rw [if_neg (Nat.not_le.2 large)]
  next fits =>
    rw [if_pos (Nat.le_of_not_lt fits)]
    rfl

/-! ## Numbers and addresses -/

section Numbers

theorem textBytes_number {number digits : Nat} (positive : 0 < digits)
    (small : number < 10 ^ digits) :
    (Value.number (.int (.ofNat number))).textBytes ≤ digits := by
  have text : (Value.number (.int (.ofNat number))).toText.toList = Nat.toDigits 10 number :=
    Nat.toList_repr
  have ascii : ∀ char ∈ Nat.toDigits 10 number, isAscii char = true := fun char member =>
    isAscii_of_isDigit (Nat.isDigit_of_mem_toDigits (by decide) (by decide) member)
  rw [Value.textBytes, text, bytes_eq_length_iff.2 ascii]
  exact (Nat.length_toDigits_le_iff (by decide) positive).2 small

theorem length_decimal (octet : Fin 256) : (decimal octet).length ≤ 3 :=
  (Nat.length_toDigits_le_iff (by decide) (by decide)).2
    (Nat.lt_trans octet.isLt (by decide))

theorem length_hex (group : Fin 65536) : (hex group).length ≤ 4 :=
  (Nat.length_toDigits_le_iff (by decide) (by decide)).2 group.isLt

theorem length_ipv4Chars (address : Ipv4Addr) : (ipv4Chars address).length ≤ 15 := by
  have a := length_decimal address.a
  have b := length_decimal address.b
  have c := length_decimal address.c
  have d := length_decimal address.d
  simp only [ipv4Chars, List.length_append, List.length_cons]
  omega

theorem length_groupTail (groups : List (Fin 65536)) :
    (groupTail groups).length ≤ 5 * groups.length := by
  induction groups with
  | nil => exact Nat.le_refl 0
  | cons group rest ih =>
      have digits := length_hex group
      rw [groupTail, List.flatMap_cons, List.length_append, List.length_cons, List.length_cons]
      rw [groupTail] at ih
      omega

theorem length_groupChars (groups : List (Fin 65536)) :
    (groupChars groups).length ≤ 5 * groups.length := by
  cases groups with
  | nil => exact Nat.le_refl 0
  | cons group rest =>
      have digits := length_hex group
      have tail := length_groupTail rest
      rw [groupChars, List.length_append, List.length_cons]
      omega

theorem length_toChars (address : IpAddr) : (toChars address).length ≤ 42 := by
  cases address with
  | v4 address => exact Nat.le_trans (length_ipv4Chars address) (by decide)
  | v6 address =>
      rw [toChars, ipv6Chars]
      split
      next inner _ =>
        have mapped := length_ipv4Chars inner
        have start : "::ffff:".toList.length = 7 := rfl
        rw [List.length_append, start]
        omega
      next =>
        have eight := address.segments_length
        dsimp only
        generalize longestZeros address.segments 0 ⟨0, 0⟩ ⟨0, 0⟩ = zeros
        split
        next =>
          have before := length_groupChars (address.segments.take zeros.start)
          have after := length_groupChars (address.segments.drop (zeros.start + zeros.len))
          rw [List.length_take, eight] at before
          rw [List.length_drop, eight] at after
          rw [List.length_append, List.length_cons, List.length_cons]
          omega
        next =>
          have groups := length_groupChars address.segments
          omega

/-- Nothing in the text of an address has to be escaped. -/
theorem escapedBytes_toText (address : IpAddr) : escapedBytes (toText address) ≤ 42 := by
  have plain : (addressChars.all (escapedSize · == 1)) = true := by decide
  have ones : (toChars address).map escapedSize = List.replicate (toChars address).length 1 :=
    List.map_eq_replicate_iff.2 fun char member =>
      beq_iff_eq.1 (List.all_eq_true.1 plain char (mem_addressChars member))
  rw [escapedBytes, toText, String.toList_ofList, ones, List.sum_replicate]
  simpa using length_toChars address

end Numbers

/-! ## Frames of connect requests -/

section Connect

theorem textBytes_strings (texts : List String) :
    ((Format.list Format.string).write texts).textBytes =
      (texts.map escapedBytes).sum + 2 * texts.length + (texts.length - 1) + 2 := by
  have array : (Format.list Format.string).write texts = .array (texts.map .string) := rfl
  have sum : ((texts.map Value.string).map Value.textBytes).sum =
      (texts.map escapedBytes).sum + 2 * texts.length := by
    clear array
    induction texts with
    | nil => rfl
    | cons text rest ih =>
        simp only [List.map_cons, List.sum_cons, List.length_cons]
        rw [ih, Value.textBytes_string]
        omega
  rw [array, Value.textBytes_array, sum, List.length_map]

theorem textBytes_addresses (addresses : List IpAddr) :
    ((Format.list ipFormat).write addresses).textBytes ≤
      44 * addresses.length + (addresses.length - 1) + 2 := by
  have array : (Format.list ipFormat).write addresses =
      .array (addresses.map fun address => .string (toText address)) := rfl
  have sum : ((addresses.map fun address => Value.string (toText address)).map
      Value.textBytes).sum ≤ 44 * addresses.length := by
    clear array
    induction addresses with
    | nil => exact Nat.le_refl 0
    | cons address rest ih =>
        have short := escapedBytes_toText address
        simp only [List.map_cons, List.sum_cons, List.length_cons]
        rw [Value.textBytes_string]
        omega
  rw [array, Value.textBytes_array, List.length_map]
  omega

variable (request : ConnectRequest) (operationId : UInt64)

/-- The parts of a frame: what stands around the request, and its fields. -/
theorem frameBytes_eq :
    frameBytes request operationId =
      (Format.u16.write protocolVersion).textBytes + (Format.u64.write operationId).textBytes +
        (modeFormat.write request.mode).textBytes +
        ((Format.list ipFormat).write request.serverIps).textBytes +
        (Value.bool request.killswitch).textBytes + (Value.bool request.allowLan).textBytes +
        ((Format.list Format.string).write request.excludedApps).textBytes +
        escapedBytes request.xrayConfig + escapedBytes request.validationConfig + 158 := by
  have document : requestFormat.write ⟨protocolVersion, operationId, .connect request⟩ =
      .object
        [("version", Format.u16.write protocolVersion),
          ("operation_id", Format.u64.write operationId),
          ("command", .object
            [("connect", .object
              [("mode", modeFormat.write request.mode),
                ("xray_config", .string request.xrayConfig),
                ("validation_config", .string request.validationConfig),
                ("server_ips", (Format.list ipFormat).write request.serverIps),
                ("excluded_apps", (Format.list .string).write request.excludedApps),
                ("killswitch", .bool request.killswitch),
                ("allow_lan", .bool request.allowLan)])])] := rfl
  have keys : ["version", "operation_id", "command", "connect", "mode", "xray_config",
      "validation_config", "server_ips", "excluded_apps", "killswitch", "allow_lan"].map
        escapedBytes = [7, 12, 7, 7, 4, 11, 17, 10, 13, 10, 9] := by
    decide
  simp only [List.map_cons, List.map_nil, List.cons.injEq, and_true] at keys
  rw [frameBytes, document]
  simp only [Value.textBytes_object, Value.textBytes_string, List.map_cons, List.map_nil,
    List.sum_cons, List.sum_nil, List.length_cons, List.length_nil]
  omega

theorem escapedBytes_emptied (texts : List String) :
    ((texts.map fun _ => "").map escapedBytes).sum = 0 := by
  rw [List.map_map, List.sum_eq_zero]
  intro size member
  rcases List.mem_map.1 member with ⟨text, _, rfl⟩
  rfl

/-- A frame is its payload in an envelope. -/
theorem frameBytes_payload :
    frameBytes request operationId =
      payloadBytes request + frameBytes (envelopeOf request) operationId := by
  have nothing : escapedBytes "" = 0 := rfl
  rw [frameBytes_eq, frameBytes_eq]
  simp only [envelopeOf, payloadBytes, textBytes_strings, escapedBytes_emptied, nothing,
    List.length_map]
  omega

variable {request}

theorem bounds_of_accepted (accepted : validateConnectRequest request = .ok ()) :
    request.serverIps.length ≤ maxServerIps ∧ request.excludedApps.length ≤ maxExcludedApps := by
  rw [validateConnectRequest] at accepted
  split at accepted
  next => cases accepted
  next permitted =>
    simp only [not_or, Bool.not_eq_false] at permitted
    have applications := permitted.2.2.2.2.2.2.1
    rw [applicationsBounded, Bool.and_eq_true, decide_eq_true_iff] at applications
    exact ⟨Nat.le_of_not_lt permitted.2.2.2.2.2.1, applications.1⟩

/-- 4096 bytes are enough for the envelope of any request that is accepted. -/
theorem frameBytes_envelope_le (accepted : validateConnectRequest request = .ok ()) :
    frameBytes (envelopeOf request) operationId ≤ 4096 := by
  have bounds := bounds_of_accepted accepted
  rw [maxServerIps, maxExcludedApps] at bounds
  have version : (Format.u16.write protocolVersion).textBytes ≤ 5 :=
    textBytes_number (by decide) (by decide)
  have operation : (Format.u64.write operationId).textBytes ≤ 20 :=
    textBytes_number (by decide) (Nat.lt_trans operationId.toNat_lt (by decide))
  have mode : (modeFormat.write request.mode).textBytes ≤ 7 := by
    cases request.mode <;> decide
  have flag (value : Bool) : (Value.bool value).textBytes ≤ 5 := by
    cases value <;> decide
  have killswitch := flag request.killswitch
  have allowLan := flag request.allowLan
  have addresses := textBytes_addresses request.serverIps
  have applications := textBytes_strings (request.excludedApps.map fun _ => "")
  have nothing : escapedBytes "" = 0 := rfl
  rw [frameBytes_eq]
  simp only [envelopeOf, nothing]
  rw [escapedBytes_emptied, List.length_map] at applications
  omega

/-- The texts of a request as they are. -/
def textsBytes (request : ConnectRequest) : Nat :=
  byteLength request.xrayConfig + byteLength request.validationConfig +
    (request.excludedApps.map byteLength).sum

theorem payloadBytes_le (request : ConnectRequest) :
    payloadBytes request ≤ 6 * textsBytes request := by
  have escaped (text : String) : escapedBytes text ≤ 6 * byteLength text :=
    (escapedBytes_bounds text).2
  have xray := escaped request.xrayConfig
  have validation := escaped request.validationConfig
  have applications : (request.excludedApps.map escapedBytes).sum ≤
      6 * (request.excludedApps.map byteLength).sum := by
    induction request.excludedApps with
    | nil => exact Nat.le_refl 0
    | cons application rest ih =>
        have first := escaped application
        simp only [List.map_cons, List.sum_cons]
        omega
  rw [payloadBytes, textsBytes]
  omega

/-- A request that is accepted fits into a frame exactly when its escaped texts and its
envelope do, which they always do when the texts are short. -/
theorem encodeFrame_connect (read : JsonReader) (parseUrl : String → Option Core.Url)
    (accepted : validateConnectRequest request = .ok ()) :
    let document := requestFormat.write ⟨protocolVersion, operationId, .connect request⟩
    let overhead := frameBytes (envelopeOf request) operationId
    encodeFrame (jsonWire read parseUrl) document =
        (if payloadBytes request + overhead ≤ maxFrameBytes then .ok document.toText
        else .error .frameTooLarge) ∧
      overhead ≤ 4096 ∧
      (textsBytes request ≤ 170 * 1024 →
        encodeFrame (jsonWire read parseUrl) document = .ok document.toText) := by
  dsimp only
  have size := frameBytes_payload request operationId
  have envelope := frameBytes_envelope_le operationId accepted
  have payload := payloadBytes_le request
  rw [encodeFrame_json, ← frameBytes, size]
  refine ⟨rfl, envelope, ?_⟩
  intro short
  rw [if_pos]
  rw [maxFrameBytes]
  omega

end Connect

/-- A request for a tunnel with short documents. -/
def shortRequest : ConnectRequest where
  mode := .tun
  xrayConfig := "\x7b\x7d"
  validationConfig := "\x7b\x7d"
  serverIps := [.v4 ⟨203, 0, 113, 7⟩]
  excludedApps := ["cs2"]
  killswitch := true
  allowLan := false

theorem encodeFrame_shortRequest :
    encodeFrame (jsonWire Compact.read fun _ => none)
        (requestFormat.write ⟨protocolVersion, 7, .connect shortRequest⟩) =
      .ok (requestFormat.write ⟨protocolVersion, 7, .connect shortRequest⟩).toText :=
  (encodeFrame_connect 7 Compact.read (fun _ => none) (by decide)).2.2 (by decide)

/-- The request with a text for both documents. -/
def withDocuments (text : String) : ConnectRequest :=
  { shortRequest with
    xrayConfig := text
    validationConfig := text }

theorem withDocuments_accepted {text : String} (nonempty : text ≠ "")
    (bounded : byteLength text ≤ maxConfigBytes) :
    validateConnectRequest (withDocuments text) = .ok () := by
  have small := Nat.not_lt.2 bounded
  rw [validateConnectRequest, if_neg]
  simp only [withDocuments, nonempty, small, false_or]
  decide

theorem withDocuments_tooLarge {text : String} (read : JsonReader)
    (parseUrl : String → Option Core.Url) (operationId : UInt64)
    (large : maxFrameBytes < 2 * escapedBytes text) :
    encodeFrame (jsonWire read parseUrl) (requestFormat.write
      ⟨protocolVersion, operationId, .connect (withDocuments text)⟩) = .error .frameTooLarge := by
  rw [encodeFrame_json, ← frameBytes, if_neg]
  rw [frameBytes_payload, payloadBytes]
  simp only [withDocuments]
  omega

/-- A document of quotes, as long as one may be. -/
def quotes : String := String.ofList (List.replicate maxConfigBytes '"')

/-- Every quote takes up two bytes, so that a request within its bounds does not fit. -/
theorem encodeFrame_quotes :
    validateConnectRequest (withDocuments quotes) = .ok () ∧
      encodeFrame (jsonWire Compact.read fun _ => none)
        (requestFormat.write ⟨protocolVersion, 7, .connect (withDocuments quotes)⟩) =
          .error .frameTooLarge := by
  have length : byteLength quotes = maxConfigBytes * '"'.utf8Size := by
    rw [byteLength, quotes, String.toList_ofList, List.map_replicate, List.sum_replicate_nat]
  have escaped : escapedBytes quotes = maxConfigBytes * escapedSize '"' := by
    rw [escapedBytes, quotes, String.toList_ofList, List.map_replicate, List.sum_replicate_nat]
  have nonempty : quotes ≠ "" := by
    intro empty
    rw [empty] at length
    exact absurd length (by decide)
  constructor
  · apply withDocuments_accepted nonempty
    rw [length]
    decide
  · apply withDocuments_tooLarge
    rw [escaped]
    decide

end Varmlen.Daemon.Protocol
