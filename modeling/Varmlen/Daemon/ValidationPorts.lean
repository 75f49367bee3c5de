import Mathlib.Data.List.Forall2
import Varmlen.Core.Checked
import Varmlen.Daemon.Accepted
import Varmlen.Foundation.JsonCompact

/-!
# Ports of a probe document

Before the daemon runs a probe it puts ports of its own into the document it was given
(`daemon/src/system.rs`).  A document that was accepted with the ports it names is
accepted with the new ones.
-/

namespace Varmlen.Daemon

open Foundation.Checks Foundation.Json Foundation.Text
open Core (Fault)

/-! ## The rewriting -/

/-- `inbound["port"] = port` for every inbound and its port; an inbound that has no fields
is a panic. -/
def assignPorts : List (Value × Nat) → Except Fault (List Value)
  | [] => .ok []
  | (inbound, port) :: rest => do
      let inbound ← Core.Checked.assign inbound "port" (.nat port)
      let inbounds ← assignPorts rest
      .ok (inbound :: inbounds)

/-- The text of the document with the ports in place of its own, or a panic. -/
def validationConfigWithPorts (read : JsonReader) (raw : String) (ports : List Nat) :
    Except DaemonError (Except Fault String) := do
  require
    (!(ports.isEmpty || maxServerIps < ports.length || ports.any (· < 1024) || !ports.Nodup))
    "validation ports must be unique and unprivileged"
  let document ← parseDocument read "invalid validation Xray JSON: " raw
  let inbounds ← expected
    (((document.get "inbounds").bind Value.asArray).filter fun inbounds =>
      inbounds.length == ports.length)
    "validation config port count does not match its inbounds"
  .ok do
    let inbounds ← assignPorts (inbounds.zip ports)
    .ok (document.set "inbounds" (.array inbounds)).toText

/-- The documents differ in the ports of their inbounds only. -/
structure DiffersInPorts (ports : List Nat) (document changed : Value) : Prop where
  kept : ∀ key, key ≠ "inbounds" → changed.get key = document.get key
  inbounds : ∃ before after,
    document.get "inbounds" = some (.array before) ∧
    changed.get "inbounds" = some (.array after) ∧ before.length = ports.length ∧
    List.Forall₂ (fun (given : Value × Nat) inbound =>
      inbound.get "port" = some (.nat given.2) ∧
        ∀ key, key ≠ "port" → inbound.get key = given.1.get key) (before.zip ports) after

/-! ## Inbounds on other ports -/

/-- The inbound with the port assigned. -/
def onPort (inbound : Value) (port : Nat) : Value := inbound.set "port" (.nat port)

section Inbound

variable {inbound : Value} {portCount index port old : Nat} {tag : String}

/-- Only an object names a port. -/
theorem isObject_of_get {key : String} {field : Value} (found : inbound.get key = some field) :
    ∃ fields, inbound = .object fields := by
  cases inbound with
  | object fields => exact ⟨fields, rfl⟩
  | _ => cases found

theorem get_onPort (isObject : ∃ fields, inbound = .object fields) (key : String) :
    (onPort inbound port).get key =
      if "port" = key then some (.nat port) else inbound.get key := by
  rcases isObject with ⟨fields, rfl⟩
  exact Value.get_set fields "port" key (.nat port)

theorem get_onPort_of_ne (isObject : ∃ fields, inbound = .object fields) {key : String}
    (different : key ≠ "port") : (onPort inbound port).get key = inbound.get key := by
  rw [get_onPort isObject, if_neg different.symm]

theorem getString_onPort (isObject : ∃ fields, inbound = .object fields) {key : String}
    (different : key ≠ "port") :
    (onPort inbound port).getString key = inbound.getString key := by
  rw [Value.getString, get_onPort_of_ne isObject different, Value.getString]

theorem pointer_onPort (isObject : ∃ fields, inbound = .object fields) {key : String}
    (different : key ≠ "port") (path : List String) :
    (onPort inbound port).pointer (key :: path) = inbound.pointer (key :: path) := by
  rw [Value.pointer, get_onPort_of_ne isObject different, Value.pointer]

/-- An inbound that was found on its port is found on another one. -/
theorem pingInboundTag_onPort (small : port < 2 ^ 64)
    (tagged : pingInboundTag portCount index inbound old = .ok tag) :
    pingInboundTag portCount index (onPort inbound port) port = .ok tag ∧
      ∃ fields, inbound = .object fields := by
  rw [pingInboundTag, expected_eq_ok, Option.filter_eq_some_iff] at tagged
  rcases tagged with ⟨named, permitted⟩
  have isObject : ∃ fields, inbound = .object fields := by
    rcases Option.bind_eq_some_iff.1 named with ⟨field, found, _⟩
    exact isObject_of_get found
  have onPort_port : ((onPort inbound port).get "port").bind Value.asU64 = some port := by
    rw [get_onPort isObject, if_pos rfl, Option.bind_some, Value.asU64_nat small]
  refine ⟨?_, isObject⟩
  rw [pingInboundTag, expected_eq_ok, Option.filter_eq_some_iff]
  rw [getString_onPort isObject (by decide), getString_onPort isObject (by decide),
    getString_onPort isObject (by decide), pointer_onPort isObject (by decide),
    pointer_onPort isObject (by decide), onPort_port]
  simp only [Bool.and_eq_true, beq_self_eq_true, and_true] at permitted ⊢
  exact ⟨named, ⟨permitted.1.1.1, permitted.1.2⟩, permitted.2⟩

end Inbound

/-- Every inbound with its port assigned. -/
def onPorts (inbounds : List Value) (ports : List Nat) : List Value :=
  (inbounds.zip ports).map fun (inbound, port) => onPort inbound port

theorem assignPorts_eq {inbounds : List Value} {ports : List Nat}
    (objects : ∀ inbound ∈ inbounds, ∃ fields, inbound = .object fields) :
    assignPorts (inbounds.zip ports) = .ok (onPorts inbounds ports) := by
  induction inbounds generalizing ports with
  | nil => rfl
  | cons inbound rest ih =>
      cases ports with
      | nil => rfl
      | cons port ports =>
          have isObject : inbound.isObject = true := by
            rcases objects inbound (.head _) with ⟨fields, rfl⟩
            rfl
          rw [List.zip_cons_cons, assignPorts, Core.Checked.assign_eq isObject,
            ih fun other member => objects other (.tail _ member)]
          rfl

/-- Inbounds that were found on their ports are found on other ones. -/
theorem pingInboundTags_onPorts {portCount index : Nat} {inbounds : List Value}
    {olds ports : List Nat} {tags : List String} (oldLength : inbounds.length = olds.length)
    (newLength : inbounds.length = ports.length) (small : ∀ port ∈ ports, port < 2 ^ 64)
    (tagged : pingInboundTags portCount index (inbounds.zip olds) = .ok tags) :
    pingInboundTags portCount index ((onPorts inbounds ports).zip ports) = .ok tags ∧
      ∀ inbound ∈ inbounds, ∃ fields, inbound = .object fields := by
  induction inbounds generalizing index olds ports tags with
  | nil => exact ⟨by simpa [onPorts] using tagged, by simp⟩
  | cons inbound rest ih =>
      cases olds with
      | nil => cases oldLength
      | cons old olds =>
          cases ports with
          | nil => cases newLength
          | cons port ports =>
              rw [List.zip_cons_cons, pingInboundTags, bind_eq_ok] at tagged
              rcases tagged with ⟨tag, first, others⟩
              rw [bind_eq_ok] at others
              rcases others with ⟨moreTags, more, joined⟩
              have moved := pingInboundTag_onPort (small port (.head _)) first
              have movedRest := ih (Nat.succ.inj oldLength) (Nat.succ.inj newLength)
                (fun other member => small other (.tail _ member)) more
              constructor
              · rw [onPorts, List.zip_cons_cons, List.map_cons, List.zip_cons_cons,
                  pingInboundTags, bind_eq_ok]
                refine ⟨tag, moved.1, ?_⟩
                rw [bind_eq_ok]
                exact ⟨moreTags, movedRest.1, joined⟩
              · exact List.forall_mem_cons.2 ⟨moved.2, movedRest.2⟩

/-! ## Accepted documents on other ports -/

theorem differsInPorts_set {fields : Object} {inbounds : List Value} {ports : List Nat}
    (hasInbounds : fields.get "inbounds" = some (.array inbounds))
    (lengths : inbounds.length = ports.length)
    (objects : ∀ inbound ∈ inbounds, ∃ fields, inbound = .object fields) :
    DiffersInPorts ports (.object fields)
      ((Value.object fields).set "inbounds" (.array (onPorts inbounds ports))) := by
  constructor
  · intro key different
    rw [Value.get_set, if_neg different.symm, Value.get_object]
  · refine ⟨inbounds, onPorts inbounds ports, hasInbounds, ?_, lengths, ?_⟩
    · rw [Value.get_set, if_pos rfl]
    · rw [onPorts, List.forall₂_map_right_iff, List.forall₂_same]
      intro given member
      have isObject := objects given.1 (List.of_mem_zip member).1
      exact ⟨by rw [get_onPort isObject, if_pos rfl], fun key => get_onPort_of_ne isObject⟩

/-- An accepted document is accepted with its inbounds on other ports. -/
theorem probePermitted_set {fields : Object} {inbounds : List Value} {olds ports : List Nat}
    {inboundTags proxyTags balancerTags : List String}
    (permitted : ProbePermitted olds inboundTags proxyTags balancerTags (.object fields))
    (hasInbounds : fields.get "inbounds" = some (.array inbounds))
    (lengths : olds.length = ports.length) (small : ∀ port ∈ ports, port < 2 ^ 64)
    (files : containsForbiddenFileKey
      ((Value.object fields).set "inbounds" (.array (onPorts inbounds ports))) = false) :
    ProbePermitted ports inboundTags proxyTags balancerTags
        ((Value.object fields).set "inbounds" (.array (onPorts inbounds ports))) ∧
      ∀ inbound ∈ inbounds, ∃ fields, inbound = .object fields := by
  rcases permitted with ⟨sections, log, ⟨given, hasGiven, length, tagged⟩, outbounds, routing, _⟩
  rw [Value.get_object, hasInbounds, Option.bind_some] at hasGiven
  cases hasGiven
  have newLength : inbounds.length = ports.length := length.trans lengths
  have moved := pingInboundTags_onPorts length newLength small tagged
  have same (key : String) (different : key ≠ "inbounds") :
      ((Value.object fields).set "inbounds" (.array (onPorts inbounds ports))).get key =
        (Value.object fields).get key := by
    rw [Value.get_set, if_neg different.symm, Value.get_object]
  refine ⟨⟨?_, ?_, ?_, ?_, ?_, files⟩, moved.2⟩
  · rcases sections with ⟨object, isObject, keys⟩
    cases isObject
    exact ⟨_, rfl, Object.keysAll_insert keys (by decide) _⟩
  · rw [same "log" (by decide)]
    exact log
  · refine ⟨onPorts inbounds ports, ?_, ?_, ?_⟩
    · rw [Value.get_set, if_pos rfl]
      rfl
    · rw [onPorts, List.length_map, List.length_zip, newLength, Nat.min_self]
    · rw [← lengths]
      exact moved.1
  · rw [same "outbounds" (by decide)]
    exact outbounds
  · rw [same "routing" (by decide), ← lengths]
    exact routing

section Trees

variable {fields : Object} {inbounds : List Value} {ports : List Nat}

theorem fits_onPorts {levels : Nat}
    (fits : Value.Fits isPrivilegedKey (levels + 3) (.object fields))
    (hasInbounds : fields.get "inbounds" = some (.array inbounds)) :
    Value.Fits isPrivilegedKey (levels + 3)
      ((Value.object fields).set "inbounds" (.array (onPorts inbounds ports))) := by
  have inner := (Value.fits_object.1 fits _ (Object.get_mem hasInbounds)).2
  apply Value.fits_set fits (by decide)
  rw [Value.fits_array]
  intro changed member
  rcases List.mem_map.1 member with ⟨given, paired, rfl⟩
  have inbound := Value.fits_array.1 inner given.1 (List.of_mem_zip paired).1
  exact Value.fits_set inbound (by decide) (Value.fits_nat given.2)

theorem isHeld_onPorts {literal : String → Bool}
    (held : (Value.object fields).isHeld literal = true)
    (hasInbounds : fields.get "inbounds" = some (.array inbounds))
    (small : ∀ port ∈ ports, port < 2 ^ 64) :
    ((Value.object fields).set "inbounds" (.array (onPorts inbounds ports))).isHeld literal =
      true := by
  have inner := (Value.isHeld_object.1 held).2 _ (Object.get_mem hasInbounds)
  apply Value.isHeld_set held
  rw [Value.isHeld_array]
  intro changed member
  rcases List.mem_map.1 member with ⟨given, paired, rfl⟩
  have parts := List.of_mem_zip paired
  exact Value.isHeld_set (Value.isHeld_array.1 inner given.1 parts.1)
    (Value.isHeld_nat (small given.2 parts.2))

end Trees

/-- New ports of its own do not make a document unacceptable, and change nothing else. -/
theorem validationConfigWithPorts_accepted {literal : String → Bool} {read : JsonReader}
    (inverts : InvertsPrinting literal read) {raw : String} {olds ports : List Nat}
    (named : validationConfigPorts read raw = .ok olds)
    (accepted : validatePingXrayDocument read raw olds = .ok ())
    (distinct : ports.Nodup) (range : ∀ port ∈ ports, 1024 ≤ port ∧ port < 2 ^ 16)
    (lengths : ports.length = olds.length) :
    ∃ document text changed, read raw = .ok document ∧
      validationConfigWithPorts read raw ports = .ok (.ok text) ∧
      read text = .ok changed ∧ DiffersInPorts ports document changed ∧
      validatePingXrayDocument read text ports = .ok () := by
  rcases validationConfigPorts_eq_ok.1 named with
    ⟨document, reads, inbounds, hasInbounds, count, _⟩
  rcases validatePingXrayDocument_eq_ok.1 accepted with
    ⟨other, again, inboundTags, proxyTags, balancerTags, permitted⟩
  rw [reads] at again
  cases again
  rcases permitted.sections with ⟨fields, isObject, _⟩
  cases asObject_eq_some.1 isObject
  have found : fields.get "inbounds" = some (.array inbounds) := by
    rcases Option.bind_eq_some_iff.1 hasInbounds with ⟨field, given, isArray⟩
    cases field with
    | array items =>
        cases isArray
        exact given
    | _ => cases isArray
  have inboundsLength : inbounds.length = ports.length := by
    rcases permitted.inbounds with ⟨given, hasGiven, length, _⟩
    rw [hasInbounds] at hasGiven
    cases hasGiven
    rw [length, lengths]
  have small : ∀ port ∈ ports, port < 2 ^ 64 := fun port member =>
    Nat.lt_trans (range port member).2 (by decide)
  have permittedPorts : (!(ports.isEmpty || maxServerIps < ports.length ||
      ports.any (· < 1024) || !ports.Nodup)) = true := by
    have few : ports.length ≤ maxServerIps := inboundsLength ▸ count.2
    have some : ports ≠ [] := by
      rintro rfl
      have none := count.1
      rw [inboundsLength] at none
      cases none
    simpa [some, few, distinct] using fun port member => (range port member).1
  have held := inverts.held reads
  have fits : Value.Fits isPrivilegedKey (124 + 3) (.object fields) := by
    refine ⟨Nat.le_of_lt_succ held.2, ?_⟩
    rw [← containsForbiddenFileKey_eq]
    exact permitted.files
  have newFits : Value.Fits isPrivilegedKey (124 + 3)
      ((Value.object fields).set "inbounds" (.array (onPorts inbounds ports))) :=
    fits_onPorts fits found
  have newFiles : containsForbiddenFileKey
      ((Value.object fields).set "inbounds" (.array (onPorts inbounds ports))) = false := by
    rw [containsForbiddenFileKey_eq]
    exact newFits.keys
  have moved := probePermitted_set permitted found lengths.symm small newFiles
  have readsBack := inverts.readsBack (isHeld_onPorts held.1 found small)
    (Nat.lt_succ_of_le newFits.depth)
  refine ⟨_, _, _, reads, ?_, readsBack, differsInPorts_set found inboundsLength moved.2,
    validatePingXrayDocument_eq_ok.2 ⟨_, readsBack, _, _, _, moved.1⟩⟩
  simp only [validationConfigWithPorts, bind_eq_ok, require_eq_ok, expected_eq_ok,
    parseDocument_eq_ok, exists_const]
  refine ⟨permittedPorts, _, reads, inbounds, ?_, ?_⟩
  · rw [hasInbounds, Option.filter_some, if_pos (beq_iff_eq.2 inboundsLength)]
  · rw [assignPorts_eq moved.2]
    rfl

/-- A document that probes one proxy through a loopback inbound. -/
def loopbackProbe : Value :=
  .ofFields
    [("log", .ofFields [("loglevel", .string "warning")]),
      ("inbounds", .array
        [.ofFields
          [("tag", .string "socks-in"), ("listen", .string "127.0.0.1"), ("port", .nat 2081),
            ("protocol", .string "socks"),
            ("settings", .ofFields [("auth", .string "noauth"), ("udp", .bool false)])]]),
      ("outbounds", .array
        [.ofFields
          [("tag", .string "proxy"), ("protocol", .string "vless"),
            ("streamSettings", .ofFields
              [("sockopt", .ofFields [("mark", .nat xrayDialMark)])])],
        .ofFields [("tag", .string "direct"), ("protocol", .string "freedom")]]),
      ("routing", .ofFields
        [("rules", .array
          [.ofFields
            [("type", .string "field"), ("network", .string "tcp,udp"),
              ("outboundTag", .string "proxy")]])])]

/-- The probe listens on a port of the daemon's. -/
theorem loopbackProbe_moves :
    ∃ document text changed, Compact.read loopbackProbe.toText = .ok document ∧
      validationConfigWithPorts Compact.read loopbackProbe.toText [43123] = .ok (.ok text) ∧
      Compact.read text = .ok changed ∧ DiffersInPorts [43123] document changed ∧
      validatePingXrayDocument Compact.read text [43123] = .ok () := by
  have reads : Compact.read loopbackProbe.toText = .ok loopbackProbe :=
    Compact.read_invertsPrinting.readsBack (by decide +kernel) (by decide +kernel)
  have ports : PortsPermitted [2081] loopbackProbe := by
    refine ⟨_, rfl, ?_, ?_⟩
    · decide +kernel
    · decide +kernel
  have permitted : ProbePermitted [2081] ["socks-in"] ["proxy"] [] loopbackProbe := {
    sections := ⟨_, rfl, by decide +kernel⟩
    log := ⟨_, rfl, by decide +kernel⟩
    inbounds := ⟨_, rfl, rfl, rfl⟩
    outbounds := ⟨_, rfl, by decide +kernel, rfl⟩
    routing := ⟨_, rfl, by decide +kernel, rfl, _, rfl, rfl, by decide +kernel⟩
    files := by decide +kernel }
  exact validationConfigWithPorts_accepted Compact.read_invertsPrinting
    (validationConfigPorts_eq_ok.2 ⟨_, reads, ports⟩)
    (validatePingXrayDocument_eq_ok.2 ⟨_, reads, _, _, _, permitted⟩)
    (by decide) (by decide) rfl

end Varmlen.Daemon
