import Varmlen.Foundation.TextParts
import Varmlen.Core.Import
import Varmlen.Core.LinkOutbound

/-!
# Stream settings that are read again

The stream settings that are built from a share link can be imported.  The location that
this gives has defaults where the link had nothing, but the stream settings that are built
from it are the same.
-/

namespace Varmlen.Core

open Foundation.Json Foundation.Text

/-! ## Parameters -/

theorem lookup_filter_ne {params : List (String × String)} {key wanted : String}
    (different : wanted ≠ key) :
    (params.filter fun param => param.1 != key).lookup wanted = params.lookup wanted := by
  induction params with
  | nil => rfl
  | cons param rest ih =>
      rcases param with ⟨name, value⟩
      by_cases same : name = key
      · rw [List.filter_cons_of_neg (by simp [same]), ih, List.lookup_cons,
          beq_false_of_ne (same ▸ different)]
      · rw [List.filter_cons_of_pos (by simp [same]), List.lookup_cons, List.lookup_cons, ih]

@[simp] theorem param_insertParam (server : VlessServer) (key wanted : String)
    (value : Option String) :
    (server.insertParam key value).param wanted =
      if wanted = key then value.or (server.param wanted) else server.param wanted := by
  cases value with
  | none => simp [VlessServer.param, VlessServer.insertParam, insertSomeParam]
  | some value =>
      have inserted : (server.insertParam key (some value)).param wanted =
          (insertParam server.rawParams key value).lookup wanted := rfl
      rw [inserted, insertParam, List.lookup_cons]
      by_cases same : wanted = key
      · simp [same]
      · rw [beq_false_of_ne same, if_neg same]
        exact lookup_filter_ne same

/-! ## The parts of a location that its outbound shows -/

/-- What the protocol's settings are built from. -/
structure Account where
  protocol : String
  host : String
  port : Nat
  uuid : String
  password : Option String
  method : Option String
  flow : Option String
  scy : Option String
  aid : Option String

def VlessServer.account (server : VlessServer) : Account where
  protocol := server.protocol
  host := server.host
  port := server.port
  uuid := server.uuid
  password := server.password
  method := server.method
  flow := server.flow
  scy := server.param "scy"
  aid := server.param "aid"

theorem protocolSettings_congr {left right : VlessServer} (same : left.account = right.account) :
    protocolSettings left = protocolSettings right := by
  simp only [VlessServer.account, Account.mk.injEq] at same
  simp only [protocolSettings, same]

theorem protocol_host_congr {left right : VlessServer} (same : left.account = right.account) :
    left.protocol = right.protocol ∧ left.host = right.host :=
  ⟨congrArg Account.protocol same, congrArg Account.host same⟩

/-- What the security layer is built from. -/
structure Layer where
  host : String
  security : String
  sni : Option String
  fingerprint : Option String
  publicKey : Option String
  shortId : Option String
  spx : Option String
  allowInsecure : Option String
  alpn : Option String

def VlessServer.layer (server : VlessServer) : Layer where
  host := server.host
  security := server.security
  sni := server.sni
  fingerprint := server.fingerprint
  publicKey := server.publicKey
  shortId := server.shortId
  spx := server.param "spx"
  allowInsecure := server.param "allowInsecure"
  alpn := server.param "alpn"

theorem securitySettings_congr {left right : VlessServer} (same : left.layer = right.layer)
    (stream : Object) : securitySettings left stream = securitySettings right stream := by
  simp only [VlessServer.layer, Layer.mk.injEq] at same
  simp only [securitySettings, same]

/-- What the transport's block is built from. -/
structure Transport where
  path : Option String
  mode : Option String
  host : Option String
  extra : Option String
  serviceName : Option String
  authority : Option String
  headerType : Option String

def VlessServer.transportParts (server : VlessServer) : Transport where
  path := server.path
  mode := server.mode
  host := server.param "host"
  extra := server.param "extra"
  serviceName := server.param "serviceName"
  authority := server.param "authority"
  headerType := server.param "headerType"

/-! ## What the parts of an import leave alone -/

section Frames

variable {server : VlessServer} {key : String} {value : Option String} {stream : Value}

/-- Setting a parameter leaves those of a list alone that it is not in. -/
theorem param_insertParam_of_not_mem {keys : List String} (apart : key ∉ keys)
    {wanted : String} (listed : wanted ∈ keys) :
    (server.insertParam key value).param wanted = server.param wanted := by
  have different : wanted ≠ key := by
    rintro rfl
    exact apart listed
  rw [param_insertParam, if_neg different]

theorem account_insertParam (apart : key ∉ ["scy", "aid"]) :
    (server.insertParam key value).account = server.account := by
  have kept {wanted : String} := @param_insertParam_of_not_mem server key value _ apart wanted
  rw [VlessServer.account, kept (by decide), kept (by decide)]
  rfl

theorem layer_insertParam (apart : key ∉ ["spx", "allowInsecure", "alpn"]) :
    (server.insertParam key value).layer = server.layer := by
  have kept {wanted : String} := @param_insertParam_of_not_mem server key value _ apart wanted
  rw [VlessServer.layer, kept (by decide), kept (by decide), kept (by decide)]
  rfl

theorem transportParts_insertParam
    (apart : key ∉ ["host", "extra", "serviceName", "authority", "headerType"]) :
    (server.insertParam key value).transportParts = server.transportParts := by
  have kept {wanted : String} := @param_insertParam_of_not_mem server key value _ apart wanted
  rw [VlessServer.transportParts, kept (by decide), kept (by decide), kept (by decide),
    kept (by decide), kept (by decide)]
  rfl

theorem account_applyReality : (applyReality server stream).account = server.account := by
  rw [applyReality]
  split
  next => rfl
  next => exact account_insertParam (by decide)

theorem transportParts_applyReality :
    (applyReality server stream).transportParts = server.transportParts := by
  rw [applyReality]
  split
  next => rfl
  next => exact transportParts_insertParam (by decide)

theorem account_applyTls : (applyTls server stream).account = server.account := by
  rw [applyTls]
  split
  next => rfl
  next => exact (account_insertParam (by decide)).trans (account_insertParam (by decide))

theorem transportParts_applyTls :
    (applyTls server stream).transportParts = server.transportParts := by
  rw [applyTls]
  split
  next => rfl
  next =>
    exact (transportParts_insertParam (by decide)).trans (transportParts_insertParam (by decide))

theorem account_applyTransport : (applyTransport server stream).account = server.account := by
  unfold applyTransport
  repeat' split
  all_goals first
    | rfl
    | exact account_insertParam (by decide)
    | exact (account_insertParam (by decide)).trans (account_insertParam (by decide))

theorem layer_applyTransport : (applyTransport server stream).layer = server.layer := by
  unfold applyTransport
  repeat' split
  all_goals first
    | rfl
    | exact layer_insertParam (by decide)
    | exact (layer_insertParam (by decide)).trans (layer_insertParam (by decide))

/-- The parameters that no transport is imported into. -/
theorem param_applyTransport {wanted : String} (listed : wanted ∈ ["extra", "headerType"]) :
    (applyTransport server stream).param wanted = server.param wanted := by
  have kept {source : VlessServer} {key : String} {value : Option String}
      (apart : key ∉ ["extra", "headerType"]) :
      (source.insertParam key value).param wanted = source.param wanted :=
    param_insertParam_of_not_mem apart listed
  unfold applyTransport
  repeat' split
  all_goals first
    | rfl
    | exact kept (by decide)
    | exact (kept (by decide)).trans (kept (by decide))

/-- What only the stream settings as a whole set, and what they never set. -/
theorem kept_applyReality :
    (applyReality server stream).transport = server.transport ∧
      (applyReality server stream).rawOutbound = server.rawOutbound := by
  rw [applyReality]
  split
  next => exact ⟨rfl, rfl⟩
  next => exact ⟨rfl, rfl⟩

theorem kept_applyTls :
    (applyTls server stream).transport = server.transport ∧
      (applyTls server stream).rawOutbound = server.rawOutbound := by
  rw [applyTls]
  split
  next => exact ⟨rfl, rfl⟩
  next => exact ⟨rfl, rfl⟩

theorem kept_applyTransport :
    (applyTransport server stream).transport = server.transport ∧
      (applyTransport server stream).rawOutbound = server.rawOutbound := by
  unfold applyTransport
  repeat' split
  all_goals exact ⟨rfl, rfl⟩

theorem rawOutbound_applyStream (stream : Option Value) :
    (applyStream server stream).rawOutbound = server.rawOutbound := by
  cases stream with
  | none => rfl
  | some stream =>
      rw [applyStream, kept_applyTransport.2, kept_applyTls.2, kept_applyReality.2]

theorem account_applyStream (stream : Option Value) :
    (applyStream server stream).account = server.account := by
  cases stream with
  | none => rfl
  | some stream =>
      rw [applyStream, account_applyTransport, account_applyTls, account_applyReality]
      rfl

end Frames

/-! ## The security layer -/

theorem nonEmpty_of_ne {text : String} (nonempty : text ≠ "") :
    nonEmpty (some text) = some text := by
  rw [nonEmpty, Option.filter_some_pos (by simpa using nonempty)]

theorem getD_nonEmpty (text : String) : (nonEmpty (some text)).getD "" = text := by
  by_cases empty : text = ""
  · rw [empty]
    rfl
  · rw [nonEmpty_of_ne empty, Option.getD_some]

theorem nonEmpty_getD_ne {value : Option String} {default : String} (nonempty : default ≠ "") :
    (nonEmpty value).getD default ≠ "" := by
  rw [nonEmpty]
  cases kept : value.filter fun text => text != "" with
  | none => exact nonempty
  | some text => simpa using (Option.filter_eq_some_iff.1 kept).2

theorem getD_read {value : Option String} {default : String} (nonempty : value ≠ some "")
    (defaultNonempty : default ≠ "") :
    (nonEmpty (some (value.getD default))).getD default = value.getD default := by
  have given : value.getD default ≠ "" := by
    cases value with
    | none => exact defaultNonempty
    | some text =>
        rintro rfl
        exact nonempty rfl
  rw [nonEmpty_of_ne given, Option.getD_some]

theorem nonEmpty_nonEmpty (value : Option String) : nonEmpty (nonEmpty value) = nonEmpty value := by
  rw [nonEmpty, nonEmpty, Option.filter_filter]
  simp

section Layer

variable {server imported : VlessServer}

theorem serverName_read (hosted : server.host ≠ "")
    (sni : imported.sni = nonEmpty (some (serverName server))) :
    serverName imported = serverName server := by
  have named : serverName server ≠ "" := nonEmpty_getD_ne hosted
  rw [serverName, sni, nonEmpty_of_ne named, nonEmpty_of_ne named, Option.getD_some]

theorem fingerprintName_read
    (fingerprint : imported.fingerprint = nonEmpty (some (fingerprintName server))) :
    fingerprintName imported = fingerprintName server := by
  have named : fingerprintName server ≠ "" := nonEmpty_getD_ne (by decide)
  rw [fingerprintName, fingerprint, nonEmpty_of_ne named, nonEmpty_of_ne named,
    Option.getD_some]

/-- A text of the block as it is imported. -/
theorem jsonStr_realityBlock {key text : String}
    (listed : (key, text) ∈
      [("serverName", serverName server), ("fingerprint", fingerprintName server),
        ("publicKey", server.publicKey.getD ""), ("shortId", server.shortId.getD ""),
        ("spiderX", (server.param "spx").getD "/")]) :
    jsonStr (realityBlock server) key = nonEmpty (some text) := by
  simp only [List.mem_cons, List.not_mem_nil, or_false, Prod.mk.injEq] at listed
  rcases listed with ⟨rfl, rfl⟩ | ⟨rfl, rfl⟩ | ⟨rfl, rfl⟩ | ⟨rfl, rfl⟩ | ⟨rfl, rfl⟩
  all_goals
    simp [jsonStr, realityBlock, Value.getString, Value.ofFields, Object.ofFields,
      Object.get_insert, Value.asString]

theorem realityBlock_applyReality {stream : Value} (hosted : server.host ≠ "")
    (spider : server.param "spx" ≠ some "")
    (given : stream.get "realitySettings" = some (realityBlock server))
    (noSpider : imported.param "spx" = none) :
    realityBlock (applyReality imported stream) = realityBlock server := by
  have spiderRead : ((applyReality imported stream).param "spx").getD "/" =
      (server.param "spx").getD "/" := by
    rw [applyReality, given]
    dsimp only
    have spiderX : jsonStr (realityBlock server) "spiderX" =
        nonEmpty (some ((server.param "spx").getD "/")) := jsonStr_realityBlock (by simp)
    rw [param_insertParam, if_pos rfl, spiderX]
    change (Option.or _ (imported.param "spx")).getD "/" = _
    rw [noSpider, Option.or_none, getD_read spider (by decide)]
  have read : (applyReality imported stream).sni = nonEmpty (some (serverName server)) ∧
      (applyReality imported stream).fingerprint = nonEmpty (some (fingerprintName server)) ∧
      (applyReality imported stream).publicKey = nonEmpty (some (server.publicKey.getD "")) ∧
      (applyReality imported stream).shortId = nonEmpty (some (server.shortId.getD "")) := by
    rw [applyReality, given]
    dsimp only [VlessServer.insertParam]
    exact ⟨jsonStr_realityBlock (by simp), jsonStr_realityBlock (by simp),
      jsonStr_realityBlock (by simp), jsonStr_realityBlock (by simp)⟩
  rcases read with ⟨sni, fingerprint, publicKey, shortId⟩
  rw [realityBlock, realityBlock, serverName_read hosted sni, fingerprintName_read fingerprint,
    publicKey, shortId, getD_nonEmpty, getD_nonEmpty, spiderRead]

/-- The entries of a list parameter can be joined and read again. -/
theorem splitListParam_intercalate {raw : String} (nonempty : splitListParam raw ≠ []) :
    splitListParam (String.intercalate "," (splitListParam raw)) = splitListParam raw := by
  have entries : ∀ entry ∈ splitListParam raw,
      ',' ∉ entry.toList ∧ trim entry = entry ∧ entry ≠ "" := by
    intro entry member
    rw [splitListParam, List.mem_filter, List.mem_map] at member
    rcases member with ⟨⟨part, isPart, rfl⟩, given⟩
    refine ⟨fun comma => ?_, trim_trim part, by simpa using given⟩
    exact not_mem_of_mem_split isPart ((infix_trim part).subset comma)
  have parts : split ',' (String.intercalate "," (splitListParam raw)) = splitListParam raw :=
    split_intercalate nonempty fun entry member => (entries entry member).1
  rw [splitListParam, parts]
  have trimmed : (splitListParam raw).map trim = splitListParam raw := by
    conv => rhs; rw [← List.map_id (splitListParam raw)]
    exact List.map_congr_left fun entry member => (entries entry member).2.1
  rw [trimmed, List.filter_eq_self]
  intro entry member
  simpa using (entries entry member).2.2

/-- A text or a flag of the block. -/
theorem get_tlsBlock {key : String} {value : Value}
    (listed : (key, value) ∈
      [("serverName", .string (serverName server)),
        ("fingerprint", .string (fingerprintName server)),
        ("allowInsecure", .bool (allowsInsecure server))]) :
    (tlsBlock server).get key = some value := by
  rw [tlsBlock, Value.get_object, get_withField]
  simp only [List.mem_cons, List.not_mem_nil, or_false, Prod.mk.injEq] at listed
  rcases listed with ⟨rfl, rfl⟩ | ⟨rfl, rfl⟩ | ⟨rfl, rfl⟩
  all_goals simp [Object.ofFields, Object.get_insert]

theorem get_tlsBlock_alpn : (tlsBlock server).get "alpn" = (alpnList server).map .strings := by
  have absent : (Object.ofFields
      [("serverName", .string (serverName server)),
        ("fingerprint", .string (fingerprintName server)),
        ("allowInsecure", .bool (allowsInsecure server))]).get "alpn" = none := by
    simp [Object.ofFields, Object.get_insert, Object.get]
  rw [tlsBlock, Value.get_object, get_withField, if_pos rfl, absent, Option.or_none]

theorem alpnParam_tlsBlock (named : alpnList server ≠ some []) :
    alpnParam (tlsBlock server) = (alpnList server).map (String.intercalate ",") := by
  rw [alpnParam, get_tlsBlock_alpn]
  cases offered : alpnList server with
  | none => rfl
  | some protocols =>
      have texts : (protocols.map Value.string).filterMap Value.asString = protocols := by
        rw [List.filterMap_map]
        exact List.filterMap_some
      rw [Option.map_some, Option.bind_some, Value.strings, Value.asArray]
      dsimp only
      rw [texts]
      cases protocols with
      | nil => exact absurd offered named
      | cons first rest => rfl

theorem allowsInsecure_read
    (read : imported.param "allowInsecure" =
      if allowsInsecure server then some "1" else none) :
    allowsInsecure imported = allowsInsecure server := by
  cases insecure : allowsInsecure server with
  | false =>
      rw [insecure] at read
      simp [allowsInsecure, read]
  | true =>
      rw [insecure] at read
      simp [allowsInsecure, read]

/-- The protocols that are offered are read again. -/
theorem alpnList_read (named : alpnList server ≠ some [])
    (read : imported.param "alpn" = (alpnList server).map (String.intercalate ",")) :
    alpnList imported = alpnList server := by
  rw [alpnList, read]
  cases offered : nonEmpty (server.param "alpn") with
  | none =>
      rw [alpnList, offered]
      rfl
  | some alpn =>
      have given : splitListParam alpn ≠ [] := by
        intro nothing
        exact named (by rw [alpnList, offered, Option.map_some, nothing])
      have again := splitListParam_intercalate given
      have nonempty : String.intercalate "," (splitListParam alpn) ≠ "" := by
        intro empty
        rw [empty] at again
        exact given (again.symm.trans rfl)
      rw [alpnList, offered, Option.map_some, Option.map_some, nonEmpty_of_ne nonempty,
        Option.map_some, again]

theorem tlsBlock_applyTls {stream : Value} (hosted : server.host ≠ "")
    (named : alpnList server ≠ some [])
    (given : stream.get "tlsSettings" = some (tlsBlock server))
    (fresh : imported.sni = none ∧ imported.fingerprint = none ∧
      imported.param "allowInsecure" = none ∧ imported.param "alpn" = none) :
    tlsBlock (applyTls imported stream) = tlsBlock server := by
  rcases fresh with ⟨noSni, noFingerprint, noInsecure, noAlpn⟩
  have text {key text : String} (found : (tlsBlock server).get key = some (.string text)) :
      jsonStr (tlsBlock server) key = nonEmpty (some text) := by
    rw [jsonStr, Value.getString, found]
    rfl
  have sni : (applyTls imported stream).sni = nonEmpty (some (serverName server)) := by
    rw [applyTls, given]
    dsimp only [VlessServer.insertParam]
    rw [noSni, Option.none_or]
    exact text (get_tlsBlock (by simp))
  have fingerprint : (applyTls imported stream).fingerprint =
      nonEmpty (some (fingerprintName server)) := by
    rw [applyTls, given]
    dsimp only [VlessServer.insertParam]
    rw [noFingerprint, Option.none_or]
    exact text (get_tlsBlock (by simp))
  have insecure : (applyTls imported stream).param "allowInsecure" =
      if allowsInsecure server then some "1" else none := by
    have field : (tlsBlock server).get "allowInsecure" = some (.bool (allowsInsecure server)) :=
      get_tlsBlock (by simp)
    rw [applyTls, given]
    dsimp only
    rw [param_insertParam, if_neg (by decide), param_insertParam, if_pos rfl, field]
    change Option.or _ (imported.param "allowInsecure") = _
    rw [noInsecure, Option.or_none]
    rfl
  have alpn : (applyTls imported stream).param "alpn" =
      (alpnList server).map (String.intercalate ",") := by
    rw [applyTls, given]
    dsimp only
    rw [param_insertParam, if_pos rfl, alpnParam_tlsBlock named, param_insertParam,
      if_neg (by decide)]
    change Option.or _ (imported.param "alpn") = _
    rw [noAlpn, Option.or_none]
  rw [tlsBlock, tlsBlock, serverName_read hosted sni, fingerprintName_read fingerprint,
    allowsInsecure_read insecure, alpnList_read named alpn]

end Layer

/-! ## The transport -/

section Transports

variable {server imported : VlessServer} {stream : Value}

/-- The import has nothing of a transport yet. -/
def VlessServer.LacksTransport (server : VlessServer) : Prop :=
  server.transportParts = ⟨none, none, none, none, none, none, none⟩

/-- A host that is read is the one that was written. -/
theorem hostHeader_read (noHost : imported.param "host" = none) :
    hostHeader (imported.insertParam "host" (hostHeader server)) = hostHeader server := by
  rw [hostHeader, param_insertParam, if_pos rfl, noHost, Option.or_none, hostHeader,
    nonEmpty_nonEmpty]

/-- An optional text as it is imported. -/
theorem jsonStr_withField {object : Object} {key : String} (value : Option String)
    (absent : object.get key = none) :
    jsonStr (.object (withField object key (value.map .string))) key = nonEmpty value := by
  rw [jsonStr, Value.getString, Value.get_object, get_withField, if_pos rfl, absent,
    Option.or_none]
  cases value <;> rfl

theorem wsBlock_applyTransport (lacks : imported.LacksTransport)
    (transport : imported.transport = "ws")
    (given : stream.get "wsSettings" = some (wsBlock server)) (path : server.path ≠ some "") :
    wsBlock (applyTransport imported stream) = wsBlock server := by
  have pathRead : jsonStr (wsBlock server) "path" =
      nonEmpty (some (server.path.getD "/")) := by
    simp [jsonStr, wsBlock, Value.getString, get_withField, Object.ofFields, Value.asString]
  have hostRead : ((wsBlock server).get "headers").bind (·.getString "Host") =
      hostHeader server := by
    rw [wsBlock, Value.get_object, get_withField, if_pos rfl]
    cases hostHeader server <;> rfl
  let read : VlessServer := { imported with path := nonEmpty (some (server.path.getD "/")) }
  have applied : applyTransport imported stream =
      read.insertParam "host" (hostHeader server) := by
    rw [applyTransport, if_pos transport, given]
    dsimp only
    rw [pathRead, hostRead]
  have samePath : (read.insertParam "host" (hostHeader server)).path.getD "/" =
      server.path.getD "/" := getD_read path (by decide)
  have noHost : read.param "host" = none := congrArg Transport.host lacks
  rw [applied, wsBlock, wsBlock, hostHeader_read noHost, samePath]

theorem httpupgradeBlock_applyTransport (lacks : imported.LacksTransport)
    (transport : imported.transport = "httpupgrade")
    (given : stream.get "httpupgradeSettings" = some (httpupgradeBlock server))
    (path : server.path ≠ some "") :
    httpupgradeBlock (applyTransport imported stream) = httpupgradeBlock server := by
  have pathRead : jsonStr (httpupgradeBlock server) "path" =
      nonEmpty (some (server.path.getD "/")) := by
    simp [jsonStr, httpupgradeBlock, Value.getString, get_withField, Object.ofFields,
      Value.asString]
  have hostRead : jsonStr (httpupgradeBlock server) "host" = hostHeader server :=
    (jsonStr_withField (hostHeader server) rfl).trans (nonEmpty_nonEmpty _)
  let read : VlessServer := { imported with path := nonEmpty (some (server.path.getD "/")) }
  have applied : applyTransport imported stream =
      read.insertParam "host" (hostHeader server) := by
    rw [applyTransport, if_neg (by simp [transport]), if_neg (by simp [transport]),
      if_pos transport, given]
    dsimp only
    rw [pathRead, hostRead]
  have samePath : (read.insertParam "host" (hostHeader server)).path.getD "/" =
      server.path.getD "/" := getD_read path (by decide)
  have noHost : read.param "host" = none := congrArg Transport.host lacks
  rw [applied, httpupgradeBlock, httpupgradeBlock, hostHeader_read noHost, samePath]

theorem xhttpBlock_applyTransport (lacks : imported.LacksTransport)
    (transport : imported.transport = "xhttp")
    (given : stream.get "xhttpSettings" = some (xhttpBlock server))
    (path : server.path ≠ some "") (mode : server.mode ≠ some "") :
    xhttpBlock (applyTransport imported stream) = xhttpBlock server := by
  have pathRead : jsonStr (xhttpBlock server) "path" =
      nonEmpty (some (server.path.getD "/")) := by
    simp [jsonStr, xhttpBlock, Value.getString, get_withField, Object.ofFields,
      Object.get_insert, Value.asString]
  have modeRead : jsonStr (xhttpBlock server) "mode" =
      nonEmpty (some (server.mode.getD "auto")) := by
    simp [jsonStr, xhttpBlock, Value.getString, get_withField, Object.ofFields, Value.asString]
  have hostRead : jsonStr (xhttpBlock server) "host" = hostHeader server := by
    refine (jsonStr_withField (hostHeader server) ?_).trans (nonEmpty_nonEmpty _)
    simp [Object.ofFields, Object.get_insert, Object.get]
  let read : VlessServer :=
    { imported with
      path := nonEmpty (some (server.path.getD "/"))
      mode := nonEmpty (some (server.mode.getD "auto")) }
  have applied : applyTransport imported stream =
      read.insertParam "host" (hostHeader server) := by
    rw [applyTransport, if_neg (by simp [transport]), if_pos transport, given, Option.some_or]
    dsimp only
    rw [pathRead, modeRead, hostRead]
  have samePath : (read.insertParam "host" (hostHeader server)).path.getD "/" =
      server.path.getD "/" := getD_read path (by decide)
  have sameMode : (read.insertParam "host" (hostHeader server)).mode.getD "auto" =
      server.mode.getD "auto" := getD_read mode (by decide)
  have noHost : read.param "host" = none := congrArg Transport.host lacks
  rw [applied, xhttpBlock, xhttpBlock, hostHeader_read noHost, samePath, sameMode]

theorem grpcBlock_applyTransport (lacks : imported.LacksTransport)
    (transport : imported.transport = "grpc")
    (given : stream.get "grpcSettings" = some (grpcBlock server)) :
    grpcBlock (applyTransport imported stream) = grpcBlock server := by
  have serviceRead : jsonStr (grpcBlock server) "serviceName" =
      nonEmpty (some ((server.param "serviceName").getD "")) := by
    simp [jsonStr, grpcBlock, Value.getString, get_withField, Object.ofFields,
      Object.get_insert, Value.asString]
  have authorityRead : jsonStr (grpcBlock server) "authority" =
      nonEmpty (server.param "authority") := by
    refine (jsonStr_withField (nonEmpty (server.param "authority")) ?_).trans
      (nonEmpty_nonEmpty _)
    simp [Object.ofFields, Object.get_insert, Object.get]
  have multiRead : (((grpcBlock server).get "multiMode").bind Value.asBool).getD false =
      isMultiMode server.mode := by
    simp [grpcBlock, get_withField, Object.ofFields, Value.asBool]
  let read : VlessServer :=
    { imported with mode := if isMultiMode server.mode then some "multi" else none }
  let applied : VlessServer :=
    (read.insertParam "serviceName"
      (nonEmpty (some ((server.param "serviceName").getD "")))).insertParam
        "authority" (nonEmpty (server.param "authority"))
  have isApplied : applyTransport imported stream = applied := by
    have noMode : imported.mode = none := congrArg Transport.mode lacks
    rw [applyTransport, if_neg (by simp [transport]), if_neg (by simp [transport]),
      if_neg (by simp [transport]), if_pos transport, given]
    dsimp only
    rw [serviceRead, authorityRead, multiRead, noMode]
  have service : (applied.param "serviceName").getD "" =
      (server.param "serviceName").getD "" := by
    have noService : read.param "serviceName" = none := congrArg Transport.serviceName lacks
    rw [param_insertParam, if_neg (by decide), param_insertParam, if_pos rfl, noService,
      Option.or_none, getD_nonEmpty]
  have authority : nonEmpty (applied.param "authority") = nonEmpty (server.param "authority") := by
    have noAuthority : read.param "authority" = none := congrArg Transport.authority lacks
    rw [param_insertParam, if_pos rfl, param_insertParam, if_neg (by decide), noAuthority,
      Option.or_none, nonEmpty_nonEmpty]
  have mode : isMultiMode applied.mode = isMultiMode server.mode := by
    change isMultiMode (if isMultiMode server.mode then some "multi" else none) = _
    cases isMultiMode server.mode
    · decide
    · decide
  rw [isApplied, grpcBlock, grpcBlock, service, authority, mode]

end Transports

/-! ## The stream settings -/

/-- The transports whose blocks an import takes up whole. -/
inductive ReadableTransport (server : VlessServer) : Prop
  | tcp (network : xrayNetwork server.transport = "tcp")
      (noHeader : server.param "headerType" ≠ some "http")
  | ws (network : xrayNetwork server.transport = "ws")
  | grpc (network : xrayNetwork server.transport = "grpc")
  | httpupgrade (network : xrayNetwork server.transport = "httpupgrade")
  | xhttp (network : xrayNetwork server.transport = "xhttp")
      (noExtra : server.param "extra" = none)

/-- What the link says is not empty, and its `alpn` names a protocol. -/
structure FullParams (server : VlessServer) : Prop where
  params : ∀ key, server.param key ≠ some ""
  path : server.path ≠ some ""
  mode : server.mode ≠ some ""
  alpn : ∀ alpn, server.param "alpn" = some alpn → splitListParam alpn ≠ []

/-- The import has nothing of a security layer yet. -/
structure LacksLayer (server : VlessServer) : Prop where
  sni : server.sni = none
  fingerprint : server.fingerprint = none
  spx : server.param "spx" = none
  allowInsecure : server.param "allowInsecure" = none
  alpn : server.param "alpn" = none

section Stream

variable {parseJson : JsonParser} {server imported : VlessServer}

theorem get_realitySettings :
    (buildStreamSettings parseJson server).get "realitySettings" =
      if server.security = "reality" then some (realityBlock server) else none := by
  rw [get_buildStreamSettings (by decide) (by decide)]
  by_cases reality : server.security = "reality"
  · rw [securitySettings_reality reality, Object.get_insert_self, if_pos reality]
  · rw [if_neg reality]
    by_cases tls : server.security = "tls"
    · rw [securitySettings_tls tls]
      simp [Object.get_insert, Object.ofFields, Object.get]
    · rw [securitySettings_none reality tls]
      simp [Object.get_insert, Object.ofFields, Object.get]

theorem get_tlsSettings :
    (buildStreamSettings parseJson server).get "tlsSettings" =
      if server.security = "tls" then some (tlsBlock server) else none := by
  rw [get_buildStreamSettings (by decide) (by decide)]
  by_cases tls : server.security = "tls"
  · rw [securitySettings_tls tls, Object.get_insert_self, if_pos tls]
  · rw [if_neg tls]
    by_cases reality : server.security = "reality"
    · rw [securitySettings_reality reality]
      simp [Object.get_insert, Object.ofFields, Object.get]
    · rw [securitySettings_none reality tls]
      simp [Object.get_insert, Object.ofFields, Object.get]

theorem alpnList_ne (full : FullParams server) : alpnList server ≠ some [] := by
  intro nothing
  rw [alpnList, Option.map_eq_some_iff] at nothing
  rcases nothing with ⟨alpn, given, empty⟩
  exact full.alpn alpn (Option.filter_eq_some_iff.1 given).1 empty

/-- The layer that is read is built as it was. -/
theorem securitySettings_read (hosted : server.host ≠ "") (full : FullParams server)
    (lacks : LacksLayer imported)
    (security : imported.security = securityLayer server.security) (stream : Object) :
    let built := buildStreamSettings parseJson server
    securitySettings (applyTls (applyReality imported built) built) stream =
      securitySettings server stream := by
  intro built
  by_cases reality : server.security = "reality"
  · have given : built.get "realitySettings" = some (realityBlock server) := by
      rw [get_realitySettings, if_pos reality]
    have noTls : built.get "tlsSettings" = none := by
      rw [get_tlsSettings, if_neg (by simp [reality])]
    have kept : applyTls (applyReality imported built) built = applyReality imported built := by
      rw [applyTls, noTls]
    have isReality : (applyReality imported built).security = "reality" := by
      rw [applyReality, given]
      exact security.trans (by rw [reality]; rfl)
    rw [kept, securitySettings_reality isReality, securitySettings_reality reality,
      realityBlock_applyReality hosted (full.params "spx") given lacks.spx]
  · have noReality : built.get "realitySettings" = none := by
      rw [get_realitySettings, if_neg reality]
    have kept : applyReality imported built = imported := by rw [applyReality, noReality]
    rw [kept]
    by_cases tls : server.security = "tls"
    · have given : built.get "tlsSettings" = some (tlsBlock server) := by
        rw [get_tlsSettings, if_pos tls]
      have isTls : (applyTls imported built).security = "tls" := by
        rw [applyTls, given]
        exact security.trans (by rw [tls]; rfl)
      rw [securitySettings_tls isTls, securitySettings_tls tls,
        tlsBlock_applyTls hosted (alpnList_ne full) given
          ⟨lacks.sni, lacks.fingerprint, lacks.allowInsecure, lacks.alpn⟩]
    · have noTls : built.get "tlsSettings" = none := by rw [get_tlsSettings, if_neg tls]
      have isNone : imported.security = "none" := by
        rw [security, securityLayer, if_neg reality, if_neg tls]
      rw [applyTls, noTls, securitySettings_none (by rw [isNone]; decide) (by rw [isNone]; decide),
        securitySettings_none reality tls]

/-- The block of a transport is in the stream settings as it was set. -/
theorem get_transportBlock {key : String} {block : Value}
    (set : ∀ stream, transportSettings parseJson server (xrayNetwork server.transport) stream =
      stream.insert key block) (noMark : key ≠ "sockopt") :
    (buildStreamSettings parseJson server).get key = some block := by
  rw [buildStreamSettings, Value.get_object, Object.get_insert_of_ne _ _ (Ne.symm noMark), set,
    Object.get_insert_self]

/-- The block that is read is built as it was. -/
theorem transportSettings_read (readable : ReadableTransport server) (full : FullParams server)
    (lacks : imported.LacksTransport)
    (transport : imported.transport = xrayNetwork server.transport) (stream : Object) :
    let built := buildStreamSettings parseJson server
    transportSettings parseJson (applyTransport imported built) (xrayNetwork server.transport)
        stream =
      transportSettings parseJson server (xrayNetwork server.transport) stream := by
  intro built
  cases readable with
  | tcp network noHeader =>
      have noHeaderRead : (applyTransport imported built).param "headerType" ≠ some "http" := by
        have absent : imported.param "headerType" = none := congrArg Transport.headerType lacks
        rw [param_applyTransport (by decide), absent]
        decide
      rw [network, transportSettings_tcp _ noHeaderRead, transportSettings_tcp _ noHeader]
  | ws network =>
      have given : built.get "wsSettings" = some (wsBlock server) :=
        get_transportBlock (by rw [network]; exact transportSettings_ws) (by decide)
      rw [network, transportSettings_ws, transportSettings_ws,
        wsBlock_applyTransport lacks (transport.trans network) given full.path]
  | grpc network =>
      have given : built.get "grpcSettings" = some (grpcBlock server) :=
        get_transportBlock (by rw [network]; exact transportSettings_grpc) (by decide)
      rw [network, transportSettings_grpc, transportSettings_grpc,
        grpcBlock_applyTransport lacks (transport.trans network) given]
  | httpupgrade network =>
      have given : built.get "httpupgradeSettings" = some (httpupgradeBlock server) :=
        get_transportBlock (by rw [network]; exact transportSettings_httpupgrade) (by decide)
      rw [network, transportSettings_httpupgrade, transportSettings_httpupgrade,
        httpupgradeBlock_applyTransport lacks (transport.trans network) given full.path]
  | xhttp network noExtra =>
      have given : built.get "xhttpSettings" = some (xhttpBlock server) :=
        get_transportBlock (by rw [network]; exact fun _ => transportSettings_xhttp _ noExtra)
          (by decide)
      have noExtraRead : (applyTransport imported built).param "extra" = none := by
        rw [param_applyTransport (by decide)]
        exact congrArg Transport.extra lacks
      rw [network, transportSettings_xhttp _ noExtraRead, transportSettings_xhttp _ noExtra,
        xhttpBlock_applyTransport lacks (transport.trans network) given full.path full.mode]

theorem ReadableTransport.normalized (readable : ReadableTransport server) :
    normalizeNetwork (xrayNetwork server.transport) = xrayNetwork server.transport ∧
      xrayNetwork (xrayNetwork server.transport) = xrayNetwork server.transport := by
  cases readable with
  | tcp network | ws network | grpc network | httpupgrade network | xhttp network =>
      rw [network]
      decide

/-- The stream settings of a link are the same after an import. -/
theorem buildStreamSettings_read (readable : ReadableTransport server)
    (full : FullParams server) (hosted : server.host ≠ "") (lacksLayer : LacksLayer imported)
    (lacksTransport : imported.LacksTransport) :
    buildStreamSettings parseJson
        (applyStream imported (some (buildStreamSettings parseJson server))) =
      buildStreamSettings parseJson server := by
  let built := buildStreamSettings parseJson server
  let base : VlessServer :=
    { imported with
      transport := xrayNetwork server.transport
      security := securityLayer server.security }
  let layered := applyTls (applyReality base built) built
  have applied : applyStream imported (some built) = applyTransport layered built := by
    rw [applyStream, network_buildStreamSettings, security_buildStreamSettings, Option.map_some,
      Option.getD_some, Option.getD_some, readable.normalized.1]
  have layeredTransport : layered.transport = xrayNetwork server.transport := by
    rw [kept_applyTls.1, kept_applyReality.1]
  have layeredLacks : layered.LacksTransport := by
    rw [VlessServer.LacksTransport, transportParts_applyTls, transportParts_applyReality]
    exact lacksTransport
  have network : xrayNetwork (applyTransport layered built).transport =
      xrayNetwork server.transport := by
    rw [kept_applyTransport.1, layeredTransport, readable.normalized.2]
  have baseLacks : LacksLayer base := ⟨lacksLayer.sni, lacksLayer.fingerprint, lacksLayer.spx,
    lacksLayer.allowInsecure, lacksLayer.alpn⟩
  have secured (stream : Object) :
      securitySettings (applyTransport layered built) stream = securitySettings server stream := by
    rw [securitySettings_congr layer_applyTransport]
    exact securitySettings_read hosted full baseLacks rfl stream
  have carried (stream : Object) :
      transportSettings parseJson (applyTransport layered built) (xrayNetwork server.transport)
          stream =
        transportSettings parseJson server (xrayNetwork server.transport) stream :=
    transportSettings_read readable full layeredLacks layeredTransport stream
  rw [applied, buildStreamSettings, network, secured, carried]
  rfl

end Stream

end Varmlen.Core
