import Varmlen.Core.AntiLoop
import Varmlen.Core.LinkOutbound

/-!
# What a share link names

A link names a protocol, a network and a security layer.  The check of a location compares
the names without regard to case and is to refuse what a config would reinterpret; the
generation compares most of them as they are written.
-/

namespace Varmlen.Core

open Foundation.Json Foundation.Text

/-- The networks, each with the transports that name it. -/
def networkAliases : List (String × List String) :=
  [("tcp", ["", "raw", "tcp"]), ("xhttp", ["xhttp", "splithttp"]), ("ws", ["ws", "websocket"]),
    ("grpc", ["grpc", "gun"]), ("httpupgrade", ["httpupgrade"]), ("http", ["http", "h2", "h3"]),
    ("kcp", ["kcp", "mkcp"]), ("hysteria", ["hysteria"])]

/-- The network that a transport names, if it names one. -/
def namedNetwork (transport : String) : Option String :=
  (networkAliases.find? fun network => network.2.contains (toAsciiLowercase transport)).map
    Prod.fst

/-- The security layer that is named; an empty name stands for none. -/
def namedSecurity (security : String) : String :=
  if toAsciiLowercase security = "" then "none" else toAsciiLowercase security

/-- The network of an outbound; TCP is Xray's default. -/
def outboundNetwork (outbound : Value) : String :=
  ((outbound.get "streamSettings").bind (·.getString "network")).getD "tcp"

/-- The security layer of an outbound; Xray's default is none. -/
def outboundSecurity (outbound : Value) : String :=
  ((outbound.get "streamSettings").bind (·.getString "security")).getD "none"

/-- The outbound is what the names of the link say. -/
structure SpeaksAs (server : VlessServer) (outbound : Value) : Prop where
  protocol : (outbound.getString "protocol").map toAsciiLowercase =
    some (toAsciiLowercase server.protocol)
  network : ∀ network, namedNetwork server.transport = some network →
    outboundNetwork outbound = network
  security : outboundSecurity outbound = namedSecurity server.security

/-- The names are written the way that the generation takes them. -/
structure KeepsNames (server : VlessServer) : Prop where
  protocol : toAsciiLowercase server.protocol = server.protocol ∨
    toAsciiLowercase server.protocol = "vless"
  security : namedSecurity server.security = "none" ∨
    server.protocol ≠ "wireguard" ∧ (server.security = "tls" ∨ server.security = "reality")
  network : server.protocol = "wireguard" →
    namedNetwork server.transport = none ∨ namedNetwork server.transport = some "tcp"

/-! ## What passes the check -/

/-- What the check knows of a location without JSON. -/
theorem validateServer_link {parseJson : JsonParser} {order : HashOrder} {server : VlessServer}
    (noProfile : server.rawProfile = none) (noOutbound : server.rawOutbound = none)
    (validated : validateServer parseJson order server = .ok ()) :
    isProxyProtocol (toAsciiLowercase server.protocol) = true ∧
      (toAsciiLowercase server.protocol = "wireguard" ∨
        toAsciiLowercase server.transport ∈ supportedTransports) := by
  rw [validateServer, noProfile, noOutbound] at validated
  rw [if_neg (by simp)] at validated
  dsimp only at validated
  split at validated
  next => cases validated
  next known =>
    refine ⟨by simpa using known, ?_⟩
    split at validated
    next wireguard => exact .inl wireguard
    next =>
      split at validated
      next => cases validated
      next supported => exact .inr (by simpa using supported)

/-- The transports that pass the check name the network that is written. -/
theorem namedNetwork_eq_xrayNetwork {transport : String}
    (supported : toAsciiLowercase transport ∈ supportedTransports) :
    namedNetwork transport = some (xrayNetwork transport) := by
  rw [namedNetwork, xrayNetwork]
  revert supported
  generalize toAsciiLowercase transport = lowered
  revert lowered
  decide

/-- Of the protocols that pass the check, those in capitals are taken for `vless`. -/
theorem linkProtocol_kept_iff {protocol : String}
    (known : isProxyProtocol (toAsciiLowercase protocol) = true) :
    toAsciiLowercase (linkProtocol protocol) = toAsciiLowercase protocol ↔
      toAsciiLowercase protocol = protocol ∨ toAsciiLowercase protocol = "vless" := by
  by_cases written : protocol ∈ writtenProtocols
  · have lower : ∀ name ∈ writtenProtocols, toAsciiLowercase name = name := by decide
    rw [linkProtocol, if_pos written]
    exact iff_of_true rfl (.inl (lower protocol written))
  · have vless : toAsciiLowercase "vless" = "vless" := by decide
    rw [linkProtocol, if_neg written, vless]
    constructor
    · intro same
      exact .inr same.symm
    · rintro (lower | same)
      · have others : ∀ name ∈ proxyProtocols, name ∉ writtenProtocols → "vless" = name := by
          decide
        rw [lower] at known ⊢
        exact others protocol (by simpa [isProxyProtocol] using known) written
      · exact same.symm

/-- The layers are compared as they are written. -/
theorem securityLayer_named_iff (security : String) :
    securityLayer security = namedSecurity security ↔
      namedSecurity security = "none" ∨ security = "tls" ∨ security = "reality" := by
  by_cases reality : security = "reality"
  · rw [reality]
    decide
  · by_cases tls : security = "tls"
    · rw [tls]
      decide
    · rw [securityLayer, if_neg reality, if_neg tls]
      simp [reality, tls, eq_comm]

/-! ## What is written -/

section Names

variable {parseJson : JsonParser} {server : VlessServer} {proxy : Value}

/-- A WireGuard outbound has no stream settings, so a network or a layer that is named is
lost. -/
theorem speaksAs_wireguard_iff
    (protocolIff : (proxy.getString "protocol").map toAsciiLowercase =
      some (toAsciiLowercase server.protocol) ↔
        toAsciiLowercase server.protocol = server.protocol ∨
          toAsciiLowercase server.protocol = "vless")
    (wireguard : server.protocol = "wireguard") (stream : proxy.get "streamSettings" = none) :
    SpeaksAs server proxy ↔ KeepsNames server := by
  have network : outboundNetwork proxy = "tcp" := by
    rw [outboundNetwork, stream]
    rfl
  have security : outboundSecurity proxy = "none" := by
    rw [outboundSecurity, stream]
    rfl
  constructor
  · intro speaks
    refine ⟨protocolIff.1 speaks.protocol, .inl (speaks.security.symm.trans security),
      fun _ => ?_⟩
    cases named : namedNetwork server.transport with
    | none => exact .inl rfl
    | some other => exact .inr (by rw [← speaks.network other named, network])
  · intro kept
    refine ⟨protocolIff.2 kept.protocol, fun other named => ?_, ?_⟩
    · rcases kept.network wireguard with none | tcp
      · rw [none] at named
        cases named
      · rw [network, Option.some.inj (tcp.symm.trans named)]
    · rw [security, kept.security.resolve_right fun others => others.1 wireguard]

/-- The other outbounds have the network that is named, and the layer when it is written as
the generation takes it. -/
theorem speaksAs_stream_iff
    (protocolIff : (proxy.getString "protocol").map toAsciiLowercase =
      some (toAsciiLowercase server.protocol) ↔
        toAsciiLowercase server.protocol = server.protocol ∨
          toAsciiLowercase server.protocol = "vless")
    (supported : toAsciiLowercase server.protocol = "wireguard" ∨
      toAsciiLowercase server.transport ∈ supportedTransports)
    (wireguard : server.protocol ≠ "wireguard")
    (stream : proxy.get "streamSettings" = some (buildStreamSettings parseJson server)) :
    SpeaksAs server proxy ↔ KeepsNames server := by
  have network : outboundNetwork proxy = xrayNetwork server.transport := by
    rw [outboundNetwork, stream, Option.bind_some, network_buildStreamSettings]
    rfl
  have security : outboundSecurity proxy = securityLayer server.security := by
    rw [outboundSecurity, stream, Option.bind_some, security_buildStreamSettings]
    rfl
  constructor
  · intro speaks
    have layer := (securityLayer_named_iff _).1 (security.symm.trans speaks.security)
    exact ⟨protocolIff.1 speaks.protocol, layer.imp_right fun names => ⟨wireguard, names⟩,
      fun isWireguard => absurd isWireguard wireguard⟩
  · intro kept
    have noWireguard : toAsciiLowercase server.protocol ≠ "wireguard" := by
      rcases kept.protocol with lower | vless
      · rwa [lower]
      · rw [vless]
        decide
    refine ⟨protocolIff.2 kept.protocol, fun other named => ?_, ?_⟩
    · rw [namedNetwork_eq_xrayNetwork (supported.resolve_left noWireguard)] at named
      rw [network, Option.some.inj named]
    · rw [security, securityLayer_named_iff]
      exact kept.security.imp_right And.right

/-- An outbound with the protocol and the stream settings of a link is what the link says
exactly when the names are kept. -/
theorem speaksAs_iff (known : isProxyProtocol (toAsciiLowercase server.protocol) = true)
    (supported : toAsciiLowercase server.protocol = "wireguard" ∨
      toAsciiLowercase server.transport ∈ supportedTransports)
    (protocol : proxy.getString "protocol" = some (linkProtocol server.protocol))
    (stream : proxy.get "streamSettings" =
      if server.protocol = "wireguard" then none
      else some (buildStreamSettings parseJson server)) :
    SpeaksAs server proxy ↔ KeepsNames server := by
  have protocolIff : (proxy.getString "protocol").map toAsciiLowercase =
      some (toAsciiLowercase server.protocol) ↔
        toAsciiLowercase server.protocol = server.protocol ∨
          toAsciiLowercase server.protocol = "vless" := by
    rw [protocol, Option.map_some, Option.some.injEq, linkProtocol_kept_iff known]
  by_cases wireguard : server.protocol = "wireguard"
  · rw [if_pos wireguard] at stream
    exact speaksAs_wireguard_iff protocolIff wireguard stream
  · rw [if_neg wireguard] at stream
    exact speaksAs_stream_iff protocolIff supported wireguard stream

end Names

/-- The plan of a location without JSON has its one outbound. -/
theorem outboundPlan_link {parseJson : JsonParser} {order : HashOrder} {server : VlessServer}
    {proxy : Value} (noProfile : server.rawProfile = none)
    (built : buildProxyOutbound parseJson server = .ok proxy) :
    ∃ plan, outboundPlan parseJson order server = .ok plan ∧ plan.proxies = [proxy] := by
  have noPlan : profilePlan order server = .ok none := by rw [profilePlan, noProfile]
  exact ⟨_, by rw [outboundPlan, noPlan, built], rfl⟩

/-- The config of a location that passes the check has one proxy, and that is what the link
says exactly when its names are kept. -/
theorem link_speaksAs_iff (urls : UrlParser) {parseJson : JsonParser}
    {checkOrder : HashOrder} (order : HashOrder) {server : VlessServer}
    (options : TunnelOptions) (noProfile : server.rawProfile = none)
    (noOutbound : server.rawOutbound = none)
    (validated : validateServer parseJson checkOrder server = .ok ()) :
    ∃ config proxy, buildXrayConfig urls parseJson order server options = .ok config ∧
      (configOutbounds config).filter isProxyOutbound = [proxy] ∧
      (SpeaksAs server proxy ↔ KeepsNames server) := by
  rcases validateServer_link noProfile noOutbound validated with ⟨known, supported⟩
  rcases buildProxyOutbound_link noOutbound with ⟨proxy, built, protocol, stream⟩
  rcases outboundPlan_link noProfile built with ⟨plan, planned, proxies⟩
  refine ⟨_, proxy, by rw [buildXrayConfig, planned], ?_,
    speaksAs_iff known supported protocol stream⟩
  have fixed : fixedOutbounds.filter isProxyOutbound = [] := by
    rw [List.filter_eq_nil_iff]
    intro outbound member
    simp [(fixedOutbounds_guarded outbound member).1]
  have outbounds : tunnelOutbounds plan.proxies = [proxy] ++ fixedOutbounds := by
    rw [proxies]
    rfl
  rw [configOutbounds_tunnelConfig, outbounds, List.filter_append, fixed, List.append_nil,
    List.filter_singleton, (buildProxyOutbound_eq_ok built).1]
  rfl

/-- The location of a link with the given security layer. -/
def securedServer (security : String) : VlessServer :=
  { VlessServer.base "vless" "h" 443 "A" with
    uuid := "u"
    security }

theorem securedServer_tls_speaks :
    ∃ config proxy,
      buildXrayConfig (.ofPlain []) (fun _ => none) .inserted (securedServer "tls") (.plain false) =
        .ok config ∧
      (configOutbounds config).filter isProxyOutbound = [proxy] ∧
      SpeaksAs (securedServer "tls") proxy := by
  have validated : validateServer (fun _ => none) .inserted (securedServer "tls") = .ok () := by
    decide
  rcases link_speaksAs_iff (.ofPlain []) .inserted (.plain false) rfl rfl validated with
    ⟨config, proxy, built, lone, speaksIff⟩
  exact ⟨config, proxy, built, lone, speaksIff.2
    ⟨.inl (by decide), .inr ⟨by decide, .inl rfl⟩, fun wireguard => absurd wireguard (by decide)⟩⟩

/-- A layer in capitals passes the check and is left out. -/
theorem securedServer_capitals_in_clear :
    validateServer (fun _ => none) .inserted (securedServer "TLS") = .ok () ∧
    ∃ config proxy,
      buildXrayConfig (.ofPlain []) (fun _ => none) .inserted (securedServer "TLS") (.plain false) =
        .ok config ∧
      (configOutbounds config).filter isProxyOutbound = [proxy] ∧
      outboundSecurity proxy = "none" ∧ ¬SpeaksAs (securedServer "TLS") proxy := by
  refine ⟨by decide, _, _, rfl, rfl, by decide, ?_⟩
  intro speaks
  exact absurd speaks.security (by decide)

end Varmlen.Core
