import Varmlen.Foundation.Checks
import Varmlen.Foundation.Text
import Varmlen.Core.Server

/-!
# Fetching a subscription

The loop of `core/src/fetch.rs` that follows redirects by hand.  Where a redirect leads
is up to the server, so every hop is checked like the first one, and the addresses that
passed the check are the ones the client connects to.
-/

namespace Varmlen.Core

open Foundation.Checks Foundation.Ip Foundation.Text

/-! ## Addresses and hosts that are refused -/

def isBlockedIpv4 (address : Ipv4Addr) : Bool :=
  address.isLoopback || address.isPrivate || address.isLinkLocal || address.isUnspecified ||
    address.isBroadcast || address.isMulticast || address.a == 0 ||
    (address.a == 100 && 64 ≤ address.b.val && address.b.val ≤ 127) ||
    (address.a == 192 && address.b == 0 && address.c == 0) ||
    (address.a == 192 && address.b == 0 && address.c == 2) ||
    (address.a == 198 && (address.b == 18 || address.b == 19)) ||
    (address.a == 198 && address.b == 51 && address.c == 100) ||
    (address.a == 203 && address.b == 0 && address.c == 113) || 240 ≤ address.a.val

def isBlockedIp : IpAddr → Bool
  | .v4 address => isBlockedIpv4 address
  | .v6 address =>
      match address.toIpv4Mapped with
      | some inner => isBlockedIpv4 inner
      | none =>
          address.isLoopback || address.isUnspecified || address.isMulticast ||
            address.isUniqueLocal || address.isUnicastLinkLocal ||
            (address.s0 == 0x2001 && address.s1 == 0x0db8)

/-- Hosts that are refused before they are resolved. -/
def isBlockedHost (host : String) : Bool :=
  let host := toAsciiLowercase (trimEndMatches ']' (trimStartMatches '[' (trim host)))
  host == "localhost" || endsWith host ".localhost" || (parse host).any isBlockedIp

/-! ## Requests -/

structure SocketAddr where
  ip : IpAddr
  port : Nat
  deriving DecidableEq, Repr

/-- The port a scheme implies. -/
def knownDefaultPort (scheme : String) : Option Nat :=
  if scheme = "http" ∨ scheme = "ws" then some 80
  else if scheme = "https" ∨ scheme = "wss" then some 443
  else if scheme = "ftp" then some 21
  else none

def Url.portOrKnownDefault (url : Url) : Option Nat :=
  url.port.or (knownDefaultPort url.scheme)

/-- A request on its way out, with the client that sends it: the client follows no
redirect and connects to the addresses given for the host. -/
structure Request where
  url : Url
  userAgent : String
  deviceOs : String
  pinnedHost : String
  pinnedAddresses : List SocketAddr
  deriving DecidableEq, Repr

structure Response where
  status : Nat
  /-- The `Location` header, when there is one that is text. -/
  location : Option String
  deriving DecidableEq, Repr

def Response.isRedirection (response : Response) : Bool :=
  300 ≤ response.status && response.status < 400

/-- Everything the loop meets outside itself: the resolution of references, and for each
hop the resolver, the client and the server. -/
structure Surroundings where
  join : Url → String → Except String Url
  lookupHost : (hop : Nat) → (host : String) → (port : Nat) → Except String (List SocketAddr)
  build : (hop : Nat) → Except String Unit
  send : (hop : Nat) → Request → Except String Response

variable (network : Surroundings) (userAgent deviceOs : String)

/-- What a hop does before it sends anything. -/
def prepareRequest (hop : Nat) (url : Url) : Except String Request := do
  refuseIf (url.scheme != "http" && url.scheme != "https")
    ("unsupported URL scheme: " ++ url.scheme)
  refuseIf (url.username != "" || url.password.isSome)
    "subscription URLs with embedded credentials are not permitted"
  let host ← needed (url.host.filter fun host => !isBlockedHost host)
    "refusing to fetch a loopback/private address"
  let port ← needed url.portOrKnownDefault "subscription URL has no usable port"
  let addresses ← (network.lookupHost hop host port).mapError
    ("subscription host resolution failed: " ++ ·)
  refuseIf (addresses.isEmpty || addresses.any fun address => isBlockedIp address.ip)
    "refusing to fetch a host that resolves to a non-public address"
  (network.build hop).mapError ("http client: " ++ ·)
  return ⟨url, userAgent, deviceOs, host, addresses⟩

def maxRedirects : Nat := 5

/-- The URL a redirection leads to. -/
def redirectUrl (redirectCount : Nat) (url : Url) (response : Response) :
    Except String Url := do
  refuseIf (redirectCount == maxRedirects) "too many redirects"
  let location ← needed response.location "redirect response has no valid Location header"
  (network.join url location).mapError ("invalid redirect URL: " ++ ·)

/-- The rest of the loop: every request that is sent, and what is returned. -/
def fetchFrom : (rounds redirectCount : Nat) → Url → List Request × Except String Response
  | 0, _, _ => ([], .error "too many redirects")
  | rounds + 1, redirectCount, url =>
      match prepareRequest network userAgent deviceOs redirectCount url with
      | .error error => ([], .error error)
      | .ok request =>
          match network.send redirectCount request with
          | .error error => ([request], .error ("request failed: " ++ error))
          | .ok response =>
              if response.isRedirection = false then ([request], .ok response)
              else
                match redirectUrl network redirectCount url response with
                | .error error => ([request], .error error)
                | .ok next =>
                    let rest := fetchFrom rounds (redirectCount + 1) next
                    (request :: rest.1, rest.2)

def fetchSubscriptionResponse (url : Url) : List Request × Except String Response :=
  fetchFrom network userAgent deviceOs (maxRedirects + 1) 0 url

/-! ## Every hop is checked -/

/-- A request that may be sent. -/
structure Request.Public (request : Request) : Prop where
  scheme : request.url.scheme = "http" ∨ request.url.scheme = "https"
  username : request.url.username = ""
  password : request.url.password = none
  host : request.url.host = some request.pinnedHost
  hostAllowed : isBlockedHost request.pinnedHost = false
  resolved : request.pinnedAddresses ≠ []
  addressesAllowed : ∀ address ∈ request.pinnedAddresses, isBlockedIp address.ip = false

variable {network userAgent deviceOs}

theorem prepareRequest_public {hop : Nat} {url : Url} {request : Request}
    (prepared : prepareRequest network userAgent deviceOs hop url = .ok request) :
    request.Public := by
  rw [prepareRequest] at prepared
  rcases bind_eq_ok.1 prepared with ⟨_, scheme, prepared⟩
  rcases bind_eq_ok.1 prepared with ⟨_, credentials, prepared⟩
  rcases bind_eq_ok.1 prepared with ⟨host, named, prepared⟩
  rcases bind_eq_ok.1 prepared with ⟨port, _, prepared⟩
  rcases bind_eq_ok.1 prepared with ⟨addresses, _, prepared⟩
  rcases bind_eq_ok.1 prepared with ⟨_, checked, prepared⟩
  rcases bind_eq_ok.1 prepared with ⟨_, _, returned⟩
  cases returned
  rw [refuseIf_eq_ok] at scheme credentials checked
  rw [Bool.or_eq_false_iff] at credentials checked
  rw [needed_eq_ok, Option.filter_eq_some_iff] at named
  constructor
  case scheme => simpa [or_iff_not_imp_left] using scheme
  case username => simpa using credentials.1
  case password => simpa using credentials.2
  case host => exact named.1
  case hostAllowed => simpa using named.2
  case resolved => simpa using checked.1
  case addressesAllowed => simpa using checked.2

/-- One request for each round at most, and none without its checks. -/
theorem fetchFrom_public (rounds redirectCount : Nat) (url : Url) :
    (∀ request ∈ (fetchFrom network userAgent deviceOs rounds redirectCount url).1,
        request.Public) ∧
      (fetchFrom network userAgent deviceOs rounds redirectCount url).1.length ≤ rounds := by
  induction rounds generalizing redirectCount url with
  | zero => simp [fetchFrom]
  | succ rounds ih =>
      rw [fetchFrom]
      cases prepared : prepareRequest network userAgent deviceOs redirectCount url with
      | error error => simp
      | ok request =>
          have allowed := prepareRequest_public prepared
          have single : (∀ sent ∈ [request], sent.Public) ∧ [request].length ≤ rounds + 1 := by
            simp [allowed]
          dsimp only
          cases network.send redirectCount request with
          | error error => exact single
          | ok response =>
              dsimp only
              cases response.isRedirection with
              | false => exact single
              | true =>
                  rw [if_neg (by simp)]
                  cases redirectUrl network redirectCount url response with
                  | error error => exact single
                  | ok next =>
                      have others := ih (redirectCount + 1) next
                      exact ⟨List.forall_mem_cons.2 ⟨allowed, others.1⟩,
                        Nat.succ_le_succ others.2⟩

/-- Whatever the user, the resolver and the servers choose, only requests to public
addresses leave, and at most six of them. -/
theorem requests_public (network : Surroundings) (userAgent deviceOs : String) (url : Url) :
    (∀ request ∈ (fetchSubscriptionResponse network userAgent deviceOs url).1,
        request.Public) ∧
      (fetchSubscriptionResponse network userAgent deviceOs url).1.length ≤ 6 :=
  fetchFrom_public (maxRedirects + 1) 0 url

/-- A server that redirects to the machine itself gets no second request. -/
example :
    let network : Surroundings :=
      { join := fun _ _ => .ok (Url.plain "http" "127.0.0.1" "/")
        lookupHost := fun _ _ port => .ok [⟨.v4 ⟨8, 8, 8, 8⟩, port⟩]
        build := fun _ => .ok ()
        send := fun _ _ => .ok ⟨302, some "//127.0.0.1"⟩ }
    let fetched := fetchSubscriptionResponse network "Varmlen" "linux"
      (Url.plain "https" "example.com" "/sub")
    fetched.1.length = 1 ∧ fetched.2.isOk = false := by
  decide

end Varmlen.Core
