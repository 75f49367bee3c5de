import Varmlen.Foundation.Text
import Varmlen.Daemon.Document

/-!
# Bounds on requests

What the daemon asks of a request before it does anything with it
(`daemon/src/protocol.rs`).
-/

namespace Varmlen.Daemon

open Foundation.Text

def maxConfigBytes : Nat := 384 * 1024

def maxExcludedApps : Nat := 256

def maxAppSelectorBytes : Nat := 4096

/-- The length of a text in UTF-8. -/
def byteLength (text : String) : Nat := (text.toList.map Char.utf8Size).sum

/-- The bounds on an exception list, whichever request carries it. -/
def applicationsBounded (applications : List String) : Bool :=
  applications.length ≤ maxExcludedApps &&
    applications.all fun application =>
      trim application != "" && byteLength application ≤ maxAppSelectorBytes &&
        !application.toList.contains '\x00'

def validateApplications (applications : List String) : Except DaemonErrorCode Unit :=
  if applicationsBounded applications then .ok () else .error .invalidRequest

def validateConnectRequest (request : ConnectRequest) : Except DaemonErrorCode Unit :=
  if request.xrayConfig = "" ∨ request.validationConfig = "" ∨
      maxConfigBytes < byteLength request.xrayConfig ∨
      maxConfigBytes < byteLength request.validationConfig ∨
      request.serverIps = [] ∨ maxServerIps < request.serverIps.length ∨
      applicationsBounded request.excludedApps = false ∨
      (request.mode = .proxy ∧ request.excludedApps ≠ []) then
    .error .invalidRequest
  else .ok ()

/-- Exceptions are for the tunnel alone. -/
theorem validateConnectRequest_proxy {request : ConnectRequest}
    (accepted : validateConnectRequest request = .ok ()) (proxy : request.mode = .proxy) :
    request.excludedApps = [] := by
  rw [validateConnectRequest] at accepted
  by_contra excluded
  rw [if_pos (by simp [proxy, excluded])] at accepted
  cases accepted

end Varmlen.Daemon
