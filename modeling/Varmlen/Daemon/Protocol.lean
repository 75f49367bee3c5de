import Varmlen.Foundation.Ip

/-!
# Daemon protocol data

The requests a client sends to the privileged daemon, the state it answers with
and the errors it reports (`daemon/src/protocol.rs`).
-/

namespace Varmlen.Daemon

open Foundation.Ip

inductive ConnectionMode where
  | tun
  | proxy
  deriving DecidableEq, Repr

structure ConnectRequest where
  mode : ConnectionMode
  xrayConfig : String
  validationConfig : String
  serverIps : List IpAddr
  excludedApps : List String
  killswitch : Bool
  allowLan : Bool
  deriving DecidableEq, Repr

inductive ConnectionPhase where
  | disconnected
  | preparing
  | connected
  | blocking
  | reconnecting
  | recoveryRequired
  deriving DecidableEq, Repr

structure DaemonState where
  phase : ConnectionPhase
  splitActive : Bool
  dnsProtected : Bool
  rttMs : Option Nat
  logTail : Option String
  deriving DecidableEq, Repr

/-- The state a manager starts in, and the state `disconnect` ends in. -/
def DaemonState.inPhase (phase : ConnectionPhase) : DaemonState where
  phase
  splitActive := false
  dnsProtected := false
  rttMs := none
  logTail := none

inductive DaemonErrorCode where
  | unsupportedVersion
  | frameTooLarge
  | invalidFrame
  | unauthorized
  | holdBlockFailed
  | holdBlockVerificationFailed
  | holdBlockRemovalFailed
  | tunnelPreparationFailed
  | tunnelCommitFailed
  | tunnelCleanupFailed
  | dnsInstallFailed
  | dnsVerificationFailed
  | invalidRequest
  | xrayUnavailable
  | xrayValidationFailed
  | xrayStartFailed
  | splitUnavailable
  | pingFailed
  | internal
  deriving DecidableEq, Repr

structure DaemonError where
  code : DaemonErrorCode
  message : String
  deriving DecidableEq, Repr

/-- What a call returns, together with the state it leaves behind.  A failing
call keeps the effects it had before it failed. -/
abbrev Outcome (α State : Type) := Except DaemonError α × State

end Varmlen.Daemon
