import Teleop.Log.Entry
import Teleop.Text.Blank
import Teleop.Time.Instant

/-!
# Session configuration

The identity, the remote endpoint, the parameters of the handshake and the timing of a session,
with the checks that a configuration has to pass. The fields of the handshake are not checked: one
that does not fit only leaves out its own handshake message.
-/

namespace Teleop

/-- How a session behaves and whom it talks to. -/
structure SessionConfig where
  /-- The identity announced to the transport. -/
  deviceId : Text := []
  remoteHost : Text := []
  remotePort : Int := 0
  /-- The host named in the handshake; empty means the remote host. -/
  engineHost : Text := []
  /-- The agent that the handshake registers and that announcements are answered with. -/
  agentId : Int := 0
  agentIp : Text := []
  agentSimulated : Bool := false
  /-- The period of the session loop. -/
  tickInterval : Duration := 50 * Duration.millisecond
  /-- How long a ready session may go without a heartbeat. -/
  livenessTimeout : Duration := 5 * Duration.second
  /-- The connect attempts after the first one before the session gives up. -/
  retryLimit : Int := 3
  /-- How long a shutdown waits for the transport to flush. -/
  drainTimeout : Duration := 2 * Duration.second
  /-- The capacity of the backlog. -/
  maxPending : Int := 256
  deriving DecidableEq, Repr

namespace SessionConfig

/-- The first thing that is wrong with a configuration. -/
inductive Error where
  | remoteHostMissing
  | remotePortOutOfRange (port : Int)
  | tickIntervalNotPositive
  | livenessTimeoutNotPositive
  | retryLimitNegative
  | drainTimeoutNegative
  | maxPendingNotPositive
  deriving DecidableEq, Repr

def Error.message (e : Error) : Text :=
  utf8 "session: invalid config: " ++ match e with
    | remoteHostMissing => utf8 "remote host required"
    | remotePortOutOfRange port => utf8 "remote port " ++ decimal port ++ utf8 " out of range"
    | tickIntervalNotPositive => utf8 "tick interval must be positive"
    | livenessTimeoutNotPositive => utf8 "liveness timeout must be positive"
    | retryLimitNegative => utf8 "retry limit must not be negative"
    | drainTimeoutNegative => utf8 "shutdown drain timeout must not be negative"
    | maxPendingNotPositive => utf8 "max pending messages must be positive"

/-- The checks, in their order. -/
def validate (c : SessionConfig) : Except Error Unit :=
  if trim c.remoteHost = [] then .error .remoteHostMissing
  else if c.remotePort ≤ 0 ∨ 65535 < c.remotePort then
    .error (.remotePortOutOfRange c.remotePort)
  else if c.tickInterval ≤ 0 then .error .tickIntervalNotPositive
  else if c.livenessTimeout ≤ 0 then .error .livenessTimeoutNotPositive
  else if c.retryLimit < 0 then .error .retryLimitNegative
  else if c.drainTimeout < 0 then .error .drainTimeoutNegative
  else if c.maxPending ≤ 0 then .error .maxPendingNotPositive
  else .ok ()

/-- The host named in the handshake. -/
def handshakeHost (c : SessionConfig) : Text :=
  if c.engineHost = [] then c.remoteHost else c.engineHost

/-- The fields that every log line of a session has. -/
def logContext (c : SessionConfig) : Log.Fields :=
  [Log.textField "device" c.deviceId, Log.textField "remote" c.remoteHost]

end SessionConfig

end Teleop
