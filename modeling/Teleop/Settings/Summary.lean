import Teleop.Settings.Basic
import Teleop.Text.Quote

/-!
# The summary of settings

Settings as a person reads them, a line per setting.
-/

namespace Teleop

namespace Settings

/-- A label and what stands behind it, in columns. -/
def summaryLine (label : String) (value : Text) : Text :=
  let label := utf8 label
  label ++ List.replicate (23 - label.length) 32 ++ value ++ [10]

def summary (s : Settings) : Text :=
  let c := s.session
  summaryLine "device_id" c.deviceId ++
  summaryLine "remote" (c.remoteHost ++ utf8 ":" ++ decimal c.remotePort) ++
  summaryLine "engine_host" c.engineHost ++
  summaryLine "agent" (utf8 "id=" ++ decimal c.agentId ++ utf8 " ip=" ++ c.agentIp ++
    utf8 " simulated=" ++ utf8 (if c.agentSimulated then "true" else "false")) ++
  summaryLine "tick_interval" (Duration.text c.tickInterval) ++
  summaryLine "liveness_timeout" (Duration.text c.livenessTimeout) ++
  summaryLine "retry_limit" (decimal c.retryLimit) ++
  summaryLine "shutdown_drain_timeout" (Duration.text c.drainTimeout) ++
  summaryLine "max_pending_messages" (decimal c.maxPending) ++
  summaryLine "ports" (if s.usesPortRange then
      decimal s.portMin ++ utf8 "-" ++ decimal s.portMax
    else utf8 "ephemeral") ++
  summaryLine "registry_ttl" (Duration.text s.registryTtl) ++
  summaryLine "log" (utf8 "level=" ++ s.logLevel ++ utf8 " dir=" ++ quoteText s.logFolder)

end Settings

end Teleop
