import Teleop.Link.Config
import Teleop.Session.Config
import Teleop.Time.DurationText

/-!
# Settings

The settings of a program that runs a session, and how they come about from what a file gives: a key
that is defined in the file overrides the default, and each key has a field of its own.

* `Settings.validate` checks settings;
* `SettingsFile.resolve` overlays what a file gives on the defaults;
* `Settings.Outcome`: settings together with what was wrong, which leaves them blank.
-/

namespace Teleop

/-- The settings of a program that runs a session. -/
structure Settings where
  session : SessionConfig := {}
  channel : ChannelConfig := {}
  /-- The range of local ports; both zero if the operating system picks the port. -/
  portMin : Int := 0
  portMax : Int := 0
  /-- How long an announced peer is remembered. -/
  registryTtl : Duration := 30 * Duration.second
  logLevel : Text := utf8 "info"
  /-- The folder for log files, or empty for the console. -/
  logFolder : Text := []
  deriving DecidableEq, Repr

namespace Settings

/-- What is wrong with settings or with what a file gives. -/
inductive Error where
  | session (e : SessionConfig.Error)
  | portRange (min max : Int)
  | duration (key : String) (e : Duration.ParseError)
  deriving DecidableEq, Repr

def Error.message : Error → Text
  | session e => e.message
  | portRange min max =>
    utf8 "port range [" ++ decimal min ++ utf8 ", " ++ decimal max ++ utf8 "] is invalid"
  | duration key e => utf8 "parse " ++ utf8 key ++ utf8 ": " ++ e.message

/-- Local ports are taken from a range. -/
def usesPortRange (s : Settings) : Bool :=
  s.portMin ≠ 0 || s.portMax ≠ 0

/-- The checks of the session, then that of the port range. -/
def validate (s : Settings) : Except Error Unit :=
  match s.session.validate with
  | .error e => .error (.session e)
  | .ok () =>
    if s.portMin = 0 ∧ s.portMax = 0 then .ok ()
    else if s.portMin ≤ 0 ∨ 65535 < s.portMax ∨ s.portMax < s.portMin then
      .error (.portRange s.portMin s.portMax)
    else .ok ()

/-- Settings in which nothing is set, not even to its default. -/
def blank : Settings where
  session := {
    deviceId := []
    remoteHost := []
    remotePort := 0
    engineHost := []
    agentId := 0
    agentIp := []
    agentSimulated := false
    tickInterval := 0
    livenessTimeout := 0
    retryLimit := 0
    drainTimeout := 0
    maxPending := 0 }
  channel := {
    connectTimeout := 0
    helloInterval := 0
    writeTimeout := 0
    readBufferSize := 0
    maxOutbound := 0
    inboxSize := 0 }
  portMin := 0
  portMax := 0
  registryTtl := 0
  logLevel := []
  logFolder := []

/-- The settings that came out, and what was wrong, if anything. -/
structure Outcome (ε : Type) where
  settings : Settings
  error : Option ε := none
  deriving DecidableEq, Repr

namespace Outcome

variable {ε ε' : Type}

/-- Something was wrong, and the settings are blank. -/
def refused (e : ε) : Outcome ε :=
  ⟨blank, some e⟩

def of : Except ε Settings → Outcome ε
  | .ok settings => ⟨settings, none⟩
  | .error e => refused e

def mapError (f : ε → ε') (o : Outcome ε) : Outcome ε' :=
  ⟨o.settings, o.error.map f⟩

/-- The settings, for those who do not look at them if something was wrong. -/
def toExcept (o : Outcome ε) : Except ε Settings :=
  match o.error with
  | none => .ok o.settings
  | some e => .error e

end Outcome

end Settings

/-- What a file gives for a key: a value, and whether the key is defined. The value of a key that is
not defined does not count. -/
structure Given (α : Type) where
  value : α
  defined : Bool := false
  deriving DecidableEq, Repr

namespace Given

/-- The value, or the default of a key that is not defined. -/
def getD {α : Type} (g : Given α) (fallback : α) : α :=
  if g.defined then g.value else fallback

/-- A text without the blanks around it. -/
def textD (g : Given Text) (fallback : Text) : Text :=
  if g.defined then trim g.value else fallback

/-- A duration given by its text. -/
def durationD (g : Given Text) (key : String) (fallback : Duration) :
    Except Settings.Error Duration :=
  if g.defined then
    match Duration.parse (trim g.value) with
    | .ok d => .ok d
    | .error e => .error (.duration key e)
  else .ok fallback

end Given

/-- What a file gives for each of the recognised keys. -/
structure SettingsFile where
  deviceId : Given Text := ⟨[], false⟩
  remoteHost : Given Text := ⟨[], false⟩
  remotePort : Given Int := ⟨0, false⟩
  engineHost : Given Text := ⟨[], false⟩
  agentId : Given Int := ⟨0, false⟩
  agentIp : Given Text := ⟨[], false⟩
  agentSimulated : Given Bool := ⟨false, false⟩
  tickInterval : Given Text := ⟨[], false⟩
  livenessTimeout : Given Text := ⟨[], false⟩
  retryLimit : Given Int := ⟨0, false⟩
  shutdownDrainTimeout : Given Text := ⟨[], false⟩
  maxPendingMessages : Given Int := ⟨0, false⟩
  portMin : Given Int := ⟨0, false⟩
  portMax : Given Int := ⟨0, false⟩
  registryTtl : Given Text := ⟨[], false⟩
  logLevel : Given Text := ⟨[], false⟩
  logDir : Given Text := ⟨[], false⟩
  connectTimeout : Given Text := ⟨[], false⟩
  helloInterval : Given Text := ⟨[], false⟩
  writeTimeout : Given Text := ⟨[], false⟩
  readBufferSize : Given Int := ⟨0, false⟩
  maxOutbound : Given Int := ⟨0, false⟩
  deriving DecidableEq, Repr

/-- The defaults overlaid with what a file gives. The durations are read in a fixed order, and
before anything is checked. -/
def SettingsFile.overlay (f : SettingsFile) : Except Settings.Error Settings := do
  let d : Settings := {}
  let s := d.session
  let c := d.channel
  let tickInterval ← f.tickInterval.durationD "tick_interval" s.tickInterval
  let livenessTimeout ← f.livenessTimeout.durationD "liveness_timeout" s.livenessTimeout
  let drainTimeout ← f.shutdownDrainTimeout.durationD "shutdown_drain_timeout" s.drainTimeout
  let registryTtl ← f.registryTtl.durationD "registry_ttl" d.registryTtl
  let connectTimeout ← f.connectTimeout.durationD "channel.connect_timeout" c.connectTimeout
  let helloInterval ← f.helloInterval.durationD "channel.hello_interval" c.helloInterval
  let writeTimeout ← f.writeTimeout.durationD "channel.write_timeout" c.writeTimeout
  return {
    session := {
      deviceId := f.deviceId.textD s.deviceId
      remoteHost := f.remoteHost.textD s.remoteHost
      remotePort := f.remotePort.getD s.remotePort
      engineHost := f.engineHost.textD s.engineHost
      agentId := f.agentId.getD s.agentId
      agentIp := f.agentIp.textD s.agentIp
      agentSimulated := f.agentSimulated.getD s.agentSimulated
      tickInterval
      livenessTimeout
      retryLimit := f.retryLimit.getD s.retryLimit
      drainTimeout
      maxPending := f.maxPendingMessages.getD s.maxPending }
    channel := {
      connectTimeout
      helloInterval
      writeTimeout
      readBufferSize := f.readBufferSize.getD c.readBufferSize
      maxOutbound := f.maxOutbound.getD c.maxOutbound
      inboxSize := c.inboxSize }
    portMin := f.portMin.getD d.portMin
    portMax := f.portMax.getD d.portMax
    registryTtl
    logLevel := f.logLevel.textD d.logLevel
    logFolder := f.logDir.textD d.logFolder }

/-- The settings that a file gives, if they pass the checks. -/
def SettingsFile.resolve (f : SettingsFile) : Settings.Outcome Settings.Error :=
  .of do
    let settings ← f.overlay
    settings.validate
    return settings

end Teleop
