import Teleop.Time.Instant

/-!
# Channel configuration

The timeouts and sizes of a channel. A value that is not positive stands for its default.
-/

namespace Teleop

/-- Timeouts and sizes of a channel. -/
structure ChannelConfig where
  /-- How long a link may wait for its welcome. -/
  connectTimeout : Duration := 5 * Duration.second
  /-- The time between two hellos while a link waits. -/
  helloInterval : Duration := 250 * Duration.millisecond
  /-- How long one write may take. -/
  writeTimeout : Duration := 100 * Duration.millisecond
  /-- Longer datagrams are cut to this length. -/
  readBufferSize : Int := 2048
  /-- The most frames that wait on a link. -/
  maxOutbound : Int := 1024
  /-- The most datagrams that wait between two updates. -/
  inboxSize : Int := 256
  deriving DecidableEq, Repr

namespace ChannelConfig

/-- The value, or its default if it is not positive. -/
def orDefault (value fallback : Int) : Int :=
  if value ≤ 0 then fallback else value

/-- The configuration that a channel works with. -/
def effective (c : ChannelConfig) : ChannelConfig :=
  let d : ChannelConfig := {}
  { connectTimeout := orDefault c.connectTimeout d.connectTimeout
    helloInterval := orDefault c.helloInterval d.helloInterval
    writeTimeout := orDefault c.writeTimeout d.writeTimeout
    readBufferSize := orDefault c.readBufferSize d.readBufferSize
    maxOutbound := orDefault c.maxOutbound d.maxOutbound
    inboxSize := orDefault c.inboxSize d.inboxSize }

end ChannelConfig

end Teleop
