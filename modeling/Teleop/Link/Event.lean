import Teleop.Address
import Teleop.Log.Entry
import Teleop.Message.Basic
import Teleop.Uuid

/-!
# What happens on links

A link is one socket bound for one remote address. Links are numbered in the order in which they
are opened. The events of all links, in their order, are the history that statements about the
channel refer to.
-/

namespace Teleop

/-- What a channel tells whoever drives it. -/
inductive Notice where
  /-- The remote side granted a session of this name. -/
  | connected (session : Text)
  /-- The link ended for this reason. -/
  | disconnected (reason : Text)
  /-- A message came in; `none` stands for one that is missing. -/
  | message (m : Option Message)
  deriving DecidableEq, Repr

/-- An event on one link. -/
inductive LinkEvent where
  /-- The link was opened from a local port towards an address, under a nonce. -/
  | opened (link : Nat) (localPort : Int) (remote : Address) (nonce : Uuid)
  /-- A frame was accepted into the outbound queue. -/
  | accepted (link : Nat) (frame : Bytes)
  /-- A frame was written to the socket. -/
  | written (link : Nat) (frame : Bytes)
  /-- A datagram from the remote address entered the inbox. -/
  | received (link : Nat) (datagram : Bytes)
  /-- A notice about the link was raised. -/
  | raised (link : Nat) (notice : Notice)
  /-- The socket was closed. -/
  | closed (link : Nat)
  deriving DecidableEq, Repr

/-- Something that a channel reports: an event on a link, or a log entry. -/
inductive ChannelEvent where
  | link (event : LinkEvent)
  | logged (entry : Log.Entry)
  deriving Repr

/-- Whom to connect to. -/
structure Dial where
  identity : Text
  localPort : Int
  host : Text
  port : Int
  deriving DecidableEq, Repr

end Teleop
