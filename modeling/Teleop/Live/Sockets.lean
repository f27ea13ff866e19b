import Std.Async.UDP
import Teleop.Live.Foresight

/-!
# Sockets

The sockets of the links of a channel. A datagram is waited for on each of them, and those that have
come in are taken in between the steps of the program.
-/

namespace Teleop

namespace Live

open Std.Net Std.Async

/-- The socket of a link. -/
structure LinkSocket where
  link : Nat
  remote : Address
  socket : UDP.Socket
  /-- The datagram that is waited for. -/
  incoming : AsyncTask (ByteArray × Option SocketAddress)

/-- The address of a socket in the form that the network layer takes. -/
def socketAddress (a : Address) : SocketAddress :=
  let port := UInt16.ofNat a.port.toNat
  let octet (i : Nat) : UInt8 := a.ip.getD i 0
  if a.ip.length = 4 then .v4 ⟨.ofParts (octet 0) (octet 1) (octet 2) (octet 3), port⟩
  else
    let part (i : Nat) : UInt16 := (octet (2 * i)).toUInt16 * 256 + (octet (2 * i + 1)).toUInt16
    .v6 ⟨.ofParts (part 0) (part 1) (part 2) (part 3) (part 4) (part 5) (part 6) (part 7), port⟩

/-- The bytes of an address. -/
def ipBytes : IPAddr → Bytes
  | .v4 a => a.octets.toList
  | .v6 a => a.segments.toList.flatMap fun s => [(s / 256).toUInt8, s.toUInt8]

/-- The address that a datagram came from. -/
def senderAddress (a : SocketAddress) : Address :=
  { ip := ipBytes a.ipAddr, port := a.port.toNat }

/-- The text of an error. -/
def reasonOf (e : IO.Error) : Text :=
  utf8 (toString e)

/-- Carries out a demand. -/
def carryOut (bufferSize : Nat) (sockets : IO.Ref (List LinkSocket)) : Demand → IO Unit
  | .bind link localPort remote => do
    let socket ← UDP.Socket.mk
    let any : Address := { ip := remote.ip.map fun _ => 0, port := localPort }
    socket.bind (socketAddress any)
    let incoming ← (socket.recv (UInt64.ofNat bufferSize)).toIO
    sockets.modify (· ++ [{ link, remote, socket, incoming }])
  | .write link frame => do
    match (← sockets.get).find? (·.link == link) with
    | some s => (s.socket.send ⟨frame.toArray⟩ (some (socketAddress s.remote))).block
    | none => return
  | .close link => sockets.modify (·.filter (·.link ≠ link))

/-- Something that came in on a link: a datagram and its sender, or why none can. -/
abbrev Incoming := Nat × Except Text (Address × Bytes)

/-- Takes what has come in on a socket, at most a number of datagrams, and waits for the next. -/
def collectFrom (bufferSize : Nat) : Nat → LinkSocket → IO (LinkSocket × List Incoming)
  | 0, s => return (s, [])
  | count + 1, s => do
    match ← s.incoming.getState with
    | .finished =>
      match ← s.incoming.block.toBaseIO with
      | .error e => return (s, [(s.link, .error (reasonOf e))])
      | .ok (data, sender) =>
        let incoming ← (s.socket.recv (UInt64.ofNat bufferSize)).toIO
        let items := sender.toList.map fun a =>
          (s.link, Except.ok (senderAddress a, data.data.toList))
        let (s, more) ← collectFrom bufferSize count { s with incoming }
        return (s, items ++ more)
    | _ => return (s, [])

/-- Takes what has come in on all sockets. -/
def collect (bufferSize : Nat) (sockets : IO.Ref (List LinkSocket)) : IO (List Incoming) := do
  let taken ← (← sockets.get).mapM (collectFrom bufferSize 256)
  sockets.set (taken.map (·.1))
  return taken.flatMap (·.2)

end Live

end Teleop
