import Teleop.Bytes

/-!
# Network addresses

An address is an IP of four or sixteen bytes and a port. This file compares addresses, reads IP
literals, and resolves the host and port that a session is told to reach.

* `Address.same` identifies a four-byte IP with its sixteen-byte form;
* `splitHostPort` cuts `host:port`, with its five refusals;
* `resolve` turns a host and a port into an address.
-/

namespace Teleop

/-- An IP address and a port. -/
structure Address where
  ip : Bytes
  port : Int
  deriving DecidableEq, Repr

namespace Address

/-- The leading bytes of an IPv4 address in its sixteen-byte form. -/
def mappedLead : Bytes :=
  List.replicate 10 0 ++ [255, 255]

/-- Two IPs are the same if their bytes are, where four bytes stand for their mapped form. -/
def sameIp (a b : Bytes) : Bool :=
  if a.length = b.length then a == b
  else if a.length = 4 ∧ b.length = 16 then mappedLead ++ a == b
  else if a.length = 16 ∧ b.length = 4 then a == mappedLead ++ b
  else false

def same (a b : Address) : Bool :=
  a.port == b.port && sameIp a.ip b.ip

/-- The IPv4 loopback address. -/
def loopbackIp : Bytes :=
  [127, 0, 0, 1]

/-! ## IP literals -/

/-- One to three decimal digits without a leading zero, at most 255. -/
private def octet? (t : Text) : Option UInt8 :=
  if t.isEmpty ∨ 3 < t.length ∨ t.any (fun b => b < 48 ∨ 57 < b) then none
  else if 1 < t.length ∧ t.head? = some 48 then none
  else
    let n := t.foldl (fun n b => n * 10 + (b.toNat - 48)) 0
    if n ≤ 255 then some (UInt8.ofNat n) else none

/-- Four octets separated by points. -/
def ipv4? (t : Text) : Option Bytes :=
  match splitAt 46 t with
  | [a, b, c, d] => [a, b, c, d].mapM octet?
  | _ => none

private def hexDigit? (b : UInt8) : Option Nat :=
  if 48 ≤ b ∧ b ≤ 57 then some (b.toNat - 48)
  else if 97 ≤ b ∧ b ≤ 102 then some (b.toNat - 87)
  else if 65 ≤ b ∧ b ≤ 70 then some (b.toNat - 55)
  else none

/-- One to four hexadecimal digits. -/
private def group? (t : Text) : Option Bytes :=
  if t.isEmpty ∨ 4 < t.length then none
  else (t.mapM hexDigit?).map fun digits =>
    let n := digits.foldl (fun n d => n * 16 + d) 0
    [UInt8.ofNat (n / 256), UInt8.ofNat (n % 256)]

/-- Groups separated by colons; at the end of a literal the last may be an IPv4 address. -/
private def groups? (atEnd : Bool) (t : Text) : Option Bytes :=
  if t.isEmpty then some []
  else
    let parts := splitAt 58 t
    match parts.reverse with
    | [] => some []
    | last :: before => do
      let lead ← before.reverse.mapM group?
      let tail ← if atEnd && last.contains 46 then ipv4? last else group? last
      return lead.flatten ++ tail

/-- The first occurrence of two colons cuts a text in two. -/
private def cutAtGap : Text → Text → Option (Text × Text)
  | _, [] | _, [_] => none
  | before, a :: b :: rest =>
    if a = 58 ∧ b = 58 then some (before.reverse, rest) else cutAtGap (a :: before) (b :: rest)

/-- Eight groups, or fewer around a gap that stands for one or more zero groups. A zone after a
percent sign is dropped. -/
def ipv6? (t : Text) : Option Bytes :=
  let t := t.takeWhile (· ≠ 37)
  match cutAtGap [] t with
  | none => (groups? true t).filter (·.length = 16)
  | some (before, after) => do
    let lead ← groups? false before
    let tail ← groups? true after
    if lead.length + tail.length ≤ 14 then
      return lead ++ List.replicate (16 - lead.length - tail.length) 0 ++ tail
    else none

/-- The bytes of an IP literal. -/
def ipLiteral? (t : Text) : Option Bytes :=
  if t.contains 58 then ipv6? t else ipv4? t

/-! ## Host and port -/

/-- Why a host and port cannot be cut apart. -/
inductive SplitError where
  | missingPort
  | tooManyColons
  | missingBracket
  | strayOpen
  | strayClose
  deriving DecidableEq, Repr

def SplitError.message : SplitError → String
  | missingPort => "missing port in address"
  | tooManyColons => "too many colons in address"
  | missingBracket => "missing ']' in address"
  | strayOpen => "unexpected '[' in address"
  | strayClose => "unexpected ']' in address"

/-- A host with a colon is bracketed before the port is appended. -/
def joinHostPort (host port : Text) : Text :=
  if host.contains 58 then utf8 "[" ++ host ++ utf8 "]:" ++ port
  else host ++ utf8 ":" ++ port

/-- The host before the last colon and the port after it. A bracketed host ends at its closing
bracket, which has to stand right before that colon. -/
def splitHostPort (t : Text) : Except SplitError (Text × Text) := do
  let some fromEnd := t.reverse.findIdx? (· = 58) | throw .missingPort
  let colon := t.length - 1 - fromEnd
  let port := t.drop (colon + 1)
  if t.head? = some 91 then
    let some close := t.findIdx? (· = 93) | throw .missingBracket
    if close + 1 = t.length then throw .missingPort
    if close + 1 ≠ colon then
      throw (if t[close + 1]? = some 58 then .tooManyColons else .missingPort)
    if (t.drop 1).contains 91 then throw .strayOpen
    if (t.drop (close + 1)).contains 93 then throw .strayClose
    return ((t.take close).drop 1, port)
  else
    let host := t.take colon
    if host.contains 58 then throw .tooManyColons
    if t.contains 91 then throw .strayOpen
    if t.contains 93 then throw .strayClose
    return (host, port)

/-- Why a host and port have no address. -/
inductive ResolveError where
  | malformed (hostPort : Text) (reason : SplitError)
  | invalidPort (port : Int)
  | unknownHost (host : Text)
  deriving DecidableEq, Repr

def ResolveError.message : ResolveError → Text
  | malformed hostPort reason =>
    utf8 "address " ++ hostPort ++ utf8 ": " ++ utf8 reason.message
  | invalidPort port => utf8 "address " ++ decimal port ++ utf8 ": invalid port"
  | unknownHost host => utf8 "lookup " ++ host ++ utf8 ": no such host"

/-- The address of a host and a port: an IP literal, an empty host, or a name that `names` knows. -/
def resolve (names : List (Text × Bytes)) (host : Text) (port : Int) :
    Except ResolveError Address :=
  match splitHostPort (joinHostPort host (decimal port)) with
  | .error reason => .error (.malformed (joinHostPort host (decimal port)) reason)
  | .ok (host, _) =>
    if port < 0 ∨ 65535 < port then .error (.invalidPort port)
    else if host.isEmpty then .ok ⟨[], port⟩
    else match ipLiteral? host with
      | some ip => .ok ⟨ip, port⟩
      | none => match names.lookup host with
        | some ip => .ok ⟨ip, port⟩
        | none => .error (.unknownHost host)

end Address

end Teleop
