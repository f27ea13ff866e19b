import Teleop.Address

/-!
# Requests

The head of a request is a line with a method, a target and a version, then header lines, then an
empty line. The method, the path of the target and the headers are kept; all else is checked and
dropped.

* `Request.read?` reads a head;
* `Request.header` is the value of a header;
* `Request.ofLine?` is the request for a method and a target without any headers.

A target is an absolute path, a whole URL, or `*`; each may be followed by a query. The path is kept
as it is written, with its percent escapes.
-/

namespace Teleop

namespace Service

/-- What a request asks for. -/
structure Request where
  method : Text
  path : Text
  /-- The headers in their order; the names are in small letters. -/
  headers : List (Text × Text) := []
  deriving DecidableEq, Repr

/-- The first value of a header; one that is not there is empty. -/
def Request.header (r : Request) (name : String) : Text :=
  (r.headers.lookup (utf8 name)).getD []

/-! ## Bytes -/

def isLetter (b : UInt8) : Bool :=
  (65 ≤ b && b ≤ 90) || (97 ≤ b && b ≤ 122)

def isBlankByte (b : UInt8) : Bool :=
  b == 32 || b == 9

/-- Methods and header names consist of these. -/
def isTokenByte (b : UInt8) : Bool :=
  isLetter b || isDigit b || (utf8 "!#$%&'*+-.^_`|~").contains b

/-- A header value may hold anything but control characters; a tab is none here. -/
def isValueByte (b : UInt8) : Bool :=
  (32 ≤ b && b ≠ 127) || b == 9

/-- What a host may hold besides escapes. -/
def isHostByte (b : UInt8) : Bool :=
  128 ≤ b || isLetter b || isDigit b || (utf8 "!$&'()*+,;=:[]<>\"-_.~").contains b

/-- What a user name and a password may hold, with the marks around them. -/
def isUserByte (b : UInt8) : Bool :=
  isLetter b || isDigit b || (utf8 "-._:~!$&'()*+,;=%@").contains b

/-! ## Percent escapes -/

/-- The byte that two hexadecimal digits stand for. -/
def escaped? (a b : UInt8) : Option UInt8 := do
  return UInt8.ofNat (16 * (← hexValue? a) + (← hexValue? b))

/-- Every percent sign is followed by two hexadecimal digits; `plain` holds of all other bytes and
`escaped` of what the escapes stand for. -/
def escapesValid (plain escaped : UInt8 → Bool) : Text → Bool
  | [] => true
  | 37 :: a :: b :: rest =>
    (escaped? a b).any escaped && escapesValid plain escaped rest
  | 37 :: _ => false
  | b :: rest => plain b && escapesValid plain escaped rest

/-- A text with its escapes replaced by what they stand for. -/
def unescape : Text → Text
  | 37 :: a :: b :: rest => (escaped? a b).getD 0 :: unescape rest
  | b :: rest => b :: unescape rest
  | [] => []

/-- In a path and in the name of a user anything can be escaped. -/
def pathEscapesValid : Text → Bool :=
  escapesValid (fun _ => true) (fun _ => true)

/-- In a host only a percent sign and bytes beyond ASCII are escaped. -/
def hostEscapesValid : Text → Bool :=
  escapesValid isHostByte fun b => 128 ≤ b || b == 37

/-- In a zone a percent sign, a blank and what could be written plainly are escaped. -/
def zoneEscapesValid : Text → Bool :=
  escapesValid isHostByte fun b => b == 37 || b == 32 || (b < 128 && isHostByte b)

/-! ## The authority of a URL -/

/-- The parts of a text before and from the first occurrence of a word. -/
def cutBefore (word : Text) : Text → Text × Text
  | [] => ([], [])
  | b :: rest =>
    if word.isPrefixOf (b :: rest) then ([], b :: rest)
    else
      let (before, after) := cutBefore word rest
      (b :: before, after)

/-- The parts of a text before and after the last occurrence of a byte. -/
def cutAtLast? (b : UInt8) (t : Text) : Option (Text × Text) :=
  match t.reverse.dropWhile (· ≠ b) with
  | [] => none
  | _ :: before => some (before.reverse, (t.reverse.takeWhile (· ≠ b)).reverse)

/-- Nothing, or a colon and digits. -/
def portValid : Text → Bool
  | [] => true
  | b :: digits => b == 58 && digits.all isDigit

/-- An IPv6 address, with a zone after an escaped percent sign if there is one. -/
def literalValid (t : Text) : Bool :=
  let (host, zone) := cutBefore (utf8 "%25") t
  hostEscapesValid host && zoneEscapesValid zone && zone.length ≠ 3 &&
    (Address.ipv6? (unescape host)).isSome

/-- A host with an optional port. An IPv6 address stands in brackets. -/
def hostValid (t : Text) : Bool :=
  if t.contains 91 then
    t.head? == some 91 && !(t.drop 1).contains 91 &&
      match cutAtLast? 93 (t.drop 1) with
      | some (literal, port) => portValid port && literalValid literal
      | none => false
  else
    hostEscapesValid t && match cutAtLast? 58 t with
      | some (_, port) => port.all isDigit
      | none => true

/-- A host, after a user if one is given. -/
def authorityValid (t : Text) : Bool :=
  match cutAtLast? 64 t with
  | some (user, host) => hostValid host && user.all isUserByte && pathEscapesValid user
  | none => hostValid t

/-! ## Targets -/

/-- The scheme before the first colon, if what stands there can be one, and the rest. -/
def cutScheme? (t : Text) : Option (Text × Text) :=
  let inScheme (b : UInt8) : Bool := isLetter b || isDigit b || (utf8 "+-.").contains b
  match t.takeWhile inScheme, t.dropWhile inScheme with
  | [], 58 :: _ => none
  | b :: more, 58 :: rest => some (if isLetter b then (b :: more, rest) else ([], t))
  | _, _ => some ([], t)

/-- The path of a target, or nothing if it is malformed. After a scheme, what does not start with a
slash has no path. -/
def targetPath? (target : Text) : Option Text := do
  guard (target.all fun b => 32 ≤ b && b ≠ 127)
  if target = utf8 "*" then return target
  let (scheme, rest) ← cutScheme? target
  let rest := rest.takeWhile (· ≠ 63)
  if rest.head? ≠ some 47 then
    guard !scheme.isEmpty
    return []
  let path ← if !scheme.isEmpty && (utf8 "//").isPrefixOf rest then do
      guard (authorityValid ((rest.drop 2).takeWhile (· ≠ 47)))
      pure ((rest.drop 2).dropWhile (· ≠ 47))
    else pure rest
  guard (pathEscapesValid path)
  return path

/-! ## The head -/

/-- The first line without its ending, and what follows. -/
def cutLine? (t : Text) : Option (Text × Text) :=
  match t.dropWhile (· ≠ 10) with
  | [] => none
  | _ :: rest =>
    let line := t.takeWhile (· ≠ 10)
    some (if line.getLast? = some 13 then line.dropLast else line, rest)

/-- The parts of a text before and after the first occurrence of a byte. -/
def cutAt? (b : UInt8) (t : Text) : Option (Text × Text) :=
  match t.dropWhile (· ≠ b) with
  | [] => none
  | _ :: after => some (t.takeWhile (· ≠ b), after)

def trimBlanks (t : Text) : Text :=
  ((t.dropWhile isBlankByte).reverse.dropWhile isBlankByte).reverse

/-- The lines that continue a header line, as they are appended to it, and what follows. -/
def continuation : Nat → Text → Text × Text
  | 0, t => ([], t)
  | fuel + 1, t =>
    if t.head?.any isBlankByte then
      match cutLine? t with
      | some (line, rest) =>
        let (more, rest) := continuation fuel rest
        ([32] ++ trimBlanks line ++ more, rest)
      | none => ([], t)
    else ([], t)

/-- The header lines up to the empty line, as names and values; `fuel` counts the bytes. A name is
not empty; it may hold blanks, which make it a name of its own. A value has no blanks at its start;
there are some at its end if the last line that continues it is blank. -/
def headers? : Nat → Text → Option (List (Text × Text))
  | 0, _ => none
  | fuel + 1, t => do
    let (line, rest) ← cutLine? t
    if line.isEmpty then return []
    guard (line.contains 58)
    let (more, rest) := continuation rest.length rest
    let (name, value) ← cutAt? 58 (trimBlanks line ++ more)
    guard (!name.isEmpty && name.all fun b => isTokenByte b || b == 32)
    guard (value.all isValueByte)
    return (smallLetters name, value.dropWhile isBlankByte) :: (← headers? fuel rest)

/-- The elements of a header value that is a list. -/
def elements (value : Text) : List Text :=
  ((splitAt 44 value).map trimBlanks).filter (!·.isEmpty)

/-- The headers that must not come after a body in chunks. -/
def framing : List Text :=
  ["transfer-encoding", "trailer", "content-length"].map utf8

/-- At most one host is named; the lengths of the body, if given, are one number of 63 bits. From
version 1.1 on an encoding of the body counts, and only the chunked one is known; it can announce
headers that come after the body, which then do not say where the body ends. -/
def headersValid (since11 : Bool) (headers : List (Text × Text)) : Bool :=
  let values (name : String) := (headers.filter (·.1 == utf8 name)).map (·.2)
  let lengthValid (t : Text) : Bool := t.all isDigit && ofDigits t < 9223372036854775808
  let lengths := (values "content-length").map trimBlanks
  let encodings := if since11 then values "transfer-encoding" else []
  let announced := (values "trailer").flatMap elements
  (values "host").length ≤ 1 && lengths.all (lengths.head? == some ·) && lengths.all lengthValid &&
    (encodings.isEmpty || encodings.map smallLetters == [utf8 "chunked"] &&
      announced.all fun name => !framing.contains (smallLetters name))

/-- The version in a request line, two digits. -/
def version? (t : Text) : Option (UInt8 × UInt8) :=
  if (utf8 "HTTP/").isPrefixOf t then
    match t.drop 5 with
    | [major, 46, minor] =>
      if isDigit major && isDigit minor then some (major - 48, minor - 48) else none
    | _ => none
  else none

/-- Reads the head of a request. The target of `CONNECT` is an authority, unless it is a path. -/
def Request.read? (head : Text) : Option Request := do
  let (line, rest) ← cutLine? head
  let (method, line) ← cutAt? 32 line
  let (target, version) ← cutAt? 32 line
  guard (!method.isEmpty && method.all isTokenByte)
  let (major, minor) ← version? version
  let authority := method = utf8 "CONNECT" ∧ target.head? ≠ some 47
  guard (authority ∨ target ≠ [])
  let path ← targetPath? (if authority then utf8 "http://" ++ target else target)
  guard !(rest.head?.any isBlankByte)
  let headers ← headers? (rest.length + 1) rest
  guard (headersValid (major = 0 ∧ minor = 0 ∨ major = 1 ∧ 1 ≤ minor ∨ 1 < major) headers)
  return { method, path, headers }

/-- The request for a method and a target; the method is `GET` if none is given. -/
def Request.ofLine? (method target : Text) : Option Request :=
  let method := if method.isEmpty then utf8 "GET" else method
  Request.read? (method ++ [32] ++ target ++ utf8 " HTTP/1.0\r\n\r\n")

end Service

end Teleop
