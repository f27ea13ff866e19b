import Teleop.Toml.Reader

/-!
# TOML tables

The table that a list of statements builds. A key is given a value once. Tables that came about
because a longer path runs through them are implicit, and their keys may be given a value later:

* an implicit table that is opened stays what it is, and is no longer implicit;
* so does one whose key is given a value, unless that is an array, which replaces it;
* a path in front of an equals sign makes each table that it runs through implicit again, so that
  it can be extended.

`build` carries out statements, and `parse` reads a document.
-/

namespace Teleop

namespace Toml

/-- A value of a table. -/
inductive Node where
  | string (t : Text)
  | integer (n : Int)
  | float (literal : Text)
  | bool (b : Bool)
  | moment (literal : Text)
  | array (items : List Node)
  | table (entries : List (Text × Node))
  /-- The tables that `[[path]]` lines make, or that are being read into an array, the latest
  first. -/
  | tables (elements : List (List (Text × Node)))
  deriving Repr

/-- The entries of a table. -/
abbrev Entries := List (Text × Node)

/-- Replaces the value of a key or appends it. -/
def Entries.set (entries : Entries) (key : Text) (node : Node) : Entries :=
  if entries.any (·.1 == key) then
    entries.map fun entry => if entry.1 == key then (key, node) else entry
  else entries ++ [(key, node)]

/-- A mark at a path. Its length is kept so that paths of different lengths are told apart at
once. -/
structure Mark where
  length : Nat
  path : Path
  deriving DecidableEq

/-- A table under construction. -/
structure Draft where
  root : Entries := []
  /-- The paths of the tables that are implicit. -/
  implicits : List Mark := []
  /-- The paths whose value was last an array. -/
  arrays : List Mark := []

namespace Draft

def mark (path : Path) : Mark :=
  ⟨path.length, path⟩

def markImplicit (d : Draft) (path : Path) : Draft :=
  { d with implicits := mark path :: d.implicits }

def unmarkImplicit (d : Draft) (path : Path) : Draft :=
  let m := mark path
  { d with implicits := d.implicits.filter (· ≠ m) }

/-- Notes whether the value of a key is an array. The note for an empty key goes to the table it is
in. -/
def noteArray (d : Draft) (context : Path) (key : Text) (isArray : Bool) : Draft :=
  let path := if key.isEmpty then context else context ++ [key]
  let m := mark (if path.isEmpty then [[]] else path)
  let others := d.arrays.filter (· ≠ m)
  { d with arrays := if isArray then m :: others else others }

/-- Changes the table at a path; the latest element stands for an array of tables. Every table on
the way has to be there. -/
def alter (f : Entries → Option Entries) : Path → Entries → Option Entries
  | [], entries => f entries
  | key :: rest, entries =>
    match entries.lookup key with
    | some (.table inner) => do
      return Entries.set entries key (.table (← alter f rest inner))
    | some (.tables (latest :: earlier)) => do
      return Entries.set entries key (.tables ((← alter f rest latest) :: earlier))
    | _ => none

/-- The table at a path. -/
def entries? : Path → Entries → Option Entries
  | [], entries => some entries
  | key :: rest, entries =>
    match entries.lookup key with
    | some (.table inner) => entries? rest inner
    | some (.tables (latest :: _)) => entries? rest latest
    | _ => none

/-- Changes the table at a path. -/
def change (d : Draft) (context : Path) (f : Entries → Option Entries) : Option Draft := do
  return { d with root := ← alter f context d.root }

/-- Gives a key a value. -/
def assign (d : Draft) (context : Path) (key : Text) (node : Node) : Option Draft := do
  let entries ← entries? context d.root
  let path := context ++ [key]
  let put (entries : Entries) : Option Entries := some (entries.set key node)
  match entries.lookup key with
  | none => d.change context put
  | some _ =>
    if !d.implicits.contains (mark path) then none
    else if d.arrays.contains (mark path) then (d.unmarkImplicit path).change context put
    else some (d.unmarkImplicit path)

/-- How many of the tables that a path runs through are there, if nothing else is in the way. -/
def reach? : Path → Entries → Option Nat
  | [], _ => some 0
  | key :: rest, entries =>
    match entries.lookup key with
    | none => some 0
    | some (.table inner) => (reach? rest inner).map (· + 1)
    | some (.tables (latest :: _)) => (reach? rest latest).map (· + 1)
    | some _ => none

/-- Tables inside each other, with the parts of a path as their keys. -/
def nest : Path → Entries
  | [] => []
  | key :: rest => [(key, .table (nest rest))]

/-- Makes the tables that a path runs through; new ones are implicit. -/
def establish (d : Draft) (path : Path) : Option Draft := do
  let there ← reach? path d.root
  if there = path.length then return d
  let made := (List.range (path.length - there)).map fun n => mark (path.take (there + n + 1))
  let d := { d with implicits := made ++ d.implicits }
  d.change (path.take there) fun entries => some (entries ++ nest (path.drop there))

/-- Opens a table, or a new element of an array of tables. -/
def enter (d : Draft) (path : Path) (element : Bool) : Option Draft := do
  let parents := path.dropLast
  let key ← path.getLast?
  let d ← d.establish parents
  if element then
    d.change parents fun entries =>
      match entries.lookup key with
      | none => some (entries.set key (.tables [[]]))
      | some (.tables elements) => some (entries.set key (.tables ([] :: elements)))
      | some _ => none
  else d.assign parents key (.table [])

/-- Enters the tables that a key with several parts runs through: the parts but the last. -/
def enterEach (d : Draft) (context : Path) : Path → Option (Draft × Path)
  | [] => some (d, context)
  | part :: rest => do
    let path := context ++ [part]
    let d ← (d.markImplicit path).enter path false
    d.enterEach path rest

end Draft

/-- Puts a value into the tables of an inline table. -/
def insertAt (node : Node) : Path → Text → Entries → Option Entries
  | [], key, entries => some (entries.set key node)
  | part :: rest, key, entries =>
    match (entries.lookup part).getD (.table []) with
    | .table inner => do return entries.set part (.table (← insertAt node rest key inner))
    | _ => none

def Expr.isArray : Expr → Bool
  | .array _ => true
  | _ => false

mutual

/-- The value of an expression that is to become the value of a key. The tables in it are built in
place, too. -/
def evaluate (context : Path) (key : Text) (inArray : Bool) : Expr → Draft → Option (Node × Draft)
  | .string t, d => some (.string t, d)
  | .integer n, d => some (.integer n, d)
  | .float literal, d => some (.float literal, d)
  | .bool b, d => some (.bool b, d)
  | .moment literal, d => some (.moment literal, d)
  | .array items, d => do
    let (items, d) ← evaluateItems context key items (d.noteArray context key true)
    return (.array items, d)
  | .inlineTable pairs, d => do
    let path := context ++ [key]
    let d ← (d.markImplicit path).enter path inArray
    let (entries, d) ← evaluatePairs path pairs [] d
    return (.table entries, d)

def evaluateItems (context : Path) (key : Text) :
    List Expr → Draft → Option (List Node × Draft)
  | [], d => some ([], d)
  | item :: rest, d => do
    let (node, d) ← evaluate context key true item d
    let (nodes, d) ← evaluateItems context key rest d
    return (node :: nodes, d)

def evaluatePairs (context : Path) :
    List (Path × Expr) → Entries → Draft → Option (Entries × Draft)
  | [], entries, d => some (entries, d)
  | (path, value) :: rest, entries, d => do
    let key ← path.getLast?
    let (d, inner) ← d.enterEach context path.dropLast
    let (node, d) ← evaluate inner key false value d
    let d ← d.assign inner key node
    let entries ← insertAt node path.dropLast key entries
    evaluatePairs context rest entries (d.noteArray inner key value.isArray)

end

/-- Carries out statements from the table with path `context` on. -/
def build : Path → List Statement → Draft → Option Draft
  | _, [], d => some d
  | _, .table path :: rest, d => do
    let d ← d.enter path false
    build path rest (d.noteArray path [] false)
  | _, .element path :: rest, d => do
    let d ← d.enter path true
    build path rest (d.noteArray path [] false)
  | context, .pair path value :: rest, d => do
    let key ← path.getLast?
    let (d, inner) ← d.enterEach context path.dropLast
    let (node, d) ← evaluate inner key false value d
    let d ← d.assign inner key node
    build context rest (d.noteArray inner key value.isArray)

/-- The table that a document describes. -/
def parse (b : Bytes) : Option Entries := do
  let statements ← read? b
  return (← build [] statements {}).root

end Toml

end Teleop
