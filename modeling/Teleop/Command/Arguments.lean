import Teleop.Command.Usage
import Teleop.Text.Case

/-!
# Arguments

How the arguments of the program are read. Flags may stand anywhere, also before the command. A
command that is misspelt is answered with those that may have been meant.

* `Command.parse` reads the arguments.
-/

namespace Teleop

namespace Command

/-! ## Finding the command -/

/-- The commands that are suggested, in this order. -/
def suggested : List Topic :=
  [.run, .config, .version, .completion]

/-- The argument is a flag whose value is the next argument, as far as one can tell before the
command is known. -/
def takesNext (argument : Text) : Bool :=
  argument.head? = some 45 && !argument.contains 61 &&
    (argument.length = 2 || (utf8 "--").isPrefixOf argument)

/-- The arguments that are neither flags nor values of flags. A flag at the end, or with a single
argument behind it, hides what follows. -/
def words : List Text → List Text
  | [] => []
  | [a] => if a = [] ∨ a.head? = some 45 then [] else [a]
  | a :: b :: rest =>
    if a = utf8 "--" then []
    else if takesNext a then if rest.isEmpty then [] else words rest
    else if a = [] ∨ a.head? = some 45 then words (b :: rest)
    else a :: words (b :: rest)

/-- The arguments without the first one that is a certain word and not the value of a flag. -/
def withoutWord (word : Text) : List Text → List Text
  | [] => []
  | [a] => if a = word then [] else [a]
  | a :: b :: rest =>
    if a = utf8 "--" then a :: b :: rest
    else if takesNext a then a :: b :: withoutWord word rest
    else if a = word then b :: rest
    else a :: withoutWord word (b :: rest)

/-- The number of single-letter changes between two texts. -/
def distance (a b : Text) : Nat :=
  let row (previous : List Nat) (x : UInt8) : List Nat :=
    let first := (previous.head?.getD 0) + 1
    let cells := (previous.zip previous.tail).zip b
    (cells.foldl (fun (done : List Nat) ((diagonal, above), y) =>
      let left := done.head?.getD 0
      let best := if x = y then diagonal else 1 + min diagonal (min above left)
      best :: done) [first]).reverse
  ((a.foldl row (List.range (b.length + 1))).getLast?).getD 0

/-- The commands that may have been meant: those that start with the word and those that are at most
two changes away, whatever the case. -/
def suggestions (word : Text) : List String :=
  let word := lowerCase word
  (suggested.map Topic.name).filter fun name =>
    distance word (utf8 name) ≤ 2 || word.isPrefixOf (utf8 name)

/-! ## Flags -/

/-- What was given, the latest first. -/
structure Values where
  /-- The flags with a value. -/
  values : List (String × Text) := []
  switches : List (String × Bool) := []
  /-- The arguments that are no flags. -/
  words : List Text := []

/-- The words for a switch that is on, and for one that is off. -/
def switch? (value : Text) : Option Bool :=
  if (["1", "t", "T", "TRUE", "true", "True"].map utf8).contains value then some true
  else if (["0", "f", "F", "FALSE", "false", "False"].map utf8).contains value then some false
  else none

def Values.set (v : Values) (flag : Flag) (value : Text) : Values :=
  { v with values := (flag.name, value) :: v.values }

def Values.turn (v : Values) (flag : Flag) (value : Text) : Except Error Values :=
  match switch? value with
  | some on => .ok { v with switches := (flag.name, on) :: v.switches }
  | none => .error (.invalidSwitch flag.spelling value)

/-- The parts of a text before and after the first equals sign. -/
def splitValue (t : Text) : Text × Option Text :=
  match t.dropWhile (· ≠ 61) with
  | _ :: value => (t.takeWhile (· ≠ 61), some value)
  | [] => (t, none)

/-- A flag given by its name; `next` are the arguments behind it. The arguments that are left are
returned, too. -/
def longFlag (topic : Topic) (argument : Text) (next : List Text) (v : Values) :
    Except Error (Values × List Text) := do
  let (name, value) := splitValue (argument.drop 2)
  if name = [] ∨ name.head? = some 45 then throw (.malformedFlag argument)
  match topic.valued.find? (utf8 ·.name == name) with
  | some flag =>
    match value, next with
    | some value, _ => return (v.set flag value, next)
    | none, value :: next => return (v.set flag value, next)
    | none, [] => throw (.missingValue name)
  | none =>
    match topic.switches.find? (utf8 ·.name == name) with
    | some flag => return (← v.turn flag (value.getD (utf8 "true")), next)
    | none => throw (.unknownFlag name)

/-- Flags given by their letters. What starts with `test.` is left to others. -/
def letterFlags (topic : Topic) (next : List Text) : Text → Values →
    Except Error (Values × List Text)
  | [], v => .ok (v, next)
  | letter :: rest, v =>
    let spelt (f : Flag) : Bool := f.letter.any (·.toNat == letter.toNat)
    let explicit : Option Text := match rest with
      | 61 :: value => if value.isEmpty then none else some value
      | _ => none
    if (utf8 "test.").isPrefixOf (letter :: rest) then .ok (v, next)
    else match topic.valued.find? spelt with
    | some flag =>
      match explicit, rest, next with
      | some value, _, _ => .ok (v.set flag value, next)
      | none, b :: more, _ => .ok (v.set flag (b :: more), next)
      | none, [], value :: left => .ok (v.set flag value, left)
      | none, [], [] => .error (.missingLetterValue letter (letter :: rest))
    | none =>
      match topic.switches.find? spelt with
      | some flag => do
        let v ← v.turn flag (explicit.getD (utf8 "true"))
        if explicit.isSome then return (v, next) else letterFlags topic next rest v
      | none => .error (.unknownLetter letter (letter :: rest))

/-- Reads all flags; `fuel` counts the arguments. -/
def readFlags (topic : Topic) : Nat → List Text → Values → Except Error Values
  | 0, _, v => .ok v
  | fuel + 1, arguments, v =>
    match arguments with
    | [] => .ok v
    | a :: rest =>
      if a.head? ≠ some 45 ∨ a.length = 1 then
        readFlags topic fuel rest { v with words := a :: v.words }
      else if a = utf8 "--" then .ok { v with words := rest.reverse ++ v.words }
      else do
        let (v, rest) ← if (utf8 "--").isPrefixOf a then longFlag topic a rest v
          else letterFlags topic rest (a.drop 1) v
        readFlags topic fuel rest v

/-! ## Reading the arguments -/

/-- The value of a flag. -/
def Values.get (v : Values) (f : Flag) : Text :=
  (v.values.lookup f.name).getD (utf8 (f.fallback.getD ""))

/-- One step down to a command below a topic, with the arguments that are left for it. -/
def descend? (hidden : Bool) (topic : Topic) (arguments : List Text) :
    Option (Topic × List Text) := do
  let word ← (words arguments).head?
  let next ← topic.child? hidden word
  return (next, withoutWord word arguments)

/-- The command that the arguments name, and its own arguments. Commands are at most two steps
down. -/
def locate (hidden : Bool) (arguments : List Text) : Except Error (Topic × List Text) :=
  match descend? hidden .program arguments, words arguments with
  | some (topic, left), _ => .ok ((descend? hidden topic left).getD (topic, left))
  | none, [] => .ok (.program, arguments)
  | none, word :: _ => .error (.unknownCommand word Topic.program.path (suggestions word))

/-- What words after `help` ask about. -/
def topicOf (asked : List Text) : Command :=
  match locate false asked with
  | .ok (topic, _) => .help topic
  | .error _ => .unknownTopic asked

/-- Reads the arguments of a command, or of the program itself. -/
def parseFor (topic : Topic) (arguments : List Text) : Except Error Command := do
  let v ← readFlags topic arguments.length arguments {}
  if v.switches.lookup "help" = some true then return .help topic
  match topic with
  | .run =>
    return .run (v.get Topic.valued.settings) (v.get Topic.valued.http) (v.get Topic.valued.play)
  | .config => return .config (v.get Topic.valued.settings)
  | .version => return .version
  | .help => return topicOf v.words.reverse
  | .shell s =>
    match v.words.getLast? with
    | some word => throw (.unknownCommand word (Topic.shell s).path [])
    | none => return .help (.shell s)
  | topic => return .help topic

/-- The arguments do not call the hidden command by the name that leaves out descriptions. -/
def describes (arguments : List Text) : Bool :=
  (words arguments).head? ≠ some (utf8 Topic.names.undescribed)

/-- Reads the arguments of the program. All that follows the hidden command is left as it is. -/
def parse (arguments : List Text) : Except Error Command := do
  match locate true arguments with
  | .ok (.complete, []) => throw .missingWords
  | .ok (.complete, left) => return .complete left (describes arguments)
  | _ =>
    let (topic, left) ← locate false arguments
    parseFor topic left

end Command

end Teleop
