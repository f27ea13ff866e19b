import Teleop.Command.Arguments

/-!
# Completing what has been typed

A shell hands over the words that have been typed, the last of which is unfinished, and is told what
that word could become: a command, or a flag that has not been given yet. Values of flags are left
to the shell.

* `Offer.of` is what a shell is told;
* `Offer.text` and `Offer.remarks` are how it is told.
-/

namespace Teleop

namespace Command

/-- What a word could become, and what that means. -/
structure Choice where
  name : String
  doc : String
  deriving DecidableEq, Repr

/-- Why there are no choices. -/
inductive Obstacle where
  | noCommand (words : List Text)
  | badFlags (arguments : List Text) (e : Error)
  | unsupportedFlag (topic : Topic) (flag : Text)
  deriving DecidableEq, Repr

def Obstacle.message : Obstacle → Text
  | noCommand words => utf8 "unable to find a command for arguments: " ++ listed words
  | badFlags arguments e =>
    utf8 "Error while parsing flags from args " ++ listed arguments ++ utf8 ": " ++ e.message
  | unsupportedFlag topic flag =>
    utf8 "Subcommand '" ++ utf8 topic.name ++ utf8 "' does not support flag '" ++ flag ++ utf8 "'"
where
  listed (words : List Text) : Text := [91] ++ joinWith (utf8 " ") words ++ [93]

/-- What a shell is told. -/
structure Offer where
  choices : List Choice := []
  /-- The word could also be the name of a file. -/
  files : Bool := false
  described : Bool := true
  obstacle : Option Obstacle := none

namespace Offer

/-- One line per choice, and one with a number that tells whether files are allowed. -/
def text (o : Offer) : Text :=
  let line (c : Choice) := if o.described then c.name ++ "\t" ++ c.doc else c.name
  utf8 <| String.join (o.choices.map fun c => line c ++ "\n") ++
    (if o.files then ":0\n" else ":4\n")

/-- What goes with the choices, for a reader. -/
def remarks (o : Offer) : Text :=
  let obstacle := match o.obstacle with
    | some e => utf8 "[Debug] [Error] " ++ e.message ++ utf8 "\n"
    | none => []
  obstacle ++ utf8 "Completion ended with directive: ShellCompDirective" ++
    utf8 (if o.files then "Default\n" else "NoFileComp\n")

end Offer

/-! ## Flags -/

/-- The flag of a command with this name, or with this letter. -/
def flagNamed? (topic : Topic) (name : Text) : Option Flag :=
  match name with
  | [letter] => topic.flags.find? (·.letter.any (·.toNat == letter.toNat))
  | _ => topic.flags.find? (utf8 ·.name == name)

/-- What the unfinished word belongs to. -/
structure Unfinished where
  /-- The flag whose value it is. -/
  flag : Option Flag := none
  /-- The arguments before it, without that flag. -/
  arguments : List Text
  word : Text
  /-- The name of a flag that there is not. -/
  unsupported : Option Text := none

/-- The name of a flag as it is written: the whole of a long one, the last of several letters. -/
def flagName (argument : Text) : Text :=
  if (utf8 "--").isPrefixOf argument then argument.drop 2 else argument.drop (argument.length - 1)

/-- The name of the flag that an argument is, if its value is still to come. -/
def openFlag? (argument : Text) : Option Text :=
  let long := (utf8 "--").isPrefixOf argument && 3 ≤ argument.length
  let short := argument.head? = some 45 && 2 ≤ argument.length && argument[1]? ≠ some 45
  if (long || short) && !argument.contains 61 then some (flagName argument) else none

/-- Finds out what the unfinished word belongs to. It is the value of a flag if it follows an equals
sign, or if the argument before it is a flag with a value. -/
def unfinished (topic : Topic) (arguments : List Text) (word : Text) : Unfinished :=
  let isFlag := word.head? = some 45
  match splitValue word with
  | (head, some value) =>
    if isFlag then valueOf (flagName head) value true else valueOf [] word false
  | (_, none) => if isFlag then { arguments, word } else valueOf [] word false
where
  /-- The word is `value`; the name of its flag, if it has one, may stand before it. -/
  valueOf (name value : Text) (equals : Bool) : Unfinished :=
    let (name, before) := match name, arguments.getLast?.bind openFlag? with
      | [], some name => (name, arguments.dropLast)
      | name, _ => (name, arguments)
    if name.isEmpty then { arguments := before, word := value }
    else match flagNamed? topic name with
      | none => { arguments, word, unsupported := some name }
      | some flag =>
        if equals ∨ flag.fallback.isSome then
          { flag := some flag, arguments := before, word := value }
        else { arguments, word := value }

/-- Whether a flag has been given. -/
def Values.given (v : Values) (f : Flag) : Bool :=
  v.values.any (·.1 == f.name) || v.switches.any (·.1 == f.name)

/-- The flags that a word could become. -/
def flagChoices (topic : Topic) (v : Values) (word : Text) : List Choice :=
  (topic.flags.filter fun f => !v.given f).flatMap fun f =>
    let spellings := ("--" ++ f.name) :: (f.letter.map fun c => "-" ++ c.toString).toList
    (spellings.filter (word.isPrefixOf <| utf8 ·)).map (⟨·, f.doc⟩)

/-! ## Commands -/

/-- The commands below a topic that a word could become. -/
def commandChoices (topic : Topic) (word : Text) : List Choice :=
  (topic.below.filter (word.isPrefixOf <| utf8 ·.name)).map fun t => ⟨t.name, t.summary⟩

/-- The choices for a word that is no flag, after other words. Behind `help` it is a topic. -/
def wordChoices (topic : Topic) (u : Unfinished) (before : List Text) (flagsAllowed : Bool) :
    Offer :=
  let free := u.flag.isNone && before.isEmpty
  let choices := if free then commandChoices topic u.word else []
  let files := !(free && !topic.below.isEmpty)
  if u.flag.isSome && flagsAllowed then { choices, files }
  else match topic with
    | .help =>
      { choices := match locate true before with
          | .ok (asked, _) => choices ++ commandChoices asked u.word
          | .error _ => choices }
    | .completion | .shell _ => { choices }
    | _ => { choices, files }

/-- Reads the flags of a command; the hidden one leaves all words as they are. -/
def valuesFor (topic : Topic) (arguments : List Text) : Except Error Values :=
  if topic = .complete then .ok { words := arguments.reverse }
  else readFlags topic arguments.length arguments {}

/-- The choices for a word behind the arguments of a command. Behind two dashes there are no flags,
and once help has been asked for there is nothing to choose. -/
def offerFor (topic : Topic) (arguments : List Text) (word : Text) : Offer :=
  let u := if topic = .complete then { arguments, word } else unfinished topic arguments word
  match valuesFor topic u.arguments, valuesFor topic (u.arguments ++ [utf8 "--"]) with
  | .error e, _ => { files := true, obstacle := some (.badFlags u.arguments e) }
  | .ok v, dashed =>
    let flagsAllowed := topic = .complete ||
      match dashed with
      | .ok d => d.words.length ≤ v.words.length
      | .error _ => true
    match (if flagsAllowed then u.unsupported else none) with
    | some name => { files := true, obstacle := some (.unsupportedFlag topic name) }
    | none =>
      if v.given (Topic.switches.helpSwitch topic) then {}
      else if u.flag.isNone && u.word.head? = some 45 && !u.word.contains 61 && flagsAllowed then
        { choices := flagChoices topic v u.word }
      else wordChoices topic u v.words.reverse flagsAllowed

/-- What a shell is told about words, the last of which is unfinished. Whether the choices are
described is settled by the last name by which the hidden command was called. -/
def Offer.of (described : Bool) (words : List Text) : Offer :=
  let before := words.dropLast
  match locate true before with
  | .error _ => { files := true, described, obstacle := some (.noCommand before) }
  | .ok (topic, arguments) =>
    { offerFor topic arguments (words.getLast?.getD []) with
      described := if topic = .complete then describes before else described }

end Command

end Teleop
