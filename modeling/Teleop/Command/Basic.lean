import Teleop.Text.Quote

/-!
# Commands and their topics

The program has three commands of its own: `run` holds a session, `config` prints the settings, and
`version` prints the version. Two more explain things: `help`, and `completion`, which has a command
for each shell that could complete what is typed. A hidden one is what such a shell calls.
-/

namespace Teleop

/-- The shells that `completion` knows. -/
inductive Shell where
  | bash
  | fish
  | powershell
  | zsh
  deriving DecidableEq, Repr

/-- What help can be asked about: the program or one of its commands. -/
inductive Topic where
  | program
  | run
  | config
  | version
  | completion
  | shell (s : Shell)
  | help
  /-- The hidden command with which a shell asks how what has been typed could go on. -/
  | complete
  deriving DecidableEq, Repr

/-- A command. -/
inductive Command where
  /-- Holds a session, with pages at an address and an animation to play, where not empty. -/
  | run (settings http play : Text)
  /-- Prints the settings in a file. -/
  | config (settings : Text)
  | version
  /-- Explains a topic. -/
  | help (topic : Topic)
  /-- Help was asked about something that is no topic. -/
  | unknownTopic (words : List Text)
  /-- Tells how words could go on, the last of which is unfinished; the choices are described. -/
  | complete (words : List Text) (described : Bool)
  deriving DecidableEq, Repr

namespace Command

/-- The name of the program. -/
def program : Text := utf8 "linkctl"

/-- Why arguments are refused. -/
inductive Error where
  /-- A word that is no command below the one whose path is given. -/
  | unknownCommand (name : Text) (parent : String) (suggestions : List String)
  | malformedFlag (argument : Text)
  | unknownFlag (name : Text)
  | unknownLetter (letter : UInt8) (letters : Text)
  | missingValue (name : Text)
  | missingLetterValue (letter : UInt8) (letters : Text)
  /-- A switch, as it is written, was given something that is neither on nor off. -/
  | invalidSwitch (switch : String) (value : Text)
  /-- There are no words that could go on. -/
  | missingWords
  deriving DecidableEq, Repr

/-- A letter in single quotes. A byte beyond ASCII stands for the first byte of its encoding. -/
def quoteLetter (letter : UInt8) : Text :=
  let code := if letter < 128 then letter.toNat else if letter < 192 then 0xC2 else 0xC3
  let shown := (Rune.scalar code (Utf8.encode code)).quoted
  let shown := if code = 34 then [34] else if code = 39 then utf8 "\\'" else shown
  [39] ++ shown ++ [39]

def Error.message : Error → Text
  | unknownCommand name parent suggestions =>
    utf8 "unknown command " ++ quoteText name ++ utf8 " for " ++ quoteText (utf8 parent) ++
      if suggestions.isEmpty then []
      else utf8 "\n\nDid you mean this?\n" ++
        suggestions.flatMap fun s => utf8 "\t" ++ utf8 s ++ utf8 "\n"
  | malformedFlag argument => utf8 "bad flag syntax: " ++ argument
  | unknownFlag name => utf8 "unknown flag: --" ++ name
  | unknownLetter letter letters =>
    utf8 "unknown shorthand flag: " ++ quoteLetter letter ++ utf8 " in -" ++ letters
  | missingValue name => utf8 "flag needs an argument: --" ++ name
  | missingLetterValue letter letters =>
    utf8 "flag needs an argument: " ++ quoteLetter letter ++ utf8 " in -" ++ letters
  | invalidSwitch switch value =>
    utf8 "invalid argument " ++ quoteText value ++ utf8 " for " ++ quoteText (utf8 switch) ++
      utf8 " flag: strconv.ParseBool: parsing " ++ quoteText value ++ utf8 ": invalid syntax"
  | missingWords => utf8 "requires at least 1 arg(s), only received 0"

end Command

end Teleop
