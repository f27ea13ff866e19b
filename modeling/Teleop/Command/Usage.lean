import Teleop.Command.Basic

/-!
# How the program is used

Each topic is explained by what it does, how it is written, the commands below it, and its flags.
-/

namespace Teleop

/-- A flag of a command. -/
structure Flag where
  name : String
  letter : Option Char := none
  /-- The value that it has if it is not given; a flag without one is a switch. -/
  fallback : Option String := none
  doc : String

namespace Flag

/-- The flag as it is written, with its letter. -/
def spelling (f : Flag) : String :=
  (match f.letter with
    | some c => s!"-{c}, --"
    | none => "--") ++ f.name

/-- The flag at the start of a line. -/
def head (f : Flag) : String :=
  (if f.letter.isSome then "  " else "      ") ++ f.spelling ++
    if f.fallback.isSome then " string" else ""

/-- What the flag is for, and its value if it is not given. -/
def meaning (f : Flag) : String :=
  f.doc ++ match f.fallback with
    | none | some "" => ""
    | some value => s!" (default \"{value}\")"

/-- One line per flag, with the meanings below each other. -/
def table (flags : List Flag) : List String :=
  let width := (flags.map (·.head.length)).foldl max 0
  flags.map fun f => f.head.pushn ' ' (width - f.head.length + 3) ++ f.meaning

end Flag

def Shell.name : Shell → String
  | bash => "bash"
  | fish => "fish"
  | powershell => "powershell"
  | zsh => "zsh"

namespace Topic

def name : Topic → String
  | program => "linkctl"
  | run => "run"
  | config => "config"
  | version => "version"
  | completion => "completion"
  | shell s => s.name
  | help => "help"
  | complete => "__complete"

/-- The names by which a command can be called. -/
def names : Topic → List String
  | complete => [complete.name, undescribed]
  | t => [t.name]
where
  /-- The name that asks for choices without descriptions. -/
  undescribed : String := "__completeNoDesc"

/-- The commands below a topic, in the order of their names. -/
def below : Topic → List Topic
  | program => [completion, config, help, run, version]
  | completion => [.bash, .fish, .powershell, .zsh].map shell
  | _ => []

/-- The command below a topic that has this name; the hidden one may be left out. -/
def child? (t : Topic) (hidden : Bool) (name : Text) : Option Topic :=
  let all := t.below ++ if hidden ∧ t = program then [complete] else []
  all.find? (·.names.any (utf8 · == name))

/-- What a topic is about, in a line. -/
def summary : Topic → String
  | program => "Maintain a control session with a remote agent engine"
  | run => "Run a session until interrupted"
  | config => "Print the resolved configuration"
  | version => "Print version information"
  | completion => "Generate the autocompletion script for the specified shell"
  | shell s => "Generate the autocompletion script for " ++ s.name
  | help => "Help about any command"
  | complete => "Request shell completion choices for the specified command-line"

/-- What a topic is about, at full length. -/
def description : Topic → String
  | completion =>
    "Generate the autocompletion script for linkctl for the specified shell.\n" ++
      "See each sub-command's help for details on how to use the generated script."
  | help =>
    "Help provides help for any command in the application.\n" ++
      "Simply type linkctl help [path to command] for full details."
  | topic => topic.summary

/-- The flags of a command with a value. -/
def valued : Topic → List Flag
  | run => [settings, http, play]
  | config => [settings]
  | _ => []
where
  settings : Flag :=
    { name := "config", letter := some 'c', fallback := some "linkctl.toml",
      doc := "path to the TOML config file" }
  http : Flag :=
    { name := "http", fallback := some "",
      doc := "address serving /metrics and /status (disabled when empty)" }
  play : Flag :=
    { name := "play", fallback := some "", doc := "animation to play once the session is ready" }

/-- The flags of a command without a value. -/
def switches (t : Topic) : List Flag :=
  helpSwitch :: match t with
    | shell _ => [{ name := "no-descriptions", doc := "disable completion descriptions" }]
    | _ => []
where
  helpSwitch : Flag := { name := "help", letter := some 'h', doc := s!"help for {t.name}" }

/-- All flags of a command, in the order of their names. -/
def flags (t : Topic) : List Flag :=
  (t.valued ++ t.switches).mergeSort fun a b => decide (a.name ≤ b.name)

/-- The command as it is written in full. -/
def path : Topic → String
  | program => "linkctl"
  | shell s => "linkctl completion " ++ s.name
  | topic => "linkctl " ++ topic.name

/-- How a command is written, if it does something by itself. -/
def form : Topic → Option String
  | program | completion => none
  | help => some "linkctl help [command] [flags]"
  | shell s => some (path (shell s))
  | topic => some (topic.path ++ " [flags]")

/-- How a topic is used; the flags may be left out. -/
def usage (t : Topic) (withFlags : Bool) : Text :=
  let line (s : String) := "\n  " ++ s
  let group := !t.below.isEmpty
  utf8 <| "Usage:" ++ (t.form.map line).getD "" ++
    (if group then line (t.path ++ " [command]") ++ "\n\nAvailable Commands:" ++
      String.join (t.below.map fun c =>
        line (c.name.pushn ' ' (12 - c.name.length) ++ c.summary))
    else "") ++
    (if withFlags then "\n\nFlags:\n" ++ "\n".intercalate (Flag.table t.flags) else "") ++
    (if group then
      s!"\n\nUse \"{t.path} [command] --help\" for more information about a command."
    else "") ++ "\n"

/-- The whole explanation of a topic. -/
def text (t : Topic) : Text :=
  utf8 t.description ++ utf8 "\n\n" ++ t.usage true

end Topic

end Teleop
