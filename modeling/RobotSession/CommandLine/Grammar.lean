/-!
# The commands and their options

The commands of the program, what may be given with each, and the texts that tell so.

* `Command.flags`, `Command.subcommands` — what a command understands.
* `Command.usage` — the line that shows how a command is used, in general or with the parts
  that were given.
* `Command.helpText` — the help for a command.
-/

namespace RobotSession.CommandLine

/-- The name of the program. -/
def programName : String := "luabot"

/-- The options. -/
inductive Flag
  | version
  | config
  | joinTimeout
  | help
  deriving DecidableEq, Inhabited

namespace Flag

/-- The letter that names an option after a single dash. -/
def short? : Flag → Option Char
  | .version => some 'v'
  | .config => some 'c'
  | .joinTimeout => none
  | .help => some 'h'

/-- The name of an option after two dashes. -/
def long : Flag → String
  | .version => "version"
  | .config => "config"
  | .joinTimeout => "join-timeout-ms"
  | .help => "help"

/-- The name of the value that an option takes. -/
def valueName? : Flag → Option String
  | .config => some "CONFIG"
  | .joinTimeout => some "JOIN_TIMEOUT_MS"
  | _ => none

def takesValue (f : Flag) : Bool :=
  f.valueName?.isSome

def about : Flag → String
  | .version => "Print version information"
  | .config => "JSON configuration file"
  | .joinTimeout => "Milliseconds to wait for the robot after the host loop exits"
  | .help => "Print help"

/-- An option as messages show it. -/
def shown (f : Flag) : String :=
  "--" ++ f.long ++ (match f.valueName? with
    | some v => " <" ++ v ++ ">"
    | none => "")

/-- Both names of an option, in a column. -/
def column (f : Flag) : String :=
  (match f.short? with
    | some c => String.ofList ['-', c, ',', ' ']
    | none => "    ") ++ f.shown

end Flag

/-- What can be given to a command. -/
inductive Part
  | flag (f : Flag)
  /-- The path of the robot program. -/
  | script
  deriving DecidableEq, Inhabited

def Part.shown : Part → String
  | .flag f => f.shown
  | .script => "<SCRIPT>"

/-- The commands; `root` is the program without one. -/
inductive Command
  | root
  | sim
  | run
  | help
  deriving DecidableEq, Inhabited

namespace Command

def name : Command → String
  | .root => programName
  | .sim => "sim"
  | .run => "run"
  | .help => "help"

def about : Command → String
  | .root => "Run Lua robot programs"
  | .sim => "Run a robot program in the simulator"
  | .run => "Run a robot program headless, without a host main loop"
  | .help => "Print this message or the help of the given subcommand(s)"

def subcommands : Command → List Command
  | .root => [.sim, .run, .help]
  | _ => []

def flags : Command → List Flag
  | .root => [.version, .config, .joinTimeout, .help]
  | .help => []
  | _ => [.config, .joinTimeout, .help]

/-- Whether a command needs the path of a robot program. -/
def needsScript : Command → Bool
  | .sim => true
  | .run => true
  | _ => false

/-- The other words that a command takes, with what they are. -/
def words : Command → List (String × String)
  | .root => []
  | .help => [("[COMMAND]...", "Print help for the subcommand(s)")]
  | _ => [(Part.script.shown, "Robot program")]

/-- The command as it is called. -/
def call : Command → String
  | .root => programName
  | c => programName ++ " " ++ c.name

/-- How a command is used. -/
def usage (c : Command) : String :=
  let flags := if c.flags.isEmpty then [] else ["[OPTIONS]"]
  let command := if c.subcommands.isEmpty then [] else ["[COMMAND]"]
  " ".intercalate (c.call :: flags ++ c.words.map (·.1) ++ command)

/-- How a command is used with the options among some parts; nothing that is needed is left
out. -/
def usageWith (c : Command) (parts : List Part) : String :=
  let flags := (parts.filter (· ≠ .script)).eraseDups.map Part.shown
  " ".intercalate (c.call :: flags ++ c.words.map (·.1))

/-- Rows of two columns. -/
def table (rows : List (String × String)) : List String :=
  let width := (rows.map fun r => r.1.length).foldl max 0
  rows.map fun (left, right) =>
    "  " ++ left.pushn ' ' (width - left.length) ++ "  " ++ right

/-- A titled part of a help text, if there is anything in it. -/
def titled (title : String) (lines : List String) : List String :=
  if lines.isEmpty then [] else "" :: title :: lines

/-- The help for a command. What an option does stands below it: the longest option leaves
no room for it. -/
def helpText (c : Command) : String :=
  let options := c.flags.flatMap fun f => ["  " ++ f.column, "          " ++ f.about]
  let lines := [c.about, "", "Usage: " ++ c.usage]
    ++ titled "Commands:" (table (c.subcommands.map fun d => (d.name, d.about)))
    ++ titled "Arguments:" (table c.words)
    ++ titled "Options:" options
  "\n".intercalate lines ++ "\n"

end Command

end RobotSession.CommandLine
