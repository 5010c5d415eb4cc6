import RobotSession.CommandLine.Grammar

/-!
# Refused command lines

A command line that does not follow the grammar is refused with a message: what is wrong,
what might have been meant, how the command is used, and where there is help.

* `Fault` — what is wrong.
* `Refusal.text` — the message.
-/

namespace RobotSession.CommandLine

/-- Why a text is not a number of 64 bits. -/
inductive NumberFault
  | empty
  | notDigit
  | tooLarge
  deriving DecidableEq

def NumberFault.message : NumberFault → String
  | .empty => "cannot parse integer from empty string"
  | .notDigit => "invalid digit found in string"
  | .tooLarge => "number too large to fit in target type"

/-- What is wrong with a command line. -/
inductive Fault
  | missingValue (p : Part)
  | notNumber (p : Part) (value : String) (f : NumberFault)
  /-- A number is not even text. -/
  | notText
  | repeated (p : Part)
  /-- A value for an option that takes none. -/
  | needlessValue (f : Flag) (value : String)
  | missingScript
  | unexpected (word : String)
  | unknownCommand (word : String)
  deriving DecidableEq

def Fault.message : Fault → String
  | .missingValue p => "a value is required for '" ++ p.shown ++ "' but none was supplied"
  | .notNumber p value f => "invalid value '" ++ value ++ "' for '" ++ p.shown ++ "': " ++ f.message
  | .notText => "invalid UTF-8 was detected in one or more arguments"
  | .repeated p => "the argument '" ++ p.shown ++ "' cannot be used multiple times"
  | .needlessValue f value =>
    "unexpected value '" ++ value ++ "' for '" ++ f.shown ++ "' found; no more were expected"
  | .missingScript =>
    "the following required arguments were not provided:\n  " ++ Part.script.shown
  | .unexpected word => "unexpected argument '" ++ word ++ "' found"
  | .unknownCommand word => "unrecognized subcommand '" ++ word ++ "'"

/-- What might have been meant. -/
inductive Tip
  | similarFlag (f : Flag)
  | similarCommands (names : List String)
  /-- A word with dashes in front, as the path of a robot program. -/
  | asValue (word : String)
  /-- A command after two dashes. -/
  | withoutDashes (word : String)
  deriving DecidableEq

def Tip.text : Tip → String
  | .similarFlag f => "a similar argument exists: '--" ++ f.long ++ "'"
  | .similarCommands names =>
    (if names.length = 1 then "a similar subcommand exists: " else "some similar subcommands exist: ")
      ++ ", ".intercalate (names.map fun n => "'" ++ n ++ "'")
  | .asValue word => "to pass '" ++ word ++ "' as a value, use '-- " ++ word ++ "'"
  | .withoutDashes word =>
    "subcommand '" ++ word ++ "' exists; to use it, remove the '--' before it"

/-- How a refusal shows the use of the command. -/
inductive Usage
  | hidden
  | full
  /-- With these parts, or in full if there is none. -/
  | parts (ps : List Part)
  deriving DecidableEq

def Usage.text? (c : Command) : Usage → Option String
  | .hidden => none
  | .full => some c.usage
  | .parts [] => some c.usage
  | .parts ps => some (c.usageWith ps)

/-- A refused command line. -/
structure Refusal where
  /-- The command that could not be read. -/
  command : Command
  fault : Fault
  tips : List Tip := []
  usage : Usage
  deriving DecidableEq

namespace Refusal

def text (r : Refusal) : String :=
  let tips := match r.tips with
    | [] => ""
    | tips => "\n" ++ String.join (tips.map fun t => "\n  tip: " ++ t.text)
  let usage := match r.usage.text? r.command with
    | some u => "\n\nUsage: " ++ u
    | none => ""
  let help := if r.command.flags.contains .help then "\n\nFor more information, try '--help'.\n" else "\n"
  "error: " ++ r.fault.message ++ tips ++ usage ++ help

end Refusal

end RobotSession.CommandLine
