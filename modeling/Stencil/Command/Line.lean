import Stencil.Command.Usage

/-!
# Command lines

The commands with their options. Without a command the outputs are generated.
-/

namespace Stencil.Command

/-- What a command line asks for. -/
inductive Action where
  /-- The outputs are written, possibly to another directory than the configured one. -/
  | generate (output : Option String) (dryRun : Bool)
  | validate
  | lint (failOnError errorsOnly : Bool)
deriving DecidableEq, Repr

/-- A command line: the configuration file, and what is asked for, if that is said. -/
structure Line where
  config : Option String
  action : Option Action
deriving DecidableEq, Repr

/-- What is done where nothing is asked for. -/
def Action.default : Action := .generate none false

/-- The options and commands before any command. -/
def rootGrammar : Grammar :=
  ⟨[.config, .help, .version], ["generate", "validate", "lint", "help"]⟩

/-- The options after a command. -/
def optionsOf (command : String) : List OptionKey :=
  match command with
  | "generate" => [.output, .dryRun, .help, .config]
  | "lint" => [.failOnError, .errorsOnly, .help, .config]
  | _ => [.help, .config]

/-- What a command asks for, given its options. -/
def actionOf (command : String) (given : Given) : Action :=
  let isGiven (key : OptionKey) : Bool := (given.lookup key).isSome
  match command with
  | "generate" => .generate ((given.lookup .output).map (·.2)) (isGiven .dryRun)
  | "lint" => .lint (isGiven .failOnError) (isGiven .errorsOnly)
  | _ => .validate

/-- The answer to a request for help on commands. Only one command can be named. -/
def helpFault : List String → UsageFault
  | [] => .displayHelp
  | [command] =>
    if rootGrammar.commands.contains command then .displayHelp else .invalidSubcommand
  | _ => .invalidSubcommand

/-- The command line in words and variables. The words after a command are read first. -/
def Line.read (environment : List (String × String)) (words : List String) :
    Except UsageFault Line := do
  let (progress, command) ← Progress.start.read rootGrammar false words
  match command with
  | none =>
    let given ← complete rootGrammar environment progress
    pure ⟨laterValue? .config given [], none⟩
  | some (command, rest) =>
    if command = "help" then throw (helpFault rest)
    let grammar : Grammar := ⟨optionsOf command, []⟩
    let (inner, _) ← Progress.start.read grammar false rest
    let later ← complete grammar environment inner
    let given ← complete rootGrammar environment progress
    pure ⟨laterValue? .config given later, some (actionOf command later)⟩

end Stencil.Command
