import Stencil.Text.Piece

/-!
# Words of a command line

How the words after a command are read as options and their values. An option takes its value from
the same word or from the next one; a flag takes none. A value is only looked at when the next
option or the end is reached, so what is wrong with a later word may come first. What is not given
may come from a variable of the environment.
-/

namespace Stencil.Command

open Stencil.Text (cutAt)

/-- Why a command line is rejected. Requests for help and for the version count as well. -/
inductive UsageFault where
  | invalidSubcommand
  | unknownArgument
  | invalidValue
  | argumentConflict
  | tooManyValues
  | displayHelp
  | displayVersion
deriving DecidableEq, Repr

/-- The options of all commands. -/
inductive OptionKey where
  | config
  | output
  | dryRun
  | failOnError
  | errorsOnly
  | help
  | version
deriving DecidableEq, Repr

namespace OptionKey

/-- The long name of an option. -/
def long : OptionKey → String
  | .config => "config"
  | .output => "output"
  | .dryRun => "dry-run"
  | .failOnError => "fail-on-error"
  | .errorsOnly => "errors-only"
  | .help => "help"
  | .version => "version"

/-- The letter of an option. -/
def short? : OptionKey → Option Char
  | .config => some 'c'
  | .output => some 'o'
  | .help => some 'h'
  | .version => some 'V'
  | .dryRun | .failOnError | .errorsOnly => none

/-- The option takes a value. -/
def takesValue : OptionKey → Bool
  | .config | .output => true
  | _ => false

/-- The variable that an option is taken from where it is not given. -/
def environment? : OptionKey → Option String
  | .config => some "PROVIDER_GEN_CONFIG"
  | .output => some "PROVIDER_GEN_OUTPUT"
  | _ => none

/-- An option that ends the reading. -/
def request? : OptionKey → Option UsageFault
  | .help => some .displayHelp
  | .version => some .displayVersion
  | _ => none

end OptionKey

/-- The options and the commands that may occur. -/
structure Grammar where
  options : List OptionKey
  commands : List String

/-- What has been read: the options given, with a value for flags as well, and an option that is
still to be looked at, possibly without its value. -/
structure Progress where
  given : List (OptionKey × String)
  pending : Option (OptionKey × Option String)

namespace Progress

/-- Nothing has been read. -/
def start : Progress := ⟨[], none⟩

/-- The last option still lacks its value. -/
def awaits (progress : Progress) : Bool :=
  progress.pending.any (·.2.isNone)

/-- One option more. None may be given twice, or with an empty value. -/
def store (progress : Progress) (key : OptionKey) (value : String) : Except UsageFault Progress :=
  if (progress.given.lookup key).isSome then throw .argumentConflict
  else if value = "" then throw .invalidValue
  else pure { progress with given := progress.given ++ [(key, value)] }

/-- The pending option looked at. -/
def settle (progress : Progress) : Except UsageFault Progress :=
  match progress.pending with
  | none => pure progress
  | some (_, none) => throw .invalidValue
  | some (key, some value) => { progress with pending := none }.store key value

/-- A flag, or a request that ends the reading. -/
def raise (progress : Progress) (key : OptionKey) : Except UsageFault Progress := do
  let progress ← progress.settle
  match key.request? with
  | some fault => throw fault
  | none => progress.store key "true"

/-- An option with a value, which may be in the next word. -/
def take (progress : Progress) (key : OptionKey) (value : Option String) :
    Except UsageFault Progress := do
  let progress ← progress.settle
  match value with
  | some value => progress.store key value
  | none => pure { progress with pending := some (key, none) }

/-- A word that starts with two hyphens, without these. -/
def readLong (grammar : Grammar) (progress : Progress) (word : List Char) :
    Except UsageFault Progress :=
  let (name, value) :=
    match cutAt '=' word with
    | some (name, value) => (name, some (String.ofList value))
    | none => (word, none)
  match grammar.options.find? (·.long = .ofList name) with
  | none => throw .unknownArgument
  | some key =>
    if key.takesValue then progress.take key value
    else if value.isSome then throw .tooManyValues
    else progress.raise key

/-- The letters of a word that starts with one hyphen. The first option with a value takes the rest
of the word, and an equals sign before it does not count. -/
def readShort (grammar : Grammar) : Progress → List Char → Except UsageFault Progress
  | progress, [] => pure progress
  | progress, letter :: rest =>
    match grammar.options.find? (·.short? = some letter) with
    | none => throw .unknownArgument
    | some key =>
      if key.takesValue then
        match rest with
        | [] => progress.take key none
        | '=' :: value => progress.take key (some (.ofList value))
        | value => progress.take key (some (.ofList value))
      else do readShort grammar (← progress.raise key) rest

/-- The fault of a word that is neither a command nor an option. -/
def refusal (grammar : Grammar) (onlyWords : Bool) (word : String) : UsageFault :=
  if grammar.commands.isEmpty || onlyWords && grammar.commands.contains word then .unknownArgument
  else .invalidSubcommand

/-- The options up to a command or the end, and the command with the words after it. After a word
of two hyphens there are no options and no commands. -/
def read (grammar : Grammar) : (onlyWords : Bool) → Progress → List String →
    Except UsageFault (Progress × Option (String × List String))
  | _, progress, [] => pure (progress, none)
  | true, _, word :: _ => throw (refusal grammar true word)
  | false, progress, word :: rest =>
    if !progress.awaits && grammar.commands.contains word then pure (progress, some (word, rest))
    else
      match word.toList with
      | ['-', '-'] => read grammar true progress rest
      | '-' :: '-' :: option => do read grammar false (← progress.readLong grammar option) rest
      | '-' :: letter :: letters => do
        read grammar false (← progress.readShort grammar (letter :: letters)) rest
      | _ =>
        match progress.pending with
        | some (key, none) =>
          read grammar false { progress with pending := some (key, some word) } rest
        | _ => throw (refusal grammar false word)

end Progress

/-- Where the value of an option comes from. -/
inductive Origin where
  | environment
  | words
deriving DecidableEq, Repr

/-- The options of one command, each with the origin of its value. -/
abbrev Given := List (OptionKey × Origin × String)

/-- The options with those that come from the environment. -/
def complete (grammar : Grammar) (environment : List (String × String)) (progress : Progress) :
    Except UsageFault Given := do
  let progress ← progress.settle
  let missing := grammar.options.filter fun key => (progress.given.lookup key).isNone
  let found := missing.filterMap fun key =>
    (key.environment?.bind fun name => environment.lookup name).map fun value => (key, value)
  if found.any (·.2 = "") then throw .invalidValue
  else
    pure (progress.given.map (fun (key, value) => (key, .words, value)) ++
      found.map fun (key, value) => (key, .environment, value))

/-- The value of an option given both before and after a command. The later one wins, unless only
the earlier one is given in words. -/
def laterValue? (key : OptionKey) (earlier later : Given) : Option String :=
  match earlier.lookup key, later.lookup key with
  | some (.words, value), some (.environment, _) => some value
  | _, some (_, value) => some value
  | some (_, value), none => some value
  | none, none => none

end Stencil.Command
