import Stencil.Command.Perform
import Stencil.Log.Settings

/-!
# The program

The whole program as a function of its words, its environment and the files: what it prints, what it
logs, the notices that are no part of the log, its exit code, and the files afterwards.
-/

namespace Stencil.Command

/-- How the program ends. -/
structure Ending where
  code : Nat
  output : String
  /-- The events that the log shows. -/
  log : List Log.Event
  /-- Lines beside the log: warnings about the log itself, and the fault that ended the program. -/
  notices : List String

/-- The version of the program. -/
def versionLine : String := "provider-gen 0.1.0-alpha.1"

/-- How the program is used. -/
def usageLines : List String :=
  ["Generate provider sources from YAML schemas", "",
    "Usage: provider-gen [OPTIONS] [COMMAND]", "", "Commands:",
    "  generate  Render every template for every schema and merge the results into the output tree",
    "  validate  Load and validate every schema without rendering anything",
    "  lint      Lint every schema",
    "  help      Print this message or the help of the given subcommand(s)"]

/-- The words of the system for a refused operation. -/
def systemText : FileFault → String
  | .notFound => "No such file or directory (os error 2)"
  | .isADirectory => "Is a directory (os error 21)"
  | .notADirectory => "Not a directory (os error 20)"
  | .alreadyExists => "File exists (os error 17)"
  | .invalidFilename => "File name too long (os error 36)"
  | .invalidData => "stream did not contain valid UTF-8"

/-- The outermost message of a fault. -/
def Fault.headline : Fault → String
  | .refused message => message
  | .stopped (context :: _) _ => context
  | .stopped [] (.files action path fault) =>
    (Project.Fault.files action path fault).message ++ systemText fault
  | .stopped [] fault => fault.message

/-- The first line of a text. -/
def firstLine (text : String) : String :=
  .ofList (text.toList.takeWhile (· != '\n'))

/-- The end of a program whose words are not understood, or that only tells about itself. -/
def endingOfUsage : UsageFault → Ending
  | .displayHelp => ⟨0, unlines usageLines, [], []⟩
  | .displayVersion => ⟨0, unlines [versionLine], [], []⟩
  | _ => ⟨2, "", [], []⟩

/-- The program. -/
def runProgram (environment : List (String × String)) (words : List String) (files : FileSystem) :
    FileSystem × Ending :=
  match Line.read environment words with
  | .error fault => (files, endingOfUsage fault)
  | .ok line =>
    let settings := Log.Settings.ofVariables environment
    let filter := settings.filter environment
    let (files, performance) := line.perform files
    let log := performance.events.filter filter.shows
    match performance.result with
    | .ok () => (files, ⟨0, performance.output, log, settings.warnings⟩)
    | .error fault =>
      (files, ⟨1, performance.output, log,
        settings.warnings ++ [s!"Error: {firstLine fault.headline}"]⟩)

end Stencil.Command
