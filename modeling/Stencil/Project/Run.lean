import Stencil.Project.Plan
import Stencil.Schema.Lint

/-!
# Runs

A run plans all outputs and then writes those that have changed, in order. A dry run only tells what
it would write. A refused write ends the run; what was written before stays.
-/

namespace Stencil.Project

/-- What a run has done. -/
structure Report where
  /-- How many schemas there are. -/
  schemas : Nat
  /-- The files that were written, or that a dry run would write. -/
  written : List String
  /-- The files that held their content already. -/
  unchanged : List String
deriving DecidableEq, Repr

/-- The directory of a file made, and the file written. -/
def writeFile (files : FileSystem) (path content : String) : FileSystem × Except Fault Unit :=
  match Path.parent? path with
  | none => write files
  | some parent =>
    match files.makeDirectories parent with
    | (made, .ok ()) => write made
    | (made, .error fault) => (made, throw (.files .create parent fault))
where
  /-- The file written in its directory. -/
  write (files : FileSystem) : FileSystem × Except Fault Unit :=
    match files.write path (.text content) with
    | .ok written => (written, pure ())
    | .error fault => (files, throw (.files .write path fault))

/-- Planned files written one after the other, unless they hold their content already. -/
def writeAll (dryRun : Bool) : List PlannedFile → FileSystem → Report → FileSystem × Traced Report
  | [], files, report => (files, pure report)
  | file :: rest, files, report =>
    if !file.changed then
      let report := { report with unchanged := report.unchanged ++ [file.path] }
      let (files, outcome) := writeAll dryRun rest files report
      (files, do Traced.report (.upToDate file.path); outcome)
    else
      let listed := { report with written := report.written ++ [file.path] }
      if dryRun then
        let (files, outcome) := writeAll dryRun rest files listed
        (files, do Traced.report (.wouldWrite file.path); outcome)
      else
        match writeFile files file.path file.content with
        | (files, .error fault) => (files, Traced.of (throw fault))
        | (files, .ok ()) =>
          let (files, outcome) := writeAll dryRun rest files listed
          (files, do Traced.report (.wrote file.path); outcome)

/-- The outputs planned and those that have changed written. -/
def run (config : Config) (dryRun : Bool) (files : FileSystem) : FileSystem × Traced Report :=
  let planned := plan config files
  match planned.result with
  | .error fault => (files, ⟨planned.events, .error fault⟩)
  | .ok found =>
    let (files, outcome) := writeAll dryRun found.files files ⟨found.schemas, [], []⟩
    (files, ⟨planned.events ++ outcome.events, outcome.result⟩)

/-- The issues of all schemas of a directory. The first schema that cannot be loaded ends it. -/
def lint (files : FileSystem) (directory : String) : Except Fault (List Schema.Issue) := do
  let paths ← listDefinitions files directory
  let schemas ← paths.mapM (loadSchema files)
  pure (schemas.flatMap Schema.lint)

end Stencil.Project
