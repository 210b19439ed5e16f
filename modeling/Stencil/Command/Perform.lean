import Stencil.Command.Line
import Stencil.Project.Configuration
import Stencil.Project.Run

/-!
# Performing commands

What a command line does: what it prints, what it reports, how it ends, and what becomes of the
files.
-/

namespace Stencil.Command

open Project (Traced)

/-- Why a command fails. -/
inductive Fault where
  /-- A run was stopped, with what it was part of. -/
  | stopped (context : List String) (fault : Project.Fault)
  /-- Something else, in words. -/
  | refused (message : String)
deriving DecidableEq, Repr

/-- What a command did. -/
structure Performance where
  /-- What it printed. -/
  output : String
  events : List Log.Event
  result : Except Fault Unit

namespace Performance

/-- A command that was stopped. -/
def stop (context : List String) (events : List Log.Event) (fault : Project.Fault) :
    Performance :=
  ⟨"", events, .error (.stopped context fault)⟩

/-- A command with events before it. -/
def after (events : List Log.Event) (performance : Performance) : Performance :=
  { performance with events := events ++ performance.events }

end Performance

/-- Lines, each with its end. -/
def unlines (lines : List String) : String :=
  String.join (lines.map (· ++ "\n"))

/-- What is printed after a run. -/
def reportLines (dryRun : Bool) (report : Project.Report) : List String :=
  let verb := if dryRun then "would write" else "wrote"
  let summary := s!"✅ {report.schemas} schema(s): {verb} {report.written.length} file(s), "
  (summary ++ s!"{report.unchanged.length} unchanged") ::
    if dryRun then report.written.map fun path => s!"   {path}" else []

/-- The outputs generated. -/
def generate (config : Config) (output : Option String) (dryRun : Bool) (files : FileSystem) :
    FileSystem × Performance :=
  let config := { config with outputDir := output.getD config.outputDir }
  let (files, outcome) := Project.run config dryRun files
  match outcome.result with
  | .error fault =>
    (files, .stop [s!"generation into {config.outputDir} failed"] outcome.events fault)
  | .ok report =>
    let complete := .complete report.schemas report.written.length report.unchanged.length
    (files, ⟨unlines (reportLines dryRun report), outcome.events ++ [complete], .ok ()⟩)

/-- The schemas listed, if all can be loaded. -/
def validate (config : Config) (files : FileSystem) : Performance :=
  let loaded := Project.loadSchemas files config.definitionsDir
  match loaded.result with
  | .error fault => .stop [] loaded.events fault
  | .ok schemas =>
    let lines := schemas.map fun (path, schema) => s!"   {schema.header.name} ({path})"
    ⟨unlines (lines ++ [s!"✅ {schemas.length} schema(s) valid"]), loaded.events, .ok ()⟩

/-- The heading over the issues of a severity. -/
def headingOf : Schema.Severity → String
  | .error => "❌ Errors (must fix):"
  | .warning => "⚠️  Warnings (should fix):"
  | .info => "ℹ️  Info:"

/-- An issue as it is printed. -/
def issueLines (issue : Schema.Issue) : List String :=
  [s!"   [{issue.finding.kind}] {issue.location}", s!"      {issue.finding.message}"] ++
    (issue.finding.suggestion.map fun suggestion =>
      s!"      💡 Suggestion: {suggestion}").toList

/-- The issues of a severity as they are printed. -/
def sectionLines (issues : List Schema.Issue) (severity : Schema.Severity) : List String :=
  match issues.filter (·.finding.severity == severity) with
  | [] => []
  | found => headingOf severity :: found.flatMap issueLines ++ [""]

/-- Issues as they are printed. -/
def lintLines (issues : List Schema.Issue) : List String :=
  let count (severity : Schema.Severity) : Nat := issues.countP (·.finding.severity == severity)
  if issues.isEmpty then ["✅ No lint issues found!"]
  else
    ["", "📋 Lint Results:",
      s!"   {count .error} error(s), {count .warning} warning(s), {count .info} info(s)", ""] ++
      [Schema.Severity.error, .warning, .info].flatMap (sectionLines issues)

/-- The issues of all schemas printed. -/
def lint (config : Config) (failOnError errorsOnly : Bool) (files : FileSystem) : Performance :=
  match Project.lint files config.definitionsDir with
  | .error fault => .stop [] [] fault
  | .ok issues =>
    let shown :=
      if errorsOnly then issues.filter (·.finding.severity == .error) else issues
    let output := unlines (lintLines shown)
    if !Schema.hasErrors issues then ⟨output, [], .ok ()⟩
    else if failOnError then ⟨output, [], .error (.refused "lint found error-level issues")⟩
    else ⟨output, [.lintErrors], .ok ()⟩

/-- What is asked for, done. -/
def performAction (config : Config) (action : Action) (files : FileSystem) :
    FileSystem × Performance :=
  match action with
  | .generate output dryRun => generate config output dryRun files
  | .validate => (files, validate config files)
  | .lint failOnError errorsOnly => (files, lint config failOnError errorsOnly files)

/-- The fault of a named configuration file that does not exist. -/
def missingConfig? (files : FileSystem) (named : Option String) : Option Fault :=
  match named with
  | some path =>
    if files.exists? path then none
    else some (.refused s!"config file {path} does not exist")
  | none => none

/-- The configuration that a command line asks for, with the events on the way to it. -/
structure Configured where
  events : List Log.Event
  result : Except Fault Config

/-- The configuration in a named file, which must exist, or the one that holds without a name. -/
def loadConfig (files : FileSystem) (named : Option String) : Configured :=
  match missingConfig? files named with
  | some fault => ⟨[], .error fault⟩
  | none =>
    let configured := Project.configuration files named
    ⟨configured.events, configured.result.mapError (.stopped [])⟩

/-- A command line performed. -/
def Line.perform (line : Line) (files : FileSystem) : FileSystem × Performance :=
  let configured := loadConfig files line.config
  match configured.result with
  | .error fault => (files, ⟨"", configured.events, .error fault⟩)
  | .ok config =>
    let (files, performance) := performAction config (line.action.getD .default) files
    (files, performance.after configured.events)

end Stencil.Command
