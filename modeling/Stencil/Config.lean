import Stencil.FileSystem.Path
import Stencil.Number.Width
import Stencil.Schema.Reading
import Stencil.Template.Library
import Stencil.Toml.Document

/-!
# Configuration

Where the inputs of a generation lie and where its output goes. A configuration file may set any of
the settings and nothing else; the others keep their defaults. Settings are read in the order of
their names, and the first problem wins.
-/

namespace Stencil

/-- The settings of a generation. -/
structure Config where
  /-- The name of the provider in generated code. -/
  provider : String
  /-- The directory of the schemas. -/
  definitionsDir : String
  /-- The directory of the templates. -/
  templatesDir : String
  /-- The directory that all outputs lie in. -/
  outputDir : String
  /-- The document that the changelog guide shows. -/
  changelog : String
  /-- How deep composite attributes may be nested. -/
  maxNestingDepth : Nat
deriving DecidableEq, Repr

namespace Config

open Schema (DecodeFault Decoded)

/-- The settings that hold where nothing is set. -/
def default : Config :=
  { provider := "provider", definitionsDir := "gen/definitions", templatesDir := "gen/templates",
    outputDir := ".", changelog := "CHANGELOG.md",
    maxNestingDepth := Template.Library.defaultMaxDepth }

/-- The file that is looked for where none is named. -/
def fileName : String := "provider-gen.toml"

/-- The settings with all relative paths taken from a directory. -/
def rootedAt (config : Config) (root : String) : Config :=
  { config with
    definitionsDir := Path.join root config.definitionsDir
    templatesDir := Path.join root config.templatesDir
    outputDir := Path.join root config.outputDir
    changelog := Path.join root config.changelog }

/-- The fault of a value that a setting does not take. -/
def refusal : Toml.Item → DecodeFault
  | .value .unrepresentable => .malformed
  | _ => .invalidValue

/-- A text. -/
def textOfItem : Toml.Item → Decoded String
  | .value (.text text) => pure text
  | item => throw (refusal item)

/-- A count, of at most 64 bits. -/
def countOfItem : Toml.Item → Decoded Nat
  | .value (.integer value) =>
    if Number.fitsUnsigned 64 value then pure value.toNat else throw .invalidValue
  | item => throw (refusal item)

/-- The settings with one more that has been read. -/
def readSetting (config : Config) (name : String) (item : Toml.Item) : Decoded Config :=
  match name with
  | "provider" => return { config with provider := ← textOfItem item }
  | "definitions_dir" => return { config with definitionsDir := ← textOfItem item }
  | "templates_dir" => return { config with templatesDir := ← textOfItem item }
  | "output_dir" => return { config with outputDir := ← textOfItem item }
  | "changelog" => return { config with changelog := ← textOfItem item }
  | "max_nesting_depth" => return { config with maxNestingDepth := ← countOfItem item }
  | name => throw (.unknownField name)

/-- The settings in a configuration file. -/
def ofText (text : String) : Decoded Config :=
  match Toml.ofText? text with
  | none => throw .malformed
  | some entries =>
    (entries.mergeSort fun left right => decide (left.1 ≤ right.1)).foldlM
      (fun config (name, item) => config.readSetting name item) default

end Config

end Stencil
