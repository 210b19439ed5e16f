import Stencil.Log.Filter

/-!
# Log settings

What the environment says about the log: the least level, the form of its lines, further directives,
and whether the place of an event in the code is shown.
-/

namespace Stencil.Log

/-- The form of log lines. -/
inductive Format where
  | pretty
  | json
deriving DecidableEq, Repr

/-- The settings of a log. -/
structure Settings where
  /-- The name of the least level. -/
  levelName : String
  format : Format
  /-- Further directives, with commas between them. -/
  targetFilter : Option String
  includeLocation : Bool
deriving DecidableEq, Repr

namespace Settings

/-- The form with that name in any case. All other names stand for lines to read. -/
def formatOf (name : String) : Format :=
  if Text.lower name.toList = "json".toList then .json else .pretty

/-- A flag. -/
def flag? (text : String) : Option Bool :=
  match text with
  | "true" => some true
  | "false" => some false
  | _ => none

/-- The settings in variables of the environment. -/
def ofVariables (environment : List (String × String)) : Settings :=
  { levelName := (environment.lookup "PROVIDER_GEN_LOG_LEVEL").getD "info"
    format := ((environment.lookup "PROVIDER_GEN_LOG_FORMAT").map formatOf).getD .pretty
    targetFilter := (environment.lookup "PROVIDER_GEN_LOG_TARGET_FILTER").filter
      fun text => !(Text.trim text.toList).isEmpty
    includeLocation :=
      ((environment.lookup "PROVIDER_GEN_LOG_INCLUDE_LOCATION").bind flag?).getD false }

/-- The least level. A name that no level has stands for the level of plain information. -/
def level (settings : Settings) : Level :=
  match String.ofList (Text.lower settings.levelName.toList) with
  | "trace" => .trace
  | "debug" => .debug
  | "warn" => .warn
  | "error" => .error
  | _ => .info

/-- The further directives, without blanks around them and without empty ones. -/
def directives (settings : Settings) : List (List Char) :=
  match settings.targetFilter with
  | some text =>
    ((Text.pieces (· == ',') text.toList).map Text.trim).filter (!·.isEmpty)
  | none => []

/-- The filter of a log. Directives in the variable `RUST_LOG` replace the least level if all of
them are well formed. -/
def filter (settings : Settings) (environment : List (String × String)) : Filter :=
  let base :=
    ((environment.lookup "RUST_LOG").bind Filter.read?).getD
      [⟨none, [], some settings.level, false⟩]
  (settings.directives.filterMap Directive.read?).reverse ++ base

/-- What is said about further directives that are not well formed. -/
def warnings (settings : Settings) : List String :=
  (settings.directives.filter (Directive.read? · |>.isNone)).map fun directive =>
    s!"Warning: Invalid log filter directive: {String.ofList directive}"

end Settings

end Stencil.Log
