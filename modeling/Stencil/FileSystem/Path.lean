import Stencil.Text.Piece

/-!
# Paths

Paths as texts. Empty parts and parts that name the directory they are in do not count, but are kept
as they are written; a leading one of the second kind counts. Parts that lead upwards are not
resolved here.
-/

namespace Stencil.Path

open Stencil.Text

/-- The path starts at the root. -/
def isAbsolute (path : String) : Bool :=
  path.toList.head? == some '/'

/-- A path followed by another. An absolute path stands for itself. -/
def join (base path : String) : String :=
  if isAbsolute path then path
  else
    match base.toList.getLast? with
    | none => path
    | some '/' => base ++ path
    | some _ => base ++ "/" ++ path

/-- What a path says after the mark of the root. -/
def body (path : String) : List Char :=
  if isAbsolute path then path.toList.drop 1 else path.toList

/-- The texts between the separators of a path, after the mark of the root. -/
def segments (path : String) : List (List Char) :=
  pieces (· == '/') (body path)

/-- A part that names no step. -/
def isIdle (segment : List Char) : Bool :=
  segment == [] || segment == ['.']

/-- The steps that segments name. The first one counts unless it is empty. -/
def steps (absolute : Bool) : List (List Char) → List (List Char)
  | [] => []
  | first :: rest =>
    let others := rest.filter (!isIdle ·)
    if first == [] || absolute && isIdle first then others else first :: others

/-- What identifies a path: whether it starts at the root, and its steps. -/
def identity (path : String) : Bool × List (List Char) :=
  (isAbsolute path, steps (isAbsolute path) (segments path))

/-- Segments, in reverse, from the last that names a step. -/
def fromLastStep (absolute : Bool) : List (List Char) → List (List Char)
  | [] => []
  | [first] => if first == [] || absolute && isIdle first then [] else [first]
  | last :: rest => if isIdle last then fromLastStep absolute rest else last :: rest

/-- The directory that a path lies in, if it has a step. -/
def parent? (path : String) : Option String :=
  let absolute := isAbsolute path
  match fromLastStep absolute (segments path).reverse with
  | [] => none
  | _ :: rest =>
    let kept := joined (fromLastStep absolute rest).reverse
    some (.ofList (if absolute then '/' :: kept else kept))
where
  /-- Segments joined again. -/
  joined (segments : List (List Char)) : List Char := Text.join ['/'] segments

/-- What follows the last dot of a name. A dot at its start does not count. -/
def extension? (name : List Char) : Option (List Char) :=
  match Text.cutAt '.' name.reverse with
  | some (after, _ :: _) => some after.reverse
  | _ => none

end Stencil.Path
