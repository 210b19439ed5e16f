import Stencil.Section.Block

/-!
# Reconciliation

A fresh text is merged into what an output file already holds. Lines outside sections belong to
whoever edits the file and are copied as they are; each section that closes is replaced by the
fresh block of its name, or removed if there is none; a section that never closes is kept as it is.
Sections that only the fresh text has are not added.
-/

namespace Stencil.Section

/-- What takes the place of a closed section whose last line was `last`. A fresh block at the end
of its text may lack a terminator and takes that of `last`. -/
def replacement (fresh name : List Char) (last : Text.Line) : List Char :=
  match blockText? name fresh with
  | none => []
  | some block =>
    if block.getLast? == some '\n' then block else block ++ (Text.cutTerminator last).2

/-- A section that has been opened and not yet closed, with the lines it had so far. -/
structure Held where
  name : List Char
  lines : List Text.Line

/-- Merges lines in order. Outside a section `held` is `none`. -/
def mergeLines (fresh : List Char) : (held : Option Held) → List Text.Line → List Char
  | none, [] => []
  | some held, [] => held.lines.flatten
  | none, line :: rest =>
    match Marker.ofLine? line with
    | some (.opening name) => mergeLines fresh (some ⟨name, [line]⟩) rest
    | _ => line ++ mergeLines fresh none rest
  | some held, line :: rest =>
    if closes held.name line then
      replacement fresh held.name line ++ mergeLines fresh none rest
    else mergeLines fresh (some ⟨held.name, held.lines ++ [line]⟩) rest

/-- Merges a fresh text into the text of a file. A file without text is taken over by the fresh
text. -/
def merge (existing fresh : List Char) : List Char :=
  if existing.isEmpty then fresh else mergeLines fresh none (Text.lines existing)

/-- The new text of a file that may exist already. -/
def reconcile (existing : Option String) (fresh : String) : String :=
  match existing with
  | none => fresh
  | some text => .ofList (merge text.toList fresh.toList)

end Stencil.Section
