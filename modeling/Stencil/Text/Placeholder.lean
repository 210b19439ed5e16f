/-!
# Placeholders

Messages with places for arguments. A place is the two characters `\x7b\x7d`; places are found
from left to right without overlap, and the text of an argument is not searched again.
-/

namespace Stencil.Text

/-- A message with its places filled in order. Places without an argument stay as they are, and
arguments without a place are left out. -/
def fillPlaces : (message : List Char) → (arguments : List (List Char)) → List Char
  | '{' :: '}' :: rest, argument :: others => argument ++ fillPlaces rest others
  | '{' :: '}' :: rest, [] => '{' :: '}' :: fillPlaces rest []
  | letter :: rest, arguments => letter :: fillPlaces rest arguments
  | [], _ => []

end Stencil.Text
