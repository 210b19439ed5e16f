import Stencil.Number.Literal
import Stencil.Yaml.Node

/-!
# Scalars as values

What a scalar stands for where a flag, a number or nothing is expected. Only plain scalars stand for
such values; a literal block does if it is tagged as one.
-/

namespace Stencil.Yaml

/-- The tag of nothing. -/
def nullTag : String := "tag:yaml.org,2002:null"

/-- The tag of flags. -/
def boolTag : String := "tag:yaml.org,2002:bool"

/-- The tag of integers. -/
def intTag : String := "tag:yaml.org,2002:int"

/-- The tag of floating-point numbers. -/
def floatTag : String := "tag:yaml.org,2002:float"

/-- The texts that stand for nothing. -/
def nullTexts : List String := ["null", "Null", "NULL", "~"]

/-- The flag that a text stands for. -/
def flag? (text : String) : Option Bool :=
  if ["true", "True", "TRUE"].contains text then some true
  else if ["false", "False", "FALSE"].contains text then some false
  else none

/-- The integer that a text stands for. -/
def integer? (text : String) : Option Int :=
  Number.integer? text.toList

/-- The words for infinity and for what is no number. -/
def specialFloats : List (String × Float) :=
  let infinity := 1.0 / 0.0
  [(".inf", infinity), (".Inf", infinity), (".INF", infinity), ("+.inf", infinity),
    ("+.Inf", infinity), ("+.INF", infinity), ("-.inf", -infinity), ("-.Inf", -infinity),
    ("-.INF", -infinity), (".nan", 0.0 / 0.0), (".NaN", 0.0 / 0.0), (".NAN", 0.0 / 0.0)]

/-- The floating-point number that a text stands for. -/
def float? (text : String) : Option Float :=
  (specialFloats.lookup text).or (Number.float? text.toList)

/-- The content of a scalar that may stand for a value with a tag. -/
def Node.valueText? (tag : String) : Node → Option String
  | .scalar _ .plain text => some text
  | .scalar label .literal text => if label.tag = some tag then some text else none
  | _ => none

/-- A plain scalar with nothing in it. -/
def Node.isBlank : Node → Bool
  | .scalar _ .plain text => text.isEmpty
  | _ => false

/-- The local tag of a node, without its mark unless that is all. -/
def Node.localTag? : Node → Option String
  | .scalar label _ _ | .sequence label _ | .mapping label _ =>
    label.tag.bind fun tag =>
      match tag.toList with
      | ['!'] => some tag
      | '!' :: name => some (.ofList name)
      | _ => none
  | _ => none

end Stencil.Yaml
