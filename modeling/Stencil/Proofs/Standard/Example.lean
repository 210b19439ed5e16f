import Stencil.Proofs.Standard.Source
import Stencil.Proofs.Template.Nesting

/-!
# The example of a resource

What the standard template of a resource's example writes for a schema: a line for every attribute
that is shown, two blanks further in at every level (`render_source`).
-/

namespace Stencil.Standard.Example

open Schema (Attribute Everywhere Field Levels)
open Template

/-- The attribute is shown in examples. -/
def isVisible : Expr :=
  .both (.both (.unary .not (its "a" .excludeExample)) (isMissing (its "a" .value)))
    (.either (asks .isNested) (isGiven (its "a" .exampleValue)))

/-- The field is shown in examples. -/
def visible (field : Field) : Bool :=
  (!field.excludeExample && field.value.isNone) && (field.isNested || field.exampleValue.isSome)

/-- Two blanks for every level. -/
def padding (depth : Nat) : String := String.join (List.replicate depth "  ")

/-- The statement that writes two blanks for every level. -/
def pad : Stmt := .print (.call "pad" [.member (.var "loop") "depth"] [])

/-- What the template writes for an attribute. -/
def loop : NestedLoop where
  visible := "shown"
  opening := [pad, .print (its "a" .tfName), .text " = [\x7b\n"]
  line := [pad, .print (its "a" .tfName), .text " = ", .print (.call "hcl" [.var "a"] []),
    .text "\n"]
  closing := [pad, .text "\x7d]\n"]

/-- What stands in an example for an attribute. -/
def block : NestedText where
  visible := visible
  opening depth field := padding depth ++ field.tfName ++ " = [\x7b\n"
  line depth field := padding depth ++ field.tfName ++ " = " ++
    literalText field (field.exampleValue.getD "none") ++ "\n"
  closing depth _ := padding depth ++ "\x7d]\n"

/-- The body of the macro for literals. -/
def hclBody : List Stmt := [literal (its "a" .exampleValue)]

/-- The body of the macro that says whether an attribute is shown. -/
def shownBody : List Stmt := saysYes isVisible

/-- The body of the macro for blanks. -/
def padBody : List Stmt :=
  [.loop (.name "_") (.call Builtin.range.name [.var "n"] []) false
    [.print (.literal (.text "  "))] []]

/-- The template. -/
def tree : List Stmt :=
  [.define "hcl" ["a"] [] hclBody, .define "shown" ["a"] [] shownBody,
    .define "pad" ["n"] [] padBody, .text "resource \"", .print (.var "provider"), .text "_",
    .print (.var "tf_name"), .text "\" \"example\" \x7b\n",
    .loop (.name "a") (.var "attributes") true loop.body [], .text "\x7d\n"]

/-- The source of the template. -/
def source : Source := ⟨"resource.tf", .document, text resourceExample⟩

set_option maxRecDepth 100000 in
/-- The template is written down as the source says. -/
theorem parse_source : parse? source.letters = some tree := by
  unfold source resourceExample
  rw [letters_document]
  repeat rw [text_cons]
  rw [text_nil]
  rfl

/-- The macros of the template. -/
def macros : List (String × Value) :=
  [("pad", .macroIn 1 ⟨["n"], [], padBody⟩), ("shown", .macroIn 1 ⟨["a"], [], shownBody⟩),
    ("hcl", .macroIn 1 ⟨["a"], [], hclBody⟩)]

variable {library : Library} {config : Config} {schema : Schema} {scope : Scope} {attr : Attribute}
  {fuel depth : Nat}

/-- No macro hides anything. -/
theorem macros_distinct : Distinct macros := by decide

/-- An attribute is shown if its field is. -/
theorem decides_isVisible {invoke : Invoke}
    (h : About library (ofSchema macros config schema) "a" attr scope) :
    Decides library invoke scope isVisible (visible attr.field) :=
  .both ((h.flag rfl).not.both fun _ => h.isMissing rfl)
    fun _ => (h.asks (by simp [fieldQuestions])).either fun _ => h.isGiven rfl

/-- The numbers below a depth. -/
theorem call_range (hdepth : depth ≤ 64) : library.call .range [.int depth] =
    .ok (.list ((List.range depth).map fun index => .int (Int.ofNat (0 + index * 1)))) := by
  have hfits : Number.fitsUnsigned 32 depth = true := by
    have hcount : (Number.wordCount 32 : Int) = 2 ^ 32 := rfl
    rw [Number.fitsUnsigned, Int.ofNat_eq_natCast, hcount]
    simp only [Bool.and_eq_true, decide_eq_true_eq]
    omega
  have hwhole : Library.nat32Argument (.int depth) = .ok depth := by
    simp [Library.nat32Argument, Library.wholeArgument, Value.asWhole?, hfits, pure, Except.pure]
  have hnumbers : Library.rangeFrom 0 depth 1 =
      .ok (.list ((List.range depth).map fun index => .int (Int.ofNat (0 + index * 1)))) := by
    have hcount : ¬ Library.maxRange < depth := by
      rw [Library.maxRange]
      omega
    rw [Library.rangeFrom]
    simp only [Nat.sub_zero, Nat.add_sub_cancel, Nat.div_one, if_neg hcount]
    rfl
  -- The bound, no other end, no step, and nothing more.
  exact bind_ok_iff.2 ⟨(.int depth, []), rfl, bind_ok_iff.2 ⟨depth, hwhole,
    bind_ok_iff.2 ⟨(none, []), rfl, bind_ok_iff.2 ⟨(none, []), rfl,
      bind_ok_iff.2 ⟨(), rfl, hnumbers⟩⟩⟩⟩⟩

/-- The macro for blanks writes two for every level. -/
theorem eval_pad (h : AtDepth library (ofSchema macros config schema) loop.body depth attr scope) :
    (Expr.call "pad" [.member (.var "loop") "depth"] []).eval library (invoke library (fuel + 1))
      scope = .ok (.text (padding depth)) := by
  have hwithin : Within library (ofSchema macros config schema)
      (scope.inMacro [("n", .int depth)]) := h.about.within.inMacro (by simp [localNames])
  have hfind : scope.find? library "pad" = some (.macroIn 1 ⟨["n"], [], padBody⟩) := by
    rw [h.about.within.find_eq "pad" (by decide), find_declared rfl]
  have hposition : Expr.evalAll library (invoke library (fuel + 1)) scope
      [.member (.var "loop") "depth"] = .ok [.int depth] := evalAll_cons h.eval_position rfl
  have hnumber : Expr.evalAll library (invoke library fuel) (scope.inMacro [("n", .int depth)])
      [.var "n"] = .ok [.int depth] :=
    evalAll_cons (eval_var (find_inMacro scope [("n", .int depth)] "n")) rfl
  have hrange := (eval_builtin (hwithin.find_builtin h.about.knows .range) hnumber).trans
    (call_range h.bound)
  have hblanks : textsOf (fun _ => .ok "  ") (List.range depth).zipIdx = .ok (padding depth) := by
    rw [textsOf_zipIdx (fun _ => .ok "  "), textsOf_ok, List.map_const', List.length_range, padding]
  have hbody : Leaves library (invoke library fuel) (scope.inMacro [("n", .int depth)]) padBody
      (.ok (padding depth)) := by
    rw [← hblanks, ← andThen_empty (textsOf _ _)]
    refine (Writes.loop ⟨_, hrange, rfl⟩ ?_ (fun _ _ inner _ => ?_) .nil).leaves
    · exact h.canCall
    · have hblank : (Expr.literal (.text "  ")).eval library (invoke library fuel) inner =
          .ok (.text "  ") := rfl
      exact .print (.ofText hblank) .nil
  exact eval_macroIn (by decide) hfind hposition rfl h.canCall hbody

/-- The macro for literals writes the example of an attribute. -/
theorem eval_hcl (h : AtDepth library (ofSchema macros config schema) loop.body depth attr scope) :
    (Expr.call "hcl" [.var "a"] []).eval library (invoke library (fuel + 1)) scope =
      .ok (.text (literalText attr.field (attr.field.exampleValue.getD "none"))) := by
  have hinner : About library (ofSchema macros config schema) "a" attr
      (scope.inMacro [("a", attr.toValue)]) := h.about.inMacro (by simp [localNames]) rfl
  have hshown : Prints library (invoke library fuel) (scope.inMacro [("a", attr.toValue)])
      (its "a" .exampleValue) (.ok (attr.field.exampleValue.getD "none")) :=
    hinner.prints_option rfl
  have hliteral := writes_literal hinner hshown
  exact eval_aMacro h.about (by decide) (find_declared rfl) h.canCall hliteral.leaves

/-- The parts of the loop write what stands in an example. -/
theorem means : loop.Means library (ofSchema macros config schema) block where
  visible hat := decides_aMacro hat.about (by decide) (find_declared rfl) hat.canCall
    decides_isVisible
  opening hat := by
    simpa [loop, pad, block, String.append_assoc] using
      Writes.print (.ofText (eval_pad hat)) (.print (hat.about.prints rfl) (.text .nil))
  line hat := by
    simpa [loop, pad, block, String.append_assoc] using
      Writes.print (.ofText (eval_pad hat)) (.print (hat.about.prints rfl)
        (.text (.print (.ofText (eval_hcl hat)) (.text .nil))))
  closing hat := by
    simpa [loop, pad, block, String.append_assoc] using
      Writes.print (.ofText (eval_pad hat)) (.text .nil)

/-- What the template writes: the head, the attributes, and the end. -/
def written (limit : Nat) (config : Config) (schema : Schema) : Outcome String :=
  andThen (.ok ("resource \"" ++ config.provider ++ "_" ++ schema.header.tfName ++
    "\" \"example\" \x7b\n")) (andThen (block.writeAll limit 1 schema.attributes) (.ok "\x7d\n"))

/-- The template renders as the example of the schema, or fails as its attributes do. -/
theorem render_source (hrange : Everywhere (·.field.InRange) schema.attributes)
    (hlevels : Levels 64 schema.attributes) :
    source.render library (Project.schemaContext config schema) =
      (written library.maxDepth config schema).mapError .failed := by
  refine render_of_parse parse_source (.define (.define (.define (Writes.leaves ?_))))
  change Writes library _ (ofSchema macros config schema) _ _
  refine .as (.text (.print (prints_property "provider" macros_distinct ofSchema_within rfl)
    (.text (.print (prints_property "tf_name" macros_distinct ofSchema_within rfl)
      (.text (.append (writes_attributes macros_distinct means hrange hlevels) (.text .nil))))))) ?_
  simp [written, String.append_assoc]

end Stencil.Standard.Example
