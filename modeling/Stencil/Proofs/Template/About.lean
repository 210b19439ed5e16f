import Stencil.Proofs.Template.Question

/-!
# Templates about attributes

The shipped templates call an attribute `a` and ask for its properties. A scope is within a template
if all names but the local ones mean what they do in the template (`Within`), which holds in all of
its loops and macros. There an expression about the attribute has the value of the attribute's own
property (`About.eval_its`), and a question the attribute's own answer (`About.asks`).
-/

namespace Stencil.Template

open Schema (Attribute AttributeKey AttributeType Everywhere Field optionalValue)

/-- The names that the loops and macros of the shipped templates bind. -/
def localNames : List String := ["a", "t", "_", "n", "v", "owner", "attrs", "loop"]

/-- All names but the local ones mean what they do in the template, which is at the bottom. -/
structure Within (library : Library) (template scope : Scope) : Prop where
  frames_ne : scope.frames ≠ []
  template_eq : scope.template = template.template
  find_eq : ∀ name ∉ localNames, scope.find? library name = template.findTop? library name

/-- The built-in functions are known in a template by their names. -/
def Knows (library : Library) (template : Scope) : Prop :=
  ∀ builtin : Builtin, template.findTop? library builtin.name = some (.function builtin)

/-- A property of the attribute in a variable. -/
def its (name : String) (key : AttributeKey) : Expr := .member (.var name) key.name

/-- A question about the attribute `a`. -/
def asks (builtin : Builtin) : Expr := .call builtin.name [.var "a"] []

/-- The expression has no value. -/
def isMissing (expr : Expr) : Expr := .test "none" expr []

/-- The expression has a value. -/
def isGiven (expr : Expr) : Expr := .unary .not (isMissing expr)

/-- The type of the attribute `a`. -/
def itsType : Expr := .item (.var "a") (.literal (.text AttributeKey.type.name))

/-- The name of a type. -/
def typeNamed (type : AttributeType) : Expr := .literal (.text type.tag)

/-- The expression is the name of a type. -/
def isTyped (expr : Expr) (type : AttributeType) : Expr := .binary .equal expr (typeNamed type)

/-- The expression is the name of one of several types. -/
def isOneOf (expr : Expr) (types : List AttributeType) : Expr :=
  .binary .contains expr (.list (types.map typeNamed))

variable {library : Library} {invoke : Invoke} {template outer scope : Scope} {attr : Attribute}

/-- A text that there may be is missing if there is none. -/
theorem Decides.missing {expr : Expr} {option : Option String}
    (h : expr.eval library invoke scope = .ok (optionalValue .text option)) :
    Decides library invoke scope (isMissing expr) option.isNone := by
  have hdecides := Decides.isNone h
  cases option <;> exact hdecides

/-- A text that there may be is given if there is one. -/
theorem Decides.given {expr : Expr} {option : Option String}
    (h : expr.eval library invoke scope = .ok (optionalValue .text option)) :
    Decides library invoke scope (isGiven expr) option.isSome := by
  have hdecides := (Decides.missing h).not
  cases option <;> exact hdecides

/-- A text that there may be prints as itself, and nothing as its name. -/
theorem Prints.option {expr : Expr} {option : Option String}
    (h : expr.eval library invoke scope = .ok (optionalValue .text option)) :
    Prints library invoke scope expr (.ok (option.getD "none")) := by
  cases option with
  | none => exact .ofValue h rfl
  | some text => exact .ofText h

/-- Types are told apart by their names. -/
theorem equals_tag (first second : AttributeType) :
    (Value.text first.tag).equals (.text second.tag) = (first == second) := by
  cases first <;> cases second <;> decide

/-- The name of a type is that of a certain type. -/
theorem Decides.typed {expr : Expr} {type : AttributeType}
    (h : expr.eval library invoke scope = .ok (.text type.tag)) (other : AttributeType) :
    Decides library invoke scope (isTyped expr other) (type == other) := by
  refine .ofBool ?_
  rw [← equals_tag]
  exact eval_binary .equal h rfl

/-- The name of a type, if there is one, is that of a certain type. -/
theorem Decides.typed_option {expr : Expr} {type : Option AttributeType}
    (h : expr.eval library invoke scope = .ok (optionalValue (.text ·.tag) type))
    (other : AttributeType) :
    Decides library invoke scope (isTyped expr other) (type == some other) := by
  cases type with
  | some type => exact .typed h other
  | none =>
      have hname : (typeNamed other).eval library invoke scope = .ok (.text other.tag) := rfl
      exact .ofBool (eval_binary .equal h hname)

/-- The name of a type is one of several. -/
theorem Decides.oneOf {expr : Expr} {type : AttributeType}
    (h : expr.eval library invoke scope = .ok (.text type.tag)) (types : List AttributeType) :
    Decides library invoke scope (isOneOf expr types) (types.any (· == type)) := by
  have hnames : Expr.evalAll library invoke scope (types.map typeNamed) =
      .ok (types.map (Value.text ·.tag)) := by
    induction types with
    | nil => rfl
    | cons first rest ih => exact evalAll_cons rfl ih
  refine .ofBool ((eval_binary .contains h (eval_list hnames)).trans ?_)
  simp [pure, Except.pure, Value.applyBinary, Value.contains, List.any_map, Function.comp_def,
    equals_tag, Functor.map, Except.map]

namespace Within

/-- The scope of a template is within it. -/
theorem start {frame : Frame} (hhome : frame.home = none) {depth : Nat} :
    Within library ⟨[frame], depth⟩ ⟨[frame], depth⟩ := by
  refine ⟨by simp, rfl, fun name _ => ?_⟩
  rw [find_cons, hhome, Scope.findTop?, Scope.template]
  simp [Scope.findBelow?]

/-- A loop over a local name stays within the template. -/
theorem atItem (h : Within library template outer) {name : String} {running : RunningLoop}
    {item : Value} (hat : AtItem outer name running item scope) (hname : name ∈ localNames) :
    Within library template scope := by
  obtain ⟨earlier, -, hframes⟩ := hat.frames
  refine ⟨by simp [hframes], (hat.template_eq h.frames_ne).trans h.template_eq,
    fun other hother => ?_⟩
  have hne : other ≠ name := fun heq => hother (heq ▸ hname)
  have hloop : other ≠ "loop" := fun heq => hother (heq ▸ by decide)
  rw [hat.find_other hne hloop, h.find_eq other hother]

/-- A macro with local names as parameters stays within the template. -/
theorem inMacro (h : Within library template outer) {bound : List (String × Value)}
    (hbound : ∀ binding ∈ bound, binding.1 ∈ localNames) :
    Within library template (outer.inMacro bound) := by
  obtain ⟨top, rest, htop⟩ := List.exists_cons_of_ne_nil h.frames_ne
  have htemplate : (outer.inMacro bound).template = outer.template := by
    simp [Scope.template, Scope.inMacro, htop]
  refine ⟨by simp [Scope.inMacro], htemplate.trans h.template_eq, fun name hname => ?_⟩
  have hlookup : bound.lookup name = none :=
    List.lookup_eq_none_iff.2 fun binding hbinding => by
      simpa using fun heq : name = binding.1 => hname (heq ▸ hbound binding hbinding)
  rw [find_inMacro, hlookup, Option.none_or, Scope.findTop?, h.template_eq, Scope.findTop?]

/-- A built-in function is known within the template. -/
theorem find_builtin (h : Within library template scope) (hknows : Knows library template)
    (builtin : Builtin) : scope.find? library builtin.name = some (.function builtin) := by
  rw [h.find_eq _ (by cases builtin <;> decide), hknows builtin]

end Within

/-- The scope is within the template, and a variable holds an attribute that is read back from its
value. -/
structure About (library : Library) (template : Scope) (name : String) (attr : Attribute)
    (scope : Scope) : Prop where
  within : Within library template scope
  knows : Knows library template
  item : scope.find? library name = some attr.toValue
  inRange : attr.field.InRange
  below : Everywhere (·.field.InRange) attr.children

namespace About

variable {name : String}

/-- A property of the attribute is its own. -/
theorem eval_its (h : About library template name attr scope) (key : AttributeKey) :
    (its name key).eval library invoke scope = .ok (attr.property key) := by
  rw [its, eval_member (eval_var h.item)]
  exact attr.member_toValue key

/-- A question about the attribute has its own answer. -/
theorem asks (h : About library template "a" attr scope) {builtin : Builtin}
    {question : Field → Bool} (hmem : (builtin, question) ∈ fieldQuestions) :
    Decides library invoke scope (asks builtin) (question attr.field) := by
  have hattr : IsAttribute attr.toValue attr := ⟨rfl, h.inRange, h.below⟩
  exact .ofBool (answers_of_call (hattr.question hmem) invoke scope (.var "a") (eval_var h.item)
    (h.within.find_builtin h.knows builtin))

/-- The type of the attribute is its own. -/
theorem eval_itsType (h : About library template "a" attr scope) :
    itsType.eval library invoke scope = .ok (.text attr.field.type.tag) := by
  rw [itsType, eval_item (eval_var h.item) rfl, Schema.Attribute.toValue_eq]
  rfl

/-- A flag of the attribute is its own. -/
theorem flag (h : About library template name attr scope) {key : AttributeKey} {answer : Bool}
    (hkey : attr.property key = .bool answer) :
    Decides library invoke scope (its name key) answer :=
  .ofBool (hkey ▸ h.eval_its key)

/-- A text that the attribute may have is missing if it has none. -/
theorem isMissing (h : About library template name attr scope) {key : AttributeKey}
    {option : Option String} (hkey : attr.property key = optionalValue .text option) :
    Decides library invoke scope (isMissing (its name key)) option.isNone :=
  .missing (hkey ▸ h.eval_its key)

/-- A text that the attribute may have is given if it has one. -/
theorem isGiven (h : About library template name attr scope) {key : AttributeKey}
    {option : Option String} (hkey : attr.property key = optionalValue .text option) :
    Decides library invoke scope (isGiven (its name key)) option.isSome :=
  .given (hkey ▸ h.eval_its key)

/-- A text of the attribute prints as itself. -/
theorem prints (h : About library template name attr scope) {key : AttributeKey} {text : String}
    (hkey : attr.property key = .text text) :
    Prints library invoke scope (its name key) (.ok text) :=
  .ofText (hkey ▸ h.eval_its key)

/-- A text that the attribute may have prints as itself, and a missing one as its name. -/
theorem prints_option (h : About library template name attr scope) {key : AttributeKey}
    {option : Option String} (hkey : attr.property key = optionalValue .text option) :
    Prints library invoke scope (its name key) (.ok (option.getD "none")) :=
  .option (hkey ▸ h.eval_its key)

/-- At an item of a loop over attributes, the scope is about the attribute. -/
theorem ofItem (hwithin : Within library template outer) (hknows : Knows library template)
    (hname : name ∈ localNames) (hrange : attr.field.InRange)
    (hbelow : Everywhere (·.field.InRange) attr.children) {running : RunningLoop}
    (h : AtItem outer name running attr.toValue scope) : About library template name attr scope :=
  ⟨hwithin.atItem h hname, hknows, h.find_item, hrange, hbelow⟩

/-- A macro of which the attribute is an argument is about it. -/
theorem inMacro (h : About library template name attr scope) {bound : List (String × Value)}
    (hbound : ∀ binding ∈ bound, binding.1 ∈ localNames) {parameter : String}
    (hattr : bound.lookup parameter = some attr.toValue) :
    About library template parameter attr (scope.inMacro bound) := by
  refine ⟨h.within.inMacro hbound, h.knows, ?_, h.inRange, h.below⟩
  rw [find_inMacro, hattr]
  rfl

end About

section Loop

variable {name : String} {attributes : List Attribute} {expr : Expr} {body rest : List Stmt}
  {text : Attribute → Outcome String} {second : Outcome String}

/-- A loop over attributes writes the texts of all of them. -/
theorem Writes.eachAttribute (hwithin : Within library template scope)
    (hknows : Knows library template) (hname : name ∈ localNames)
    (hrange : Everywhere (·.field.InRange) attributes) (hdepth : scope.depth ≤ maxNesting)
    (hitems : expr.eval library invoke scope = .ok (.list (Attribute.toValues attributes)))
    (hbody : ∀ attr ∈ attributes, ∀ {running inner},
      AtItem scope name running attr.toValue inner → About library template name attr inner →
        Writes library invoke inner body (text attr))
    (hrest : Writes library invoke scope rest second) :
    Writes library invoke scope (.loop (.name name) expr false body [] :: rest)
      (andThen (textsOf text attributes) second) := by
  rw [← textsOf_zipIdx text attributes 0]
  refine .loop ⟨_, hitems, congrArg Except.ok (Schema.Attribute.toValues_eq_map attributes)⟩ hdepth
    (fun pair hpair inner hinner => ?_) hrest
  have hmem := List.fst_mem_of_mem_zipIdx hpair
  obtain ⟨hfield, hbelow⟩ := Schema.everywhere_iff.1 hrange pair.1 hmem
  exact hbody pair.1 hmem hinner (.ofItem hwithin hknows hname hfield hbelow hinner)

/-- A loop over the attributes for which a test holds writes the texts of those. -/
theorem Writes.eachAttributeIf {keep : Expr} {kept : Attribute → Bool}
    (hwithin : Within library template scope) (hknows : Knows library template)
    (hname : name ∈ localNames) (hrange : Everywhere (·.field.InRange) attributes)
    (hdepth : scope.depth ≤ maxNesting)
    (hitems : expr.eval library invoke scope = .ok (.list (Attribute.toValues attributes)))
    (hkeep : ∀ attr, ∀ {running inner}, AtItem scope name running attr.toValue inner →
      About library template name attr inner → Decides library invoke inner keep (kept attr))
    (hbody : ∀ attr ∈ attributes, ∀ {running inner},
      AtItem scope name running attr.toValue inner → About library template name attr inner →
        Writes library invoke inner body (text attr))
    (hrest : Writes library invoke scope rest second) :
    Writes library invoke scope (.loopIf (.name name) expr keep false body [] :: rest)
      (andThen (textsOf text (attributes.filter kept)) second) := by
  have habout {attr : Attribute} {running : RunningLoop} {inner : Scope} (hmem : attr ∈ attributes)
      (hinner : AtItem scope name running attr.toValue inner) :
      About library template name attr inner :=
    have hbelow := Schema.everywhere_iff.1 hrange attr hmem
    .ofItem hwithin hknows hname hbelow.1 hbelow.2 hinner
  rw [← textsOf_zipIdx text (attributes.filter kept) 0]
  refine .loopIf ⟨_, hitems, congrArg Except.ok (Schema.Attribute.toValues_eq_map attributes)⟩
    hdepth (fun attr hmem index inner hinner => ?_) (fun pair hpair inner hinner => ?_) hrest
  · exact hkeep attr hinner (habout hmem hinner)
  · have hmem := (List.mem_filter.1 (List.fst_mem_of_mem_zipIdx hpair)).1
    exact hbody pair.1 hmem hinner (habout hmem hinner)

end Loop

end Stencil.Template
