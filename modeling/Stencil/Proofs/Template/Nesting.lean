import Stencil.Proofs.Template.About

/-!
# Recursive loops over attributes

A shipped template that writes attributes at every depth does so with a recursive loop of one form
(`NestedLoop.body`): it fails at an attribute that stands too deep, passes over an attribute that is
not visible, and writes any other, with what it writes of the children in between if the attribute
is a collection of objects. What such a loop writes is a text by recursion on the tree
(`NestedText.write`), which `NestedLoop.writes` proves of the loop.
-/

namespace Stencil.Template

open Schema (Attribute AttributeKey Everywhere Field Levels Visit)
open Schema.Attribute (visitsAll)

/-- What a recursive loop calls and writes for an attribute: the macro that says whether it is
visible, what comes before and after its children, and what is written if it has none. -/
structure NestedLoop where
  visible : String
  opening : List Stmt
  line : List Stmt
  closing : List Stmt

/-- What the loop writes for a visible attribute at a depth. -/
structure NestedText where
  visible : Field → Bool
  opening : (depth : Nat) → Field → String
  line : (depth : Nat) → Field → String
  closing : (depth : Nat) → Field → String

/-- The failure at an attribute that stands too deep. -/
def tooDeepMessage (tfName : String) (limit : Nat) : String :=
  s!"attribute '{tfName}' is nested deeper than {limit} levels"

/-- The call that fails at an attribute that stands too deep. -/
def tooDeepCall : Expr :=
  .call Builtin.fail.name
    [.literal (.text "attribute '\x7b\x7d' is nested deeper than \x7b\x7d levels"), its "a" .tfName,
      .var depthLimitName] []

/-- The body of a recursive loop. -/
def NestedLoop.body (loop : NestedLoop) : List Stmt :=
  [.branch (.binary .greater (.member (.var "loop") "depth") (.var depthLimitName))
      [.print tooDeepCall, .text "\n"] [],
    .branch (.unary .not (.call loop.visible [.var "a"] [])) []
      [.branch (asks .isNested)
        (loop.opening ++ .print (.call "loop" [its "a" .attributes] []) :: loop.closing) loop.line]]

mutual

/-- What a recursive loop writes for an attribute at a depth. -/
def NestedText.write (text : NestedText) (limit depth : Nat) : Attribute → Outcome String
  | ⟨field, children⟩ =>
    if limit < depth then .error (.failed (tooDeepMessage field.tfName limit))
    else if !text.visible field then .ok ""
    else if field.isNested then
      andThen (.ok (text.opening depth field))
        (andThen (text.writeAll limit (depth + 1) children) (.ok (text.closing depth field)))
    else .ok (text.line depth field)

/-- What a recursive loop writes for attributes at a depth. -/
def NestedText.writeAll (text : NestedText) (limit depth : Nat) : List Attribute → Outcome String
  | [] => .ok ""
  | attr :: rest => andThen (text.write limit depth attr) (text.writeAll limit depth rest)

end

/-- Attributes are written one after the other. -/
theorem NestedText.writeAll_eq (text : NestedText) (limit depth : Nat)
    (attributes : List Attribute) :
    text.writeAll limit depth attributes = textsOf (text.write limit depth) attributes := by
  induction attributes with
  | nil => rfl
  | cons attr rest ih => rw [writeAll, textsOf, ih]

/-- The scope is in the recursive loop over `a` at an attribute that stands at a depth. -/
structure AtDepth (library : Library) (template : Scope) (body : List Stmt) (depth : Nat)
    (attr : Attribute) (scope : Scope) : Prop where
  about : About library template "a" attr scope
  loop : ∃ outer length index,
    AtItem outer "a" (loopAt "a" body true true length (depth - 1) index) attr.toValue scope
  height : scope.depth = depth + 1
  positive : 0 < depth
  bound : depth ≤ 64

/-- What the parts of a loop write is what the parts of the text are. The body of the loop plays no
part in this. -/
structure NestedLoop.Means (loop : NestedLoop) (library : Library) (template : Scope)
    (text : NestedText) : Prop where
  visible : ∀ {fuel depth attr scope}, AtDepth library template loop.body depth attr scope →
    Decides library (invoke library (fuel + 1)) scope (.call loop.visible [.var "a"] [])
      (text.visible attr.field)
  opening : ∀ {fuel depth attr scope}, AtDepth library template loop.body depth attr scope →
    Writes library (invoke library (fuel + 1)) scope loop.opening
      (.ok (text.opening depth attr.field))
  line : ∀ {fuel depth attr scope}, AtDepth library template loop.body depth attr scope →
    Writes library (invoke library (fuel + 1)) scope loop.line (.ok (text.line depth attr.field))
  closing : ∀ {fuel depth attr scope}, AtDepth library template loop.body depth attr scope →
    Writes library (invoke library (fuel + 1)) scope loop.closing
      (.ok (text.closing depth attr.field))

variable {library : Library} {invoke : Invoke} {template outer scope : Scope} {attr : Attribute}
  {body : List Stmt} {depth : Nat}

/-- A member of the position of a loop. -/
theorem AtDepth.eval_position (h : AtDepth library template body depth attr scope) :
    (Expr.member (.var "loop") "depth").eval library invoke scope = .ok (.int depth) := by
  obtain ⟨outer, length, index, hat⟩ := h.loop
  have hdepth : ((depth - 1 : Nat) : Int) + 1 = depth := by
    have := h.positive
    omega
  rw [eval_member (eval_var (hat.find_loop rfl (by decide)))]
  exact congrArg (Except.ok ∘ Value.int) hdepth

/-- In a recursive loop a macro may still be called. -/
theorem AtDepth.canCall (h : AtDepth library template body depth attr scope) :
    scope.depth + macroCost ≤ maxNesting := by
  have hbound := h.bound
  rw [h.height, macroCost, maxNesting]
  omega

/-- The limit on nesting is known within a template that does not bind its name. -/
theorem Within.eval_limit (h : Within library template scope)
    (htemplate : template.template.bind (·.find? depthLimitName) = none) :
    (Expr.var depthLimitName).eval library invoke scope =
      .ok (.int (clampInt64 library.maxDepth)) := by
  refine eval_var ?_
  rw [h.find_eq _ (by decide), Scope.findTop?, htemplate]
  rfl

/-- Whether an attribute stands too deep. -/
theorem AtDepth.decides (h : AtDepth library template body depth attr scope)
    (htemplate : template.template.bind (·.find? depthLimitName) = none) :
    Decides library invoke scope
      (.binary .greater (.member (.var "loop") "depth") (.var depthLimitName))
      (decide (library.maxDepth < depth)) := by
  have hlimit : (Expr.var depthLimitName).eval library invoke scope = _ :=
    h.about.within.eval_limit htemplate
  have hgreater : (Value.compare (.int depth) (.int (clampInt64 library.maxDepth)) == .gt) =
      decide (library.maxDepth < depth) := by
    have hlargest : (Number.wordCount 63 : Int) = 2 ^ 63 := rfl
    have hbound := h.bound
    rw [Value.compare, clampInt64, hlargest, Bool.eq_iff_iff]
    simp only [beq_iff_eq, Int.compare_eq_gt, decide_eq_true_eq]
    omega
  exact .ofBool ((eval_binary .greater h.eval_position hlimit).trans (hgreater ▸ rfl))

/-- The message with its places filled. -/
theorem tooDeep_filled (tfName : String) (limit : Nat) :
    String.ofList (Text.fillPlaces
      "attribute '\x7b\x7d' is nested deeper than \x7b\x7d levels".toList
      [(Value.text tfName).print.toList, (Value.int limit).print.toList]) =
      tooDeepMessage tfName limit := by
  have hfilled (first second : List Char) : Text.fillPlaces
      "attribute '\x7b\x7d' is nested deeper than \x7b\x7d levels".toList [first, second] =
      "attribute '".toList ++ (first ++ ("' is nested deeper than ".toList ++ (second ++
        " levels".toList))) := rfl
  have hlimit : (Value.int limit).print = toString limit := rfl
  rw [hfilled, hlimit]
  simp only [String.ofList_append, String.ofList_toList, tooDeepMessage, String.append_assoc]
  rfl

/-- The failure names the attribute and the limit. -/
theorem AtDepth.fails (h : AtDepth library template body depth attr scope)
    (htemplate : template.template.bind (·.find? depthLimitName) = none)
    (hdeep : library.maxDepth < depth) :
    tooDeepCall.eval library invoke scope =
      .error (.failed (tooDeepMessage attr.field.tfName library.maxDepth)) := by
  have hlimit : (Expr.var depthLimitName).eval library invoke scope = _ :=
    h.about.within.eval_limit htemplate
  have hname : (its "a" .tfName).eval library invoke scope = .ok (.text attr.field.tfName) :=
    h.about.eval_its .tfName
  have hfail := h.about.within.find_builtin h.about.knows .fail
  have hclamp : clampInt64 library.maxDepth = library.maxDepth := by
    have hlargest : (Number.wordCount 63 : Int) = 2 ^ 63 := rfl
    have hbound := h.bound
    rw [clampInt64, hlargest]
    omega
  have harguments : Expr.evalAll library invoke scope
      [.literal (.text "attribute '\x7b\x7d' is nested deeper than \x7b\x7d levels"),
        its "a" .tfName, .var depthLimitName] =
      .ok [.text "attribute '\x7b\x7d' is nested deeper than \x7b\x7d levels",
        .text attr.field.tfName, .int library.maxDepth] := by
    rw [← hclamp]
    exact evalAll_cons rfl (evalAll_cons hname (evalAll_cons hlimit rfl))
  rw [tooDeepCall, eval_builtin hfail harguments]
  exact congrArg (Except.error ∘ Fault.failed) (tooDeep_filled _ _)

/-- A loop over attributes that starts at a place of the template is at their depth. -/
theorem AtDepth.ofItem (hwithin : Within library template outer) (hknows : Knows library template)
    (hrange : attr.field.InRange ∧ Everywhere (·.field.InRange) attr.children)
    {length index : Nat} (hheight : outer.depth = depth) (hpositive : 0 < depth)
    (hbound : depth ≤ 64)
    (h : AtItem outer "a" (loopAt "a" body true true length (depth - 1) index) attr.toValue scope) :
    AtDepth library template body depth attr scope :=
  ⟨.ofItem hwithin hknows (by decide) hrange.1 hrange.2 h, ⟨outer, length, index, h⟩,
    by rw [h.depth, hheight], hpositive, hbound⟩

variable {loop : NestedLoop} {text : NestedText}

/-- The body of a recursive loop writes the text of the attribute, if calls may still be as deep in
one another as the attributes are. -/
theorem NestedLoop.body_writes (hmeans : loop.Means library template text)
    (htemplate : template.template.bind (·.find? depthLimitName) = none) (attr : Attribute) :
    ∀ {fuel depth scope}, AtDepth library template loop.body depth attr scope →
      Levels (64 - depth) attr.children → 64 - depth ≤ fuel →
      Writes library (Template.invoke library (fuel + 1)) scope loop.body
        (text.write library.maxDepth depth attr) := by
  induction attr using Schema.attribute_induction with
  | step attr ih =>
    intro fuel depth scope hat hlevels hfuel
    have hdeep : Decides library (Template.invoke library (fuel + 1)) scope _ _ :=
      hat.decides htemplate
    have hvisible : Decides library (Template.invoke library (fuel + 1)) scope _ _ :=
      (hmeans.visible hat).not
    have hnested : Decides library (Template.invoke library (fuel + 1)) scope (asks .isNested)
        attr.field.isNested := hat.about.asks (by simp [fieldQuestions])
    obtain ⟨field, children⟩ := attr
    rw [NestedText.write]
    by_cases hlimit : library.maxDepth < depth
    · -- The attribute stands too deep, and the loop fails before it looks any further.
      rw [if_pos hlimit]
      refine .cons_error (.choice hdeep ?_)
      rw [if_pos (by simpa using hlimit)]
      exact .print (.ofError (hat.fails htemplate hlimit)) (.text .nil)
    rw [if_neg hlimit, ← empty_andThen (ite _ _ _)]
    rw [decide_eq_false hlimit] at hdeep
    refine .branch hdeep .nil (.choice hvisible ?_)
    cases hshown : text.visible field with
    | false => exact .nil
    | true =>
      refine .choice hnested ?_
      cases hobjects : field.isNested with
      | false => exact hmeans.line hat
      | true =>
        obtain ⟨outer, length, index, hloop⟩ := hat.loop
        have hchildren : (its "a" .attributes).eval library (Template.invoke library (fuel + 1))
            scope = .ok (.list (Attribute.toValues children)) := hat.about.eval_its .attributes
        have hheight : scope.depth ≤ maxNesting := Nat.le_of_add_right_le hat.canCall
        refine .append (hmeans.opening hat) (.print (.ofOutcome ?_) (hmeans.closing hat))
        rw [text.writeAll_eq, ← textsOf_zipIdx _ _ 0]
        refine eval_again hloop ⟨hchildren, congrArg Except.ok
          (Schema.Attribute.toValues_eq_map children)⟩ hheight fun pair hpair inner hinner => ?_
        -- The children are one level deeper, and the calls one deeper in one another.
        have hmem := List.fst_mem_of_mem_zipIdx hpair
        obtain ⟨hlevel, hbelow⟩ := hlevels.below hmem
        obtain ⟨fuel, rfl⟩ := Nat.exists_eq_succ_of_ne_zero (n := fuel) (by omega)
        have hdepth : depth - 1 + 1 = depth := Nat.sub_add_cancel hat.positive
        rw [hdepth] at hinner
        refine ih pair.1 hmem (.ofItem hat.about.within hat.about.knows
          (Schema.everywhere_iff.1 hat.about.below pair.1 hmem) hat.height (Nat.succ_pos _)
          (by omega) hinner) ?_ (by omega)
        rwa [Nat.sub_sub] at hbelow

/-- A recursive loop over the attributes of a template writes their text. -/
theorem NestedLoop.writes (hmeans : loop.Means library template text)
    (htemplate : template.template.bind (·.find? depthLimitName) = none)
    (hwithin : Within library template template) (hknows : Knows library template)
    (hheight : template.depth = 1) (hloop : template.loop? = none) {attributes : List Attribute}
    (hattributes : template.findTop? library "attributes" =
      some (.list (Attribute.toValues attributes)))
    (hrange : Everywhere (·.field.InRange) attributes) (hlevels : Levels 64 attributes)
    {fuel : Nat} (hfuel : 63 ≤ fuel) :
    Writes library (Template.invoke library (fuel + 1)) template
      [.loop (.name "a") (.var "attributes") true loop.body []]
      (text.writeAll library.maxDepth 1 attributes) := by
  have hvalue : ∃ value,
      (Expr.var "attributes").eval library (Template.invoke library (fuel + 1)) template =
        .ok value ∧ value.items = .ok (attributes.map Attribute.toValue) := by
    refine ⟨.list (Attribute.toValues attributes), eval_var ?_,
      congrArg Except.ok (Schema.Attribute.toValues_eq_map attributes)⟩
    rw [hwithin.find_eq _ (by decide), hattributes]
  have hstart : template.loopDepth = 0 := by rw [Scope.loopDepth, hloop]
  rw [text.writeAll_eq, ← textsOf_zipIdx _ _ 0, ← andThen_empty (textsOf _ _)]
  refine .loop hvalue (by rw [hheight]; decide) (fun pair hpair inner hinner => ?_) .nil
  have hmem := List.fst_mem_of_mem_zipIdx hpair
  rw [hstart] at hinner
  exact loop.body_writes hmeans htemplate pair.1 (.ofItem hwithin hknows
    (Schema.everywhere_iff.1 hrange pair.1 hmem) hheight Nat.one_pos (by omega) hinner)
    (hlevels.below hmem).2 hfuel

/-- All attributes above the one that is met are visible collections of objects, so a recursive loop
comes to it. -/
def Reached (visible : Field → Bool) (visit : Visit) : Prop :=
  ∀ attr ∈ visit.above, visible attr.field = true ∧ attr.field.isNested = true

instance (visible : Field → Bool) (visit : Visit) : Decidable (Reached visible visit) :=
  inferInstanceAs (Decidable (∀ attr ∈ visit.above, _))

/-- The failure at what is met in a loop at a depth, if it is reached and stands too deep. -/
def tooDeep? (visible : Field → Bool) (limit depth : Nat) (visit : Visit) : Option Fault :=
  if visit.position.length + depth = limit + 2 ∧ Reached visible visit then
    some (.failed (tooDeepMessage visit.attr.field.tfName limit))
  else none

/-- Below an attribute that is no visible collection of objects, nothing is reached. -/
theorem tooDeep_below {visible : Field → Bool} {limit depth index : Nat} {visit : Visit} :
    tooDeep? visible limit depth (visit.below index attr) =
      if visible attr.field = true ∧ attr.field.isNested = true then
        tooDeep? visible limit (depth + 1) visit
      else none := by
  have hlength : (visit.below index attr).position.length + depth =
      visit.position.length + (depth + 1) := by
    rw [Visit.below, List.length_cons]
    omega
  have hreached : Reached visible (visit.below index attr) ↔
      (visible attr.field = true ∧ attr.field.isNested = true) ∧ Reached visible visit :=
    List.forall_mem_cons
  rw [tooDeep?, tooDeep?, hlength]
  by_cases hself : visible attr.field = true ∧ attr.field.isNested = true
  · simp only [hreached, hself, true_and, and_self, if_true]
    rfl
  · simp only [hreached, hself, false_and, and_false, if_false]

/-- The outcome is a certain failure, or a text if there is none. -/
def Ends (outcome : Outcome String) : Option Fault → Prop
  | some fault => outcome = .error fault
  | none => ∃ written, outcome = .ok written

/-- One text after another fails as the first of them that does. -/
theorem Ends.andThen {first second : Outcome String} {fault other : Option Fault}
    (hfirst : Ends first fault) (hsecond : Ends second other) :
    Ends (andThen first second) (fault.or other) := by
  cases fault with
  | some fault =>
      obtain rfl : first = .error fault := hfirst
      rfl
  | none =>
      obtain ⟨written, rfl⟩ := hfirst
      cases other with
      | some other =>
          obtain rfl : second = .error other := hsecond
          rfl
      | none =>
          obtain ⟨others, rfl⟩ := hsecond
          exact ⟨_, rfl⟩

/-- What is written fails at the first attribute that is reached and stands too deep, and is a text
if there is none. -/
theorem NestedText.writeAll_ends (text : NestedText) {limit depth : Nat}
    {attributes : List Attribute} (hdepth : depth ≤ limit + 1) (index : Nat) :
    Ends (text.writeAll limit depth attributes)
      ((visitsAll index attributes).findSome? (tooDeep? text.visible limit depth)) := by
  induction attributes using Schema.forest_induction generalizing depth index with
  | nil => exact ⟨"", rfl⟩
  | cons field children rest ihChildren ihRest =>
      have hrest := ihRest hdepth (index + 1)
      have hbelow : (tooDeep? text.visible limit depth ∘ Visit.below index ⟨field, children⟩) =
          fun visit => if text.visible field = true ∧ field.isNested = true then
            tooDeep? text.visible limit (depth + 1) visit else none :=
        funext fun visit => tooDeep_below
      rw [Schema.visitsAll_cons, List.findSome?_cons, List.findSome?_append, List.findSome?_map,
        hbelow, writeAll, write]
      by_cases hlimit : limit < depth
      · -- The attribute itself stands too deep.
        have hself : tooDeep? text.visible limit depth ⟨[index], [], ⟨field, children⟩⟩ =
            some (.failed (tooDeepMessage field.tfName limit)) :=
          if_pos ⟨by simp; omega, by simp [Reached]⟩
        rw [hself, if_pos hlimit]
        rfl
      · have hself : tooDeep? text.visible limit depth ⟨[index], [], ⟨field, children⟩⟩ = none :=
          if_neg fun h => by simp at h; omega
        rw [hself, if_neg hlimit]
        refine .andThen ?_ hrest
        by_cases hopen : text.visible field = true ∧ field.isNested = true
        · obtain ⟨hshown, hnested⟩ := hopen
          have hopening : Ends (.ok (text.opening depth field)) none := ⟨_, rfl⟩
          have hclosing : Ends (.ok (text.closing depth field)) none := ⟨_, rfl⟩
          have hchildren : Ends (text.writeAll limit (depth + 1) children) _ :=
            ihChildren (by omega) 0
          simpa [hshown, hnested] using hopening.andThen (hchildren.andThen hclosing)
        · have hnothing :
              (visitsAll 0 children).findSome? (fun _ => (none : Option Fault)) = none :=
            List.findSome?_eq_none_iff.2 fun _ _ => rfl
          simp only [hopen, if_false, hnothing]
          cases hshown : text.visible field with
          | false => exact ⟨"", rfl⟩
          | true =>
              have hnested : field.isNested = false := by simpa [hshown] using hopen
              exact ⟨text.line depth field, by simp [hnested]⟩

end Stencil.Template
