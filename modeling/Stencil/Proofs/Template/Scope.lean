import Mathlib.Data.List.Basic
import Stencil.Template.Render

/-!
# Names in nested scopes

What names mean inside loops and macros. In a loop over a name, the name is the item that the loop
has come to, `loop` is the position, and other names mean what they do outside
(`AtItem.find_other`). In a macro of the template, the parameters are the arguments, and other names
mean what they do in the frame of the template (`find_inMacro`). A loop whose steps leave their
scope as it is writes the texts of its items one after the other (`runLoop_texts`).
-/

namespace Stencil.Template

/-- The frame of the template itself. -/
def Scope.template (scope : Scope) : Option Frame := scope.frames.getLast?

/-- What a name means in the frame of the template. -/
def Scope.findTop? (library : Library) (scope : Scope) (name : String) : Option Value :=
  (scope.template.bind (·.find? name)).or (library.global? name)

/-- The scope is inside a loop over a name that runs in another scope, at an item. -/
structure AtItem (outer : Scope) (name : String) (running : RunningLoop) (item : Value)
    (scope : Scope) : Prop where
  frames : ∃ earlier : List (String × Value), (∀ binding ∈ earlier, binding.1 = name) ∧
    scope.frames = ⟨(name, item) :: earlier, some running, none⟩ :: outer.frames
  depth : scope.depth = outer.depth + 1

/-- The scope inside a macro that is declared in the template and called from another scope. -/
def Scope.inMacro (outer : Scope) (bound : List (String × Value)) : Scope :=
  ⟨⟨bound, none, some 1⟩ :: outer.frames, outer.depth + macroCost⟩

variable {library : Library} {outer scope : Scope} {name : String} {item : Value}
  {running : RunningLoop}

/-- The search from the first frame on. -/
theorem find_cons (frame : Frame) (rest : List Frame) (depth : Nat) (name : String) :
    Scope.find? library ⟨frame :: rest, depth⟩ name =
      ((frame.find? name).or (Scope.findBelow? name (frame.home.getD rest.length) rest)).or
        (library.global? name) := by
  rw [Scope.find?, Scope.findBelow?, List.length_cons, if_neg (Nat.lt_irrefl _)]
  cases frame.find? name <;> rfl

/-- The lowest frame is that of the template. -/
theorem findBelow_one (name : String) (frames : List Frame) :
    Scope.findBelow? name 1 frames = frames.getLast?.bind (·.find? name) := by
  induction frames with
  | nil => rfl
  | cons frame rest ih =>
      cases rest with
      | nil =>
          simp only [Scope.findBelow?, List.length_nil, List.getLast?_singleton, Option.bind_some]
          cases frame.find? name <;> rfl
      | cons next others =>
          rw [Scope.findBelow?, if_pos (by simp), ih, List.getLast?_cons_cons]

namespace AtItem

/-- The name of a loop is the item. -/
theorem find_item (h : AtItem outer name running item scope) :
    scope.find? library name = some item := by
  obtain ⟨frames, depth⟩ := scope
  obtain ⟨⟨earlier, -, rfl⟩, -⟩ := h
  simp [find_cons, Frame.find?]

/-- A name that a loop does not bind is not found in its frame. -/
theorem frame_find {earlier : List (String × Value)}
    (hearlier : ∀ binding ∈ earlier, binding.1 = name) {other : String} (hother : other ≠ name) :
    ((name, item) :: earlier).lookup other = none := by
  rw [List.lookup_eq_none_iff, List.forall_mem_cons]
  refine ⟨by simpa using hother, fun binding hbinding => ?_⟩
  simpa [hearlier binding hbinding] using hother

/-- The position is known under its own name. -/
theorem find_loop (h : AtItem outer name running item scope) (hvisible : running.visible = true)
    (hname : "loop" ≠ name) : scope.find? library "loop" = some (.position running.position) := by
  obtain ⟨frames, depth⟩ := scope
  obtain ⟨⟨earlier, hearlier, rfl⟩, -⟩ := h
  simp [find_cons, Frame.find?, frame_find hearlier hname, hvisible, Option.filter]

/-- Other names mean what they do outside. -/
theorem find_other (h : AtItem outer name running item scope) {other : String}
    (hname : other ≠ name) (hloop : other ≠ "loop") :
    scope.find? library other = outer.find? library other := by
  obtain ⟨frames, depth⟩ := scope
  obtain ⟨⟨earlier, hearlier, rfl⟩, -⟩ := h
  rw [find_cons, Scope.find?]
  simp [Frame.find?, frame_find hearlier hname, hloop]

/-- The innermost loop is this one. -/
theorem loop_eq (h : AtItem outer name running item scope) : scope.loop? = some running := by
  obtain ⟨earlier, -, hframes⟩ := h.frames
  rw [Scope.loop?, hframes]
  rfl

/-- The template is that of the scope outside. -/
theorem template_eq (h : AtItem outer name running item scope) (houter : outer.frames ≠ []) :
    scope.template = outer.template := by
  obtain ⟨earlier, -, hframes⟩ := h.frames
  obtain ⟨top, rest, htop⟩ := List.exists_cons_of_ne_nil houter
  rw [Scope.template, Scope.template, hframes, htop, List.getLast?_cons_cons]

end AtItem

/-- In a macro, parameters are the arguments, and other names mean what they do in the template. -/
theorem find_inMacro (outer : Scope) (bound : List (String × Value)) (name : String) :
    (outer.inMacro bound).find? library name =
      (bound.lookup name).or (outer.findTop? library name) := by
  rw [Scope.inMacro, find_cons, Option.getD_some, findBelow_one, Option.or_assoc, Scope.findTop?,
    Scope.template, Frame.find?]
  cases bound.lookup name <;> simp

/-- One text after another. -/
def andThen (first second : Outcome String) : Outcome String := do
  let text ← first
  let others ← second
  pure (text ++ others)

/-- Nothing is left out before a text. -/
@[simp]
theorem empty_andThen (outcome : Outcome String) : andThen (.ok "") outcome = outcome := by
  cases outcome <;> simp [andThen, bind, Except.bind, pure, Except.pure]

/-- Nothing is left out after a text. -/
@[simp]
theorem andThen_empty (outcome : Outcome String) : andThen outcome (.ok "") = outcome := by
  cases outcome <;> simp [andThen, bind, Except.bind, pure, Except.pure]

/-- One text after another is both together. -/
@[simp]
theorem ok_andThen (first second : String) :
    andThen (.ok first) (.ok second) = .ok (first ++ second) := rfl

/-- Texts before others are one text. -/
@[simp]
theorem ok_andThen_andThen (first second : String) (outcome : Outcome String) :
    andThen (.ok first) (andThen (.ok second) outcome) =
      andThen (.ok (first ++ second)) outcome := by
  cases outcome <;> simp [andThen, bind, Except.bind, pure, Except.pure, String.append_assoc]

/-- The texts of items, one after the other. -/
def textsOf {α : Type} (text : α → Outcome String) : List α → Outcome String
  | [] => .ok ""
  | item :: rest => andThen (text item) (textsOf text rest)

/-- Texts of items that are all there. -/
theorem textsOf_ok {α : Type} (text : α → String) (items : List α) :
    textsOf (fun item => .ok (text item)) items = .ok (String.join (items.map text)) := by
  induction items with
  | nil => rfl
  | cons item rest ih => rw [textsOf, ih, ok_andThen, List.map_cons, String.join_cons]

/-- A loop over a name as it runs, with the position at an index. -/
def loopAt (name : String) (body : List Stmt) (recursive visible : Bool)
    (length depth index : Nat) : RunningLoop :=
  ⟨.name name, body, recursive, visible, ⟨index, length, depth⟩⟩

/-- The scope is inside a loop over a name that runs in another scope, wherever the loop has come
to. -/
structure InLoop (outer : Scope) (name : String) (body : List Stmt) (recursive visible : Bool)
    (length depth : Nat) (scope : Scope) : Prop where
  frames : ∃ (earlier : List (String × Value)) (index : Nat),
    (∀ binding ∈ earlier, binding.1 = name) ∧
      scope.frames =
        ⟨earlier, some (loopAt name body recursive visible length depth index), none⟩ ::
          outer.frames
  depth : scope.depth = outer.depth + 1

section Loop

variable {body : List Stmt} {recursive visible : Bool} {length depth : Nat}

/-- At an item the scope is inside the loop. -/
theorem AtItem.inLoop {index : Nat}
    (h : AtItem outer name (loopAt name body recursive visible length depth index) item scope) :
    InLoop outer name body recursive visible length depth scope := by
  obtain ⟨⟨earlier, hearlier, hframes⟩, hdepth⟩ := h
  exact ⟨⟨_, index, List.forall_mem_cons.2 ⟨rfl, hearlier⟩, hframes⟩, hdepth⟩

/-- Binding the name to an item comes to the item, at the index where the loop is. -/
theorem InLoop.bind (h : InLoop outer name body recursive visible length depth scope)
    (item : Value) : ∃ index next, scope.bind (.name name) item = .ok next ∧
      AtItem outer name (loopAt name body recursive visible length depth index) item next := by
  obtain ⟨frames, height⟩ := scope
  obtain ⟨⟨earlier, index, hearlier, rfl⟩, hdepth⟩ := h
  exact ⟨index, _, rfl, ⟨earlier, hearlier, rfl⟩, hdepth⟩

/-- Going on to an index and binding the name to an item comes to the item there. -/
theorem InLoop.bind_at (h : InLoop outer name body recursive visible length depth scope)
    (index : Nat) (item : Value) : ∃ next,
      (scope.atIndex index).bind (.name name) item = .ok next ∧
        AtItem outer name (loopAt name body recursive visible length depth index) item next := by
  obtain ⟨frames, height⟩ := scope
  obtain ⟨⟨earlier, _, hearlier, rfl⟩, hdepth⟩ := h
  exact ⟨_, rfl, ⟨earlier, hearlier, rfl⟩, hdepth⟩

variable {α : Type} {make : α → Value}

/-- Steps that leave their scope as it is write the texts of their items. -/
theorem eachItem_texts {step : Scope → Outcome (Scope × String)} {text : α × Nat → Outcome String}
    {items : List α} {start : Nat}
    (hstep : ∀ pair ∈ items.zipIdx start, ∀ scope,
      AtItem outer name (loopAt name body recursive visible length depth pair.2) (make pair.1)
        scope → step scope = (scope, ·) <$> text pair)
    (h : InLoop outer name body recursive visible length depth scope) :
    (·.2) <$> eachItem (.name name) step start (items.map make) scope =
      textsOf text (items.zipIdx start) := by
  induction items generalizing scope start with
  | nil => rfl
  | cons item rest ih =>
      rw [List.zipIdx_cons, List.forall_mem_cons] at hstep
      obtain ⟨hfirst, hrest⟩ := hstep
      obtain ⟨next, hnext, hat⟩ := h.bind_at start (make item)
      have hothers := ih hrest hat.inLoop
      rw [List.map_cons, eachItem, hnext, List.zipIdx_cons, textsOf, ← hothers]
      simp only [bind, Except.bind, hfirst next hat, andThen]
      cases text (item, start) with
      | error fault => rfl
      | ok printed =>
          simp only [Functor.map, Except.map]
          cases eachItem (.name name) step (start + 1) (rest.map make) next <;> rfl

/-- A loop whose steps leave their scope as it is writes the texts of its items. -/
theorem runLoop_texts {step : Scope → Outcome (Scope × String)} {text : α × Nat → Outcome String}
    {items : List α} (hdepth : outer.depth ≤ maxNesting)
    (hstep : ∀ pair ∈ items.zipIdx, ∀ scope,
      AtItem outer name (loopAt name body recursive true items.length outer.loopDepth pair.2)
        (make pair.1) scope → step scope = (scope, ·) <$> text pair) :
    runLoop step outer (.name name) body recursive (items.map make) =
      textsOf text items.zipIdx := by
  have hinside : InLoop outer name body recursive true items.length outer.loopDepth
      ⟨⟨[], some (loopAt name body recursive true items.length outer.loopDepth 0), none⟩ ::
        outer.frames, outer.depth + 1⟩ :=
    ⟨⟨[], 0, by simp, rfl⟩, rfl⟩
  rw [← eachItem_texts hstep hinside, runLoop, Scope.push, if_neg (Nat.not_lt.2 hdepth)]
  simp only [bind, Except.bind, pure, Except.pure, List.length_map, loopAt, Functor.map, Except.map]

/-- The items that a test keeps, if it says for each whether it does. -/
theorem keptItems_filter {keep : Scope → Outcome Bool} {kept : α → Bool} {items : List α}
    (hkeep : ∀ item ∈ items, ∀ index scope,
      AtItem outer name (loopAt name body recursive visible length depth index) (make item) scope →
      keep scope = .ok (kept item))
    (h : InLoop outer name body recursive visible length depth scope) :
    keptItems (.name name) keep (items.map make) scope = .ok ((items.filter kept).map make) := by
  induction items generalizing scope with
  | nil => rfl
  | cons item rest ih =>
      obtain ⟨hfirst, hrest⟩ := List.forall_mem_cons.1 hkeep
      obtain ⟨index, next, hnext, hat⟩ := h.bind (make item)
      rw [List.map_cons, keptItems, hnext, List.filter_cons]
      simp only [bind, Except.bind, hfirst index next hat, ih hrest hat.inLoop]
      cases kept item <;> rfl

/-- The items that a loop keeps. -/
theorem selectItems_filter {keep : Scope → Outcome Bool} {kept : α → Bool} {items : List α}
    (hdepth : outer.depth ≤ maxNesting)
    (hkeep : ∀ item ∈ items, ∀ index scope,
      AtItem outer name (loopAt name [] false false items.length outer.loopDepth index) (make item)
        scope → keep scope = .ok (kept item)) :
    selectItems keep outer (.name name) (items.map make) =
      .ok ((items.filter kept).map make) := by
  have hinside : InLoop outer name [] false false items.length outer.loopDepth
      ⟨⟨[], some (loopAt name [] false false items.length outer.loopDepth 0), none⟩ ::
        outer.frames, outer.depth + 1⟩ :=
    ⟨⟨[], 0, by simp, rfl⟩, rfl⟩
  rw [← keptItems_filter hkeep hinside, selectItems, Scope.push, if_neg (Nat.not_lt.2 hdepth),
    List.length_map]
  rfl

/-- Texts that do not depend on the places of the items. -/
theorem textsOf_zipIdx (text : α → Outcome String) (items : List α) (start : Nat) :
    textsOf (fun pair => text pair.1) (items.zipIdx start) = textsOf text items := by
  induction items generalizing start with
  | nil => rfl
  | cons item rest ih => rw [List.zipIdx_cons, textsOf, textsOf, ih]

end Loop

end Stencil.Template
