import Stencil.Artifact
import Stencil.Project.Definitions
import Stencil.Proofs.FileSystem.Path

/-!
# Places of outputs

Where the outputs of a run are below its output directory. The first directory of a place tells how
many names it has (`shelves`), so no place is above another (`Shelved.eq_of_prefix`). This holds for
every schema whose short name is a name of an entry (`shelved_place`), and whatever the short name
is, the file there does not have the name of a schema file (`foreign_place`).
-/

namespace Stencil

open Text (pieces)

/-- A name that an entry of a directory can have: a single step that leads to the entry. -/
structure Path.IsName (name : FileName) : Prop where
  nonempty : name ≠ []
  clear : '/' ∉ name
  here : name ≠ ['.']
  level : name ≠ Path.upward

/-- A name of an entry is a step. -/
theorem Path.IsName.step {name : FileName} (h : Path.IsName name) : Path.isIdle name = false := by
  simp [Path.isIdle, h.nonempty, h.here]

/-- What an artifact's place has around the short name of a schema: the directories above, the rest
of the name that the short name is in, and the names below. -/
structure Slot where
  front : List FileName
  stem : FileName
  ending : FileName
  back : List FileName

/-- The names on the way to the place that a short name takes. -/
def Slot.names (slot : Slot) (name : FileName) : List FileName :=
  slot.front ++ (slot.stem ++ name ++ slot.ending) :: slot.back

/-- Where an artifact has the short name of a schema. -/
def Artifact.slot (artifact : Artifact) : Slot :=
  let before := pieces (· == '/') artifact.beforeName.toList
  let after := pieces (· == '/') artifact.afterName.toList
  ⟨before.dropLast, before.getLastD [], after.headD [], after.tail⟩

/-- The segments of an artifact's place. -/
theorem Artifact.segments_place {artifact : Artifact} {header : Schema.Header}
    (hbefore : artifact.beforeName ≠ "") (hrelative : Path.isAbsolute artifact.beforeName = false)
    (hname : '/' ∉ header.tfName.toList) :
    Path.isAbsolute (artifact.place header) = false ∧
      Path.segments (artifact.place header) = artifact.slot.names header.tfName.toList := by
  obtain ⟨front, stem, hfront⟩ :=
    (List.eq_nil_or_concat (pieces (· == '/') artifact.beforeName.toList)).resolve_left
      (Text.pieces_ne_nil _ _)
  obtain ⟨ending, back, hback⟩ := List.exists_cons_of_ne_nil
    (Text.pieces_ne_nil (· == '/') artifact.afterName.toList)
  rw [List.concat_eq_append] at hfront
  have hmiddle : pieces (· == '/') header.tfName.toList = [] ++ [header.tfName.toList] :=
    Text.pieces_of_notMem hname
  have hwhole := Text.pieces_glue hfront (Text.pieces_glue hmiddle hback)
  have habsolute : Path.isAbsolute (artifact.place header) = false := by
    rw [Artifact.place, String.append_assoc, (Path.body_append hbefore _).1, hrelative]
  refine ⟨habsolute, ?_⟩
  rw [Path.segments, Path.body, habsolute]
  simp only [Artifact.place, String.toList_append, List.append_assoc, Bool.false_eq_true, if_false]
  rw [hwhole]
  simp [Slot.names, Artifact.slot, hfront, hback]

/-- How many names the places below a directory have. -/
def shelves : List (FileName × Nat) :=
  [("src".toList, 3), ("tests".toList, 2), ("examples".toList, 4), ("docs".toList, 3)]

/-- A place that its first directory tells the length of, with no steps upwards. -/
structure Shelved (place : List FileName) : Prop where
  depth : (place.headD [], place.length) ∈ shelves
  names : ∀ segment ∈ place, Path.isIdle segment = false ∧ segment ≠ Path.upward

/-- A place has at least one name. -/
theorem Shelved.ne_nil {place : List FileName} (h : Shelved place) : place ≠ [] := by
  rintro rfl
  exact absurd h.depth (by decide)

/-- No place is above another. -/
theorem Shelved.eq_of_prefix {left right : List FileName} (hleft : Shelved left)
    (hright : Shelved right) (h : left <+: right) : left = right := by
  have hunique : ∀ first ∈ shelves, ∀ second ∈ shelves, first.1 = second.1 →
      first.2 = second.2 := by decide
  have htop : left.headD [] = right.headD [] := by
    obtain ⟨back, rfl⟩ := h
    obtain ⟨top, rest, rfl⟩ := List.exists_cons_of_ne_nil hleft.ne_nil
    rfl
  exact h.eq_of_length (hunique _ hleft.depth _ hright.depth htop)

/-- The names of a slot are a place whatever the short name is. -/
def Slot.Fits (slot : Slot) : Prop :=
  (slot.front.headD [], slot.front.length + (1 + slot.back.length)) ∈ shelves ∧
    (∀ segment ∈ slot.front ++ slot.back,
      Path.isIdle segment = false ∧ segment ≠ Path.upward) ∧
    slot.front ≠ [] ∧
    (slot.stem = [] ∧ slot.ending = [] ∨ slot.stem.head?.any (· != '.') = true)

/-- A name that does not begin with a dot is a step, and not one upwards. -/
theorem step_of_head {name : FileName} (h : name.head?.any (· != '.') = true) :
    Path.isIdle name = false ∧ name ≠ Path.upward := by
  cases name with
  | nil => cases h
  | cons first rest =>
      have hfirst : first ≠ '.' := by simpa using h
      simp [Path.isIdle, Path.upward, hfirst]

/-- A short name in a slot gives a place. -/
theorem Slot.Fits.shelved {slot : Slot} (h : slot.Fits) {name : FileName}
    (hname : Path.IsName name) : Shelved (slot.names name) := by
  obtain ⟨hdepth, hsides, hfront, hmiddle⟩ := h
  have hstep : Path.isIdle (slot.stem ++ name ++ slot.ending) = false ∧
      slot.stem ++ name ++ slot.ending ≠ Path.upward := by
    -- The short name is the whole name here, or follows a stem that does not begin with a dot.
    rcases hmiddle with ⟨hstem, hending⟩ | hstem
    · simpa [hstem, hending] using And.intro hname.step hname.level
    · refine step_of_head ?_
      obtain ⟨first, rest, hfirst⟩ : ∃ first rest, slot.stem = first :: rest := by
        refine List.exists_cons_of_ne_nil fun hnil => ?_
        simp [hnil] at hstem
      simpa [hfirst] using hstem
  constructor
  · obtain ⟨top, rest, htop⟩ := List.exists_cons_of_ne_nil hfront
    simpa [Slot.names, htop, Nat.add_comm, Nat.add_left_comm] using hdepth
  · intro segment hsegment
    rcases List.mem_append.1 hsegment with hsegment | hsegment
    · exact hsides segment (List.mem_append_left _ hsegment)
    · rcases List.mem_cons.1 hsegment with rfl | hsegment
      · exact hstep
      · exact hsides segment (List.mem_append_right _ hsegment)

/-- Every artifact has a place below the output directory whatever the short name is. -/
theorem artifact_fits : ∀ artifact ∈ Artifact.all, artifact.beforeName ≠ "" ∧
    Path.isAbsolute artifact.beforeName = false ∧ artifact.slot.Fits := by
  unfold Slot.Fits
  decide +kernel

/-- The place of an artifact for a schema with a proper short name. -/
theorem shelved_place {artifact : Artifact} (hartifact : artifact ∈ Artifact.all)
    {header : Schema.Header} (hname : Path.IsName header.tfName.toList) :
    Path.isAbsolute (artifact.place header) = false ∧
      Shelved (Path.segments (artifact.place header)) := by
  obtain ⟨hbefore, hrelative, hfits⟩ := artifact_fits artifact hartifact
  obtain ⟨habsolute, hsegments⟩ := Artifact.segments_place hbefore hrelative hname.clear
  exact ⟨habsolute, hsegments ▸ hfits.shelved hname⟩

/-- A place whose last name is not that of a schema file. -/
def Foreign (place : List FileName) : Prop :=
  place.getLast?.any Project.isDefinitionName = false

/-- The last name of a place tells what a longer way to it ends in. -/
theorem Foreign.append {place : List FileName} (h : Foreign place) (hne : place ≠ [])
    (base : List FileName) : Foreign (base ++ place) := by
  rwa [Foreign, List.getLast?_append_of_ne_nil _ hne]

/-- A name that ends as code does is not that of a schema file. -/
theorem code_not_definition (name : FileName) :
    Project.isDefinitionName (name ++ ".rs".toList) = false := by
  have hcut : Text.cutAt '.' (name ++ ".rs".toList).reverse = some ("sr".toList, name.reverse) := by
    simp [Text.cutAt]
  rw [Project.isDefinitionName, Path.extension?, hcut]
  cases name.reverse <;> rfl

/-- The names below the short name tell that an artifact is no schema file, or else how its name
ends. -/
theorem artifact_ending : ∀ artifact ∈ Artifact.all,
    artifact.slot.back = [] ∧ artifact.slot.ending = ".rs".toList ∨
      artifact.slot.back ≠ [] ∧ Foreign artifact.slot.back := by
  unfold Foreign
  decide

/-- The place of an artifact is not that of a schema file. -/
theorem foreign_place {artifact : Artifact} (hartifact : artifact ∈ Artifact.all)
    {header : Schema.Header} (hname : '/' ∉ header.tfName.toList) :
    Foreign (Path.segments (artifact.place header)) := by
  obtain ⟨hbefore, hrelative, -⟩ := artifact_fits artifact hartifact
  rw [(Artifact.segments_place hbefore hrelative hname).2, Slot.names, Foreign]
  rcases artifact_ending artifact hartifact with ⟨hback, hending⟩ | ⟨hback, hforeign⟩
  · rw [hback, hending, List.getLast?_concat]
    exact code_not_definition _
  · obtain ⟨first, rest, hfirst⟩ := List.exists_cons_of_ne_nil hback
    rw [Foreign, hfirst] at hforeign
    rwa [hfirst, List.getLast?_append_cons, List.getLast?_cons_cons]

/-- The places of the outputs that are made once. -/
theorem shelved_shared : ∀ artifact ∈ [providerArtifact, changelogArtifact],
    Path.isAbsolute artifact.place = false ∧ Shelved (Path.segments artifact.place) := by
  have hplaces : ∀ artifact ∈ [providerArtifact, changelogArtifact],
      Path.isAbsolute artifact.place = false ∧
        ((Path.segments artifact.place).headD [], (Path.segments artifact.place).length) ∈
          shelves ∧
        ∀ segment ∈ Path.segments artifact.place,
          Path.isIdle segment = false ∧ segment ≠ Path.upward := by
    decide
  intro artifact hartifact
  obtain ⟨habsolute, hdepth, hnames⟩ := hplaces artifact hartifact
  exact ⟨habsolute, hdepth, hnames⟩

/-- The places of the outputs that are made once are not those of schema files. -/
theorem foreign_shared : ∀ artifact ∈ [providerArtifact, changelogArtifact],
    Foreign (Path.segments artifact.place) := by
  unfold Foreign
  decide

end Stencil
