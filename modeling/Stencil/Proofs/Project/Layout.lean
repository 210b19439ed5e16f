import Mathlib.Data.List.Pairwise
import Stencil.Proofs.Project.Place

/-!
# The layout of outputs

No two outputs have one place unless they are the same artifact for schemas with one short name
(`place_inj`), and none has the place of an output that is made once (`place_shared`). The directory
that the outputs are in makes no difference to this (`Shelved.segments_of_identity`).
-/

namespace Stencil

/-- Steps that follow others are those that come after them. -/
theorem Path.steps_append (absolute : Bool) {list back : List FileName}
    (hback : ∀ segment ∈ back, Path.isIdle segment = false) :
    Path.steps absolute (list ++ back) = Path.steps absolute list ++ back := by
  have hall : ∀ rest : List FileName, (∀ segment ∈ rest, Path.isIdle segment = false) →
      rest.filter (!Path.isIdle ·) = rest := fun rest h =>
    List.filter_eq_self.2 fun segment hsegment => by simp [h segment hsegment]
  cases list with
  | nil =>
      cases back with
      | nil => rfl
      | cons first rest =>
          obtain ⟨hfirst, hrest⟩ := List.forall_mem_cons.1 hback
          have hne : first ≠ [] := by
            rintro rfl
            simp [Path.isIdle] at hfirst
          simp [Path.steps, hfirst, hne, hall rest hrest]
  | cons first rest =>
      simp only [List.cons_append, Path.steps, List.filter_append, hall back hback]
      split <;> rfl

/-- Places on the shelves that are one after a directory are one. -/
theorem Shelved.segments_of_identity {base path other : String}
    (hpath : Path.isAbsolute path = false ∧ Shelved (Path.segments path))
    (hother : Path.isAbsolute other = false ∧ Shelved (Path.segments other))
    (h : Path.identity (Path.join base path) = Path.identity (Path.join base other)) :
    Path.segments path = Path.segments other := by
  have hsteps {place : String} (hplace : Shelved (Path.segments place)) :
      ∀ segment ∈ Path.segments place, Path.isIdle segment = false :=
    fun segment hsegment => (hplace.names segment hsegment).1
  obtain ⟨list, -, hjoin⟩ := Path.segments_join base
  obtain ⟨habsolute, hsegments⟩ := hjoin path hpath.1
  obtain ⟨habsolute', hsegments'⟩ := hjoin other hother.1
  rw [Path.identity, Path.identity, habsolute, habsolute', hsegments, hsegments',
    Path.steps_append _ (hsteps hpath.2), Path.steps_append _ (hsteps hother.2)] at h
  exact List.append_cancel_left (Prod.mk.inj h).2

/-- Whatever two slots hold, the places are different: they begin in different directories, or the
held names are equally deep and in different directories, have different names below, or follow
stems that begin no common name. -/
def Slot.Apart (left right : Slot) : Prop :=
  left.front.headD [] ≠ right.front.headD [] ∨
    left.front.length = right.front.length ∧
      (left.front ≠ right.front ∨ left.back ≠ right.back ∨
        ¬ left.stem <+: right.stem ∧ ¬ right.stem <+: left.stem)

/-- Slots that are apart have no place in common. -/
theorem Slot.Apart.names_ne {left right : Slot} (h : left.Apart right) (hleft : left.front ≠ [])
    (hright : right.front ≠ []) (name other : FileName) : left.names name ≠ right.names other := by
  intro heq
  rcases h with hhead | ⟨hlength, h⟩
  · refine hhead ?_
    have hheads := congrArg (·.headD []) heq
    obtain ⟨top, rest, htop⟩ := List.exists_cons_of_ne_nil hleft
    obtain ⟨top', rest', htop'⟩ := List.exists_cons_of_ne_nil hright
    simpa [Slot.names, htop, htop'] using hheads
  · obtain ⟨hfront, hrest⟩ := List.append_inj heq hlength
    obtain ⟨hname, hback⟩ := List.cons.inj hrest
    rcases h with hdirectory | hbelow | ⟨hstem, hstem'⟩
    · exact hdirectory hfront
    · exact hbelow hback
    · -- Both stems begin the name at that depth, so one begins the other.
      rw [List.append_assoc, List.append_assoc] at hname
      rcases List.prefix_or_prefix_of_prefix (List.prefix_append left.stem _)
        (hname ▸ List.prefix_append right.stem _) with hprefix | hprefix
      · exact hstem hprefix
      · exact hstem' hprefix

/-- A slot gives different names different places. -/
theorem Slot.names_inj {slot : Slot} {name other : FileName}
    (h : slot.names name = slot.names other) : name = other := by
  simpa [Slot.names] using h

/-- Being apart goes both ways. -/
theorem Slot.Apart.symm {left right : Slot} (h : left.Apart right) : right.Apart left := by
  rcases h with hhead | ⟨hlength, h⟩
  · exact .inl hhead.symm
  · exact .inr ⟨hlength.symm, h.imp Ne.symm (Or.imp Ne.symm And.symm)⟩

instance : Std.Symm fun left right : Artifact => left.slot.Apart right.slot :=
  ⟨fun _ _ h => h.symm⟩

/-- The slot of an output that is made once: its place, with nothing left to be filled in. -/
def SharedArtifact.slot (artifact : SharedArtifact) : Slot :=
  ⟨(Path.segments artifact.place).dropLast, (Path.segments artifact.place).getLastD [], [], []⟩

/-- The slots of the artifacts are apart from each other. -/
theorem artifacts_apart : Artifact.all.Pairwise fun left right => left.slot.Apart right.slot := by
  unfold Slot.Apart
  decide +kernel

/-- The slots of the artifacts are apart from those of the outputs that are made once. -/
theorem shared_apart : ∀ shared ∈ [providerArtifact, changelogArtifact],
    shared.slot.front ≠ [] ∧ Path.segments shared.place = shared.slot.names [] ∧
      ∀ artifact ∈ Artifact.all, artifact.slot.Apart shared.slot := by
  unfold Slot.Apart Slot.names
  decide +kernel

variable {base : String}

/-- Outputs that have one place are the same artifact for schemas with one short name. -/
theorem place_inj {left right : Artifact} (hleft : left ∈ Artifact.all)
    (hright : right ∈ Artifact.all) {header other : Schema.Header}
    (hname : Path.IsName header.tfName.toList) (hother : Path.IsName other.tfName.toList)
    (h : Path.identity (Path.join base (left.place header)) =
      Path.identity (Path.join base (right.place other))) :
    left = right ∧ header.tfName = other.tfName := by
  obtain ⟨hbefore, hrelative, -, -, hfront, -⟩ := artifact_fits left hleft
  obtain ⟨hbefore', hrelative', -, -, hfront', -⟩ := artifact_fits right hright
  have hsegments := Shelved.segments_of_identity (shelved_place hleft hname)
    (shelved_place hright hother) h
  rw [(Artifact.segments_place hbefore hrelative hname.clear).2,
    (Artifact.segments_place hbefore' hrelative' hother.clear).2] at hsegments
  by_cases heq : left = right
  · subst heq
    exact ⟨rfl, String.toList_inj.1 (Slot.names_inj hsegments)⟩
  · have hapart : left.slot.Apart right.slot := artifacts_apart.forall hleft hright heq
    exact absurd hsegments (hapart.names_ne hfront hfront' _ _)

/-- No output for a schema has the place of one that is made once. -/
theorem place_shared {artifact : Artifact} (hartifact : artifact ∈ Artifact.all)
    {header : Schema.Header} (hname : Path.IsName header.tfName.toList) {shared : SharedArtifact}
    (hshared : shared ∈ [providerArtifact, changelogArtifact]) :
    Path.identity (Path.join base (artifact.place header)) ≠
      Path.identity (Path.join base shared.place) := by
  intro h
  obtain ⟨hbefore, hrelative, -, -, hfront, -⟩ := artifact_fits artifact hartifact
  obtain ⟨hfront', hplace, hapart⟩ := shared_apart shared hshared
  have hsegments := Shelved.segments_of_identity (shelved_place hartifact hname)
    (shelved_shared shared hshared) h
  rw [(Artifact.segments_place hbefore hrelative hname.clear).2, hplace] at hsegments
  exact (hapart artifact hartifact).names_ne hfront hfront' _ _ hsegments

/-- The outputs that are made once have different places. -/
theorem shared_places : Path.identity (Path.join base providerArtifact.place) ≠
    Path.identity (Path.join base changelogArtifact.place) := by
  intro h
  have hsegments := Shelved.segments_of_identity (shelved_shared providerArtifact (by simp))
    (shelved_shared changelogArtifact (by simp)) h
  revert hsegments
  decide

end Stencil
