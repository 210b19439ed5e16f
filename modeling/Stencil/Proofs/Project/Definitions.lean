import Mathlib.Data.List.Sort
import Stencil.Project.Definitions
import Stencil.Proofs.FileSystem.Relisting
import Stencil.Proofs.Text.Bytes

/-!
# Which files hold schemas

The names of the schema files of a directory are a sorted selection of the names that it lists
(`definitionNames_perm`, `definitionNames_pairwise`). A name is selected if it ends as the name of a
schema file does and is that of a file (`isDefinition_join`), and names that differ are in the order
of their bytes (`definitionNames_bytes`). Sorting has one outcome, so the order of the listing does
not count (`definitionNames_congr`).
-/

namespace Stencil.Project

open FileSystem (Relisted)

variable {files other : FileSystem} {directory : String} {names : List FileName}

/-- The name ends as that of a schema file: some text stands before its last dot, and one of the two
endings after it. -/
def EndsAsDefinition (name : FileName) : Prop :=
  ∃ stem ending, name = stem ++ '.' :: ending ∧ stem ≠ [] ∧ '.' ∉ ending ∧
    (ending = "yaml".toList ∨ ending = "yml".toList)

/-- The names of schema files are those that end so. -/
theorem isDefinitionName_iff {name : FileName} :
    isDefinitionName name = true ↔ EndsAsDefinition name := by
  rw [isDefinitionName, Path.extension?]
  constructor
  · intro h
    split at h
    · next ending hending =>
        split at hending
        · next after first before hcut =>
            obtain ⟨hname, hdot⟩ := Text.cutAt_eq_some_iff.1 hcut
            obtain rfl := Option.some.inj hending
            refine ⟨(first :: before).reverse, after.reverse, ?_, by simp, by simpa using hdot,
              by simpa using h⟩
            rw [← List.reverse_reverse name, hname]
            simp
        · cases hending
    · cases h
  · rintro ⟨stem, ending, rfl, hstem, hdot, hending⟩
    obtain ⟨first, before, hbefore⟩ :=
      List.exists_cons_of_ne_nil (List.reverse_ne_nil_iff.2 hstem)
    have hcut : Text.cutAt '.' (stem ++ '.' :: ending).reverse =
        some (ending.reverse, first :: before) :=
      Text.cutAt_eq_some_iff.2 ⟨by simp [hbefore], by simpa using hdot⟩
    rw [hcut]
    simpa using hending

/-- The name of a schema file is a step, and not one upwards. -/
theorem definition_step {name : FileName} (h : isDefinitionName name = true) :
    Path.isIdle name = false ∧ name ≠ Path.upward := by
  constructor
  · rw [Bool.eq_false_iff]
    intro hidle
    have hcases : name = [] ∨ name = ['.'] := by simpa [Path.isIdle] using hidle
    rcases hcases with rfl | rfl <;> cases h
  · rintro rfl
    cases h

/-- The names of schema files are selected from those that are listed. -/
theorem definitionNames_perm (files : FileSystem) (directory : String) (names : List FileName) :
    (definitionNames files directory names).Perm (names.filter fun name =>
      isDefinitionName name && files.isFile (Path.join directory (.ofList name))) :=
  List.mergeSort_perm _ _

/-- The names of schema files are sorted. -/
theorem definitionNames_pairwise (files : FileSystem) (directory : String) (names : List FileName) :
    (definitionNames files directory names).Pairwise fun left right =>
      String.ofList left ≤ String.ofList right := by
  refine List.Pairwise.imp of_decide_eq_true (List.pairwise_mergeSort ?_ ?_ _)
  · intro _ _ _ hleft hright
    simp only [decide_eq_true_eq] at hleft hright ⊢
    exact String.le_trans hleft hright
  · intro left right
    simpa using String.le_total (.ofList left) (.ofList right)

/-- Names of schema files that differ are in the order of their bytes. -/
theorem definitionNames_bytes (files : FileSystem) (directory : String) (hnames : names.Nodup) :
    (definitionNames files directory names).Pairwise fun left right =>
      Text.bytes left < Text.bytes right := by
  have hnodup : (definitionNames files directory names).Nodup :=
    (definitionNames_perm files directory names).nodup_iff.2 (hnames.filter _)
  exact ((definitionNames_pairwise files directory names).and hnodup).imp fun ⟨hle, hne⟩ =>
    Text.bytes_lt_of_le hle hne

/-- Names in the order of their bytes are told by which they are. -/
theorem eq_of_bytes {left right : List FileName}
    (hleft : left.Pairwise fun first second => Text.bytes first < Text.bytes second)
    (hright : right.Pairwise fun first second => Text.bytes first < Text.bytes second)
    (h : ∀ name, name ∈ left ↔ name ∈ right) : left = right := by
  have : Std.Asymm fun first second : FileName => Text.bytes first < Text.bytes second :=
    ⟨fun _ _ => List.lt_asymm⟩
  exact hleft.eq_of_mem_iff hright h

/-- Names in another order have the same schema files among them. -/
theorem definitionNames_congr {others : List FileName} (h : files.Relisted other)
    (hnames : others.Perm names) :
    definitionNames other directory others = definitionNames files directory names := by
  refine List.Perm.eq_of_pairwise (fun left right _ _ hle hge => ?_)
    (definitionNames_pairwise other directory others)
    (definitionNames_pairwise files directory names) ?_
  · simpa using congrArg String.toList (String.le_antisymm hle hge)
  · refine (definitionNames_perm other directory others).trans ?_
    simp only [h.isFile]
    exact (hnames.filter _).trans (definitionNames_perm files directory names).symm

/-- The path of an entry of a directory is that of a schema file if the entry is a file, its name
ends so, and neither its path nor its name is too long. -/
theorem isDefinition_join {place : List FileName} {name : FileName}
    (hlocate : files.locate directory = .ok place) (hname : '/' ∉ name) :
    (isDefinitionName name && files.isFile (Path.join directory (.ofList name))) = true ↔
      EndsAsDefinition name ∧
        files.isLongPath (Path.join directory (.ofList name)) = false ∧
        files.isLongName name = false ∧
        ∃ content, files.entryAt? (place ++ [name]) = some (.file content) := by
  rw [Bool.and_eq_true, ← isDefinitionName_iff]
  refine and_congr_right fun hdefinition => ?_
  obtain ⟨hstep, hup⟩ := definition_step hdefinition
  exact FileSystem.isFile_join hlocate hname hstep hup

end Stencil.Project
