import LectureDeck.Proofs.Site.Path
import LectureDeck.Site.Build
import Mathlib.Data.List.Nodup

/-!
# Places of a site

The files of a source are named for it, and are in one directory with the four pages for a run as a
whole. They are at different places just if the sources have different names and the pages are
apart from them (`LectureDeck.Site.nodup_sitePaths_iff`).
-/

namespace LectureDeck.Site

section Paths

/-- What the files of a source end with after its name. -/
def endings : List String := [".html", ".record.json", ".sheet.json"]

/-- The paths of the files of a source. -/
def filePaths (target name : String) : List String :=
  endings.map fun ending => join target (name ++ ending)

/-- The paths of the pages for a run as a whole. -/
def pagePaths (target : String) (options : Options) : List String :=
  [options.indexFile, options.questionIndexFile, options.contentsFile,
    options.crossReferenceFile].map (join target)

/-- The paths that a run is written to. -/
def sitePaths (target : String) (options : Options) (names : List String) : List String :=
  names.flatMap (filePaths target) ++ pagePaths target options

theorem map_path_artifacts (target : String) (options : Options) (run : Run Float) :
    (artifacts target options run).map Artifact.path =
      sitePaths target options (run.files.map Compiled.name) := by
  rw [artifacts, List.map_append, List.map_flatMap, sitePaths, List.flatMap_map]
  rfl

variable {target name other ending otherEnding : String}

/-- None of the endings is the end of another. -/
theorem append_ending_inj (isEnding : ending ∈ endings) (otherIsEnding : otherEnding ∈ endings) :
    name ++ ending = other ++ otherEnding ↔ name = other ∧ ending = otherEnding := by
  have apart : ∀ first ∈ endings, ∀ second ∈ endings,
      first.toList <:+ second.toList → first = second := by decide +kernel
  constructor
  · intro same
    have chars := congrArg String.toList same
    rw [String.toList_append, String.toList_append] at chars
    have ends : otherEnding.toList <:+ name.toList ++ ending.toList :=
      chars ▸ List.suffix_append _ _
    have equal : ending = otherEnding := by
      rcases Nat.le_total ending.toList.length otherEnding.toList.length with short | short
      · exact apart _ isEnding _ otherIsEnding
          (List.suffix_of_suffix_length_le (List.suffix_append _ _) ends short)
      · exact (apart _ otherIsEnding _ isEnding
          (List.suffix_of_suffix_length_le ends (List.suffix_append _ _) short)).symm
    subst equal
    exact ⟨String.toList_injective (List.append_cancel_right chars), rfl⟩
  · rintro ⟨rfl, rfl⟩
    rfl

/-- What a source is called, with an ending, is the name of a file. -/
theorem isFileName_append (plain : '/' ∉ name.toList) (isEnding : ending ∈ endings) :
    IsFileName (name ++ ending).toList := by
  have endingPlain : ∀ ending ∈ endings, '/' ∉ ending.toList ∧ 2 < ending.toList.length := by
    decide +kernel
  obtain ⟨without, long⟩ := endingPlain ending isEnding
  have longer : 2 < (name ++ ending).toList.length := by
    rw [String.toList_append, List.length_append]
    omega
  constructor
  · rw [String.toList_append, List.mem_append]
    exact not_or.2 ⟨plain, without⟩
  all_goals
    intro same
    rw [same] at longer
    contradiction

/-- Files of sources are at the same place if the sources have the same name. -/
theorem filePlace?_filePaths_inj {tree : FileTree} (plain : '/' ∉ name.toList)
    (otherPlain : '/' ∉ other.toList) (isEnding : ending ∈ endings)
    (otherIsEnding : otherEnding ∈ endings)
    (leads : ∃ place, tree.filePlace? (join target (name ++ ending)) = some place)
    (otherLeads : ∃ place, tree.filePlace? (join target (other ++ otherEnding)) = some place) :
    tree.filePlace? (join target (name ++ ending)) =
        tree.filePlace? (join target (other ++ otherEnding)) ↔
      name = other ∧ ending = otherEnding := by
  obtain ⟨place, found⟩ := leads
  obtain ⟨otherPlace, otherFound⟩ := otherLeads
  rw [found, otherFound, Option.some_inj, ← append_ending_inj isEnding otherIsEnding]
  exact FileTree.filePlace?_join_inj (isFileName_append plain isEnding)
    (isFileName_append otherPlain otherIsEnding) found otherFound

end Paths

section Apart

variable {tree : FileTree} {target : String} {options : Options} {names : List String}

/-- The paths of a run lead to different places. -/
structure AreApart (tree : FileTree) (target : String) (options : Options)
    (names : List String) : Prop where
  /-- No two sources have the same name. -/
  distinct : names.Nodup
  pages : ((pagePaths target options).map tree.filePlace?).Nodup
  /-- No page for the whole run is written over a file of a source. -/
  elsewhere : ∀ page ∈ pagePaths target options, ∀ name ∈ names, ∀ path ∈ filePaths target name,
    tree.filePlace? path ≠ tree.filePlace? page

theorem nodup_map_filePaths {name : String} (plain : '/' ∉ name.toList)
    (leads : ∀ path ∈ filePaths target name, ∃ place, tree.filePlace? path = some place) :
    ((filePaths target name).map tree.filePlace?).Nodup := by
  rw [filePaths, List.map_map]
  refine List.Nodup.map_on ?_ (by decide +kernel)
  intro ending isEnding other otherIsEnding same
  exact ((filePlace?_filePaths_inj plain plain isEnding otherIsEnding
    (leads _ (List.mem_map_of_mem isEnding)) (leads _ (List.mem_map_of_mem otherIsEnding))).1
      same).2

theorem disjoint_map_filePaths_iff {name other : String} (plain : '/' ∉ name.toList)
    (otherPlain : '/' ∉ other.toList)
    (leads : ∀ path ∈ filePaths target name, ∃ place, tree.filePlace? path = some place)
    (otherLeads : ∀ path ∈ filePaths target other, ∃ place, tree.filePlace? path = some place) :
    ((filePaths target name).map tree.filePlace?).Disjoint
        ((filePaths target other).map tree.filePlace?) ↔ name ≠ other := by
  constructor
  · rintro apart rfl
    have member : tree.filePlace? (join target (name ++ ".html")) ∈
        (filePaths target name).map tree.filePlace? :=
      List.mem_map_of_mem (List.mem_map_of_mem (by decide +kernel))
    exact apart member member
  · intro different place first second
    obtain ⟨_, isPath, rfl⟩ := List.mem_map.1 first
    obtain ⟨_, otherIsPath, same⟩ := List.mem_map.1 second
    obtain ⟨ending, isEnding, rfl⟩ := List.mem_map.1 isPath
    obtain ⟨otherEnding, otherIsEnding, rfl⟩ := List.mem_map.1 otherIsPath
    exact different ((filePlace?_filePaths_inj plain otherPlain isEnding otherIsEnding
      (leads _ isPath) (otherLeads _ otherIsPath)).1 same.symm).1

/-- Paths lead to different places just if names are different and pages are apart. -/
theorem nodup_sitePaths_iff (plain : ∀ name ∈ names, '/' ∉ name.toList)
    (leads : ∀ path ∈ sitePaths target options names, ∃ place,
      tree.filePlace? path = some place) :
    ((sitePaths target options names).map tree.filePlace?).Nodup ↔
      AreApart tree target options names := by
  have fileLeads : ∀ name ∈ names, ∀ path ∈ filePaths target name, ∃ place,
      tree.filePlace? path = some place := fun name member path isPath =>
    leads path (List.mem_append_left _ (List.mem_flatMap.2 ⟨name, member, isPath⟩))
  have names_iff : (names.flatMap fun name => (filePaths target name).map tree.filePlace?).Nodup ↔
      names.Nodup := by
    rw [List.nodup_flatMap, and_iff_right fun name member =>
      nodup_map_filePaths (plain name member) (fileLeads name member)]
    refine List.Pairwise.iff_of_mem fun member otherMember => ?_
    exact disjoint_map_filePaths_iff (plain _ member) (plain _ otherMember) (fileLeads _ member)
      (fileLeads _ otherMember)
  rw [sitePaths, List.map_append, List.map_flatMap, List.nodup_append, names_iff]
  constructor
  · rintro ⟨distinct, pages, apart⟩
    exact ⟨distinct, pages, fun page isPage name member path isPath =>
      apart _ (List.mem_flatMap.2 ⟨name, member, List.mem_map_of_mem isPath⟩) _
        (List.mem_map_of_mem isPage)⟩
  · rintro ⟨distinct, pages, elsewhere⟩
    refine ⟨distinct, pages, fun place isPlace pagePlace isPagePlace => ?_⟩
    obtain ⟨name, member, isPlace⟩ := List.mem_flatMap.1 isPlace
    obtain ⟨path, isPath, rfl⟩ := List.mem_map.1 isPlace
    obtain ⟨page, isPage, rfl⟩ := List.mem_map.1 isPagePlace
    exact elsewhere page isPage name member path isPath

end Apart

end LectureDeck.Site
