import LectureDeck.Site.FileTree
import Mathlib.Data.List.Basic

/-!
# What a path leads to

A path leads to a place by the directories on the way alone. So it leads to the same place after a
file is written (`LectureDeck.Site.FileTree.filePlace?_put`), and after directories are made if it
led somewhere before (`LectureDeck.Site.FileTree.filePlace?_makeDirectories`).
-/

namespace LectureDeck.Site.FileTree

variable {tree after : FileTree} {place other : Place} {path text : String}

section Writing

theorem lookup_filter_ne (files : List (Place × String)) (different : other ≠ place) :
    (files.filter fun file => file.1 != place).lookup other = files.lookup other := by
  induction files with
  | nil => rfl
  | cons file rest later =>
    obtain ⟨there, text⟩ := file
    by_cases same : there = place
    · have apart : (other == there) = false := beq_eq_false_iff_ne.2 (same ▸ different)
      rw [List.filter_cons_of_neg (by simp [same]), later, List.lookup_cons, apart]
    · rw [List.filter_cons_of_pos (by simp [same]), List.lookup_cons, List.lookup_cons, later]

theorem text?_put (tree : FileTree) (place other : Place) (text : String) :
    (tree.put place text).text? other = if other = place then some text else tree.text? other := by
  rw [put, text?, List.lookup_cons]
  by_cases same : other = place
  · rw [if_pos same, beq_iff_eq.2 same]
  · rw [if_neg same, beq_eq_false_iff_ne.2 same, lookup_filter_ne _ same]
    rfl

/-- A file is written at the place that its path leads to. -/
theorem exists_of_write? (written : tree.write? path text = some after) :
    ∃ place, tree.filePlace? path = some place ∧ after = tree.put place text := by
  unfold write? at written
  cases found : tree.filePlace? path with
  | none =>
    rw [found] at written
    contradiction
  | some place =>
    rw [found] at written
    simp only [Option.bind_eq_bind, Option.bind_some] at written
    split at written
    · contradiction
    · cases written
      exact ⟨place, rfl, rfl⟩

end Writing

section Directories

/-- A directory of a tree is one of another. -/
def KeepsDirectories (tree after : FileTree) : Prop :=
  ∀ place, tree.isDirectory place = true → after.isDirectory place = true

theorem keepsDirectories_of_subset (inside : tree.directories ⊆ after.directories) :
    tree.KeepsDirectories after := by
  intro place directory
  unfold isDirectory at directory ⊢
  rw [Bool.or_eq_true, List.contains_iff_mem] at directory ⊢
  exact directory.imp_right fun member => inside member

/-- A place that was found is still found when there are more directories. -/
theorem placeFrom?_of_keeps (keeps : tree.KeepsDirectories after) {components : List Component}
    {start : Place} (found : tree.placeFrom? start components = some place) :
    after.placeFrom? start components = some place := by
  induction components generalizing start with
  | nil => exact found
  | cons component rest later =>
    cases component with
    | root => exact later found
    | here => exact later found
    | parent =>
      unfold placeFrom? at found ⊢
      split at found
      · rename_i directory
        rw [if_pos (keeps start directory)]
        exact later found
      · contradiction
    | name name =>
      unfold placeFrom? at found ⊢
      split at found
      · rename_i within
        rw [Bool.and_eq_true] at within
        rw [if_pos (Bool.and_eq_true_iff.2 ⟨keeps start within.1, within.2⟩)]
        exact later found
      · contradiction

theorem filePlace?_of_keeps (keeps : tree.KeepsDirectories after)
    (found : tree.filePlace? path = some place) : after.filePlace? path = some place := by
  unfold filePlace? place? at found ⊢
  split at found
  · contradiction
  · rename_i file
    split at found
    · contradiction
    · rename_i way
      rw [if_neg file, if_neg way]
      exact placeFrom?_of_keeps keeps found

/-- Paths lead where they did if the directories are the same. -/
theorem filePlace?_congr (same : after.directories = tree.directories) (path : String) :
    after.filePlace? path = tree.filePlace? path := by
  have keeps : tree.KeepsDirectories after := keepsDirectories_of_subset (same ▸ List.Subset.refl _)
  have back : after.KeepsDirectories tree := keepsDirectories_of_subset (same ▸ List.Subset.refl _)
  exact Option.ext fun place =>
    ⟨fun found => filePlace?_of_keeps back found, fun found => filePlace?_of_keeps keeps found⟩

theorem filePlace?_put (tree : FileTree) (place : Place) (text path : String) :
    (tree.put place text).filePlace? path = tree.filePlace? path := by
  have same : (tree.put place text).directories = tree.directories := rfl
  exact filePlace?_congr same path

/-- Making directories adds to them, and leaves the files alone. -/
theorem directoriesFrom_adds (tree : FileTree) (start : Place) (lastExists : Bool)
    (components : List Component) :
    (tree.directoriesFrom start lastExists components).1.files = tree.files ∧
      tree.directories ⊆ (tree.directoriesFrom start lastExists components).1.directories := by
  induction components generalizing tree start with
  | nil => exact ⟨rfl, List.Subset.refl _⟩
  | cons component rest later =>
    cases component with
    | root => exact later tree Place.root
    | here => exact later tree start
    | parent => exact later tree start.up
    | name name =>
      unfold directoriesFrom
      dsimp only
      split
      · exact later tree _
      · split
        · exact ⟨rfl, List.Subset.refl _⟩
        · obtain ⟨files, inside⟩ := later
            { tree with directories := (start ++ [String.ofList name]) :: tree.directories }
            (start ++ [String.ofList name])
          exact ⟨files, List.Subset.trans (List.subset_cons_self _ _) inside⟩

theorem makeDirectories_adds (tree : FileTree) (path : String) :
    (tree.makeDirectories path).1.files = tree.files ∧
      tree.directories ⊆ (tree.makeDirectories path).1.directories := by
  unfold makeDirectories
  split
  · exact directoriesFrom_adds tree [] _ _
  · exact ⟨rfl, List.Subset.refl _⟩

theorem text?_makeDirectories (tree : FileTree) (path : String) (place : Place) :
    (tree.makeDirectories path).1.text? place = tree.text? place := by
  rw [text?, text?, (makeDirectories_adds tree path).1]

theorem filePlace?_makeDirectories (target : String) (found : tree.filePlace? path = some place) :
    (tree.makeDirectories target).1.filePlace? path = some place :=
  filePlace?_of_keeps (keepsDirectories_of_subset (makeDirectories_adds tree target).2) found

end Directories

section Names

/-- The way to a place is gone component by component. -/
theorem placeFrom?_append (tree : FileTree) (start : Place) (first rest : List Component) :
    tree.placeFrom? start (first ++ rest) =
      (tree.placeFrom? start first).bind fun place => tree.placeFrom? place rest := by
  induction first generalizing start with
  | nil => rfl
  | cons component first later =>
    cases component with
    | root => exact later Place.root
    | here => exact later start
    | parent =>
      rw [List.cons_append, placeFrom?, placeFrom?]
      split
      · exact later start.up
      · rfl
    | name name =>
      rw [List.cons_append, placeFrom?, placeFrom?]
      split
      · exact later _
      · rfl

end Names

end LectureDeck.Site.FileTree
