import LectureDeck.Proofs.Result
import LectureDeck.Proofs.Site.FileTree
import LectureDeck.Site.Build

/-!
# Files written one after another

When files are written one after another, each place holds what was written there last, and what
it held before if nothing was (`LectureDeck.Site.writes_of_writeRun`).
-/

namespace LectureDeck.Site

/-- The last of several files that is written at a place. -/
def FileTree.lastAt? (tree : FileTree) (files : List Artifact) (place : Place) :
    Option Artifact :=
  files.reverse.find? fun artifact => tree.filePlace? artifact.path = some place

/-- Files are written to a tree, one after another. -/
structure Writes (tree after : FileTree) (files : List Artifact) : Prop where
  /-- Every path leads to a place. -/
  leads : ∀ artifact ∈ files, ∃ place, after.filePlace? artifact.path = some place
  texts : ∀ place, after.text? place =
    ((after.lastAt? files place).map Artifact.content).or (tree.text? place)
  /-- Places that were found are found. -/
  keeps : ∀ path place, tree.filePlace? path = some place → after.filePlace? path = some place

namespace FileTree

variable {tree after : FileTree} {files : List Artifact} {place : Place}

theorem lastAt?_congr (same : after.directories = tree.directories) (files : List Artifact)
    (place : Place) : after.lastAt? files place = tree.lastAt? files place := by
  simp only [lastAt?, filePlace?_congr same]

theorem lastAt?_append (tree : FileTree) (first rest : List Artifact) (place : Place) :
    tree.lastAt? (first ++ rest) place =
      (tree.lastAt? rest place).or (tree.lastAt? first place) := by
  rw [lastAt?, List.reverse_append, List.find?_append]
  rfl

theorem lastAt?_cons (tree : FileTree) (artifact : Artifact) (rest : List Artifact)
    (place : Place) : tree.lastAt? (artifact :: rest) place = (tree.lastAt? rest place).or
      (if tree.filePlace? artifact.path = some place then some artifact else none) := by
  rw [← List.singleton_append, lastAt?_append, lastAt?, lastAt?, List.reverse_singleton,
    List.find?_singleton]
  simp only [decide_eq_true_eq]

theorem lastAt?_eq_none (elsewhere : ∀ artifact ∈ files,
    tree.filePlace? artifact.path ≠ some place) : tree.lastAt? files place = none := by
  refine List.find?_eq_none.2 fun artifact member => ?_
  rw [decide_eq_true_eq]
  exact elsewhere artifact (List.mem_reverse.1 member)

end FileTree

section Reading

variable {tree after : FileTree} {files : List Artifact} {path text : String}

/-- A file is read that nothing was written over. -/
theorem Writes.read?_of_last {first rest : List Artifact} {artifact : Artifact}
    (writes : Writes tree after (first ++ artifact :: rest))
    (last : ∀ other ∈ rest, after.filePlace? other.path ≠ after.filePlace? artifact.path) :
    after.read? artifact.path = some artifact.content := by
  obtain ⟨place, leads⟩ := writes.leads artifact (by simp)
  have none : after.lastAt? rest place = none :=
    FileTree.lastAt?_eq_none fun other member => leads ▸ last other member
  rw [FileTree.read?, leads, Option.bind_some, writes.texts, FileTree.lastAt?_append,
    FileTree.lastAt?_cons, none, if_pos leads]
  rfl

/-- A file is read as it was if nothing was written over it. -/
theorem Writes.read?_of_elsewhere (writes : Writes tree after files)
    (reads : tree.read? path = some text)
    (elsewhere : ∀ artifact ∈ files, after.filePlace? artifact.path ≠ after.filePlace? path) :
    after.read? path = some text := by
  obtain ⟨place, leads, there⟩ := Option.bind_eq_some_iff.1 reads
  have found := writes.keeps path place leads
  have none : after.lastAt? files place = none :=
    FileTree.lastAt?_eq_none fun artifact member => found ▸ elsewhere artifact member
  rw [FileTree.read?, found, Option.bind_some, writes.texts, none, there]
  rfl

end Reading

section Writing

variable {tree after : FileTree} {files : List Artifact}

/-- A run of writing puts texts where the paths lead. -/
theorem exists_of_writeAll (written : writeAll tree files = (after, .ok ())) :
    after.directories = tree.directories ∧
      (∀ artifact ∈ files, ∃ place, tree.filePlace? artifact.path = some place) ∧
      ∀ place, after.text? place =
        ((tree.lastAt? files place).map Artifact.content).or (tree.text? place) := by
  induction files generalizing tree with
  | nil =>
    cases written
    exact ⟨rfl, nofun, fun place => rfl⟩
  | cons artifact rest later =>
    unfold writeAll at written
    split at written
    · rename_i middle first
      obtain ⟨place, leads, rfl⟩ := FileTree.exists_of_write? first
      obtain ⟨directories, others, texts⟩ := later written
      have same : (tree.put place artifact.content).directories = tree.directories := rfl
      refine ⟨directories, List.forall_mem_cons.2 ⟨⟨place, leads⟩, fun other member => ?_⟩,
        fun there => ?_⟩
      · rw [← FileTree.filePlace?_put tree place artifact.content]
        exact others other member
      · rw [texts, FileTree.lastAt?_congr same, FileTree.lastAt?_cons, FileTree.text?_put, leads]
        cases tree.lastAt? rest there with
        | some last => rfl
        | none =>
          by_cases here : there = place
          · rw [if_pos here, if_pos (congrArg some here.symm)]
            rfl
          · rw [if_neg here, if_neg fun same => here (Option.some.inj same).symm]
            rfl
    · cases written

/-- Files are written if their paths lead to places that are no directories. -/
theorem exists_writeAll (ready : ∀ artifact ∈ files,
    (tree.filePlace? artifact.path).any (fun place => !tree.isDirectory place) = true) :
    ∃ after, writeAll tree files = (after, .ok ()) := by
  induction files generalizing tree with
  | nil => exact ⟨tree, rfl⟩
  | cons artifact rest later =>
    obtain ⟨first, others⟩ := List.forall_mem_cons.1 ready
    obtain ⟨place, leads, free⟩ := (Option.any_eq_true _ _).1 first
    have written : tree.write? artifact.path artifact.content =
        some (tree.put place artifact.content) := by
      rw [FileTree.write?, leads]
      simpa using free
    have same : (tree.put place artifact.content).filePlace? = tree.filePlace? :=
      funext (FileTree.filePlace?_put tree place artifact.content)
    have ready : ∀ other ∈ rest, ((tree.put place artifact.content).filePlace? other.path).any
        (fun place => !tree.isDirectory place) = true := by rwa [same]
    obtain ⟨after, done⟩ := later ready
    refine ⟨after, ?_⟩
    rw [writeAll, written]
    exact done

/-- **Each place holds what was written there last.** -/
theorem writes_of_writeRun {target : String} {options : Options} {run : Run Float}
    {written : List String} (wrote : writeRun tree target options run = (after, .ok written)) :
    written = (artifacts target options run).map Artifact.path ∧
      Writes tree after (artifacts target options run) := by
  unfold writeRun at wrote
  split at wrote
  · cases wrote
  · rename_i made ready
    dsimp only at wrote
    cases outcome : writeAll made (artifacts target options run) with
    | mk last result =>
      rw [outcome] at wrote
      cases result with
      | error error => cases wrote
      | ok _ =>
        cases wrote
        obtain ⟨directories, leads, texts⟩ := exists_of_writeAll outcome
        have same : (tree.makeDirectories target).1 = made := congrArg Prod.fst ready
        refine ⟨rfl, fun artifact member => ?_, fun place => ?_, fun path place found => ?_⟩
        · rw [FileTree.filePlace?_congr directories]
          exact leads artifact member
        · rw [texts, FileTree.lastAt?_congr directories, ← same, FileTree.text?_makeDirectories]
        · rw [FileTree.filePlace?_congr directories, ← same]
          exact FileTree.filePlace?_makeDirectories target found

end Writing

end LectureDeck.Site
