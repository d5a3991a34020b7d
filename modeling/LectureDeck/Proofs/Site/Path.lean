import LectureDeck.Proofs.Site.FileTree
import LectureDeck.Proofs.Text.Fields

/-!
# Files of a directory

A file name joined to the path of a directory leads to the file of that name in the directory
(`LectureDeck.Site.FileTree.filePlace?_join`), so that files with different names are different
files. The name of a source never leads out of a directory (`LectureDeck.Site.not_mem_stem`).
-/

namespace LectureDeck.Site

open LectureDeck.Text

section Components

variable {base name : List Char}

/-- A name of a file: no path that leads on, and neither of the two that lead to a directory. -/
structure IsFileName (name : List Char) : Prop where
  plain : '/' ∉ name
  some : name ≠ []
  notHere : name ≠ ['.']
  notParent : name ≠ ['.', '.']

/-- A text to which a name may be added as a component. -/
def EndsOpen (base : List Char) : Prop := base = [] ∨ ∃ front, base = front ++ ['/']

theorem filter_fields_append (ends : EndsOpen base) (isName : IsFileName name) :
    (fields '/' (base ++ name)).filter (fun part => !part.isEmpty) =
      (fields '/' base).filter (fun part => !part.isEmpty) ++ [name] := by
  have whole : fields '/' name = [name] := fields_of_not_mem isName.plain
  have kept : [name].filter (fun part => !part.isEmpty) = [name] :=
    List.filter_eq_self.2 (by simpa using isName.some)
  rcases ends with rfl | ⟨front, rfl⟩
  · rw [List.nil_append, whole, kept]
    rfl
  · rw [List.append_assoc, List.singleton_append, fields_append_cons, fields_append_cons, whole,
      List.filter_append, List.filter_append, kept]
    simp [fields]

theorem head?_append_eq (ends : EndsOpen base) (isName : IsFileName name) :
    ((base ++ name).head? == some '/') = (base.head? == some '/') := by
  cases base with
  | cons c rest => rfl
  | nil =>
    cases name with
    | nil => rfl
    | cons c rest =>
      have other : c ≠ '/' := fun same => isName.plain (same ▸ List.mem_cons_self)
      simpa using other

/-- A name that is joined to a path is the last component of it. -/
theorem components_append (ends : EndsOpen base) (isName : IsFileName name) :
    components (base ++ name) = components base ++ [.name name] := by
  have inner (parts : List (List Char)) :
      ((parts ++ [name]).filter (· != ['.'])).map
          (fun part => if part = ['.', '.'] then Component.parent else .name part) =
        (parts.filter (· != ['.'])).map
          (fun part => if part = ['.', '.'] then Component.parent else .name part) ++
            [.name name] := by
    have kept : [name].filter (· != ['.']) = [name] :=
      List.filter_eq_self.2 (by simpa using isName.notHere)
    rw [List.filter_append, List.map_append, kept, List.map_singleton, if_neg isName.notParent]
  unfold components
  rw [filter_fields_append ends isName, head?_append_eq ends isName]
  generalize (fields '/' base).filter (fun part => !part.isEmpty) = parts
  dsimp only
  split
  · exact congrArg (Component.root :: ·) (inner parts)
  · cases parts with
    | nil =>
      rw [List.nil_append]
      split
      · rename_i same
        exact absurd (List.cons.inj same).1 isName.notHere
      · exact inner []
    | cons first rest =>
      rw [List.cons_append]
      by_cases here : first = ['.']
      · subst here
        exact congrArg (Component.here :: ·) (inner rest)
      · split
        · rename_i same
          exact absurd (List.cons.inj same).1 here
        · split
          · rename_i same
            exact absurd (List.cons.inj same).1 here
          · exact inner (first :: rest)

end Components

section Joining

variable {tree : FileTree} {target name : String} {place : Place}

/-- The path of a directory as names are joined to it. -/
def directoryChars (target : String) : List Char :=
  if target.isEmpty || target.toList.getLast? == some '/' then target.toList
  else target.toList ++ ['/']

theorem endsOpen_directoryChars (target : String) : EndsOpen (directoryChars target) := by
  unfold directoryChars
  split
  · rename_i ends
    rw [Bool.or_eq_true, beq_iff_eq, List.getLast?_eq_some_iff] at ends
    exact ends.imp_left fun empty => String.toList_eq_nil_iff.2 (String.isEmpty_iff.1 empty)
  · exact .inr ⟨_, rfl⟩

theorem toList_join (isName : IsFileName name.toList) :
    (join target name).toList = directoryChars target ++ name.toList := by
  have inside : ¬(name.toList.head? == some '/') = true := by
    rw [beq_iff_eq]
    exact fun same => isName.plain (List.mem_of_head? same)
  unfold join directoryChars
  rw [if_neg inside]
  split
  · rw [String.toList_append]
  · rw [String.toList_append, String.toList_append]
    rfl

/-- A name that is joined to a path leads to the file of that name in the directory. -/
theorem FileTree.filePlace?_join (isName : IsFileName name.toList)
    (found : tree.filePlace? (join target name) = some place) :
    ∃ directory, tree.placeFrom? [] (components (directoryChars target)) = some directory ∧
      place = directory ++ [name] := by
  unfold filePlace? place? at found
  split at found
  · contradiction
  · split at found
    · contradiction
    · rw [toList_join isName, components_append (endsOpen_directoryChars target) isName,
        placeFrom?_append, Option.bind_eq_some_iff] at found
      obtain ⟨directory, way, last⟩ := found
      refine ⟨directory, way, ?_⟩
      unfold placeFrom? at last
      split at last
      · rw [String.ofList_toList] at last
        exact (Option.some.inj last).symm
      · contradiction

/-- Names that are different lead to different files of a directory. -/
theorem FileTree.filePlace?_join_inj {other : String} (isName : IsFileName name.toList)
    (otherIsName : IsFileName other.toList) {otherPlace : Place}
    (found : tree.filePlace? (join target name) = some place)
    (otherFound : tree.filePlace? (join target other) = some otherPlace) :
    place = otherPlace ↔ name = other := by
  obtain ⟨directory, way, rfl⟩ := filePlace?_join isName found
  obtain ⟨same, otherWay, rfl⟩ := filePlace?_join otherIsName otherFound
  cases way.symm.trans otherWay
  simp

end Joining

section Names

theorem mem_fields_of_mem_components {path text : List Char}
    (member : .name text ∈ components path) : text ∈ fields '/' path := by
  have inner {parts : List (List Char)} (inside : ∀ part ∈ parts, part ∈ fields '/' path)
      (member : .name text ∈ (parts.filter (· != ['.'])).map
        fun part => if part = ['.', '.'] then Component.parent else .name part) :
      text ∈ fields '/' path := by
    obtain ⟨part, kept, same⟩ := List.mem_map.1 member
    split at same
    · contradiction
    · cases same
      exact inside _ (List.mem_of_mem_filter kept)
  have kept : ∀ part ∈ (fields '/' path).filter (fun part => !part.isEmpty),
      part ∈ fields '/' path := fun _ => List.mem_of_mem_filter
  unfold components at member
  generalize (fields '/' path).filter (fun part => !part.isEmpty) = parts at kept member
  dsimp only at member
  split at member
  · rcases List.mem_cons.1 member with same | member
    · contradiction
    · exact inner kept member
  · split at member
    · rcases List.mem_cons.1 member with same | member
      · contradiction
      · exact inner (fun part known => kept part (List.mem_cons_of_mem _ known)) member
    · exact inner kept member

theorem splitName_subset (name : List Char) : (splitName name).1 ⊆ name := by
  unfold splitName
  split
  · rename_i after before cuts
    split
    · exact List.Subset.refl _
    · intro c member
      have inside : c ∈ name.reverse := by
        rw [eq_of_cut? cuts]
        exact List.mem_append_right _ (List.mem_cons_of_mem _ (List.mem_reverse.1 member))
      exact List.mem_reverse.1 inside
  · exact List.Subset.refl _

/-- The name of a file is part of the last component of its path. -/
theorem not_mem_stem (path : String) : '/' ∉ (stem path).toList := by
  unfold stem
  split
  · rename_i name found
    unfold fileName? at found
    split at found
    · rename_i last
      cases found
      have whole := not_mem_of_mem_fields (mem_fields_of_mem_components (List.mem_of_getLast? last))
      rw [String.toList_ofList]
      exact fun member => whole (splitName_subset name member)
    · contradiction
  · exact List.not_mem_nil

end Names

end LectureDeck.Site
