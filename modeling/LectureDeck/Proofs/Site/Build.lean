import LectureDeck.Proofs.Deck.Records
import LectureDeck.Proofs.Outline.Reads
import LectureDeck.Proofs.Site.Places
import LectureDeck.Proofs.Site.Sources
import LectureDeck.Proofs.Site.Writing

/-!
# Builds

Where a site is built, a source has a page, a record that verifies it, and a sheet, if no later
source has the same name and no page for the whole run is written over them
(`LectureDeck.Site.isBuilt_build`). But they are named for the last part of the path of the source
alone, so that sources of different directories may share them, and then those of the last one are
left (`LectureDeck.Site.exists_build_not_holdsOwn`).
-/

namespace LectureDeck.Site

open LectureDeck.Text

section Building

variable {tree after : FileTree} {config : Config} {paths : List String} {target : String}
  {sources : List SourceFile} {run : Run Float} {written : List String}

/-- A site whose sources are compiled and whose files are written. -/
structure IsWritten (tree after : FileTree) (config : Config) (target : String)
    (sources : List SourceFile) (run : Run Float) (written : List String) : Prop where
  compiled : ∃ environment, IsEnvironment config environment ∧
    AreCompiled environment sources run.files
  paths : written = sitePaths target config.options (sources.map SourceFile.name)
  /-- Each place holds what was written there last. -/
  writes : Writes tree after (artifacts target config.options run)

theorem isWritten_of_build (collected : collect tree config paths = .ok sources)
    (built : build tree config paths target = (after, .ok (run, written))) :
    IsWritten tree after config target sources run written := by
  rw [build, compilePaths_eq collected] at built
  cases compiles : compileSite config sources with
  | error error =>
    rw [compiles] at built
    cases built
  | ok found =>
    rw [compiles] at built
    dsimp only at built
    cases wrote : writeRun tree target config.options found with
    | mk last result =>
      rw [wrote] at built
      cases result with
      | error error => cases built
      | ok names =>
        cases built
        obtain ⟨environment, isEnvironment, each⟩ := exists_of_compileSite compiles
        obtain ⟨paths, writes⟩ := writes_of_writeRun wrote
        rw [map_path_artifacts, each.map_name] at paths
        exact ⟨⟨environment, isEnvironment, each⟩, paths, writes⟩

namespace IsWritten

variable (isWritten : IsWritten tree after config target sources run written)

include isWritten

theorem map_path : (artifacts target config.options run).map Artifact.path = written := by
  obtain ⟨environment, -, each⟩ := isWritten.compiled
  rw [map_path_artifacts, each.map_name, isWritten.paths]

/-- A file is read as it was before if nothing was written over it. -/
theorem read?_of_elsewhere {path text : String} (reads : tree.read? path = some text)
    (spared : ∀ other ∈ written, after.filePlace? other ≠ after.filePlace? path) :
    after.read? path = some text := by
  rw [← isWritten.map_path, List.forall_mem_map] at spared
  exact isWritten.writes.read?_of_elsewhere reads spared

theorem leads : ∀ path ∈ written, ∃ place, after.filePlace? path = some place := by
  rw [← isWritten.map_path]
  exact List.forall_mem_map.2 isWritten.writes.leads

theorem not_mem_name : ∀ file ∈ run.files, '/' ∉ file.name.toList := by
  obtain ⟨environment, -, each⟩ := isWritten.compiled
  have names : ∀ name ∈ sources.map SourceFile.name, '/' ∉ name.toList :=
    List.forall_mem_map.2 fun source _ => not_mem_stem source.path
  rw [← each.map_name, List.forall_mem_map] at names
  exact names

theorem leads_filePaths : ∀ file ∈ run.files, ∀ path ∈ filePaths target file.name,
    ∃ place, after.filePlace? path = some place := by
  intro file member path isPath
  refine isWritten.leads path ?_
  rw [← isWritten.map_path, map_path_artifacts]
  exact List.mem_append_left _
    (List.mem_flatMap.2 ⟨file.name, List.mem_map_of_mem member, isPath⟩)

/-- The files of a source are read that nothing was written over. -/
theorem read?_fileArtifact {before later : List (Compiled Float)} {file : Compiled Float}
    (parts : run.files = before ++ file :: later) (last : ∀ other ∈ later, file.name ≠ other.name)
    (pages : ∀ page ∈ pagePaths target config.options, ∀ path ∈ filePaths target file.name,
      after.filePlace? path ≠ after.filePlace? page) :
    ∀ artifact ∈ fileArtifacts target file, after.read? artifact.path = some artifact.content := by
  intro artifact member
  obtain ⟨first, rest, own⟩ := List.append_of_mem member
  have paths : filePaths target file.name =
      first.map Artifact.path ++ artifact.path :: rest.map Artifact.path :=
    (congrArg (List.map Artifact.path) own).trans (by simp)
  have whole : artifacts target config.options run =
      (before.flatMap (fileArtifacts target) ++ first) ++ artifact ::
        (rest ++ (later.flatMap (fileArtifacts target) ++
          runArtifacts target config.options run)) := by
    simp [artifacts, parts, own]
  have plain := isWritten.not_mem_name
  have leads := isWritten.leads_filePaths
  have writes := isWritten.writes
  rw [whole] at writes
  have isFile : file ∈ run.files := parts ▸ by simp
  have isPath : artifact.path ∈ filePaths target file.name := paths ▸ by simp
  refine writes.read?_of_last fun other isOther => ?_
  rcases List.mem_append.1 isOther with isRest | isOther
  · -- The files of a source are apart from each other.
    have distinct := nodup_map_filePaths (plain file isFile) (leads file isFile)
    rw [paths, List.map_append, List.map_cons] at distinct
    intro same
    exact distinct.of_append_right.notMem
      (same ▸ List.mem_map_of_mem (List.mem_map_of_mem isRest))
  · rcases List.mem_append.1 isOther with isLater | isPage
    · obtain ⟨next, known, isOther⟩ := List.mem_flatMap.1 isLater
      have isNext : next ∈ run.files := parts ▸ by simp [known]
      have apart := (disjoint_map_filePaths_iff (plain file isFile) (plain next isNext)
        (leads file isFile) (leads next isNext)).2 (last next known)
      intro same
      exact apart (List.mem_map_of_mem isPath)
        (same ▸ List.mem_map_of_mem (List.mem_map_of_mem (f := Artifact.path) isOther))
    · have isPage : other.path ∈ pagePaths target config.options :=
        List.mem_map_of_mem (f := Artifact.path) isPage
      exact (pages other.path isPage artifact.path isPath).symm

end IsWritten

/-- A site is built if its sources compile and its paths lead somewhere in the directory made. -/
theorem exists_build (target : String) (collected : collect tree config paths = .ok sources)
    (compiles : compileSite config sources = .ok run)
    (ready : (tree.makeDirectories target).2 = true)
    (leads : ∀ path ∈ sitePaths target config.options (sources.map SourceFile.name),
      ((tree.makeDirectories target).1.filePlace? path).any
        (fun place => !(tree.makeDirectories target).1.isDirectory place) = true) :
    ∃ after written, build tree config paths target = (after, .ok (run, written)) ∧
      after.filePlace? = (tree.makeDirectories target).1.filePlace? := by
  obtain ⟨environment, -, each⟩ := exists_of_compileSite compiles
  rw [← each.map_name, ← map_path_artifacts, List.forall_mem_map] at leads
  obtain ⟨after, done⟩ := exists_writeAll leads
  have made : tree.makeDirectories target = ((tree.makeDirectories target).1, true) :=
    Prod.ext rfl ready
  refine ⟨after, (artifacts target config.options run).map Artifact.path, ?_,
    funext (FileTree.filePlace?_congr (exists_of_writeAll done).1)⟩
  rw [build, compilePaths_eq collected, compiles]
  dsimp only
  rw [writeRun, made]
  dsimp only
  rw [done]
  rfl

end Building

section Verifying

variable {after : FileTree} {path other record text otherText found otherFound : String}

/-- A record verifies a source only with the digest that it keeps. -/
theorem exists_of_verifyFile (verifies : verifyFile after path record none = .ok found)
    (reads : after.read? path = some text) : ∃ stored reading, after.read? record = some stored ∧
      (Json.read? stored).bind Record.decode? = some reading ∧
      digest (Source.ofText text.toList).text = reading.digest := by
  rw [verifyFile, readFile, reads] at verifies
  cases keeps : after.read? record with
  | none =>
    rw [readFile, keeps] at verifies
    contradiction
  | some stored =>
    simp only [readFile, keeps, bind_eq_ok] at verifies
    obtain ⟨_, same, _, also, verifies⟩ := verifies
    cases same
    cases also
    cases decoded : (Json.read? stored).bind Record.decode? with
    | none =>
      rw [decoded] at verifies
      contradiction
    | some reading =>
      rw [decoded] at verifies
      simp only [bind_eq_ok, mapError_eq_ok] at verifies
      obtain ⟨slides, agrees, -⟩ := verifies
      obtain ⟨outline, _, outlined, -⟩ := Outline.exists_tiles (Source.ofText text.toList).text
      exact ⟨stored, reading, rfl, decoded, ((verify_eq_ok_iff outlined).1 agrees).1⟩

/-- Sources that one record verifies have the same digest. -/
theorem digest_eq_of_verifyFile (verifies : verifyFile after path record none = .ok found)
    (otherVerifies : verifyFile after other record none = .ok otherFound)
    (reads : after.read? path = some text) (otherReads : after.read? other = some otherText) :
    digest (Source.ofText text.toList).text = digest (Source.ofText otherText.toList).text := by
  obtain ⟨stored, reading, keeps, decoded, first⟩ := exists_of_verifyFile verifies reads
  obtain ⟨_, _, alsoKeeps, alsoDecoded, second⟩ := exists_of_verifyFile otherVerifies otherReads
  cases keeps.symm.trans alsoKeeps
  cases decoded.symm.trans alsoDecoded
  exact first.trans second.symm

end Verifying

section Holding

variable {tree after : FileTree} {config : Config} {paths : List String} {target : String}
  {sources : List SourceFile} {run : Run Float} {written : List String}

/-- A source has a page and a sheet of its own, and a record that verifies it. -/
structure HoldsOwn (after : FileTree) (target : String) (source : SourceFile)
    (file : Compiled Float) : Prop where
  page : after.read? (join target (source.name ++ ".html")) =
    some (Site.page (file.model.header.getD source.name) file.page)
  sheet : after.read? (join target (source.name ++ ".sheet.json")) =
    some ((SheetAttributes.ofModel file.model).encode Json.ofFloat Json.ofFloat).pretty
  verified : verifyFile after source.path (join target (source.name ++ ".record.json")) none =
    .ok (String.ofList (Source.ofText source.text.toList).text)

/-- Nothing is written over the files of a source, or over the source itself. -/
structure IsSpared (after : FileTree) (target : String) (options : Options)
    (sources : List SourceFile) (index : Nat) (source : SourceFile) : Prop where
  /-- No later source has the same name. -/
  last : ∀ other ∈ sources.drop (index + 1), source.name ≠ other.name
  pages : ∀ page ∈ pagePaths target options, ∀ path ∈ filePaths target source.name,
    after.filePlace? path ≠ after.filePlace? page
  source : ∀ path ∈ sitePaths target options (sources.map SourceFile.name),
    after.filePlace? path ≠ after.filePlace? source.path

/-- A site that is built from sources, and what they have then. -/
structure IsBuilt (tree after : FileTree) (config : Config) (target : String)
    (sources : List SourceFile) (run : Run Float) (written : List String) : Prop
    extends IsWritten tree after config target sources run written where
  apart : (written.map after.filePlace?).Nodup ↔
    AreApart after target config.options (sources.map SourceFile.name)
  /-- A source whose size is a word has its own files if it is spared. -/
  own : ∀ (index : Nat) source file, sources[index]? = some source →
    run.files[index]? = some file →
    IsSpared after target config.options sources index source →
    byteSize source.text.toList < Json.wordBound → HoldsOwn after target source file
  /-- All sources have their own if no file is written over another, or over a source. -/
  all : AreApart after target config.options (sources.map SourceFile.name) →
    (∀ source ∈ sources, ∀ path ∈ written, after.filePlace? path ≠ after.filePlace? source.path) →
    (∀ source ∈ sources, byteSize source.text.toList < Json.wordBound) →
      written.Nodup ∧ List.Forall₂ (HoldsOwn after target) sources run.files

namespace IsWritten

variable (isWritten : IsWritten tree after config target sources run written)

include isWritten

theorem holdsOwn (collected : collect tree config paths = .ok sources) {index : Nat}
    {source : SourceFile} {file : Compiled Float} (place : sources[index]? = some source)
    (filePlace : run.files[index]? = some file)
    (spared : IsSpared after target config.options sources index source)
    (small : byteSize source.text.toList < Json.wordBound) : HoldsOwn after target source file := by
  obtain ⟨environment, -, each⟩ := isWritten.compiled
  obtain ⟨inside, rfl⟩ := List.getElem?_eq_some_iff.1 place
  obtain ⟨fileInside, rfl⟩ := List.getElem?_eq_some_iff.1 filePlace
  have compiles := (List.forall₂_iff_get.1 each).2 index inside fileInside
  simp only [List.get_eq_getElem] at compiles
  have name := (Compiled.place_of_compile compiles).2
  have parts : run.files = run.files.take index ++ run.files[index] ::
      run.files.drop (index + 1) := by
    rw [← List.drop_eq_getElem_cons, List.take_append_drop]
  have names : (run.files.drop (index + 1)).map Compiled.name =
      (sources.drop (index + 1)).map SourceFile.name := by
    rw [List.map_drop, List.map_drop, each.map_name]
  have last : ∀ other ∈ run.files.drop (index + 1), run.files[index].name ≠ other.name := by
    intro other member
    have known : other.name ∈ (sources.drop (index + 1)).map SourceFile.name :=
      names ▸ List.mem_map_of_mem member
    obtain ⟨source, isLater, same⟩ := List.mem_map.1 known
    rw [name, ← same]
    exact spared.last source isLater
  have own := isWritten.read?_fileArtifact parts last (name ▸ spared.pages)
  simp only [fileArtifacts, name, List.forall_mem_cons] at own
  obtain ⟨page, stored, sheet, -⟩ := own
  obtain ⟨record, slides, decoded, agrees, text⟩ := Compiled.exists_verify_stored compiles small
  refine ⟨page, sheet, ?_⟩
  have reads := read?_of_collect collected _ (List.getElem_mem inside)
  rw [verifyFile, readFile, isWritten.read?_of_elsewhere reads (isWritten.paths ▸ spared.source),
    readFile, stored]
  simp only [bind_eq_ok]
  refine ⟨_, rfl, _, rfl, ?_⟩
  rw [decoded]
  simp only [agrees, bind_eq_ok, mapError_eq_ok]
  exact ⟨slides, rfl, by rw [text]⟩

/-- The places written to are different just if the sources have different names, and the pages for
the whole run are apart. -/
theorem nodup_iff : (written.map after.filePlace?).Nodup ↔
    AreApart after target config.options (sources.map SourceFile.name) := by
  have leads := isWritten.leads
  rw [isWritten.paths] at leads ⊢
  exact nodup_sitePaths_iff (List.forall_mem_map.2 fun source _ => not_mem_stem source.path) leads

/-- Where no file is written over another, all sources are spared. -/
theorem isSpared (apart : AreApart after target config.options (sources.map SourceFile.name))
    (spared : ∀ source ∈ sources, ∀ path ∈ written,
      after.filePlace? path ≠ after.filePlace? source.path) {index : Nat}
    (inside : index < sources.length) :
    IsSpared after target config.options sources index sources[index] where
  last := by
    have distinct := apart.distinct.sublist (List.drop_sublist index _)
    rw [← List.map_drop, List.drop_eq_getElem_cons inside, List.map_cons] at distinct
    intro other member same
    exact distinct.notMem (same ▸ List.mem_map_of_mem member)
  pages page isPage := apart.elsewhere page isPage _ (List.mem_map_of_mem (List.getElem_mem inside))
  source := isWritten.paths ▸ spared _ (List.getElem_mem inside)

end IsWritten

end Holding

section Lectures

/-- Two lectures of a line each. -/
def lectures (first second : String) : List SourceFile := [⟨first, "A\n"⟩, ⟨second, "B\n"⟩]

/-- The files that are there before anything is written. -/
def treeOf (sources : List SourceFile) : FileTree :=
  .ofFiles (sources.map fun source => (source.path, source.text))

theorem exists_compile_line :
    ∀ lecture ∈ [("a", 1, "A\n"), ("b", 2, "B\n"), ("x", 1, "A\n"), ("x", 2, "B\n")],
      ∃ file : Compiled Float, compile .plain lecture.2.1 lecture.1 lecture.2.2 = .ok file := by
  have compiles {fileNumber : Nat} {name text : String} (seen : (Compiled.read (W := Float) .plain
      fileNumber name (Source.ofText text.toList)).toOption.any (fun _ => true) = true) :
      ∃ file : Compiled Float, compile .plain fileNumber name text = .ok file := by
    obtain ⟨reading, compiles, -⟩ := Compiled.exists_compile_of_any seen
    exact ⟨_, compiles⟩
  simp only [List.forall_mem_cons]
  refine ⟨?_, ?_, ?_, ?_, nofun⟩
  all_goals
    apply compiles
    unfold Compiled.read Compiled.findSetting
    rw [Outline.ofSource_eq_within 20 (by decide +kernel)]
    decide +kernel

theorem exists_compileSite_lectures (first second : String)
    (compilesFirst : ∃ file : Compiled Float, compile .plain 1 (stem first) "A\n" = .ok file)
    (compilesSecond : ∃ file : Compiled Float, compile .plain 2 (stem second) "B\n" = .ok file) :
    ∃ run, compileSite {} (lectures first second) = .ok run := by
  obtain ⟨file, compiles⟩ := compilesFirst
  obtain ⟨other, alsoCompiles⟩ := compilesSecond
  refine ⟨Run.ofFiles Environment.plain.options [file, other], ?_⟩
  simp only [compileSite, bind_eq_ok, mapError_eq_ok]
  refine ⟨.plain, rfl, Run.ofSources_eq_ok_iff.2 ⟨_, ?_, rfl⟩⟩
  simp only [lectures, Run.compileFiles, SourceFile.name, bind_eq_ok, pure_eq_ok]
  exact ⟨file, compiles, _, ⟨other, alsoCompiles, [], rfl, rfl⟩, rfl⟩

end Lectures

section Results

variable {tree after : FileTree} {config : Config} {paths : List String} {target : String}
  {sources : List SourceFile} {run : Run Float} {written : List String}

/-- **A site is built as its sources say.** A source has a page, a record and a sheet of its own,
unless a later one has the same name, or pages for the whole run are written over one of them. What
is written is told apart if no two sources have the same name, and the pages are apart. -/
theorem isBuilt_build (collected : collect tree config paths = .ok sources)
    (built : build tree config paths target = (after, .ok (run, written))) :
    IsBuilt tree after config target sources run written := by
  have isWritten := isWritten_of_build collected built
  obtain ⟨environment, -, each⟩ := isWritten.compiled
  refine ⟨isWritten, isWritten.nodup_iff, fun _ _ _ => isWritten.holdsOwn collected,
    fun apart spared small => ⟨(isWritten.nodup_iff.2 apart).of_map,
      List.forall₂_iff_get.2 ⟨each.length_eq, ?_⟩⟩⟩
  intro index inside fileInside
  exact isWritten.holdsOwn collected (List.getElem?_eq_getElem inside)
    (List.getElem?_eq_getElem fileInside)
    (isWritten.isSpared apart spared inside) (small _ (List.getElem_mem inside))

/-- Two lectures with names of their own have their own files. -/
theorem isBuilt_build_lectures : ∃ after run written,
    collect (treeOf (lectures "a.md" "b.md")) {} ["a.md", "b.md"] =
        .ok (lectures "a.md" "b.md") ∧
      build (treeOf (lectures "a.md" "b.md")) {} ["a.md", "b.md"] "out" =
        (after, .ok (run, written)) ∧
      IsBuilt (treeOf (lectures "a.md" "b.md")) after {} "out" (lectures "a.md" "b.md") run
        written ∧
      written.Nodup ∧
      List.Forall₂ (HoldsOwn after "out") (lectures "a.md" "b.md") run.files := by
  have collected : collect (treeOf (lectures "a.md" "b.md")) {} ["a.md", "b.md"] =
      .ok (lectures "a.md" "b.md") := rfl
  obtain ⟨run, compiles⟩ := exists_compileSite_lectures "a.md" "b.md"
    (exists_compile_line ("a", 1, "A\n") (by decide +kernel))
    (exists_compile_line ("b", 2, "B\n") (by decide +kernel))
  obtain ⟨after, written, built, places⟩ := exists_build "out" collected compiles
    (by decide +kernel) (by decide +kernel)
  have isBuilt := isBuilt_build collected built
  have apart : AreApart after "out" {} ((lectures "a.md" "b.md").map SourceFile.name) := by
    constructor
    · decide +kernel
    · rw [places]
      decide +kernel
    · rw [places]
      decide +kernel
  refine ⟨after, run, written, collected, built, isBuilt, isBuilt.all apart ?_ (by decide +kernel)⟩
  rw [isBuilt.paths, places]
  decide +kernel

/-- Lectures of two directories that have the same name share their files. What is written is not
told apart, and the record that is left verifies one of them only. -/
theorem exists_build_not_holdsOwn : ∃ after run written,
    collect (treeOf (lectures "a/x.md" "b/x.md")) {} ["a/x.md", "b/x.md"] =
        .ok (lectures "a/x.md" "b/x.md") ∧
      build (treeOf (lectures "a/x.md" "b/x.md")) {} ["a/x.md", "b/x.md"] "out" =
        (after, .ok (run, written)) ∧
      ¬written.Nodup ∧
      ¬List.Forall₂ (HoldsOwn after "out") (lectures "a/x.md" "b/x.md") run.files := by
  have collected : collect (treeOf (lectures "a/x.md" "b/x.md")) {} ["a/x.md", "b/x.md"] =
      .ok (lectures "a/x.md" "b/x.md") := rfl
  obtain ⟨run, compiles⟩ := exists_compileSite_lectures "a/x.md" "b/x.md"
    (exists_compile_line ("x", 1, "A\n") (by decide +kernel))
    (exists_compile_line ("x", 2, "B\n") (by decide +kernel))
  obtain ⟨after, written, built, places⟩ := exists_build "out" collected compiles
    (by decide +kernel) (by decide +kernel)
  have isWritten := isWritten_of_build collected built
  refine ⟨after, run, written, collected, built, ?_, fun own => ?_⟩
  · rw [isWritten.paths]
    decide +kernel
  · have untouched : ∀ source ∈ lectures "a/x.md" "b/x.md",
        after.read? source.path = some source.text := by
      intro source member
      refine isWritten.read?_of_elsewhere (read?_of_collect collected source member) ?_
      revert source
      rw [isWritten.paths, places]
      decide +kernel
    obtain ⟨file, rest, first, own, -⟩ := List.forall₂_cons_left_iff.1 own
    obtain ⟨otherFile, _, second, -, -⟩ := List.forall₂_cons_left_iff.1 own
    have sameName : SourceFile.name ⟨"b/x.md", "B\n"⟩ = SourceFile.name ⟨"a/x.md", "A\n"⟩ := by
      decide +kernel
    have verified := second.verified
    rw [sameName] at verified
    have same := digest_eq_of_verifyFile first.verified verified (untouched _ List.mem_cons_self)
      (untouched _ (List.mem_cons_of_mem _ List.mem_cons_self))
    exact absurd same (by decide +kernel)

end Results

end LectureDeck.Site
