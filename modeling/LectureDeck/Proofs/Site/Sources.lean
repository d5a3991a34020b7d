import LectureDeck.Proofs.Run.Files
import LectureDeck.Site.Build

/-!
# Sources of a run

The sources of a site are read from the files that paths lead to
(`LectureDeck.Site.read?_of_collect`), and compiled one by one
(`LectureDeck.Site.exists_of_compileSite`).
-/

namespace LectureDeck.Site

section Collecting

variable {tree : FileTree} {config : Config} {paths : List String} {sources : List SourceFile}

theorem path_of_readSource {path : String} {source : SourceFile}
    (reads : readSource tree path = .ok source) : tree.read? source.path = some source.text := by
  unfold readSource at reads
  split at reads
  · rename_i text found
    cases reads
    exact found
  · contradiction

theorem read?_of_sourcesAt {path : String} (found : sourcesAt tree config path = .ok sources) :
    ∀ source ∈ sources, tree.read? source.path = some source.text := by
  intro source member
  unfold sourcesAt at found
  split at found
  · obtain ⟨item, -, reads⟩ := exists_of_mem_mapM found source member
    exact path_of_readSource reads
  · split at found
    · cases reads : readSource tree path with
      | error error =>
        rw [reads] at found
        contradiction
      | ok only =>
        rw [reads] at found
        cases found
        rw [List.mem_singleton.1 member]
        exact path_of_readSource reads
    · contradiction

/-- The texts of sources are those that their paths lead to. -/
theorem read?_of_collect (collected : collect tree config paths = .ok sources) :
    ∀ source ∈ sources, tree.read? source.path = some source.text := by
  intro source member
  rw [collect, bind_eq_ok] at collected
  obtain ⟨found, each, some⟩ := collected
  split at some
  · contradiction
  · cases some
    obtain ⟨own, known, member⟩ := List.mem_flatten.1 member
    obtain ⟨path, -, reads⟩ := exists_of_mem_mapM each own known
    exact read?_of_sourcesAt reads source member

end Collecting

section Compiling

variable {tree : FileTree} {config : Config} {paths : List String} {sources : List SourceFile}
  {run : Run Float}

/-- What all files of a site share. Code is not marked up, and images stay where they are. -/
def IsEnvironment (config : Config) (environment : Environment) : Prop :=
  Environment.ofOptions (W := Float) config.options config.plugins (fun _ _ => none)
    (fun _ _ _ => none) = .ok environment

/-- Each file is compiled from its source. -/
def AreCompiled (environment : Environment) (sources : List SourceFile)
    (files : List (Compiled Float)) : Prop :=
  List.Forall₂ (fun source file =>
    compile environment file.fileNumber source.name source.text = .ok file) sources files

theorem exists_of_compileSite (compiles : compileSite config sources = .ok run) :
    ∃ environment, IsEnvironment config environment ∧
      AreCompiled environment sources run.files := by
  simp only [compileSite, bind_eq_ok, mapError_eq_ok] at compiles
  obtain ⟨environment, isEnvironment, compiles⟩ := compiles
  obtain ⟨files, compiled, rfl⟩ := Run.ofSources_eq_ok_iff.1 compiles
  exact ⟨environment, isEnvironment, (Run.forall₂_of_compileFiles compiled).1⟩

theorem compilePaths_eq (collected : collect tree config paths = .ok sources) :
    compilePaths tree config paths = compileSite config sources := by
  rw [compilePaths, collected]
  rfl

theorem AreCompiled.map_name {environment : Environment} {files : List (Compiled Float)}
    (compiled : AreCompiled environment sources files) :
    files.map Compiled.name = sources.map SourceFile.name := by
  unfold AreCompiled at compiled
  induction compiled with
  | nil => rfl
  | cons first _ later =>
    rw [List.map_cons, List.map_cons, later, (Compiled.place_of_compile first).2]

end Compiling

end LectureDeck.Site
