import LectureDeck.Proofs.Deck.Groups
import LectureDeck.Proofs.Deck.Slides

/-!
# Pages of a file

Compiling a file is reading it and presenting what was read (`LectureDeck.Compiled.ofSource_eq`).
The page of each slide shows the pieces of its script that are not left out
(`LectureDeck.Compiled.fragments_ofSource`).
-/

namespace LectureDeck

namespace SlidePage

/-- The title of a page, if it gets one: a slide without a heading is numbered on request. -/
def title (options : Options) (fileNumber : Nat) (slide : Slide) : List Fragment :=
  if options.number && slide.header.isNone then [untitled fileNumber slide.number] else []

end SlidePage

namespace FileModel

variable {W : Type}

/-- A piece as pages show it that know the labels of the file. -/
def render (model : FileModel W) (options : Options) (highlight : Highlighter) (piece : Piece) :
    Fragment := (piece.fragment options highlight).resolve model.label?

/-- What the page of a slide shows of its script. -/
def fragments (model : FileModel W) (options : Options) (highlight : Highlighter) (slide : Slide)
    (script : List Entry) : List Fragment :=
  SlidePage.title options model.fileNumber slide ++
    (Script.shown options.strip script).map (model.render options highlight)

end FileModel

namespace Document

variable {W : Type}

theorem resolve_title (label : String → Option String) (options : Options) (fileNumber : Nat)
    (slide : Slide) : (SlidePage.title options fileNumber slide).map (Fragment.resolve label) =
      SlidePage.title options fileNumber slide := by
  unfold SlidePage.title
  split <;> rfl

/-- The pages of a file show the scripts of its slides. -/
theorem fragments_resolve (options : Options) (highlight : Highlighter) (analysis : Analysis W) :
    ((ofAnalysis options highlight analysis).resolve analysis.model.label?).slides.map
        SlidePage.fragments =
      List.zipWith (analysis.model.fragments options highlight) analysis.model.slides
        analysis.scripts := by
  simp only [resolve, ofAnalysis, List.map_zipWith]
  congr 1
  funext slide script
  simp only [SlidePage.resolve, SlidePage.ofScript, List.map_append, List.map_map,
    FileModel.fragments, Script.shown]
  exact congrArg (· ++ _) (resolve_title _ options _ slide)

end Document

namespace Compiled

variable {W : Type} [Weight W] {environment : Environment} {fileNumber : Nat} {name : String}
  {source : Source} {compiled : Compiled W}

/-- What is presented of an analysis: its model, and a page for each script that shows it. -/
structure Presents (environment : Environment) (compiled : Compiled W) (analysis : Analysis W) :
    Prop where
  model : compiled.model = analysis.model
  scripts : analysis.scripts.length = compiled.model.slides.length
  fragments : compiled.document.slides.map SlidePage.fragments =
    List.zipWith (compiled.model.fragments compiled.options environment.highlight)
      compiled.model.slides analysis.scripts

variable {setting : Setting} {analysis : Analysis W}

/-- Regions nest in the scripts of a file. -/
theorem isClosed_of_read
    (found : read environment fileNumber name source = .ok (setting, analysis)) :
    ∀ script ∈ analysis.scripts, Script.IsClosed script := by
  obtain ⟨draft, _, reads, rfl⟩ := exists_readFile_of_read found
  exact Draft.isClosed_of_readFile reads

/-- Lists, choices and quotes are closed in the scripts of a file. -/
theorem closesGroups_of_read
    (found : read environment fileNumber name source = .ok (setting, analysis)) :
    ∀ script ∈ analysis.scripts, Script.ClosesGroups script := by
  obtain ⟨draft, outlined, reads, rfl⟩ := exists_readFile_of_read found
  exact Draft.closesGroups_of_readFile outlined reads

/-- **Every page shows a script.** What was read is presented slide by slide. -/
theorem presents_of_read
    (found : read environment fileNumber name source = .ok (setting, analysis)) :
    (present environment fileNumber name source (setting, analysis)).Presents environment
      analysis where
  model := rfl
  scripts := by
    obtain ⟨draft, outlined, reads, rfl⟩ := exists_readFile_of_read found
    exact (hasSlides_of_ofSource outlined reads).scripts
  fragments := Document.fragments_resolve _ environment.highlight analysis

end Compiled

end LectureDeck
