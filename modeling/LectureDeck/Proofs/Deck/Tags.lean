import LectureDeck.Proofs.Concept.Keys
import LectureDeck.Proofs.Deck.Regions
import Mathlib.Data.List.Forall2

/-!
# Tags of slides

The tags of a slide are read from a line of the source. A slide with tags writes one list of its
concepts, with all of them in order, and a slide without tags writes none
(`LectureDeck.Draft.listsConcepts_of_readFile`).
-/

namespace LectureDeck

/-- The concepts that a piece lists, if it is a list of concepts. -/
def Piece.concepts? : Piece → Option (List String)
  | .concepts tags => some tags
  | _ => none

/-- A plain piece lists no concepts. -/
theorem Piece.concepts?_of_isPlain {piece : Piece} (plain : piece.isPlain = true) :
    piece.concepts? = none := by
  cases piece <;> first | rfl | contradiction

/-- A copy lists no concepts. -/
theorem Piece.concepts?_of_isCopy {piece : Piece} (copy : piece.isCopy = true) :
    piece.concepts? = none := by
  cases piece <;> first | rfl | contradiction

/-- What the list of a slide's concepts holds, if the slide has tags. -/
def Tags.lists (tags : Tags) : List (List String) := if tags.isEmpty then [] else [tags.all]

namespace Script

/-- The lists of concepts in a script. -/
def conceptLists (script : List Entry) : List (List String) :=
  (pieces script).filterMap Piece.concepts?

/-- A piece that is written last adds the list that it shows, if it shows one. -/
theorem conceptLists_concat (script : List Entry) (entry : Entry) :
    conceptLists (script ++ [entry]) = conceptLists script ++ entry.piece.concepts?.toList := by
  rw [conceptLists, pieces_concat, List.filterMap_append, List.filterMap_cons, conceptLists]
  cases entry.piece.concepts? <;> rfl

end Script

/-- A slide whose script lists its concepts. The tags are those of a line. -/
structure Slide.ListsConcepts (slide : Slide) (script : List Entry) : Prop where
  lists : Script.conceptLists script = slide.tags.lists
  parsed : ∃ content, slide.tags = Tags.parse content

/-- Slides that list their concepts have tags that were read from a line. -/
theorem Slide.parsed_of_listsConcepts {slides : List Slide} {scripts : List (List Entry)}
    (lists : List.Forall₂ Slide.ListsConcepts slides scripts) :
    ∀ slide ∈ slides, ∃ content, slide.tags = Tags.parse content :=
  ((List.forall₂_and_left _ _).1 (lists.imp fun _ _ given => ⟨given.parsed, given.lists⟩)).1

namespace SlideDraft

variable {W : Type} {slide after : SlideDraft W}

/-- The tags of a slide, and the lists of concepts in its script. -/
def concepts (slide : SlideDraft W) : Option Tags × List (List String) :=
  (slide.tags, Script.conceptLists slide.script)

/-- A piece without concepts leaves tags and lists as they are. -/
theorem concepts_write (slide : SlideDraft W) {piece : Piece} (other : piece.concepts? = none) :
    (slide.write piece).concepts = slide.concepts := by
  rw [concepts, write, Script.conceptLists_concat, other]
  exact congrArg (Prod.mk _) (List.append_nil _)

/-- Tags are noted together with the list that they write. -/
theorem concepts_tagged (slide : SlideDraft W) (tags : Tags) : (slide.tagged tags).concepts =
    (some tags, Script.conceptLists slide.script ++ tags.lists) := by
  refine congrArg (Prod.mk _) ?_
  unfold tagged listed Tags.lists
  split
  · exact (congrArg Script.conceptLists (List.append_nil _)).trans (List.append_nil _).symm
  · exact Script.conceptLists_concat _ _

/-- What opens and closes regions, lists and choices is no list of concepts. -/
theorem overlooksMarks_concepts : OverlooksMarks (W := W) concepts :=
  ⟨fun _ _ => concepts_write _ rfl, fun _ _ => concepts_write _ rfl, fun _ _ _ _ _ _ _ => rfl⟩

/-- A slide that is read has listed its concepts, if it has read its tags. -/
structure ListsConcepts (slide : SlideDraft W) : Prop where
  lists : Script.conceptLists slide.script = slide.tags.elim [] Tags.lists
  parsed : ∀ tags ∈ slide.tags, ∃ content, tags = Tags.parse content

/-- A slide lists its concepts if it has the tags and the lists of one that does. -/
theorem ListsConcepts.of_concepts (given : slide.ListsConcepts)
    (same : after.concepts = slide.concepts) : after.ListsConcepts := by
  obtain ⟨tags, lists⟩ := Prod.mk.inj same
  exact ⟨by rw [lists, tags, given.lists], tags ▸ given.parsed⟩

/-- A slide that has read no tags lists those that it reads. -/
theorem ListsConcepts.tagged (given : slide.ListsConcepts) (untagged : slide.tags = none)
    (content : String) : (slide.tagged (Tags.parse content)).ListsConcepts := by
  obtain ⟨tags, lists⟩ := Prod.mk.inj (concepts_tagged slide (Tags.parse content))
  constructor
  · rw [lists, tags, given.lists, untagged]
    rfl
  · rintro other known
    cases tags.symm.trans known
    exact ⟨content, rfl⟩

end SlideDraft

namespace Draft

variable {W : Type} [Weight W] {setting : Setting} {draft after : Draft W}

/-- Every move keeps the lists of a slide those of its tags. Only the move that tags it adds one,
where there was none. -/
theorem Move.listsConcepts (move : Move setting draft after)
    (given : draft.slide.ListsConcepts) : after.slide.ListsConcepts := by
  have overlooks : SlideDraft.OverlooksMarks (W := W) SlideDraft.concepts :=
    SlideDraft.overlooksMarks_concepts
  cases move with
  | write piece plain =>
    exact given.of_concepts (SlideDraft.concepts_write _ (Piece.concepts?_of_isPlain plain))
  | tag content untagged => exact given.tagged untagged content
  | follow id => rwa [slide_follow]
  | define made => rwa [slide_of_define made]
  | number level content => rwa [slide_numberHeading]
  | closeList => exact given.of_concepts (overlooks.closeList _)
  | openList ordered => exact given.of_concepts (overlooks.openList _ ordered)
  | closeChoices => exact given.of_concepts (overlooks.closeChoices _)
  | @present _ choices agrees presented =>
    let presents : SlideDraft W := { draft.slide with choices := choices }
    have opened := overlooks.openChoices presents
    exact given.of_concepts opened
  | closeHint => exact given.of_concepts (overlooks.closeRegion _ .hint)
  | hint penalty body opened =>
    have closed := overlooks.closeRegion draft.slide .hint
    exact given.of_concepts ((overlooks.openRegion opened).trans closed)
  | openNotes body opened => exact given.of_concepts (overlooks.openRegion opened)
  | extra opened =>
    have closed := overlooks.closeRegion draft.slide .hint
    exact given.of_concepts
      ((overlooks.openRegion opened).trans ((overlooks.closeChoices _).trans closed))
  | hide first opened => exact given.of_concepts (overlooks.openRegion opened)
  | _ => exact given.of_concepts rfl

omit [Weight W] in
/-- The edge of a quote lists no concepts. -/
theorem listsConcepts_turned (given : draft.slide.ListsConcepts) (block : Block) :
    (draft.turned block).slide.ListsConcepts := by
  cases block with
  | quoteStart => exact given.of_concepts (SlideDraft.concepts_write _ rfl)
  | quoteEnd => exact given.of_concepts (SlideDraft.concepts_write _ rfl)
  | _ =>
    exact copied_induction (fun after => after.slide.ListsConcepts) given _
      fun piece copy =>
        given.of_concepts (SlideDraft.concepts_write _ (Piece.concepts?_of_isCopy copy))

omit [Weight W] in
/-- A slide that ends without having read tags has the tags of an empty line. -/
theorem listsConcepts_finished {slide : SlideDraft W} (given : slide.ListsConcepts)
    (question : Option Nat) (endBlock : Nat) :
    (finished slide question endBlock).ListsConcepts slide.script := by
  obtain ⟨lists, parsed⟩ := given
  unfold finished
  cases known : slide.tags with
  | none =>
    rw [known] at lists
    exact ⟨lists, "", rfl⟩
  | some tags =>
    rw [known] at lists
    exact ⟨lists, parsed tags known⟩

/-- The scripts of slides that have ended list their concepts. -/
def ListsConcepts (file : FileDraft W) : Prop :=
  List.Forall₂ Slide.ListsConcepts file.slides file.scripts

/-- A slide that ends lists its concepts in its script, like those before it. -/
theorem ListsConcepts.of_closeSlide (earlier : ListsConcepts draft.file)
    (given : draft.slide.ListsConcepts) {endBlock : Nat}
    (closed : draft.closeSlide setting endBlock = .ok after) : ListsConcepts after.file := by
  obtain ⟨question, warnings, -, settled⟩ := exists_of_closeSlide closed
  rw [ListsConcepts, scripts_of_closeSlide closed, (stays_of_settle settled).file.slides, withEnded]
  dsimp only
  rw [record_slides, record_slide]
  refine List.rel_append earlier (.cons ?_ .nil)
  exact listsConcepts_finished (given.of_concepts (SlideDraft.overlooksMarks_concepts.closeAll _)) _
    endBlock

/-- That slides list their concepts lasts while a whole file is read. -/
theorem lasting_listsConcepts (setting : Setting) :
    Lasting setting (fun draft : Draft W => draft.slide.ListsConcepts ∧ ListsConcepts draft.file)
      ListsConcepts where
  start := ⟨⟨rfl, nofun⟩, .nil⟩
  move := by
    rintro draft after move ⟨given, earlier⟩
    refine ⟨move.listsConcepts given, ?_⟩
    rwa [ListsConcepts, move.stays.file.slides, move.stays.file.scripts]
  turned := by
    rintro draft block ⟨given, earlier⟩
    exact ⟨listsConcepts_turned given block, (file_turned draft block).symm ▸ earlier⟩
  noteContent := fun _ ⟨given, earlier⟩ => ⟨given.of_concepts rfl, earlier⟩
  close := fun closed ⟨given, earlier⟩ => earlier.of_closeSlide given closed
  next := fun _ earlier => ⟨⟨rfl, nofun⟩, earlier⟩

/-- **Slides list their concepts.** When the blocks of a source are read to their end, the script of
each slide has the list of its concepts. -/
theorem listsConcepts_of_readFile (read : readFile setting = .ok after) :
    List.Forall₂ Slide.ListsConcepts after.file.slides after.file.scripts :=
  (lasting_listsConcepts setting).of_readFile read

/-- Every tag of a file that is read to its end may stand between semicolons. -/
theorem areConcepts_of_readFile (read : readFile setting = .ok after) :
    ∀ slide ∈ after.file.slides, slide.tags.AreConcepts := by
  intro slide member
  have lists := listsConcepts_of_readFile read
  obtain ⟨content, same⟩ := Slide.parsed_of_listsConcepts lists slide member
  exact same ▸ Tags.areConcepts_parse content

end Draft

end LectureDeck
