import LectureDeck.Deck.Reading
import LectureDeck.Proofs.Outline.Walk
import LectureDeck.Proofs.Page.Nesting
import LectureDeck.Proofs.Result
import Mathlib.Logic.Relation

/-!
# What a block does to a draft

A block may be copied to the page as it stands. All else that a block can do to the draft it is read
onto is a sequence of moves (`LectureDeck.Draft.moves_of_readContent`), of which there are few kinds
(`LectureDeck.Draft.Move`). What every move preserves is preserved by reading a block that is part
of the slide.
-/

namespace LectureDeck

open LectureDeck.Text

/-- The piece is what a block is copied to. -/
def Piece.isCopy : Piece → Bool
  | .blockMath _ | .environment .. | .comment .. | .minirule | .pause | .blockCode ..
  | .blockHtml _ => true
  | _ => false

/-- What a block is copied to. The defaults of the file are not on any page. -/
def Block.copy? : Block → Option Piece
  | .displayMath content => some (.blockMath content)
  | .environment name content => some (.environment name content)
  | .metadata name content => if name == "defaults" then none else some (.comment name content)
  | .minirule => some .minirule
  | .pause => some .pause
  | .code language content => some (.blockCode language content)
  | .html content => some (.blockHtml content)
  | _ => none

/-- What a block is copied to is a copy. -/
theorem Block.isCopy_of_copy? {block : Block} {piece : Piece} (copied : block.copy? = some piece) :
    piece.isCopy = true := by
  cases block with
  | metadata name content =>
    rw [copy?] at copied
    split at copied
    · contradiction
    · cases copied
      rfl
  | _ => cases copied; try rfl

/-- The piece is written on its own: it is no mark of what stays open from block to block, it lists
no concepts, and no block is copied to it. -/
def Piece.isPlain : Piece → Bool
  | .opening element => !element.isWrapper
  | .closing element => !element.isWrapper
  | .concepts _ => false
  | piece => !piece.isCopy

/-- A copy marks the edge of no element, whatever the element. -/
theorem Piece.not_isMark_of_isCopy {piece : Piece} (copy : piece.isCopy = true)
    (kind : Element → Bool) : piece.isMark kind = false := by
  cases piece <;> first | rfl | contradiction

/-- A plain piece marks the edge of no region, list or choice. -/
theorem Piece.not_isMark_of_isPlain {piece : Piece} (plain : piece.isPlain = true) :
    piece.isMark Element.isWrapper = false := by
  cases piece with
  | opening element => exact Bool.not_eq_true' _ ▸ plain
  | closing element => exact Bool.not_eq_true' _ ▸ plain
  | _ => rfl

namespace TextStep

/-- The step neither opens nor closes an element that stays open from block to block. -/
def isPlain : TextStep → Bool
  | .token _ => true
  | .opening element => !element.isWrapper
  | .closing element => !element.isWrapper

/-- Running text is plain: its elements are those of emphasis. -/
theorem isPlain_of_mem_ofText {content : String} {step : TextStep}
    (member : step ∈ ofText content) : step.isPlain = true := by
  rw [ofText] at member
  obtain ⟨⟨part, found⟩, -, member⟩ := List.mem_flatMap.1 member
  dsimp only at member
  split at member
  case h_3 => rw [List.mem_singleton.1 member]; rfl
  all_goals
    rename_i inner found
    have shorter : inner.length < content.length := Inline.length_lt_of_mem_scan found rfl
    rw [List.cons_append, List.mem_cons, List.mem_append, List.mem_singleton] at member
    rcases member with rfl | inside | rfl
    · rfl
    · exact isPlain_of_mem_ofText inside
    · rfl
termination_by content.length

/-- Markup within a line is plain. -/
theorem isPlain_of_mem_ofToken {token : Inline} {step : TextStep} (member : step ∈ ofToken token) :
    step.isPlain = true := by
  unfold ofToken at member
  split at member
  case h_3 => rw [List.mem_singleton.1 member]; rfl
  all_goals
    rw [List.cons_append, List.mem_cons, List.mem_append, List.mem_singleton] at member
    rcases member with rfl | inside | rfl
    · rfl
    · exact isPlain_of_mem_ofText inside
    · rfl

/-- Several tokens are plain as each of them is. -/
theorem isPlain_of_mem_flatMap {tokens : List Inline} {step : TextStep}
    (member : step ∈ tokens.flatMap ofToken) : step.isPlain = true := by
  obtain ⟨token, -, member⟩ := List.mem_flatMap.1 member
  exact isPlain_of_mem_ofToken member

end TextStep

namespace Finding

/-- The name that a finding says links were left with. -/
def unresolved? : Finding → Option String
  | .unresolvedLink id => some id
  | _ => none

/-- The finding is made while a slide is read, and not before that or when the file has ended. -/
def isOfSlide : Finding → Bool
  | .duplicateReference .. | .missingEmbed _ | .duplicateAnswer | .tagsAfterNotes
  | .unknownPlugin _ | .imageNotFound _ => true
  | _ => false

end Finding

namespace SlideDraft

variable {W : Type}

/-- What lists the concepts of a slide that has some. -/
def listed (slide : SlideDraft W) (tags : Tags) : List Entry :=
  if tags.isEmpty then [] else [⟨.concepts tags.all, slide.regions, slide.isDiscarding⟩]

/-- A slide with its tags, and the list of its concepts. -/
def tagged (slide : SlideDraft W) (tags : Tags) : SlideDraft W :=
  { slide with script := slide.script ++ slide.listed tags, tags := some tags }

end SlideDraft

namespace Draft

variable {W : Type} {setting : Setting}

/-- Telling where a fault stands changes nothing about a success. -/
theorem located_eq_ok {α : Type} {draft : Draft W} {result : Except SlideFault α} {value : α} :
    located setting draft result = .ok value ↔ result = .ok value := by
  cases result <;> simp [located]

/-- A fault is no success. -/
theorem fault_ne_ok {α : Type} {draft : Draft W} {found : SlideFault} {value : α} :
    fault setting draft found ≠ .ok value := by
  simp [fault, located]

variable [Weight W]

/-- One thing that a block can do to a draft. What stays open from block to block is opened and
closed by moves of its own, and so are the concepts of the slide listed. -/
inductive Move (setting : Setting) : Draft W → Draft W → Prop
  | write (draft : Draft W) (piece : Piece) (plain : piece.isPlain = true) :
      Move setting draft (draft.write piece)
  | warn (draft : Draft W) (finding : Finding) (own : finding.isOfSlide = true) :
      Move setting draft (draft.warn setting finding)
  | follow (draft : Draft W) (id : String) : Move setting draft (draft.follow id)
  | define {draft after : Draft W} {id counter : String} {kind : ReferenceKind}
      {defined : Reference.Defined}
      (made : draft.define setting id kind counter = .ok (after, defined)) :
      Move setting draft after
  | image (draft : Draft W) (path : String) (new : path ∉ draft.slide.images) :
      Move setting draft
        (draft.withSlide { draft.slide with images := draft.slide.images ++ [path] })
  | call (draft : Draft W) (plugin : String) : Move setting draft
      (draft.withSlide { draft.slide with calls := draft.slide.calls ++ [plugin] })
  | closeList (draft : Draft W) : Move setting draft (draft.withSlide draft.slide.closeList)
  | openList (draft : Draft W) (ordered : Bool) : Move setting draft
      (draft.withSlide (draft.slide.openList ordered))
  | closeChoices (draft : Draft W) : Move setting draft
      (draft.withSlide draft.slide.closeChoices)
  | present {draft : Draft W} {marker : Char × Bool} {choices : Choices}
      (agrees : ∀ kind ∈ draft.slide.answer.bind Answer.kind, kind.isChoice = true)
      (presented : draft.slide.choices.present setting.multiplicity marker.1 marker.2 =
        .ok choices) :
      Move setting draft (draft.withSlide { draft.slide with choices := choices }.openChoices)
  | tag {draft : Draft W} (content : String) (untagged : draft.slide.tags = none) :
      Move setting draft (draft.withSlide (draft.slide.tagged (Tags.parse content)))
  | discard {draft : Draft W} (past : draft.isPastBody = true) : Move setting draft
      (draft.withSlide { draft.slide with isDiscarding := true })
  | closeHint (draft : Draft W) : Move setting draft
      (draft.withSlide (draft.slide.closeRegion .hint))
  | hint {draft : Draft W} {slide : SlideDraft W} (penalty : Float)
      (body : draft.isPastBody = false)
      (opened : { draft.slide.closeRegion .hint with
        hints := (draft.slide.closeRegion .hint).hints ++ [penalty] }.openRegion .hint =
          .ok slide) :
      Move setting draft (draft.withSlide slide)
  | seeNotes {draft : Draft W} (body : draft.isPastBody = false) : Move setting draft
      (draft.withSlide { draft.slide with notesSeen := true })
  | openNotes {draft : Draft W} {slide : SlideDraft W} (body : draft.isPastBody = false)
      (opened : draft.slide.openRegion .notes = .ok slide) :
      Move setting draft (draft.withSlide slide)
  | extra {draft : Draft W} {slide : SlideDraft W}
      (opened : (draft.slide.closeRegion .hint).closeChoices.openRegion .extra = .ok slide) :
      Move setting draft (draft.withSlide slide)
  | hide {draft : Draft W} {slide : SlideDraft W} (first : draft.slide.headings = 0)
      (opened : draft.slide.openRegion .hidden = .ok slide) :
      Move setting draft (draft.withSlide slide)
  | head (draft : Draft W) (header : Option String) : Move setting draft
      (draft.withSlide
        { draft.slide with headings := draft.slide.headings + 1, header := header })
  | number (draft : Draft W) (level : Nat) (content : String) : Move setting draft
      (draft.numberHeading setting level content).1
  | answer {draft : Draft W} {answer : Answer W} {text : String} {hasChoices : Bool}
      (parsed : Answer.parse text hasChoices setting.plugins = .ok answer)
      (unanswered : draft.slide.answer = none)
      (agrees : 0 < draft.slide.choices.count → ∀ kind ∈ answer.kind, kind.isChoice = true) :
      Move setting draft (draft.withSlide { draft.slide with answer := some answer })
  | embed {draft : Draft W} (name : String) (new : name ∉ draft.slide.embeds) : Move setting draft
      (draft.withSlide { draft.slide with embeds := draft.slide.embeds ++ [name] })
  | usePlugin (draft : Draft W) (heads : List String) (arguments : String) (name : String)
      (fields : List String) : Move setting draft
      { draft with file := { draft.file with
          heads := draft.file.heads ++ heads
          pluginUses := draft.file.pluginUses ++ [⟨name, draft.slide.number,
            !draft.file.pluginUses.any (fun use => use.name == name), arguments, fields⟩] } }
  | discuss (draft : Draft W) : Move setting draft
      (draft.withSlide { draft.slide with discuss := true })
  | definePlugin (draft : Draft W) (text : PluginText) : Move setting draft
      { draft with file := { draft.file with
          pluginTexts := draft.file.pluginTexts ++ [text] } }

/-- What a block can do to a draft: any number of moves. -/
def Moves (setting : Setting) : Draft W → Draft W → Prop := Relation.ReflTransGen (Move setting)

variable {draft middle after : Draft W}

/-- No move leads to the draft itself. -/
theorem Moves.refl (draft : Draft W) : Moves setting draft draft := Relation.ReflTransGen.refl

/-- Moves may follow moves. -/
theorem Moves.trans (earlier : Moves setting draft middle) (later : Moves setting middle after) :
    Moves setting draft after := Relation.ReflTransGen.trans earlier later

/-- One move is a sequence of moves. -/
theorem Move.moves (move : Move setting draft after) : Moves setting draft after :=
  Relation.ReflTransGen.single move

/-- A sequence of moves goes on with another one. -/
theorem Moves.then (earlier : Moves setting draft middle) (last : Move setting middle after) :
    Moves setting draft after := Relation.ReflTransGen.tail earlier last

/-- Writing a plain piece is a move. -/
theorem moves_write (draft : Draft W) (piece : Piece)
    (plain : piece.isPlain = true) : Moves setting draft (draft.write piece) :=
  (Move.write draft piece plain).moves

section Running

/-- Writing plain pieces is a move for each of them. -/
theorem moves_writeAll (draft : Draft W) (pieces : List Piece)
    (plain : ∀ piece ∈ pieces, piece.isPlain = true) :
    Moves setting draft (draft.writeAll pieces) := by
  induction pieces generalizing draft with
  | nil => exact Moves.refl draft
  | cons piece rest later =>
    obtain ⟨first, plain⟩ := List.forall_mem_cons.1 plain
    exact (moves_write draft piece first).trans (later (draft.write piece) plain)

/-- A link in the text is followed if it leads to a reference, and writes plain pieces. -/
theorem moves_readLink (draft : Draft W) (content url : String) (title : Option String) :
    Moves setting draft (draft.readLink content url title) := by
  unfold readLink
  split
  · exact moves_write draft _ rfl
  · refine (moves_writeAll draft _ ?_).then (Move.follow _ _)
    split <;> simp [Piece.isPlain, Piece.isCopy, Element.isWrapper]
  · exact (Move.follow draft _).moves.then (Move.write _ _ rfl)
  · exact moves_write draft _ rfl

/-- An image is noted if it is new to its slide, warned of if it is not found, and written. -/
theorem moves_readImage (draft : Draft W) (alternative path : String) (title : Option String) :
    Moves setting draft (draft.readImage setting alternative path title) := by
  have noted : Moves setting draft (draft.withSlide { draft.slide with
      images := if draft.slide.images.contains path then draft.slide.images
        else draft.slide.images ++ [path] }) := by
    split
    · exact Moves.refl draft
    · rename_i new
      exact (Move.image draft path (by simpa using new)).moves
  unfold readImage
  split
  · exact moves_write draft _ rfl
  · dsimp only
    split
    · split
      · exact noted.then (Move.write _ _ rfl)
      · exact (noted.then (Move.warn _ _ rfl)).then (Move.write _ _ rfl)
    · exact noted.then (Move.write _ _ rfl)

/-- A link that is given by key moves as the link to its target does. -/
theorem moves_readKeyedLink (draft : Draft W) (content key : String) (image : Bool) :
    Moves setting draft (draft.readKeyedLink setting content key image) := by
  unfold readKeyedLink
  split
  · split
    · exact moves_readImage draft _ _ _
    · exact moves_readLink draft _ _ _
  · exact moves_write draft _ rfl

/-- A definition in the text makes a reference and writes it. -/
theorem moves_of_readDefinition {content key : String}
    (read : draft.readDefinition setting content key = .ok after) : Moves setting draft after := by
  unfold readDefinition at read
  simp only [bind_eq_ok, pure_eq_ok] at read
  obtain ⟨⟨middle, defined⟩, made, rfl⟩ := read
  exact (Move.define made).moves.then (Move.write _ _ rfl)

/-- Markup within a line writes, follows, defines or calls. -/
theorem moves_of_readToken {token : Inline} (read : draft.readToken setting token = .ok after) :
    Moves setting draft after := by
  cases token with
  | definition content key => exact moves_of_readDefinition read
  | call plugin action argument =>
    cases read
    exact (Move.call draft plugin).moves.then (Move.write _ _ rfl)
  | link content url title image =>
    cases read
    split
    · exact moves_readImage draft _ _ _
    · exact moves_readLink draft _ _ _
  | keyedLink content key image =>
    cases read
    exact moves_readKeyedLink draft content key image
  | strong => exact Except.ok.inj read ▸ Moves.refl draft
  | emphasis => exact Except.ok.inj read ▸ Moves.refl draft
  | _ =>
    cases read
    exact moves_write draft _ rfl

/-- A plain step of running text moves as its token does, or writes the edge of an element. -/
theorem moves_of_readStep {step : TextStep} (plain : step.isPlain = true)
    (read : draft.readStep setting step = .ok after) : Moves setting draft after := by
  cases step with
  | token token => exact moves_of_readToken read
  | opening element => exact Except.ok.inj read ▸ moves_write draft _ plain
  | closing element => exact Except.ok.inj read ▸ moves_write draft _ plain

/-- Plain steps move one after another. -/
theorem moves_of_readSteps {steps : List TextStep} (plain : ∀ step ∈ steps, step.isPlain = true)
    (read : steps.foldlM (readStep setting) draft = .ok after) : Moves setting draft after := by
  induction steps generalizing draft with
  | nil => exact Except.ok.inj read ▸ Moves.refl draft
  | cons step rest later =>
    obtain ⟨first, plain⟩ := List.forall_mem_cons.1 plain
    rw [List.foldlM_cons, bind_eq_ok] at read
    obtain ⟨middle, stepped, read⟩ := read
    exact (moves_of_readStep first stepped).trans (later plain read)

/-- Running text within an element moves between the edges of the element, unless that is one of
those that wrap blocks. -/
theorem moves_of_readInside {element : Element} {steps : List TextStep}
    (outer : element.isWrapper = false) (plain : ∀ step ∈ steps, step.isPlain = true)
    (read : readInside setting element steps draft = .ok after) : Moves setting draft after := by
  unfold readInside at read
  simp only [bind_eq_ok, pure_eq_ok] at read
  obtain ⟨middle, read, rfl⟩ := read
  have mark : (!element.isWrapper) = true := by rw [outer, Bool.not_false]
  have opened : Moves setting draft (draft.write (.opening element)) := moves_write draft _ mark
  exact (opened.trans (moves_of_readSteps plain read)).then (Move.write middle _ mark)

end Running

section Directives

/-- Closing hint and choices takes a move for each. -/
theorem moves_closeHint (setting : Setting) (draft : Draft W) :
    Moves setting draft (draft.withSlide (draft.slide.closeRegion .hint).closeChoices) :=
  (Move.closeHint draft).moves.then (Move.closeChoices _)

/-- A marker that is read is accepted by the choices before it, and the kind of the answer, if there
is one, is one of choices. -/
theorem moves_of_readMarker {marker : Char × Bool}
    (read : draft.readMarker setting marker = .ok after) : Moves setting draft after := by
  unfold readMarker at read
  dsimp only at read
  split at read
  · rename_i kind answered
    split at read
    · simp only [bind_eq_ok, fault_ne_ok, false_and, exists_false] at read
    · rename_i isChoice
      simp only [bind_eq_ok, located_eq_ok, pure_eq_ok] at read
      obtain ⟨choices, presented, rfl⟩ := read
      refine (Move.present ?_ presented).moves
      intro other given
      rw [answered] at given
      simpa [← Option.some.inj given] using isChoice
  · rename_i unanswered
    simp only [bind_eq_ok, located_eq_ok, pure_eq_ok] at read
    obtain ⟨choices, presented, rfl⟩ := read
    exact (Move.present (fun kind given => absurd given (unanswered kind)) presented).moves

/-- Tags are noted and written where a slide has none yet, and only warned of behind notes. -/
theorem moves_of_readTags {content : String} (read : draft.readTags setting content = .ok after) :
    Moves setting draft after := by
  have closed : Moves setting draft (draft.withSlide draft.slide.closeChoices) :=
    (Move.closeChoices draft).moves
  unfold readTags at read
  dsimp only at read
  split at read
  · cases read
    exact closed.then (Move.warn _ _ rfl)
  · split at read
    · simp only [bind_eq_ok, fault_ne_ok, false_and, exists_false] at read
    · rename_i untagged
      have untagged := Option.not_isSome_iff_eq_none.1 untagged
      have tagged : (draft.withSlide draft.slide.closeChoices).withSlide
          (draft.slide.closeChoices.tagged (Tags.parse content)) = after := by
        cases read
        unfold SlideDraft.tagged SlideDraft.listed
        split
        · rw [List.append_nil]
          rfl
        · rfl
      exact tagged ▸ closed.then (Move.tag content untagged)

/-- A hint is discarded or opened, with its penalty, after an earlier one is closed. -/
theorem moves_of_readHint {penalty : Option Float}
    (read : draft.readHint setting penalty = .ok after) : Moves setting draft after := by
  have closed : Moves setting draft (draft.withSlide draft.slide.closeChoices) :=
    (Move.closeChoices draft).moves
  unfold readHint at read
  dsimp only at read
  split at read
  · rename_i past
    cases read
    exact closed.then (Move.discard past)
  · rename_i body
    simp only [bind_eq_ok, located_eq_ok, pure_eq_ok] at read
    obtain ⟨slide, opened, rfl⟩ := read
    exact closed.then (Move.hint (penalty.getD 0.0) (by simpa using body) opened)

/-- Notes are seen before they are opened. Behind the body they are discarded. -/
theorem moves_of_readNotes (read : draft.readNotes setting = .ok after) :
    Moves setting draft after := by
  have closed := moves_closeHint setting draft
  unfold readNotes at read
  dsimp only at read
  split at read
  · rename_i past
    cases read
    exact closed.then (Move.discard past)
  · rename_i body
    have body := Bool.eq_false_iff.2 body
    have seen := closed.then (Move.seeNotes body)
    split at read
    · cases read
      exact seen
    · simp only [bind_eq_ok, located_eq_ok, pure_eq_ok] at read
      obtain ⟨slide, opened, rfl⟩ := read
      exact seen.then (Move.openNotes body opened)

/-- Extra material begins with one move, which closes a hint and choices too. -/
theorem moves_of_readExtra (read : draft.readExtra setting = .ok after) :
    Moves setting draft after := by
  unfold readExtra at read
  simp only [bind_eq_ok, located_eq_ok, pure_eq_ok] at read
  obtain ⟨slide, opened, rfl⟩ := read
  exact (Move.extra opened).moves

/-- What a plugin yields is written, noted as a use and added to the heads of the page in one
move. -/
theorem moves_of_readPlugin {name arguments : String} {plugin : Plugin}
    (read : draft.readPlugin setting name arguments plugin = .ok after) :
    Moves setting draft after := by
  unfold readPlugin at read
  dsimp only at read
  split at read
  all_goals
    rw [bind_eq_ok] at read
    obtain ⟨heads, _, read⟩ := read
    split at read
    all_goals
      simp only [bind_eq_ok, pure_eq_ok] at read
      obtain ⟨top, _, body, _, button, _, rfl⟩ := read
      exact (moves_write draft _ rfl).then (Move.usePlugin _ heads arguments name _)

/-- An embed is noted on its slide, with what its plugin yields or with a warning if there is
none. -/
theorem moves_of_readEmbed {name arguments : String}
    (read : draft.readEmbed setting name arguments = .ok after) : Moves setting draft after := by
  unfold readEmbed at read
  dsimp only at read
  by_cases old : draft.slide.embeds.contains name = true
  · rw [if_pos old] at read
    simp only [bind_eq_ok, fault_ne_ok, false_and, exists_false] at read
  · rw [if_neg old] at read
    have new : name ∉ draft.slide.embeds := by simpa using old
    have embedded : Moves setting draft (draft.withSlide
        { draft.slide with embeds := draft.slide.embeds ++ [name] }) := (Move.embed name new).moves
    split at read
    · exact embedded.trans (moves_of_readPlugin read)
    · cases read
      exact (embedded.then (Move.warn _ _ rfl)).then (Move.write _ _ rfl)

/-- An answer is taken and written if it is the first, and warned of if it is not. -/
theorem moves_of_readAnswer {content : String}
    (read : draft.readAnswer setting content = .ok after) : Moves setting draft after := by
  have closed := moves_closeHint setting draft
  unfold readAnswer at read
  dsimp only at read
  split at read
  · cases read
    exact closed.then (Move.warn _ _ rfl)
  · rename_i unanswered
    have unanswered := Option.not_isSome_iff_eq_none.1 unanswered
    rw [bind_eq_ok] at read
    obtain ⟨answer, parsed, read⟩ := read
    have parsed := located_eq_ok.1 parsed
    split at read
    · rename_i kind given
      split at read
      · simp only [bind_eq_ok, fault_ne_ok, false_and, exists_false] at read
      · rename_i agrees
        cases read
        refine (closed.then (Move.write _ _ rfl)).then (Move.answer parsed unanswered ?_)
        intro presented other named
        cases given.symm.trans named
        by_contra conflicts
        exact agrees (Bool.and_eq_true_iff.2 ⟨decide_eq_true presented, by simpa using conflicts⟩)
    · rename_i none
      cases read
      refine (closed.then (Move.write _ _ rfl)).then (Move.answer parsed unanswered ?_)
      exact fun _ kind named => (none kind named).elim

end Directives

section Text

/-- An item of a list of choices moves over its marker and then over its text. -/
theorem moves_of_readChoice {item : (Char × Bool) × List Inline}
    (read : draft.readChoice setting item = .ok after) : Moves setting draft after := by
  unfold readChoice at read
  rw [bind_eq_ok] at read
  obtain ⟨middle, presented, read⟩ := read
  refine (moves_of_readMarker presented).trans (moves_of_readInside ?_ ?_ read)
  · split <;> rfl
  · exact fun _ => TextStep.isPlain_of_mem_flatMap

/-- A paragraph moves over its text, then over its choices one after another. -/
theorem moves_of_readParagraph {content : String}
    (read : draft.readParagraph setting content = .ok after) : Moves setting draft after := by
  unfold readParagraph at read
  dsimp only at read
  split at read
  all_goals
    rw [bind_eq_ok] at read
    obtain ⟨middle, lead, read⟩ := read
    refine foldlM_induction (fun read earlier => earlier.trans (moves_of_readChoice read)) read ?_
  · exact Except.ok.inj lead ▸ Moves.refl draft
  · exact moves_of_readInside rfl (fun _ => TextStep.isPlain_of_mem_flatMap) lead

/-- The label of a heading makes a reference. -/
theorem moves_of_defineHeading {content : String} {key : Option String}
    {result : Draft W × Option String}
    (defined : draft.defineHeading setting content key = .ok result) :
    Moves setting draft result.1 := by
  unfold defineHeading at defined
  dsimp only at defined
  split at defined
  · rw [bind_eq_ok] at defined
    obtain ⟨found, made, same⟩ := defined
    cases same
    exact (Move.define made).moves
  · split at defined
    · cases defined
      exact Moves.refl draft
    · rw [bind_eq_ok] at defined
      obtain ⟨found, made, same⟩ := defined
      cases same
      exact (Move.define made).moves

/-- A heading may hide its slide. It is then numbered, labelled and written, and may become the
title or a section. -/
theorem moves_of_readHeading {level : Nat} {content : String}
    (read : draft.readHeading setting level content = .ok after) : Moves setting draft after := by
  unfold readHeading at read
  dsimp only at read
  have headed {slide : SlideDraft W} {text : String} {key : Option String}
      {header : Option String} (before : Moves setting draft (draft.withSlide slide))
      (read : (do
        let headed := draft.withSlide
          { slide with headings := slide.headings + 1, header := header }
        let numbered := numberHeading setting headed level text
        let defined ← defineHeading setting numbered.1 text key
        readInside setting (.heading level defined.2 numbered.2) (TextStep.ofText text) defined.1) =
          .ok after) :
      Moves setting draft after := by
    rw [bind_eq_ok] at read
    obtain ⟨result, defined, read⟩ := read
    have numbered := (before.then (Move.head _ header)).then (Move.number _ level text)
    exact (numbered.trans (moves_of_defineHeading defined)).trans
      (moves_of_readInside rfl (fun _ => TextStep.isPlain_of_mem_ofText) read)
  split at read
  · rename_i hidden
    rw [bind_eq_ok] at read
    obtain ⟨slide, opened, read⟩ := read
    simp only [hides, Bool.and_eq_true, beq_iff_eq] at hidden
    exact headed (Move.hide hidden.1.1 (located_eq_ok.1 opened)).moves read
  · exact headed (Moves.refl draft) read

/-- An item of a list opens the list if it is the first, and moves over its text. -/
theorem moves_of_readListItem {ordered : Bool} {content : String}
    (read : draft.readListItem setting ordered content = .ok after) : Moves setting draft after :=
  (Move.openList draft ordered).moves.trans
    (moves_of_readInside rfl (fun _ => TextStep.isPlain_of_mem_ofText) read)

/-- A discussion moves over its text. -/
theorem moves_of_readDiscuss {content : String}
    (read : draft.readDiscuss setting content = .ok after) : Moves setting draft after :=
  ((Move.closeChoices draft).moves.then (Move.discuss _)).trans
    (moves_of_readInside rfl (fun _ => TextStep.isPlain_of_mem_ofText) read)

end Text

/-- The draft to which a block was copied, if it is copied. -/
def copied (draft : Draft W) (block : Block) : Draft W := block.copy?.elim draft draft.write

/-- The draft in which a block has opened or closed a quote, if it is the edge of one, or to which
it was copied. -/
def turned (draft : Draft W) : Block → Draft W
  | .quoteStart =>
    (draft.withSlide { draft.slide with depth := draft.slide.depth + 1 }).write (.opening .quote)
  | .quoteEnd =>
    (draft.withSlide { draft.slide with depth := draft.slide.depth - 1 }).write (.closing .quote)
  | block => draft.copied block

section Turning

omit [Weight W]

/-- What holds of a draft, and still when a copy is written, holds when a block is copied. -/
theorem copied_induction (holds : Draft W → Prop) (start : holds draft) (block : Block)
    (write : ∀ piece, piece.isCopy = true → holds (draft.write piece)) :
    holds (draft.copied block) := by
  unfold copied
  cases found : block.copy? with
  | none => exact start
  | some piece => exact write piece (Block.isCopy_of_copy? found)

/-- Copying a block changes the script only. -/
theorem exists_copied_eq (draft : Draft W) (block : Block) : ∃ script, draft.copied block =
    draft.withSlide { draft.slide with script := script } :=
  copied_induction (fun after => ∃ script, after = draft.withSlide
    { draft.slide with script := script }) ⟨_, rfl⟩ block fun _ _ => ⟨_, rfl⟩

/-- Turning at the edge of a quote changes the number of open quotes and the script. -/
theorem exists_turned_eq (draft : Draft W) (block : Block) : ∃ script, draft.turned block =
    draft.withSlide
      { draft.slide with depth := block.turn draft.slide.depth, script := script } := by
  cases block with
  | quoteStart => exact ⟨_, rfl⟩
  | quoteEnd => exact ⟨_, rfl⟩
  | _ => exact exists_copied_eq draft _

/-- The edge of a quote changes the depth of the slide and leaves the file alone. -/
theorem file_turned (draft : Draft W) (block : Block) : (draft.turned block).file = draft.file := by
  obtain ⟨script, same⟩ := exists_turned_eq draft block
  rw [same]
  rfl

end Turning

/-- A block that is part of the slide opens or closes a quote, or is copied, and makes moves. -/
theorem moves_of_readContent {block : Block} (read : draft.readContent setting block = .ok after) :
    Moves setting (draft.turned block) after := by
  cases block with
  | text content => exact moves_of_readParagraph read
  | heading level content => exact moves_of_readHeading read
  | pluginEmbed name arguments => exact moves_of_readEmbed read
  | answer content => exact moves_of_readAnswer read
  | discuss content => exact moves_of_readDiscuss read
  | tags content => exact moves_of_readTags read
  | hint penalty => exact moves_of_readHint read
  | notes => exact moves_of_readNotes read
  | extra => exact moves_of_readExtra read
  | listItem ordered content => exact moves_of_readListItem read
  | pluginDefinition name content =>
    cases read
    exact (Move.definePlugin _ _).moves
  | metadata name content =>
    have same : draft.copied (.metadata name content) =
        if name == "defaults" then draft else draft.write (.comment name content) := by
      rw [copied, Block.copy?]
      split <;> rfl
    cases read
    rw [← same]
    exact Moves.refl _
  | rule =>
    cases read
    exact moves_write _ _ rfl
  | _ => exact Except.ok.inj read ▸ Moves.refl _

/-- A block closes the list and the choices before it, unless it goes on with them. -/
theorem moves_beforeBlock (draft : Draft W) (block : Block) :
    Moves setting draft (draft.beforeBlock block) := by
  unfold beforeBlock
  split
  · exact Moves.refl draft
  · exact (Move.closeList draft).moves

/-- What every move preserves is preserved by all moves together. -/
theorem Moves.preserve {holds : Draft W → Prop}
    (preserves : ∀ {draft after}, Move setting draft after → holds draft → holds after)
    (moves : Moves setting draft after) (start : holds draft) : holds after := by
  induction moves with
  | refl => exact start
  | tail _ last earlier => exact preserves last earlier

end Draft

end LectureDeck
