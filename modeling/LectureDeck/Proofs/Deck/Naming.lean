import LectureDeck.Proofs.Deck.Regions
import LectureDeck.Proofs.Reference.Definitions

/-!
# How parts of pages are named

Some pieces give an identifier to a part of the page (`LectureDeck.Mark`). Which identifiers are
given depends on little of a draft (`LectureDeck.Naming`), and changes in few ways when a block is
read (`LectureDeck.Naming.Step`, `LectureDeck.Draft.reaches_of_readContent`).
-/

namespace LectureDeck

open LectureDeck.Text

/-- An identifier that a piece gives, and whether it gives it to a question to discuss. -/
structure Mark where
  id : String
  isDiscussion : Bool
deriving DecidableEq, Repr

def Element.mark? : Element → Option Mark
  | .heading _ id _ => id.map fun id => ⟨id, false⟩
  | .discussion slideId => some ⟨slideId ++ "-discuss", true⟩
  | .region _ id => some ⟨id, false⟩
  | _ => none

/-- The identifier that a piece gives to a part of the page. -/
def Piece.mark? : Piece → Option Mark
  | .opening element => element.mark?
  | .anchor id _ _ _ => some ⟨id, false⟩
  | .answer slideId _ _ => some ⟨slideId ++ "-answer", false⟩
  | .plugin slideId name _ _ _ => some ⟨slideId ++ "-plugin-" ++ name, false⟩
  | _ => none

/-- The identifiers that a script gives, in order. -/
def Script.marks (script : List Entry) : List Mark := (pieces script).filterMap Piece.mark?

/-- A piece that is written last adds the identifier that it gives, if it gives one. -/
theorem Script.marks_concat (script : List Entry) (entry : Entry) :
    marks (script ++ [entry]) = marks script ++ entry.piece.mark?.toList := by
  rw [marks, pieces_concat, List.filterMap_append, marks]
  cases found : entry.piece.mark? <;> simp [found]

/-- A part of a slide that has an identifier. -/
inductive SlidePart where
  | region (region : Region)
  | hint (number : Nat)
  | answer
  | plugin (name : String)
  | discussion
deriving DecidableEq, Repr

namespace SlidePart

def isDiscussion : SlidePart → Bool
  | discussion => true
  | _ => false

def id (slideId : String) : SlidePart → String
  | region kind => slideId ++ "-" ++ kind.name
  | hint number => slideId ++ "-hint-" ++ Decimal.naturalText number
  | answer => slideId ++ "-answer"
  | plugin name => slideId ++ "-plugin-" ++ name
  | discussion => slideId ++ "-discuss"

end SlidePart

/-- The regions that stay open when a hint is closed. -/
def withoutHint (regions : List Region) : List Region :=
  if regions.contains .hint then regions.drop ((regions.takeWhile (· != .hint)).length + 1)
  else regions

/-- What a draft has named so far, and what that depends on. -/
structure Naming where
  /-- The number of the slide. -/
  number : Nat
  slideId : String
  regions : List Region
  /-- The number of hints. -/
  hints : Nat
  headings : Nat
  isAnswered : Bool
  embeds : List String
  /-- The identifiers that the slide has given. -/
  marks : List Mark
  /-- The identifiers of the references of the file. -/
  references : List String

namespace Naming

/-- One more identifier given by the slide. -/
def mark (naming : Naming) (mark : Mark) : Naming := { naming with marks := naming.marks ++ [mark] }

/-- A part of the slide named. -/
def name (naming : Naming) (part : SlidePart) : Naming :=
  naming.mark ⟨part.id naming.slideId, part.isDiscussion⟩

/-- The regions that are open changed. -/
def within (naming : Naming) (regions : List Region) : Naming := { naming with regions := regions }

/-- A hint closed, if one is open. -/
def closeHint (naming : Naming) : Naming := naming.within (withoutHint naming.regions)

/-- A region opened that is no hint. -/
def enter (naming : Naming) (region : Region) : Naming :=
  (naming.name (.region region)).within (region :: naming.regions)

/-- The next hint opened. -/
def enterHint (naming : Naming) : Naming :=
  { (naming.name (.hint (naming.hints + 1))).within (.hint :: naming.regions) with
    hints := naming.hints + 1 }

/-- A heading counted. -/
def head (naming : Naming) : Naming := { naming with headings := naming.headings + 1 }

/-- A plugin remembered. -/
def embed (naming : Naming) (plugin : String) : Naming :=
  { naming with embeds := naming.embeds ++ [plugin] }

/-- A reference of the file, which stands on the slide. -/
def refer (naming : Naming) (id : String) : Naming :=
  { naming.mark ⟨id, false⟩ with references := naming.references ++ [id] }

/-- What reading can do to names. -/
inductive Step : Naming → Naming → Prop
  | refer (naming : Naming) (slug : String) (new : "slidoc-ref-" ++ slug ∉ naming.references) :
      Step naming (naming.refer ("slidoc-ref-" ++ slug))
  | discuss (naming : Naming) : Step naming (naming.name .discussion)
  | answer (naming : Naming) (unanswered : naming.isAnswered = false) :
      Step naming { naming.name .answer with isAnswered := true }
  | embed (naming : Naming) (plugin : String) (new : plugin ∉ naming.embeds) :
      Step naming ((naming.embed plugin).name (.plugin plugin))
  /-- A plugin that is not known has no part of its own. -/
  | miss (naming : Naming) (plugin : String) : Step naming (naming.embed plugin)
  | closeHint (naming : Naming) : Step naming naming.closeHint
  | hint (naming : Naming) (new : .hint ∉ naming.closeHint.regions) :
      Step naming naming.closeHint.enterHint
  /-- Notes and extra material are begun where a hint has ended. -/
  | past (naming : Naming) (region : Region) (other : region = .notes ∨ region = .extra)
      (new : region ∉ naming.closeHint.regions) :
      Step naming (naming.closeHint.enter region)
  | head (naming : Naming) : Step naming naming.head
  | hide (naming : Naming) (first : naming.headings = 0) (new : .hidden ∉ naming.regions) :
      Step naming (naming.enter .hidden).head

/-- Names after any number of steps. -/
def Reaches : Naming → Naming → Prop := Relation.ReflTransGen Step

variable {first second third : Naming}

/-- A naming reaches itself in no steps. -/
theorem Reaches.refl (naming : Naming) : Reaches naming naming := Relation.ReflTransGen.refl

/-- What is reached from what was reached is reached. -/
theorem Reaches.trans (earlier : Reaches first second) (later : Reaches second third) :
    Reaches first third := Relation.ReflTransGen.trans earlier later

/-- One step is enough to reach what it leads to. -/
theorem Step.reaches (step : Step first second) : Reaches first second :=
  Relation.ReflTransGen.single step

/-- A step more reaches what it leads to. -/
theorem Reaches.then (earlier : Reaches first second) (last : Step second third) :
    Reaches first third := Relation.ReflTransGen.tail earlier last

/-- Nothing needs to be done to reach the same naming. -/
theorem Reaches.of_eq (same : second = first) : Reaches first second := same ▸ .refl first

/-- A step reaches its end in whichever way that is written. -/
theorem Step.reaches_of_eq (step : Step first second) (same : third = second) :
    Reaches first third := same ▸ step.reaches

end Naming

namespace SlideDraft

variable {W : Type} {slide after : SlideDraft W}

/-- The names of a slide, given the identifiers of references. -/
def naming (slide : SlideDraft W) (references : List String) : Naming where
  number := slide.number
  slideId := slide.id
  regions := slide.regions
  hints := slide.hintCount
  headings := slide.headings
  isAnswered := slide.answer.isSome
  embeds := slide.embeds
  marks := Script.marks slide.script
  references := references

variable {references : List String}

/-- A piece that gives an identifier adds its mark to the naming of the slide, and nothing else. -/
theorem naming_mark (slide : SlideDraft W) {piece : Piece} {mark : Mark}
    (marked : piece.mark? = some mark) :
    (slide.write piece).naming references = (slide.naming references).mark mark := by
  have marks := Script.marks_concat slide.script ⟨piece, slide.regions, slide.isDiscarding⟩
  rw [naming, write]
  dsimp only at marks ⊢
  rw [marks, marked]
  rfl

/-- Most pieces name nothing. -/
theorem naming_write (slide : SlideDraft W) {piece : Piece} (unmarked : piece.mark? = none) :
    (slide.write piece).naming references = slide.naming references := by
  have marks := Script.marks_concat slide.script ⟨piece, slide.regions, slide.isDiscarding⟩
  rw [naming, write]
  dsimp only at marks ⊢
  rw [marks, unmarked, Option.toList_none, List.append_nil]
  rfl

/-- The end of a list names nothing. -/
theorem naming_closeList (slide : SlideDraft W) :
    slide.closeList.naming references = slide.naming references := by
  unfold closeList
  split
  · exact naming_write _ rfl
  · rfl

/-- The beginning of a list names nothing. -/
theorem naming_openList (slide : SlideDraft W) (ordered : Bool) :
    (slide.openList ordered).naming references = slide.naming references := by
  unfold openList
  split
  · rfl
  · exact (naming_write _ rfl).trans (naming_closeList slide)

/-- The end of choices names nothing. -/
theorem naming_closeChoices (slide : SlideDraft W) :
    slide.closeChoices.naming references = slide.naming references := by
  unfold closeChoices
  split
  · exact naming_write _ rfl
  · rfl

/-- The beginning of choices names nothing. -/
theorem naming_openChoices (slide : SlideDraft W) :
    slide.openChoices.naming references = slide.naming references := by
  unfold openChoices
  split
  · rfl
  · exact naming_write _ rfl

/-- Closing regions names nothing. As many fewer are open. -/
theorem naming_closeMany (count : Nat) (slide : SlideDraft W) :
    (closeMany count slide).naming references =
      (slide.naming references).within (slide.regions.drop count) := by
  induction count generalizing slide with
  | zero => rfl
  | succ count later =>
    rw [closeMany, later, closeInnermost_regions, List.drop_drop, Nat.add_comm]
    unfold closeInnermost
    split
    · rfl
    · rename_i region outer _
      have closed : (slide.write (.closing (slide.regionElement region))).naming references =
        slide.naming references := naming_write slide rfl
      change ((slide.write _).naming references).within _ = _
      rw [closed]

variable (references) in
/-- Closing a region names nothing, whichever regions are left open. -/
theorem naming_closeRegion (slide : SlideDraft W) (region : Region) :
    ∃ regions, (slide.closeRegion region).naming references =
      (slide.naming references).within regions := by
  unfold closeRegion
  split
  · exact ⟨_, naming_closeMany _ slide⟩
  · exact ⟨slide.regions, rfl⟩

/-- A slide closes its hint as its naming does. -/
theorem naming_closeHint (slide : SlideDraft W) :
    (slide.closeRegion .hint).naming references = (slide.naming references).closeHint := by
  have closed : (slide.naming references).closeHint =
    (slide.naming references).within (withoutHint slide.regions) := rfl
  rw [closed, closeRegion, withoutHint]
  split
  · exact naming_closeMany _ slide
  · rfl

variable (references) in
/-- What is closed at the end of a slide changes what is open, and no names. -/
theorem naming_closeAll (slide : SlideDraft W) : ∃ regions, slide.closeAll.naming references =
    (slide.naming references).within regions := by
  have closed (regions : List Region) (slide : SlideDraft W) :
      ∃ left, (regions.foldl closeRegion slide).naming references =
        (slide.naming references).within left := by
    induction regions generalizing slide with
    | nil => exact ⟨slide.regions, rfl⟩
    | cons region rest later =>
      obtain ⟨left, same⟩ := later (slide.closeRegion region)
      obtain ⟨before, first⟩ := slide.naming_closeRegion references region
      rw [List.foldl_cons, same, first]
      exact ⟨left, rfl⟩
  obtain ⟨left, same⟩ := closed [.extra, .hint, .notes, .hidden]
    { slide with isDiscarding := false }.closeList.closeChoices
  rw [closeAll, same, naming_closeChoices, naming_closeList]
  exact ⟨left, rfl⟩

variable (references) in
/-- A region that is opened is named. -/
theorem naming_of_openRegion {region : Region} (other : region ≠ .hint)
    (opened : slide.openRegion region = .ok after) :
    region ∉ (slide.naming references).regions ∧
      after.naming references = (slide.naming references).enter region := by
  obtain ⟨new, rfl⟩ := eq_of_openRegion opened
  refine ⟨new, (naming_mark _ rfl).trans ?_⟩
  cases region <;> first | rfl | contradiction

variable (references) in
/-- A hint is named by its number. -/
theorem naming_of_openHint {penalty : Float}
    (opened : { slide with hints := slide.hints ++ [penalty] }.openRegion .hint = .ok after) :
    .hint ∉ (slide.naming references).regions ∧
      after.naming references = (slide.naming references).enterHint := by
  obtain ⟨new, rfl⟩ := eq_of_openRegion opened
  exact ⟨new, (naming_mark _ rfl).trans rfl⟩

end SlideDraft

/-- Running text opens strong and emphasised text only. -/
theorem TextStep.mark?_of_mem_ofText {content : String} {element : Element}
    (member : .opening element ∈ ofText content) : element.mark? = none := by
  rw [ofText] at member
  obtain ⟨⟨part, found⟩, -, member⟩ := List.mem_flatMap.1 member
  dsimp only at member
  split at member
  case h_3 => exact absurd (List.mem_singleton.1 member) nofun
  all_goals
    rename_i inner found
    have shorter : inner.length < content.length := Inline.length_lt_of_mem_scan found rfl
    rw [List.cons_append, List.mem_cons, List.mem_append, List.mem_singleton] at member
    rcases member with same | inside | same
    · cases same
      rfl
    · exact mark?_of_mem_ofText inside
    · exact absurd same nofun
termination_by content.length

/-- The elements of running text give no identifiers. -/
theorem TextStep.mark?_of_mem_flatMap {tokens : List Inline} {element : Element}
    (member : .opening element ∈ tokens.flatMap ofToken) : element.mark? = none := by
  obtain ⟨token, -, member⟩ := List.mem_flatMap.1 member
  unfold ofToken at member
  split at member
  case h_3 => exact absurd (List.mem_singleton.1 member) nofun
  all_goals
    rw [List.cons_append, List.mem_cons, List.mem_append, List.mem_singleton] at member
    rcases member with same | inside | same
    · cases same
      rfl
    · exact mark?_of_mem_ofText inside
    · exact absurd same nofun

namespace Draft

open Naming (Reaches)

variable {W : Type} {setting : Setting} {draft after : Draft W}

/-- The names of a draft. -/
def naming (draft : Draft W) : Naming := draft.slide.naming draft.file.references.ids

/-- A piece that gives no identifier leaves the naming of a draft as it is. -/
theorem naming_write (draft : Draft W) {piece : Piece} (unmarked : piece.mark? = none) :
    (draft.write piece).naming = draft.naming := SlideDraft.naming_write draft.slide unmarked

/-- Neither do several such pieces change it. -/
theorem naming_writeAll (draft : Draft W) {pieces : List Piece}
    (unmarked : ∀ piece ∈ pieces, piece.mark? = none) :
    (draft.writeAll pieces).naming = draft.naming := by
  induction pieces generalizing draft with
  | nil => rfl
  | cons piece rest later =>
    obtain ⟨first, unmarked⟩ := List.forall_mem_cons.1 unmarked
    exact (later (draft.write piece) unmarked).trans (naming_write draft first)

section Running

/-- A link that leads forward names nothing, since it is no reference. -/
theorem naming_follow (draft : Draft W) (id : String) :
    (draft.follow id).naming = draft.naming := by
  unfold Draft.follow
  split <;> rfl

/-- A link in the text names nothing. -/
theorem naming_readLink (draft : Draft W) (content url : String) (title : Option String) :
    (draft.readLink content url title).naming = draft.naming := by
  unfold readLink
  split
  · exact naming_write draft rfl
  · refine (naming_follow _ _).trans (naming_writeAll draft ?_)
    split <;> simp [Piece.mark?, Element.mark?]
  · exact (naming_write _ rfl).trans (naming_follow draft _)
  · exact naming_write draft rfl

/-- An image names nothing. -/
theorem naming_readImage (draft : Draft W) (alternative path : String) (title : Option String) :
    (draft.readImage setting alternative path title).naming = draft.naming := by
  unfold readImage
  split
  · exact naming_write draft rfl
  · dsimp only
    split
    · split <;> exact naming_write _ rfl
    · exact naming_write _ rfl

/-- A link that is given by key names nothing. -/
theorem naming_readKeyedLink (draft : Draft W) (content key : String) (image : Bool) :
    (draft.readKeyedLink setting content key image).naming = draft.naming := by
  unfold readKeyedLink
  split
  · split
    · exact naming_readImage draft _ _ _
    · exact naming_readLink draft _ _ _
  · exact naming_write draft rfl

variable [Weight W]

/-- Links that are settled leave the references as they are. -/
theorem references_of_settle (settled : draft.settle setting = .ok after) :
    after.file.references = draft.file.references := by
  unfold settle at settled
  split at settled
  · contradiction
  · cases settled
    rfl

/-- A definition adds a reference, which has an identifier of its own. -/
theorem naming_of_define {name counter : String} {kind : ReferenceKind}
    {result : Draft W × Reference.Defined}
    (made : draft.define setting (Reference.idOf name) kind counter = .ok result) :
    ∃ slug, result.2.id = "slidoc-ref-" ++ slug ∧
      "slidoc-ref-" ++ slug ∉ draft.naming.references ∧ result.1.naming =
        { draft.naming with references := draft.naming.references ++ ["slidoc-ref-" ++ slug] } := by
  obtain ⟨⟨rest, named⟩, free⟩ := draft.file.references.define_spec (Reference.idOf name) counter
    kind draft.slide.number
  have ids := draft.file.references.ids_define (Reference.idOf name) counter kind draft.slide.number
  rw [Reference.idOf, String.append_assoc, ← Reference.idOf] at named
  rw [named] at free ids
  unfold define at made
  dsimp only at made
  split at made
  · obtain ⟨settled, settles, same⟩ := bind_eq_ok.1 made
    cases same
    refine ⟨_, named, free, ?_⟩
    rw [naming, slide_of_settle settles, references_of_settle settles]
    exact congrArg draft.slide.naming ids
  · cases made
    exact ⟨_, named, free, congrArg draft.slide.naming ids⟩

/-- A reference that is defined is named where it stands. -/
theorem reaches_of_define {name counter : String} {kind : ReferenceKind}
    {result : Draft W × Reference.Defined} {piece : Piece}
    (made : draft.define setting (Reference.idOf name) kind counter = .ok result)
    (marked : piece.mark? = some ⟨result.2.id, false⟩) :
    Reaches draft.naming (result.1.write piece).naming := by
  obtain ⟨slug, id, new, same⟩ := naming_of_define made
  have written : (result.1.write piece).naming = result.1.naming.mark ⟨result.2.id, false⟩ :=
    SlideDraft.naming_mark result.1.slide marked
  rw [written, same, id]
  exact (Naming.Step.refer draft.naming slug new).reaches

/-- A definition in the text gives the identifier of its reference, which no other reference of the
file has. -/
theorem reaches_of_readDefinition {content key : String}
    (read : draft.readDefinition setting content key = .ok after) :
    Reaches draft.naming after.naming := by
  unfold readDefinition at read
  simp only [bind_eq_ok, pure_eq_ok] at read
  obtain ⟨⟨middle, defined⟩, made, rfl⟩ := read
  exact reaches_of_define made rfl

/-- Of the markup within a line, only definitions give identifiers. -/
theorem reaches_of_readToken {token : Inline} (read : draft.readToken setting token = .ok after) :
    Reaches draft.naming after.naming := by
  cases token with
  | definition content key => exact reaches_of_readDefinition read
  | call plugin action argument =>
    cases read
    exact .of_eq (naming_write _ rfl)
  | link content url title image =>
    cases read
    split
    · exact .of_eq (naming_readImage draft _ _ _)
    · exact .of_eq (naming_readLink draft _ _ _)
  | keyedLink content key image =>
    cases read
    exact .of_eq (naming_readKeyedLink draft content key image)
  | strong => exact Except.ok.inj read ▸ .refl _
  | emphasis => exact Except.ok.inj read ▸ .refl _
  | _ =>
    cases read
    exact .of_eq (naming_write _ rfl)

/-- Running text gives the identifiers of its definitions, as long as its elements give none. -/
theorem reaches_of_readSteps {steps : List TextStep}
    (unmarked : ∀ element, .opening element ∈ steps → element.mark? = none)
    (read : steps.foldlM (readStep setting) draft = .ok after) :
    Reaches draft.naming after.naming := by
  induction steps generalizing draft with
  | nil => exact Except.ok.inj read ▸ .refl _
  | cons step rest later =>
    rw [List.foldlM_cons, bind_eq_ok] at read
    obtain ⟨middle, stepped, read⟩ := read
    refine .trans ?_ (later (fun element member => unmarked element (.tail _ member)) read)
    cases step with
    | token token => exact reaches_of_readToken stepped
    | opening element =>
      cases stepped
      exact .of_eq (naming_write draft (unmarked element List.mem_cons_self))
    | closing element =>
      cases stepped
      exact .of_eq (naming_write draft rfl)

/-- Inside an element only references are named. -/
theorem reaches_of_readInside {element : Element} {steps : List TextStep}
    (unmarked : ∀ element, .opening element ∈ steps → element.mark? = none)
    (read : readInside setting element steps draft = .ok after) :
    Reaches (draft.write (.opening element)).naming after.naming := by
  unfold readInside at read
  simp only [bind_eq_ok, pure_eq_ok] at read
  obtain ⟨middle, read, rfl⟩ := read
  rw [naming_write middle rfl]
  exact reaches_of_readSteps unmarked read

/-- An element that has no identifier. -/
theorem reaches_of_readPlain {element : Element} {steps : List TextStep}
    (plain : element.mark? = none)
    (unmarked : ∀ element, .opening element ∈ steps → element.mark? = none)
    (read : readInside setting element steps draft = .ok after) :
    Reaches draft.naming after.naming := by
  have inside := reaches_of_readInside unmarked read
  have opens : (draft.write (.opening element)).naming = draft.naming := naming_write draft plain
  rwa [opens] at inside

end Running

section Directives

variable [Weight W]

omit [Weight W] in
/-- A marker of choices names nothing. -/
theorem naming_of_readMarker {marker : Char × Bool}
    (read : draft.readMarker setting marker = .ok after) : after.naming = draft.naming := by
  have presents (choices : Choices) : (draft.withSlide
      { draft.slide with choices := choices }.openChoices).naming = draft.naming :=
    SlideDraft.naming_openChoices { draft.slide with choices := choices }
  unfold readMarker at read
  dsimp only at read
  split at read
  · split at read
    · simp only [bind_eq_ok, fault_ne_ok, false_and, exists_false] at read
    · simp only [bind_eq_ok, located_eq_ok, pure_eq_ok] at read
      obtain ⟨choices, -, rfl⟩ := read
      exact presents choices
  · simp only [bind_eq_ok, located_eq_ok, pure_eq_ok] at read
    obtain ⟨choices, -, rfl⟩ := read
    exact presents choices

omit [Weight W] in
/-- Tags name nothing. -/
theorem naming_of_readTags {content : String}
    (read : draft.readTags setting content = .ok after) : after.naming = draft.naming := by
  have closed : (draft.withSlide draft.slide.closeChoices).naming = draft.naming :=
    SlideDraft.naming_closeChoices draft.slide
  unfold readTags at read
  dsimp only at read
  split at read
  · cases read
    exact closed
  · split at read
    · simp only [bind_eq_ok, fault_ne_ok, false_and, exists_false] at read
    · cases read
      split
      · exact closed
      · exact (naming_write _ rfl).trans closed

omit [Weight W] in
/-- A draft that closes hint and choices closes the hint of its naming. -/
theorem naming_closeHint (draft : Draft W) :
    (draft.withSlide (draft.slide.closeRegion .hint).closeChoices).naming =
      draft.naming.closeHint :=
  (SlideDraft.naming_closeChoices _).trans (SlideDraft.naming_closeHint draft.slide)

omit [Weight W] in
/-- A hint that is shown is named by its number, which grows with it. One that is discarded names
nothing. -/
theorem reaches_of_readHint {penalty : Option Float}
    (read : draft.readHint setting penalty = .ok after) : Reaches draft.naming after.naming := by
  have closed : (draft.withSlide draft.slide.closeChoices).slide.naming draft.file.references.ids =
    draft.naming := SlideDraft.naming_closeChoices draft.slide
  unfold readHint at read
  dsimp only at read
  split at read
  · cases read
    exact .of_eq closed
  · simp only [bind_eq_ok, located_eq_ok, pure_eq_ok] at read
    obtain ⟨slide, opened, rfl⟩ := read
    obtain ⟨new, named⟩ := SlideDraft.naming_of_openHint draft.file.references.ids opened
    rw [SlideDraft.naming_closeHint, closed] at new named
    exact (Naming.Step.hint draft.naming new).reaches_of_eq named

omit [Weight W] in
/-- A region other than a hint opened where a hint has ended. -/
theorem reaches_of_openRegion {region : Region} {before slide : SlideDraft W}
    (other : region = .notes ∨ region = .extra)
    (closed : before.naming draft.file.references.ids = draft.naming.closeHint)
    (opened : before.openRegion region = .ok slide) :
    Reaches draft.naming (draft.withSlide slide).naming := by
  have apart : region ≠ .hint := by rcases other with rfl | rfl <;> exact nofun
  obtain ⟨new, named⟩ := SlideDraft.naming_of_openRegion draft.file.references.ids apart opened
  rw [closed] at new named
  exact (Naming.Step.past draft.naming region other new).reaches_of_eq named

omit [Weight W] in
/-- Notes are named where they begin on a slide. -/
theorem reaches_of_readNotes (read : draft.readNotes setting = .ok after) :
    Reaches draft.naming after.naming := by
  have closed := naming_closeHint draft
  have quiet := (Naming.Step.closeHint draft.naming).reaches_of_eq closed
  unfold readNotes at read
  dsimp only at read
  split at read
  · cases read
    exact quiet
  · split at read
    · cases read
      exact quiet
    · simp only [bind_eq_ok, located_eq_ok, pure_eq_ok] at read
      obtain ⟨slide, opened, rfl⟩ := read
      refine reaches_of_openRegion (.inl rfl) ?_ opened
      exact closed

omit [Weight W] in
/-- Extra material is named where it begins on a slide. -/
theorem reaches_of_readExtra (read : draft.readExtra setting = .ok after) :
    Reaches draft.naming after.naming := by
  unfold readExtra at read
  simp only [bind_eq_ok, located_eq_ok, pure_eq_ok] at read
  obtain ⟨slide, opened, rfl⟩ := read
  exact reaches_of_openRegion (.inr rfl) (naming_closeHint draft) opened

omit [Weight W] in
/-- A plugin that the run knows has a part of the slide. -/
theorem naming_of_readPlugin {name arguments : String} {plugin : Plugin}
    (read : draft.readPlugin setting name arguments plugin = .ok after) :
    after.naming = draft.naming.name (.plugin name) := by
  unfold readPlugin at read
  dsimp only at read
  split at read
  all_goals
    rw [bind_eq_ok] at read
    obtain ⟨heads, _, read⟩ := read
    split at read
    all_goals
      simp only [bind_eq_ok, pure_eq_ok] at read
      obtain ⟨top, _, body, _, button, _, rfl⟩ := read
      exact SlideDraft.naming_mark draft.slide rfl

omit [Weight W] in
/-- An embed is named by its plugin, if there is one. A plugin is embedded at most once on a
slide. -/
theorem reaches_of_readEmbed {name arguments : String}
    (read : draft.readEmbed setting name arguments = .ok after) :
    Reaches draft.naming after.naming := by
  unfold readEmbed at read
  dsimp only at read
  by_cases old : draft.slide.embeds.contains name = true
  · rw [if_pos old] at read
    simp only [bind_eq_ok, fault_ne_ok, false_and, exists_false] at read
  · rw [if_neg old] at read
    have new : name ∉ draft.naming.embeds := by simpa [naming, SlideDraft.naming] using old
    split at read
    · rw [naming_of_readPlugin read]
      exact (Naming.Step.embed draft.naming name new).reaches
    · cases read
      rw [naming_write _ rfl]
      exact (Naming.Step.miss draft.naming name).reaches

/-- An answer has a part of the slide. Only the first has. -/
theorem reaches_of_readAnswer {content : String}
    (read : draft.readAnswer setting content = .ok after) :
    Reaches draft.naming after.naming := by
  have closed := naming_closeHint draft
  have quiet := (Naming.Step.closeHint draft.naming).reaches_of_eq closed
  unfold readAnswer at read
  dsimp only at read
  split at read
  · cases read
    exact quiet
  · rename_i unanswered
    have answered := quiet.then (.answer _ (Bool.eq_false_iff.2 unanswered))
    have wrote (keyword : String) (correct : Option CorrectAnswer) :
        ((draft.withSlide (draft.slide.closeRegion .hint).closeChoices).write
          (.answer (draft.slide.closeRegion .hint).closeChoices.id keyword correct)).naming =
            (draft.withSlide (draft.slide.closeRegion .hint).closeChoices).naming.name .answer :=
      SlideDraft.naming_mark _ rfl
    rw [bind_eq_ok] at read
    obtain ⟨answer, parsed, read⟩ := read
    split at read
    · split at read
      · simp only [bind_eq_ok, fault_ne_ok, false_and, exists_false] at read
      · cases read
        rw [← wrote] at answered
        exact answered
    · cases read
      rw [← wrote] at answered
      exact answered

end Directives

section Text

variable [Weight W]

/-- An item of a list of choices gives the identifiers that its text gives. -/
theorem reaches_of_readChoice {item : (Char × Bool) × List Inline}
    (read : draft.readChoice setting item = .ok after) : Reaches draft.naming after.naming := by
  unfold readChoice at read
  rw [bind_eq_ok] at read
  obtain ⟨middle, presented, read⟩ := read
  rw [← naming_of_readMarker presented]
  refine reaches_of_readPlain ?_ (fun _ => TextStep.mark?_of_mem_flatMap) read
  split <;> rfl

/-- Items one after another give the identifiers of their texts. -/
theorem reaches_of_readChoices {items : List ((Char × Bool) × List Inline)}
    (read : items.foldlM (readChoice setting) draft = .ok after) :
    Reaches draft.naming after.naming := by
  have choice {middle next : Draft W} {item : (Char × Bool) × List Inline}
      (read : middle.readChoice setting item = .ok next)
      (earlier : Reaches draft.naming middle.naming) : Reaches draft.naming next.naming :=
    earlier.trans (reaches_of_readChoice read)
  have choices := foldlM_induction choice read (.refl _)
  exact choices

/-- A paragraph gives the identifiers of its text, before its choices and in them. -/
theorem reaches_of_readParagraph {content : String}
    (read : draft.readParagraph setting content = .ok after) :
    Reaches draft.naming after.naming := by
  unfold readParagraph at read
  dsimp only at read
  split at read
  all_goals
    rw [bind_eq_ok] at read
    obtain ⟨middle, lead, read⟩ := read
  · cases lead
    exact reaches_of_readChoices read
  · have opened := reaches_of_readPlain rfl (fun _ => TextStep.mark?_of_mem_flatMap) lead
    exact opened.trans (reaches_of_readChoices read)

/-- A heading that defines a reference is named by it. -/
theorem reaches_of_defineHeading {content : String} {key : Option String}
    {result : Draft W × Option String} (level : Nat) (number : HeadingNumber)
    (defined : draft.defineHeading setting content key = .ok result) :
    Reaches draft.naming (result.1.write (.opening (.heading level result.2 number))).naming := by
  unfold defineHeading at defined
  dsimp only at defined
  split at defined
  · rw [bind_eq_ok] at defined
    obtain ⟨found, made, same⟩ := defined
    cases same
    exact reaches_of_define made rfl
  · split at defined
    · cases defined
      exact .of_eq (naming_write draft rfl)
    · rw [bind_eq_ok] at defined
      obtain ⟨found, made, same⟩ := defined
      cases same
      exact reaches_of_define made rfl

omit [Weight W] in
/-- The number of a heading is no identifier. -/
theorem naming_numberHeading (draft : Draft W) (level : Nat) (content : String) :
    (draft.numberHeading setting level content).1.naming = draft.naming := by
  unfold numberHeading
  dsimp only
  split
  · rfl
  · split <;> rfl

/-- A heading may name the region that it hides, and then its own label. It counts as one heading
more. -/
theorem reaches_of_readHeading {level : Nat} {content : String}
    (read : draft.readHeading setting level content = .ok after) :
    Reaches draft.naming after.naming := by
  unfold readHeading at read
  dsimp only at read
  have headed {slide : SlideDraft W} {text : String} {key : Option String}
      {header : Option String}
      (before : Reaches draft.naming (draft.withSlide slide).naming.head)
      (read : (do
        let headed := draft.withSlide
          { slide with headings := slide.headings + 1, header := header }
        let numbered := numberHeading setting headed level text
        let defined ← defineHeading setting numbered.1 text key
        readInside setting (.heading level defined.2 numbered.2) (TextStep.ofText text) defined.1) =
          .ok after) :
      Reaches draft.naming after.naming := by
    rw [bind_eq_ok] at read
    obtain ⟨result, defined, read⟩ := read
    have named := reaches_of_defineHeading level (numberHeading setting
      (draft.withSlide { slide with headings := slide.headings + 1, header := header })
      level text).2 defined
    rw [naming_numberHeading] at named
    exact (before.trans named).trans
      (reaches_of_readInside (fun _ => TextStep.mark?_of_mem_ofText) read)
  split at read
  · rename_i hidden
    rw [bind_eq_ok] at read
    obtain ⟨slide, opened, read⟩ := read
    simp only [hides, Bool.and_eq_true, beq_iff_eq] at hidden
    obtain ⟨new, named⟩ := SlideDraft.naming_of_openRegion draft.file.references.ids (by decide)
      (located_eq_ok.1 opened)
    refine headed ?_ read
    have same : (draft.withSlide slide).naming = draft.naming.enter .hidden := named
    rw [same]
    exact (Naming.Step.hide draft.naming hidden.1.1 new).reaches
  · exact headed (Naming.Step.head draft.naming).reaches read

/-- An item of a list gives the identifiers of its text. -/
theorem reaches_of_readListItem {ordered : Bool} {content : String}
    (read : draft.readListItem setting ordered content = .ok after) :
    Reaches draft.naming after.naming := by
  have opened : (draft.withSlide (draft.slide.openList ordered)).naming = draft.naming :=
    SlideDraft.naming_openList draft.slide ordered
  rw [← opened]
  exact reaches_of_readPlain rfl (fun _ => TextStep.mark?_of_mem_ofText) read

/-- Every question to discuss is named alike. -/
theorem reaches_of_readDiscuss {content : String}
    (read : draft.readDiscuss setting content = .ok after) :
    Reaches draft.naming after.naming := by
  have closed : (draft.withSlide { draft.slide.closeChoices with discuss := true }).naming =
    draft.naming := SlideDraft.naming_closeChoices draft.slide
  have discussed := (Naming.Step.discuss draft.naming).reaches
  have named :
      ((draft.withSlide { draft.slide.closeChoices with discuss := true }).write
        (.opening (.discussion draft.slide.closeChoices.id))).naming =
          (draft.withSlide { draft.slide.closeChoices with discuss := true }).naming.name
            .discussion :=
    SlideDraft.naming_mark _ rfl
  rw [← closed] at discussed ⊢
  exact discussed.trans (.trans (.of_eq named)
    (reaches_of_readInside (fun _ => TextStep.mark?_of_mem_ofText) read))

end Text

variable [Weight W]

/-- **What a block names.** -/
theorem reaches_of_readContent {block : Block}
    (read : draft.readContent setting block = .ok after) : Reaches draft.naming after.naming := by
  cases block with
  | text content => exact reaches_of_readParagraph read
  | heading level content => exact reaches_of_readHeading read
  | pluginEmbed name arguments => exact reaches_of_readEmbed read
  | answer content => exact reaches_of_readAnswer read
  | discuss content => exact reaches_of_readDiscuss read
  | tags content => exact .of_eq (naming_of_readTags read)
  | hint penalty => exact reaches_of_readHint read
  | notes => exact reaches_of_readNotes read
  | extra => exact reaches_of_readExtra read
  | listItem ordered content => exact reaches_of_readListItem read
  | pluginDefinition name content => exact Except.ok.inj read ▸ .refl _
  | metadata name content =>
    cases read
    split
    · exact .refl _
    · exact .of_eq (naming_write draft rfl)
  | quoteStart =>
    cases read
    exact .of_eq (naming_write _ rfl)
  | quoteEnd =>
    cases read
    exact .of_eq (naming_write _ rfl)
  | _ =>
    cases read
    exact .of_eq (naming_write draft rfl)

/-- A block reaches the next naming by steps, each of which gives at most one identifier. -/
theorem reaches_of_readPart {block : Block} (read : draft.readPart setting block = .ok after) :
    Reaches draft.naming after.naming := by
  have begun : (draft.beforeBlock block).naming = draft.naming := by
    unfold beforeBlock
    split
    · rfl
    · exact SlideDraft.naming_closeList draft.slide
  rw [← begun]
  exact reaches_of_readContent read

end Draft

end LectureDeck
