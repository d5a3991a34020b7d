import LectureDeck.Proofs.Deck.Regions
import LectureDeck.Proofs.Deck.SlideLoop

/-!
# Lists, choices and quotes

Each slide closes the lists, the choices and the quotes that it opens: taken by itself, each kind
nests in its script (`LectureDeck.Draft.closesGroups_of_readFile`). Together they need not nest, as
each is closed where its own rules say.
-/

namespace LectureDeck

namespace Element

/-- The element is a list. -/
def isList : Element → Bool
  | .list _ => true
  | _ => false

/-- The element holds the choices of a question. -/
def isChoices : Element → Bool
  | .choices => true
  | _ => false

/-- The element is a quote. -/
def isQuote : Element → Bool
  | .quote => true
  | _ => false

/-- The element is a list, the choices of a question, or a quote. -/
def isGroup (element : Element) : Bool := element.isList || element.isChoices || element.isQuote

/-- A list is one of the groups. -/
theorem isGroup_of_isList (element : Element) (list : element.isList = true) :
    element.isGroup = true := by simp [isGroup, list]

/-- The choices of a question are one of the groups. -/
theorem isGroup_of_isChoices (element : Element) (choices : element.isChoices = true) :
    element.isGroup = true := by simp [isGroup, choices]

/-- A quote is one of the groups. -/
theorem isGroup_of_isQuote (element : Element) (quote : element.isQuote = true) :
    element.isGroup = true := by simp [isGroup, quote]

/-- Every group wraps blocks, so that no plain piece is the edge of one. -/
theorem isWrapper_of_isGroup (element : Element) (group : element.isGroup = true) :
    element.isWrapper = true := by
  cases element <;> first | rfl | contradiction

end Element

/-- The lists, the choices and the quotes of a script nest, each kind by itself. -/
structure Script.ClosesGroups (script : List Entry) : Prop where
  lists : Nested Element.isList (pieces script)
  choices : Nested Element.isChoices (pieces script)
  quotes : Nested Element.isQuote (pieces script)

namespace SlideDraft

variable {W : Type} {slide after : SlideDraft W}

/-- What is open on a slide of lists, choices and quotes is what its script opened and did not
close. -/
structure Groups (slide : SlideDraft W) : Prop where
  lists : openAfter? Element.isList (Script.pieces slide.script) =
    some (slide.list.toList.map Element.list)
  choices : openAfter? Element.isChoices (Script.pieces slide.script) =
    some (if slide.choicesOpen then [.choices] else [])
  quotes : openAfter? Element.isQuote (Script.pieces slide.script) =
    some (List.replicate slide.depth .quote)

/-- On a new slide no group is open, and its script is empty. -/
theorem groups_start (fileNumber number firstBlock : Nat) :
    (start fileNumber number firstBlock : SlideDraft W).Groups := ⟨rfl, rfl, rfl⟩

/-- Groups depend on the script, the list, the choices and the depth of a slide alone. -/
theorem Groups.of_same (groups : slide.Groups) (script : after.script = slide.script)
    (list : after.list = slide.list) (choices : after.choicesOpen = slide.choicesOpen)
    (depth : after.depth = slide.depth) : after.Groups where
  lists := by rw [script, list, groups.lists]
  choices := by rw [script, choices, groups.choices]
  quotes := by rw [script, depth, groups.quotes]

/-- What is open after one more piece is what the piece leaves open of what was open before it. -/
theorem openAfter?_write (among : Element → Bool) (slide : SlideDraft W) (piece : Piece) :
    openAfter? among (Script.pieces (slide.write piece).script) =
      (openAfter? among (Script.pieces slide.script)).bind fun opened =>
        piece.open? among opened := by
  rw [write, Script.pieces_concat, openAfter?_concat]

/-- A piece written opens or closes what it is a mark of. -/
theorem Groups.of_write (groups : slide.Groups) (piece : Piece)
    (script : after.script = (slide.write piece).script)
    (lists : piece.open? Element.isList (slide.list.toList.map .list) =
      some (after.list.toList.map .list))
    (choices : piece.open? Element.isChoices (if slide.choicesOpen then [.choices] else []) =
      some (if after.choicesOpen then [.choices] else []))
    (quotes : piece.open? Element.isQuote (List.replicate slide.depth .quote) =
      some (List.replicate after.depth .quote)) : after.Groups where
  lists := by
    rw [script, openAfter?_write, groups.lists]
    exact lists
  choices := by
    rw [script, openAfter?_write, groups.choices]
    exact choices
  quotes := by
    rw [script, openAfter?_write, groups.quotes]
    exact quotes

/-- A piece that is a mark of none of them changes none of them. -/
theorem Groups.write (groups : slide.Groups) (piece : Piece)
    (plain : piece.isMark Element.isGroup = false) : (slide.write piece).Groups := by
  refine groups.of_write piece rfl ?_ ?_ ?_ <;> refine Piece.open?_of_not_isMark ?_
  · exact Piece.not_isMark_of_narrower Element.isGroup_of_isList plain
  · exact Piece.not_isMark_of_narrower Element.isGroup_of_isChoices plain
  · exact Piece.not_isMark_of_narrower Element.isGroup_of_isQuote plain

/-- The list of the concepts changes none of them. -/
theorem Groups.tagged (groups : slide.Groups) (tags : Tags) : (slide.tagged tags).Groups := by
  unfold SlideDraft.tagged listed
  split
  · exact groups.of_same (List.append_nil _) rfl rfl rfl
  · exact (groups.write (.concepts tags.all) rfl).of_same rfl rfl rfl rfl

/-- The end of a list is written where one is open. -/
theorem Groups.closeList (groups : slide.Groups) : slide.closeList.Groups := by
  unfold SlideDraft.closeList
  split
  · rename_i ordered opened
    refine groups.of_write (.closing (.list ordered)) rfl ?_ rfl rfl
    rw [opened]
    exact Piece.open?_closing Element.isList (rfl : (Element.list ordered).isList = true) []
  · exact groups

/-- No list is open after its end. -/
theorem list_closeList (slide : SlideDraft W) : slide.closeList.list = none := by
  unfold SlideDraft.closeList
  split
  · rfl
  · assumption

/-- The beginning of a list is written where none of its kind is open, behind the end of one of the
other kind. -/
theorem Groups.openList (groups : slide.Groups) (ordered : Bool) :
    (slide.openList ordered).Groups := by
  unfold SlideDraft.openList
  split
  · exact groups
  · refine groups.closeList.of_write (.opening (.list ordered)) rfl ?_ rfl rfl
    rw [list_closeList]
    rfl

/-- The end of choices is written where they are open. -/
theorem Groups.closeChoices (groups : slide.Groups) : slide.closeChoices.Groups := by
  unfold SlideDraft.closeChoices
  split
  · rename_i opened
    refine groups.of_write (.closing .choices) rfl rfl ?_ rfl
    rw [opened]
    rfl
  · exact groups

/-- The beginning of choices is written where none are open. -/
theorem Groups.openChoices (groups : slide.Groups) : slide.openChoices.Groups := by
  unfold SlideDraft.openChoices
  split
  · exact groups
  · rename_i closed
    refine groups.of_write (.opening .choices) rfl rfl ?_ rfl
    rw [if_neg closed]
    rfl

/-- A quote that begins is one level deeper, and its beginning is written. -/
theorem Groups.openQuote (groups : slide.Groups) :
    ({ slide with depth := slide.depth + 1 }.write (.opening .quote) : SlideDraft W).Groups :=
  groups.of_write (.opening .quote) rfl rfl rfl rfl

/-- A quote that ends is one level less, and its end is written. There is one to end. -/
theorem Groups.closeQuote (groups : slide.Groups) (inside : 0 < slide.depth) :
    ({ slide with depth := slide.depth - 1 }.write (.closing .quote) : SlideDraft W).Groups := by
  obtain ⟨depth, deep⟩ := Nat.exists_eq_succ_of_ne_zero (Nat.ne_of_gt inside)
  refine groups.of_write (.closing .quote) rfl rfl rfl ?_
  rw [SlideDraft.write, deep]
  rfl

/-- The beginning of a region is no edge of a group. -/
theorem Groups.openRegion (groups : slide.Groups) {region : Region}
    (opened : slide.openRegion region = .ok after) : after.Groups := by
  obtain ⟨-, rfl⟩ := eq_of_openRegion opened
  refine Groups.write ?_ _ rfl
  exact groups.of_same rfl rfl rfl rfl

/-- Nor is the end of a region. -/
theorem Groups.closeInnermost (groups : slide.Groups) : slide.closeInnermost.Groups := by
  unfold SlideDraft.closeInnermost
  split
  · exact groups
  · rename_i region _ _
    have closed := groups.write (.closing (slide.regionElement region)) rfl
    exact closed.of_same rfl rfl rfl rfl

/-- The ends of several regions are no edges of groups. -/
theorem Groups.closeMany (groups : slide.Groups) (count : Nat) :
    (SlideDraft.closeMany count slide).Groups := by
  induction count generalizing slide with
  | zero => exact groups
  | succ count later => exact later groups.closeInnermost

/-- A region that closes leaves groups open that were open in it. -/
theorem Groups.closeRegion (groups : slide.Groups) (region : Region) :
    (slide.closeRegion region).Groups := by
  unfold SlideDraft.closeRegion
  split
  · exact groups.closeMany _
  · exact groups

/-- The innermost region closes without the list and the choices that are open. -/
theorem closeInnermost_groups (slide : SlideDraft W) :
    slide.closeInnermost.list = slide.list ∧
      slide.closeInnermost.choicesOpen = slide.choicesOpen := by
  unfold SlideDraft.closeInnermost
  split <;> exact ⟨rfl, rfl⟩

/-- Several regions close without them as well. -/
theorem closeMany_groups (count : Nat) (slide : SlideDraft W) :
    (closeMany count slide).list = slide.list ∧
      (closeMany count slide).choicesOpen = slide.choicesOpen := by
  induction count generalizing slide with
  | zero => exact ⟨rfl, rfl⟩
  | succ count later =>
    obtain ⟨list, choices⟩ := closeInnermost_groups slide
    exact ⟨(later _).1.trans list, (later _).2.trans choices⟩

/-- A region closes with the regions that are open in it, and without list and choices. -/
theorem closeRegion_groups (slide : SlideDraft W) (region : Region) :
    (slide.closeRegion region).list = slide.list ∧
      (slide.closeRegion region).choicesOpen = slide.choicesOpen := by
  unfold SlideDraft.closeRegion
  split
  · exact closeMany_groups _ slide
  · exact ⟨rfl, rfl⟩

/-- All regions close at the end of a slide without the list and the choices that are open. Those
were closed before. -/
theorem Groups.closeRegions (groups : slide.Groups) (regions : List Region) :
    (regions.foldl SlideDraft.closeRegion slide).Groups ∧
      (regions.foldl SlideDraft.closeRegion slide).list = slide.list ∧
      (regions.foldl SlideDraft.closeRegion slide).choicesOpen = slide.choicesOpen := by
  induction regions generalizing slide with
  | nil => exact ⟨groups, rfl, rfl⟩
  | cons region rest later =>
    obtain ⟨list, choices⟩ := closeRegion_groups slide region
    obtain ⟨closed, sameList, sameChoices⟩ := later (groups.closeRegion region)
    exact ⟨closed, sameList.trans list, sameChoices.trans choices⟩

/-- A slide that ends outside quotes has closed all its lists, choices and quotes. -/
theorem Groups.closeAll (groups : slide.Groups) (outermost : slide.depth = 0) :
    Script.ClosesGroups slide.closeAll.script := by
  have shown : ({ slide with isDiscarding := false } : SlideDraft W).Groups :=
    groups.of_same rfl rfl rfl rfl
  obtain ⟨closed, list, choices⟩ := shown.closeList.closeChoices.closeRegions
    [.extra, .hint, .notes, .hidden]
  have noList : slide.closeAll.list = none := by
    refine list.trans (Eq.trans ?_ (list_closeList { slide with isDiscarding := false }))
    unfold SlideDraft.closeChoices
    split <;> rfl
  have noChoices : slide.closeAll.choicesOpen = false := by
    refine choices.trans ?_
    unfold SlideDraft.closeChoices
    split
    · rfl
    · simp_all
  have noQuote : slide.closeAll.depth = 0 :=
    (SamePlace.of_bare (bare_closeAll slide)).depth.trans outermost
  have closed : slide.closeAll.Groups := closed
  exact ⟨by rw [Nested, closed.lists, noList]; rfl, by rw [Nested, closed.choices, noChoices]; rfl,
    by rw [Nested, closed.quotes, noQuote]; rfl⟩

end SlideDraft

namespace Draft

variable {W : Type} {setting : Setting} {draft after : Draft W}

/-- The edge of a quote opens it or closes it, if one is open. -/
theorem groups_turned (groups : draft.slide.Groups) (block : Block)
    (inside : block = .quoteEnd → 0 < draft.slide.depth) : (draft.turned block).slide.Groups := by
  cases block with
  | quoteStart => exact groups.openQuote
  | quoteEnd => exact groups.closeQuote (inside rfl)
  | _ =>
    exact copied_induction (fun after => after.slide.Groups) groups _ fun piece copy =>
      groups.write piece (Piece.not_isMark_of_isCopy copy _)

variable [Weight W]

/-- Every move keeps what is open of the groups and what the script opened of them the same. -/
theorem Move.groups (move : Move setting draft after) (groups : draft.slide.Groups) :
    after.slide.Groups := by
  cases move with
  | write piece plain =>
    refine groups.write piece ?_
    exact Piece.not_isMark_of_narrower Element.isWrapper_of_isGroup
      (Piece.not_isMark_of_isPlain plain)
  | tag content => exact groups.tagged (Tags.parse content)
  | follow id => rwa [slide_follow]
  | define made => rwa [slide_of_define made]
  | number level content => rwa [slide_numberHeading]
  | closeList => exact groups.closeList
  | openList ordered => exact groups.openList ordered
  | closeChoices => exact groups.closeChoices
  | @present _ choices agrees presented =>
    have same : ({ draft.slide with choices := choices } : SlideDraft W).Groups :=
      groups.of_same rfl rfl rfl rfl
    exact same.openChoices
  | closeHint => exact groups.closeRegion .hint
  | hint penalty body opened =>
    refine SlideDraft.Groups.openRegion ?_ opened
    exact (groups.closeRegion .hint).of_same rfl rfl rfl rfl
  | openNotes body opened => exact groups.openRegion opened
  | extra opened => exact (groups.closeRegion .hint).closeChoices.openRegion opened
  | hide first opened => exact groups.openRegion opened
  | _ => exact groups.of_same rfl rfl rfl rfl

/-- What each move keeps is kept by moves one after another. -/
theorem Moves.groups (moves : Moves setting draft after) (groups : draft.slide.Groups) :
    after.slide.Groups :=
  moves.preserve (fun move earlier => move.groups earlier) groups

/-- The slide that is read keeps count of its groups, and those that have ended have closed
theirs. -/
structure TracksGroups (draft : Draft W) : Prop where
  slide : draft.slide.Groups
  scripts : ∀ script ∈ draft.file.scripts, Script.ClosesGroups script

/-- A slide that ends outside of any quote has closed its groups: the list and the choices at its
end, the quotes by their own ends. -/
theorem TracksGroups.of_closeSlide (tracks : draft.TracksGroups) (outermost : draft.slide.depth = 0)
    {endBlock : Nat} (closed : draft.closeSlide setting endBlock = .ok after) :
    ∀ script ∈ after.file.scripts, Script.ClosesGroups script := by
  rw [scripts_of_closeSlide closed]
  intro script member
  rcases List.mem_append.1 member with earlier | last
  · exact tracks.scripts script earlier
  · exact List.mem_singleton.1 last ▸ tracks.slide.closeAll outermost

/-- The next slide starts without groups. -/
theorem TracksGroups.of_nextSlide (tracks : draft.TracksGroups) (outermost : draft.slide.depth = 0)
    {endBlock : Nat} (opened : draft.nextSlide setting endBlock = .ok after) :
    after.TracksGroups := by
  obtain ⟨ended, closed, rfl⟩ := exists_of_nextSlide opened
  have scripts := tracks.of_closeSlide outermost closed
  exact ⟨SlideDraft.groups_start _ _ _, scripts⟩

/-- A block keeps track of the groups, if a quote is open wherever it ends one. -/
theorem TracksGroups.of_readPart (tracks : draft.TracksGroups) {block : Block}
    (inside : block = .quoteEnd → 0 < draft.slide.depth)
    (read : draft.readPart setting block = .ok after) : after.TracksGroups := by
  have begun : Moves setting draft (draft.beforeBlock block) := moves_beforeBlock draft block
  have moves := moves_of_readContent read
  have turned := groups_turned (begun.groups tracks.slide) block fun edge =>
    begun.stays.place.depth ▸ inside edge
  refine ⟨moves.groups turned, ?_⟩
  rw [moves.stays.file.scripts, file_turned, begun.stays.file.scripts]
  exact tracks.scripts

/-- A block keeps track of the groups also where it begins a slide, which happens outside of quotes
alone. -/
theorem TracksGroups.of_readBlock (tracks : draft.TracksGroups) {place : Block × Nat}
    (inside : place.1 = .quoteEnd → 0 < draft.slide.depth)
    (read : draft.readBlock setting place = .ok after) : after.TracksGroups := by
  have noted {middle : Draft W} (tracks : middle.TracksGroups) :
      (middle.noteContent place.1).TracksGroups :=
    ⟨tracks.slide.of_same rfl rfl rfl rfl, tracks.scripts⟩
  have edge (outermost : draft.slide.depth = 0) : place.1 ≠ .quoteEnd :=
    fun edge => Nat.ne_of_gt (inside edge) outermost
  cases blockRead_of_readBlock read with
  | ends outermost _ opened => exact tracks.of_nextSlide outermost opened
  | starts outermost _ _ next part =>
    exact (noted (tracks.of_nextSlide outermost next)).of_readPart (absurd · (edge outermost)) part
  | continues outermost _ _ part =>
    exact (noted tracks).of_readPart (absurd · (edge outermost)) part
  | quoted _ part => exact tracks.of_readPart inside part

/-- Reading blocks keeps count of groups, as their quotes are closed where they are open. -/
theorem tracksGroups_of_readBlocks {blocks : List Block}
    (quotes : OutlineDraft.ClosesQuotes blocks)
    (read : blocks.zipIdx.foldlM (readBlock setting) (start setting.fileNumber) = .ok draft) :
    draft.TracksGroups ∧ draft.Follows setting (SlideWalk.ofBlocks blocks) := by
  induction blocks using List.reverseRecOn generalizing draft with
  | nil =>
    cases read
    exact ⟨⟨SlideDraft.groups_start _ _ _, fun _ member => absurd member List.not_mem_nil⟩,
      follows_start setting⟩
  | append_singleton blocks block earlier =>
    rw [foldlM_zipIdx_concat, bind_eq_ok] at read
    obtain ⟨middle, before, last⟩ := read
    obtain ⟨quotes, inside⟩ := Stepwise.concat_iff.1 quotes
    obtain ⟨tracks, follows⟩ := earlier quotes before
    rw [SlideWalk.ofBlocks_concat]
    -- The walk tells how many quotes are open, so none is closed that is not.
    refine ⟨tracks.of_readBlock (fun edge => ?_) last, follows.of_readBlock last⟩
    rw [follows.depth]
    exact inside edge

/-- **Slides close their groups.** When the blocks of a source are read to their end, every script
closes the lists, the choices and the quotes that it opened. -/
theorem closesGroups_of_readFile (outlined : Outline.ofSource setting.source = .ok setting.outline)
    (read : readFile setting = .ok after) :
    ∀ script ∈ after.file.scripts, Script.ClosesGroups script := by
  unfold readFile at read
  rw [bind_eq_ok] at read
  obtain ⟨last, blocks, closed⟩ := read
  obtain ⟨tracks, follows⟩ :=
    tracksGroups_of_readBlocks (Outline.closesQuotes_of_ofSource outlined) blocks
  refine tracks.of_closeSlide ?_ closed
  rw [follows.depth]
  exact (Outline.map_endBlock_of_ofSource outlined).2

end Draft

end LectureDeck
