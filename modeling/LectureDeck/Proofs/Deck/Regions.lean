import LectureDeck.Proofs.Deck.Lasting
import LectureDeck.Proofs.Page.Script

/-!
# Regions of slides

The regions of a slide are those that its script opened and did not close
(`LectureDeck.SlideDraft.Tracks`), whatever blocks are read. A slide that ends closes them all, so
that regions nest in its script (`LectureDeck.Draft.isClosed_of_readFile`). Marks of regions that
are discarded are openings of hidden regions: hints, notes and extra material are not begun past the
body of a slide.
-/

namespace LectureDeck

namespace Script

/-- What is discarded of the marks of regions are openings of hidden regions. -/
def DiscardsHidden (script : List Entry) : Prop :=
  ∀ entry ∈ script, entry.isDiscarded = true → entry.piece.isMark Element.isRegion = true →
    ∃ id, entry.piece = .opening (.region .hidden id)

/-- A script of a slide that has ended. -/
structure IsClosed (script : List Entry) : Prop where
  nested : Nested Element.isRegion (pieces script)
  stamped : IsStamped script
  discards : DiscardsHidden script

/-- An entry that is written last keeps what is discarded to the openings of hidden regions, if it
does so itself. -/
theorem DiscardsHidden.concat {script : List Entry} {entry : Entry}
    (discards : DiscardsHidden script) (last : entry.isDiscarded = true →
      entry.piece.isMark Element.isRegion = true →
        ∃ id, entry.piece = .opening (.region .hidden id)) :
    DiscardsHidden (script ++ [entry]) := by
  intro other member
  rcases List.mem_append.1 member with earlier | same
  · exact discards other earlier
  · exact List.mem_singleton.1 same ▸ last

/-- The element of a region is one of a region. -/
theorem isRegion_region (kind : Region) (id : String) :
    Element.isRegion (.region kind id) = true := rfl

end Script

namespace SlideDraft

variable {W : Type} {slide after : SlideDraft W}

/-- The elements of regions are of the kinds of the regions. -/
theorem kinds_map_regionElement (slide : SlideDraft W) (regions : List Region) :
    Script.kinds (regions.map slide.regionElement) = regions := by
  induction regions with
  | nil => rfl
  | cons region rest later => exact congrArg (region :: ·) later

/-- The regions of a slide are those that its script opened and did not close. No region is open
twice, a hint is not open beside extra material, and only past extra material is anything
discarded. -/
structure Tracks (slide : SlideDraft W) : Prop where
  nodup : slide.regions.Nodup
  opened : openAfter? Element.isRegion (Script.pieces slide.script) =
    some (slide.regions.map slide.regionElement)
  stamped : Script.IsStamped slide.script
  discards : Script.DiscardsHidden slide.script
  past : slide.isDiscarding = true → Region.extra ∈ slide.regions
  apart : Region.hint ∈ slide.regions → Region.extra ∉ slide.regions

/-- The regions of a slide can be told from its script. -/
theorem Tracks.regions_eq (tracks : slide.Tracks) :
    Script.regions slide.script = slide.regions := by
  rw [Script.regions_eq_kinds Script.isRegion_region tracks.opened, kinds_map_regionElement]

/-- A new slide has no regions and an empty script. -/
theorem tracks_start (fileNumber number firstBlock : Nat) :
    (start fileNumber number firstBlock : SlideDraft W).Tracks where
  nodup := List.nodup_nil
  opened := rfl
  stamped := Stepwise.nil
  discards := fun _ member => absurd member List.not_mem_nil
  past := fun discarding => nomatch discarding
  apart := fun member => absurd member List.not_mem_nil

/-- Only the regions and what is written in them matter. -/
theorem Tracks.of_same (tracks : slide.Tracks) (regions : after.regions = slide.regions)
    (script : after.script = slide.script) (discarding : after.isDiscarding = slide.isDiscarding)
    (id : after.id = slide.id) (hintCount : after.hintCount = slide.hintCount) : after.Tracks where
  nodup := regions ▸ tracks.nodup
  opened := by
    rw [script, regions, tracks.opened]
    refine congrArg some (List.map_congr_left fun region _ => ?_)
    cases region <;> simp [regionElement, regionId, id, hintCount]
  stamped := script ▸ tracks.stamped
  discards := script ▸ tracks.discards
  past := by
    rw [discarding, regions]
    exact tracks.past
  apart := regions ▸ tracks.apart

/-- A piece that is no mark of a region changes no region. -/
theorem Tracks.write (tracks : slide.Tracks) (piece : Piece)
    (plain : piece.isMark Element.isRegion = false) : (slide.write piece).Tracks where
  nodup := tracks.nodup
  opened := by
    rw [SlideDraft.write, Script.pieces_concat, openAfter?_concat, tracks.opened]
    exact Piece.open?_of_not_isMark plain
  stamped := by
    refine Stepwise.concat_iff.2 ⟨tracks.stamped, ?_⟩
    rw [tracks.regions_eq, Piece.regionsAround_of_not_isMark plain]
  discards := tracks.discards.concat fun _ mark => absurd mark (by simp [plain])
  past := tracks.past
  apart := tracks.apart

/-- The list of the concepts changes no region. -/
theorem Tracks.tagged (tracks : slide.Tracks) (tags : Tags) : (slide.tagged tags).Tracks := by
  unfold SlideDraft.tagged listed
  split
  · exact tracks.of_same rfl (List.append_nil _) rfl rfl rfl
  · exact (tracks.write (.concepts tags.all) rfl).of_same rfl rfl rfl rfl rfl

/-- The number of a new hint is in the name of no region that is open. -/
theorem map_regionElement_enter {region : Region} (new : region ∉ slide.regions) :
    slide.regions.map (slide.enter region).regionElement =
      slide.regions.map slide.regionElement := by
  refine List.map_congr_left fun other member => ?_
  have different : region ≠ other := fun same => new (same ▸ member)
  cases other with
  | hint => simp [regionElement, regionId, enter, different]
  | _ => rfl

/-- A region opened. Past extra material it is hidden. -/
theorem Tracks.openRegion (tracks : slide.Tracks) {region : Region}
    (opened : slide.openRegion region = .ok after)
    (body : slide.isDiscarding = true → region = .hidden)
    (hint : region = .hint → Region.extra ∉ slide.regions)
    (extra : region = .extra → Region.hint ∉ slide.regions) : after.Tracks := by
  obtain ⟨new, rfl⟩ := eq_of_openRegion opened
  have script : (slide.enter region).script = slide.script := rfl
  constructor
  · exact List.nodup_cons.2 ⟨new, tracks.nodup⟩
  · rw [SlideDraft.write, script, Script.pieces_concat, openAfter?_concat, tracks.opened]
    exact congrArg (fun outer => some (_ :: outer)) (map_regionElement_enter new).symm
  · refine Stepwise.concat_iff.2 ⟨tracks.stamped, ?_⟩
    rw [script, tracks.regions_eq]
    rfl
  · refine tracks.discards.concat fun discarded _ => ?_
    rw [body discarded]
    exact ⟨_, rfl⟩
  · exact fun discarding => List.mem_cons_of_mem _ (tracks.past discarding)
  · intro first second
    rcases List.mem_cons.1 first with same | member
    · rcases List.mem_cons.1 second with other | second
      · rw [← same] at other
        contradiction
      · exact hint same.symm second
    · rcases List.mem_cons.1 second with same | second
      · exact extra same.symm member
      · exact tracks.apart member second

/-- Closing the innermost region leaves the others. -/
theorem closeInnermost_regions (slide : SlideDraft W) :
    slide.closeInnermost.regions = slide.regions.drop 1 := by
  unfold closeInnermost
  split <;> simp_all

/-- It does not change whether output is discarded. -/
theorem closeInnermost_isDiscarding (slide : SlideDraft W) :
    slide.closeInnermost.isDiscarding = slide.isDiscarding := by
  unfold closeInnermost
  split <;> rfl

/-- Closing several regions does not change whether output is discarded. -/
theorem closeMany_isDiscarding (count : Nat) (slide : SlideDraft W) :
    (closeMany count slide).isDiscarding = slide.isDiscarding := by
  induction count generalizing slide with
  | zero => rfl
  | succ count later => exact (later _).trans (closeInnermost_isDiscarding slide)

/-- Closing several regions leaves those outside of them. -/
theorem closeMany_regions (count : Nat) (slide : SlideDraft W) :
    (closeMany count slide).regions = slide.regions.drop count := by
  induction count generalizing slide with
  | zero => rfl
  | succ count later =>
    rw [closeMany, later, closeInnermost_regions, List.drop_drop, Nat.add_comm]

/-- Closing a region does not change whether output is discarded. -/
theorem closeRegion_isDiscarding (slide : SlideDraft W) (region : Region) :
    (slide.closeRegion region).isDiscarding = slide.isDiscarding := by
  unfold closeRegion
  split
  · exact closeMany_isDiscarding _ slide
  · rfl

/-- What is open after a region is closed was open before, and stands outside of the region. -/
theorem closeRegion_regions_suffix (slide : SlideDraft W) (region : Region) :
    (slide.closeRegion region).regions <:+ slide.regions := by
  unfold closeRegion
  split
  · rw [closeMany_regions]
    exact List.drop_suffix _ _
  · exact List.suffix_rfl

/-- A region that is open once is not among those outside of itself. -/
theorem not_mem_drop_takeWhile {region : Region} {regions : List Region} (nodup : regions.Nodup) :
    region ∉ regions.drop ((regions.takeWhile (· != region)).length + 1) := by
  induction regions with
  | nil => simp
  | cons inner outer later =>
    obtain ⟨absent, nodup⟩ := List.nodup_cons.1 nodup
    by_cases same : inner = region
    · simpa [same] using same ▸ absent
    · simpa [List.takeWhile_cons, same] using later nodup

/-- A region that was closed is not open. -/
theorem Tracks.not_mem_closeRegion (tracks : slide.Tracks) (region : Region) :
    region ∉ (slide.closeRegion region).regions := by
  unfold closeRegion
  split
  · rw [closeMany_regions]
    exact not_mem_drop_takeWhile tracks.nodup
  · rename_i absent
    simpa using absent

/-- The innermost region closed. -/
theorem Tracks.closeInnermost (tracks : slide.Tracks) (shown : slide.isDiscarding = false) :
    slide.closeInnermost.Tracks := by
  unfold SlideDraft.closeInnermost
  split
  · exact tracks
  rename_i region outer regions
  have opened := tracks.opened
  have nodup := tracks.nodup
  rw [regions] at opened nodup
  constructor
  · exact (List.nodup_cons.1 nodup).2
  · rw [SlideDraft.write, Script.pieces_concat, openAfter?_concat, opened]
    exact Piece.open?_closing Element.isRegion (Script.isRegion_region region _) _
  · refine Stepwise.concat_iff.2 ⟨tracks.stamped, ?_⟩
    rw [tracks.regions_eq]
    rfl
  · refine tracks.discards.concat fun discarded _ => ?_
    rw [shown] at discarded
    contradiction
  · intro discarding
    have discarding : slide.isDiscarding = true := discarding
    rw [shown] at discarding
    contradiction
  · intro member extra
    refine tracks.apart ?_ ?_
    · rw [regions]
      exact List.mem_cons_of_mem _ member
    · rw [regions]
      exact List.mem_cons_of_mem _ extra

/-- Closing regions one after another writes their ends in the order in which they nest. The output
must not be discarded, since ends would be discarded too. -/
theorem Tracks.closeMany (tracks : slide.Tracks) (shown : slide.isDiscarding = false)
    (count : Nat) : (SlideDraft.closeMany count slide).Tracks := by
  induction count generalizing slide with
  | zero => exact tracks
  | succ count later =>
    exact later (tracks.closeInnermost shown) ((closeInnermost_isDiscarding slide).trans shown)

/-- A region closed while nothing is discarded, unless it is not open. -/
theorem Tracks.closeRegion (tracks : slide.Tracks) (region : Region)
    (shown : region ∈ slide.regions → slide.isDiscarding = false) :
    (slide.closeRegion region).Tracks := by
  unfold SlideDraft.closeRegion
  split
  · rename_i found
    exact tracks.closeMany (shown (by simpa using found)) _
  · exact tracks

/-- A hint is open only while nothing is discarded. -/
theorem Tracks.closeHint (tracks : slide.Tracks) : (slide.closeRegion .hint).Tracks := by
  refine tracks.closeRegion .hint fun hint => ?_
  by_contra discarding
  exact tracks.apart hint (tracks.past (by simpa using discarding))

/-- The end of a list is no mark of a region. -/
theorem Tracks.closeList (tracks : slide.Tracks) : slide.closeList.Tracks := by
  unfold SlideDraft.closeList
  split
  · rename_i ordered _
    have same : ({ slide with list := none } : SlideDraft W).Tracks :=
      tracks.of_same rfl rfl rfl rfl rfl
    exact same.write (.closing (.list ordered)) rfl
  · exact tracks

/-- The beginning of a list is no mark of a region. -/
theorem Tracks.openList (tracks : slide.Tracks) (ordered : Bool) :
    (slide.openList ordered).Tracks := by
  unfold SlideDraft.openList
  split
  · exact tracks
  · have closed := tracks.closeList
    have same : ({ slide.closeList with list := some ordered } : SlideDraft W).Tracks :=
      closed.of_same rfl rfl rfl rfl rfl
    exact same.write (.opening (.list ordered)) rfl

/-- The end of choices is no mark of a region. -/
theorem Tracks.closeChoices (tracks : slide.Tracks) : slide.closeChoices.Tracks := by
  unfold SlideDraft.closeChoices
  split
  · have same : ({ slide with choicesOpen := false } : SlideDraft W).Tracks :=
      tracks.of_same rfl rfl rfl rfl rfl
    exact same.write (.closing .choices) rfl
  · exact tracks

/-- Choices close without regions. -/
theorem closeChoices_regions (slide : SlideDraft W) :
    slide.closeChoices.regions = slide.regions := by
  unfold SlideDraft.closeChoices
  split <;> rfl

/-- The beginning of choices is no mark of a region. -/
theorem Tracks.openChoices (tracks : slide.Tracks) : slide.openChoices.Tracks := by
  unfold SlideDraft.openChoices
  split
  · exact tracks
  · have same : ({ slide with choicesOpen := true } : SlideDraft W).Tracks :=
      tracks.of_same rfl rfl rfl rfl rfl
    exact same.write (.opening .choices) rfl

/-- One hint after another. -/
theorem Tracks.hint (tracks : slide.Tracks) {penalty : Float}
    (body : slide.isDiscarding = false ∧ Region.extra ∉ slide.regions)
    (opened : { slide.closeRegion .hint with
      hints := (slide.closeRegion .hint).hints ++ [penalty] }.openRegion .hint = .ok after) :
    after.Tracks := by
  have closed := tracks.closeHint
  have extra : Region.extra ∉ (slide.closeRegion .hint).regions :=
    fun member => body.2 ((closeRegion_regions_suffix slide .hint).mem member)
  have numbered : ({ slide.closeRegion .hint with
      hints := (slide.closeRegion .hint).hints ++ [penalty] } : SlideDraft W).Tracks :=
    closed.of_same rfl rfl rfl rfl rfl
  -- Hints are not begun past the body, so the new one is shown.
  refine numbered.openRegion opened ?_ (fun _ => extra) (fun same => nomatch same)
  intro discarding
  have discarding : (slide.closeRegion .hint).isDiscarding = true := discarding
  rw [closeRegion_isDiscarding, body.1] at discarding
  contradiction

/-- Extra material begins where no hint is open any more, and not past other extra material. -/
theorem Tracks.extra (tracks : slide.Tracks)
    (opened : (slide.closeRegion .hint).closeChoices.openRegion .extra = .ok after) :
    after.Tracks := by
  have closed := tracks.closeHint.closeChoices
  have absent : Region.hint ∉ (slide.closeRegion .hint).closeChoices.regions := by
    rw [closeChoices_regions]
    exact tracks.not_mem_closeRegion .hint
  -- Output is discarded only past extra material, which cannot be opened again.
  refine closed.openRegion opened ?_ (fun same => nomatch same) (fun _ => absent)
  intro discarding
  exact absurd (closed.past discarding) (eq_of_openRegion opened).1

/-- Regions closed one after another. None of them is open at the end. -/
theorem Tracks.closeRegions (tracks : slide.Tracks) (shown : slide.isDiscarding = false)
    (regions : List Region) : (regions.foldl SlideDraft.closeRegion slide).Tracks ∧
      ∀ region ∈ (regions.foldl SlideDraft.closeRegion slide).regions,
        region ∈ slide.regions ∧ region ∉ regions := by
  induction regions generalizing slide with
  | nil => exact ⟨tracks, fun region member => ⟨member, List.not_mem_nil⟩⟩
  | cons first rest later =>
    obtain ⟨closed, left⟩ := later (tracks.closeRegion first fun _ => shown)
      ((closeRegion_isDiscarding slide first).trans shown)
    refine ⟨closed, fun region member => ?_⟩
    obtain ⟨member, absent⟩ := left region member
    refine ⟨(closeRegion_regions_suffix slide first).mem member, fun listed => ?_⟩
    rcases List.mem_cons.1 listed with rfl | listed
    · exact tracks.not_mem_closeRegion region member
    · exact absent listed

/-- A slide that ends closes all regions. -/
theorem Tracks.closeAll (tracks : slide.Tracks) :
    slide.closeAll.Tracks ∧ slide.closeAll.regions = [] := by
  have shown : ({ slide with isDiscarding := false } : SlideDraft W).Tracks := ⟨tracks.nodup,
    tracks.opened, tracks.stamped, tracks.discards, (fun discarding => nomatch discarding),
    tracks.apart⟩
  have still : ({ slide with
      isDiscarding := false } : SlideDraft W).closeList.closeChoices.isDiscarding = false := by
    unfold SlideDraft.closeChoices SlideDraft.closeList
    split <;> split <;> rfl
  obtain ⟨closed, left⟩ := shown.closeList.closeChoices.closeRegions still
    [.extra, .hint, .notes, .hidden]
  refine ⟨closed, List.eq_nil_iff_forall_not_mem.2 fun region member => (left region member).2 ?_⟩
  cases region <;> decide

/-- What a slide that ends has written. -/
theorem Tracks.isClosed_closeAll (tracks : slide.Tracks) :
    Script.IsClosed slide.closeAll.script := by
  obtain ⟨closed, none⟩ := tracks.closeAll
  refine ⟨?_, closed.stamped, closed.discards⟩
  have opened := closed.opened
  rw [none] at opened
  exact opened

end SlideDraft

namespace Draft

variable {W : Type} {setting : Setting} {draft after : Draft W}

/-- The edge of a quote is no mark of a region. -/
theorem tracks_turned (tracks : draft.slide.Tracks) (block : Block) :
    (draft.turned block).slide.Tracks := by
  cases block with
  | quoteStart =>
    have same : ({ draft.slide with depth := draft.slide.depth + 1 } : SlideDraft W).Tracks :=
      tracks.of_same rfl rfl rfl rfl rfl
    exact same.write (.opening .quote) rfl
  | quoteEnd =>
    have same : ({ draft.slide with depth := draft.slide.depth - 1 } : SlideDraft W).Tracks :=
      tracks.of_same rfl rfl rfl rfl rfl
    exact same.write (.closing .quote) rfl
  | _ =>
    exact copied_induction (fun after => after.slide.Tracks) tracks _ fun piece copy =>
      tracks.write piece (Piece.not_isMark_of_isCopy copy _)

/-- In the body of a slide nothing is discarded and no extra material is open. -/
theorem body_of_isPastBody (body : draft.isPastBody = false) :
    draft.slide.isDiscarding = false ∧ Region.extra ∉ draft.slide.regions := by
  simpa [isPastBody] using body

/-- Behind the body extra material is open, since output is discarded only there. -/
theorem past_of_isPastBody (tracks : draft.slide.Tracks) (past : draft.isPastBody = true) :
    Region.extra ∈ draft.slide.regions := by
  rcases Bool.or_eq_true_iff.1 past with discarding | found
  · exact tracks.past discarding
  · simpa using found

variable [Weight W]

/-- Every move keeps the regions of a slide those that its script opened and did not close. Moves
that open or close regions write the marks, and no other move does. -/
theorem Move.tracks (move : Move setting draft after) (tracks : draft.slide.Tracks) :
    after.slide.Tracks := by
  cases move with
  | write piece plain =>
    refine tracks.write piece ?_
    exact Piece.not_isMark_of_narrower Element.isWrapper_of_isRegion
      (Piece.not_isMark_of_isPlain plain)
  | follow id => rwa [slide_follow]
  | define made => rwa [slide_of_define made]
  | number level content => rwa [slide_numberHeading]
  | closeList => exact tracks.closeList
  | openList ordered => exact tracks.openList ordered
  | closeChoices => exact tracks.closeChoices
  | @present _ choices agrees presented =>
    have same : ({ draft.slide with choices := choices } : SlideDraft W).Tracks :=
      tracks.of_same rfl rfl rfl rfl rfl
    exact same.openChoices
  | tag content => exact tracks.tagged (Tags.parse content)
  | discard past =>
    have extra := past_of_isPastBody tracks past
    exact ⟨tracks.nodup, tracks.opened, tracks.stamped, tracks.discards, fun _ => extra,
      tracks.apart⟩
  | closeHint => exact tracks.closeHint
  | hint penalty body opened => exact tracks.hint (body_of_isPastBody body) opened
  | openNotes body opened =>
    refine tracks.openRegion opened ?_ (fun same => nomatch same) (fun same => nomatch same)
    intro discarding
    rw [(body_of_isPastBody body).1] at discarding
    contradiction
  | extra opened => exact tracks.extra opened
  | hide first opened =>
    exact tracks.openRegion opened (fun _ => rfl) (fun same => nomatch same)
      (fun same => nomatch same)
  | _ =>
    exact tracks.of_same rfl rfl rfl rfl rfl

/-- The slide that is read tracks its regions, and the scripts of those that have ended are
closed. -/
structure TracksRegions (draft : Draft W) : Prop where
  slide : draft.slide.Tracks
  scripts : ∀ script ∈ draft.file.scripts, Script.IsClosed script

omit [Weight W] in
/-- Noting that a slide has content writes nothing. -/
theorem TracksRegions.noteContent (tracks : draft.TracksRegions) (block : Block) :
    (draft.noteContent block).TracksRegions :=
  ⟨tracks.slide.of_same rfl rfl rfl rfl rfl, tracks.scripts⟩

/-- The script of a slide that ends is closed: output is shown again before the regions that are
left are closed. -/
theorem TracksRegions.of_closeSlide (tracks : draft.TracksRegions) {endBlock : Nat}
    (closed : draft.closeSlide setting endBlock = .ok after) :
    ∀ script ∈ after.file.scripts, Script.IsClosed script := by
  rw [scripts_of_closeSlide closed]
  intro script member
  rcases List.mem_append.1 member with earlier | last
  · exact tracks.scripts script earlier
  · exact List.mem_singleton.1 last ▸ tracks.slide.isClosed_closeAll

/-- Regions are kept track of while a whole file is read. -/
theorem lasting_tracksRegions (setting : Setting) : Lasting setting (TracksRegions (W := W))
    fun file => ∀ script ∈ file.scripts, Script.IsClosed script where
  start := ⟨SlideDraft.tracks_start _ _ _, fun _ member => absurd member List.not_mem_nil⟩
  move := fun move tracks =>
    ⟨move.tracks tracks.slide, move.stays.file.scripts.symm ▸ tracks.scripts⟩
  turned := fun {draft} block tracks =>
    ⟨tracks_turned tracks.slide block, (file_turned draft block).symm ▸ tracks.scripts⟩
  noteContent := fun block tracks => tracks.noteContent block
  close := fun closed tracks => tracks.of_closeSlide closed
  next := fun _ scripts => ⟨SlideDraft.tracks_start _ _ _, scripts⟩

/-- **Regions nest in what slides write.** When a file is read to its end, every script closes the
regions that it opened, and its pieces carry the regions that were open where they were written. -/
theorem isClosed_of_readFile (read : readFile setting = .ok after) :
    ∀ script ∈ after.file.scripts, Script.IsClosed script :=
  (lasting_tracksRegions setting).of_readFile read

end Draft

end LectureDeck
