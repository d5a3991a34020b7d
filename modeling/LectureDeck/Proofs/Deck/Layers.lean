import LectureDeck.Proofs.Deck.Bearers
import LectureDeck.Proofs.Deck.Errors
import LectureDeck.Proofs.Deck.Presenting
import LectureDeck.Proofs.Deck.Skips

/-!
# Layers of regions

Which regions a block opens and closes depends on little of a slide (`LectureDeck.Layers`). A reader
of these alone does to them what the blocks do (`LectureDeck.Draft.readsLayers_readPart`), and fails
where a region would be opened that is open. So what is open, what was opened and how many hints
there are agree on every slide (`LectureDeck.Layers.Sound.of_step`), and reading fails over a region
exactly where extra material begins again (`LectureDeck.Draft.layers_inOrder`).
-/

namespace LectureDeck

open LectureDeck.Text

/-- The region that is open already, if that is the fault. -/
def SlideFault.region? : SlideFault → Option Region
  | regionAlreadyOpen region => some region
  | _ => none

/-- The region that is open already, if that is the error. -/
def CompileError.region? {W : Type} : CompileError W → Option Region
  | faultySlide _ fault => fault.region?
  | _ => none

/-- The heading hides its slide if it is the first. -/
def Block.isHiding (setting : Setting) : Block → Bool
  | heading level content => (level == 2 || level == 3) && setting.hide.any fun pattern =>
    pattern.matches (String.ofList (trim (cutHeading content.toList).1))
  | _ => false

/-- What of a slide its regions depend on. -/
structure Layers where
  regions : List Region
  opened : List Region
  isDiscarding : Bool
  /-- The number of hints that were opened. -/
  hintCount : Nat
  /-- The number of penalties. -/
  penalties : Nat
  headings : Nat

/-- The layers of a slide of which nothing is read yet. -/
def Layers.initial : Layers := ⟨[], [], false, 0, 0, 0⟩

def SlideDraft.layers {W : Type} (slide : SlideDraft W) : Layers where
  regions := slide.regions
  opened := slide.opened
  isDiscarding := slide.isDiscarding
  hintCount := slide.hintCount
  penalties := slide.hints.length
  headings := slide.headings

namespace Layers

/-- A hint closed, and what is open inside it, if one is open. -/
def closeHint (layers : Layers) : Layers := { layers with regions := withoutHint layers.regions }

/-- One more region, inside those that are open. -/
def enter (layers : Layers) (region : Region) : Layers :=
  { layers with
    regions := region :: layers.regions
    opened := layers.opened ++ [region]
    hintCount := if region = .hint then layers.hintCount + 1 else layers.hintCount }

def openRegion (layers : Layers) (region : Region) : Except Region Layers :=
  if layers.regions.contains region then .error region else .ok (layers.enter region)

def penalize (layers : Layers) : Layers := { layers with penalties := layers.penalties + 1 }

def discard (layers : Layers) : Layers := { layers with isDiscarding := true }

def head (layers : Layers) : Layers := { layers with headings := layers.headings + 1 }

def isPastBody (layers : Layers) : Bool :=
  layers.isDiscarding || layers.regions.contains .extra

/-- A block read for its regions. -/
def read (setting : Setting) (layers : Layers) (block : Block) : Except Region Layers :=
  match block with
  | .hint _ =>
    if layers.isPastBody then .ok layers.discard else layers.closeHint.penalize.openRegion .hint
  | .notes =>
    if layers.closeHint.isPastBody then .ok layers.closeHint.discard
    else if layers.closeHint.regions.contains .notes then .ok layers.closeHint
    else layers.closeHint.openRegion .notes
  | .extra => layers.closeHint.openRegion .extra
  | .answer _ => .ok layers.closeHint
  | .heading .. =>
    if layers.headings == 0 && block.isHiding setting then layers.head.openRegion .hidden
    else .ok layers.head
  | _ => .ok layers

variable {layers after : Layers} {region : Region} {setting : Setting} {block : Block}

/-- What is open on a slide, what was opened and how many hints there are agree. -/
structure InOrder (layers : Layers) : Prop where
  nodup : layers.regions.Nodup
  known : layers.regions ⊆ layers.opened
  past : layers.isDiscarding = true → .extra ∈ layers.regions
  apart : .hint ∈ layers.regions → .extra ∉ layers.regions
  once : ∀ region ≠ .hint, layers.opened.count region ≤ 1
  counted : layers.hintCount = layers.opened.count .hint
  recorded : layers.penalties = layers.hintCount

/-- The order, and what else is kept between blocks. -/
structure Sound (layers : Layers) : Prop extends InOrder layers where
  /-- Notes and extra material are not closed. -/
  stays : ∀ region, region = .notes ∨ region = .extra → region ∈ layers.opened →
    region ∈ withoutHint layers.regions
  /-- Only a heading opens a hidden region. -/
  headed : .hidden ∈ layers.opened → 0 < layers.headings

/-- The layers of a new slide are sound: nothing is open, and nothing was opened. -/
theorem sound_initial : initial.Sound where
  nodup := List.nodup_nil
  known := List.Subset.refl _
  past := nofun
  apart := nofun
  once := fun _ _ => Nat.zero_le _
  counted := rfl
  recorded := rfl
  stays := nofun
  headed := nofun

/-- Regions closed at the end of a slide, where nothing is discarded any more. -/
theorem InOrder.closed (order : layers.InOrder) {regions : List Region}
    (left : regions <:+ layers.regions) :
    ({ layers with regions := regions, isDiscarding := false } : Layers).InOrder where
  nodup := order.nodup.sublist left.sublist
  known := fun _ member => order.known (left.mem member)
  past := nofun
  apart := fun hint extra => order.apart (left.mem hint) (left.mem extra)
  once := order.once
  counted := order.counted
  recorded := order.recorded

/-- Closing a hint leaves none open, since no region is open twice. -/
theorem Sound.not_mem_closeHint (sound : layers.Sound) : .hint ∉ layers.closeHint.regions :=
  not_mem_withoutHint sound.nodup

/-- Closing a hint keeps layers sound. What stands in it is closed with it, and what was opened is
still on record. -/
theorem Sound.closeHint (sound : layers.Sound) : layers.closeHint.Sound where
  nodup := sound.nodup.sublist (withoutHint_suffix _).sublist
  known := fun _ member => sound.known ((withoutHint_suffix _).mem member)
  past := fun discarding => sound.stays .extra (.inr rfl) (sound.known (sound.past discarding))
  apart := fun hint => absurd hint sound.not_mem_closeHint
  once := sound.once
  counted := sound.counted
  recorded := sound.recorded
  stays := by
    intro region lasting opened
    have none : withoutHint layers.closeHint.regions = layers.closeHint.regions :=
      withoutHint_of_not_mem sound.not_mem_closeHint
    exact none.symm ▸ sound.stays region lasting opened
  headed := sound.headed

section Enter

/-- Entering a region adds it to those that are open. -/
theorem mem_regions_enter {kept : Region} :
    kept ∈ (layers.enter region).regions ↔ kept = region ∨ kept ∈ layers.regions := List.mem_cons

/-- Entering a region puts it on record, after those that were opened before. -/
theorem mem_opened_enter {kept : Region} :
    kept ∈ (layers.enter region).opened ↔ kept ∈ layers.opened ∨ kept = region := by
  simp [enter]

/-- What is open was opened, also after a region is entered. -/
theorem known_enter (known : layers.regions ⊆ layers.opened) :
    (layers.enter region).regions ⊆ (layers.enter region).opened := by
  intro kept member
  exact mem_opened_enter.2 ((mem_regions_enter.1 member).symm.imp_left fun inside => known inside)

/-- Entering a region counts for that region alone: how often another one was opened stays the
same. -/
theorem count_enter (kept : Region) : (layers.enter region).opened.count kept =
    layers.opened.count kept + if kept = region then 1 else 0 := by
  simp only [enter, List.count_append, List.count_singleton, beq_iff_eq, @eq_comm _ region]

/-- Only entering a hint changes the number of hints. -/
theorem hintCount_enter (other : region ≠ .hint) :
    (layers.enter region).hintCount = layers.hintCount := if_neg other

end Enter

/-- A region opened for the first time. A hidden region may be inside a hint. -/
theorem Sound.enter (sound : layers.Sound) (other : region ≠ .hint) (new : region ∉ layers.opened)
    (apart : region = .hidden ∨ .hint ∉ layers.regions)
    (headed : region = .hidden → 0 < layers.headings) : (layers.enter region).Sound where
  nodup := List.nodup_cons.2 ⟨fun member => new (sound.known member), sound.nodup⟩
  known := known_enter sound.known
  past := fun discarding => List.mem_cons_of_mem _ (sound.past discarding)
  apart := by
    intro hint extra
    have hint := (mem_regions_enter.1 hint).resolve_left other.symm
    have hidden := apart.resolve_right (absurd hint)
    have extra := (mem_regions_enter.1 extra).resolve_left (hidden ▸ nofun)
    exact sound.apart hint extra
  once := by
    intro kept first
    rw [count_enter]
    split
    · rename_i same
      rw [same, List.count_eq_zero_of_not_mem new]
    · exact sound.once kept first
  counted := by
    rw [count_enter, if_neg other.symm, hintCount_enter other]
    exact sound.counted
  recorded := by
    rw [hintCount_enter other]
    exact sound.recorded
  stays := by
    intro kept lasting opened
    rcases mem_opened_enter.1 opened with opened | rfl
    · exact mem_withoutHint_cons other (sound.stays kept lasting opened)
    · have closed : .hint ∉ layers.regions := apart.resolve_left (by
        rcases lasting with rfl | rfl <;> exact nofun)
      have absent : .hint ∉ (layers.enter kept).regions :=
        List.not_mem_cons_of_ne_of_not_mem other.symm closed
      rw [withoutHint_of_not_mem absent]
      exact List.mem_cons_self
  headed := fun opened => (mem_opened_enter.1 opened).elim sound.headed fun same =>
    headed same.symm

/-- One hint more, after the last one was closed. -/
theorem Sound.hint (sound : layers.Sound) (closed : .hint ∉ layers.regions)
    (body : .extra ∉ layers.regions) : (layers.penalize.enter .hint).Sound where
  nodup := List.nodup_cons.2 ⟨closed, sound.nodup⟩
  known := @known_enter layers.penalize .hint sound.known
  past := fun discarding => List.mem_cons_of_mem _ (sound.past discarding)
  apart := fun _ extra => body ((mem_regions_enter.1 extra).resolve_left nofun)
  once := by
    intro kept other
    rw [count_enter, if_neg other]
    exact sound.once kept other
  counted := by
    rw [count_enter, if_pos rfl]
    exact congrArg (· + 1) sound.counted
  recorded := congrArg (· + 1) sound.recorded
  stays := by
    intro kept lasting opened
    rcases mem_opened_enter.1 opened with opened | rfl
    · have inside : kept ∈ layers.regions :=
        (withoutHint_suffix _).mem (sound.stays kept lasting opened)
      exact (withoutHint_hint layers.regions).symm ▸ inside
    · rcases lasting with same | same <;> contradiction
  headed := fun opened => sound.headed ((mem_opened_enter.1 opened).resolve_right nofun)

/-- Behind the body of a slide its extra material is open, also while output is discarded. -/
theorem Sound.extra_of_isPastBody (sound : layers.Sound) (past : layers.isPastBody = true) :
    .extra ∈ layers.regions := by
  rcases Bool.or_eq_true_iff.1 past with discarding | found
  · exact sound.past discarding
  · simpa using found

/-- Output that is discarded behind the body keeps layers sound, because extra material is open
there. -/
theorem Sound.discard (sound : layers.Sound) (past : layers.isPastBody = true) :
    layers.discard.Sound := { sound with past := fun _ => sound.extra_of_isPastBody past }

/-- One heading more keeps layers sound. -/
theorem Sound.head (sound : layers.Sound) : layers.head.Sound :=
  { sound with headed := fun _ => Nat.succ_pos _ }

/-- A region opens if and only if it is not open, and is entered then. -/
theorem openRegion_eq_ok_iff : layers.openRegion region = .ok after ↔
    region ∉ layers.regions ∧ layers.enter region = after := by
  unfold openRegion
  split <;> simp_all

/-- Opening a region fails if and only if it is open already, and the region is named in the
error. -/
theorem openRegion_eq_error_iff {found : Region} : layers.openRegion region = .error found ↔
    region ∈ layers.regions ∧ region = found := by
  unfold openRegion
  split <;> simp_all

/-- What a block may do to the layers of its slide. -/
inductive Step (layers : Layers) : Block → Except Region Layers → Prop
  | keep {block : Block} (other : block ≠ .extra) : Step layers block (.ok layers)
  | closeHint {block : Block} (other : block ≠ .extra) : Step layers block (.ok layers.closeHint)
  | head {block : Block} (other : block ≠ .extra) : Step layers block (.ok layers.head)
  | discardHint (penalty : Option Float) (past : layers.isPastBody = true) :
    Step layers (.hint penalty) (.ok layers.discard)
  | discardNotes (past : layers.closeHint.isPastBody = true) :
    Step layers .notes (.ok layers.closeHint.discard)
  | hint (penalty : Option Float) (body : layers.isPastBody = false) :
    Step layers (.hint penalty) (layers.closeHint.penalize.openRegion .hint)
  | notes (new : .notes ∉ layers.closeHint.regions) :
    Step layers .notes (layers.closeHint.openRegion .notes)
  | extra : Step layers .extra (layers.closeHint.openRegion .extra)
  | hide (level : Nat) (content : String) (first : layers.headings = 0) :
    Step layers (.heading level content) (layers.head.openRegion .hidden)

/-- A block read by the layers alone takes one of the steps of `Step`: this is all that a block can
do to them, so that an invariant needs a case for each step and none for each block. -/
theorem step_read (setting : Setting) (layers : Layers) (block : Block) :
    Step layers block (layers.read setting block) := by
  cases block with
  | hint penalty =>
    rw [Layers.read]
    split
    · exact .discardHint penalty ‹_›
    · exact .hint penalty (Bool.eq_false_iff.2 ‹_›)
  | notes =>
    rw [Layers.read]
    split
    · exact .discardNotes ‹_›
    · split
      · exact .closeHint nofun
      · rename_i new
        exact .notes fun inside => new (List.contains_iff_mem.2 inside)
  | extra => exact .extra
  | answer content => exact .closeHint nofun
  | heading level content =>
    rw [Layers.read]
    split
    · rename_i first
      exact .hide level content (beq_iff_eq.1 (Bool.and_eq_true_iff.1 first).1)
    · exact .head nofun
  | _ => exact .keep nofun

/-- Before its first heading nothing of a slide was hidden, since only a first heading hides it. -/
theorem Sound.hidden_not_mem (sound : layers.Sound) (first : layers.headings = 0) :
    .hidden ∉ layers.opened := fun opened => absurd first (Nat.ne_of_gt (sound.headed opened))

/-- **What a block keeps.** -/
theorem Sound.of_step (sound : layers.Sound) {result : Except Region Layers}
    (step : Step layers block result) (read : result = .ok after) : after.Sound := by
  have closed := sound.closeHint
  have absent := sound.not_mem_closeHint
  cases step with
  | keep => exact Except.ok.inj read ▸ sound
  | closeHint => exact Except.ok.inj read ▸ closed
  | head => exact Except.ok.inj read ▸ sound.head
  | discardHint penalty past => exact Except.ok.inj read ▸ sound.discard past
  | discardNotes past => exact Except.ok.inj read ▸ closed.discard past
  | hint penalty body =>
    obtain ⟨-, rfl⟩ := openRegion_eq_ok_iff.1 read
    have outside : .extra ∉ layers.regions := by
      intro inside
      simp [isPastBody, inside] at body
    exact closed.hint absent fun extra => outside ((withoutHint_suffix _).mem extra)
  | notes new =>
    -- Notes are not closed before the slide ends: what is not open was never opened.
    obtain ⟨-, rfl⟩ := openRegion_eq_ok_iff.1 read
    refine closed.enter nofun (fun opened => new ?_) (.inr absent) nofun
    exact sound.stays .notes (.inl rfl) opened
  | extra =>
    obtain ⟨new, rfl⟩ := openRegion_eq_ok_iff.1 read
    refine closed.enter nofun (fun opened => new ?_) (.inr absent) nofun
    exact sound.stays .extra (.inr rfl) opened
  | hide level content first =>
    obtain ⟨-, rfl⟩ := openRegion_eq_ok_iff.1 read
    exact sound.head.enter nofun (sound.hidden_not_mem first) (.inl rfl) fun _ => Nat.succ_pos _

/-- **What fails over a region.** Only extra material that begins again does. -/
theorem Sound.fails_iff (sound : layers.Sound) {result : Except Region Layers}
    (step : Step layers block result) : result = .error region ↔
      region = .extra ∧ block = .extra ∧ .extra ∈ layers.opened := by
  have inside : .extra ∈ layers.closeHint.regions ↔ .extra ∈ layers.opened :=
    ⟨fun inside => sound.closeHint.known inside, sound.stays .extra (.inr rfl)⟩
  cases step with
  | extra =>
    rw [openRegion_eq_error_iff, inside]
    exact ⟨fun ⟨opened, same⟩ => ⟨same.symm, rfl, opened⟩,
      fun ⟨same, _, opened⟩ => ⟨opened, same.symm⟩⟩
  | hint penalty body =>
    refine iff_of_false (fun fails => ?_) fun again => nomatch again.2.1
    exact sound.not_mem_closeHint (openRegion_eq_error_iff.1 fails).1
  | notes new =>
    refine iff_of_false (fun fails => ?_) fun again => nomatch again.2.1
    exact new (openRegion_eq_error_iff.1 fails).1
  | hide level content first =>
    refine iff_of_false (fun fails => ?_) fun again => nomatch again.2.1
    exact sound.hidden_not_mem first (sound.known (openRegion_eq_error_iff.1 fails).1)
  | keep other | closeHint other | head other =>
    exact iff_of_false nofun fun again => other again.2.1
  | _ => exact iff_of_false nofun fun again => nomatch again.2.1

/-- Extra material was opened if its block was read. -/
theorem extra_mem_opened_iff {result : Except Region Layers} (step : Step layers block result)
    (read : result = .ok after) :
    .extra ∈ after.opened ↔ .extra ∈ layers.opened ∨ block = .extra := by
  have opens {before : Layers} {region : Region} (opened : before.openRegion region = .ok after)
      (same : before.opened = layers.opened) (other : .extra ≠ region) :
      .extra ∈ after.opened ↔ .extra ∈ layers.opened := by
    obtain ⟨-, rfl⟩ := openRegion_eq_ok_iff.1 opened
    rw [mem_opened_enter, or_iff_left other, same]
  cases step with
  | extra =>
    obtain ⟨-, rfl⟩ := openRegion_eq_ok_iff.1 read
    exact mem_opened_enter.trans (or_congr_right (iff_of_true rfl rfl))
  | hint | notes | hide => exact (opens read rfl nofun).trans (or_iff_left nofun).symm
  | keep other | closeHint other | head other =>
    exact Except.ok.inj read ▸ (or_iff_left other).symm
  | _ => exact Except.ok.inj read ▸ (or_iff_left nofun).symm

end Layers

/-! ### Reading -/

namespace SlideDraft

variable {W : Type} {slide : SlideDraft W}

/-- Closing a list leaves the layers alone, since a list is no region. -/
@[simp]
theorem layers_closeList (slide : SlideDraft W) : slide.closeList.layers = slide.layers := by
  unfold closeList
  split <;> rfl

/-- Opening a list leaves the layers alone as well. -/
@[simp]
theorem layers_openList (slide : SlideDraft W) (ordered : Bool) :
    (slide.openList ordered).layers = slide.layers := by
  unfold openList
  split
  · rfl
  · exact slide.layers_closeList

/-- The layers stay the same when choices are closed. -/
@[simp]
theorem layers_closeChoices (slide : SlideDraft W) : slide.closeChoices.layers = slide.layers := by
  unfold closeChoices
  split <;> rfl

/-- The layers stay the same when choices are opened. -/
@[simp]
theorem layers_openChoices (slide : SlideDraft W) : slide.openChoices.layers = slide.layers := by
  unfold openChoices
  split <;> rfl

/-- Closing regions takes as many from those that are open, the innermost first, and nothing
else. -/
theorem layers_closeMany (count : Nat) (slide : SlideDraft W) : (closeMany count slide).layers =
    { slide.layers with regions := slide.regions.drop count } := by
  induction count generalizing slide with
  | zero => rfl
  | succ count later =>
    rw [closeMany, later, closeInnermost_regions, List.drop_drop, Nat.add_comm]
    unfold closeInnermost
    split <;> rfl

/-- Closing a region changes which regions are open and nothing else of the layers. -/
theorem layers_closeRegion (slide : SlideDraft W) (region : Region) :
    (slide.closeRegion region).layers =
      { slide.layers with regions := (slide.closeRegion region).regions } := by
  unfold closeRegion
  split
  · rw [layers_closeMany, closeMany_regions]
  · rfl

/-- Closing a hint leaves open what stands outside of it. -/
theorem regions_closeHint (slide : SlideDraft W) :
    (slide.closeRegion .hint).regions = withoutHint slide.regions := by
  unfold closeRegion withoutHint
  split
  · exact closeMany_regions _ slide
  · rfl

/-- A slide closes its hint as its layers do. -/
@[simp]
theorem layers_closeHint (slide : SlideDraft W) :
    (slide.closeRegion .hint).layers = slide.layers.closeHint := by
  rw [layers_closeRegion, regions_closeHint]
  rfl

/-- A penalty that is noted counts as one penalty more. -/
theorem layers_penalize (slide : SlideDraft W) (penalty : Float) :
    ({ slide with hints := slide.hints ++ [penalty] } : SlideDraft W).layers =
      slide.layers.penalize := by
  simp [layers, Layers.penalize]

/-- A slide opens a region as its layers do, and fails over the same region. -/
theorem mirrors_openRegion (slide : SlideDraft W) (region : Region) :
    Mirrors SlideFault.region? layers (slide.layers.openRegion region)
      (slide.openRegion region) := by
  have same : slide.layers.regions = slide.regions := rfl
  unfold openRegion Layers.openRegion
  rw [same]
  split
  · refine .of_error ?_
    rintro found ⟨⟩
    rfl
  · exact .of_ok rfl

end SlideDraft

/-- Choices are at fault themselves. -/
theorem Choices.failsOnly_present (multiplicity : Bool) (choices : Choices) (found : Char)
    (alternative : Bool) : FailsOnly (fun fault => fault.region? = none)
      (choices.present multiplicity found alternative) := by
  unfold present
  dsimp only
  split
  · split
    · exact .error rfl
    · exact .ok _
  · split
    · exact .ok _
    · split
      · split
        · exact .ok _
        · exact .error rfl
      · exact .error rfl

/-- A fault of an answer is none of a region. -/
theorem SlideFault.region?_of_isOfAnswer {fault : SlideFault} (own : fault.isOfAnswer = true) :
    fault.region? = none := by
  cases fault <;> first | rfl | contradiction

/-- A skip of graded questions is no error of a region. -/
theorem CompileError.region?_of_isGradedSkip {W : Type} {error : CompileError W}
    (skips : error.isGradedSkip = true) : error.region? = none := by
  cases error <;> first | rfl | contradiction

namespace Draft

variable {W : Type} {setting : Setting} {draft after : Draft W} {known : Layers}

/-- The layers of the slide that is read. -/
def layers (draft : Draft W) : Layers := draft.slide.layers

/-- A reading does to the layers of its slide what is expected. -/
def ReadsLayers (expected : Except Region Layers) (result : Except (CompileError W) (Draft W)) :
    Prop := Mirrors CompileError.region? layers expected result

/-- Telling where a fault stands changes nothing about the region that it names. -/
theorem mirrors_located {α : Type} {view : α → Layers} {expected : Except Region Layers}
    {result : Except SlideFault α} (mirrors : Mirrors SlideFault.region? view expected result) :
    Mirrors CompileError.region? view expected (located setting draft result) := by
  cases result with
  | ok value => exact .of_ok (mirrors.ok value rfl)
  | error fault => exact .of_error fun region heard => mirrors.error rfl heard

section Running

/-- Writing pieces to the script leaves the layers alone. -/
theorem layers_writeAll (draft : Draft W) (pieces : List Piece) :
    (draft.writeAll pieces).layers = draft.layers := by
  induction pieces generalizing draft with
  | nil => rfl
  | cons piece rest later => exact later (draft.write piece)

/-- Following a link leaves the layers alone, since it changes no slide. -/
theorem layers_follow (draft : Draft W) (id : String) :
    (draft.follow id).layers = draft.layers := congrArg SlideDraft.layers (slide_follow draft id)

/-- A link leaves the layers alone. -/
theorem layers_readLink (draft : Draft W) (content url : String) (title : Option String) :
    (draft.readLink content url title).layers = draft.layers := by
  unfold readLink
  split
  · rfl
  · exact (layers_follow _ _).trans (layers_writeAll draft _)
  · exact layers_follow draft _
  · rfl

/-- An image leaves the layers alone. -/
theorem layers_readImage (draft : Draft W) (alternative path : String) (title : Option String) :
    (draft.readImage setting alternative path title).layers = draft.layers := by
  unfold readImage
  dsimp only
  split
  · rfl
  · split
    · split <;> rfl
    · rfl

/-- A link that is given by key leaves the layers alone, whether its target is known or not. -/
theorem layers_readKeyedLink (draft : Draft W) (content key : String) (image : Bool) :
    (draft.readKeyedLink setting content key image).layers = draft.layers := by
  unfold readKeyedLink
  split
  · split
    · exact layers_readImage draft _ _ _
    · exact layers_readLink draft _ _ _
  · rfl

variable [Weight W]

/-- A definition leaves the layers alone. It can fail over links that skip questions, which names no
region. -/
theorem mirrors_define (draft : Draft W) (id : String) (kind : ReferenceKind) (counter : String) :
    Mirrors CompileError.region? (fun made : Draft W × Reference.Defined => made.1.layers)
      (.ok draft.layers) (draft.define setting id kind counter) :=
  .of_failsOnly (fun _ failed =>
    CompileError.region?_of_isGradedSkip (isGradedSkip_of_define failed))
    fun _ made => congrArg SlideDraft.layers (slide_of_define made)

/-- No markup within a line changes the layers, and none fails over a region. -/
theorem readsLayers_readToken (draft : Draft W) (token : Inline) :
    ReadsLayers (.ok draft.layers) (draft.readToken setting token) := by
  cases token with
  | definition content key => exact (mirrors_define draft _ _ _).then fun _ => rfl
  | link content url title image =>
    cases image with
    | true => exact .of_ok (congrArg Except.ok (layers_readImage draft _ _ _).symm)
    | false => exact .of_ok (congrArg Except.ok (layers_readLink draft _ _ _).symm)
  | keyedLink content key image =>
    exact .of_ok (congrArg Except.ok (layers_readKeyedLink draft _ _ _).symm)
  | _ => exact .of_ok rfl

/-- Neither does a step of running text. -/
theorem readsLayers_readStep (draft : Draft W) (step : TextStep) :
    ReadsLayers (.ok draft.layers) (draft.readStep setting step) := by
  cases step with
  | token token => exact readsLayers_readToken draft token
  | opening element => exact .of_ok rfl
  | closing element => exact .of_ok rfl

/-- Running text opens and closes no regions. -/
theorem readsLayers_readInside (draft : Draft W) (element : Element) (steps : List TextStep) :
    ReadsLayers (.ok draft.layers) (readInside setting element steps draft) := by
  have inside : ReadsLayers (.ok (draft.write (.opening element)).layers)
      (steps.foldlM (readStep setting) (draft.write (.opening element))) :=
    Mirrors.foldlM readsLayers_readStep steps _
  exact inside.then fun _ => rfl

end Running

section Directives

/-- A marker of choices leaves the layers alone. -/
theorem readsLayers_readMarker (draft : Draft W) (marker : Char × Bool) :
    ReadsLayers (.ok draft.layers) (draft.readMarker setting marker) := by
  have presents : ReadsLayers (.ok draft.layers) (do
      let choices ← located setting draft
        (draft.slide.choices.present setting.multiplicity marker.1 marker.2)
      return draft.withSlide { draft.slide with choices := choices }.openChoices) :=
    Mirrors.after (failsOnly_located (Choices.failsOnly_present _ _ _ _)) fun choices _ =>
      .of_ok (congrArg Except.ok
        (SlideDraft.layers_openChoices { draft.slide with choices := choices }).symm)
  unfold readMarker
  dsimp only
  split
  · split
    · exact Mirrors.after (failsOnly_fault rfl) fun _ _ => presents
    · exact presents
  · exact presents

/-- Tags leave the layers alone. -/
theorem readsLayers_readTags (draft : Draft W) (content : String) :
    ReadsLayers (.ok draft.layers) (draft.readTags setting content) := by
  have closed : draft.slide.closeChoices.layers = draft.layers :=
    SlideDraft.layers_closeChoices draft.slide
  unfold readTags
  dsimp only
  split
  · exact .of_ok (congrArg Except.ok closed.symm)
  · split
    · refine Mirrors.after (failsOnly_fault rfl) fun _ _ => .of_ok (congrArg Except.ok ?_)
      refine Eq.trans closed.symm ?_
      split <;> rfl
    · refine .of_ok (congrArg Except.ok (Eq.trans closed.symm ?_))
      split <;> rfl

/-- Calling a plugin leaves the layers alone. -/
theorem readsLayers_readPlugin (draft : Draft W) (name arguments : String) (plugin : Plugin) :
    ReadsLayers (.ok draft.layers) (draft.readPlugin setting name arguments plugin) := by
  refine .of_failsOnly (failsOnly_readPlugin fun _ => rfl) fun after read => ?_
  obtain ⟨_, _, _, _, -, slide, -⟩ := exists_of_readPlugin read
  rw [layers, slide]
  rfl

/-- An embed leaves the layers alone, whether or not the plugin is known. -/
theorem readsLayers_readEmbed (draft : Draft W) (name arguments : String) :
    ReadsLayers (.ok draft.layers) (draft.readEmbed setting name arguments) := by
  let embedded := draft.withSlide { draft.slide with embeds := draft.slide.embeds ++ [name] }
  have same : embedded.layers = draft.layers := rfl
  unfold readEmbed
  dsimp only
  by_cases old : draft.slide.embeds.contains name = true
  · rw [if_pos old]
    refine Mirrors.after (failsOnly_fault rfl) fun _ _ => ?_
    split
    · exact same ▸ readsLayers_readPlugin embedded name arguments _
    · exact .of_ok (congrArg Except.ok same.symm)
  · rw [if_neg old]
    split
    · exact same ▸ readsLayers_readPlugin embedded name arguments _
    · exact .of_ok (congrArg Except.ok same.symm)

/-- A draft whose slide has the layers `known` opens a region as they do. Where it fails, the error
names the slide and the same region. -/
theorem readsLayers_openRegion {slide : SlideDraft W} {known : Layers}
    (same : slide.layers = known) (region : Region) : ReadsLayers (known.openRegion region) (do
      return draft.withSlide (← located setting after (slide.openRegion region))) :=
  same ▸ (mirrors_located (slide.mirrors_openRegion region)).then fun _ => rfl

/-- A draft that closes its choices keeps its layers. -/
theorem layers_closeChoices (draft : Draft W) :
    (draft.withSlide draft.slide.closeChoices).layers = draft.layers :=
  SlideDraft.layers_closeChoices draft.slide

/-- A draft that closes hint and choices closes the hint of its layers. -/
theorem layers_closeHint (draft : Draft W) :
    (draft.withSlide (draft.slide.closeRegion .hint).closeChoices).layers =
      draft.layers.closeHint :=
  (SlideDraft.layers_closeChoices _).trans (SlideDraft.layers_closeHint draft.slide)

/-- A hint is read as the layers read it. Behind the body its output is discarded; before that an
earlier hint is closed and a penalty noted when this one opens. -/
theorem readsLayers_readHint (draft : Draft W) (penalty : Option Float) :
    ReadsLayers (draft.layers.read setting (.hint penalty)) (draft.readHint setting penalty) := by
  unfold readHint Layers.read
  dsimp only
  rw [← layers_closeChoices draft]
  generalize draft.withSlide draft.slide.closeChoices = closed
  by_cases past : closed.isPastBody = true
  · rw [if_pos past, if_pos (show closed.layers.isPastBody = true from past)]
    exact .of_ok rfl
  · rw [if_neg past, if_neg (show ¬ closed.layers.isPastBody = true from past)]
    refine readsLayers_openRegion ?_ .hint
    exact (SlideDraft.layers_penalize _ _).trans (congrArg _ (SlideDraft.layers_closeHint _))

/-- Notes are read as the layers read them: discarded behind the body, opened where none are
open. -/
theorem readsLayers_readNotes (draft : Draft W) :
    ReadsLayers (draft.layers.read setting .notes) (draft.readNotes setting) := by
  have opens (draft : Draft W) : ReadsLayers
      (if draft.layers.regions.contains .notes then .ok draft.layers
        else draft.layers.openRegion .notes)
      (if draft.slide.regions.contains .notes then .ok draft
        else do return draft.withSlide (← located setting draft
          (draft.slide.openRegion .notes))) := by
    rw [show draft.layers.regions = draft.slide.regions from rfl]
    split
    · exact .of_ok rfl
    · exact readsLayers_openRegion rfl .notes
  unfold readNotes Layers.read
  dsimp only
  rw [← layers_closeHint draft]
  generalize draft.withSlide (draft.slide.closeRegion .hint).closeChoices = closed
  by_cases past : closed.isPastBody = true
  · rw [if_pos past, if_pos (show closed.layers.isPastBody = true from past)]
    exact .of_ok rfl
  · rw [if_neg past, if_neg (show ¬ closed.layers.isPastBody = true from past)]
    exact opens (closed.withSlide { closed.slide with notesSeen := true })

/-- Extra material is read as the layers read it. It is the one directive that may fail over a
region. -/
theorem readsLayers_readExtra (draft : Draft W) :
    ReadsLayers (draft.layers.read setting .extra) (draft.readExtra setting) :=
  readsLayers_openRegion (layers_closeHint draft) .extra

variable [Weight W]

/-- An answer closes an open hint and leaves the layers as they are otherwise, whatever it says. -/
theorem readsLayers_readAnswer (draft : Draft W) (content : String) :
    ReadsLayers (.ok draft.layers.closeHint) (draft.readAnswer setting content) := by
  unfold readAnswer
  dsimp only
  rw [← layers_closeHint draft]
  generalize draft.withSlide (draft.slide.closeRegion .hint).closeChoices = closed
  split
  · exact .of_ok rfl
  · refine Mirrors.after (failsOnly_located fun fault failed => ?_) fun answer _ => ?_
    · exact SlideFault.region?_of_isOfAnswer (Answer.blamesAnswer_parse _ _ _ fault failed)
    · split
      · split
        · exact Mirrors.after (failsOnly_fault rfl) fun _ _ => .of_ok rfl
        · exact .of_ok rfl
      · exact .of_ok rfl

end Directives

section Text

variable [Weight W]

/-- The item of a list of choices leaves the layers alone. -/
theorem readsLayers_readChoice (draft : Draft W) (item : (Char × Bool) × List Inline) :
    ReadsLayers (.ok draft.layers) (draft.readChoice setting item) :=
  (readsLayers_readMarker draft item.1).bind Except.ok fun _ _ => readsLayers_readInside _ _ _

/-- A paragraph leaves the layers alone. -/
theorem readsLayers_readParagraph (draft : Draft W) (content : String) :
    ReadsLayers (.ok draft.layers) (draft.readParagraph setting content) := by
  have choices (draft : Draft W) (items : List ((Char × Bool) × List Inline)) :
      ReadsLayers (.ok draft.layers) (items.foldlM (readChoice setting) draft) :=
    Mirrors.foldlM readsLayers_readChoice items draft
  unfold readParagraph
  dsimp only
  split
  · exact choices draft _
  · exact (readsLayers_readInside draft .paragraph _).bind Except.ok fun _ _ => choices _ _

/-- The label of a heading leaves the layers alone. -/
theorem mirrors_defineHeading (draft : Draft W) (content : String) (key : Option String) :
    Mirrors CompileError.region? (fun defined : Draft W × Option String => defined.1.layers)
      (.ok draft.layers) (draft.defineHeading setting content key) := by
  unfold defineHeading
  dsimp only
  split
  · exact (mirrors_define draft _ _ _).then fun _ => rfl
  · split
    · exact .of_ok rfl
    · exact (mirrors_define draft _ _ _).then fun _ => rfl

/-- A heading is counted when the region that it opens is open. -/
theorem readsLayers_readHeading (draft : Draft W) (level : Nat) (content : String) :
    ReadsLayers (draft.layers.read setting (.heading level content))
      (draft.readHeading setting level content) := by
  have headed (slide : SlideDraft W) (header : Option String) (text : String)
      (key : Option String) : ReadsLayers (.ok slide.layers.head) (do
        let headed := draft.withSlide
          { slide with headings := slide.headings + 1, header := header }
        let numbered := numberHeading setting headed level text
        let defined ← defineHeading setting numbered.1 text key
        readInside setting (.heading level defined.2 numbered.2) (TextStep.ofText text)
          defined.1) := by
    dsimp only
    generalize place : draft.withSlide
      { slide with headings := slide.headings + 1, header := header } = counted
    have same : slide.layers.head = (numberHeading setting counted level text).1.layers := by
      rw [layers, slide_numberHeading, ← place]
      rfl
    rw [same]
    exact (mirrors_defineHeading _ text key).bind Except.ok fun defined _ =>
      readsLayers_readInside defined.1 _ _
  have opens : draft.layers.head.openRegion .hidden =
      draft.layers.openRegion .hidden >>= fun inside => .ok inside.head := by
    unfold Layers.openRegion
    rw [show draft.layers.head.regions = draft.layers.regions from rfl]
    split <;> rfl
  have hides : draft.hides setting level (String.ofList (trim (cutHeading content.toList).1)) =
      (draft.layers.headings == 0 && (Block.heading level content).isHiding setting) :=
    Bool.and_assoc _ _ _
  unfold readHeading Layers.read
  dsimp only
  rw [hides]
  split
  · rw [opens]
    refine Mirrors.bind (fun inside => .ok inside.head)
      (mirrors_located (draft.slide.mirrors_openRegion .hidden)) fun slide _ => ?_
    exact headed slide _ _ _
  · exact headed draft.slide _ _ _

/-- An item of a list leaves the layers alone. -/
theorem readsLayers_readListItem (draft : Draft W) (ordered : Bool) (content : String) :
    ReadsLayers (.ok draft.layers) (draft.readListItem setting ordered content) := by
  have opened : (draft.withSlide (draft.slide.openList ordered)).layers = draft.layers :=
    SlideDraft.layers_openList draft.slide ordered
  exact opened ▸ readsLayers_readInside (draft.withSlide (draft.slide.openList ordered)) _ _

/-- A discussion leaves the layers alone. -/
theorem readsLayers_readDiscuss (draft : Draft W) (content : String) :
    ReadsLayers (.ok draft.layers) (draft.readDiscuss setting content) := by
  rw [← layers_closeChoices draft]
  exact readsLayers_readInside
    (draft.withSlide { draft.slide.closeChoices with discuss := true }) _ _

end Text

section Blocks

variable [Weight W]

/-- The content of a block is read as the layers read the block. There is a case for each kind of
block, and only directives and headings do anything to the layers. -/
theorem readsLayers_readContent (draft : Draft W) (block : Block) :
    ReadsLayers (draft.layers.read setting block) (draft.readContent setting block) := by
  cases block with
  | text content => exact readsLayers_readParagraph draft content
  | heading level content => exact readsLayers_readHeading draft level content
  | pluginEmbed name arguments => exact readsLayers_readEmbed draft name arguments
  | answer content => exact readsLayers_readAnswer draft content
  | discuss content => exact readsLayers_readDiscuss draft content
  | tags content => exact readsLayers_readTags draft content
  | hint penalty => exact readsLayers_readHint draft penalty
  | notes => exact readsLayers_readNotes draft
  | extra => exact readsLayers_readExtra draft
  | listItem ordered content => exact readsLayers_readListItem draft ordered content
  | metadata name content =>
    refine .of_ok (congrArg Except.ok ?_)
    split <;> rfl
  | _ => exact .of_ok rfl

omit [Weight W] in
/-- What is closed before a block, lists and choices, leaves the layers alone. -/
theorem layers_beforeBlock (draft : Draft W) (block : Block) :
    (draft.beforeBlock block).layers = draft.layers := by
  unfold beforeBlock
  split
  · rfl
  · exact SlideDraft.layers_closeList draft.slide

/-- **A block is read for its regions.** Of them, reading a block that is part of the slide does
what the reader of these alone does. -/
theorem readsLayers_readPart (setting : Setting) (draft : Draft W) (block : Block) :
    ReadsLayers (draft.layers.read setting block) (draft.readPart setting block) :=
  layers_beforeBlock draft block ▸ readsLayers_readContent (draft.beforeBlock block) block

end Blocks

section SlideEnd

/-- Regions are closed at the end of a slide, and nothing else changes of them. -/
theorem exists_layers_closeAll (slide : SlideDraft W) : ∃ regions, regions <:+ slide.regions ∧
    slide.closeAll.layers = { slide.layers with regions := regions, isDiscarding := false } := by
  have closes (names : List Region) (middle : SlideDraft W) :
      ∃ regions, regions <:+ middle.regions ∧ (names.foldl SlideDraft.closeRegion middle).layers =
        { middle.layers with regions := regions } := by
    induction names generalizing middle with
    | nil => exact ⟨middle.regions, List.suffix_rfl, rfl⟩
    | cons region rest later =>
      obtain ⟨regions, inside, same⟩ := later (middle.closeRegion region)
      refine ⟨regions, inside.trans (SlideDraft.closeRegion_regions_suffix middle region), ?_⟩
      rw [List.foldl_cons, same, SlideDraft.layers_closeRegion]
  obtain ⟨regions, inside, same⟩ := closes [.extra, .hint, .notes, .hidden]
    { slide with isDiscarding := false }.closeList.closeChoices
  have shown : { slide with isDiscarding := false }.closeList.closeChoices.layers =
      { slide.layers with isDiscarding := false } :=
    (SlideDraft.layers_closeChoices _).trans (SlideDraft.layers_closeList _)
  refine ⟨regions, ?_, same.trans (by rw [shown])⟩
  have left : regions <:+ Layers.regions (SlideDraft.layers _) := inside
  rwa [shown] at left

/-- An answer that is checked at the end of its slide fails over no region. -/
theorem failsOnly_checkAnswer (slide : SlideDraft W) (answer : Answer W) (kind : QuestionKind) :
    FailsOnly (fun fault => fault.region? = none) (checkAnswer slide answer kind) := by
  unfold checkAnswer
  dsimp only
  -- Choices are checked first and the plugin last, whatever the kind.
  repeat' split
  all_goals first
    | exact .error rfl
    | exact .ok ()

variable [Weight W]

/-- The end of a slide is no matter of regions. -/
theorem failsOnly_closeSlide (setting : Setting) (draft : Draft W) (endBlock : Nat) :
    FailsOnly (fun error => error.region? = none) (draft.closeSlide setting endBlock) := by
  obtain ⟨warnings, same⟩ := exists_closeSlide_eq setting draft endBlock
  rw [same, recordQuestion_eq, bind_assoc]
  refine FailsOnly.bind ?_ fun _ => ?_
  · cases answer? (draft.withSlide draft.slide.closeAll).slide with
    | none => exact .ok ()
    | some answer => exact failsOnly_located (failsOnly_checkAnswer _ _ _)
  · intro error failed
    exact CompileError.region?_of_isGradedSkip (isGradedSkip_of_settle failed)

end SlideEnd

section Running

variable [Weight W] {block : Block} {blocks : List Block} {region : Region}
  {error : CompileError W}

/-- Extra material that begins again is refused. -/
theorem readPart_extra_eq_error (sound : draft.layers.Sound)
    (opened : .extra ∈ draft.layers.opened) : draft.readPart setting .extra =
      .error (.faultySlide ⟨setting.file, draft.slide.number⟩ (.regionAlreadyOpen .extra)) := by
  let closed := (draft.slide.closeList.closeRegion .hint).closeChoices
  have same : closed.layers = draft.layers.closeHint := by simp [closed, layers]
  have inside : .extra ∈ closed.layers.regions := by
    rw [same]
    exact sound.stays .extra (.inr rfl) opened
  have bare : closed.bare = draft.slide.bare := by
    rw [SlideDraft.bare_closeChoices, SlideDraft.bare_closeRegion, SlideDraft.bare_closeList]
  have refused : closed.openRegion .extra = .error (.regionAlreadyOpen .extra) :=
    if_pos (List.contains_iff_mem.2 inside)
  have reads : draft.readPart setting .extra = located setting (draft.withSlide closed)
      (closed.openRegion .extra) >>= fun slide => .ok (draft.withSlide slide) := rfl
  rw [reads, refused, ← (SlideDraft.SamePlace.of_bare bare).number]
  rfl

/-- Extra material that begins again on a slide is an error, also when the first is closed by then:
it is never closed before the slide ends. -/
theorem readBlock_extra_eq_error (sound : draft.layers.Sound)
    (opened : .extra ∈ draft.layers.opened) (before : Nat) :
    draft.readBlock setting (.extra, before) =
      .error (.faultySlide ⟨setting.file, draft.slide.number⟩ (.regionAlreadyOpen .extra)) := by
  unfold readBlock
  dsimp only
  split
  · exact @readPart_extra_eq_error _ setting (draft.noteContent .extra) _ sound opened
  · exact readPart_extra_eq_error sound opened

/-- What fails over a region while the slide is read. -/
theorem of_readPart_eq_error (failed : draft.readPart setting block = .error error)
    (heard : error.region? = some region) {known : Layers} (sound : known.Sound)
    (same : draft.layers = known) : block = .extra ∧ .extra ∈ known.opened := by
  subst same
  have fails := (readsLayers_readPart setting draft block).error failed heard
  exact ((sound.fails_iff (Layers.step_read setting _ block)).1 fails).2

/-- The end of a slide fails over no region. -/
theorem failsOnly_nextSlide (setting : Setting) (draft : Draft W) (endBlock : Nat) :
    FailsOnly (fun error => error.region? = none) (draft.nextSlide setting endBlock) :=
  (failsOnly_closeSlide setting draft endBlock).bind fun _ => .ok _

/-- What fails over a region while a block is read. -/
theorem of_readBlock_eq_error (sound : draft.layers.Sound) {before : Nat}
    (failed : draft.readBlock setting (block, before) = .error error)
    (heard : error.region? = some region) : block = .extra ∧ .extra ∈ draft.layers.opened := by
  have never {stop : Nat} : draft.nextSlide setting stop ≠ .error error := fun failed =>
    nomatch heard.symm.trans (failsOnly_nextSlide setting draft stop error failed)
  unfold readBlock at failed
  dsimp only at failed
  split at failed
  · split at failed
    · exact absurd failed never
    · split at failed
      · rcases bind_eq_error.1 failed with failed | ⟨opened, next, failed⟩
        · exact absurd failed never
        -- On the slide that the block begins nothing was opened yet.
        · obtain ⟨ended, -, rfl⟩ := exists_of_nextSlide next
          exact nomatch (of_readPart_eq_error failed heard Layers.sound_initial rfl).2
      · have failed : (draft.noteContent block).readPart setting block = .error error := failed
        exact of_readPart_eq_error failed heard sound rfl
  · exact of_readPart_eq_error failed heard sound rfl

/-- The layers of a slide are sound, and tell whether there is extra material. -/
theorem kept_layers (setting : Setting) : Kept (W := W) setting fun blocks slide =>
    slide.layers.Sound ∧ (.extra ∈ slide.opened ↔ .extra ∈ blocks) where
  start := fun _ _ => ⟨Layers.sound_initial, iff_of_false nofun nofun⟩
  noted := fun _ known => known
  part := by
    rintro blocks draft after block read ⟨sound, extra⟩
    have reads := (readsLayers_readPart setting draft block).ok after read
    have step := Layers.step_read setting draft.layers block
    refine ⟨sound.of_step step reads, (Layers.extra_mem_opened_iff step reads).trans ?_⟩
    rw [List.mem_append, List.mem_singleton, ← extra, @eq_comm _ block]
    rfl
  rule := by
    rintro blocks slide ⟨sound, extra⟩
    refine ⟨sound, extra.trans ?_⟩
    simp

/-- **Layers of regions.** Whenever a file is read, no region of its slide is open twice, output is
discarded only in extra material, and no hint is open there. Apart from hints each region was opened
at most once on the slide, and there are as many penalties as hints. Reading a file fails over a
region that is open exactly where extra material begins again on a slide. -/
theorem layers_inOrder (setting : Setting) :
    (∀ blocks (draft : Draft W), Reaches setting blocks draft →
      draft.layers.InOrder ∧ draft.slide.closeAll.layers.InOrder) ∧
    ∀ location region, (readFile setting : Except (CompileError W) (Draft W)) =
        .error (.faultySlide location (.regionAlreadyOpen region)) ↔
      region = .extra ∧ ∃ before after, ∃ draft : Draft W,
        setting.outline.blocks = before ++ .extra :: after ∧
        before.zipIdx.foldlM (readBlock setting) (start setting.fileNumber) = .ok draft ∧
        .extra ∈ currentSlide before ∧ location = ⟨setting.file, draft.slide.number⟩ := by
  have known {blocks : List Block} {draft : Draft W}
      (read : blocks.zipIdx.foldlM (readBlock setting) (start setting.fileNumber) = .ok draft) :=
    (kept_layers setting).of_readBlocks read
  have ordered {draft : Draft W} (sound : draft.layers.Sound) :
      draft.layers.InOrder ∧ draft.slide.closeAll.layers.InOrder := by
    obtain ⟨regions, left, closed⟩ := exists_layers_closeAll draft.slide
    exact ⟨sound.toInOrder, closed ▸ sound.closed left⟩
  constructor
  · rintro blocks draft ⟨earlier, read, same⟩
    rcases same with rfl | next
    · exact ordered (known read).1
    · obtain ⟨ended, -, rfl⟩ := exists_of_nextSlide next
      exact ordered (Layers.sound_initial)
  · intro location region
    constructor
    · intro failed
      rcases bind_eq_error.1 failed with failed | ⟨last, -, failed⟩
      · obtain ⟨before, block, after, draft, whole, read, failed⟩ :=
          exists_of_foldlM_zipIdx_eq_error failed
        have sound := (known read).1
        obtain ⟨rfl, opened⟩ := of_readBlock_eq_error sound failed rfl
        cases failed.symm.trans (readBlock_extra_eq_error sound opened _)
        exact ⟨rfl, before, after, draft, whole, read, (known read).2.1 opened, rfl⟩
      · exact nomatch failsOnly_closeSlide setting last _ _ failed
    · rintro ⟨rfl, before, after, draft, whole, read, again, rfl⟩
      refine readFile_eq_error whole read ?_
      exact readBlock_extra_eq_error (known read).1 ((known read).2.2 again) _

/-- Extra material that begins again after a hint was left out. -/
example (setting : Setting) : [Block.extra, .hint none, .extra].zipIdx.foldlM (readBlock setting)
    (start 1 : Draft W) =
      .error (.faultySlide ⟨setting.file, 1⟩ (.regionAlreadyOpen .extra)) := rfl

end Running

end Draft

end LectureDeck
