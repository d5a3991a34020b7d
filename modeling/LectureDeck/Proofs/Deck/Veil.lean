import LectureDeck.Proofs.Deck.Cues
import LectureDeck.Proofs.Reference.Forward

/-!
# Reading under a veil

What is seen of a draft by one who is told the kinds of answers, and nothing else of them
(`LectureDeck.Draft.veil`). What can be read openly can be read under the veil, with what is seen of
the draft it leads to (`LectureDeck.Veils`): blocks that are no answers
(`LectureDeck.Draft.veils_readPart`), and the ends of slides
(`LectureDeck.Draft.veils_closeSlide`).
-/

namespace LectureDeck

open LectureDeck.Text

section Veiling

variable {W : Type}

/-- Links of which it is not told what question they are on. -/
def ForwardLinks.veil (forward : ForwardLinks) : ForwardLinks :=
  ⟨forward.links.map fun link => { link with originQuestion := none }⟩

/-- A slide of which it is not told whether it has a question. -/
def Slide.veil (slide : Slide) : Slide := { slide with question := none }

/-- A piece without the correct answer. -/
def Piece.veil : Piece → Piece
  | answer slideId keyword _ => .answer slideId keyword none
  | piece => piece

def Entry.veil (entry : Entry) : Entry := { entry with piece := entry.piece.veil }

variable [Weight W]

/-- An answer of which only the kind is told. -/
def Answer.veil (answer : Answer W) : Answer W := ⟨answer.kind, none, none, AnswerOptions.initial⟩

def SlideDraft.veil (slide : SlideDraft W) : SlideDraft W :=
  { slide with answer := slide.answer.map Answer.veil, script := slide.script.map Entry.veil }

def FileDraft.veil (file : FileDraft W) : FileDraft W :=
  { file with
    forward := file.forward.veil
    ledger := Ledger.empty
    questions := []
    slides := file.slides.map Slide.veil
    scripts := file.scripts.map (List.map Entry.veil)
    occurrences := [] }

/-- A draft as one sees it who is not told answers. -/
def Draft.veil (draft : Draft W) : Draft W := ⟨draft.file.veil, draft.slide.veil⟩

omit [Weight W] in
/-- What blocks are read with, without the source that holds the answers. -/
def Setting.veil (setting : Setting) : Setting :=
  { setting with source := [], outline := ⟨[], [], setting.outline.linkTargets⟩ }

end Veiling

section Veils

variable {ε α β γ δ ι : Type}

/-- A reading that succeeds does so under a veil too, with what is seen of its result. -/
def Veils (view : α → β) (result : Except ε α) (veiled : Except ε β) : Prop :=
  ∀ value, result = .ok value → veiled = .ok (view value)

namespace Veils

variable {view : α → β} {last : γ → δ} {result : Except ε α} {veiled : Except ε β}

/-- A value is seen as what the view makes of it. -/
theorem of_eq {value : α} {seen : β} (same : seen = view value) :
    Veils view (.ok value : Except ε α) (.ok seen) := by
  rintro _ ⟨⟩
  rw [same]

/-- Where nothing is hidden a reading is seen as it is. -/
theorem refl (result : Except ε α) : Veils (fun value => value) result result := fun _ same => same

/-- What fails is not seen. -/
theorem of_error (error : ε) : Veils view (.error error) veiled := fun _ same => nomatch same

/-- Readings follow one another under a veil, if the later one is seen whatever the earlier one
leads to. -/
theorem bind {rest : α → Except ε γ} {next : β → Except ε δ} (earlier : Veils view result veiled)
    (later : ∀ value, Veils last (rest value) (next (view value))) :
    Veils last (result >>= rest) (veiled >>= next) := by
  intro value succeeds
  obtain ⟨middle, first, succeeds⟩ := bind_eq_ok.1 succeeds
  rw [earlier middle first]
  exact later middle value succeeds

/-- A choice is seen if each of its ways is, where the condition does not depend on what is
hidden. -/
theorem ite {condition : Prop} [Decidable condition] {other : Except ε α} {seen : Except ε β}
    (yes : condition → Veils view result veiled) (no : ¬ condition → Veils view other seen) :
    Veils view (if condition then result else other) (if condition then veiled else seen) := by
  by_cases holds : condition
  · rw [if_pos holds, if_pos holds]
    exact yes holds
  · rw [if_neg holds, if_neg holds]
    exact no holds

/-- Items read one after another are seen one after another. -/
theorem foldlM {step : α → ι → Except ε α} {next : β → ι → Except ε β}
    (each : ∀ value item, Veils view (step value item) (next (view value) item)) (items : List ι)
    (first : α) : Veils view (items.foldlM step first) (items.foldlM next (view first)) := by
  induction items generalizing first with
  | nil => exact of_eq rfl
  | cons item rest later =>
    rw [List.foldlM_cons, List.foldlM_cons]
    exact (each first item).bind later

end Veils

end Veils

namespace SlideDraft

variable {W : Type} [Weight W] {slide after : SlideDraft W}

/-- A piece written to a slide is seen without its correct answer, after what was written before. -/
theorem veil_write (slide : SlideDraft W) (piece : Piece) :
    (slide.write piece).veil = slide.veil.write piece.veil := by
  simp [veil, write, Entry.veil]

/-- Opening a region is seen, for which regions are open is not hidden. -/
theorem veils_openRegion {slide seen : SlideDraft W} (same : seen = slide.veil) (region : Region) :
    Veils veil (slide.openRegion region) (seen.openRegion region) := by
  subst same
  unfold openRegion
  refine .ite (fun _ => .of_error _) fun _ => .of_eq ?_
  rw [veil_write]
  rfl

/-- So is closing the innermost region. -/
theorem veil_closeInnermost (slide : SlideDraft W) :
    slide.closeInnermost.veil = slide.veil.closeInnermost := by
  unfold closeInnermost
  cases opened : slide.regions with
  | nil => simp [veil, opened]
  | cons region outer =>
    have same : slide.veil.regions = region :: outer := opened
    rw [same]
    exact congrArg (fun closed : SlideDraft W => { closed with regions := outer })
      (veil_write slide _)

/-- Closing several regions is seen as closing as many under the veil. -/
theorem veil_closeMany (count : Nat) (slide : SlideDraft W) :
    (closeMany count slide).veil = closeMany count slide.veil := by
  induction count generalizing slide with
  | zero => rfl
  | succ count later =>
    rw [closeMany, later, veil_closeInnermost]
    rfl

/-- Closing a region with what is open in it is seen. -/
theorem veil_closeRegion (slide : SlideDraft W) (region : Region) :
    (slide.closeRegion region).veil = slide.veil.closeRegion region := by
  unfold closeRegion
  rw [apply_ite veil, veil_closeMany]
  rfl

/-- The end of a list is seen. -/
theorem veil_closeList (slide : SlideDraft W) : slide.closeList.veil = slide.veil.closeList := by
  unfold closeList
  cases opened : slide.list with
  | none =>
    have same : slide.veil.list = none := opened
    rw [same]
  | some ordered =>
    have same : slide.veil.list = some ordered := opened
    rw [same]
    exact veil_write ({ slide with list := none } : SlideDraft W) _

/-- The beginning of a list is seen, and the end of one of the other kind before it. -/
theorem veil_openList (slide : SlideDraft W) (ordered : Bool) :
    (slide.openList ordered).veil = slide.veil.openList ordered := by
  unfold openList
  rw [apply_ite veil, veil_write, ← veil_closeList]
  rfl

/-- The end of choices is seen. -/
theorem veil_closeChoices (slide : SlideDraft W) :
    slide.closeChoices.veil = slide.veil.closeChoices := by
  unfold closeChoices
  rw [apply_ite veil, veil_write]
  rfl

/-- The beginning of choices is seen. -/
theorem veil_openChoices (slide : SlideDraft W) :
    slide.openChoices.veil = slide.veil.openChoices := by
  unfold openChoices
  rw [apply_ite veil, veil_write]
  rfl

/-- What is closed before a directive, a hint and choices, is seen. -/
theorem veil_closeHint (slide : SlideDraft W) :
    (slide.closeRegion .hint).closeChoices.veil =
      (slide.veil.closeRegion .hint).closeChoices := by
  rw [veil_closeChoices, veil_closeRegion]

/-- What is closed at the end of a slide is seen. -/
theorem veil_closeAll (slide : SlideDraft W) : slide.closeAll.veil = slide.veil.closeAll := by
  have regions (names : List Region) (middle : SlideDraft W) :
      (names.foldl closeRegion middle).veil = names.foldl closeRegion middle.veil := by
    induction names generalizing middle with
    | nil => rfl
    | cons region rest later => rw [List.foldl_cons, later, veil_closeRegion, List.foldl_cons]
  rw [closeAll, regions, veil_closeChoices, veil_closeList]
  rfl

end SlideDraft

namespace ForwardLinks

/-- A link that is added is seen, because it is not said with it what question it is on before its
slide ends. -/
theorem veil_add (forward : ForwardLinks) (target : String) (originSlide : Nat) :
    (forward.add target originSlide).veil = forward.veil.add target originSlide := by
  simp [veil, add]

/-- What a definition does to the links that wait for it is seen. -/
theorem veil_define (forward : ForwardLinks) (target : String) (slide : Nat) :
    (forward.define target slide).veil = forward.veil.define target slide := by
  simp only [veil, define, List.map_map]
  refine congrArg mk (List.map_congr_left fun link _ => ?_)
  simp only [Function.comp_apply, ForwardLink.define]
  split <;> rfl

/-- At the end of a slide links are told its question. Under the veil they are told that there is
none. -/
theorem veil_closeSlide (forward : ForwardLinks) (slide : Nat) (question : Option Nat) :
    (forward.closeSlide slide question).veil = forward.veil.closeSlide slide none := by
  simp only [veil, closeSlide, List.map_map]
  refine congrArg mk (List.map_congr_left fun link _ => ?_)
  simp only [Function.comp_apply, ForwardLink.close]
  split <;> rfl

/-- Which links are done with does not depend on the questions that they are on. -/
theorem veil_filter (forward : ForwardLinks) :
    veil ⟨forward.links.filter fun link => !link.isReady⟩ =
      ⟨forward.veil.links.filter fun link => !link.isReady⟩ := by
  rw [veil, veil, List.filter_map]
  rfl

/-- Links settle under a veil, because no question is skipped from. -/
theorem settle_veil {W : Type} [Weight W] (forward : ForwardLinks) (ledger : Ledger W) :
    forward.veil.settle ledger =
      .ok (veil ⟨forward.links.filter fun link => !link.isReady⟩, []) := by
  have silent : ∀ link ∈ forward.veil.links, link.skip? ledger = .ok none := by
    intro link member
    obtain ⟨other, _, rfl⟩ := List.mem_map.1 member
    rfl
  rw [veil_filter]
  rcases forward.veil.settle_cases ledger with
    ⟨skips, same, -, found⟩ | ⟨link, member, -, violation, refused, -⟩
  · have none : skips = [] := by
      refine List.eq_nil_iff_forall_not_mem.2 fun skip member => ?_
      obtain ⟨link, known, -, skips⟩ := (found skip).1 member
      rw [silent link known] at skips
      cases skips
    rw [same, none]
  · rw [silent link member] at refused
    cases refused

end ForwardLinks

namespace Draft

variable {W : Type} [Weight W] {setting : Setting}

/-- A draft writes a piece under the veil without its correct answer. -/
theorem veil_write (draft : Draft W) (piece : Piece) :
    (draft.write piece).veil = draft.veil.write piece.veil :=
  congrArg (Draft.mk draft.file.veil) (draft.slide.veil_write piece)

/-- A piece that is no answer is seen as it is. -/
theorem veil_write_plain (draft : Draft W) {piece : Piece} (plain : piece.veil = piece) :
    (draft.write piece).veil = draft.veil.write piece := by rw [veil_write, plain]

/-- Writing a piece that is no answer is seen as it is, and does not fail. -/
theorem veils_write (draft : Draft W) {piece : Piece} (plain : piece.veil = piece) :
    Veils veil (.ok (draft.write piece) : Except (CompileError W) (Draft W))
      (.ok (draft.veil.write piece)) := .of_eq (veil_write_plain draft plain).symm

/-- A draft under a veil that is given what is seen of a slide is what is seen of the draft with
that slide. -/
theorem withSlide_veil (draft : Draft W) {slide seen : SlideDraft W} (same : slide.veil = seen) :
    draft.veil.withSlide seen = (draft.withSlide slide).veil := by
  rw [← same]
  rfl

/-- A draft closes choices under the veil as it does openly. -/
theorem withSlide_veil_closeChoices (draft : Draft W) :
    draft.veil.withSlide draft.veil.slide.closeChoices =
      (draft.withSlide draft.slide.closeChoices).veil :=
  withSlide_veil draft (SlideDraft.veil_closeChoices _)

/-- A draft closes hint and choices under the veil as it does openly. -/
theorem withSlide_veil_closeHint (draft : Draft W) :
    draft.veil.withSlide (draft.veil.slide.closeRegion .hint).closeChoices =
      (draft.withSlide (draft.slide.closeRegion .hint).closeChoices).veil :=
  withSlide_veil draft (SlideDraft.veil_closeHint _)

/-- A warning is seen. -/
theorem veil_warn (setting : Setting) (draft : Draft W) (finding : Finding) :
    (draft.warn setting finding).veil = draft.veil.warn setting.veil finding := rfl

/-- Following a link is seen, since it is not hidden which references there are. -/
theorem veil_follow (draft : Draft W) (id : String) :
    (draft.follow id).veil = draft.veil.follow id := by
  unfold follow
  rw [apply_ite veil]
  refine if_congr Iff.rfl rfl ?_
  exact congrArg (fun forward => (⟨{ draft.veil.file with forward := forward }, _⟩ : Draft W))
    (ForwardLinks.veil_add _ _ _)

/-- Saying where a fault stands hides nothing. -/
theorem veils_located {α β : Type} {view : α → β} {result : Except SlideFault α}
    {seen : Except SlideFault β} (draft : Draft W) (veils : Veils view result seen) :
    Veils view (located setting draft result) (located setting.veil draft.veil seen) := by
  cases result with
  | error fault => exact .of_error _
  | ok value =>
    rw [veils value rfl]
    exact .of_eq rfl

/-- Links settle under the veil whenever they do openly. Openly they may fail over what they
skip. -/
theorem veils_settle {draft seen : Draft W} (same : seen = draft.veil) :
    Veils veil (draft.settle setting) (seen.settle setting.veil) := by
  subst same
  intro after settled
  have links : draft.veil.file.forward.settle draft.veil.file.ledger = _ :=
    ForwardLinks.settle_veil draft.file.forward Ledger.empty
  unfold settle at settled ⊢
  rw [links]
  rcases draft.file.forward.settle_cases draft.file.ledger with
    ⟨skips, same, -, -⟩ | ⟨_, _, _, violation, _, same⟩
  · rw [same] at settled
    cases settled
    rfl
  · rw [same] at settled
    cases settled

section Running

/-- Pieces written one after another are each seen without their correct answers. -/
theorem veil_writeAll (draft : Draft W) (pieces : List Piece) :
    (draft.writeAll pieces).veil = draft.veil.writeAll (pieces.map Piece.veil) := by
  induction pieces generalizing draft with
  | nil => rfl
  | cons piece rest later =>
    rw [writeAll, List.foldl_cons, List.map_cons, writeAll, List.foldl_cons, ← veil_write]
    exact later (draft.write piece)

/-- A link in the text is seen. -/
theorem veil_readLink (draft : Draft W) (content url : String) (title : Option String) :
    (draft.readLink content url title).veil = draft.veil.readLink content url title := by
  unfold readLink
  split
  · exact veil_write draft _
  · rw [veil_follow, veil_writeAll]
    split <;> rfl
  · rw [veil_write, veil_follow]
    rfl
  · exact veil_write draft _

/-- An image is seen, since where images are looked for is not hidden. -/
theorem veil_readImage (draft : Draft W) (alternative path : String) (title : Option String) :
    (draft.readImage setting alternative path title).veil =
      draft.veil.readImage setting.veil alternative path title := by
  unfold readImage
  rw [apply_ite veil]
  refine if_congr Iff.rfl (veil_write draft _) ?_
  dsimp only
  rw [apply_ite veil]
  refine if_congr Iff.rfl ?_ (veil_write _ _)
  have openly (images : List String) : setting.images setting.file
      (draft.withSlide { draft.slide with images := images }).slide.id path =
        setting.images setting.file draft.slide.id path := rfl
  have veiled (images : List String) : setting.veil.images setting.veil.file
      (draft.veil.withSlide { draft.veil.slide with images := images }).slide.id path =
        setting.images setting.file draft.slide.id path := rfl
  rw [openly, veiled]
  cases setting.images setting.file draft.slide.id path with
  | some bytes => exact veil_write _ _
  | none => exact veil_write _ _

/-- A link that is given by key is seen, since the targets are among what the veil leaves of a
setting. -/
theorem veil_readKeyedLink (draft : Draft W) (content key : String) (image : Bool) :
    (draft.readKeyedLink setting content key image).veil =
      draft.veil.readKeyedLink setting.veil content key image := by
  have same : setting.veil.outline.linkTargets = setting.outline.linkTargets := rfl
  unfold readKeyedLink
  rw [same]
  cases setting.outline.linkTargets.lookup (Reference.key key) with
  | none => exact veil_write draft _
  | some target =>
    cases image with
    | true => exact veil_readImage draft _ _ _
    | false => exact veil_readLink draft _ _ _

/-- A definition is seen as it is: links that it settles skip nothing then. -/
theorem veils_define (draft : Draft W) (id : String) (kind : ReferenceKind) (counter : String) :
    Veils (fun made : Draft W × Reference.Defined => (made.1.veil, made.2))
      (draft.define setting id kind counter) (draft.veil.define setting.veil id kind counter) := by
  unfold define
  refine .ite (fun _ => ?_) fun _ => .of_eq rfl
  refine (veils_settle ?_).bind fun settled => .of_eq rfl
  refine congrArg (fun forward => (⟨{ draft.veil.file with
    references := _, forward := forward }, draft.veil.slide⟩ : Draft W)) ?_
  exact (draft.file.forward.veil_define _ _).symm

/-- A definition in the text is seen, with the identifier that was made for it. -/
theorem veils_readDefinition (draft : Draft W) (content key : String) :
    Veils veil (draft.readDefinition setting content key)
      (draft.veil.readDefinition setting.veil content key) :=
  (veils_define draft _ _ _).bind fun made => veils_write made.1 rfl

/-- Markup within a line is seen. Only definitions among it may fail. -/
theorem veils_readToken (draft : Draft W) (token : Inline) :
    Veils veil (draft.readToken setting token) (draft.veil.readToken setting.veil token) := by
  cases token with
  | definition content key => exact veils_readDefinition draft content key
  | call plugin action argument => exact veils_write (draft.withSlide _) rfl
  | link content url title image =>
    cases image with
    | true => exact .of_eq (veil_readImage draft _ _ _).symm
    | false => exact .of_eq (veil_readLink draft _ _ _).symm
  | keyedLink content key image => exact .of_eq (veil_readKeyedLink draft _ _ _).symm
  | strong => exact .of_eq rfl
  | emphasis => exact .of_eq rfl
  | _ => exact veils_write draft rfl

/-- A step of running text is seen. -/
theorem veils_readStep (draft : Draft W) (step : TextStep) :
    Veils veil (draft.readStep setting step) (draft.veil.readStep setting.veil step) := by
  cases step with
  | token token => exact veils_readToken draft token
  | opening element => exact veils_write draft rfl
  | closing element => exact veils_write draft rfl

/-- Running text within an element is seen. -/
theorem veils_readInside (draft : Draft W) (element : Element) (steps : List TextStep) :
    Veils veil (readInside setting element steps draft)
      (readInside setting.veil element steps draft.veil) := by
  have read : Veils veil (steps.foldlM (readStep setting) (draft.write (.opening element)))
      (steps.foldlM (readStep setting.veil) (draft.write (.opening element)).veil) :=
    .foldlM veils_readStep steps _
  rw [veil_write_plain draft rfl] at read
  exact read.bind fun inside => veils_write inside rfl

end Running

section Directives

/-- A marker of choices is seen with the letter that it is given. -/
theorem veils_readMarker (draft : Draft W) (marker : Char × Bool) :
    Veils veil (draft.readMarker setting marker) (draft.veil.readMarker setting.veil marker) := by
  have kinds : draft.veil.slide.answer.bind Answer.kind = draft.slide.answer.bind Answer.kind := by
    change (draft.slide.answer.map Answer.veil).bind _ = _
    cases draft.slide.answer <;> rfl
  have presented : Veils veil
      (do
        let choices ← located setting draft
          (draft.slide.choices.present setting.multiplicity marker.1 marker.2)
        return draft.withSlide { draft.slide with choices := choices }.openChoices)
      (do
        let choices ← located setting.veil draft.veil
          (draft.veil.slide.choices.present setting.veil.multiplicity marker.1 marker.2)
        return draft.veil.withSlide { draft.veil.slide with choices := choices }.openChoices) :=
    (veils_located draft (.refl _)).bind fun choices =>
      .of_eq (withSlide_veil draft
        (SlideDraft.veil_openChoices { draft.slide with choices := choices }))
  unfold readMarker
  rw [kinds]
  cases draft.slide.answer.bind Answer.kind with
  | none => exact presented
  | some kind => exact .ite (fun _ => .of_error _) fun _ => presented

/-- Tags are seen: concepts are not hidden. -/
theorem veils_readTags (draft : Draft W) (content : String) :
    Veils veil (draft.readTags setting content) (draft.veil.readTags setting.veil content) := by
  unfold readTags
  rw [withSlide_veil_closeChoices]
  generalize draft.withSlide draft.slide.closeChoices = closed
  refine .ite (fun _ => .of_eq rfl) fun _ => .ite (fun _ => .of_error _) fun _ => .of_eq ?_
  split
  · rfl
  · rw [← veil_write_plain closed rfl]
    rfl

/-- A hint is seen, and so is its penalty. -/
theorem veils_readHint (draft : Draft W) (penalty : Option Float) :
    Veils veil (draft.readHint setting penalty) (draft.veil.readHint setting.veil penalty) := by
  unfold readHint
  rw [withSlide_veil_closeChoices]
  generalize draft.withSlide draft.slide.closeChoices = closed
  refine .ite (fun _ => .of_eq rfl) fun _ => ?_
  refine (veils_located closed (SlideDraft.veils_openRegion ?_ .hint)).bind fun opened => .of_eq rfl
  exact congrArg (fun slide : SlideDraft W =>
    { slide with hints := slide.hints ++ [penalty.getD 0.0] })
    (closed.slide.veil_closeRegion .hint).symm

/-- Notes are seen, also where they are left out of the output. -/
theorem veils_readNotes (draft : Draft W) :
    Veils veil (draft.readNotes setting) (draft.veil.readNotes setting.veil) := by
  unfold readNotes
  rw [withSlide_veil_closeHint]
  generalize draft.withSlide (draft.slide.closeRegion .hint).closeChoices = closed
  refine .ite (fun _ => .of_eq rfl) fun _ => .ite (fun _ => .of_eq rfl) fun _ => ?_
  exact (veils_located (closed.withSlide _) (SlideDraft.veils_openRegion rfl .notes)).bind
    fun opened => .of_eq rfl

/-- Extra material is seen. -/
theorem veils_readExtra (draft : Draft W) :
    Veils veil (draft.readExtra setting) (draft.veil.readExtra setting.veil) := by
  unfold readExtra
  rw [withSlide_veil_closeHint]
  exact (veils_located (draft.withSlide _) (SlideDraft.veils_openRegion rfl .extra)).bind
    fun opened => .of_eq rfl

/-- A call of a plugin is seen, with the text that its template makes. -/
theorem veils_readPlugin (draft : Draft W) (name arguments : String) (plugin : Plugin) :
    Veils veil (draft.readPlugin setting name arguments plugin)
      (draft.veil.readPlugin setting.veil name arguments plugin) := by
  unfold readPlugin
  dsimp only
  refine .ite (fun _ => ?_) fun _ => ?_ <;>
    refine (Veils.refl _).bind fun heads => .ite (fun _ => ?_) fun _ => ?_ <;>
    refine (Veils.refl _).bind fun top => (Veils.refl _).bind fun body =>
      (Veils.refl _).bind fun button => .of_eq ?_
  all_goals exact congrArg (Draft.mk _) (draft.slide.veil_write (.plugin _ _ _ _ _)).symm

/-- An embed is seen, whether or not there is a plugin of its name. -/
theorem veils_readEmbed (draft : Draft W) (name arguments : String) :
    Veils veil (draft.readEmbed setting name arguments)
      (draft.veil.readEmbed setting.veil name arguments) := by
  have same : setting.veil.plugins = setting.plugins := rfl
  unfold readEmbed
  refine .ite (fun _ => .of_error _) fun _ => ?_
  rw [same]
  cases setting.plugins.get? name with
  | some plugin => exact veils_readPlugin (draft.withSlide _) name arguments plugin
  | none => exact veils_write (warn setting (draft.withSlide _) _) rfl

end Directives

section Text

/-- An item of a list of choices is seen, its marker first. -/
theorem veils_readChoice (draft : Draft W) (item : (Char × Bool) × List Inline) :
    Veils veil (draft.readChoice setting item) (draft.veil.readChoice setting.veil item) :=
  (veils_readMarker draft item.1).bind fun marked => veils_readInside marked _ _

/-- A paragraph is seen. Where it begins with markers it is read as choices, and both ways are
seen. -/
theorem veils_readParagraph (draft : Draft W) (content : String) :
    Veils veil (draft.readParagraph setting content)
      (draft.veil.readParagraph setting.veil content) := by
  unfold readParagraph
  dsimp only
  have choices (led : Draft W) :
      Veils veil ((cutChoices (Inline.scan content)).2.foldlM (readChoice setting) led)
        ((cutChoices (Inline.scan content)).2.foldlM (readChoice setting.veil) led.veil) :=
    .foldlM veils_readChoice _ led
  refine .ite (fun _ => choices draft) fun _ => ?_
  exact (veils_readInside draft _ _).bind choices

/-- The label of a heading is seen, and the identifier that is made for it. -/
theorem veils_defineHeading (draft : Draft W) (content : String) (key : Option String) :
    Veils (fun made : Draft W × Option String => (made.1.veil, made.2))
      (draft.defineHeading setting content key)
      (draft.veil.defineHeading setting.veil content key) := by
  unfold defineHeading
  cases key with
  | some key => exact (veils_define draft _ _ _).bind fun made => .of_eq rfl
  | none =>
    exact .ite (fun _ => .of_eq rfl) fun _ =>
      (veils_define draft _ _ _).bind fun made => .of_eq rfl

/-- The number of a heading is seen. -/
theorem veil_numberHeading (draft : Draft W) (level : Nat) (content : String) :
    draft.veil.numberHeading setting.veil level content =
      ((draft.numberHeading setting level content).1.veil,
        (draft.numberHeading setting level content).2) := by
  unfold numberHeading
  dsimp only
  have none : draft.veil.file.header.isNone = draft.file.header.isNone := rfl
  rw [none]
  split
  · rfl
  · split <;> rfl

/-- A heading is seen. It may open the region of a slide that is hidden, and give the slide its
title. -/
theorem veils_readHeading (draft : Draft W) (level : Nat) (content : String) :
    Veils veil (draft.readHeading setting level content)
      (draft.veil.readHeading setting.veil level content) := by
  have titled (headed : Draft W) (title : String) (key : Option String) : Veils veil
      (defineHeading setting (headed.numberHeading setting level title).1 title key >>= fun made =>
        readInside setting (.heading level made.2 (headed.numberHeading setting level title).2)
          (TextStep.ofText title) made.1)
      (defineHeading setting.veil (headed.veil.numberHeading setting.veil level title).1
        title key >>=
        fun made => readInside setting.veil
          (.heading level made.2 (headed.veil.numberHeading setting.veil level title).2)
          (TextStep.ofText title) made.1) := by
    rw [veil_numberHeading]
    exact (veils_defineHeading _ title key).bind fun made => veils_readInside made.1 _ _
  have hidden (title : String) : draft.veil.hides setting.veil level title =
      draft.hides setting level title := rfl
  unfold readHeading
  dsimp only
  rw [hidden]
  generalize String.ofList (trim (cutHeading content.toList).1) = title
  generalize (cutHeading content.toList).2 = key
  refine .ite (fun _ => ?_) fun _ => ?_
  · refine (veils_located draft (SlideDraft.veils_openRegion rfl .hidden)).bind fun opened => ?_
    exact titled (draft.withSlide _) title key
  · exact titled (draft.withSlide _) title key

/-- An item of a list is seen. -/
theorem veils_readListItem (draft : Draft W) (ordered : Bool) (content : String) :
    Veils veil (draft.readListItem setting ordered content)
      (draft.veil.readListItem setting.veil ordered content) := by
  have opened : draft.veil.withSlide (draft.veil.slide.openList ordered) =
      (draft.withSlide (draft.slide.openList ordered)).veil :=
    withSlide_veil draft (SlideDraft.veil_openList _ _)
  unfold readListItem
  rw [opened]
  exact veils_readInside _ _ _

/-- A discussion is seen. -/
theorem veils_readDiscuss (draft : Draft W) (content : String) :
    Veils veil (draft.readDiscuss setting content)
      (draft.veil.readDiscuss setting.veil content) := by
  have closed : draft.veil.slide.closeChoices = draft.slide.closeChoices.veil :=
    (SlideDraft.veil_closeChoices _).symm
  unfold readDiscuss
  rw [closed]
  exact veils_readInside (draft.withSlide _) _ _

end Text

/-- **A block that is no answer is read under the veil as it is read openly.** -/
theorem veils_readContent (draft : Draft W) {block : Block} (other : block.isAnswer = false) :
    Veils veil (draft.readContent setting block) (draft.veil.readContent setting.veil block) := by
  cases block with
  | answer content => contradiction
  | text content => exact veils_readParagraph draft content
  | heading level content => exact veils_readHeading draft level content
  | pluginEmbed name arguments => exact veils_readEmbed draft name arguments
  | discuss content => exact veils_readDiscuss draft content
  | tags content => exact veils_readTags draft content
  | hint penalty => exact veils_readHint draft penalty
  | notes => exact veils_readNotes draft
  | extra => exact veils_readExtra draft
  | listItem ordered content => exact veils_readListItem draft ordered content
  | pluginDefinition name content => exact .of_eq rfl
  | metadata name content =>
    refine .of_eq ?_
    rw [apply_ite veil, veil_write_plain draft rfl]
  | quoteStart => exact veils_write (draft.withSlide _) rfl
  | quoteEnd => exact veils_write (draft.withSlide _) rfl
  | _ => exact veils_write draft rfl

/-- What is closed before a block is seen. -/
theorem veil_beforeBlock (draft : Draft W) (block : Block) :
    (draft.beforeBlock block).veil = draft.veil.beforeBlock block := by
  unfold beforeBlock
  split
  · rfl
  · exact (withSlide_veil draft draft.slide.veil_closeList).symm

/-- A block that is no answer is seen together with what is closed before it. -/
theorem veils_readPart (draft : Draft W) {block : Block} (other : block.isAnswer = false) :
    Veils veil (draft.readPart setting block) (draft.veil.readPart setting.veil block) := by
  unfold readPart
  rw [← veil_beforeBlock]
  exact veils_readContent _ other

section Ends

/-- The warnings of calls at the end of a slide are seen. -/
theorem veil_warnOfCalls (draft : Draft W) :
    (draft.warnOfCalls setting).veil = draft.veil.warnOfCalls setting.veil := by
  unfold warnOfCalls
  change _ = ((distinct draft.slide.calls).filter fun plugin =>
    !draft.slide.embeds.contains plugin).foldl _ _
  generalize (distinct draft.slide.calls).filter _ = plugins
  induction plugins generalizing draft with
  | nil => rfl
  | cons plugin rest later => exact later (warn setting draft _)

/-- The end of a slide of which it is not told whether it has a question. -/
def endUnasked (setting : Setting) (draft : Draft W) (endBlock : Nat) :
    Except (CompileError W) (Draft W) :=
  let ended := warnOfCalls setting (draft.withSlide draft.slide.closeAll)
  settle setting { ended with file := { ended.file with
    scripts := ended.file.scripts ++ [ended.slide.script]
    slides := ended.file.slides ++ [finished ended.slide none endBlock]
    forward := ended.file.forward.closeSlide (ended.file.slides.length + 1) none } }

/-- It is not seen which question a slide has. -/
theorem veil_of_recordQuestion {draft recorded : Draft W} {question : Option Nat}
    (records : draft.recordQuestion setting = .ok (recorded, question)) :
    recorded.veil = draft.veil := by
  rw [recordQuestion_eq, bind_eq_ok] at records
  obtain ⟨_, _, records⟩ := records
  obtain ⟨rfl, -⟩ := Prod.mk.inj (Except.ok.inj records)
  cases draft.slideQuestion setting <;> rfl

/-- The end of a slide is seen as that of a slide of which it is not told whether it has a question.
That is all of the answer that the end of a slide makes use of. -/
theorem veils_closeSlide (draft : Draft W) (endBlock : Nat) :
    Veils veil (draft.closeSlide setting endBlock)
      (draft.veil.endUnasked setting.veil endBlock) := by
  intro after closed
  unfold closeSlide at closed
  obtain ⟨⟨recorded, question⟩, records, settled⟩ := bind_eq_ok.1 closed
  have same : draft.veil.withSlide draft.veil.slide.closeAll = recorded.veil :=
    (withSlide_veil draft draft.slide.veil_closeAll).trans (veil_of_recordQuestion records).symm
  dsimp only at settled
  unfold endUnasked
  rw [same, ← veil_warnOfCalls]
  generalize recorded.warnOfCalls setting = ended at settled ⊢
  refine veils_settle ?_ after settled
  simp only [veil, FileDraft.veil, List.map_append, List.map_cons, List.map_nil,
    List.length_map, ForwardLinks.veil_closeSlide]
  rfl

end Ends

end Draft

end LectureDeck
