import LectureDeck.Proofs.Deck.Calls
import LectureDeck.Proofs.Deck.Errors
import LectureDeck.Proofs.Deck.Known
import LectureDeck.Proofs.Deck.Mentions
import LectureDeck.Proofs.Deck.SlideEnd

/-!
# Hearing what blocks mention

Of references and questions, reading a block does what its mentions say, one after another, and
nothing else (`LectureDeck.Draft.hears_readPart`). It refuses to skip grades only where a mention is
refused.
-/

namespace LectureDeck

open LectureDeck.Text

/-- The skip that is refused, if the error is that of one. -/
def CompileError.violation? {W : Type} : CompileError W → Option (SkipViolation W)
  | .gradedSkip location target weight => some ⟨target, location.slide, weight⟩
  | _ => none

section Tells

variable {W α β : Type}

/-- A reading tells what is known: when it succeeds this is known then, and it refuses to skip
grades only as what is known does. -/
def Tells (view : α → Known W) (knows : Except (SkipViolation W) (Known W))
    (result : Except (CompileError W) α) : Prop :=
  Mirrors CompileError.violation? view knows result

variable [Weight W]

/-- A reading hears mentions: what is known before it changes by them alone. -/
def Hears (known : Known W) (mentions : List Reference.Mention) (view : α → Known W)
    (result : Except (CompileError W) α) : Prop :=
  Tells view (mentions.foldlM Known.hear known) result

/-- A reading that succeeds and leaves what is known as it is hears nothing. -/
theorem Hears.nothing {known : Known W} {view : α → Known W} {value : α}
    (same : view value = known) : Hears known [] view (.ok value) := .of_ok (same ▸ rfl)

/-- A reading of two parts hears their mentions one after another. -/
theorem Hears.bind {known : Known W} {view : α → Known W} {last : β → Known W}
    {before after : List Reference.Mention} {result : Except (CompileError W) α}
    {rest : α → Except (CompileError W) β} (earlier : Hears known before view result)
    (later : ∀ value, result = .ok value → Hears (view value) after last (rest value)) :
    Hears known (before ++ after) last (result >>= rest) := by
  rw [Hears, List.foldlM_append]
  exact Mirrors.bind _ earlier later

/-- What is done with a value afterwards hears nothing if it leaves what is known as it is. -/
theorem Hears.then {known : Known W} {view : α → Known W} {last : β → Known W}
    {mentions : List Reference.Mention} {result : Except (CompileError W) α} {next : α → β}
    (earlier : Hears known mentions view result) (same : ∀ value, last (next value) = view value) :
    Hears known mentions last (do
      let value ← result
      return next value) := Mirrors.then earlier same

/-- One mention is heard by a reading that tells what the mention leads to. -/
theorem Hears.single {known : Known W} {view : α → Known W} {mention : Reference.Mention}
    {result : Except (CompileError W) α} (tells : Tells view (known.hear mention) result) :
    Hears known [mention] view result := by
  rwa [Hears, List.foldlM_cons, show (fun known => [].foldlM Known.hear known) = pure from rfl,
    bind_pure]

/-- A fold of readings hears the mentions of all its items. -/
theorem Hears.foldlM {view : β → Known W} {mentions : α → List Reference.Mention}
    {step : β → α → Except (CompileError W) β}
    (hears : ∀ value item, Hears (view value) (mentions item) view (step value item))
    (items : List α) (first : β) :
    Hears (view first) (items.flatMap mentions) view (items.foldlM step first) := by
  induction items generalizing first with
  | nil => exact .nothing rfl
  | cons item rest later =>
    rw [List.foldlM_cons, List.flatMap_cons]
    exact (hears first item).bind fun value _ => later value

end Tells

namespace Draft

variable {W : Type} {setting : Setting} {draft after : Draft W}

/-- What is known of references and questions in a draft. -/
def known (draft : Draft W) : Known W :=
  ⟨draft.file.references, draft.file.forward, draft.file.ledger, draft.file.questions,
    draft.slide.number⟩

/-- What is known belongs to the file, but for the place of the slide that is read. -/
theorem known_withSlide {slide : SlideDraft W} (place : draft.slide.SamePlace slide) :
    (draft.withSlide slide).known = draft.known := by
  unfold known
  exact congrArg (Known.mk _ _ _ _) place.number

/-- Writing pieces leaves what is known as it is. -/
theorem known_writeAll (draft : Draft W) (pieces : List Piece) :
    (draft.writeAll pieces).known = draft.known := by
  induction pieces generalizing draft with
  | nil => rfl
  | cons piece rest later => exact later (draft.write piece)

/-- Closing choices leaves what is known as it is. -/
theorem known_closeChoices (draft : Draft W) :
    (draft.withSlide draft.slide.closeChoices).known = draft.known :=
  known_withSlide (.of_bare (SlideDraft.bare_closeChoices _))

/-- Closing hint and choices leaves what is known as it is. -/
theorem known_closeHint (draft : Draft W) :
    (draft.withSlide (draft.slide.closeRegion .hint).closeChoices).known = draft.known :=
  known_withSlide
    (.of_bare ((SlideDraft.bare_closeChoices _).trans (SlideDraft.bare_closeRegion _ _)))

variable [Weight W]

section Directives

variable {known : Known W}

/-- A fault of the slide is no matter of references. -/
theorem hears_located {α : Type} (result : Except SlideFault α) :
    Hears known [] (fun _ => known) (located setting draft result) :=
  .of_failsOnly (failsOnly_located fun _ _ => rfl) fun _ _ => rfl

/-- A fault of a slide is no skip of questions, and hears nothing. -/
theorem hears_fault {α : Type} (found : SlideFault) :
    Hears known [] (fun _ => known) (fault setting draft found : Except (CompileError W) α) :=
  hears_located (.error found)

/-- A marker of choices hears nothing. -/
theorem hears_readMarker (draft : Draft W) (marker : Char × Bool) :
    Hears draft.known [] Draft.known (draft.readMarker setting marker) := by
  have presents (choices : Except SlideFault Choices) :
      Hears draft.known [] Draft.known (do
        let choices ← located setting draft choices
        return draft.withSlide { draft.slide with choices := choices }.openChoices) := by
    refine (hears_located choices).then fun choices => known_withSlide ?_
    refine SlideDraft.SamePlace.trans ?_ (.of_bare (SlideDraft.bare_openChoices _))
    exact ⟨rfl, rfl, rfl, rfl, rfl⟩
  unfold readMarker
  dsimp only
  split
  · split
    · exact (hears_fault _).bind fun _ _ => presents _
    · exact presents _
  · exact presents _

/-- Tags hear nothing: concepts are no references. -/
theorem hears_readTags (draft : Draft W) (content : String) :
    Hears draft.known [] Draft.known (draft.readTags setting content) := by
  have closed := known_closeChoices draft
  unfold readTags
  dsimp only
  split
  · exact .nothing closed
  · split
    · refine (hears_fault _).bind fun _ _ => .nothing (Eq.trans ?_ closed)
      split <;> rfl
    · refine .nothing (Eq.trans ?_ closed)
      split <;> rfl

/-- Opening a region hears nothing, whether it is open already or not. -/
theorem hears_openRegion (same : draft.known = known) {slide : SlideDraft W}
    (place : draft.slide.SamePlace slide) (region : Region) : Hears known [] Draft.known (do
      return draft.withSlide (← located setting after (slide.openRegion region))) := by
  cases opened : slide.openRegion region with
  | error fault => exact (hears_located _).bind fun _ same => nomatch same
  | ok inside =>
    refine .nothing (Eq.trans ?_ same)
    exact known_withSlide (place.trans (.of_bare (SlideDraft.bare_of_openRegion opened)))

/-- A hint hears nothing, shown or discarded. -/
theorem hears_readHint (draft : Draft W) (penalty : Option Float) :
    Hears draft.known [] Draft.known (draft.readHint setting penalty) := by
  have closed := known_closeChoices draft
  unfold readHint
  dsimp only
  split
  · exact .nothing closed
  · have hinted := SlideDraft.SamePlace.of_bare
      (SlideDraft.bare_closeRegion draft.slide.closeChoices .hint)
    refine hears_openRegion closed (hinted.trans ?_) .hint
    exact ⟨rfl, rfl, rfl, rfl, rfl⟩

/-- Notes hear nothing. -/
theorem hears_readNotes (draft : Draft W) :
    Hears draft.known [] Draft.known (draft.readNotes setting) := by
  have closed := known_closeHint draft
  unfold readNotes
  dsimp only
  split
  · exact .nothing closed
  · split
    · exact .nothing closed
    · refine hears_openRegion ?_ (.refl _) .notes
      exact closed

/-- Extra material hears nothing where it begins. -/
theorem hears_readExtra (draft : Draft W) :
    Hears draft.known [] Draft.known (draft.readExtra setting) :=
  hears_openRegion (known_closeHint draft) (.refl _) .extra

/-- A plugin hears nothing. Its templates may fail, which is no skip. -/
theorem hears_readPlugin (draft : Draft W) (name arguments : String) (plugin : Plugin) :
    Hears draft.known [] Draft.known (draft.readPlugin setting name arguments plugin) := by
  refine .of_failsOnly (failsOnly_readPlugin fun _ => rfl) fun after read => ?_
  obtain ⟨_, _, _, _, -, slide, file⟩ := exists_of_readPlugin read
  rw [Draft.known, slide, file]
  rfl

/-- An embed hears nothing, whether its plugin is known, unknown or embedded already. -/
theorem hears_readEmbed (draft : Draft W) (name arguments : String) :
    Hears draft.known [] Draft.known (draft.readEmbed setting name arguments) := by
  let embedded := draft.withSlide { draft.slide with embeds := draft.slide.embeds ++ [name] }
  have same : embedded.known = draft.known := rfl
  unfold readEmbed
  dsimp only
  by_cases old : draft.slide.embeds.contains name = true
  · rw [if_pos old]
    refine (hears_fault _).bind fun _ _ => ?_
    split
    · exact same ▸ hears_readPlugin embedded name arguments _
    · exact .nothing same
  · rw [if_neg old]
    split
    · exact same ▸ hears_readPlugin embedded name arguments _
    · exact .nothing same

/-- An answer hears nothing. Its question is recorded at the end of the slide. -/
theorem hears_readAnswer (draft : Draft W) (content : String) :
    Hears draft.known [] Draft.known (draft.readAnswer setting content) := by
  have closed := known_closeHint draft
  unfold readAnswer
  dsimp only
  split
  · exact .nothing closed
  · refine (hears_located _).bind fun answer _ => ?_
    split
    · split
      · exact (hears_fault _).bind fun _ _ => .nothing closed
      · exact .nothing closed
    · exact .nothing closed

end Directives

section References

/-- Settling the links of a draft is settling what is known, and refuses the same skip. -/
theorem tells_settle (setting : Setting) (draft : Draft W) :
    Tells Draft.known draft.known.settle (draft.settle setting) := by
  cases settles : draft.file.forward.settle draft.file.ledger with
  | error violation =>
    have refused : draft.known.settle = .error violation := Known.settle_eq_error settles
    unfold settle
    rw [settles]
    refine .of_error ?_
    rintro fault ⟨⟩
    exact refused
  | ok settled =>
    unfold settle Known.settle
    rw [settles]
    refine .of_ok ?_
    rw [show draft.known.forward.settle draft.known.ledger = .ok settled from settles]
    rfl

/-- A definition makes the same reference as it does of what is known. The links that wait for a new
one are settled with it. -/
theorem tells_define (draft : Draft W) (id : String) (kind : ReferenceKind) (counter : String) :
    Tells (fun made : Draft W × Reference.Defined => made.1.known)
      (draft.known.define id kind counter) (draft.define setting id kind counter) := by
  unfold define Known.define
  dsimp only
  by_cases new : (draft.file.references.define id kind counter draft.slide.number).2.isNew = true
  · rw [if_pos new, if_pos (show (draft.known.references.define id kind counter
      draft.known.slide).2.isNew = true from new)]
    let defined : Draft W := { draft with file := { draft.file with
      references := (draft.file.references.define id kind counter draft.slide.number).1
      forward := draft.file.forward.define id draft.slide.number } }
    exact (tells_settle setting defined).then fun _ => rfl
  · rw [if_neg new, if_neg (show ¬ (draft.known.references.define id kind counter
      draft.known.slide).2.isNew = true from new)]
    exact .of_ok rfl

/-- Following a link is what its mention does to what is known. -/
theorem hear_follow (draft : Draft W) (id : String) :
    draft.known.hear (.link id) = .ok (draft.follow id).known := by
  refine congrArg Except.ok ?_
  unfold follow
  by_cases contained : draft.file.references.contains id = true
  · rw [if_pos contained]
    exact if_pos contained
  · rw [if_neg contained]
    exact if_neg contained

/-- What following a link leads to depends on nothing but what is known. -/
theorem known_follow {other : Draft W} (same : other.known = draft.known) (id : String) :
    (other.follow id).known = (draft.follow id).known := by
  have heard := hear_follow other id
  rw [same, hear_follow] at heard
  exact (Except.ok.inj heard).symm

/-- A link in the text hears the mention that its address makes, if it makes one. -/
theorem hears_readLink (draft : Draft W) (content url : String) (title : Option String) :
    Hears draft.known (Reference.Mention.ofLink? content url).toList Draft.known
      (.ok (draft.readLink content url title)) := by
  have followed (id : String) {after : Draft W} (same : after.known = (draft.follow id).known) :
      Hears draft.known [.link id] Draft.known (.ok after) :=
    .single (.of_ok (same ▸ hear_follow draft id))
  unfold readLink
  split
  · rename_i address
    rw [Reference.Mention.ofLink?, address]
    exact .nothing rfl
  · rename_i address
    rw [Reference.Mention.ofLink?, address]
    exact followed _ (known_follow (known_writeAll draft _) _)
  -- An address of one `#` is not one of the two kinds before it.
  · rename_i key concept numbered address
    have link : Reference.Mention.ofLink? content url =
        some (.link (Reference.idOf (linkKey key content))) := by
      rw [Reference.Mention.ofLink?, address]
      split
      · rename_i same
        exact (concept _ (List.cons.inj same).2).elim
      · rename_i same
        exact (numbered _ (List.cons.inj same).2).elim
      · rename_i same
        rw [(List.cons.inj same).2]
      · rename_i other
        exact (other key rfl).elim
    rw [link]
    exact followed _ rfl
  · have silent : Reference.Mention.ofLink? content url = none := by
      unfold Reference.Mention.ofLink?
      split <;> simp_all
    rw [silent]
    exact .nothing rfl

omit [Weight W] in
/-- An image mentions nothing. -/
theorem known_readImage (draft : Draft W) (alternative path : String) (title : Option String) :
    (draft.readImage setting alternative path title).known = draft.known := by
  unfold readImage
  dsimp only
  split
  · rfl
  · split
    · split <;> rfl
    · rfl

/-- A link that is given by key hears what the target of its key mentions. -/
theorem hears_readKeyedLink (draft : Draft W) (content key : String) (image : Bool) :
    Hears draft.known
      (Inline.mention? setting.outline.linkTargets (.keyedLink content key image)).toList
      Draft.known (.ok (draft.readKeyedLink setting content key image)) := by
  unfold readKeyedLink
  split
  · rename_i target found
    cases image with
    | true => exact .nothing (known_readImage draft _ _ _)
    | false =>
      have follows := hears_readLink draft content target.url target.title
      rwa [Inline.mention?, found]
  · rename_i missing
    cases image with
    | true => exact .nothing rfl
    | false =>
      rw [Inline.mention?, missing]
      exact .nothing rfl

/-- A definition in the text hears itself. -/
theorem hears_readDefinition (draft : Draft W) (content key : String) :
    Hears draft.known [.ofDefinition content key] Draft.known
      (draft.readDefinition setting content key) :=
  .single ((tells_define draft _ _ _).then fun _ => rfl)

/-- Markup within a line hears what it mentions. Links and definitions mention something. -/
theorem hears_readToken (draft : Draft W) (token : Inline) :
    Hears draft.known (token.mention? setting.outline.linkTargets).toList Draft.known
      (draft.readToken setting token) := by
  cases token with
  | definition content key => exact hears_readDefinition draft content key
  | link content url title image =>
    cases image with
    | true => exact .nothing (known_readImage draft _ _ _)
    | false => exact hears_readLink draft content url title
  | keyedLink content key image => exact hears_readKeyedLink draft content key image
  | _ => exact .nothing rfl

omit [Weight W] in
/-- The number of a heading is no reference. -/
theorem known_numberHeading (draft : Draft W) (level : Nat) (content : String) :
    (draft.numberHeading setting level content).1.known = draft.known := by
  unfold numberHeading
  dsimp only
  split
  · rfl
  · split <;> rfl

/-- The label of a heading is heard as a definition, if it has one. -/
theorem hears_defineHeading (draft : Draft W) (content : String) (key : Option String) :
    Hears draft.known (Reference.Mention.ofHeading? content key).toList
      (fun defined : Draft W × Option String => defined.1.known)
      (draft.defineHeading setting content key) := by
  unfold defineHeading
  dsimp only
  cases key with
  | some key => exact .single ((tells_define draft _ _ _).then fun _ => rfl)
  | none =>
    rw [Reference.Mention.ofHeading?]
    cases content.isEmpty with
    | true => exact .nothing rfl
    | false =>
      refine .single ?_
      rw [Bool.false_or]
      by_cases contained : draft.file.references.contains (Reference.idOf content) = true
      · rw [if_pos contained]
        exact .of_ok (if_pos contained)
      · have defines :
          draft.known.hear (.heading (Reference.idOf content) (Reference.key content)) =
            draft.known.define (Reference.idOf content) .plain (Reference.key content) :=
          if_neg contained
        rw [if_neg contained, defines]
        exact (tells_define draft _ _ _).then fun _ => rfl

end References

section Text

/-- A step of running text hears what its token mentions. -/
theorem hears_readStep (setting : Setting) (draft : Draft W) (step : TextStep) :
    Hears draft.known (step.mention? setting.outline.linkTargets).toList Draft.known
      (draft.readStep setting step) := by
  cases step with
  | token token => exact hears_readToken draft token
  | opening element => exact .nothing rfl
  | closing element => exact .nothing rfl

/-- Running text within an element hears what its steps mention, in order. -/
theorem hears_readInside (draft : Draft W) (element : Element) (steps : List TextStep) :
    Hears draft.known (steps.filterMap (TextStep.mention? setting.outline.linkTargets)) Draft.known
      (readInside setting element steps draft) := by
  have inside := Hears.foldlM (hears_readStep setting) steps (draft.write (.opening element))
  rw [← List.filterMap_eq_flatMap_toList] at inside
  exact inside.then fun _ => rfl

/-- An item of a list of choices hears what its text mentions. -/
theorem hears_readChoice (draft : Draft W) (item : (Char × Bool) × List Inline) :
    Hears draft.known (tokenMentions setting.outline.linkTargets item.2) Draft.known
      (draft.readChoice setting item) :=
  (hears_readMarker draft item.1).bind fun _ _ => hears_readInside _ _ _

/-- A paragraph hears what its text mentions. What stands before the first marker comes before the
items, so that the mentions come in the order of the text. -/
theorem hears_readParagraph (draft : Draft W) (content : String) :
    Hears draft.known (textMentions setting.outline.linkTargets content) Draft.known
      (draft.readParagraph setting content) := by
  rw [textMentions_eq, ← tokenMentions_cutChoices]
  have items (draft : Draft W) (items : List ((Char × Bool) × List Inline)) :
      Hears draft.known
        (items.flatMap fun item => tokenMentions setting.outline.linkTargets item.2) Draft.known
        (items.foldlM (readChoice setting) draft) :=
    Hears.foldlM hears_readChoice items draft
  unfold readParagraph
  dsimp only
  split
  -- Without text before the choices there is no paragraph, and nothing is heard of it.
  · rename_i bare
    rw [Bool.and_eq_true, List.isEmpty_iff] at bare
    rw [bare.1]
    exact items draft _
  · exact (hears_readInside draft .paragraph _).bind fun draft _ => items draft _

/-- A heading hears its label before what its text mentions. -/
theorem hears_readHeading (draft : Draft W) (level : Nat) (content : String) :
    Hears draft.known (Block.mentions setting.outline.linkTargets (.heading level content))
      Draft.known (draft.readHeading setting level content) := by
  -- A heading that opens a hidden region is read as any other, on a slide at the same place.
  have headed {slide : SlideDraft W} (place : draft.slide.SamePlace slide) (header : Option String)
      (text : String) (key : Option String) :
      Hears draft.known ((Reference.Mention.ofHeading? text key).toList ++
          textMentions setting.outline.linkTargets text) Draft.known (do
        let headed := draft.withSlide
          { slide with headings := slide.headings + 1, header := header }
        let numbered := numberHeading setting headed level text
        let defined ← defineHeading setting numbered.1 text key
        readInside setting (.heading level defined.2 numbered.2) (TextStep.ofText text)
          defined.1) := by
    have same : (draft.withSlide { slide with
        headings := slide.headings + 1, header := header }).known = draft.known :=
      known_withSlide (place.trans ⟨rfl, rfl, rfl, rfl, rfl⟩)
    rw [← same, ← known_numberHeading]
    exact (hears_defineHeading _ text key).bind fun defined _ => hears_readInside defined.1 _ _
  unfold readHeading Block.mentions
  dsimp only
  split
  · cases opened : draft.slide.openRegion .hidden with
    | error fault => exact (hears_located _).bind fun _ same => nomatch same
    | ok slide => exact headed (.of_bare (SlideDraft.bare_of_openRegion opened)) _ _ _
  · exact headed (.refl _) _ _ _

/-- An item of a list hears what its text mentions. -/
theorem hears_readListItem (draft : Draft W) (ordered : Bool) (content : String) :
    Hears draft.known (textMentions setting.outline.linkTargets content) Draft.known
      (draft.readListItem setting ordered content) := by
  have opened : (draft.withSlide (draft.slide.openList ordered)).known = draft.known :=
    known_withSlide (.of_bare (SlideDraft.bare_openList _ ordered))
  exact opened ▸ hears_readInside (draft.withSlide (draft.slide.openList ordered)) _ _

/-- A discussion hears what its text mentions. -/
theorem hears_readDiscuss (draft : Draft W) (content : String) :
    Hears draft.known (textMentions setting.outline.linkTargets content) Draft.known
      (draft.readDiscuss setting content) := by
  have closed := known_closeChoices draft
  unfold readDiscuss
  rw [← closed]
  exact hears_readInside (draft.withSlide { draft.slide.closeChoices with discuss := true }) _ _

end Text

/-- What a block says of references is heard when it is read. -/
theorem hears_readContent (draft : Draft W) (block : Block) :
    Hears draft.known (block.mentions setting.outline.linkTargets) Draft.known
      (draft.readContent setting block) := by
  cases block with
  | text content => exact hears_readParagraph draft content
  | heading level content => exact hears_readHeading draft level content
  | pluginEmbed name arguments => exact hears_readEmbed draft name arguments
  | answer content => exact hears_readAnswer draft content
  | discuss content => exact hears_readDiscuss draft content
  | tags content => exact hears_readTags draft content
  | hint penalty => exact hears_readHint draft penalty
  | notes => exact hears_readNotes draft
  | extra => exact hears_readExtra draft
  | listItem ordered content => exact hears_readListItem draft ordered content
  | metadata name content =>
    refine .nothing ?_
    split <;> rfl
  | _ => exact .nothing rfl

omit [Weight W] in
/-- What is closed before a block leaves what is known as it is. -/
theorem known_beforeBlock (draft : Draft W) (block : Block) :
    (draft.beforeBlock block).known = draft.known := by
  unfold beforeBlock
  split
  · rfl
  · exact known_withSlide (.of_bare (SlideDraft.bare_closeList _))

/-- **A block is heard.** Of references and questions, reading a block that is part of the slide
does what its mentions say. -/
theorem hears_readPart (setting : Setting) (draft : Draft W) (block : Block) :
    Hears draft.known (block.mentions setting.outline.linkTargets) Draft.known
      (draft.readPart setting block) :=
  known_beforeBlock draft block ▸ hears_readContent (draft.beforeBlock block) block

section SlideEnd

omit [Weight W] in
/-- What is closed at the end of a slide leaves what is known as it is. -/
theorem known_closeAll (draft : Draft W) :
    (draft.withSlide draft.slide.closeAll).known = draft.known :=
  known_withSlide (.of_bare (SlideDraft.bare_closeAll _))

/-- A question is recorded as it is in what is known. -/
theorem known_record (draft : Draft W) (question : Option (Question W)) :
    (draft.record question).known = draft.known.record question := by
  cases question <;> rfl

omit [Weight W] in
/-- When a slide ends, its links are told the question of the slide. The references stay as they
are. -/
theorem known_withEnded (draft : Draft W) {slide : Nat}
    (last : draft.file.slides.length + 1 = slide) (question : Option Nat) (endBlock : Nat)
    (warnings : List Warning) :
    (draft.withEnded setting question endBlock warnings).known =
      { draft.known with forward := draft.known.forward.closeSlide slide question } := by
  rw [← last]
  rfl

/-- **The end of a slide is told.** Of references and questions, it does what the question of the
slide says. -/
theorem tells_closeSlide (setting : Setting)
    (number : draft.slide.number = draft.file.slides.length + 1) (endBlock : Nat) :
    Tells (fun after => { after.known with slide := draft.known.slide + 1 })
      (draft.known.endSlide ((draft.withSlide draft.slide.closeAll).slideQuestion setting))
      (draft.closeSlide setting endBlock) := by
  obtain ⟨warnings, same⟩ := exists_closeSlide_eq setting draft endBlock
  let ended := draft.withSlide draft.slide.closeAll
  -- The answer may be found wrong, but not for a skip.
  have checks : FailsOnly (fun error => error.violation? = none)
      ((answer? ended.slide).elim (.ok ()) fun answer => located setting ended
        (checkAnswer ended.slide answer (kindOf ended.slide answer))) := by
    cases answer? ended.slide with
    | none => exact .ok ()
    | some answer => exact failsOnly_located fun _ _ => rfl
  rw [same, recordQuestion_eq, bind_assoc]
  refine Mirrors.after checks fun _ _ => ?_
  rw [pure_bind]
  dsimp only
  let recorded := ended.record (ended.slideQuestion setting)
  have last : recorded.file.slides.length + 1 = draft.known.slide := by
    rw [record_slides]
    exact number.symm
  have settled := (tells_settle setting (recorded.withEnded setting
    ((ended.slideQuestion setting).map Question.number) endBlock (warnings recorded))).map
      fun known => { known with slide := draft.known.slide + 1 }
  rw [known_withEnded recorded last, known_record, known_closeAll] at settled
  exact settled

end SlideEnd

end Draft

end LectureDeck
