import LectureDeck.Proofs.Deck.Cues
import LectureDeck.Proofs.Deck.Hearing
import LectureDeck.Proofs.Reference.Definitions

/-!
# Labels that are awaited

What is known of references while a file is read are those that were mentioned so far, and a name
that a link mentions is among them or awaited (`LectureDeck.Known.Heard`). References only become
more, so a label that was known once is the label in the end (`LectureDeck.get?_tableAfter_append`),
and a label that is never found is still awaited when the file ends
(`LectureDeck.Draft.heard_of_readFile`).
-/

namespace LectureDeck

open LectureDeck.Text

section Labels

/-- Digits and points mean nothing in markup. -/
theorem escape_of_digits {text : String}
    (digits : ∀ c ∈ text.toList, c.isDigit = true ∨ c = '.') : escape text = text := by
  have each (cs : List Char) (digits : ∀ c ∈ cs, c.isDigit = true ∨ c = '.') :
      cs.flatMap contentEntity = cs := by
    induction cs with
    | nil => rfl
    | cons c rest later =>
      have plain : contentEntity c = [c] := by
        have digit := digits c List.mem_cons_self
        unfold contentEntity
        rw [if_neg, if_neg, if_neg]
        all_goals
          rintro rfl
          revert digit
          decide
      rw [List.flatMap_cons, plain, later fun c member => digits c (List.mem_cons_of_mem _ member)]
      rfl
  rw [escape, each _ digits, String.ofList_toList]

/-- The text of a number has digits alone. -/
theorem isDigit_of_mem_naturalText {n : Nat} {c : Char}
    (member : c ∈ (Decimal.naturalText n).toList) : c.isDigit = true := by
  rw [Decimal.naturalText, String.toList_ofList] at member
  exact Nat.isDigit_of_mem_toDigits (by decide) (by decide) member

/-- The next label of a counter is written as it is, for it has digits, and a point where files are
counted too. -/
theorem Reference.Table.escape_nextLabel (table : Reference.Table) (kind : ReferenceKind)
    (counter : String) : escape (table.nextLabel kind counter) = table.nextLabel kind counter := by
  refine escape_of_digits fun c member => ?_
  cases kind with
  | plain => cases member
  | counted => exact .inl (isDigit_of_mem_naturalText member)
  | chapterCounted =>
    simp only [nextLabel, String.toList_append, List.mem_append] at member
    rcases member with (file | point) | ordinal
    · exact .inl (isDigit_of_mem_naturalText file)
    · exact .inr (by simpa using point)
    · exact .inl (isDigit_of_mem_naturalText ordinal)

variable {fileNumber : Nat} {before after : List (Nat × Reference.Mention)} {id : String}
  {reference : Reference}

/-- A mention adds references at most. -/
theorem Reference.Mention.get?_enter {table : Reference.Table}
    (found : table.get? id = some reference) (slide : Nat) (mention : Reference.Mention) :
    (mention.enter slide table).get? id = some reference := by
  cases mention with
  | link => exact found
  | definition name kind counter => exact Reference.Table.get?_define found name counter kind slide
  | heading name counter =>
    rw [enter]
    split
    · exact found
    · exact Reference.Table.get?_define found name counter .plain slide

/-- **References stay as they are.** -/
theorem get?_tableAfter_append (found : (tableAfter fileNumber before).get? id = some reference)
    (after : List (Nat × Reference.Mention)) :
    (tableAfter fileNumber (before ++ after)).get? id = some reference := by
  induction after using List.reverseRecOn with
  | nil => rwa [List.append_nil]
  | append_singleton after last later =>
    rw [← List.append_assoc, tableAfter_concat]
    exact last.2.get?_enter later last.1

/-- All labels are written as they are, so that it makes no difference whether they are escaped. -/
theorem escape_label_of_mem_tableAfter (mentions : List (Nat × Reference.Mention)) :
    ∀ reference ∈ (tableAfter fileNumber mentions).references,
      escape reference.label = reference.label := by
  induction mentions using List.reverseRecOn with
  | nil => exact nofun
  | append_singleton mentions last earlier =>
    have defined (name counter : String) (kind : ReferenceKind) :
        ∀ reference ∈ ((tableAfter fileNumber mentions).define name kind counter
          last.1).1.references, escape reference.label = reference.label := by
      refine List.forall_mem_append.2 ⟨earlier, List.forall_mem_singleton.2 ?_⟩
      exact Reference.Table.escape_nextLabel _ kind counter
    obtain ⟨slide, mention⟩ := last
    rw [tableAfter_concat]
    cases mention with
    | link => exact earlier
    | definition name kind counter => exact defined name counter kind
    | heading name counter =>
      rw [Reference.Mention.enter]
      split
      · exact earlier
      · exact defined name counter .plain

end Labels

namespace Known

variable {W : Type} {fileNumber : Nat} {mentions : List (Nat × Reference.Mention)}
  {known after : Known W}

/-- A name is in the table, or a link waits for it. -/
def Awaits (known : Known W) (id : String) : Prop :=
  known.references.contains id = true ∨
    ∃ link ∈ known.forward.links, link.target = id ∧ link.definedAt = none

/-- What is known has heard the mentions so far: they make up the table, and the links that wait
without an end are those that lead forward to names on which no link has landed. -/
structure Heard (fileNumber : Nat) (mentions : List (Nat × Reference.Mention))
    (known : Known W) : Prop where
  table : known.references = tableAfter fileNumber mentions
  isForward : ∀ link ∈ known.forward.links,
    IsForward fileNumber mentions link.target link.originSlide
  undefined : ∀ link ∈ known.forward.links, link.definedAt = none →
    ¬ HasLanded fileNumber mentions link.target
  kept : ∀ id slide, IsForward fileNumber mentions id slide → ¬ HasLanded fileNumber mentions id →
    ∃ link ∈ known.forward.links, link.target = id ∧ link.definedAt = none

/-- What is linked to is awaited. -/
theorem Heard.awaits (heard : known.Heard fileNumber mentions) (slide : Nat) (id : String)
    (member : (slide, .link id) ∈ mentions) : known.Awaits id := by
  unfold Awaits
  cases contained : known.references.contains id with
  | true => exact .inl rfl
  | false =>
    rw [heard.table] at contained
    obtain ⟨before, after, rfl⟩ := List.append_of_mem member
    refine .inr (heard.kept id slide ⟨before, after, rfl, not_contains_of_append contained⟩ ?_)
    intro landed
    rw [landed.contains] at contained
    contradiction

/-- Nothing is heard when links are changed, as long as those that wait do. -/
theorem Heard.of_links (heard : known.Heard fileNumber mentions)
    (references : after.references = known.references)
    (links : ∀ link ∈ after.forward.links, ∃ other ∈ known.forward.links,
      link.target = other.target ∧ link.originSlide = other.originSlide ∧
        link.definedAt = other.definedAt)
    (kept : ∀ link ∈ known.forward.links, link.definedAt = none →
      ∃ other ∈ after.forward.links, other.target = link.target ∧ other.definedAt = none) :
    after.Heard fileNumber mentions where
  table := references.trans heard.table
  isForward := by
    intro link member
    obtain ⟨other, among, target, origin, -⟩ := links link member
    rw [target, origin]
    exact heard.isForward other among
  undefined := by
    intro link member undefined
    obtain ⟨other, among, target, -, same⟩ := links link member
    rw [target]
    exact heard.undefined other among (same.symm.trans undefined)
  kept := by
    intro id slide forward missing
    obtain ⟨link, member, rfl, undefined⟩ := heard.kept id slide forward missing
    exact kept link member undefined

variable [Weight W]

/-- Links that settle have found their targets, so that what waits for one still waits. -/
theorem Heard.settle (heard : known.Heard fileNumber mentions)
    (settles : known.settle = .ok after) :
    after.Heard fileNumber mentions ∧ after.slide = known.slide := by
  rcases known.forward.settle_cases known.ledger with
    ⟨skips, same, -, -⟩ | ⟨_, _, _, violation, _, same⟩
  · rw [settle_eq_ok same] at settles
    cases settles
    refine ⟨heard.of_links rfl (fun link member => ?_) fun link member undefined => ?_, rfl⟩
    · exact ⟨link, (List.mem_filter.1 member).1, rfl, rfl, rfl⟩
    · exact ⟨link, List.mem_filter.2 ⟨member, by simp [ForwardLink.isReady, undefined]⟩, rfl,
        undefined⟩
  · rw [settle_eq_error same] at settles
    cases settles

omit [Weight W] in
/-- A mention of names that are in the table leaves the links. -/
theorem Heard.of_old (heard : known.Heard fileNumber mentions) {mention : Reference.Mention}
    (linked : ∀ id, mention = .link id → known.references.contains id = true)
    (defined : ∀ id, mention.defines? = some id → known.references.contains id = true) :
    Heard fileNumber (mentions ++ [(known.slide, mention)])
      { known with references := mention.enter known.slide known.references } := by
  rw [heard.table] at linked defined
  have forward (id : String) (slide : Nat) :
      IsForward fileNumber (mentions ++ [(known.slide, mention)]) id slide ↔
        IsForward fileNumber mentions id slide := by
    rw [isForward_concat_iff, or_iff_left]
    rintro ⟨same, -, free⟩
    rw [linked id same] at free
    contradiction
  have landed (id : String) : HasLanded fileNumber (mentions ++ [(known.slide, mention)]) id ↔
      HasLanded fileNumber mentions id := by
    rw [hasLanded_concat_iff, or_iff_left]
    rintro ⟨defines, free, -⟩
    rw [defined id defines] at free
    contradiction
  exact {
    table := by rw [tableAfter_concat, heard.table]
    isForward := by simpa only [forward] using heard.isForward
    undefined := by simpa only [landed] using heard.undefined
    kept := by simpa only [forward, landed] using heard.kept }

omit [Weight W] in
/-- A name defined anew takes the links to it from those that wait. -/
theorem Heard.of_new (heard : known.Heard fileNumber mentions) {mention : Reference.Mention}
    {id : String} (defines : mention.defines? = some id)
    (free : known.references.contains id = false) :
    Heard fileNumber (mentions ++ [(known.slide, mention)]) { known with
      references := mention.enter known.slide known.references
      forward := known.forward.define id known.slide } where
  table := by rw [tableAfter_concat, heard.table]
  isForward := List.forall_mem_map.2 fun link member => by
    rw [ForwardLink.define_target, ForwardLink.define_originSlide]
    exact isForward_concat_iff.2 (.inl (heard.isForward link member))
  undefined := List.forall_mem_map.2 fun link member => by
    intro undefined landed
    rw [ForwardLink.define_target] at landed
    rw [ForwardLink.define_definedAt] at undefined
    split at undefined
    · cases (Option.or_eq_none_iff.1 undefined).2
    · rename_i other
      rcases hasLanded_concat_iff.1 landed with landed | ⟨same, -⟩
      · exact heard.undefined link member undefined landed
      · exact other (Option.some.inj (same.symm.trans defines))
  kept := by
    intro other slide forward missing
    have forward : IsForward fileNumber mentions other slide := by
      rcases isForward_concat_iff.1 forward with forward | ⟨rfl, -, -⟩
      · exact forward
      · contradiction
    obtain ⟨link, member, rfl, undefined⟩ := heard.kept other slide forward fun landed =>
      missing (hasLanded_concat_iff.2 (.inl landed))
    refine ⟨link.define id known.slide, List.mem_map_of_mem member, by simp, ?_⟩
    rw [ForwardLink.define_definedAt, if_neg, undefined]
    rintro rfl
    rw [heard.table] at free
    exact missing (hasLanded_concat_iff.2 (.inr ⟨defines, free, slide, forward⟩))

/-- A definition is heard, whether its identifier is new or taken. The table after it is the table
after one more mention. -/
theorem Heard.define (heard : known.Heard fileNumber mentions) {mention : Reference.Mention}
    {id counter : String} {kind : ReferenceKind} (named : mention.defines? = some id)
    (enters : mention.enter known.slide known.references =
      (known.references.define id kind counter known.slide).1)
    (defines : known.define id kind counter = .ok after) :
    after.Heard fileNumber (mentions ++ [(known.slide, mention)]) ∧ after.slide = known.slide := by
  unfold Known.define at defines
  dsimp only at defines
  rw [← enters] at defines
  cases contained : known.references.contains id with
  | true =>
    have taken : (known.references.define id kind counter known.slide).2.isNew = false := by
      simp [Reference.Table.define, contained]
    rw [taken, if_neg Bool.false_ne_true] at defines
    cases defines
    refine ⟨heard.of_old ?_ ?_, rfl⟩
    · rintro other rfl
      contradiction
    · intro other same
      rw [← Option.some.inj (named.symm.trans same), contained]
  | false =>
    have new : (known.references.define id kind counter known.slide).2.isNew = true := by
      simp [Reference.Table.define, contained]
    rw [new, if_pos rfl] at defines
    exact (heard.of_new named contained).settle defines

/-- A link is heard as one that leads forward unless its target is known. -/
theorem hear_link (known : Known W) (id : String) : known.hear (.link id) =
    .ok (if known.references.contains id then known
      else { known with forward := known.forward.add id known.slide }) := rfl

/-- A heading is heard as a definition unless its identifier is taken. -/
theorem hear_heading (known : Known W) (id counter : String) :
    known.hear (.heading id counter) =
      if known.references.contains id then .ok known else known.define id .plain counter := rfl

omit [Weight W] in
/-- A link to a name that is not in the table waits for it. -/
theorem Heard.add (heard : known.Heard fileNumber mentions) {id : String}
    (free : known.references.contains id = false) :
    Heard fileNumber (mentions ++ [(known.slide, .link id)])
      { known with forward := known.forward.add id known.slide } := by
  rw [heard.table] at free
  have landed (other : String) :
      HasLanded fileNumber (mentions ++ [(known.slide, .link id)]) other ↔
        HasLanded fileNumber mentions other := by
    rw [hasLanded_concat_iff, or_iff_left]
    rintro ⟨defines, -⟩
    contradiction
  refine ⟨by rw [tableAfter_concat, heard.table, Reference.Mention.enter], ?_, ?_, ?_⟩
  · refine List.forall_mem_append.2 ⟨fun link member => ?_, List.forall_mem_singleton.2 ?_⟩
    · exact isForward_concat_iff.2 (.inl (heard.isForward link member))
    · exact isForward_concat_iff.2 (.inr ⟨rfl, rfl, free⟩)
  · simp only [landed]
    refine List.forall_mem_append.2 ⟨heard.undefined, List.forall_mem_singleton.2 ?_⟩
    intro _ landed
    rw [landed.contains] at free
    contradiction
  · intro other slide forward missing
    rw [landed] at missing
    rcases isForward_concat_iff.1 forward with forward | ⟨same, -, -⟩
    · obtain ⟨link, member, found⟩ := heard.kept other slide forward missing
      exact ⟨link, List.mem_append_left _ member, found⟩
    · cases same
      exact ⟨_, List.mem_append_right _ (List.mem_singleton_self _), rfl, rfl⟩

/-- **A mention is heard.** -/
theorem Heard.hear (heard : known.Heard fileNumber mentions) {mention : Reference.Mention}
    (hears : known.hear mention = .ok after) :
    after.Heard fileNumber (mentions ++ [(known.slide, mention)]) ∧ after.slide = known.slide := by
  cases mention with
  | link id =>
    rw [hear_link] at hears
    cases hears
    cases contained : known.references.contains id with
    | true =>
      refine ⟨heard.of_old ?_ nofun, rfl⟩
      rintro other same
      cases same
      exact contained
    | false => exact ⟨heard.add contained, rfl⟩
  | definition id kind counter => exact heard.define rfl rfl hears
  | heading id counter =>
    rw [hear_heading] at hears
    by_cases contained : known.references.contains id = true
    · rw [if_pos contained] at hears
      cases hears
      have stays : (Reference.Mention.heading id counter).enter known.slide known.references =
          known.references := if_pos contained
      have entered : Heard fileNumber (mentions ++ [(known.slide, .heading id counter)])
          { known with references :=
              (Reference.Mention.heading id counter).enter known.slide known.references } :=
        heard.of_old nofun fun other same => Option.some.inj same ▸ contained
      rw [stays] at entered
      exact ⟨entered, rfl⟩
    · rw [if_neg contained] at hears
      exact heard.define rfl (if_neg contained) hears

/-- Mentions of one slide are heard one after another. -/
theorem Heard.hearAll (heard : known.Heard fileNumber mentions)
    {more : List Reference.Mention} (hears : more.foldlM Known.hear known = .ok after) :
    after.Heard fileNumber (mentions ++ more.map (Prod.mk known.slide)) := by
  induction more generalizing known mentions with
  | nil =>
    cases hears
    rwa [List.map_nil, List.append_nil]
  | cons mention rest later =>
    rw [List.foldlM_cons, bind_eq_ok] at hears
    obtain ⟨middle, first, hears⟩ := hears
    obtain ⟨heard, slide⟩ := heard.hear first
    have heard := later heard hears
    rwa [slide, List.append_assoc] at heard

/-- The end of a slide is no mention. What was heard stays heard. -/
theorem Heard.endSlide (heard : known.Heard fileNumber mentions) {question : Option (Question W)}
    (ends : known.endSlide question = .ok after) : after.Heard fileNumber mentions := by
  unfold Known.endSlide at ends
  dsimp only at ends
  obtain ⟨settled, settles, same⟩ := bind_eq_ok.1 ends
  cases same
  have recorded : (known.record question).references = known.references ∧
      (known.record question).forward = known.forward := by
    cases question <;> exact ⟨rfl, rfl⟩
  have closed : Heard fileNumber mentions { known.record question with
      forward := (known.record question).forward.closeSlide known.slide
        (question.map Question.number) } := by
    refine heard.of_links recorded.1 ?_ fun link member undefined => ?_
    all_goals rw [recorded.2]
    · exact List.forall_mem_map.2 fun link member => ⟨link, member, by simp⟩
    · exact ⟨_, List.mem_map_of_mem member, by simp, by simpa using undefined⟩
  have ended := (closed.settle settles).1
  exact ⟨ended.table, ended.isForward, ended.undefined, ended.kept⟩

end Known

section Links

variable {targets : List (String × LinkTarget)}

/-- A link whose label is asked for is a mention of the same reference. -/
theorem Reference.Mention.ofLink?_of_labelOf? {content url id : String}
    (asks : Reference.labelOf? content url = some id) :
    Reference.Mention.ofLink? content url = some (.link id) := by
  unfold Reference.labelOf? at asks
  split at asks
  · rename_i address
    cases asks
    rw [ofLink?, address]
    rfl
  · contradiction

/-- A token that shows a label is a link to the reference. -/
theorem Inline.mention?_of_label? {token : Inline} {id : String}
    (shows : token.label? targets = some id) : token.mention? targets = some (.link id) := by
  unfold Inline.label? at shows
  split at shows
  · exact Reference.Mention.ofLink?_of_labelOf? shows
  · obtain ⟨target, found, asks⟩ := Option.bind_eq_some_iff.1 shows
    rw [Inline.mention?, found]
    exact Reference.Mention.ofLink?_of_labelOf? asks
  · contradiction

/-- Running text mentions every reference whose label it asks for. -/
theorem mem_textMentions_of_label {content id : String}
    (member : id ∈ stepLabels targets (TextStep.ofText content)) :
    .link id ∈ textMentions targets content := by
  obtain ⟨step, found, shows⟩ := List.mem_filterMap.1 member
  refine List.mem_filterMap.2 ⟨step, found, ?_⟩
  cases step with
  | token token => exact Inline.mention?_of_label? shows
  | opening element => contradiction
  | closing element => contradiction

/-- A block that shows a label mentions its reference. -/
theorem Block.mem_mentions_of_label {block : Block} {id : String}
    (member : id ∈ block.labels targets) : .link id ∈ block.mentions targets := by
  cases block with
  | text content => exact mem_textMentions_of_label member
  | heading level content => exact List.mem_append_right _ (mem_textMentions_of_label member)
  | discuss content => exact mem_textMentions_of_label member
  | listItem ordered content => exact mem_textMentions_of_label member
  | _ => cases member

/-- A label that blocks show is mentioned among them. -/
theorem exists_mem_mentionsOf_of_label {blocks : List Block} {block : Block} {id : String}
    (found : block ∈ blocks) (member : id ∈ block.labels targets) :
    ∃ slide, (slide, .link id) ∈ mentionsOf targets blocks := by
  obtain ⟨index, inside, rfl⟩ := List.getElem_of_mem found
  refine ⟨slideOf blocks index, List.mem_flatMap.2 ⟨(blocks[index], index), ?_, ?_⟩⟩
  · rw [List.mk_mem_zipIdx_iff_getElem?]
    exact List.getElem?_eq_getElem inside
  · exact List.mem_map_of_mem (Block.mem_mentions_of_label member)

end Links

namespace Draft

variable {W : Type} [Weight W] {setting : Setting} {draft after : Draft W} {walk : SlideWalk}
  {mentions : List (Nat × Reference.Mention)}

/-- A draft is where a walk over its blocks is, and has heard what they mention. -/
structure Heard (setting : Setting) (walk : SlideWalk) (mentions : List (Nat × Reference.Mention))
    (draft : Draft W) : Prop where
  follows : draft.Follows setting walk
  known : draft.known.Heard setting.fileNumber mentions

/-- When a slide is closed, what its blocks mentioned has been heard. -/
theorem Heard.closeSlide (heard : draft.Heard setting walk mentions) {endBlock : Nat}
    (closed : draft.closeSlide setting endBlock = .ok after) :
    after.known.Heard setting.fileNumber mentions := by
  have tells := tells_closeSlide setting heard.follows.number endBlock
  have known := heard.known.endSlide (tells.ok after closed)
  exact ⟨known.table, known.isForward, known.undefined, known.kept⟩

/-- A slide that begins has heard what those before it mentioned. -/
theorem Heard.nextSlide (heard : draft.Heard setting walk mentions) (outermost : walk.depth = 0)
    {endBlock : Nat} (opened : draft.nextSlide setting endBlock = .ok after) :
    after.Heard setting (walk.endSlide endBlock) mentions := by
  refine ⟨heard.follows.of_nextSlide outermost opened, ?_⟩
  obtain ⟨ended, closed, rfl⟩ := exists_of_nextSlide opened
  have known := heard.closeSlide closed
  exact ⟨known.table, known.isForward, known.undefined, known.kept⟩

/-- A block that is part of the slide has its mentions heard after those before it. -/
theorem Heard.readPart (heard : draft.Heard setting walk mentions) {block : Block}
    (read : draft.readPart setting block = .ok after) :
    after.Heard setting { walk with depth := block.turn walk.depth }
      (mentions ++
        (block.mentions setting.outline.linkTargets).map (Prod.mk (walk.ends.length + 1))) := by
  refine ⟨heard.follows.of_readPart read, ?_⟩
  have number : draft.known.slide = walk.ends.length + 1 := by
    rw [heard.follows.file.slides.length_ends]
    exact heard.follows.number
  exact number ▸ heard.known.hearAll ((hears_readPart setting draft block).ok after read)

omit [Weight W] in
/-- Noting that a slide has content mentions nothing. -/
theorem Heard.noteContent (heard : draft.Heard setting walk mentions) (block : Block) :
    (draft.noteContent block).Heard setting
      { walk with hasContent := walk.hasContent || block.isContent } mentions :=
  ⟨heard.follows.of_noteContent block, heard.known.table, heard.known.isForward,
    heard.known.undefined, heard.known.kept⟩

/-- **A block is heard when it is read.** -/
theorem Heard.readBlock (heard : draft.Heard setting walk mentions) {block : Block} {before : Nat}
    (read : draft.readBlock setting (block, before) = .ok after) :
    after.Heard setting (walk.step block before)
      (mentions ++ (block.mentions setting.outline.linkTargets).map
        (Prod.mk ((walk.step block before).ends.length + 1))) := by
  have depth := heard.follows.depth
  have content := heard.follows.hasContent
  unfold SlideWalk.step
  cases blockRead_of_readBlock read with
  | ends outermost ends opened =>
    rw [depth] at outermost
    rw [if_pos outermost, if_pos ends, Block.mentions_of_endsSlide ends, List.map_nil,
      List.append_nil]
    exact heard.nextSlide outermost opened
  | starts outermost within starts opened part =>
    rw [depth] at outermost
    rw [content] at starts
    rw [if_pos outermost, if_neg within, if_pos starts]
    exact ((heard.nextSlide outermost opened).noteContent block).readPart part
  | continues outermost within continues part =>
    rw [depth] at outermost
    rw [content] at continues
    rw [if_pos outermost, if_neg within, if_neg continues]
    exact (heard.noteContent block).readPart part
  | quoted inside part =>
    rw [depth] at inside
    rw [if_neg inside]
    exact heard.readPart part

/-- Nothing is heard before the first block. -/
theorem heard_start (setting : Setting) :
    (start setting.fileNumber : Draft W).Heard setting {} [] where
  follows := follows_start setting
  known := {
    table := rfl
    isForward := nofun
    undefined := nofun
    kept := by
      rintro id slide ⟨before, after, same, -⟩
      simp at same }

/-- After any number of blocks their mentions have been heard, each on the slide that the walk finds
it on. -/
theorem heard_of_readBlocks {blocks : List Block}
    (read : blocks.zipIdx.foldlM (readBlock setting) (start setting.fileNumber) = .ok draft) :
    draft.Heard setting (SlideWalk.ofBlocks blocks)
      (mentionsOf setting.outline.linkTargets blocks) := by
  induction blocks using List.reverseRecOn generalizing draft with
  | nil =>
    cases read
    exact heard_start setting
  | append_singleton blocks block earlier =>
    rw [foldlM_zipIdx_concat, bind_eq_ok] at read
    obtain ⟨middle, before, last⟩ := read
    rw [mentionsOf_concat, SlideWalk.ofBlocks_concat]
    exact (earlier before).readBlock last

/-- **The references of a file** are those that its blocks mention. The links that wait when it ends
are those that lead forward and on whose names no link has landed. -/
theorem heard_of_readFile (read : readFile setting = .ok after) :
    after.known.Heard setting.fileNumber setting.outline.mentions := by
  unfold readFile at read
  obtain ⟨last, blocks, closed⟩ := bind_eq_ok.1 read
  exact (heard_of_readBlocks blocks).closeSlide closed

end Draft

namespace ForwardLinks

/-- The targets of links that are told one after another, each of them once. -/
theorem unresolved_induction (forward : ForwardLinks)
    (holds : List ForwardLink → List (String × Nat) → Prop) (none : holds [] [])
    (again : ∀ links told link, holds links told → (∃ slide, (link.target, slide) ∈ told) →
      holds (links ++ [link]) told)
    (first : ∀ links told link, holds links told → (∀ other ∈ told, other.1 ≠ link.target) →
      holds (links ++ [link]) (told ++ [(link.target, link.originSlide)])) :
    holds (forward.links.filter fun link => link.definedAt.isNone) forward.unresolved := by
  unfold unresolved
  generalize (forward.links.filter fun link => link.definedAt.isNone) = links
  induction links using List.reverseRecOn with
  | nil => exact none
  | append_singleton links last earlier =>
    rw [List.foldl_append, List.foldl_cons, List.foldl_nil]
    generalize links.foldl _ [] = told at earlier ⊢
    split
    · rename_i known
      obtain ⟨other, member, target⟩ := List.any_eq_true.1 known
      exact again links told last earlier ⟨other.2, by rwa [← beq_iff_eq.1 target]⟩
    · rename_i new
      refine first links told last earlier fun other member same => new ?_
      exact List.any_eq_true.2 ⟨other, member, beq_iff_eq.2 same⟩

/-- A link whose target was never defined is reported, with a slide of such a link. -/
theorem exists_mem_unresolved {forward : ForwardLinks} {link : ForwardLink}
    (member : link ∈ forward.links) (undefined : link.definedAt = none) :
    ∃ slide, (link.target, slide) ∈ forward.unresolved := by
  have told : ∀ link ∈ forward.links.filter fun link => link.definedAt.isNone,
      ∃ slide, (link.target, slide) ∈ forward.unresolved := by
    refine forward.unresolved_induction (fun links told =>
      ∀ link ∈ links, ∃ slide, (link.target, slide) ∈ told) nofun ?_ ?_
    · intro links told last earlier known
      exact List.forall_mem_append.2 ⟨earlier, List.forall_mem_singleton.2 known⟩
    · intro links told last earlier _
      refine List.forall_mem_append.2 ⟨fun link member => ?_, List.forall_mem_singleton.2 ?_⟩
      · obtain ⟨slide, found⟩ := earlier link member
        exact ⟨slide, List.mem_append_left _ found⟩
      · exact ⟨last.originSlide, List.mem_append_right _ (List.mem_singleton_self _)⟩
  exact told link (List.mem_filter.2 ⟨member, by simp [undefined]⟩)

/-- Only links whose targets were never defined are reported. -/
theorem exists_of_mem_unresolved {forward : ForwardLinks} {told : String × Nat}
    (member : told ∈ forward.unresolved) : ∃ link ∈ forward.links,
      link.definedAt = none ∧ told = (link.target, link.originSlide) := by
  have links : ∀ told ∈ forward.unresolved,
      ∃ link ∈ forward.links.filter fun link => link.definedAt.isNone,
        told = (link.target, link.originSlide) := by
    refine forward.unresolved_induction (fun links reported =>
      ∀ told ∈ reported, ∃ link ∈ links, told = (link.target, link.originSlide)) nofun ?_ ?_
    all_goals
      intro links reported last earlier _
      have kept : ∀ told ∈ reported, ∃ link ∈ links ++ [last],
          told = (link.target, link.originSlide) := by
        intro told member
        obtain ⟨link, among, same⟩ := earlier told member
        exact ⟨link, List.mem_append_left _ among, same⟩
    · exact kept
    · refine List.forall_mem_append.2 ⟨kept, List.forall_mem_singleton.2 ?_⟩
      exact ⟨last, List.mem_append_right _ (List.mem_singleton_self _), rfl⟩
  obtain ⟨link, among, same⟩ := links told member
  obtain ⟨among, undefined⟩ := List.mem_filter.1 among
  exact ⟨link, among, Option.isNone_iff_eq_none.1 undefined, same⟩

/-- No target is reported twice. -/
theorem nodup_unresolved (forward : ForwardLinks) : (forward.unresolved.map Prod.fst).Nodup := by
  refine forward.unresolved_induction (fun _ told => (told.map Prod.fst).Nodup)
    List.nodup_nil (fun _ _ _ earlier _ => earlier) fun _ told link earlier new => ?_
  rw [List.map_append, List.map_singleton, List.nodup_append]
  refine ⟨earlier, List.nodup_singleton _, fun target listed other single => ?_⟩
  obtain ⟨known, member, rfl⟩ := List.mem_map.1 listed
  rw [List.mem_singleton.1 single]
  exact new known member

end ForwardLinks

end LectureDeck
