import LectureDeck.Proofs.Deck.Naming

/-!
# What bears an identifier

Every identifier that a file gives is that of one part of a slide or of one reference, and tells
which (`LectureDeck.Bearer.id_injective`). None is given twice, but that of the questions to discuss
on a slide (`LectureDeck.Naming.Sound.of_reaches`).
-/

namespace LectureDeck

open Decimal

namespace SlidePart

/-- What follows the identifier of the slide. -/
def name : SlidePart → String
  | region kind => kind.name
  | hint number => "hint-" ++ naturalText number
  | answer => "answer"
  | plugin name => "plugin-" ++ name
  | discussion => "discuss"

/-- The identifier of a part is that of its slide with the name of the part behind it. -/
theorem id_eq (slideId : String) (part : SlidePart) :
    part.id slideId = slideId ++ "-" ++ part.name := by
  have joined (word rest : String) :
      slideId ++ ("-" ++ word) ++ rest = slideId ++ "-" ++ (word ++ rest) := by
    simp only [String.append_assoc]
  cases part with
  | region kind => rfl
  | hint number => exact joined "hint-" (naturalText number)
  | answer =>
    rw [id, name, String.append_assoc]
    rfl
  | plugin plugin => exact joined "plugin-" plugin
  | discussion =>
    rw [id, name, String.append_assoc]
    rfl

/-- Parts are told apart by their names. That of a plugin may be any, but it has a beginning of its
own. -/
theorem name_injective : Function.Injective name := by
  intro first second same
  have letters := congrArg String.toList same
  cases first with
  | hint number =>
    cases second with
    | hint other => exact congrArg hint (naturalText_inj.1 ((String.append_right_inj _).1 same))
    | region kind => cases kind <;> simp [name, Region.name] at letters
    | _ => simp [name] at letters
  | plugin plugin =>
    cases second with
    | plugin other => exact congrArg SlidePart.plugin ((String.append_right_inj _).1 same)
    | region kind => cases kind <;> simp [name, Region.name] at letters
    | _ => simp [name] at letters
  | region kind =>
    cases second with
    | region other =>
      cases kind <;> cases other <;> first | rfl | simp [name, Region.name] at letters
    | _ => cases kind <;> simp [name, Region.name] at letters
  | _ =>
    cases second with
    | region kind => cases kind <;> simp [name, Region.name] at letters
    | _ => first | rfl | simp [name] at letters

end SlidePart

/-- What the slides of a file give an identifier to. -/
inductive Bearer where
  | onSlide (number : Nat) (part : SlidePart)
  | reference (slug : String)
deriving DecidableEq, Repr

namespace Bearer

variable {file : Nat} {bearer : Bearer}

/-- The identifier, given the number of the file. -/
def id (file : Nat) : Bearer → String
  | onSlide number part => part.id (slideId file number)
  | reference slug => "slidoc-ref-" ++ slug

def isDiscussion : Bearer → Bool
  | onSlide _ part => part.isDiscussion
  | reference _ => false

def mark (file : Nat) (bearer : Bearer) : Mark := ⟨bearer.id file, bearer.isDiscussion⟩

/-- What is part of a slide is on it. -/
def IsOn (number : Nat) : Bearer → Prop
  | onSlide other _ => other = number
  | reference _ => True

/-- The identifier of a part begins with that of its file and the two digits of its slide. -/
theorem id_onSlide (number : Nat) (part : SlidePart) :
    (onSlide number part).id file =
      chapterId file ++ ("-" ++ (String.ofList (twoDigits number) ++ ("-" ++ part.name))) := by
  rw [id, part.id_eq, slideId]
  simp only [String.append_assoc]

/-- The file as a whole bears an identifier that no part has. -/
theorem chapterId_ne_id : chapterId file ≠ bearer.id file := by
  cases bearer with
  | onSlide number part =>
    rw [id_onSlide, ← String.append_assoc]
    exact chapterId_ne_append
  | reference slug =>
    have plain : chapterId file ++ "" ≠ "slidoc-ref-" ++ slug := chapterId_append_ne_reference
    rwa [String.append_empty] at plain

/-- Slides bear identifiers that no part has. -/
theorem slideId_ne_id {number : Nat} : slideId file number ≠ bearer.id file := by
  cases bearer with
  | onSlide other part =>
    rw [id, part.id_eq]
    exact slideId_ne_append
  | reference slug =>
    rw [id, slideId, String.append_assoc]
    exact chapterId_append_ne_reference

/-- **Identifiers tell what bears them.** -/
theorem id_injective (file : Nat) : Function.Injective (id file) := by
  have apart {number : Nat} {part : SlidePart} {slug : String} :
      (onSlide number part).id file ≠ (reference slug).id file := by
    rw [id_onSlide, id]
    exact chapterId_append_ne_reference
  intro first second same
  cases first with
  | onSlide number part =>
    cases second with
    | onSlide other another =>
      rw [id, id, part.id_eq, another.id_eq] at same
      obtain ⟨rfl, named⟩ := slideId_append_inj same
      rw [SlidePart.name_injective named]
    | reference slug => exact absurd same apart
  | reference slug =>
    cases second with
    | onSlide other another => exact absurd same.symm apart
    | reference other =>
      rw [id, id] at same
      exact congrArg reference ((String.append_right_inj _).1 same)

/-- Bearers are told apart by the marks that name them. -/
theorem mark_injective (file : Nat) : Function.Injective (mark file) :=
  fun _ _ same => id_injective file (congrArg Mark.id same)

end Bearer

section Regions

variable {region : Region} {regions : List Region}

/-- What stays open when a hint is closed is what stands outside of it. -/
theorem withoutHint_suffix (regions : List Region) : withoutHint regions <:+ regions := by
  unfold withoutHint
  split
  · exact List.drop_suffix _ _
  · exact List.suffix_rfl

/-- Nothing is closed where no hint is open. -/
theorem withoutHint_of_not_mem (none : .hint ∉ regions) : withoutHint regions = regions := by
  rw [withoutHint, if_neg (by simpa using none)]

/-- No hint is left open, if none was open twice. -/
theorem not_mem_withoutHint (nodup : regions.Nodup) : .hint ∉ withoutHint regions := by
  unfold withoutHint
  split
  · exact SlideDraft.not_mem_drop_takeWhile nodup
  · rename_i none
    simpa using none

/-- A hint that is innermost is closed alone. -/
theorem withoutHint_hint (regions : List Region) : withoutHint (.hint :: regions) = regions := by
  rw [withoutHint, if_pos (by simp)]
  simp

/-- A region opened inside others leaves those open that were when a hint is closed. -/
theorem mem_withoutHint_cons (other : region ≠ .hint) {kept : Region}
    (member : kept ∈ withoutHint regions) : kept ∈ withoutHint (region :: regions) := by
  by_cases hinted : .hint ∈ regions
  · rw [withoutHint, if_pos (by simpa using hinted)] at member
    rw [withoutHint, if_pos (by simp [hinted])]
    simpa [List.takeWhile_cons, other] using member
  · rw [withoutHint_of_not_mem hinted] at member
    rw [withoutHint_of_not_mem (by simp [hinted, other.symm])]
    exact List.mem_cons_of_mem _ member

end Regions

/-- Two identifiers differ, or they are the same one of a question to discuss. -/
def Mark.Apart (first second : Mark) : Prop :=
  first.id = second.id → first.isDiscussion = true ∧ second = first

namespace Naming

variable {file : Nat} {before : List Mark} {first second third naming : Naming}

/-- The part of the slide has an identifier already, or cannot be given one any more. -/
def HasPart (naming : Naming) : SlidePart → Prop
  | .region .hidden => 0 < naming.headings
  | .region region => region ∈ naming.closeHint.regions
  | .hint number => number ≤ naming.hints
  | .answer => naming.isAnswered = true
  | .plugin name => name ∈ naming.embeds
  | .discussion => True

/-- What may have an identifier by now. -/
def Has (naming : Naming) : Bearer → Prop
  | .onSlide number part => number < naming.number ∨ number = naming.number ∧ naming.HasPart part
  | .reference slug => "slidoc-ref-" ++ slug ∈ naming.references

/-- Nothing that has an identifier is forgotten. Most of what may change stays as it is. -/
structure Extends (first second : Naming) : Prop where
  number : second.number = first.number := by rfl
  slideId : second.slideId = first.slideId := by rfl
  headings : first.headings ≤ second.headings := by exact Nat.le_refl _
  regions : first.closeHint.regions ⊆ second.closeHint.regions := by exact List.Subset.refl _
  hints : first.hints ≤ second.hints := by exact Nat.le_refl _
  answered : first.isAnswered = true → second.isAnswered = true := by exact fun answered => answered
  embeds : first.embeds ⊆ second.embeds := by exact List.Subset.refl _
  references : first.references ⊆ second.references := by exact List.Subset.refl _

/-- Nothing is forgotten in two steps if nothing is forgotten in each of them. -/
theorem Extends.trans (earlier : Extends first second) (later : Extends second third) :
    Extends first third where
  number := later.number.trans earlier.number
  slideId := later.slideId.trans earlier.slideId
  headings := Nat.le_trans earlier.headings later.headings
  regions := List.Subset.trans earlier.regions later.regions
  hints := Nat.le_trans earlier.hints later.hints
  answered := fun answered => later.answered (earlier.answered answered)
  embeds := List.Subset.trans earlier.embeds later.embeds
  references := List.Subset.trans earlier.references later.references

/-- A part that has an identifier keeps it, or cannot be given one any more. -/
theorem Extends.hasPart (grows : Extends first second) {part : SlidePart}
    (has : first.HasPart part) : second.HasPart part := by
  cases part with
  | region region =>
    cases region with
    | hidden => exact Nat.lt_of_lt_of_le has grows.headings
    | _ => exact grows.regions has
  | hint number => exact Nat.le_trans has grows.hints
  | answer => exact grows.answered has
  | plugin name => exact grows.embeds has
  | discussion => trivial

/-- What may have an identifier by now may have it later on. -/
theorem Extends.has (grows : Extends first second) {bearer : Bearer} (has : first.Has bearer) :
    second.Has bearer := by
  cases bearer with
  | onSlide number part =>
    rw [Has, grows.number]
    exact has.imp_right (And.imp_right grows.hasPart)
  | reference slug => exact grows.references has

/-- Every identifier so far, also those given before the slide, is that of one bearer. None was
given twice, but those of questions to discuss. -/
structure Sound (file : Nat) (before : List Mark) (naming : Naming) : Prop where
  id : naming.slideId = LectureDeck.slideId file naming.number
  nodup : naming.regions.Nodup
  earlier : ∀ mark ∈ before, ∃ bearer, naming.Has bearer ∧ mark = bearer.mark file
  own : ∀ mark ∈ naming.marks, ∃ bearer, bearer.IsOn naming.number ∧ naming.Has bearer ∧
    mark = bearer.mark file
  apart : (before ++ naming.marks).Pairwise Mark.Apart

/-- All identifiers that are given, before this slide and on it, are those of bearers that may have
one by now. -/
theorem Sound.known (sound : naming.Sound file before) :
    ∀ mark ∈ before ++ naming.marks, ∃ bearer, naming.Has bearer ∧ mark = bearer.mark file := by
  intro mark member
  rcases List.mem_append.1 member with early | here
  · exact sound.earlier mark early
  · obtain ⟨bearer, -, has, same⟩ := sound.own mark here
    exact ⟨bearer, has, same⟩

/-- At most one identifier more. It is new, unless it is that of a question to discuss. -/
theorem Sound.of_extends (sound : first.Sound file before) (added : Option Bearer)
    (grows : Extends first second) (nodup : second.regions.Nodup)
    (marks : second.marks = first.marks ++ (added.map (Bearer.mark file)).toList)
    (new : ∀ bearer ∈ added, bearer.IsOn first.number ∧ second.Has bearer ∧
      (first.Has bearer → bearer.isDiscussion = true)) : second.Sound file before := by
  have last {mark : Mark} (member : mark ∈ (added.map (Bearer.mark file)).toList) :
      ∃ bearer ∈ added, mark = bearer.mark file := by
    obtain ⟨bearer, found, same⟩ := Option.map_eq_some_iff.1 (Option.mem_toList.1 member)
    exact ⟨bearer, found, same.symm⟩
  constructor
  · rw [grows.slideId, grows.number, sound.id]
  · exact nodup
  · intro mark member
    obtain ⟨bearer, has, same⟩ := sound.earlier mark member
    exact ⟨bearer, grows.has has, same⟩
  · rw [marks, grows.number]
    intro mark member
    rcases List.mem_append.1 member with early | member
    · obtain ⟨bearer, on, has, same⟩ := sound.own mark early
      exact ⟨bearer, on, grows.has has, same⟩
    · obtain ⟨bearer, found, same⟩ := last member
      obtain ⟨on, has, -⟩ := new bearer found
      exact ⟨bearer, on, has, same⟩
  · rw [marks, ← List.append_assoc, List.pairwise_append]
    refine ⟨sound.apart, ?_, fun mark member other newest equal => ?_⟩
    · cases added <;> simp
    · obtain ⟨known, has, rfl⟩ := sound.known mark member
      obtain ⟨bearer, found, rfl⟩ := last newest
      obtain rfl := Bearer.id_injective file equal
      exact ⟨(new known found).2.2 has, rfl⟩

/-- Nothing named. -/
theorem Sound.quiet (sound : first.Sound file before) (grows : Extends first second)
    (nodup : second.regions.Nodup) (marks : second.marks = first.marks) :
    second.Sound file before :=
  sound.of_extends none grows nodup (by simpa using marks) nofun

/-- A part of the slide named, unless it has an identifier already. -/
theorem Sound.named (sound : first.Sound file before) (part : SlidePart)
    (grows : Extends first second) (nodup : second.regions.Nodup)
    (marks : second.marks = (first.name part).marks) (has : second.HasPart part)
    (new : first.HasPart part → part.isDiscussion = true) : second.Sound file before := by
  refine sound.of_extends (some (.onSlide first.number part)) grows nodup ?_ ?_
  · rw [marks, name, sound.id]
    rfl
  · rintro bearer found
    cases found
    refine ⟨rfl, .inr ⟨grows.number.symm, has⟩, fun known => ?_⟩
    rcases known with less | ⟨-, known⟩
    · exact absurd less (Nat.lt_irrefl _)
    · exact new known

/-- A hint that is closed forgets no region, for the regions in question are those outside of
hints. -/
theorem extends_closeHint (nodup : naming.regions.Nodup) : Extends naming naming.closeHint where
  regions := by
    have again : naming.closeHint.closeHint.regions = naming.closeHint.regions :=
      withoutHint_of_not_mem (not_mem_withoutHint nodup)
    rw [again]
    exact List.Subset.refl _

/-- A hint that is opened forgets nothing, and is counted. -/
theorem extends_enterHint (naming : Naming) : Extends naming naming.enterHint where
  regions := by
    have left : naming.enterHint.closeHint.regions = naming.regions := withoutHint_hint _
    rw [left]
    exact (withoutHint_suffix _).subset
  hints := Nat.le_succ _

/-- A region that is entered forgets nothing. -/
theorem extends_enter {region : Region} (other : region ≠ .hint) :
    Extends naming (naming.enter region) where
  regions := fun _ member => mem_withoutHint_cons other member

/-- One heading more forgets nothing. -/
theorem extends_head (naming : Naming) : Extends naming naming.head where
  headings := Nat.le_succ _

/-- **What one step keeps.** A part is named when it is known not to be, and is known to be then. -/
theorem Sound.of_step (sound : first.Sound file before) (step : Step first second) :
    second.Sound file before := by
  have closed : first.closeHint.regions.Nodup :=
    sound.nodup.sublist (withoutHint_suffix _).sublist
  have closes := extends_closeHint sound.nodup
  cases step with
  | refer slug new =>
    refine sound.of_extends (some (.reference slug))
      { references := List.subset_append_left _ _ } sound.nodup rfl ?_
    intro bearer found
    cases found
    exact ⟨trivial, List.mem_append_right _ (List.mem_singleton_self _), fun known =>
      absurd known new⟩
  | discuss => exact sound.named .discussion {} sound.nodup rfl trivial fun _ => rfl
  | answer unanswered =>
    refine sound.named .answer { answered := fun _ => rfl } sound.nodup rfl rfl fun known => ?_
    rw [HasPart, unanswered] at known
    contradiction
  | embed plugin new =>
    exact sound.named (.plugin plugin) { embeds := List.subset_append_left _ _ } sound.nodup rfl
      (List.mem_append_right _ (List.mem_singleton_self _)) fun known => absurd known new
  | miss plugin => exact sound.quiet { embeds := List.subset_append_left _ _ } sound.nodup rfl
  | closeHint => exact sound.quiet closes closed rfl
  | hint new =>
    refine sound.named (.hint (first.hints + 1)) (closes.trans (extends_enterHint _))
      (List.nodup_cons.2 ⟨new, closed⟩) rfl (Nat.le_refl _) fun known => ?_
    exact absurd known (Nat.not_succ_le_self _)
  | past region other new =>
    have apart : region ≠ .hint := by rcases other with rfl | rfl <;> exact nofun
    have unhinted : .hint ∉ region :: first.closeHint.regions :=
      List.not_mem_cons_of_ne_of_not_mem apart.symm (not_mem_withoutHint sound.nodup)
    have kept : region ∈ (first.closeHint.enter region).closeHint.regions := by
      change region ∈ withoutHint (region :: first.closeHint.regions)
      rw [withoutHint_of_not_mem unhinted]
      exact List.mem_cons_self
    refine sound.named (.region region) (closes.trans (extends_enter apart))
      (List.nodup_cons.2 ⟨new, closed⟩) rfl ?_ fun known => ?_
    · rcases other with rfl | rfl <;> exact kept
    · rcases other with rfl | rfl <;> exact absurd known new
  | head => exact sound.quiet (extends_head first) sound.nodup rfl
  | hide none new =>
    have hides : Extends first (first.enter .hidden).head :=
      (extends_enter (by decide)).trans (extends_head _)
    refine sound.named (.region .hidden) hides (List.nodup_cons.2 ⟨new, sound.nodup⟩) rfl
      (Nat.succ_pos _) fun known => ?_
    exact absurd none (Nat.ne_of_gt known)

/-- What each step keeps is kept by all that a block does. -/
theorem Sound.of_reaches (sound : first.Sound file before) (reaches : Reaches first second) :
    second.Sound file before := by
  induction reaches with
  | refl => exact sound
  | tail _ step earlier => exact earlier.of_step step

/-- The names of a slide of which nothing is read yet. -/
def start (file number : Nat) (references : List String) : Naming where
  number := number
  slideId := LectureDeck.slideId file number
  regions := []
  hints := 0
  headings := 0
  isAnswered := false
  embeds := []
  marks := []
  references := references

/-- At the beginning of a file no identifier is given. -/
theorem sound_start (file number : Nat) : (start file number []).Sound file [] where
  id := rfl
  nodup := List.nodup_nil
  earlier := nofun
  own := nofun
  apart := .nil

/-- The next slide has identifiers of its own. -/
theorem Sound.next (sound : naming.Sound file before) :
    (start file (naming.number + 1) naming.references).Sound file (before ++ naming.marks) where
  id := rfl
  nodup := List.nodup_nil
  earlier := by
    intro mark member
    obtain ⟨bearer, has, same⟩ := sound.known mark member
    refine ⟨bearer, ?_, same⟩
    cases bearer with
    | onSlide number part =>
      refine .inl (Nat.lt_succ_of_le ?_)
      rcases has with less | ⟨here, -⟩
      · exact Nat.le_of_lt less
      · exact Nat.le_of_eq here
    | reference slug => exact has
  own := nofun
  apart := by
    rw [show (start file (naming.number + 1) naming.references).marks = [] from rfl,
      List.append_nil]
    exact sound.apart

end Naming

/-- A slide that has ended gave identifiers to its own parts, and to references. -/
structure Slide.Names (file : Nat) (slide : Slide) (script : List Entry) : Prop where
  id : slide.id = slideId file slide.number
  marks : ∀ mark ∈ Script.marks script, ∃ bearer : Bearer, bearer.IsOn slide.number ∧
    mark = bearer.mark file

/-- The identifiers that the slides of a file have given that have ended. The next slide may go
on. -/
structure FileDraft.HasBearers {W : Type} (fileNumber : Nat) (file : FileDraft W) : Prop where
  slides : List.Forall₂ (Slide.Names fileNumber) file.slides file.scripts
  sound : (Naming.start fileNumber (file.slides.length + 1) file.references.ids).Sound fileNumber
    (file.scripts.flatMap Script.marks)

namespace Draft

variable {W : Type} {setting : Setting} {draft after : Draft W}

/-- The identifiers that a file and the slide of it that is being read have given. -/
structure HasBearers (setting : Setting) (draft : Draft W) : Prop where
  number : draft.slide.number = draft.file.slides.length + 1
  slide : draft.naming.Sound setting.fileNumber (draft.file.scripts.flatMap Script.marks)
  slides : List.Forall₂ (Slide.Names setting.fileNumber) draft.file.slides draft.file.scripts

variable [Weight W]

/-- The end of a slide makes no references. -/
theorem references_of_closeSlide {endBlock : Nat}
    (closed : draft.closeSlide setting endBlock = .ok after) :
    after.file.references = draft.file.references := by
  obtain ⟨question, warnings, _, settled⟩ := exists_of_closeSlide closed
  rw [references_of_settle settled]
  cases question <;> rfl

omit [Weight W] in
/-- At the end of a slide nothing is named. -/
theorem marks_closeAll (draft : Draft W) :
    Script.marks draft.slide.closeAll.script = draft.naming.marks := by
  obtain ⟨regions, same⟩ := draft.slide.naming_closeAll draft.file.references.ids
  exact congrArg Naming.marks same

/-- A block gives each identifier to a bearer that has none yet, a discussion apart. -/
theorem HasBearers.of_readPart (named : draft.HasBearers setting) {block : Block}
    (read : draft.readPart setting block = .ok after) : after.HasBearers setting := by
  obtain ⟨place, same⟩ := stays_of_readPart read
  constructor
  · rw [place.number, same.slides]
    exact named.number
  · rw [same.scripts]
    exact named.slide.of_reaches (reaches_of_readPart read)
  · rw [same.slides, same.scripts]
    exact named.slides

/-- The end of a slide gives no identifiers: it closes what has one. -/
theorem HasBearers.of_closeSlide (named : draft.HasBearers setting) {endBlock : Nat}
    (closed : draft.closeSlide setting endBlock = .ok after) :
    after.file.HasBearers setting.fileNumber := by
  obtain ⟨question, slides⟩ := exists_slides_of_closeSlide closed
  have place := SlideDraft.SamePlace.of_bare (SlideDraft.bare_closeAll draft.slide)
  have sound := named.slide
  have next := sound.next
  have id := sound.id
  have own := sound.own
  rw [← marks_closeAll] at own next
  constructor
  · rw [slides, scripts_of_closeSlide closed]
    refine List.rel_append named.slides (.cons ⟨?_, ?_⟩ .nil)
    · change draft.slide.closeAll.id = slideId _ draft.slide.closeAll.number
      rw [place.id, place.number]
      exact id
    · intro mark member
      obtain ⟨bearer, on, -, same⟩ := own mark member
      refine ⟨bearer, ?_, same⟩
      change bearer.IsOn draft.slide.closeAll.number
      rw [place.number]
      exact on
  · rw [slides, scripts_of_closeSlide closed, references_of_closeSlide closed, List.length_append,
      List.flatMap_append, List.flatMap_singleton]
    change (Naming.start _ (draft.slide.number + 1) _).Sound _ _ at next
    rwa [named.number] at next

/-- That identifiers belong to bearers lasts while a whole file is read. -/
theorem lastingByPart_hasBearers (setting : Setting) :
    LastingByPart setting (HasBearers (W := W) setting)
      (FileDraft.HasBearers setting.fileNumber) where
  start := ⟨rfl, Naming.sound_start _ _, .nil⟩
  part := fun read named => named.of_readPart read
  noteContent := fun _ named => ⟨named.number, named.slide, named.slides⟩
  close := fun closed named => named.of_closeSlide closed
  next := fun _ named => ⟨rfl, named.sound, named.slides⟩

/-- **What the slides of a file name.** -/
theorem hasBearers_of_readFile (read : readFile setting = .ok after) :
    after.file.HasBearers setting.fileNumber := (lastingByPart_hasBearers setting).of_readFile read

end Draft

end LectureDeck
