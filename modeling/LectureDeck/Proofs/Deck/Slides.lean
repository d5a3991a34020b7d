import LectureDeck.Proofs.Deck.Errors
import LectureDeck.Proofs.Deck.SlideLoop
import LectureDeck.Proofs.Outline.Tiling
import LectureDeck.Proofs.Render.File

/-!
# Slides and slices

Reading a source cuts it into slices, and reading its blocks makes slides. Both find the same ends
(`LectureDeck.Compiled.slides_eq_slices`).
-/

namespace LectureDeck

/-- An environment that adds nothing to the sources it compiles. -/
def Environment.plain : Environment := ⟨{}, .empty, none, fun _ _ => none, fun _ _ _ => none⟩

theorem Environment.eq_hidePattern_of_readHide {W : Type} {pattern : Option String}
    {error : CompileError W}
    (failed : readHide pattern = .error error) :
    ∃ unreadable, error = .hidePattern unreadable := by
  unfold readHide at failed
  split at failed
  · contradiction
  · split at failed
    · contradiction
    · exact ⟨_, (Except.error.inj failed).symm⟩

namespace Compiled

variable {W : Type} [Weight W] {environment : Environment} {fileNumber : Nat} {name : String}
  {source : Source} {compiled : Compiled W}

/-- A file compiled from a source was read in a setting of the source with its outline. -/
structure IsReadIn (compiled : Compiled W) (source : Source) (setting : Setting)
    (draft : Draft W) : Prop where
  text : setting.source = source.text
  outline : Outline.ofSource source.text = .ok setting.outline
  read : Draft.readFile setting = .ok draft
  model : compiled.model = (Analysis.ofDraft setting draft.file).model
  record : compiled.record = recordOf source setting.outline draft.file.slides
  pages : compiled.document.slides.map SlidePage.number =
    List.zipWith (fun slide _ => slide.number) draft.file.slides draft.file.scripts

theorem exists_isReadIn (compiles : ofSource environment fileNumber name source = .ok compiled) :
    ∃ setting draft, compiled.IsReadIn source setting draft := by
  obtain ⟨setting, analysis, found, rfl⟩ := ofSource_eq_ok_iff.1 compiles
  obtain ⟨-, -, text, -⟩ := setting_of_findSetting (read_eq_ok_iff.1 found).1
  obtain ⟨draft, outlined, reads, rfl⟩ := exists_readFile_of_read found
  refine ⟨setting, draft, text, text ▸ outlined, reads, rfl, rfl, ?_⟩
  simp only [present, Document.resolve, Document.ofAnalysis, List.map_zipWith]
  rfl

/-- The slides of a file that was read end where its slices end. -/
theorem hasSlides_of_ofSource {setting : Setting} {draft : Draft W}
    (outlined : Outline.ofSource setting.source = .ok setting.outline)
    (read : Draft.readFile setting = .ok draft) :
    draft.file.HasSlides setting (setting.outline.slices.map Slice.endBlock)
      setting.outline.blocks.length := by
  rw [(Outline.map_endBlock_of_ofSource outlined).1]
  exact Draft.hasSlides_of_readFile read

theorem length_slides_of_ofSource {setting : Setting} {draft : Draft W}
    (outlined : Outline.ofSource setting.source = .ok setting.outline)
    (read : Draft.readFile setting = .ok draft) :
    draft.file.slides.length = setting.outline.slices.length := by
  rw [← (hasSlides_of_ofSource outlined read).slides.length_ends, List.length_map]

theorem namesSlide_ofSetting {setting : Setting}
    (outlined : Outline.ofSource setting.source = .ok setting.outline) :
    NamesSlide setting.file
      (Analysis.ofSetting setting : Except (CompileError W) (Analysis W)) := by
  intro error failed
  unfold Analysis.ofSetting at failed
  rw [bind_eq_error] at failed
  rcases failed with failed | ⟨draft, read, failed⟩
  · exact Draft.namesSlide_readFile setting error failed
  · have same := length_slides_of_ofSource outlined read
    dsimp only at failed
    rw [if_pos same] at failed
    contradiction

/-- A file that does not compile has a pattern that cannot be read, or a slide with an error. -/
theorem error_of_ofSource {error : CompileError W}
    (failed : ofSource environment fileNumber name source = .error error) :
    (∃ pattern, error = .hidePattern pattern) ∨
      ∃ slide, error.location? = some ⟨name, slide⟩ := by
  obtain ⟨outline, _, outlined, _⟩ := Outline.exists_tiles source.text
  rw [ofSource_eq_error_iff, read] at failed
  rw [bind_eq_error] at failed
  rcases failed with failed | ⟨setting, found, failed⟩
  · unfold findSetting at failed
    dsimp only at failed
    rw [bind_eq_error] at failed
    rcases failed with unreadable | ⟨hide, _, failed⟩
    · exact .inl (Environment.eq_hidePattern_of_readHide unreadable)
    · rw [outlined] at failed
      contradiction
  · obtain ⟨rfl, -, text, outlined⟩ := setting_of_findSetting found
    rw [bind_eq_error] at failed
    rcases failed with failed | ⟨_, _, failed⟩
    · exact .inr (namesSlide_ofSetting outlined error failed)
    · contradiction

/-- There are as many slides as slices. -/
theorem ofSource_ne_slideCount (file : String) (slices slides : Nat) :
    (ofSource environment fileNumber name source : Except (CompileError W) (Compiled W)) ≠
      .error (.slideCount file slices slides) := by
  intro failed
  rcases error_of_ofSource failed with ⟨pattern, same⟩ | ⟨slide, located⟩
  · contradiction
  · contradiction

theorem ofSource_rule : Outline.ofSource "---\n".toList =
    .ok { blocks := [.rule], slices := [⟨0, 4, 1⟩, ⟨4, 4, 1⟩] } := by
  have taken : Block.next? ("---\n".toList ++ []) = some (.block .rule, []) := by rfl
  have read : OutlineDraft.read {} 0 "---\n".toList = .ok _ :=
    (OutlineDraft.Reads.block (by decide) taken (.nil _ _)).read_eq
  rw [Outline.ofSource, read]
  rfl

/-- A rule alone compiles, and makes two slides. -/
theorem exists_compiled_rule : ∃ compiled : Compiled Float,
    ofSource .plain 1 "a" ⟨"---\n".toList, none⟩ = .ok compiled := by
  have succeeds : (ofSource .plain 1 "a" ⟨"---\n".toList, none⟩ :
      Except (CompileError Float) (Compiled Float)).isOk = true := by
    unfold ofSource findContext
    rw [ofSource_rule]
    decide +kernel
  cases compiles : (ofSource .plain 1 "a" ⟨"---\n".toList, none⟩ :
      Except (CompileError Float) (Compiled Float)) with
  | ok compiled => exact ⟨compiled, rfl⟩
  | error error =>
    rw [compiles] at succeeds
    contradiction

/-- **Slides are slices.** Compiling never finds more slides or fewer than the source has slices.
The slides of a file that compiles are numbered from 1, follow one another from its first block to
its last, and end at the very blocks at which the slices end. -/
theorem slides_eq_slices (environment : Environment) (fileNumber : Nat) (name : String)
    (source : Source) :
    (∀ file slices slides,
      (ofSource environment fileNumber name source : Except (CompileError W) (Compiled W)) ≠
        .error (.slideCount file slices slides)) ∧
    ∀ compiled : Compiled W, ofSource environment fileNumber name source = .ok compiled →
      ∃ outline, Outline.ofSource source.text = .ok outline ∧
        compiled.model.slides.length = outline.slices.length ∧
        compiled.model.slides.map Slide.number = List.range' 1 outline.slices.length ∧
        compiled.model.slides.head?.map Slide.firstBlock = some 0 ∧
        compiled.model.slides.IsChain (fun slide next => next.firstBlock = slide.endBlock) ∧
        compiled.model.slides.getLast?.map Slide.endBlock = some outline.blocks.length ∧
        (∀ slide ∈ compiled.model.slides, slide.firstBlock ≤ slide.endBlock) ∧
        compiled.model.slides.map Slide.endBlock = outline.slices.map Slice.endBlock ∧
        compiled.document.slides.map SlidePage.number = compiled.model.slides.map Slide.number := by
  refine ⟨ofSource_ne_slideCount, fun compiled compiles => ?_⟩
  obtain ⟨setting, draft, reading⟩ := exists_isReadIn compiles
  have outlined := reading.outline
  rw [← reading.text] at outlined
  have has := hasSlides_of_ofSource outlined reading.read
  have walked := (Outline.map_endBlock_of_ofSource outlined).1
  have model : compiled.model.slides = draft.file.slides := by rw [reading.model]; rfl
  have same := length_slides_of_ofSource outlined reading.read
  have last : draft.file.slides.map Slide.endBlock =
      (SlideWalk.ofBlocks setting.outline.blocks).ends ++ [setting.outline.blocks.length] :=
    has.slides.ends.trans walked
  have inhabited : draft.file.slides ≠ [] := by
    intro isEmpty
    simp [isEmpty] at last
  rw [model]
  refine ⟨setting.outline, reading.outline, same, ?_, has.slides.head?_firstBlock inhabited,
    has.slides.isChain, ?_, has.slides.firstBlock_le_endBlock ?_, has.slides.ends, ?_⟩
  · rw [has.slides.numbers, same]
  · rw [← List.getLast?_map, last, List.getLast?_concat]
  · rw [walked]
    exact (SlideWalk.ordered_ofBlocks setting.outline.blocks).endSlide.sorted
  · rw [reading.pages]
    exact List.ext_getElem (by simp [has.scripts]) (by simp)

theorem slides_eq_slices_rule : ∃ compiled : Compiled Float,
    ofSource .plain 1 "a" ⟨"---\n".toList, none⟩ = .ok compiled ∧
      compiled.model.slides.map Slide.endBlock = [1, 1] := by
  obtain ⟨compiled, compiles⟩ := exists_compiled_rule
  obtain ⟨outline, read, _, _, _, _, _, _, ends, _⟩ :=
    (slides_eq_slices .plain 1 "a" ⟨"---\n".toList, none⟩).2 compiled compiles
  rw [ofSource_rule] at read
  cases read
  exact ⟨compiled, compiles, ends⟩

end Compiled

end LectureDeck
