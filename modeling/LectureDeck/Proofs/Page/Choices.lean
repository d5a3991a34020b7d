import LectureDeck.Proofs.Deck.Consistency
import LectureDeck.Proofs.Deck.Presenting
import LectureDeck.Proofs.Outline.Reads
import LectureDeck.Proofs.Page.Pages

/-!
# Choices of compiled files

Which markers of choices a slide may have, and what becomes of them when its file is compiled
(`LectureDeck.Compiled.compile_choices`).
-/

namespace LectureDeck

open LectureDeck.Text

/-- A slide presents the choices of a layout, which are those of the question on it. Without a
question there are none. -/
structure PresentsLayout {W : Type} (multiplicity : Bool) (markers : List (Char × Bool))
    (questions : List (Question W)) (slide : Slide) (layout : ChoiceLayout) : Prop where
  allowed : layout.IsAllowed multiplicity
  markers : layout.markers = markers
  asked : layout.items ≠ [] → ∃ question ∈ questions, question.slide = slide.number
  recorded : ∀ question ∈ questions, question.slide = slide.number →
    question.choices = layout.items.length ∧ question.alternatives = layout.alternatives

namespace Draft

variable {W : Type} [Weight W] {setting : Setting}

/-- The choices of each slide of a file are those of a layout, and its question records them. -/
theorem exists_presentsLayout {after : Draft W} (read : readFile setting = .ok after)
    {slide : Slide} (member : slide ∈ after.file.slides) :
    ∃ layout, PresentsLayout setting.multiplicity
      ((slide.blocksOf setting.outline.blocks).flatMap Block.markers) after.file.questions slide
      layout := by
  have agrees := (isConsistent_of_readFile read).1
  obtain ⟨script, -, -, last, presented, -, question, asks, finishes, recorded⟩ :=
    (kept_choices setting).exists_endsAs read member
  obtain ⟨layout, allowed, markers, choices⟩ := Choices.presentAll_eq_ok_iff.1 presented
  have shown : last.slide.closeAll.choices = layout.choices :=
    (SlideDraft.choices_of_bare (SlideDraft.bare_closeAll last.slide)).trans choices.symm
  unfold slideQuestion at asks
  cases given : answer? (last.withSlide last.slide.closeAll).slide with
  | none =>
    rw [given] at asks
    have unasked : slide.question = none := by
      rw [finishes, asks]
      rfl
    refine ⟨layout, allowed, markers, fun some => ?_, fun other known on => ?_⟩
    · have none : ¬ 0 < last.slide.closeAll.choices.count := by
        intro positive
        simp [answer?, withSlide, positive] at given
      rw [shown] at none
      exact (none (List.length_pos_iff.2 some)).elim
    · have told := (agrees.asked slide member other.number).2 ⟨other, known, rfl, on⟩
      rw [unasked] at told
      contradiction
  | some answer =>
    rw [given] at asks
    obtain ⟨known, member, same⟩ := List.mem_map.1 (recorded _ asks)
    have number : known.slide = slide.number := by
      have on : known.bare.slide = (Question.bare _).slide := congrArg Question.slide same
      rw [finishes]
      exact on
    refine ⟨layout, allowed, markers, fun _ => ⟨known, member, number⟩, fun other another on => ?_⟩
    -- No other question is on the slide.
    have distinct : (after.file.questions.map Question.slide).Nodup :=
      agrees.listed.sorted.imp fun less => Nat.ne_of_lt less
    obtain rfl := List.inj_on_of_nodup_map distinct another member (on.trans number.symm)
    have count : other.bare.choices = (Question.bare _).choices := congrArg Question.choices same
    have versions : other.bare.alternatives = (Question.bare _).alternatives :=
      congrArg Question.alternatives same
    exact ⟨count.trans (congrArg Choices.count shown),
      versions.trans (congrArg Choices.alternatives shown)⟩

end Draft

namespace Compiled

variable {W : Type} [Weight W] {environment : Environment} {fileNumber : Nat} {name text : String}
  {setting : Setting}

/-- A file that cannot be read to its end does not compile. -/
theorem compile_eq_error {error : CompileError W}
    (found : (findSetting environment fileNumber name (Source.ofText text.toList) :
      Except (CompileError W) Setting) = .ok setting)
    (failed : Draft.readFile setting = .error error) :
    compile environment fileNumber name text = .error error := by
  refine ofSource_eq_error_iff.2 (bind_eq_error.2 (.inr ⟨setting, found, ?_⟩))
  exact bind_eq_error.2 (.inl (bind_eq_error.2 (.inl failed)))

/-- **Choices.** While a slide has no answer, each of its paragraphs is read if and only if the
markers of the slide up to its end are those of a layout: at most two restatements of the question,
and then at most sixteen choices in the order of their letters, each followed by its starred further
versions if the options allow them. Otherwise the file does not compile, and the error tells the
first marker with which no layout goes on: a further version that is not allowed, or else the letter
that was expected. When a file compiles, the markers of each slide are those of a layout, and the
question of the slide has its choices and its further versions. -/
theorem compile_choices
    (found : (findSetting environment fileNumber name (Source.ofText text.toList) :
      Except (CompileError W) Setting) = .ok setting) :
    (∀ before content after, setting.outline.blocks = before ++ .text content :: after →
      ∀ draft : Draft W, before.zipIdx.foldlM (Draft.readBlock setting) (Draft.start fileNumber) =
          .ok draft →
        (currentSlide before).any Block.isAnswer = false →
        Draft.TakesMarkers setting draft.slide.number
            ((currentSlide before).flatMap Block.markers) (Block.markers (.text content))
            (draft.readBlock setting (.text content, before.length)) ∧
          ∀ error, draft.readBlock setting (.text content, before.length) = .error error →
            compile environment fileNumber name text = .error error) ∧
    ∀ compiled : Compiled W, compile environment fileNumber name text = .ok compiled →
      ∀ slide ∈ compiled.model.slides, ∃ layout,
        PresentsLayout compiled.options.features.multiplicity
          ((slide.blocksOf setting.outline.blocks).flatMap Block.markers)
          compiled.model.questions slide layout := by
  obtain ⟨-, rfl, -, -⟩ := setting_of_findSetting found
  refine ⟨fun before content after whole draft read unanswered => ⟨?_, fun error failed => ?_⟩,
    fun compiled compiles slide member => ?_⟩
  · exact Draft.takesMarkers_of_unanswered read unanswered content
  · exact compile_eq_error found (Draft.readFile_eq_error whole read failed)
  · obtain ⟨other, analysis, reading, rfl⟩ := ofSource_eq_ok_iff.1 compiles
    obtain rfl := Except.ok.inj (found.symm.trans (read_eq_ok_iff.1 reading).1)
    obtain ⟨draft, -, reads, rfl⟩ := exists_readFile_of_read reading
    have multiplicity : setting.multiplicity = (environment.options.withDefaults
        (Defaults.parse ((Source.ofText text.toList).defaults.getD []))).features.multiplicity := by
      unfold findSetting at found
      simp only [bind_eq_ok, pure_eq_ok] at found
      obtain ⟨_, -, _, -, same⟩ := found
      exact (congrArg Setting.multiplicity same).symm
    have layouts := Draft.exists_presentsLayout reads member
    rwa [multiplicity] at layouts

section Versions

/-- A run in which choices may have more than one version. -/
def withVersions : Environment :=
  { Environment.plain with options := { features := { multiplicity := true } } }

/-- A restatement, and two choices of which the first has two versions. -/
def oneOrUno : String := "Q.. Which?\nA.. one\nA*.. uno\nB.. two\n"

def oneOrUnoMarkers : List (Char × Bool) := [('Q', false), ('A', false), ('A', true), ('B', false)]

/-- The text of the only paragraph of a file. -/
def paragraph? : List Block → Option String
  | [.text content] => some content
  | _ => none

theorem eq_of_paragraph? {blocks : List Block} {content : String}
    (found : paragraph? blocks = some content) : blocks = [.text content] := by
  unfold paragraph? at found
  split at found
  · cases found
    rfl
  · contradiction

theorem oneOrUno_refused :
    (compile .plain 1 "a" oneOrUno : Except (CompileError Float) (Compiled Float)) =
      .error (.faultySlide ⟨"a", 1⟩ (.alternativeChoice 'A')) := by
  refine ofSource_eq_error_iff.2 (error?_eq_some.1 ?_)
  unfold read findSetting
  rw [Outline.ofSource_eq_within 20 (by decide +kernel)]
  decide +kernel

/-- A choice in two versions is read where that is allowed, and only there. -/
theorem compile_choices_oneOrUno :
    (∃ compiled : Compiled Float, compile withVersions 1 "a" oneOrUno = .ok compiled ∧
      compiled.model.questions.map Question.choices = [2] ∧
      compiled.model.questions.map Question.alternatives = [['A']] ∧
      ∃ slide ∈ compiled.model.slides, ∃ layout,
        PresentsLayout true oneOrUnoMarkers compiled.model.questions slide layout) ∧
    ∃ setting content, setting.outline.blocks = [.text content] ∧
      Draft.TakesMarkers (W := Float) setting 1 [] oneOrUnoMarkers
        (Draft.readBlock setting (Draft.start 1) (.text content, 0)) ∧
      (compile .plain 1 "a" oneOrUno : Except (CompileError Float) (Compiled Float)) =
        .error (.faultySlide ⟨"a", 1⟩ (.alternativeChoice 'A')) := by
  constructor
  · have seen : (read (W := Float) withVersions 1 "a"
        (Source.ofText oneOrUno.toList)).toOption.any (fun reading =>
          reading.2.model.questions.map Question.choices = [2] ∧
          reading.2.model.questions.map Question.alternatives = [['A']] ∧
          ∃ slide ∈ reading.2.model.slides,
            (slide.blocksOf reading.1.outline.blocks).flatMap Block.markers =
              oneOrUnoMarkers) = true := by
      unfold read findSetting
      rw [Outline.ofSource_eq_within 20 (by decide +kernel)]
      decide +kernel
    obtain ⟨⟨setting, analysis⟩, found, holds⟩ := exists_of_any seen
    obtain ⟨count, versions, slide, member, markers⟩ := of_decide_eq_true holds
    have compiles : compile withVersions 1 "a" oneOrUno =
        .ok (present withVersions 1 "a" _ (setting, analysis)) :=
      ofSource_eq_ok_iff.2 ⟨setting, analysis, found, rfl⟩
    obtain ⟨-, presents⟩ := compile_choices (W := Float) (read_eq_ok_iff.1 found).1
    obtain ⟨layout, layouts⟩ := presents _ compiles slide member
    rw [markers] at layouts
    have plain : (Source.ofText oneOrUno.toList).defaults = none := by decide +kernel
    have allowed : (present withVersions 1 "a" (Source.ofText oneOrUno.toList)
        (setting, analysis)).options.features.multiplicity = true := by
      unfold present
      rw [plain]
      rfl
    rw [allowed] at layouts
    exact ⟨_, compiles, count, versions, slide, member, layout, layouts⟩
  · have seen : (findSetting (W := Float) .plain 1 "a"
        (Source.ofText oneOrUno.toList)).toOption.any (fun setting =>
          (paragraph? setting.outline.blocks).any fun content =>
            (Block.text content).markers = oneOrUnoMarkers) = true := by
      unfold findSetting
      rw [Outline.ofSource_eq_within 20 (by decide +kernel)]
      decide +kernel
    obtain ⟨setting, found, holds⟩ := exists_of_any seen
    cases only : paragraph? setting.outline.blocks with
    | none =>
      rw [only] at holds
      contradiction
    | some content =>
      rw [only] at holds
      have markers : (Block.text content).markers = oneOrUnoMarkers := of_decide_eq_true holds
      have blocks := eq_of_paragraph? only
      obtain ⟨takes, -⟩ := (compile_choices found).1 [] content [] blocks (Draft.start 1) rfl rfl
      exact ⟨setting, content, blocks, markers ▸ takes, oneOrUno_refused⟩

end Versions

end Compiled

end LectureDeck
