import LectureDeck.Proofs.Deck.Skips
import LectureDeck.Proofs.Outline.Reads
import LectureDeck.Proofs.Page.Pages
import LectureDeck.Proofs.Question.Weights

/-!
# Forward links of a file

A file compiles only if no forward link leads a reader past questions that have grades, and then
each question tells what may be skipped from it (`LectureDeck.Compiled.compile_forwardLinks`).
-/

namespace LectureDeck

namespace Compiled

variable {W : Type} [Weight W]

variable {environment : Environment} {fileNumber : Nat} {name : String} {source : Source}
  {location : Location} {target : String} {weight : W}

/-- A skip is refused while the blocks of a file are read. -/
theorem exists_readFile_of_refusal
    (fails : (ofSource environment fileNumber name source : Except (CompileError W) (Compiled W)) =
      .error (.gradedSkip location target weight)) :
    ∃ setting, (findSetting environment fileNumber name source :
        Except (CompileError W) Setting) = .ok setting ∧
      Draft.readFile setting = .error (.gradedSkip location target weight) := by
  obtain ⟨outline, _, outlined, _⟩ := Outline.exists_tiles source.text
  rw [ofSource_eq_error_iff, read] at fails
  rcases bind_eq_error.1 fails with unset | ⟨setting, found, fails⟩
  -- A setting is refused for its patterns only, as every text has an outline.
  · unfold findSetting at unset
    dsimp only at unset
    rw [outlined] at unset
    rcases bind_eq_error.1 unset with unreadable | ⟨hide, _, unset⟩
    · obtain ⟨_, same⟩ := Environment.eq_hidePattern_of_readHide unreadable
      cases same
    · cases unset
  · refine ⟨setting, found, ?_⟩
    rcases bind_eq_error.1 fails with fails | ⟨_, _, fails⟩
    · unfold Analysis.ofSetting at fails
      rcases bind_eq_error.1 fails with refused | ⟨draft, _, counted⟩
      · exact refused
      · dsimp only at counted
        split at counted <;> cases counted
    · cases fails

/-- **Forward links.** Let weights be exact. When a file compiles, no link from a slide with a
question lands past a question that has a grade, and every question tells the way to the farthest
slide on which a link of its own slide lands, with the score between. When it does not compile
because of a skip, there is such a link: the error names its slide and the grade between. -/
theorem compile_forwardLinks [ExactWeight W] (environment : Environment) (fileNumber : Nat)
    (name text : String) :
    (∀ compiled : Compiled W, compile environment fileNumber name text = .ok compiled →
      ∃ setting, (findSetting environment fileNumber name (Source.ofText text.toList) :
          Except (CompileError W) Setting) = .ok setting ∧
        SkipsNoGrade fileNumber setting.outline.mentions compiled.model.questions ∧
        ∀ question ∈ compiled.model.questions,
          question.TellsSkip fileNumber setting.outline.mentions compiled.model.questions) ∧
    ∀ (location : Location) (target : String) (weight : W),
      (compile environment fileNumber name text : Except (CompileError W) (Compiled W)) =
          .error (.gradedSkip location target weight) →
        location.file = name ∧
        ∃ setting, (findSetting environment fileNumber name (Source.ofText text.toList) :
            Except (CompileError W) Setting) = .ok setting ∧
          ∃ blocks, ∃ reached : Draft W, blocks <+: setting.outline.blocks ∧
            Draft.Reaches setting blocks reached ∧
            Offends fileNumber setting.outline.mentions reached.file.questions
              ⟨target, location.slide, weight⟩ reached.slide.number := by
  constructor
  · intro compiled compiles
    obtain ⟨setting, analysis, found, rfl⟩ := ofSource_eq_ok_iff.1 compiles
    obtain ⟨-, rfl, -, -⟩ := setting_of_findSetting (read_eq_ok_iff.1 found).1
    obtain ⟨draft, -, reads, rfl⟩ := exists_readFile_of_read found
    exact ⟨setting, (read_eq_ok_iff.1 found).1, Draft.skips_of_readFile reads⟩
  · intro location target weight fails
    obtain ⟨setting, found, refused⟩ := exists_readFile_of_refusal fails
    obtain ⟨rfl, rfl, -, -⟩ := setting_of_findSetting found
    refine ⟨?_, setting, found, Draft.offends_of_readFile refused⟩
    obtain ⟨slide, named⟩ := Draft.namesSlide_readFile setting _ refused
    cases named
    rfl

/-- A slide with a question whose link leads over another, which has the options given. -/
def linkOver (options : String) : String :=
  "[go](#Goal)\n\nAnswer: 5\n\n---\n\nAnswer: 6" ++ options ++ "\n\n---\n\n# Goal\n"

/-- An ungraded question may be skipped. -/
theorem exists_compiled_linkOver : ∃ compiled : Compiled ℚ,
    compile .plain 1 "a" (linkOver "") = .ok compiled ∧
      ∃ question ∈ compiled.model.questions, question.skip.isSome = true := by
  have seen : (read (W := ℚ) .plain 1 "a" (Source.ofText (linkOver "").toList)).toOption.any
      (fun reading => reading.2.model.questions.any fun question => question.skip.isSome) =
        true := by
    unfold read findSetting
    rw [Outline.ofSource_eq_within 40 (by decide +kernel)]
    decide +kernel
  obtain ⟨⟨setting, analysis⟩, found, holds⟩ := exists_of_any seen
  exact ⟨_, ofSource_eq_ok_iff.2 ⟨setting, analysis, found, rfl⟩, List.any_eq_true.1 holds⟩

/-- A graded question may not be skipped. -/
theorem linkOver_refused :
    (compile .plain 1 "a" (linkOver "; weight=1,2") : Except (CompileError ℚ) (Compiled ℚ)) =
      .error (.gradedSkip ⟨"a", 1⟩ "slidoc-ref-goal" 2) := by
  refine ofSource_eq_error_iff.2 (error?_eq_some.1 ?_)
  unfold read findSetting
  rw [Outline.ofSource_eq_within 40 (by decide +kernel)]
  decide +kernel

theorem compile_forwardLinks_linkOver :
    (∃ compiled : Compiled ℚ, compile .plain 1 "a" (linkOver "") = .ok compiled ∧
      ∃ setting : Setting, SkipsNoGrade 1 setting.outline.mentions compiled.model.questions ∧
        ∃ question ∈ compiled.model.questions, question.skip.isSome = true ∧
          question.TellsSkip 1 setting.outline.mentions compiled.model.questions) ∧
    (compile .plain 1 "a" (linkOver "; weight=1,2") : Except (CompileError ℚ) (Compiled ℚ)) =
        .error (.gradedSkip ⟨"a", 1⟩ "slidoc-ref-goal" 2) ∧
      ∃ setting : Setting, ∃ reached : Draft ℚ, Offends 1 setting.outline.mentions
        reached.file.questions ⟨"slidoc-ref-goal", 1, 2⟩ reached.slide.number := by
  obtain ⟨compiled, compiles, question, member, skips⟩ := exists_compiled_linkOver
  obtain ⟨setting, _, grades, tells⟩ :=
    (compile_forwardLinks (W := ℚ) .plain 1 "a" (linkOver "")).1 compiled compiles
  obtain ⟨_, other, _, _, reached, _, _, offends⟩ :=
    (compile_forwardLinks .plain 1 "a" (linkOver "; weight=1,2")).2 _ _ _ linkOver_refused
  exact ⟨⟨compiled, compiles, setting, grades, question, member, skips, tells question member⟩,
    linkOver_refused, other, reached, offends⟩

end Compiled

end LectureDeck
