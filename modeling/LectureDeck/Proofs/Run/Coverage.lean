import LectureDeck.Proofs.Concept.Entries
import LectureDeck.Proofs.Run.Questions

/-!
# Coverage of concepts

A question should ask only for what a slide before it is tagged with. A run warns of each tag of a
question that no slide without a question carries before (`LectureDeck.Run.notCovered`), be it in
the same file or in an earlier one. What comes later does not matter.

The index of a run has the tags of all slides, in the order of the files and of the slides in them
(`LectureDeck.Run.mentions_conceptIndex`).
-/

namespace LectureDeck

section Slides

/-- Without tags there are none of any rank. -/
theorem Tags.ranked_of_isEmpty {tags : Tags} (none : tags.isEmpty = true) : tags.ranked = [] := by
  rw [isEmpty, Bool.and_eq_true, List.isEmpty_iff, List.isEmpty_iff] at none
  rw [ranked, none.1, none.2]
  rfl

/-- The mentions that the tags of a slide make. -/
def Slide.mentions (file : String) (slide : Slide) : List Mention :=
  slide.tags.ranked.map fun tag =>
    ⟨tag.1, file, ⟨slide.id, slide.header.getD ""⟩, tag.2, slide.question.isSome⟩

/-- The occurrence of a slide mentions what its tags do. A slide without tags has no occurrence, and
mentions nothing. -/
theorem Slide.mentions_occurrence? (file : String) (slide : Slide) :
    (slide.occurrence? file).toList.flatMap Occurrence.mentions = slide.mentions file := by
  unfold occurrence? mentions
  split
  · rename_i untagged
    rw [Tags.ranked_of_isEmpty untagged]
    rfl
  · rw [Option.toList_some, List.flatMap_singleton]
    rfl

end Slides

section Files

variable {W : Type}

/-- The slides of some files, in order, each with its file. -/
def placedSlides (files : List (Compiled W)) : List (Compiled W × Slide) :=
  files.flatMap fun file => file.model.slides.map (file, ·)

/-- The slides of the first file come before those of the others. -/
theorem placedSlides_cons (file : Compiled W) (rest : List (Compiled W)) :
    placedSlides (file :: rest) = file.model.slides.map (file, ·) ++ placedSlides rest :=
  List.flatMap_cons

/-- The slides of earlier files come before those of later ones. -/
theorem placedSlides_append (files more : List (Compiled W)) :
    placedSlides (files ++ more) = placedSlides files ++ placedSlides more :=
  List.flatMap_append

variable [Weight W]

/-- An index knows the slides of a file that have tags. -/
theorem Compiled.IsToldBy.occurrences_eq {setting : Setting} {file : FileDraft W}
    {compiled : Compiled W} (told : compiled.IsToldBy setting file) :
    compiled.occurrences =
      compiled.model.slides.filterMap (Slide.occurrence? compiled.name) := by
  rw [told.occurrences, told.agrees.occurrences, told.slides, told.name]

end Files

/-- A slide without a question carries a concept. -/
def Slide.covers (concept : String) (slide : Slide) : Bool :=
  slide.question.isNone && slide.tags.all.any fun tag => Tags.concept tag == concept

/-- The finding says that a concept is not covered. -/
def Finding.isNotCovered : Finding → Bool
  | .conceptNotCovered .. => true
  | _ => false

/-- That a concept is not covered is found for a run, not for a slide alone. -/
theorem Finding.isOfRun_of_isNotCovered {finding : Finding}
    (kind : finding.isNotCovered = true) : finding.isOfRun = true := by
  cases finding with
  | conceptNotCovered tag primary => rfl
  | _ => contradiction

/-- The warning says that a concept is not covered. -/
def Warning.isNotCovered (warning : Warning) : Bool := warning.finding.isNotCovered

/-- The tags of a question that none of the slides before it covers, each with a warning. A file
that is an assessment may ask for anything. -/
def Slide.notCovered (before : List Slide) (file : String) (assessment : Bool) (slide : Slide) :
    List Warning :=
  if assessment || slide.question.isNone then []
  else
    (slide.tags.ranked.filter fun tag => !before.any (covers (Tags.concept tag.1))).map fun tag =>
      ⟨file, some slide.number, .conceptNotCovered tag.1 tag.2⟩

/-- A slide that asks no question leaves nothing uncovered. -/
theorem Slide.notCovered_of_isNone {before : List Slide} {file : String} {assessment : Bool}
    {slide : Slide} (none : slide.question.isNone = true) :
    slide.notCovered before file assessment = [] := by
  rw [notCovered, none, Bool.or_true, if_pos rfl]

section Slides

variable {W : Type}

/-- The warnings of slides in order, with those before each of them. -/
def notCoveredAfter (before : List Slide) (placed : List (Compiled W × Slide)) : List Warning :=
  (placed.mapIdx fun position next =>
    next.2.notCovered (before ++ (placed.take position).map Prod.snd) next.1.name
      next.1.options.features.assessment).flatten

/-- What a run has to warn of: the tags of each question that no slide before it covers. -/
def Run.notCovered (run : Run W) : List Warning := notCoveredAfter [] (placedSlides run.files)

/-- Without slides nothing is left uncovered. -/
theorem notCoveredAfter_nil (before : List Slide) :
    notCoveredAfter (W := W) before [] = [] := rfl

/-- A slide is told by those before it, and is one of those for the next. -/
theorem notCoveredAfter_cons (before : List Slide) (next : Compiled W × Slide)
    (rest : List (Compiled W × Slide)) :
    notCoveredAfter before (next :: rest) =
      next.2.notCovered before next.1.name next.1.options.features.assessment ++
        notCoveredAfter (before ++ [next.2]) rest := by
  rw [notCoveredAfter, List.mapIdx_cons, List.flatten_cons, List.take_zero, List.map_nil,
    List.append_nil, notCoveredAfter]
  simp only [List.take_succ_cons, List.map_cons, List.append_assoc, List.singleton_append]

/-- Later slides add warnings and take none back. -/
theorem notCoveredAfter_append (before : List Slide) (placed more : List (Compiled W × Slide)) :
    notCoveredAfter before (placed ++ more) =
      notCoveredAfter before placed ++ notCoveredAfter (before ++ placed.map Prod.snd) more := by
  induction placed generalizing before with
  | nil => rw [List.nil_append, List.map_nil, List.append_nil, notCoveredAfter_nil, List.nil_append]
  | cons next rest later =>
    rw [List.cons_append, notCoveredAfter_cons, later, notCoveredAfter_cons, List.append_assoc,
      List.map_cons, List.append_assoc, List.singleton_append]

/-- All of these warnings are of concepts that are not covered. -/
theorem isNotCovered_of_mem {before : List Slide} {placed : List (Compiled W × Slide)}
    {warning : Warning} (member : warning ∈ notCoveredAfter before placed) :
    warning.isNotCovered = true := by
  obtain ⟨warnings, inside, member⟩ := List.mem_flatten.1 member
  obtain ⟨position, _, same⟩ := List.mem_mapIdx.1 inside
  rw [← same, Slide.notCovered] at member
  split at member
  · contradiction
  · obtain ⟨tag, -, rfl⟩ := List.mem_map.1 member
    rfl

end Slides

section Merging

/-- A slide covers what its mentions say, if it has no question. -/
theorem Slide.any_mentions (file concept : String) (slide : Slide) :
    ((slide.mentions file).any fun mention => !mention.onQuestion && mention.concept == concept) =
      slide.covers concept := by
  rw [mentions, List.any_map, covers, ← Tags.map_fst_ranked, List.any_map]
  cases slide.question with
  | none => rfl
  | some number => exact List.any_eq_false.2 fun _ _ => Bool.false_ne_true

/-- The index covers what some slides cover. -/
def ConceptIndex.CoversAs (index : ConceptIndex) (before : List Slide) : Prop :=
  ∀ concept, index.covers concept = before.any (Slide.covers concept)

/-- When a slide is added, the index also covers what this slide covers. -/
theorem ConceptIndex.CoversAs.merge {index : ConceptIndex} {before : List Slide}
    (known : index.CoversAs before) (file : String) (slide : Slide) :
    (index.merge (slide.occurrence? file).toList).CoversAs (before ++ [slide]) := by
  intro concept
  rw [covers, mentions_merge, List.any_append, ← covers, known concept, List.any_append,
    slide.mentions_occurrence? file, slide.any_mentions file concept, List.any_cons, List.any_nil,
    Bool.or_false]

/-- The tags of a question are looked up in the index as it is before the slide is added. -/
theorem ConceptIndex.mergeWarnings_occurrence? {index : ConceptIndex} {before : List Slide}
    (known : index.CoversAs before) (assessment : Bool) (file : String) (slide : Slide)
    (rest : List Occurrence) :
    index.mergeWarnings assessment ((slide.occurrence? file).toList ++ rest) =
      slide.notCovered before file assessment ++
        (index.merge (slide.occurrence? file).toList).mergeWarnings assessment rest := by
  unfold Slide.occurrence?
  split
  · rename_i untagged
    rw [Slide.notCovered, Tags.ranked_of_isEmpty untagged, List.filter_nil, List.map_nil, ite_self]
    rfl
  · rw [Option.toList_some, List.singleton_append, mergeWarnings]
    congr 1
    rw [Slide.notCovered, uncovered]
    dsimp only
    simp only [known _]
    cases assessment <;> rfl

/-- The slides of a file are looked up one after the other. -/
theorem ConceptIndex.mergeWarnings_eq {W : Type} (file : Compiled W) (slides : List Slide)
    {index : ConceptIndex} {before : List Slide} (known : index.CoversAs before) :
    index.mergeWarnings file.options.features.assessment
        (slides.filterMap (Slide.occurrence? file.name)) =
      notCoveredAfter before (slides.map (file, ·)) ∧
    (index.merge (slides.filterMap (Slide.occurrence? file.name))).CoversAs
      (before ++ slides) := by
  induction slides generalizing index before with
  | nil => exact ⟨rfl, (List.append_nil before).symm ▸ known⟩
  | cons slide rest later =>
    obtain ⟨warnings, covered⟩ := later (known.merge file.name slide)
    have first : (slide :: rest).filterMap (Slide.occurrence? file.name) =
        (slide.occurrence? file.name).toList ++
          rest.filterMap (Slide.occurrence? file.name) := by
      rw [List.filterMap_eq_flatMap_toList, List.flatMap_cons, ← List.filterMap_eq_flatMap_toList]
    rw [first, mergeWarnings_occurrence? known, warnings, List.map_cons, notCoveredAfter_cons]
    refine ⟨rfl, ?_⟩
    rw [merge, List.foldl_append, ← merge, ← merge, ← List.singleton_append, ← List.append_assoc]
    exact covered

end Merging

namespace Run

variable {W : Type} [Weight W] {environment : Environment} {sources : List SourceFile}
  {files : List (Compiled W)} {run : Run W}

/-- The files of a run are looked up one after the other. -/
theorem coverageWarnings_eq
    (told : ∀ file ∈ files, ∃ setting draft, file.IsToldBy setting draft) {index : ConceptIndex}
    {before : List Slide} (known : index.CoversAs before) :
    coverageWarnings index files = notCoveredAfter before (placedSlides files) := by
  induction files generalizing index before with
  | nil => rfl
  | cons file rest later =>
    obtain ⟨⟨setting, draft, first⟩, others⟩ := List.forall_mem_cons.1 told
    obtain ⟨warnings, covered⟩ :=
      ConceptIndex.mergeWarnings_eq file file.model.slides known
    rw [coverageWarnings, placedSlides_cons, notCoveredAfter_append, first.occurrences_eq, warnings,
      later others covered, List.map_map]
    congr 2
    exact congrArg (before ++ ·) (List.map_id _).symm

/-- A run warns of the tags of questions that are not covered, and no file does on its own. -/
theorem filter_isNotCovered {before : Nat}
    (compiles : compileFiles environment before sources = .ok files) (options : Options) :
    (ofFiles options files).allWarnings.filter Warning.isNotCovered =
      (ofFiles options files).notCovered := by
  have told := exists_isToldBy_of_mem compiles
  have alone : (files.flatMap Compiled.warnings).filter Warning.isNotCovered = [] := by
    refine List.filter_eq_nil_iff.2 fun warning member kind => ?_
    obtain ⟨file, known, own⟩ := List.mem_flatMap.1 member
    obtain ⟨source, -, compiled⟩ := exists_of_mem_compileFiles compiles file known
    have kept := Compiled.isOfRun_of_compile compiled warning own
    rw [Finding.isOfRun_of_isNotCovered kind] at kept
    contradiction
  have large : ((ofFiles options files).subquestions.oversized.map oversizedWarning).filter
      Warning.isNotCovered = [] :=
    List.filter_eq_nil_iff.2 (List.forall_mem_map.2 fun _ _ => Bool.false_ne_true)
  have empty : ({} : ConceptIndex).CoversAs [] := fun _ => rfl
  have covered : coverageWarnings {} files = (ofFiles options files).notCovered :=
    coverageWarnings_eq told empty
  have all : (ofFiles options files).allWarnings = files.flatMap Compiled.warnings ++
      (coverageWarnings {} files ++
        (ofFiles options files).subquestions.oversized.map oversizedWarning) := rfl
  rw [all, List.filter_append, alone, List.nil_append, List.filter_append, large, List.append_nil,
    covered, List.filter_eq_self]
  exact fun warning => isNotCovered_of_mem

/-- Sources compile the same, whatever comes after them. -/
theorem exists_of_compileFiles_append {more : List SourceFile} {before : Nat}
    (compiles : compileFiles environment before (sources ++ more) = .ok files) :
    ∃ first rest, compileFiles environment before sources = .ok first ∧ files = first ++ rest := by
  induction sources generalizing before files with
  | nil => exact ⟨[], files, rfl, rfl⟩
  | cons source others later =>
    simp only [List.cons_append, compileFiles, bind_eq_ok, pure_eq_ok] at compiles ⊢
    obtain ⟨file, compiled, all, compiles, rfl⟩ := compiles
    obtain ⟨first, rest, found, rfl⟩ := later compiles
    exact ⟨file :: first, rest, ⟨file, compiled, first, found, rfl⟩, rfl⟩

/-- A run that warns of what its slides do not cover. -/
structure WarnsOfCoverage (environment : Environment) (sources : List SourceFile) (run : Run W) :
    Prop where
  /-- Each tag of a question that no slide before it covers has a warning, in order. -/
  warnings : run.allWarnings.filter Warning.isNotCovered = run.notCovered
  /-- Whether a file is an assessment is in its options, which are those of the run with what the
  file says of itself. -/
  options : List.Forall₂ (fun source file =>
    file.options = environment.options.withDefaults source.defaults) sources run.files
  /-- More files do not change the warnings of these. -/
  later : ∀ (more : List SourceFile) (longer : Run W),
    ofSources environment (sources ++ more) = .ok longer →
      run.allWarnings.filter Warning.isNotCovered <+:
        longer.allWarnings.filter Warning.isNotCovered

/-- **A run warns of concepts that are not covered.** The warnings are in the order of files, slides
and tags. There is one for each tag of a question in a file that is no assessment, unless a slide
before it, without a question, carries the tag in some case. -/
theorem coverage_ofSources (compiles : ofSources environment sources = .ok run) :
    run.WarnsOfCoverage environment sources := by
  obtain ⟨files, compiled, rfl⟩ := ofSources_eq_ok_iff.1 compiles
  refine ⟨filter_isNotCovered compiled _, ?_, ?_⟩
  · exact (forall₂_of_compileFiles compiled).1.imp fun _ _ => Compiled.options_of_compile
  · intro more longer alsoCompiles
    obtain ⟨all, compiledAll, rfl⟩ := ofSources_eq_ok_iff.1 alsoCompiles
    obtain ⟨first, rest, found, rfl⟩ := exists_of_compileFiles_append compiledAll
    obtain rfl := Except.ok.inj (compiled.symm.trans found)
    rw [filter_isNotCovered compiled, filter_isNotCovered compiledAll]
    change _ <+: notCoveredAfter [] (placedSlides (files ++ rest))
    rw [placedSlides_append, notCoveredAfter_append]
    exact List.prefix_append _ _

/-- A question asks for what a slide before it covers, and for what only a later slide covers. -/
def coveredLate : List SourceFile :=
  [⟨"a.md", "Tags: x\n"⟩, ⟨"b.md", "Tags: X; y\n\nAnswer: 5\n\n---\n\nTags: y\n"⟩]

/-- A tag that a later file covers is warned of, since only earlier slides count. -/
theorem coverage_ofSources_coveredLate : ∃ run : Run Float,
    ofSources .plain coveredLate = .ok run ∧ run.WarnsOfCoverage .plain coveredLate ∧
      run.allWarnings.filter Warning.isNotCovered =
        [⟨"b", some 1, .conceptNotCovered "y" true⟩] := by
  obtain ⟨first, compiles, slides⟩ : ∃ file : Compiled Float,
      compile .plain 1 "a" "Tags: x\n" = .ok file ∧ file.model.slides =
        [⟨1, "slidoc01-01", none, ⟨["x"], []⟩, none, 0, 1, [], [], false, []⟩] := by
    apply Compiled.exists_compile_of_slides
    unfold Compiled.read Compiled.findSetting
    rw [Outline.ofSource_eq_within 20 (by decide +kernel)]
    decide +kernel
  obtain ⟨second, alsoCompiles, alsoSlides⟩ : ∃ file : Compiled Float,
      compile .plain 2 "b" "Tags: X; y\n\nAnswer: 5\n\n---\n\nTags: y\n" = .ok file ∧
        file.model.slides =
          [⟨1, "slidoc02-01", none, ⟨["X", "y"], []⟩, some 1, 0, 3, [], [], false, []⟩,
            ⟨2, "slidoc02-02", none, ⟨["y"], []⟩, none, 3, 4, [], [], false, []⟩] := by
    apply Compiled.exists_compile_of_slides
    unfold Compiled.read Compiled.findSetting
    rw [Outline.ofSource_eq_within 40 (by decide +kernel)]
    decide +kernel
  have firstName : Site.stem "a.md" = "a" := by decide +kernel
  have secondName : Site.stem "b.md" = "b" := by decide +kernel
  have run : ofSources .plain coveredLate =
      .ok (ofFiles Environment.plain.options [first, second]) := by
    rw [ofSources_eq_ok_iff]
    refine ⟨_, ?_, rfl⟩
    simp only [coveredLate, compileFiles, SourceFile.name, firstName, secondName, bind_eq_ok,
      pure_eq_ok]
    exact ⟨first, compiles, _, ⟨second, alsoCompiles, [], rfl, rfl⟩, rfl⟩
  have covered := coverage_ofSources run
  refine ⟨_, run, covered, covered.warnings.trans ?_⟩
  have name : second.name = "b" := (Compiled.place_of_compile alsoCompiles).2
  have asked : second.options.features.assessment = false := by
    obtain ⟨-, options⟩ := List.forall₂_cons.1 covered.options
    rw [(List.forall₂_cons.1 options).1]
    decide +kernel
  change notCoveredAfter [] (first.model.slides.map (first, ·) ++
    (second.model.slides.map (second, ·) ++ [])) = _
  rw [slides, alsoSlides]
  simp only [List.map_cons, List.map_nil, List.cons_append, List.nil_append, notCoveredAfter_cons,
    notCoveredAfter_nil, name, asked]
  rw [Slide.notCovered_of_isNone rfl]
  decide +kernel

end Run

end LectureDeck
