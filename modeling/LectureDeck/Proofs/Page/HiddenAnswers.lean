import LectureDeck.Proofs.Deck.Alike
import LectureDeck.Proofs.Page.Options

/-!
# Hidden answers

Pages that leave answers out show what is seen of a file under the veil
(`LectureDeck.Document.ofAnalysis_veil`). So they are the same for two files that differ in what
their answers say, if these give the same kinds of questions
(`LectureDeck.Compiled.compileWith_hidesAnswers`).
-/

namespace LectureDeck

section Veil

variable {W : Type} [Weight W] {options : Options}

/-- Where answers are left out, a piece looks as it is seen under the veil. -/
theorem Piece.fragment_veil (hidden : options.strip.answers = true) (highlight : Highlighter)
    (piece : Piece) : piece.veil.fragment options highlight = piece.fragment options highlight := by
  cases piece with
  | answer slideId keyword correct =>
    cases correct with
    | none => rfl
    | some correct =>
      unfold veil fragment answerMarkup
      dsimp only
      rw [if_pos hidden]
  | _ => rfl

theorem Entry.isShown_veil (strip : Strip) (entry : Entry) :
    entry.veil.isShown strip = entry.isShown strip := by
  have same : strip.omitsPiece entry.piece.veil = strip.omitsPiece entry.piece := by
    cases entry.piece <;> rfl
  rw [isShown, isShown, ← same]
  rfl

theorem SlidePage.ofScript_veil (hidden : options.strip.answers = true) (highlight : Highlighter)
    (fileNumber : Nat) (slide : Slide) (script : List Entry) :
    ofScript options highlight fileNumber slide.veil (script.map Entry.veil) =
      ofScript options highlight fileNumber slide script := by
  have shown : (script.map Entry.veil).filter (Entry.isShown options.strip) =
      (script.filter (Entry.isShown options.strip)).map Entry.veil := by
    rw [List.filter_map]
    congr 2
    exact funext (Entry.isShown_veil options.strip)
  have looks (entry : Entry) : entry.veil.piece.fragment options highlight =
      entry.piece.fragment options highlight := entry.piece.fragment_veil hidden highlight
  simp only [ofScript, shown, List.map_map, Function.comp_def, looks]
  rfl

/-- **Pages without answers show a file as it is seen under the veil.** -/
theorem Document.ofAnalysis_veil (hidden : options.strip.answers = true) (highlight : Highlighter)
    (setting : Setting) (draft : Draft W) :
    ofAnalysis options highlight (Analysis.ofDraft setting.veil draft.veil.file) =
      ofAnalysis options highlight (Analysis.ofDraft setting draft.file) := by
  refine congrArg (fun slides => (⟨_, slides, _⟩ : Document)) ?_
  change List.zipWith _ (draft.file.slides.map Slide.veil)
    (draft.file.scripts.map (List.map Entry.veil)) = _
  rw [List.zipWith_map]
  congr 1
  funext slide script
  exact SlidePage.ofScript_veil hidden highlight _ slide script

end Veil

/-- Two sources with the same blocks but for what answers say, and the same targets of links. -/
def Source.AnsweredAlike (W : Type) [Weight W] (plugins : Plugins) (source other : Source) : Prop :=
  ∃ outline second, Outline.ofSource source.text = .ok outline ∧
    Outline.ofSource other.text = .ok second ∧ second.linkTargets = outline.linkTargets ∧
      LectureDeck.AnsweredAlike W plugins outline.blocks second.blocks

theorem Options.hide_withDefaults (options : Options) (defaults : Defaults) :
    (options.withDefaults defaults).hide = defaults.hide.or options.hide := rfl

/-- The pattern of hidden headings is that of the file, or else that of the run. -/
theorem Environment.readHide_or {W : Type} {first second : Option String}
    {one two : Option Pattern} (found : (readHide first : Except (CompileError W) _) = .ok one)
    (also : (readHide second : Except (CompileError W) _) = .ok two) :
    (readHide (first.or second) : Except (CompileError W) _) = .ok (one.or two) := by
  cases first with
  | none =>
    cases found
    exact also
  | some pattern =>
    cases one with
    | none =>
      unfold readHide at found
      dsimp only at found
      split at found <;> cases found
    | some reading => exact found

namespace Compiled

variable {W : Type} [Weight W] {options others : Options} {plugins : Plugins}
  {highlight : Highlighter} {images : ImageSource} {fileNumber : Nat} {name text other : String}
  {compiled again : Compiled W}

/-- A compiled file was read under its own options, and its page shows what was read. -/
theorem exists_of_compileWith (compiles :
    compileWith options plugins highlight images fileNumber name text = .ok compiled) :
    ∃ hide setting, ∃ draft : Draft W,
      (Environment.readHide compiled.options.hide : Except (CompileError W) _) = .ok hide ∧
      Outline.ofSource (Source.ofText text.toList).text = .ok setting.outline ∧
      setting.veil = ⟨name, fileNumber, hide, compiled.options.features.multiplicity,
        compiled.options.embedImages, plugins, images, [], ⟨[], [], setting.outline.linkTargets⟩⟩ ∧
      Draft.readFile setting = .ok draft ∧ compiled.heads = draft.file.heads ∧
      compiled.document = (Document.ofAnalysis compiled.options highlight
        (Analysis.ofDraft setting draft.file)).resolve
          (Analysis.ofDraft setting draft.file).model.label? := by
  unfold compileWith Environment.ofOptions at compiles
  simp only [bind_eq_ok, pure_eq_ok] at compiles
  obtain ⟨_, ⟨runHide, ran, rfl⟩, compiles⟩ := compiles
  obtain ⟨setting, analysis, found, presents⟩ := ofSource_eq_ok_iff.1 compiles
  obtain ⟨draft, outlined, reads, rfl⟩ := exists_readFile_of_read found
  have finds := (read_eq_ok_iff.1 found).1
  obtain ⟨_, _, same, _⟩ := setting_of_findSetting finds
  rw [same] at outlined
  have own : compiled.options =
      options.withDefaults (Defaults.parse ((Source.ofText text.toList).defaults.getD [])) :=
    congrArg Compiled.options presents
  have document : compiled.document = (Document.ofAnalysis compiled.options highlight
      (Analysis.ofDraft setting draft.file)).resolve
        (Analysis.ofDraft setting draft.file).model.label? := by
    rw [presents]
    rfl
  rw [document]
  unfold findSetting at finds
  simp only [bind_eq_ok, pure_eq_ok] at finds
  obtain ⟨fileHide, given, outline, _, rfl⟩ := finds
  have hides := Environment.readHide_or given ran
  rw [← Options.hide_withDefaults] at hides
  rw [own]
  exact ⟨_, _, draft, hides, outlined, rfl, reads, congrArg Compiled.heads presents, rfl⟩

/-- **Answers that are left out do not show.** Two files have the same blocks but for what answers
say, and the first answer of each slide gives the same kind of question in both. When they are
compiled under the same options, those of the run with those of the header, and these leave answers
out, then they have the same page. -/
theorem compileWith_hidesAnswers
    (compiles : compileWith options plugins highlight images fileNumber name text = .ok compiled)
    (compilesOther : compileWith others plugins highlight images fileNumber name other = .ok again)
    (same : again.options = compiled.options) (hidden : compiled.options.strip.answers = true)
    (alike : Source.AnsweredAlike W plugins (Source.ofText text.toList)
      (Source.ofText other.toList)) :
    again.page = compiled.page ∧ again.heads = compiled.heads ∧
      again.document = compiled.document := by
  obtain ⟨hide, setting, draft, reading, outlined, set, reads, heads, document⟩ :=
    exists_of_compileWith compiles
  obtain ⟨otherHide, second, later, alsoReading, alsoOutlined, alsoSet, alsoReads, alsoHeads,
    alsoDocument⟩ := exists_of_compileWith compilesOther
  obtain ⟨outline, secondOutline, first, last, targets, blocks⟩ := alike
  obtain rfl := Except.ok.inj (first.symm.trans outlined)
  obtain rfl := Except.ok.inj (last.symm.trans alsoOutlined)
  rw [same] at alsoReading alsoSet alsoDocument
  obtain rfl := Except.ok.inj (alsoReading.symm.trans reading)
  have settings : second.veil = setting.veil := by rw [alsoSet, set, targets]
  have known : setting.plugins = plugins := (congrArg Setting.plugins set :)
  have seen : later.veil = draft.veil :=
    Draft.veil_of_readFiles settings (known ▸ blocks) reads alsoReads
  have labels : (Analysis.ofDraft second later.file).model.label? =
      (Analysis.ofDraft setting draft.file).model.label? :=
    (congrArg (fun seen : Draft W => (Analysis.ofDraft setting seen.file).model.label?) seen :)
  have shown : Document.ofAnalysis compiled.options highlight (Analysis.ofDraft second later.file) =
      Document.ofAnalysis compiled.options highlight (Analysis.ofDraft setting draft.file) := by
    rw [← Document.ofAnalysis_veil hidden highlight second,
      ← Document.ofAnalysis_veil hidden highlight setting, settings, seen]
  have pages : again.document = compiled.document := by rw [alsoDocument, document, labels, shown]
  have atHead : again.heads = compiled.heads := by
    rw [alsoHeads, heads]
    exact (congrArg (fun seen : Draft W => seen.file.heads) seen :)
  exact ⟨by rw [page, page, atHead, pages], atHead, pages⟩

section Capitals

/-- What is asked in a file of a question with an answer, and the answer. -/
def question? : List Block → Option (String × String)
  | [.text asked, .answer given] => some (asked, given)
  | _ => none

theorem eq_of_question? {blocks : List Block} {asked given : String}
    (found : question? blocks = some (asked, given)) : blocks = [.text asked, .answer given] := by
  unfold question? at found
  split at found
  · cases found
    rfl
  · contradiction

/-- A run that leaves answers out. -/
def examination : Environment :=
  { Environment.plain with options := { strip := { answers := true } } }

def capital (answer : String) : String := "Of Italy?\n\nAnswer: " ++ answer ++ "\n"

/-- What is read of a question and an answer. -/
def isCapital (answer shown : String) (reading : Setting × Analysis Float) : Bool :=
  question? reading.1.outline.blocks = some ("Of Italy?", answer) ∧
    reading.1.outline.linkTargets = [] ∧
    reading.2.model.questions.map (fun question => question.correct.map CorrectAnswer.shown) =
      [some shown]

theorem exists_capital {answer shown : String}
    (plain : (Source.ofText (capital answer).toList).defaults = none)
    (seen : (read examination 1 "a" (Source.ofText (capital answer).toList)).toOption.any
      (isCapital answer shown) = true) : ∃ (outline : Outline) (compiled : Compiled Float),
    compileWith examination.options .empty (fun _ _ => none) (fun _ _ _ => none) 1 "a"
        (capital answer) = .ok compiled ∧
      compiled.options = examination.options ∧
      compiled.model.questions.map (fun question => question.correct.map CorrectAnswer.shown) =
        [some shown] ∧
      Outline.ofSource (Source.ofText (capital answer).toList).text = .ok outline ∧
      outline.linkTargets = [] ∧ outline.blocks = [.text "Of Italy?", .answer answer] := by
  obtain ⟨⟨setting, analysis⟩, found, holds⟩ := exists_of_any seen
  obtain ⟨asks, targets, correct⟩ := of_decide_eq_true holds
  obtain ⟨_, _, same, outlined⟩ := setting_of_findSetting (read_eq_ok_iff.1 found).1
  rw [same] at outlined
  have compiles : compile examination 1 "a" (capital answer) =
      .ok (present examination 1 "a" (Source.ofText (capital answer).toList) (setting, analysis)) :=
    ofSource_eq_ok_iff.2 ⟨setting, analysis, found, rfl⟩
  refine ⟨setting.outline, _, bind_eq_ok.2 ⟨examination, rfl, compiles⟩, ?_, correct, outlined,
    targets, eq_of_question? asks⟩
  unfold present
  rw [plain]
  rfl

/-- An answer does not show, nor another one with another weight. -/
theorem compileWith_hidesAnswers_capitals : ∃ compiled again : Compiled Float,
    compileWith examination.options .empty (fun _ _ => none) (fun _ _ _ => none) 1 "a"
        (capital "Rome") = .ok compiled ∧
      compileWith examination.options .empty (fun _ _ => none) (fun _ _ _ => none) 1 "a"
        (capital "Paris; weight=3") = .ok again ∧
      compiled.model.questions.map (fun question => question.correct.map CorrectAnswer.shown) =
        [some "Rome"] ∧
      again.model.questions.map (fun question => question.correct.map CorrectAnswer.shown) =
        [some "Paris"] ∧
      again.page = compiled.page := by
  have rome : (read examination 1 "a" (Source.ofText (capital "Rome").toList)).toOption.any
      (isCapital "Rome" "Rome") = true := by
    unfold read findSetting
    rw [Outline.ofSource_eq_within 20 (by decide +kernel)]
    decide +kernel
  have paris : (read examination 1 "a"
      (Source.ofText (capital "Paris; weight=3").toList)).toOption.any
        (isCapital "Paris; weight=3" "Paris") = true := by
    unfold read findSetting
    rw [Outline.ofSource_eq_within 20 (by decide +kernel)]
    decide +kernel
  have kinds : Answer.SameKind Float .empty false "Rome" "Paris; weight=3" := by
    intro answer second parsed parses
    have texts : ∀ content ∈ ["Rome", "Paris; weight=3"],
        (Answer.parse (W := Float) content false .empty).toOption.any (fun answer =>
          answer.kind = some .text) = true := by decide +kernel
    have first := texts "Rome" (by simp)
    have other := texts "Paris; weight=3" (by simp)
    rw [parsed] at first
    rw [parses] at other
    exact (of_decide_eq_true other).trans (of_decide_eq_true first).symm
  obtain ⟨outline, compiled, compiles, own, correct, outlined, targets, blocks⟩ :=
    exists_capital (by decide +kernel) rome
  obtain ⟨second, again, compilesOther, also, corrects, outlines, noTargets, others⟩ :=
    exists_capital (by decide +kernel) paris
  have silent : (currentSlide [Block.text "Of Italy?"]).any Block.presents = false := by
    decide +kernel
  have alike : AnsweredAlike Float .empty outline.blocks second.blocks := by
    rw [blocks, others]
    have begun : AnsweredAlike Float .empty [.text "Of Italy?"] [.text "Of Italy?"] :=
      .concat .nil (.same _)
    exact begun.concat (.answers fun _ => silent ▸ kinds)
  refine ⟨compiled, again, compiles, compilesOther, correct, corrects, ?_⟩
  exact (compileWith_hidesAnswers compiles compilesOther (also.trans own.symm) (by rw [own]; rfl)
    ⟨outline, second, outlined, outlines, noTargets.trans targets.symm, alike⟩).1

end Capitals

end Compiled

end LectureDeck
