import LectureDeck.Proofs.Outline.Reads
import LectureDeck.Proofs.Page.Pages

/-!
# Options of presentation

A renderer asks for options wherever it writes: at answers, concepts, headings, regions, images and
at the ends of slides. Whatever it is told there, it keeps in step with a reader that knows of its
options only the pattern of hidden headings, the features and whether images are embedded
(`LectureDeck.render_eq`). Two renderers with options that agree on these
(`LectureDeck.Options.ReadsAs`) are thus in step with the same reader. A file compiled with one set
of options and with the other fails with the same error, or it yields the same but for its pages
(`LectureDeck.Compiled.compileWith_readsAs`).
-/

namespace LectureDeck

/-- Options that agree on all that reading asks for. They may differ in what is left out, in what is
numbered, and in the addresses of other pages. -/
structure Options.ReadsAs (options other : Options) : Prop where
  hide : other.hide = options.hide
  features : other.features = options.features
  embedImages : other.embedImages = options.embedImages

/-- The header of a file overrides options alike that agree. -/
theorem Options.ReadsAs.withDefaults {options other : Options} (reads : options.ReadsAs other)
    (defaults : Defaults) :
    (options.withDefaults defaults).ReadsAs (other.withDefaults defaults) where
  hide := congrArg defaults.hide.or reads.hide
  features := congrArg defaults.features.getD reads.features
  embedImages := reads.embedImages

/-- A run with other options and another way to mark up code. -/
def Environment.presenting (environment : Environment) (options : Options)
    (highlight : Highlighter) : Environment :=
  { environment with options := options, highlight := highlight }

/-- Options that agree on the hidden headings make environments alike, or fail alike. -/
theorem Environment.ofOptions_readsAs {W : Type} {options other : Options}
    (reads : options.ReadsAs other) (plugins : Plugins) (highlight marks : Highlighter)
    (images : ImageSource) :
    (ofOptions other plugins marks images : Except (CompileError W) Environment) =
      (ofOptions options plugins highlight images).map
        fun environment => environment.presenting other marks := by
  unfold ofOptions
  rw [reads.hide]
  cases readHide (W := W) options.hide <;> rfl

namespace Compiled

variable {W : Type} [Weight W]

/-- A file compiled in a run that is given by its options. -/
def compileWith (options : Options) (plugins : Plugins) (highlight : Highlighter)
    (images : ImageSource) (fileNumber : Nat) (name text : String) :
    Except (CompileError W) (Compiled W) := do
  compile (← Environment.ofOptions options plugins highlight images) fileNumber name text

/-- A file compiled twice: what is taught, graded and recorded is the same, and so is what there is
to warn of. -/
structure SameContent (compiled other : Compiled W) : Prop where
  model : other.model = compiled.model
  record : other.record = compiled.record
  occurrences : other.occurrences = compiled.occurrences
  warnings : other.warnings = compiled.warnings
  heads : other.heads = compiled.heads
  /-- There is a page for the same slides. -/
  pages : other.document.slides.map (fun page => (page.number, page.id)) =
    compiled.document.slides.map fun page => (page.number, page.id)

section Reading

variable {environment : Environment} {options : Options}

omit [Weight W] in
theorem findSetting_presenting (reads : environment.options.ReadsAs options)
    (highlight : Highlighter) (fileNumber : Nat) (name : String) (source : Source) :
    (findSetting (environment.presenting options highlight) fileNumber name source :
        Except (CompileError W) Setting) =
      findSetting environment fileNumber name source := by
  have agrees := reads.withDefaults (Defaults.parse (source.defaults.getD []))
  have same (hide : Option Pattern) (outline : Outline) :
      setting (environment.presenting options highlight) name fileNumber
          (options.withDefaults (Defaults.parse (source.defaults.getD []))) hide
            source.text outline =
        setting environment name fileNumber
          (environment.options.withDefaults (Defaults.parse (source.defaults.getD []))) hide
          source.text outline := by
    unfold setting
    rw [agrees.features, agrees.embedImages]
    rfl
  unfold findSetting
  dsimp only
  refine bind_congr fun hide => bind_congr fun outline => ?_
  exact congrArg pure (same _ outline)

/-- Files are read alike under options that agree on reading. -/
theorem read_presenting (reads : environment.options.ReadsAs options) (highlight : Highlighter)
    (fileNumber : Nat) (name : String) (source : Source) :
    (read (environment.presenting options highlight) fileNumber name source :
        Except (CompileError W) (Setting × Analysis W)) =
      read environment fileNumber name source := by
  unfold read
  rw [findSetting_presenting reads]

omit [Weight W] in
/-- Of an analysis, the options of presentation change nothing but the pages. -/
theorem sameContent_present (environment other : Environment) (fileNumber : Nat) (name : String)
    (source : Source) (reading : Setting × Analysis W) :
    SameContent (present environment fileNumber name source reading)
      (present other fileNumber name source reading) where
  model := rfl
  record := rfl
  occurrences := rfl
  warnings := rfl
  heads := rfl
  pages := by
    simp only [present, Document.resolve, Document.ofAnalysis, List.map_zipWith]
    rfl

end Reading

/-- **Options of presentation change nothing but pages.** A file compiled under two sets of options
that agree on reading fails with the same error, or it compiles under both, with the same model,
record, concepts and warnings. -/
theorem compileWith_readsAs {options other : Options} (reads : options.ReadsAs other)
    (plugins : Plugins) (highlight marks : Highlighter) (images : ImageSource) (fileNumber : Nat)
    (name text : String) :
    (∃ error : CompileError W,
      compileWith options plugins highlight images fileNumber name text = .error error ∧
        compileWith other plugins marks images fileNumber name text = .error error) ∨
    ∃ compiled again : Compiled W,
      compileWith options plugins highlight images fileNumber name text = .ok compiled ∧
        compileWith other plugins marks images fileNumber name text = .ok again ∧
        SameContent compiled again := by
  unfold compileWith
  rw [Environment.ofOptions_readsAs reads plugins highlight marks images]
  cases made : Environment.ofOptions (W := W) options plugins highlight images with
  | error error => exact .inl ⟨error, rfl, rfl⟩
  | ok environment =>
    have given : environment.options = options := by
      unfold Environment.ofOptions at made
      obtain ⟨hide, _, same⟩ := bind_eq_ok.1 made
      exact (congrArg Environment.options (pure_eq_ok.1 same)).symm
    -- Both environments are there, and the file is compiled in each.
    dsimp only [Except.map, bind, Except.bind]
    unfold compile
    rw [ofSource_eq, ofSource_eq, read_presenting (given ▸ reads)]
    cases read (W := W) environment fileNumber name (Source.ofText text.toList) with
    | error error => exact .inl ⟨error, rfl, rfl⟩
    | ok reading => exact .inr ⟨_, _, rfl, rfl, sameContent_present _ _ _ _ _ reading⟩

/-- Options that leave out what can be left out, number what can be numbered, and lead elsewhere. -/
def terse : Options where
  strip := ⟨true, true, true, true, true, true, true⟩
  number := true
  siteUrl := "https://site/"
  indexFile := "concepts.html"

/-- A question with its answer, concepts and notes. -/
def questionWithNotes : String := "Two?\n\nAnswer: 2; weight=3\n\nTags: sums\n\nNotes: easy\n"

/-- The same question is recorded whatever is shown of it. -/
theorem compileWith_readsAs_terse : ∃ compiled again : Compiled Float,
    compileWith {} .empty (fun _ _ => none) (fun _ _ _ => none) 1 "a" questionWithNotes =
        .ok compiled ∧
      compileWith terse .empty (fun _ _ => none) (fun _ _ _ => none) 1 "a" questionWithNotes =
        .ok again ∧
      SameContent compiled again ∧ again.model.questions.length = 1 ∧
      again.document ≠ compiled.document := by
  have seen : (read (W := Float) .plain 1 "a"
      (Source.ofText questionWithNotes.toList)).toOption.any (fun reading =>
        reading.2.model.questions.length = 1 ∧
        (present (Environment.plain.presenting terse fun _ _ => none) 1 "a"
            (Source.ofText questionWithNotes.toList) reading).document ≠
          (present .plain 1 "a" (Source.ofText questionWithNotes.toList) reading).document) =
        true := by
    unfold read findSetting
    rw [Outline.ofSource_eq_within 20 (by decide +kernel)]
    decide +kernel
  obtain ⟨⟨setting, analysis⟩, found, holds⟩ := exists_of_any seen
  obtain ⟨one, differs⟩ := of_decide_eq_true holds
  have reads : Options.ReadsAs {} terse := ⟨rfl, rfl, rfl⟩
  have compiles : compileWith {} .empty (fun _ _ => none) (fun _ _ _ => none) 1 "a"
      questionWithNotes = .ok (present .plain 1 "a" _ (setting, analysis)) :=
    ofSource_eq_ok_iff.2 ⟨setting, analysis, found, rfl⟩
  have compilesTerse : compileWith terse .empty (fun _ _ => none) (fun _ _ _ => none) 1 "a"
      questionWithNotes = .ok (present (Environment.plain.presenting terse fun _ _ => none) 1 "a" _
        (setting, analysis)) :=
    ofSource_eq_ok_iff.2 ⟨setting, analysis, (read_presenting reads _ 1 "a" _).trans found, rfl⟩
  rcases compileWith_readsAs (W := Float) reads .empty (fun _ _ => none) (fun _ _ => none)
    (fun _ _ _ => none) 1 "a" questionWithNotes with ⟨error, fails, _⟩ | ⟨_, _, before, now, same⟩
  · exact nomatch fails.symm.trans compiles
  · obtain rfl := Except.ok.inj (before.symm.trans compiles)
    obtain rfl := Except.ok.inj (now.symm.trans compilesTerse)
    exact ⟨_, _, compiles, compilesTerse, same, one, differs⟩

end Compiled

end LectureDeck
