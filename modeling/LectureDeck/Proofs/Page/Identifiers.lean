import LectureDeck.Proofs.Deck.Bearers
import LectureDeck.Proofs.Outline.Reads
import LectureDeck.Proofs.Page.Pages
import Mathlib.Data.List.Duplicate

/-!
# Identifiers of pages

The page of a file gives identifiers to the file, to its slides and to parts of them, in the order
in which they stand in the markup (`LectureDeck.Document.standIn_text`). They are different, but for
the questions to discuss: all those of a slide have the same identifier
(`LectureDeck.Compiled.compile_identifiers`).
-/

namespace LectureDeck

/-- Identifiers stand in markup, one after another. -/
def StandIn : List String → String → Prop
  | [], _ => True
  | id :: later, markup => ∃ before after,
      markup = before ++ (" id=\"" ++ id ++ "\"") ++ after ∧ StandIn later after

namespace StandIn

variable {ids more : List String} {markup rest : String}

theorem nil (markup : String) : StandIn [] markup := True.intro

theorem behind (before : String) (stand : StandIn ids markup) : StandIn ids (before ++ markup) := by
  cases ids with
  | nil => trivial
  | cons id later =>
    obtain ⟨first, after, rfl, later⟩ := stand
    exact ⟨before ++ first, after, by simp only [String.append_assoc], later⟩

theorem append (stand : StandIn ids markup) (others : StandIn more rest) :
    StandIn (ids ++ more) (markup ++ rest) := by
  induction ids generalizing markup with
  | nil => exact others.behind markup
  | cons id later step =>
    obtain ⟨before, after, rfl, stand⟩ := stand
    exact ⟨before, after ++ rest, by simp only [String.append_assoc], step stand⟩

/-- What stands in front of other markup stands in the whole. -/
theorem before (stand : StandIn ids markup) (rest : String) : StandIn ids (markup ++ rest) := by
  have whole := stand.append (.nil rest)
  rwa [List.append_nil] at whole

theorem single {id : String} (before after : String)
    (same : markup = before ++ (" id=\"" ++ id ++ "\"") ++ after) : StandIn [id] markup :=
  ⟨before, after, same, trivial⟩

variable {α : Type} {given : α → List String} {text : α → String}

theorem join (stand : ∀ item, StandIn (given item) (text item)) (items : List α) :
    StandIn (items.flatMap given) (String.join (items.map text)) := by
  induction items with
  | nil => exact .nil _
  | cons item rest later =>
    rw [List.flatMap_cons, List.map_cons, String.join_cons]
    exact (stand item).append later

theorem intercalate (stand : ∀ item, StandIn (given item) (text item)) (separator : String)
    (items : List α) :
    StandIn (items.flatMap given) (separator.intercalate (items.map text)) := by
  induction items with
  | nil => exact .nil _
  | cons item rest later =>
    cases rest with
    | nil => simpa using stand item
    | cons next rest =>
      rw [List.flatMap_cons, List.map_cons, List.map_cons, String.intercalate_cons_cons,
        String.append_assoc]
      exact (stand item).append (later.behind separator)

end StandIn

theorem Element.standIn_opening (strip : Strip) (element : Element) :
    StandIn (element.mark?.map Mark.id).toList (element.opening strip) := by
  cases element with
  | heading level id number =>
    cases id with
    | none => exact .nil _
    | some id =>
      change StandIn [id] ("<h" ++ Decimal.naturalText level ++ (" id=\"" ++ id ++ "\"") ++ ">" ++
        number.text strip)
      refine .before (.before ?_ ">") (number.text strip)
      exact .single ("<h" ++ Decimal.naturalText level) "" String.append_empty.symm
  | discussion slideId =>
    change StandIn [slideId ++ "-discuss"]
      ("<div id=\"" ++ slideId ++ "-discuss\" class=\"slidoc-discuss\">")
    refine .single "<div" " class=\"slidoc-discuss\">" ?_
    simp [← String.toList_inj]
  | region kind id =>
    change StandIn [id] ("<!--slidoc-" ++ kind.name ++ "-block-begin[" ++ id ++ "]--><div id=\"" ++
      id ++ "\" class=\"slidoc-" ++ kind.name ++ " " ++ id ++ "\">\n")
    refine .single ("<!--slidoc-" ++ kind.name ++ "-block-begin[" ++ id ++ "]--><div")
      (" class=\"slidoc-" ++ kind.name ++ " " ++ id ++ "\">\n") ?_
    simp [← String.toList_inj]
  | _ => exact .nil _

/-- An identifier stands where a piece gives it. -/
theorem Piece.standIn_text (options : Options) (highlight : Highlighter)
    (label : String → Option String) (piece : Piece) :
    StandIn (piece.mark?.map Mark.id).toList
      ((piece.fragment options highlight).resolve label).text := by
  cases piece with
  | opening element => exact element.standIn_opening options.strip
  | anchor id kind content ordinal =>
    change StandIn [id] (anchorMarkup id kind content ordinal)
    refine .before (.before (.before (.before ?_ _) _) _) _
    refine .single "<span" (" class=\"slidoc-ref slidoc-ref-" ++ kind.word ++ "\">") ?_
    simp [← String.toList_inj]
  | answer slideId keyword correct =>
    change StandIn [slideId ++ "-answer"] (answerMarkup options.strip slideId keyword correct)
    refine .before (.before (.before (.before ?_ _) _) _) _
    refine .single "<div" " class=\"slidoc-answer\" data-qtype=\"" ?_
    simp [← String.toList_inj]
  | plugin slideId name top body button =>
    change StandIn [slideId ++ "-plugin-" ++ name]
      (pluginMarkup slideId name (top ++ body ++ button))
    refine .before (.before (.before (.before ?_ _) _) _) _
    refine .single "<div" " class=\"slidoc-plugin slidoc-plugin-" ?_
    simp [← String.toList_inj]
  | _ => exact .nil _

/-- The identifiers that a page shows of a script. -/
def Script.shownMarks (strip : Strip) (script : List Entry) : List Mark :=
  (shown strip script).filterMap Piece.mark?

theorem Script.shownMarks_sublist (strip : Strip) (script : List Entry) :
    (shownMarks strip script).Sublist (marks script) :=
  (List.filter_sublist.map _).filterMap _

/-- The identifiers on the page of a slide, which begins with its own. -/
def Slide.ids (strip : Strip) (slide : Slide) (script : List Entry) : List String :=
  slide.id :: (Script.shownMarks strip script).map Mark.id

/-- The identifiers on the page of a file, which begins with its own. -/
def FileModel.ids {W : Type} (model : FileModel W) (strip : Strip) (scripts : List (List Entry)) :
    List String :=
  model.chapterId :: (model.slides.zip scripts).flatMap fun page => page.1.ids strip page.2

theorem SlidePage.standIn_text (options : Options) (highlight : Highlighter)
    (label : String → Option String) (chapterId : String) (fileNumber : Nat) (slide : Slide)
    (script : List Entry) :
    StandIn (slide.ids options.strip script)
      (((ofScript options highlight fileNumber slide script).resolve label).text chapterId) := by
  have pieces := StandIn.join (Piece.standIn_text options highlight label)
    (Script.shown options.strip script)
  rw [← List.filterMap_eq_flatMap_toList, ← List.map_filterMap] at pieces
  have fragments : ((ofScript options highlight fileNumber slide script).resolve
      label).fragments.map Fragment.text =
        (SlidePage.title options fileNumber slide).map Fragment.text ++
          (Script.shown options.strip script).map fun piece =>
            ((piece.fragment options highlight).resolve label).text := by
    rw [← Document.resolve_title label]
    simp only [ofScript, SlidePage.resolve, SlidePage.title, Script.shown, List.map_append,
      List.map_map]
    rfl
  have own : StandIn [slide.id]
      ("<div id=\"" ++ slide.id ++ "\" class=\"slidoc-slide " ++ chapterId ++ "-slide\">\n") := by
    refine .single "<div" (" class=\"slidoc-slide " ++ chapterId ++ "-slide\">\n") ?_
    simp [← String.toList_inj]
  change StandIn ([slide.id] ++ _) ("<div id=\"" ++ slide.id ++ "\" class=\"slidoc-slide " ++
    chapterId ++ "-slide\">\n" ++ String.join (SlidePage.fragments _ |>.map Fragment.text) ++
      "</div>\n")
  rw [fragments, String.join_append]
  exact .before (own.append (pieces.behind _)) _

/-- **Identifiers stand on a page in order.** -/
theorem Document.standIn_text {W : Type} (options : Options) (highlight : Highlighter)
    (analysis : Analysis W) :
    StandIn (analysis.model.ids options.strip analysis.scripts)
      ((ofAnalysis options highlight analysis).resolve analysis.model.label?).text := by
  have own : StandIn [analysis.model.chapterId]
      ("<div id=\"" ++ analysis.model.chapterId ++ "\" class=\"slidoc-container\">\n") := by
    refine .single "<div" " class=\"slidoc-container\">\n" ?_
    simp [← String.toList_inj]
  have pages := StandIn.intercalate (fun page : Slide × List Entry =>
      SlidePage.standIn_text options highlight analysis.model.label? analysis.model.chapterId
        analysis.model.fileNumber page.1 page.2)
    (ofAnalysis options highlight analysis).separator (analysis.model.slides.zip analysis.scripts)
  have slides : ((ofAnalysis options highlight analysis).resolve analysis.model.label?).slides.map
      (SlidePage.text analysis.model.chapterId) =
        (analysis.model.slides.zip analysis.scripts).map fun page =>
          ((SlidePage.ofScript options highlight analysis.model.fileNumber page.1 page.2).resolve
            analysis.model.label?).text analysis.model.chapterId := by
    rw [List.map_zip_eq_zipWith]
    simp only [resolve, ofAnalysis, List.map_zipWith]
    rfl
  rw [← slides] at pages
  exact .before (own.append pages) _

section Repetition

variable {file : Nat} {strip : Strip} {slide other : Slide} {script another : List Entry}

/-- The number of questions to discuss that a page shows of a script. -/
def Script.discussions (strip : Strip) (script : List Entry) : Nat :=
  (shownMarks strip script).countP Mark.isDiscussion

theorem Bearer.id_of_isDiscussion {bearer : Bearer} {number : Nat}
    (discusses : bearer.isDiscussion = true) (on : bearer.IsOn number) :
    bearer.id file = slideId file number ++ "-discuss" := by
  cases bearer with
  | onSlide place part =>
    obtain rfl : place = number := on
    cases part with
    | discussion => rfl
    | _ => contradiction
  | reference slug => contradiction

theorem Bearer.number_eq {bearer : Bearer} {first second : Nat}
    (discusses : bearer.isDiscussion = true) (on : bearer.IsOn first) (also : bearer.IsOn second) :
    first = second := by
  cases bearer with
  | onSlide number part => exact on.symm.trans also
  | reference slug => contradiction

/-- What is shown of a slide that has an identifier. -/
theorem Slide.Names.mem_ids (names : slide.Names file script) {id : String}
    (member : id ∈ slide.ids strip script) : id = slideId file slide.number ∨
      ∃ bearer : Bearer, bearer.IsOn slide.number ∧ id = bearer.id file ∧
        bearer.mark file ∈ Script.marks script := by
  rcases List.mem_cons.1 member with rfl | member
  · exact .inl names.id
  · obtain ⟨mark, shown, rfl⟩ := List.mem_map.1 member
    have shown := (Script.shownMarks_sublist strip script).subset shown
    obtain ⟨bearer, on, rfl⟩ := names.marks mark shown
    exact .inr ⟨bearer, on, rfl, shown⟩

/-- The file has an identifier of its own. -/
theorem Slide.Names.chapterId_ne (names : slide.Names file script) {id : String}
    (member : id ∈ slide.ids strip script) : chapterId file ≠ id := by
  rcases names.mem_ids member with rfl | ⟨bearer, -, rfl, -⟩
  · exact chapterId_ne_append
  · exact Bearer.chapterId_ne_id

/-- Two slides have no identifier in common. -/
theorem Slide.Names.disjoint (names : slide.Names file script) (others : other.Names file another)
    (different : slide.number ≠ other.number)
    (apart : ∀ mark ∈ Script.marks script, ∀ next ∈ Script.marks another, mark.Apart next) :
    ∀ id ∈ slide.ids strip script, ∀ next ∈ other.ids strip another, id ≠ next := by
  rintro id here next there same
  rcases names.mem_ids here with rfl | ⟨bearer, on, rfl, marked⟩
  · rcases others.mem_ids there with rfl | ⟨bearer, -, rfl, -⟩
    · exact different (slideId_inj.1 same).2
    · exact Bearer.slideId_ne_id same
  · rcases others.mem_ids there with rfl | ⟨next, also, rfl, remarked⟩
    · exact Bearer.slideId_ne_id same.symm
    · obtain ⟨discusses, equal⟩ := apart _ marked _ remarked same
      cases Bearer.mark_injective file equal
      exact different (Bearer.number_eq discusses on also)

/-- On the page of a slide only the identifier of the questions to discuss may be repeated. -/
theorem Slide.Names.pairwise_ids (names : slide.Names file script)
    (apart : (Script.marks script).Pairwise Mark.Apart) :
    (slide.ids strip script).Pairwise fun id next => id = next →
      id = slide.id ++ "-discuss" ∧ 2 ≤ Script.discussions strip script := by
  have shown := Script.shownMarks_sublist strip script
  refine List.pairwise_cons.2 ⟨fun id member same => ?_, List.pairwise_map.2 ?_⟩
  · obtain ⟨mark, marked, rfl⟩ := List.mem_map.1 member
    obtain ⟨bearer, -, rfl⟩ := names.marks mark (shown.subset marked)
    exact absurd (names.id.symm.trans same) Bearer.slideId_ne_id
  · refine List.pairwise_iff_forall_sublist.2 fun {mark next} both same => ?_
    obtain ⟨discusses, rfl⟩ :=
      List.pairwise_iff_forall_sublist.1 (apart.sublist shown) both same
    obtain ⟨bearer, on, rfl⟩ := names.marks next (shown.subset (both.subset List.mem_cons_self))
    refine ⟨?_, ?_⟩
    · rw [names.id]
      exact Bearer.id_of_isDiscussion discusses on
    · have two := both.countP_le (p := Mark.isDiscussion)
      rw [Script.discussions]
      simpa [discusses] using two

/-- All questions to discuss on a slide have one identifier. -/
theorem Slide.Names.discussions_le_count (names : slide.Names file script) :
    Script.discussions strip script ≤ (slide.ids strip script).count (slide.id ++ "-discuss") := by
  refine (?_ : _ ≤ ((Script.shownMarks strip script).map Mark.id).count _).trans
    ((List.sublist_cons_self _ _).count_le _)
  rw [List.count, List.countP_map]
  refine List.countP_mono_left fun mark marked discusses => ?_
  obtain ⟨bearer, on, rfl⟩ :=
    names.marks mark ((Script.shownMarks_sublist strip script).subset marked)
  have id : bearer.id file = slide.id ++ "-discuss" := by
    rw [names.id]
    exact Bearer.id_of_isDiscussion discusses on
  simpa [Bearer.mark] using id

/-- The slides of a page differ, and what they give identifiers to. -/
theorem pairwise_pages {slides : List Slide} {scripts : List (List Entry)}
    (lengths : slides.length = scripts.length) (numbers : (slides.map Slide.number).Nodup)
    (apart : (scripts.flatMap Script.marks).Pairwise Mark.Apart) :
    (slides.zip scripts).Pairwise fun page next => page.1.number ≠ next.1.number ∧
      ∀ mark ∈ Script.marks page.2, ∀ other ∈ Script.marks next.2, mark.Apart other := by
  have slides := List.map_fst_zip (Nat.le_of_eq lengths)
  have scripts := List.map_snd_zip (Nat.le_of_eq lengths.symm)
  have apart := (List.pairwise_flatMap.1 apart).2
  rw [← slides] at numbers
  rw [← scripts] at apart
  exact (List.pairwise_map.1 (List.pairwise_map.1 numbers)).and (List.pairwise_map.1 apart)

/-- **Only the identifiers of questions to discuss are repeated.** They are if a slide shows more
than one. -/
theorem duplicate_ids_iff {W : Type} {model : FileModel W} {scripts : List (List Entry)}
    (own : model.chapterId = chapterId file)
    (names : List.Forall₂ (Slide.Names file) model.slides scripts)
    (numbers : (model.slides.map Slide.number).Nodup)
    (apart : (scripts.flatMap Script.marks).Pairwise Mark.Apart) {id : String} :
    List.Duplicate id (model.ids strip scripts) ↔ ∃ page ∈ model.slides.zip scripts,
      id = page.1.id ++ "-discuss" ∧ 2 ≤ Script.discussions strip page.2 := by
  have named {page : Slide × List Entry} (found : page ∈ model.slides.zip scripts) :
      page.1.Names file page.2 := List.forall₂_zip names found
  have pages := pairwise_pages names.length_eq numbers apart
  constructor
  · intro twice
    have repeats : (model.ids strip scripts).Pairwise fun id next => id = next →
        ∃ page ∈ model.slides.zip scripts,
          id = page.1.id ++ "-discuss" ∧ 2 ≤ Script.discussions strip page.2 := by
      refine List.pairwise_cons.2 ⟨?_, List.pairwise_flatMap.2 ⟨?_, ?_⟩⟩
      · intro id member same
        obtain ⟨page, found, member⟩ := List.mem_flatMap.1 member
        exact absurd (own.symm.trans same) ((named found).chapterId_ne member)
      · intro page found
        have within := (List.pairwise_flatMap.1 apart).1 page.2 (List.of_mem_zip found).2
        exact ((named found).pairwise_ids within).imp fun same equal => ⟨page, found, same equal⟩
      · refine pages.imp_of_mem fun found also ⟨different, apart⟩ id here next there same => ?_
        exact absurd same ((named found).disjoint (named also) different apart id here next there)
    exact List.pairwise_iff_forall_sublist.1 repeats (List.duplicate_iff_sublist.1 twice) rfl
  · rintro ⟨page, found, rfl, two⟩
    have slide : (page.1.ids strip page.2).Sublist (model.ids strip scripts) := by
      rw [FileModel.ids, List.flatMap_def]
      refine .cons _ (List.sublist_flatten_of_mem ?_)
      exact List.mem_map.2 ⟨page, found, rfl⟩
    exact List.duplicate_iff_two_le_count.2
      (two.trans ((named found).discussions_le_count.trans (slide.count_le _)))

end Repetition

namespace Compiled

variable {W : Type} [Weight W] {environment : Environment} {fileNumber : Nat} {name text : String}
  {compiled : Compiled W}

/-- A file whose page identifies what stands on it, but for questions to discuss. -/
structure IsIdentified (compiled : Compiled W) (analysis : Analysis W) : Prop where
  /-- All identifiers stand on the page, in order. -/
  stand : StandIn (compiled.model.ids compiled.options.strip analysis.scripts) compiled.page
  /-- An identifier is repeated if and only if it is that of several questions to discuss on a
  slide. -/
  repeated : ∀ id,
    List.Duplicate id (compiled.model.ids compiled.options.strip analysis.scripts) ↔
      ∃ page ∈ compiled.model.slides.zip analysis.scripts, id = page.1.id ++ "-discuss" ∧
        2 ≤ Script.discussions compiled.options.strip page.2
  distinct : (compiled.model.ids compiled.options.strip analysis.scripts).Nodup ↔
    ∀ page ∈ compiled.model.slides.zip analysis.scripts,
      Script.discussions compiled.options.strip page.2 ≤ 1

/-- **Identifiers.** When a file compiles, the identifiers of the file, its slides, their regions,
hints, answers and plugins, and of headings and anchors stand on its page, and no two of them are
the same. Only that of the questions to discuss on a slide is repeated, as often as the slide shows
one. -/
theorem compile_identifiers (compiles : compile environment fileNumber name text = .ok compiled) :
    ∃ setting analysis,
      read environment fileNumber name (Source.ofText text.toList) = .ok (setting, analysis) ∧
        compiled.Presents environment analysis ∧ compiled.IsIdentified analysis := by
  obtain ⟨setting, analysis, found, rfl⟩ := ofSource_eq_ok_iff.1 compiles
  obtain ⟨draft, _, reads, rfl⟩ := exists_readFile_of_read found
  have bearers := Draft.hasBearers_of_readFile reads
  have apart := bearers.sound.apart
  rw [Naming.start, List.append_nil] at apart
  have numbers : (draft.file.slides.map Slide.number).Nodup := by
    rw [(Draft.hasSlides_of_readFile reads).slides.numbers]
    exact List.nodup_range'
  have repeated {strip : Strip} {id : String} : List.Duplicate id
      ((Analysis.ofDraft setting draft.file).model.ids strip draft.file.scripts) ↔ _ :=
    duplicate_ids_iff rfl bearers.slides numbers apart
  refine ⟨setting, _, found, presents_of_read found, ⟨?_, fun _ => repeated, ?_⟩⟩
  · exact (Document.standIn_text _ _ _).behind _
  · rw [List.nodup_iff_forall_not_duplicate]
    constructor
    · intro none page found
      by_contra several
      exact none _ (repeated.2 ⟨page, found, rfl, Nat.lt_of_not_le several⟩)
    · intro few id twice
      obtain ⟨page, found, -, two⟩ := repeated.1 twice
      exact absurd (few page found) (Nat.not_le.2 two)

/-- A question with its answer, its discussion, a hint and notes. -/
def questionDiscussed : String :=
  "# One\n\nWhat?\n\nAnswer: 2\n\nDiscuss: why\n\nHint: 10%\n\nNotes:\n"

theorem compile_identifiers_questionDiscussed : ∃ compiled : Compiled Float,
    compile .plain 1 "a" questionDiscussed = .ok compiled ∧ ∃ analysis,
      compiled.IsIdentified analysis ∧
        compiled.model.ids compiled.options.strip analysis.scripts = ["slidoc01", "slidoc01-01",
          "slidoc-ref-one", "slidoc01-01-answer", "slidoc01-01-discuss", "slidoc01-01-hint-1",
          "slidoc01-01-notes"] := by
  have seen : (read (W := Float) .plain 1 "a"
      (Source.ofText questionDiscussed.toList)).toOption.any (fun reading =>
        let compiled := present .plain 1 "a" (Source.ofText questionDiscussed.toList) reading
        compiled.model.ids compiled.options.strip reading.2.scripts = ["slidoc01", "slidoc01-01",
          "slidoc-ref-one", "slidoc01-01-answer", "slidoc01-01-discuss", "slidoc01-01-hint-1",
          "slidoc01-01-notes"]) = true := by
    unfold read findSetting
    rw [Outline.ofSource_eq_within 20 (by decide +kernel)]
    decide +kernel
  obtain ⟨⟨setting, analysis⟩, found, holds⟩ := exists_of_any seen
  have compiles : compile .plain 1 "a" questionDiscussed =
      .ok (present .plain 1 "a" _ (setting, analysis)) :=
    ofSource_eq_ok_iff.2 ⟨setting, analysis, found, rfl⟩
  obtain ⟨_, _, again, _, identified⟩ := compile_identifiers compiles
  obtain ⟨rfl, rfl⟩ := Prod.mk.inj (Except.ok.inj (again.symm.trans found))
  exact ⟨_, compiles, _, identified, of_decide_eq_true holds⟩

/-- Two questions to discuss on one slide. -/
def twoDiscussions : String := "Discuss: one\n\nDiscuss: two\n"

/-- Two questions to discuss on one slide have the same identifier. -/
theorem exists_repeated_identifier : ∃ compiled : Compiled Float,
    compile .plain 1 "a" twoDiscussions = .ok compiled ∧
      (∃ analysis, compiled.Presents .plain analysis ∧
        compiled.model.ids compiled.options.strip analysis.scripts =
          ["slidoc01", "slidoc01-01", "slidoc01-01-discuss", "slidoc01-01-discuss"] ∧
        ¬ (compiled.model.ids compiled.options.strip analysis.scripts).Nodup) ∧
      compiled.page = "<div id=\"slidoc01\" class=\"slidoc-container\">\n" ++
        "<div id=\"slidoc01-01\" class=\"slidoc-slide slidoc01-slide\">\n" ++
        "<div id=\"slidoc01-01-discuss\" class=\"slidoc-discuss\">one</div>\n" ++
        "<div id=\"slidoc01-01-discuss\" class=\"slidoc-discuss\">two</div>\n</div>\n</div>\n" := by
  have seen : (read (W := Float) .plain 1 "a"
      (Source.ofText twoDiscussions.toList)).toOption.any (fun reading =>
        let compiled := present .plain 1 "a" (Source.ofText twoDiscussions.toList) reading
        compiled.model.ids compiled.options.strip reading.2.scripts =
          ["slidoc01", "slidoc01-01", "slidoc01-01-discuss", "slidoc01-01-discuss"] ∧
        compiled.page = "<div id=\"slidoc01\" class=\"slidoc-container\">\n" ++
          "<div id=\"slidoc01-01\" class=\"slidoc-slide slidoc01-slide\">\n" ++
          "<div id=\"slidoc01-01-discuss\" class=\"slidoc-discuss\">one</div>\n" ++
          "<div id=\"slidoc01-01-discuss\" class=\"slidoc-discuss\">two</div>\n</div>\n</div>\n") =
            true := by
    unfold read findSetting
    rw [Outline.ofSource_eq_within 20 (by decide +kernel)]
    decide +kernel
  obtain ⟨⟨setting, analysis⟩, found, holds⟩ := exists_of_any seen
  obtain ⟨ids, page⟩ := of_decide_eq_true holds
  refine ⟨_, ofSource_eq_ok_iff.2 ⟨setting, analysis, found, rfl⟩,
    ⟨analysis, presents_of_read found, ids, ?_⟩, page⟩
  rw [ids]
  decide

end Compiled

end LectureDeck
