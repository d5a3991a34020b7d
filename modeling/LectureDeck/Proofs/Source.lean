import LectureDeck.Deck.Compile
import Mathlib.Data.List.Chain

/-!
# Lines of sources

A text is written in lines, each with a line break of one of three kinds. How lines are broken does
not matter to the source that is read of a text: it has the lines of the text, in order, but for the
annotations (`LectureDeck.Source.text_ofText`). So a source that is read and written out is read as
the same source again, and compiled and verified like the text that it was read of
(`LectureDeck.Source.readsPlainly`).
-/

namespace LectureDeck

open LectureDeck.Text

/-- What ends a line of a text. -/
inductive LineBreak where
  | lineFeed
  | carriageReturn
  /-- A carriage return and a line feed. -/
  | pair
deriving DecidableEq, Repr

def LineBreak.chars : LineBreak → List Char
  | lineFeed => ['\n']
  | carriageReturn => ['\r']
  | pair => ['\r', '\n']

/-- A line of a text and what ends it. -/
structure Line where
  body : List Char
  ending : LineBreak
deriving DecidableEq, Repr

/-- A text as it is written: its lines, and what follows the last line break. -/
structure LineLayout where
  lines : List Line
  last : List Char
deriving DecidableEq, Repr

/-- An indentation of at most three spaces, and the word that begins an annotation. -/
def IsAnnotation (body : List Char) : Prop :=
  ∃ indent ≤ 3, ∃ rest, body = List.replicate indent ' ' ++ "Annotation:".toList ++ rest

namespace Source

/-- The word of an annotation follows the spaces of its line. -/
theorem isAuthorNote_iff {line : List Char} : isAuthorNote line = true ↔ IsAnnotation line := by
  rw [isAuthorNote, Option.isSome_iff_exists]
  simp only [Option.bind_eq_some_iff, indent?, literal?, after?_eq_some_iff]
  constructor
  · rintro ⟨rest, after, indented, same⟩
    split at indented
    · rename_i few
      cases indented
      have spaces : line.takeWhile (· == ' ') =
          List.replicate (line.takeWhile (· == ' ')).length ' ' := by
        refine List.eq_replicate_of_mem fun c member => ?_
        exact beq_iff_eq.1 (List.all_eq_true.1 List.all_takeWhile c member)
      refine ⟨_, few, rest, ?_⟩
      rw [← spaces, List.append_assoc, ← same, List.takeWhile_append_dropWhile]
    · contradiction
  · rintro ⟨indent, few, rest, rfl⟩
    have spaces : (List.replicate indent ' ' ++ "Annotation:".toList ++ rest).takeWhile (· == ' ') =
        List.replicate indent ' ' := by
      rw [List.append_assoc, List.takeWhile_append_of_pos (by simp)]
      exact List.append_nil _
    refine ⟨rest, "Annotation:".toList ++ rest, ?_, rfl⟩
    rw [spaces, List.length_replicate, if_pos few, List.append_assoc,
      List.dropWhile_append_of_pos (by simp)]
    rfl

end Source

instance (body : List Char) : Decidable ( IsAnnotation body) :=
  decidable_of_iff _ Source.isAuthorNote_iff

/-- The break of a line is not part of an annotation. -/
theorem isAnnotation_append_break {body : List Char} :
    IsAnnotation (body ++ ['\n']) ↔ IsAnnotation body := by
  constructor
  · rintro ⟨indent, few, rest, same⟩
    rcases List.eq_nil_or_concat rest with rfl | ⟨rest, last, rfl⟩
    · have last := congrArg List.getLast? same
      simp at last
    · rw [List.concat_eq_append, ← List.append_assoc] at same
      exact ⟨indent, few, rest, (List.append_inj' same rfl).1⟩
  · rintro ⟨indent, few, rest, rfl⟩
    exact ⟨indent, few, rest ++ ['\n'], List.append_assoc ..⟩

/-- No line break stands in a text. -/
def IsUnbroken (body : List Char) : Prop := '\n' ∉ body ∧ '\r' ∉ body

namespace LineLayout

/-- The text that is written in lines. -/
def text (layout : LineLayout) : List Char :=
  layout.lines.flatMap (fun line => line.body ++ line.ending.chars) ++ layout.last

/-- Each break is one: none stands in a line, and a carriage return is not followed by a line feed
of its own. -/
structure IsProper (layout : LineLayout) : Prop where
  bodies : ∀ line ∈ layout.lines, IsUnbroken line.body
  last : IsUnbroken layout.last
  apart : layout.lines.IsChain fun line next =>
    line.ending = .carriageReturn → ¬ (next.body = [] ∧ next.ending = .lineFeed)

/-- All lines broken in one way. -/
def broken (ending : LineBreak) (layout : LineLayout) : LineLayout :=
  { layout with lines := layout.lines.map fun line => { line with ending := ending } }

/-- The lines that are no annotations. -/
def kept (layout : LineLayout) : LineLayout where
  lines := layout.lines.filter fun line => ¬ IsAnnotation line.body
  last := if IsAnnotation layout.last then [] else layout.last

variable {layout : LineLayout}

theorem text_cons (line : Line) (lines : List Line) (last : List Char) :
    (⟨line :: lines, last⟩ : LineLayout).text =
      line.body ++ (line.ending.chars ++ (⟨lines, last⟩ : LineLayout).text) := by
  simp [text]

/-- The first line of a text is unbroken, and after a carriage return no line feed begins the
rest. -/
theorem isProper_cons {line : Line} {lines : List Line} {last : List Char} :
    (⟨line :: lines, last⟩ : LineLayout).IsProper ↔ IsUnbroken line.body ∧
      (line.ending = .carriageReturn →
        ∀ rest, (⟨lines, last⟩ : LineLayout).text ≠ '\n' :: rest) ∧
      (⟨lines, last⟩ : LineLayout).IsProper := by
  constructor
  · intro proper
    obtain ⟨first, bodies⟩ := List.forall_mem_cons.1 proper.bodies
    have unbroken := proper.last
    refine ⟨first, fun returns rest same => ?_, bodies, unbroken, proper.apart.tail⟩
    cases lines with
    | nil =>
      have same : last = '\n' :: rest := same
      exact unbroken.1 (same ▸ List.mem_cons_self)
    | cons next others =>
      have apart := (List.isChain_cons_cons.1 proper.apart).1 returns
      rw [text_cons] at same
      cases body : next.body with
      | cons c body' =>
        rw [body, List.cons_append, List.cons.injEq] at same
        have found : '\n' ∈ next.body := by rw [body, same.1]; exact List.mem_cons_self
        exact (bodies next List.mem_cons_self).1 found
      | nil =>
        rw [body, List.nil_append] at same
        cases ending : next.ending with
        | lineFeed => exact apart ⟨body, ending⟩
        | carriageReturn => simp [ending, LineBreak.chars] at same
        | pair => simp [ending, LineBreak.chars] at same
  · rintro ⟨first, apart, proper⟩
    refine ⟨List.forall_mem_cons.2 ⟨first, proper.bodies⟩, proper.last,
      List.isChain_cons.2 ⟨fun next member returns feeds => ?_, proper.apart⟩⟩
    obtain ⟨others, rfl⟩ := List.head?_eq_some_iff.1 member
    refine apart returns (⟨others, last⟩ : LineLayout).text ?_
    rw [text_cons, feeds.1, feeds.2]
    rfl

/-- Every text is written in lines. -/
theorem exists_layout (text : List Char) :
    ∃ layout : LineLayout, layout.IsProper ∧ layout.text = text := by
  fun_induction Source.plainBreaks text with
  | case1 => exact ⟨⟨[], []⟩, ⟨by simp, by simp [IsUnbroken], .nil⟩, rfl⟩
  | case2 rest later =>
    obtain ⟨⟨lines, last⟩, proper, rfl⟩ := later
    exact ⟨⟨⟨[], .pair⟩ :: lines, last⟩,
      isProper_cons.2 ⟨by simp [IsUnbroken], nofun, proper⟩, text_cons _ _ _⟩
  | case3 c rest single later =>
    obtain ⟨⟨lines, last⟩, proper, rfl⟩ := later
    by_cases feeds : c = '\n'
    · subst feeds
      exact ⟨⟨⟨[], .lineFeed⟩ :: lines, last⟩,
        isProper_cons.2 ⟨by simp [IsUnbroken], nofun, proper⟩, text_cons _ _ _⟩
    by_cases returns : c = '\r'
    · subst returns
      exact ⟨⟨⟨[], .carriageReturn⟩ :: lines, last⟩, isProper_cons.2
        ⟨by simp [IsUnbroken], fun _ rest same => single rest rfl same, proper⟩, text_cons _ _ _⟩
    -- Any other character stands in the first line.
    have unbroken {body : List Char} (plain : IsUnbroken body) : IsUnbroken (c :: body) := by
      simpa [IsUnbroken, Ne.symm feeds, Ne.symm returns] using plain
    cases lines with
    | nil => exact ⟨⟨[], c :: last⟩, ⟨proper.bodies, unbroken proper.last, .nil⟩, rfl⟩
    | cons line lines =>
      obtain ⟨first, apart, proper⟩ := isProper_cons.1 proper
      refine ⟨⟨⟨c :: line.body, line.ending⟩ :: lines, last⟩,
        isProper_cons.2 ⟨unbroken first, apart, proper⟩, ?_⟩
      rw [text_cons, text_cons, List.cons_append]

/-- Lines that are broken in one way are not run together, whichever it is. -/
theorem isProper_broken (bodies : ∀ line ∈ layout.lines, IsUnbroken line.body)
    (last : IsUnbroken layout.last) (ending : LineBreak) : (layout.broken ending).IsProper where
  bodies := List.forall_mem_map.2 bodies
  last := last
  apart := by
    refine (List.pairwise_map.2 (List.pairwise_of_forall fun line next => ?_)).isChain
    exact fun returns feeds => absurd (returns.symm.trans feeds.2) nofun

/-- The lines that are kept, broken in one way. -/
theorem IsProper.kept (proper : layout.IsProper) (ending : LineBreak) :
    (layout.kept.broken ending).IsProper := by
  refine isProper_broken ?_ ?_ ending
  · exact fun line member => proper.bodies line (List.mem_filter.1 member).1
  · unfold LineLayout.kept
    dsimp only
    split
    · exact ⟨List.not_mem_nil, List.not_mem_nil⟩
    · exact proper.last

end LineLayout

namespace Source

theorem plainBreaks_append {body : List Char} (unbroken : '\r' ∉ body) (rest : List Char) :
    plainBreaks (body ++ rest) = body ++ plainBreaks rest := by
  induction body with
  | nil => rfl
  | cons c body later =>
    obtain ⟨other, unbroken⟩ := not_or.1 (List.mem_cons.not.1 unbroken)
    rw [List.cons_append, plainBreaks, if_neg (Ne.symm other), later unbroken, List.cons_append]
    rintro _ rfl
    exact fun _ => other rfl

/-- Any line break becomes a plain one. -/
theorem plainBreaks_break {ending : LineBreak} {rest : List Char}
    (apart : ending = .carriageReturn → ∀ after, rest ≠ '\n' :: after) :
    plainBreaks (ending.chars ++ rest) = '\n' :: plainBreaks rest := by
  cases ending with
  | lineFeed => exact plainBreaks.eq_3 '\n' rest nofun
  | carriageReturn => exact plainBreaks.eq_3 '\r' rest fun after _ => apart rfl after
  | pair => exact plainBreaks.eq_2 rest

/-- Plain line breaks are those of the same lines. -/
theorem plainBreaks_text {layout : LineLayout} (proper : layout.IsProper) :
    plainBreaks layout.text = (layout.broken .lineFeed).text := by
  obtain ⟨lines, last⟩ := layout
  induction lines with
  | nil =>
    have plain := plainBreaks_append proper.last.2 []
    rw [List.append_nil, plainBreaks, List.append_nil] at plain
    exact plain
  | cons line lines later =>
    obtain ⟨unbroken, apart, proper⟩ := LineLayout.isProper_cons.1 proper
    have later := later proper
    rw [LineLayout.text_cons, plainBreaks_append unbroken.2]
    refine Eq.trans (congrArg (line.body ++ ·) ?_)
      (LineLayout.text_cons { line with ending := .lineFeed } _ _).symm
    rw [plainBreaks_break apart, later]
    rfl

theorem lines_append_cons {body : List Char} (unbroken : '\n' ∉ body) (rest : List Char) :
    lines (body ++ '\n' :: rest) = (body ++ ['\n']) :: lines rest := by
  induction body with
  | nil => rw [List.nil_append, lines, if_pos rfl, List.nil_append]
  | cons c body later =>
    obtain ⟨other, unbroken⟩ := not_or.1 (List.mem_cons.not.1 unbroken)
    rw [List.cons_append, lines, if_neg (Ne.symm other), later unbroken, List.cons_append]

/-- The lines of a text with plain line breaks are those it is written in. -/
theorem lines_text {layout : LineLayout} (proper : layout.IsProper) :
    lines (layout.broken .lineFeed).text =
      layout.lines.map (fun line => line.body ++ ['\n']) ++ lines layout.last := by
  obtain ⟨broken, last⟩ := layout
  induction broken with
  | nil => rfl
  | cons line rest later =>
    obtain ⟨unbroken, -, proper⟩ := LineLayout.isProper_cons.1 proper
    rw [List.map_cons, List.cons_append, ← later proper, ← lines_append_cons unbroken.1]
    exact congrArg lines (LineLayout.text_cons { line with ending := .lineFeed } _ _)

theorem lines_of_unbroken {body : List Char} (unbroken : '\n' ∉ body) :
    lines body = if body = [] then [] else [body] := by
  induction body with
  | nil => rfl
  | cons c body later =>
    obtain ⟨other, unbroken⟩ := not_or.1 (List.mem_cons.not.1 unbroken)
    rw [lines, if_neg (Ne.symm other), later unbroken]
    by_cases empty : body = [] <;> simp [empty]

/-- **The lines of a source** are those of the text, in order, but for the annotations. -/
theorem text_ofText {layout : LineLayout} (proper : layout.IsProper) :
    (ofText layout.text).text = (layout.kept.broken .lineFeed).text := by
  have notes : ((fun line => !isAuthorNote line) ∘ fun line : Line => line.body ++ ['\n']) =
      fun line => decide (¬ IsAnnotation line.body) := by
    funext line
    rw [Function.comp_apply, Bool.eq_iff_iff, Bool.not_eq_true', ← Bool.not_eq_true,
      isAuthorNote_iff, isAnnotation_append_break, decide_eq_true_iff]
  have last : ((lines layout.last).filter fun line => !isAuthorNote line).flatten =
      layout.kept.last := by
    rw [lines_of_unbroken proper.last.1, LineLayout.kept]
    dsimp only
    have note : isAuthorNote layout.last = true ↔ IsAnnotation layout.last := isAuthorNote_iff
    by_cases empty : layout.last = []
    · simp [empty]
    · by_cases annotation : IsAnnotation layout.last
      · simp [empty, annotation, note.2 annotation]
      · simp [empty, annotation, mt note.1 annotation]
  rw [ofText, plainBreaks_text proper, lines_text proper]
  dsimp only
  rw [List.filter_append, List.flatten_append, last, List.filter_map, notes, LineLayout.text,
    LineLayout.broken, List.flatMap_map, List.flatMap_def]
  rfl

end Source

namespace LineLayout

variable {layout : LineLayout}

/-- Annotations are told by what stands in lines. -/
theorem kept_broken (ending : LineBreak) (layout : LineLayout) :
    (layout.broken ending).kept = layout.kept.broken ending := by
  unfold kept broken
  dsimp only
  rw [List.filter_map]
  rfl

theorem broken_broken (first second : LineBreak) (layout : LineLayout) :
    (layout.broken first).broken second = layout.broken second := by
  unfold broken
  dsimp only
  rw [List.map_map]
  rfl

theorem kept_kept (layout : LineLayout) : layout.kept.kept = layout.kept := by
  unfold kept
  dsimp only
  rw [List.filter_filter]
  congr 1
  · simp only [Bool.and_self]
  · split
    · exact ite_self []
    · rfl

/-- No carriage return stands in a text with plain line breaks. -/
theorem not_mem_text (proper : layout.IsProper) : '\r' ∉ (layout.broken .lineFeed).text := by
  intro member
  rw [text, List.mem_append, List.mem_flatMap] at member
  rcases member with ⟨line, known, inside⟩ | last
  · obtain ⟨line, member, rfl⟩ := List.mem_map.1 known
    rcases List.mem_append.1 inside with body | ending
    · exact (proper.bodies line member).2 body
    · exact absurd (List.mem_singleton.1 ending) (by decide)
  · exact proper.last.2 last

end LineLayout

/-- A text with each line feed written as a line break of a kind. -/
def withBreaks (ending : LineBreak) (text : List Char) : List Char :=
  text.flatMap fun c => if c = '\n' then ending.chars else [c]

theorem withBreaks_of_not_mem {ending : LineBreak} {body : List Char} (unbroken : '\n' ∉ body) :
    withBreaks ending body = body := by
  refine (List.flatMap_congr fun c member => ?_).trans (List.flatMap_singleton' body)
  exact if_neg (ne_of_mem_of_not_mem member unbroken)

/-- Line feeds that are written in another way break the same lines. -/
theorem withBreaks_text {layout : LineLayout} (proper : layout.IsProper) (ending : LineBreak) :
    withBreaks ending (layout.broken .lineFeed).text = (layout.broken ending).text := by
  have line (member : Line) (known : member ∈ layout.lines) :
      withBreaks ending (member.body ++ LineBreak.lineFeed.chars) =
        member.body ++ ending.chars := by
    rw [withBreaks, List.flatMap_append, ← withBreaks,
      withBreaks_of_not_mem (proper.bodies member known).1]
    simp [LineBreak.chars]
  have last : withBreaks ending layout.last = layout.last := withBreaks_of_not_mem proper.last.1
  unfold withBreaks at line last ⊢
  unfold LineLayout.text LineLayout.broken
  dsimp only
  rw [List.flatMap_append, last, List.flatMap_map, List.flatMap_map, List.flatMap_assoc]
  exact congrArg (· ++ layout.last) (List.flatMap_congr line)

namespace Source

/-- A source is told by its text. -/
theorem ofText_eq_of_text {first second : List Char}
    (same : (ofText first).text = (ofText second).text) : ofText first = ofText second :=
  congrArg (fun text => (⟨text, defaultsHeader? text⟩ : Source)) same

/-- What a text is read as does not depend on how its lines are broken, and is stable. -/
structure ReadsPlainly (text : List Char) : Prop where
  /-- All line feeds may be written in another way. -/
  rebroken : '\r' ∉ text → ∀ ending, ofText (withBreaks ending text) = ofText text
  again : ofText (ofText text).text = ofText text
  unreturned : '\r' ∉ (ofText text).text
  written : ∃ layout : LineLayout, layout.IsProper ∧ layout.text = text
  /-- The lines that are no annotations are kept, in order. -/
  kept : ∀ layout : LineLayout, layout.IsProper → layout.text = text →
    (ofText text).text = (layout.kept.broken .lineFeed).text
  compiled : ∀ (W : Type) [Weight W] (environment : Environment) (fileNumber : Nat) (name : String),
    (compile environment fileNumber name (String.ofList (ofText text).text) :
        Except (CompileError W) (Compiled W)) =
      compile environment fileNumber name (String.ofList text)
  verified : ∀ digest breaks, verify (ofText text).text digest breaks = verify text digest breaks

/-- **Reading a source is stable.** A text is read as its lines with plain breaks, without the
annotations, however its lines are broken. What is read is read again as it is, and is compiled and
verified like the text. -/
theorem readsPlainly (text : List Char) : ReadsPlainly text := by
  obtain ⟨layout, proper, rfl⟩ := LineLayout.exists_layout text
  have read := text_ofText proper
  have again : ofText (ofText layout.text).text = ofText layout.text := by
    refine ofText_eq_of_text ?_
    rw [read, text_ofText (proper.kept .lineFeed), LineLayout.kept_broken, LineLayout.kept_kept,
      LineLayout.broken_broken]
  refine ⟨fun plain ending => ?_, again, ?_, ⟨layout, proper, rfl⟩, ?_, ?_, ?_⟩
  · have plain : layout.text = (layout.broken .lineFeed).text := by
      rw [← plainBreaks_text proper, ← List.append_nil layout.text, plainBreaks_append plain]
      rfl
    refine ofText_eq_of_text ?_
    rw [read, plain, withBreaks_text proper,
      text_ofText (LineLayout.isProper_broken proper.bodies proper.last ending),
      LineLayout.kept_broken, LineLayout.broken_broken]
  · rw [read, ← LineLayout.broken_broken .lineFeed]
    exact LineLayout.not_mem_text (proper.kept .lineFeed)
  · exact fun other proper same => same ▸ text_ofText proper
  · intro W _ environment fileNumber name
    unfold compile
    rw [String.toList_ofList, String.toList_ofList, again]
  · intro digest breaks
    unfold verify
    rw [again]

end Source

end LectureDeck
