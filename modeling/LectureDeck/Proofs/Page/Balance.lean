import LectureDeck.Proofs.Outline.Reads
import LectureDeck.Proofs.Page.Pages

/-!
# Balance of pages

Whether elements nest on a page. The marks of regions do, unless the opening of a hidden region was
discarded that the page should show (`LectureDeck.Compiled.nested_regions_iff`): its closing is not.
Lists, choices, quotes and regions need not nest together, but what a page leaves out is never the
reason (`LectureDeck.Compiled.nested_wrappers`).
-/

namespace LectureDeck

namespace Script

variable {strip : Strip} {script : List Entry}

/-- The opening of a hidden region was discarded that the page should show. -/
def LosesHidden (strip : Strip) (script : List Entry) : Prop :=
  ∃ entry ∈ script, (∃ id, entry.piece = .opening (.region .hidden id)) ∧
    entry.isDiscarded = true ∧ entry.regions.any strip.omits = false

/-- An entry that counts as if nothing had been discarded. -/
def restore (entry : Entry) : Entry := { entry with isDiscarded := false }

theorem pieces_map_restore (script : List Entry) : pieces (script.map restore) = pieces script := by
  rw [pieces, List.map_map]
  rfl

theorem IsStamped.restore (stamped : IsStamped script) : IsStamped (script.map restore) := by
  intro before entry after same
  obtain ⟨first, rest, whole, rfl, last⟩ := List.map_eq_append_iff.1 same
  obtain ⟨found, later, rfl, rfl, rfl⟩ := List.map_eq_cons_iff.1 last
  rw [regions, pieces_map_restore]
  exact stamped first found later whole

theorem countP_shown (counts : Piece → Bool) (strip : Strip) (script : List Entry) :
    (shown strip script).countP counts =
      script.countP fun entry => counts entry.piece && entry.isShown strip := by
  rw [shown, List.countP_map, List.countP_filter]
  rfl

theorem isShown_restore (strip : Strip) {entry : Entry} (shown : entry.isShown strip = true) :
    (restore entry).isShown strip = true := by
  simp only [Entry.isShown, Bool.and_eq_true] at shown ⊢
  exact ⟨⟨rfl, shown.1.2⟩, shown.2⟩

/-- What is discarded is no closing of a region. -/
theorem countP_closes_restore (discards : DiscardsHidden script) (strip : Strip)
    {element : Element} (region : element.isRegion = true) :
    (shown strip (script.map restore)).countP (Piece.closes element) =
      (shown strip script).countP (Piece.closes element) := by
  rw [countP_shown, countP_shown, List.countP_map]
  refine List.countP_congr fun entry member => ?_
  cases discarded : entry.isDiscarded with
  | false => simp [restore, Entry.isShown, discarded]
  | true =>
    have opens : entry.piece.closes element = false := by
      by_cases mark : entry.piece.isMark Element.isRegion = true
      · obtain ⟨id, opening⟩ := discards entry member discarded mark
        rw [opening]
        rfl
      · exact Piece.closes_of_not_isMark (by simpa using mark) region
    simp [restore, opens]

/-- An opening that was discarded is missing on the page. -/
theorem countP_opens_lt_restore {element : Element} {entry : Entry} (member : entry ∈ script)
    (opens : entry.piece.opens element = true) (discarded : entry.isDiscarded = true)
    (around : entry.regions.any strip.omits = false) :
    (shown strip script).countP (Piece.opens element) <
      (shown strip (script.map restore)).countP (Piece.opens element) := by
  have later (part : List Entry) :
      part.countP (fun entry => entry.piece.opens element && entry.isShown strip) ≤
        part.countP
          ((fun entry => entry.piece.opens element && entry.isShown strip) ∘ restore) := by
    refine List.countP_mono_left fun entry _ counted => ?_
    rw [Bool.and_eq_true] at counted
    exact Bool.and_eq_true_iff.2 ⟨counted.1, isShown_restore strip counted.2⟩
  obtain ⟨before, after, rfl⟩ := List.append_of_mem member
  have first := later before
  have last := later after
  have hidden : (entry.piece.opens element && entry.isShown strip) = false := by
    simp [Entry.isShown, discarded]
  have seen : ((restore entry).piece.opens element && (restore entry).isShown strip) = true := by
    have leaf : strip.omitsPiece entry.piece = false := by
      cases piece : entry.piece <;> first | rfl | simp [piece, Piece.opens] at opens
    simp [restore, Entry.isShown, opens, around, leaf]
  rw [countP_shown, countP_shown, List.countP_map]
  simp only [List.countP_append, List.countP_cons, hidden, Function.comp_apply, seen]
  simp only [Function.comp_def] at first last ⊢
  simp only [Bool.false_eq_true, if_false, if_true]
  omega

/-- **Regions nest on a page** unless it should show one whose opening was discarded: then the page
has a closing too many. -/
theorem nested_shown_iff (closed : IsClosed script) (strip : Strip) :
    Nested Element.isRegion (shown strip script) ↔ ¬ LosesHidden strip script := by
  constructor
  -- With nothing discarded the page would nest too, with more openings and as many closings.
  · rintro nested ⟨entry, member, ⟨id, opening⟩, discarded, around⟩
    have whole : Nested Element.isRegion (shown strip (script.map restore)) := by
      refine nested_shown isRegion_region ?_ closed.stamped.restore ?_
      · rw [pieces_map_restore]
        exact closed.nested
      · intro other member _ discarded
        obtain ⟨_, _, rfl⟩ := List.mem_map.1 member
        contradiction
    have region : Element.isRegion (.region .hidden id) = true := rfl
    have opens : entry.piece.opens (.region .hidden id) = true := by simp [opening, Piece.opens]
    have fewer := countP_opens_lt_restore member opens discarded around
    rw [nested.countP_eq region, whole.countP_eq region,
      countP_closes_restore closed.discards strip region] at fewer
    exact Nat.lt_irrefl _ fewer
  · intro kept
    refine nested_shown isRegion_region closed.nested closed.stamped ?_
    intro entry member mark discarded
    by_contra around
    exact kept ⟨entry, member, closed.discards entry member discarded mark, discarded,
      by simpa using around⟩

section Kept

variable {keep : Entry → Bool}

/-- Entries that are no marks of regions can be dropped: the others still carry the regions that are
open. -/
theorem IsStamped.filter (stamped : IsStamped script)
    (marks : ∀ entry ∈ script, entry.piece.isMark Element.isRegion = true → keep entry = true) :
    IsStamped (script.filter keep) ∧ regions (script.filter keep) = regions script := by
  induction script using List.reverseRecOn with
  | nil => exact ⟨Stepwise.nil, rfl⟩
  | append_singleton script entry earlier =>
    obtain ⟨before, last⟩ := Stepwise.concat_iff.1 stamped
    obtain ⟨kept, same⟩ := earlier before fun other member => marks other (by simp [member])
    rw [List.filter_append, regions_concat]
    cases keeps : keep entry with
    | true =>
      rw [List.filter_singleton, keeps, cond_true]
      exact ⟨Stepwise.concat_iff.2 ⟨kept, by rw [last, same]⟩, by rw [regions_concat, same]⟩
    -- What is dropped is no mark of a region, so the regions that are open stay the same.
    | false =>
      have plain : entry.piece.isMark Element.isRegion = false := by
        by_contra mark
        rw [marks entry (by simp) (by simpa using mark)] at keeps
        contradiction
      rw [List.filter_singleton, keeps, cond_false, List.append_nil,
        Piece.regionsAfter_of_not_isMark plain]
      exact ⟨kept, same⟩

theorem pieces_filter_not_isDiscarded (script : List Entry) :
    pieces (script.filter fun entry => !entry.isDiscarded) = shown {} script := by
  have same : Entry.isShown {} = fun entry => !entry.isDiscarded := by
    funext entry
    have regions : entry.regions.any (Strip.omits {}) = false :=
      List.any_eq_false.2 fun region _ => by cases region <;> exact Bool.false_ne_true
    have leaf : Strip.omitsPiece {} entry.piece = false := by cases entry.piece <;> rfl
    simp [Entry.isShown, regions, leaf]
  rw [pieces, shown, same]

theorem shown_filter_not_isDiscarded (strip : Strip) (script : List Entry) :
    shown strip (script.filter fun entry => !entry.isDiscarded) = shown strip script := by
  rw [shown, List.filter_filter, shown]
  refine congrArg _ (List.filter_congr fun entry _ => ?_)
  cases discarded : entry.isDiscarded <;> simp [Entry.isShown, discarded]

/-- Wrappers that nest when nothing is left out nest whatever is left out. -/
theorem nested_shown_of_nested (closed : IsClosed script)
    (nested : Nested Element.isWrapper (shown {} script)) (strip : Strip) :
    Nested Element.isWrapper (shown strip script) := by
  have regions : Nested Element.isRegion (shown {} script) :=
    nested.mono Element.isWrapper_of_isRegion
  -- Regions nest with nothing left out, so none of their marks was discarded.
  have kept := (nested_shown_iff closed {}).1 regions
  have marks : ∀ entry ∈ script, entry.piece.isMark Element.isRegion = true →
      (!entry.isDiscarded) = true := by
    intro entry member mark
    rw [Bool.not_eq_true']
    by_contra shown
    have discarded : entry.isDiscarded = true := by simpa using shown
    refine kept ⟨entry, member, closed.discards entry member discarded mark, discarded, ?_⟩
    exact List.any_eq_false.2 fun region _ => by cases region <;> exact Bool.false_ne_true
  rw [← shown_filter_not_isDiscarded]
  refine nested_shown (fun _ _ => rfl) ?_ (closed.stamped.filter marks).1 ?_
  · rwa [pieces_filter_not_isDiscarded]
  · intro entry member _ discarded
    have shown := (List.mem_filter.1 member).2
    rw [discarded] at shown
    contradiction

end Kept

end Script

namespace Compiled

variable {W : Type} [Weight W] {environment : Environment} {fileNumber : Nat} {name text : String}
  {compiled : Compiled W}

/-- **Regions on pages.** Each page of a file that compiles shows a script, and the marks of regions
on it nest if and only if the script does not lose the opening of a hidden region that the page
should show. -/
theorem nested_regions_iff (compiles : compile environment fileNumber name text = .ok compiled) :
    ∃ setting analysis,
      read environment fileNumber name (Source.ofText text.toList) = .ok (setting, analysis) ∧
        compiled.Presents environment analysis ∧
        ∀ script ∈ analysis.scripts,
          (Nested Element.isRegion (Script.shown compiled.options.strip script) ↔
            ¬ Script.LosesHidden compiled.options.strip script) := by
  obtain ⟨setting, analysis, found, rfl⟩ := ofSource_eq_ok_iff.1 compiles
  exact ⟨setting, analysis, found, presents_of_read found, fun script member =>
    Script.nested_shown_iff (isClosed_of_read found script member) _⟩

/-- A run that hides the slides whose headings speak of it. -/
def concealing : Environment :=
  { Environment.plain with options := { hide := some "Hidden" }, hide := Pattern.read? "Hidden" }

/-- A slide that becomes hidden past its extra material, where notes are not shown any more. -/
def hiddenPastExtra : String := "Extra:\n\nNotes:\n\n### Hidden\n"

theorem exists_read_hiddenPastExtra : ∃ setting, ∃ analysis : Analysis Float,
    read concealing 1 "a" (Source.ofText hiddenPastExtra.toList) = .ok (setting, analysis) ∧
      ∃ script ∈ analysis.scripts, ¬ Nested Element.isRegion (Script.shown {} script) := by
  have seen : (read (W := Float) concealing 1 "a"
      (Source.ofText hiddenPastExtra.toList)).toOption.any (fun reading =>
        reading.2.scripts.any fun script =>
          !decide (Nested Element.isRegion (Script.shown {} script))) = true := by
    unfold read findSetting
    rw [Outline.ofSource_eq_within 12 (by decide +kernel)]
    decide +kernel
  obtain ⟨⟨setting, analysis⟩, found, holds⟩ := exists_of_any seen
  obtain ⟨script, member, broken⟩ := List.any_eq_true.1 holds
  exact ⟨setting, analysis, found, script, member, by simpa using broken⟩

/-- A page may have the closing of a hidden region without its opening. -/
theorem exists_unnested_region :
    ∃ compiled : Compiled Float, ∃ setting, ∃ analysis : Analysis Float,
    compile concealing 1 "a" hiddenPastExtra = .ok compiled ∧
      read concealing 1 "a" (Source.ofText hiddenPastExtra.toList) = .ok (setting, analysis) ∧
      compiled.Presents concealing analysis ∧
      ∃ script ∈ analysis.scripts,
        ¬ Nested Element.isRegion (Script.shown compiled.options.strip script) := by
  obtain ⟨setting, analysis, found, broken⟩ := exists_read_hiddenPastExtra
  exact ⟨_, setting, analysis, ofSource_eq_ok_iff.2 ⟨setting, analysis, found, rfl⟩, found,
    presents_of_read found, broken⟩

theorem nested_regions_iff_hiddenPastExtra :
    ∃ compiled : Compiled Float, ∃ setting, ∃ analysis : Analysis Float,
    compile concealing 1 "a" hiddenPastExtra = .ok compiled ∧
      read concealing 1 "a" (Source.ofText hiddenPastExtra.toList) = .ok (setting, analysis) ∧
      ∃ script ∈ analysis.scripts, Script.LosesHidden compiled.options.strip script := by
  obtain ⟨setting, analysis, found, script, member, broken⟩ := exists_read_hiddenPastExtra
  have compiles := ofSource_eq_ok_iff.2 ⟨setting, analysis, found, rfl⟩
  obtain ⟨_, _, same, _, nests⟩ := nested_regions_iff compiles
  obtain ⟨rfl, rfl⟩ := Prod.mk.inj (Except.ok.inj (found.symm.trans same))
  exact ⟨_, setting, analysis, compiles, found, script, member,
    Classical.not_not.1 (mt (nests script member).2 broken)⟩

/-- **Lists, choices, quotes and regions on pages.** Each page of a file that compiles shows a
script in which the lists, the choices and the quotes are closed that it opens, each kind by itself.
When all of them and the regions nest together on the page with nothing left out, they nest on the
page whatever it leaves out. -/
theorem nested_wrappers_of_full
    (compiles : compile environment fileNumber name text = .ok compiled) :
    ∃ setting analysis,
      read environment fileNumber name (Source.ofText text.toList) = .ok (setting, analysis) ∧
        compiled.Presents environment analysis ∧
        ∀ script ∈ analysis.scripts, Script.ClosesGroups script ∧
          (Nested Element.isWrapper (Script.shown {} script) →
            Nested Element.isWrapper (Script.shown compiled.options.strip script)) := by
  obtain ⟨setting, analysis, found, rfl⟩ := ofSource_eq_ok_iff.1 compiles
  exact ⟨setting, analysis, found, presents_of_read found, fun script member =>
    ⟨closesGroups_of_read found script member, fun nested =>
      Script.nested_shown_of_nested (isClosed_of_read found script member) nested _⟩⟩

/-- A run that leaves the notes of slides out. -/
def withoutNotes : Environment :=
  { Environment.plain with options := { strip := { notes := true } } }

theorem nested_wrappers_of_full_notes : ∃ compiled : Compiled Float, ∃ analysis : Analysis Float,
    compile withoutNotes 1 "a" "- one\n\nNotes:\n\n> - two\n" = .ok compiled ∧
      compiled.Presents withoutNotes analysis ∧ analysis.scripts.length = 1 ∧
      ∀ script ∈ analysis.scripts,
        Nested Element.isWrapper (Script.shown compiled.options.strip script) := by
  have seen : (read (W := Float) withoutNotes 1 "a"
      (Source.ofText "- one\n\nNotes:\n\n> - two\n".toList)).toOption.any (fun reading =>
        reading.2.scripts.length = 1 ∧ ∀ script ∈ reading.2.scripts,
          Nested Element.isWrapper (Script.shown {} script)) = true := by
    unfold read findSetting
    rw [Outline.ofSource_eq_within 12 (by decide +kernel)]
    decide +kernel
  obtain ⟨⟨setting, analysis⟩, found, holds⟩ := exists_of_any seen
  have compiles := ofSource_eq_ok_iff.2 ⟨setting, analysis, found, rfl⟩
  obtain ⟨_, _, same, presents, nests⟩ := nested_wrappers_of_full compiles
  obtain ⟨rfl, rfl⟩ := Prod.mk.inj (Except.ok.inj (found.symm.trans same))
  obtain ⟨one, full⟩ := of_decide_eq_true holds
  exact ⟨_, analysis, compiles, presents, one, fun script member =>
    (nests script member).2 (full script member)⟩

/-- A list past the extra material of a slide, where nothing is shown any more. -/
def listPastExtra : String := "Extra:\n\nNotes:\n\n- item\n"

/-- A page may have the closing of a list without its opening. -/
theorem exists_unnested_list : ∃ compiled : Compiled Float, ∃ analysis : Analysis Float,
    compile .plain 1 "a" listPastExtra = .ok compiled ∧ compiled.Presents .plain analysis ∧
      ∃ script ∈ analysis.scripts,
        ¬ Nested Element.isList (Script.shown compiled.options.strip script) := by
  have seen : (read (W := Float) .plain 1 "a"
      (Source.ofText listPastExtra.toList)).toOption.any (fun reading =>
        reading.2.scripts.any fun script =>
          !decide (Nested Element.isList (Script.shown {} script))) = true := by
    unfold read findSetting
    rw [Outline.ofSource_eq_within 12 (by decide +kernel)]
    decide +kernel
  obtain ⟨⟨setting, analysis⟩, found, holds⟩ := exists_of_any seen
  obtain ⟨script, member, broken⟩ := List.any_eq_true.1 holds
  have broken : ¬ Nested Element.isList (Script.shown {} script) := by simpa using broken
  exact ⟨_, analysis, ofSource_eq_ok_iff.2 ⟨setting, analysis, found, rfl⟩, presents_of_read found,
    script, member, broken⟩

end Compiled

end LectureDeck
