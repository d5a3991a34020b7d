import LectureDeck.Proofs.Deck.Awaiting
import LectureDeck.Proofs.Outline.Reads
import LectureDeck.Proofs.Page.Pages

/-!
# Labels on pages

A link may show the label of a reference that is defined only later. When all references are known,
every such link shows the label that its reference has, or that it has none, of which there is a
warning then (`LectureDeck.Compiled.compile_labels`).
-/

namespace LectureDeck

open LectureDeck.Text

namespace Fragment

/-- What is not pending is left as it is. -/
theorem resolve_of_not_pending {fragment : Fragment} (known : fragment.pending? = none)
    (label : String → Option String) : fragment.resolve label = fragment := by
  cases fragment with
  | markup content => rfl
  | pending id => contradiction

theorem pending?_resolve (fragment : Fragment) (label : String → Option String) :
    (fragment.resolve label).pending? = none := by cases fragment <;> rfl

end Fragment

/-- Nothing is pending in a document that is resolved. -/
theorem Document.pending_resolve (document : Document) (label : String → Option String) :
    (document.resolve label).pending = [] := by
  have none : (document.resolve label).slides.flatMap SlidePage.pending = [] := by
    rw [List.flatMap_eq_nil_iff]
    intro page member
    obtain ⟨slide, _, rfl⟩ := List.mem_map.1 member
    refine List.filterMap_eq_nil_iff.2 fun fragment member => ?_
    obtain ⟨before, _, rfl⟩ := List.mem_map.1 member
    exact before.pending?_resolve label
  rw [pending, none]
  rfl

/-- A piece that shows no label is known when it is written. -/
theorem Piece.pending?_fragment {piece : Piece} (other : ∀ id, piece ≠ .label id)
    (options : Options) (highlight : Highlighter) :
    (piece.fragment options highlight).pending? = none := by
  cases piece <;> first | rfl | exact absurd rfl (other _)

namespace Draft

variable {W : Type} [Weight W] {setting : Setting} {after : Draft W}

/-- The script of a slide shows the labels that its blocks ask for. -/
theorem labels_of_readFile (read : readFile setting = .ok after) :
    List.Forall₂ (fun slide script => Script.labels script =
        (slide.blocksOf setting.outline.blocks).flatMap (Block.labels setting.outline.linkTargets))
      after.file.slides after.file.scripts := by
  refine ((kept_tells setting).of_readFile read).imp fun slide script ends => ?_
  obtain ⟨-, last, tells, rfl, -⟩ := ends
  exact tells.scripts_closeAll.1

/-- A label in a script is that of a reference, or it is awaited when the file ends. -/
theorem awaits_of_mem_labels (read : readFile setting = .ok after) :
    ∀ script ∈ after.file.scripts, ∀ id ∈ Script.labels script, after.known.Awaits id := by
  intro script member id asked
  obtain ⟨index, inside, rfl⟩ := List.getElem_of_mem member
  have each := labels_of_readFile read
  have within : index < after.file.slides.length := by rwa [each.length_eq]
  have same := (List.forall₂_iff_get.1 each).2 index within inside
  change Script.labels after.file.scripts[index] = _ at same
  rw [same] at asked
  obtain ⟨block, found, asked⟩ := List.mem_flatMap.1 asked
  have found : block ∈ setting.outline.blocks := List.mem_of_mem_take (List.mem_of_mem_drop found)
  obtain ⟨slide, mentioned⟩ := exists_mem_mentionsOf_of_label found asked
  exact (heard_of_readFile read).awaits slide id mentioned

end Draft

namespace Compiled

variable {W : Type} [Weight W] {environment : Environment} {fileNumber : Nat} {name text : String}
  {compiled : Compiled W}

/-- A file in which labels are shown as its references have them. -/
structure ShowsLabels (environment : Environment) (compiled : Compiled W) (setting : Setting)
    (analysis : Analysis W) : Prop where
  resolved : compiled.document.pending = []
  /-- Every link of a slide that asks for a label writes it, in order. -/
  links : List.Forall₂ (fun slide script => Script.labels script =
      (slide.blocksOf setting.outline.blocks).flatMap (Block.labels setting.outline.linkTargets))
    compiled.model.slides analysis.scripts
  /-- A label is that of the reference, if there is one. -/
  label : ∀ id, compiled.model.render compiled.options environment.highlight (.label id) =
    .markup (((compiled.model.references.find? fun reference => reference.id == id).map
      Reference.label).getD ("(" ++ id ++ ")??"))
  /-- All else is shown as it was written. -/
  others : ∀ piece, (∀ id, piece ≠ .label id) →
    compiled.model.render compiled.options environment.highlight piece =
      piece.fragment compiled.options environment.highlight
  /-- A reference that is defined where a link to it stands has the label then that it has in the
  end, and it may be put into markup as it is. -/
  stays : ∀ before slide id after reference,
    setting.outline.mentions = before ++ (slide, .link id) :: after →
      (tableAfter setting.fileNumber before).get? id = some reference →
        compiled.model.label? id = some (escape reference.label)
  /-- A label that is not found is warned of. -/
  warned : ∀ script ∈ analysis.scripts, ∀ id ∈ Script.labels script,
    compiled.model.label? id = none →
      ∃ slide, ⟨compiled.name, some slide, .unresolvedLink id⟩ ∈ compiled.warnings

/-- **Labels.** When a file compiles, nothing is pending on its pages. Every link that asks for a
label shows the one that its reference has in the model, wherever the reference is defined, or that
there is none, and then there is a warning. What is no label is shown as it was written. -/
theorem compile_labels (compiles : compile environment fileNumber name text = .ok compiled) :
    ∃ setting analysis,
      read environment fileNumber name (Source.ofText text.toList) = .ok (setting, analysis) ∧
        compiled.Presents environment analysis ∧
        compiled.ShowsLabels environment setting analysis := by
  obtain ⟨setting, analysis, found, rfl⟩ := ofSource_eq_ok_iff.1 compiles
  obtain ⟨rfl, rfl, -, -⟩ := setting_of_findSetting (read_eq_ok_iff.1 found).1
  obtain ⟨draft, _, reads, rfl⟩ := exists_readFile_of_read found
  have heard := Draft.heard_of_readFile reads
  have table : draft.file.references = tableAfter setting.fileNumber setting.outline.mentions :=
    heard.table
  refine ⟨setting, _, found, presents_of_read found, ?_⟩
  constructor
  · exact Document.pending_resolve _ _
  · exact Draft.labels_of_readFile reads
  · exact fun id => rfl
  · intro piece other
    exact Fragment.resolve_of_not_pending (piece.pending?_fragment other _ _) _
  · intro before slide id after reference mentions known
    have final : draft.file.references.get? id = some reference := by
      rw [table, mentions]
      exact get?_tableAfter_append known _
    have plain := escape_label_of_mem_tableAfter before reference (List.mem_of_find?_eq_some known)
    rw [plain]
    exact congrArg (Option.map Reference.label) final
  · intro script member id asked unknown
    have none := List.find?_eq_none.1 (Option.map_eq_none_iff.1 unknown)
    have undefined : draft.known.references.contains id = false := List.any_eq_false.2 none
    rcases Draft.awaits_of_mem_labels reads script member id asked with
      contained | ⟨link, waits, rfl, still⟩
    · rw [undefined] at contained
      contradiction
    · obtain ⟨slide, reported⟩ := ForwardLinks.exists_mem_unresolved waits still
      refine ⟨slide, List.mem_append_right _ (List.mem_append_right _ ?_)⟩
      exact List.mem_map_of_mem (f := Analysis.unresolvedWarning setting) reported

/-- Links to one reference that is defined between them, and to one that never is. -/
def linksToLabels : String :=
  "[](#:one) and [](#:two)\n\nSee [one]\x7b#:one\x7d and [](#:one)\n"

theorem compile_labels_links : ∃ compiled : Compiled Float,
    compile .plain 1 "a" linksToLabels = .ok compiled ∧ ∃ setting analysis,
      compiled.ShowsLabels .plain setting analysis ∧
      (analysis.scripts.map Script.labels = [["slidoc-ref-one", "slidoc-ref-two",
        "slidoc-ref-one"]]) ∧
      compiled.model.label? "slidoc-ref-one" = some "1" ∧
      ∃ slide, ⟨"a", some slide, .unresolvedLink "slidoc-ref-two"⟩ ∈ compiled.warnings := by
  have seen : (Compiled.read (W := Float) .plain 1 "a"
      (Source.ofText linksToLabels.toList)).toOption.any (fun reading =>
        reading.2.scripts.map Script.labels = [["slidoc-ref-one", "slidoc-ref-two",
          "slidoc-ref-one"]] ∧
        reading.2.model.label? "slidoc-ref-one" = some "1" ∧
        reading.2.model.label? "slidoc-ref-two" = none) = true := by
    unfold read findSetting
    rw [Outline.ofSource_eq_within 20 (by decide +kernel)]
    decide +kernel
  obtain ⟨⟨setting, analysis⟩, found, holds⟩ := exists_of_any seen
  obtain ⟨labels, one, two⟩ := of_decide_eq_true holds
  have compiles : compile .plain 1 "a" linksToLabels =
      .ok (present .plain 1 "a" _ (setting, analysis)) :=
    ofSource_eq_ok_iff.2 ⟨setting, analysis, found, rfl⟩
  obtain ⟨_, _, again, _, shows⟩ := compile_labels compiles
  obtain ⟨rfl, rfl⟩ := Prod.mk.inj (Except.ok.inj (again.symm.trans found))
  refine ⟨_, compiles, _, _, shows, labels, one, ?_⟩
  obtain ⟨script, single, same⟩ := List.map_eq_singleton_iff.1 labels
  have member := List.mem_singleton_self script
  rw [← single] at member
  exact shows.warned script member "slidoc-ref-two" (by simp [same]) two

end Compiled

end LectureDeck
