import LectureDeck.Proofs.Deck.Awaiting
import LectureDeck.Proofs.Deck.Lasting
import LectureDeck.Proofs.Outline.Reads
import LectureDeck.Proofs.Page.Pages

/-!
# Links that are left over

When a file compiles, each name is reported once to which links lead forward and on which none of
them has landed (`LectureDeck.Compiled.compile_unresolved`). A name that no reference has in the
end is among them. So is one that was given to a repeated definition, though there is a reference
of it then (`LectureDeck.Compiled.exists_compiled_linkToRenamed`).
-/

namespace LectureDeck

open LectureDeck.Text

/-- The names that warnings say links were left with, in order. -/
def unresolvedNames (warnings : List Warning) : List String :=
  warnings.filterMap fun warning => warning.finding.unresolved?

namespace Analysis

variable {others warnings : List Warning} {setting : Setting} {links : List (String × Nat)}

/-- After other warnings, those of links name the links. -/
theorem unresolvedNames_eq
    (same : warnings = others ++ links.map (unresolvedWarning setting))
    (silent : ∀ warning ∈ others, warning.finding.unresolved? = none) :
    unresolvedNames warnings = links.map Prod.fst := by
  rw [same, unresolvedNames, List.filterMap_append, List.filterMap_eq_nil_iff.2 silent,
    List.filterMap_map, ← List.filterMap_eq_map]
  rfl

/-- A warning that names a link is one of those of links. -/
theorem exists_of_unresolved?
    (same : warnings = others ++ links.map (unresolvedWarning setting))
    (silent : ∀ warning ∈ others, warning.finding.unresolved? = none) {warning : Warning}
    (member : warning ∈ warnings) {id : String} (names : id ∈ warning.finding.unresolved?) :
    ∃ slide, (id, slide) ∈ links ∧ warning = ⟨setting.file, some slide, .unresolvedLink id⟩ := by
  rw [same] at member
  rcases List.mem_append.1 member with other | link
  · rw [silent warning other] at names
    contradiction
  · obtain ⟨⟨target, slide⟩, reported, rfl⟩ := List.mem_map.1 link
    cases names
    exact ⟨slide, reported, rfl⟩

end Analysis

namespace Compiled

variable {W : Type} [Weight W] {environment : Environment} {fileNumber : Nat} {name text : String}
  {compiled : Compiled W}

/-- A file of which the links that are left over are reported. -/
structure ReportsLinks (compiled : Compiled W) (setting : Setting) : Prop where
  nodup : (unresolvedNames compiled.warnings).Nodup
  mem_iff : ∀ id, id ∈ unresolvedNames compiled.warnings ↔
    (∃ slide, IsForward setting.fileNumber setting.outline.mentions id slide) ∧
      ¬ HasLanded setting.fileNumber setting.outline.mentions id
  /-- A report names a slide from which a link leads forward. -/
  slide : ∀ warning ∈ compiled.warnings, ∀ id ∈ warning.finding.unresolved?,
    ∃ slide, warning = ⟨compiled.name, some slide, .unresolvedLink id⟩ ∧
      IsForward setting.fileNumber setting.outline.mentions id slide
  /-- What is missing is always reported. -/
  missing : ∀ id slide, IsForward setting.fileNumber setting.outline.mentions id slide →
    (∀ reference ∈ compiled.model.references, reference.id ≠ id) →
      id ∈ unresolvedNames compiled.warnings
  /-- What is not missing is reported only if no definition asked for it while it was free. -/
  found : ∀ id ∈ unresolvedNames compiled.warnings,
    (∃ reference ∈ compiled.model.references, reference.id = id) →
      IsRenamed setting.fileNumber setting.outline.mentions id

/-- **Links that are left over.** When a file compiles, every name is reported once to which links
lead forward and on which none of them has landed, and no other. Every name to which a link leads
forward is among them that no reference has in the end. One that a reference has is reported only
if it was given to a repeated definition. -/
theorem compile_unresolved (compiles : compile environment fileNumber name text = .ok compiled) :
    ∃ setting, (findSetting environment fileNumber name (Source.ofText text.toList) :
        Except (CompileError W) Setting) = .ok setting ∧ compiled.ReportsLinks setting := by
  obtain ⟨setting, analysis, found, rfl⟩ := ofSource_eq_ok_iff.1 compiles
  have set := (read_eq_ok_iff.1 found).1
  obtain ⟨rfl, rfl, -, -⟩ := setting_of_findSetting set
  obtain ⟨draft, _, reads, rfl⟩ := exists_readFile_of_read found
  have heard := Draft.heard_of_readFile reads
  have table : draft.file.references = tableAfter setting.fileNumber setting.outline.mentions :=
    heard.table
  let reports := draft.file.forward.unresolved
  let compiled := present environment setting.fileNumber setting.file (Source.ofText text.toList)
    (setting, Analysis.ofDraft setting draft.file)
  -- Before the links only the defaults and what was found while reading are warned of.
  obtain ⟨others, same, silent⟩ : ∃ others : List Warning,
      compiled.warnings = others ++ reports.map (Analysis.unresolvedWarning setting) ∧
        ∀ warning ∈ others, warning.finding.unresolved? = none := by
    refine ⟨_, (List.append_assoc ..).symm, List.forall_mem_append.2 ⟨?_, ?_⟩⟩
    · exact List.forall_mem_map.2 fun _ _ => rfl
    · exact Draft.isSilent_of_readFile reads
  have names : unresolvedNames compiled.warnings = reports.map Prod.fst :=
    Analysis.unresolvedNames_eq same silent
  have reported (id : String) : id ∈ unresolvedNames compiled.warnings ↔
      (∃ slide, IsForward setting.fileNumber setting.outline.mentions id slide) ∧
        ¬ HasLanded setting.fileNumber setting.outline.mentions id := by
    rw [names, List.mem_map]
    constructor
    · rintro ⟨⟨_, _⟩, member, rfl⟩
      obtain ⟨link, waits, undefined, told⟩ := ForwardLinks.exists_of_mem_unresolved member
      cases told
      exact ⟨⟨_, heard.isForward link waits⟩, heard.undefined link waits undefined⟩
    · rintro ⟨⟨slide, forward⟩, missing⟩
      obtain ⟨link, waits, rfl, undefined⟩ := heard.kept id slide forward missing
      obtain ⟨origin, member⟩ := ForwardLinks.exists_mem_unresolved waits undefined
      exact ⟨_, member, rfl⟩
  refine ⟨setting, set, ?_, reported, ?_, ?_, ?_⟩
  · rw [names]
    exact ForwardLinks.nodup_unresolved _
  · intro warning member id named
    obtain ⟨slide, told, rfl⟩ := Analysis.exists_of_unresolved? same silent member named
    obtain ⟨link, waits, -, told⟩ := ForwardLinks.exists_of_mem_unresolved told
    cases told
    exact ⟨_, rfl, heard.isForward link waits⟩
  · intro id slide forward missing
    refine (reported id).2 ⟨⟨slide, forward⟩, fun landed => ?_⟩
    have contained := landed.contains
    rw [← table] at contained
    obtain ⟨reference, member, named⟩ := List.any_eq_true.1 contained
    exact missing reference member (beq_iff_eq.1 named)
  · rintro id member ⟨reference, known, named⟩
    obtain ⟨⟨slide, forward⟩, missing⟩ := (reported id).1 member
    have contained : draft.file.references.contains id = true :=
      List.any_eq_true.2 ⟨reference, known, beq_iff_eq.2 named⟩
    rw [table] at contained
    exact (forward.hasLanded_or contained).resolve_left missing

/-- A link to a name that a repeated definition is given later. -/
def linkToRenamed : String := "[go](#x-duplicate-1)\n\n[a]\x7b#x\x7d [b]\x7b#x\x7d\n"

/-- There is a reference of a name that is reported. -/
theorem exists_compiled_linkToRenamed : ∃ compiled : Compiled Float,
    compile .plain 1 "a" linkToRenamed = .ok compiled ∧
      "slidoc-ref-x-duplicate-1" ∈ unresolvedNames compiled.warnings ∧
      ∃ reference ∈ compiled.model.references, reference.id = "slidoc-ref-x-duplicate-1" := by
  have seen : (read (W := Float) .plain 1 "a" (Source.ofText linkToRenamed.toList)).toOption.any
      (fun reading =>
        "slidoc-ref-x-duplicate-1" ∈ unresolvedNames reading.2.warnings ∧
        reading.2.model.references.any fun reference =>
          reference.id = "slidoc-ref-x-duplicate-1") = true := by
    unfold read findSetting
    rw [Outline.ofSource_eq_within 20 (by decide +kernel)]
    decide +kernel
  obtain ⟨⟨setting, analysis⟩, found, holds⟩ := exists_of_any seen
  obtain ⟨reported, known⟩ := of_decide_eq_true holds
  obtain ⟨reference, member, same⟩ := List.any_eq_true.1 known
  obtain ⟨warning, listed, named⟩ := List.mem_filterMap.1 reported
  exact ⟨_, ofSource_eq_ok_iff.2 ⟨setting, analysis, found, rfl⟩,
    List.mem_filterMap.2 ⟨warning, List.mem_append_right _ listed, named⟩, reference, member,
    of_decide_eq_true same⟩

/-- Names are reported that references have. -/
theorem not_forall_unresolved_missing : ¬ ∀ compiled : Compiled Float,
    compile .plain 1 "a" linkToRenamed = .ok compiled →
      ∀ id ∈ unresolvedNames compiled.warnings,
        ∀ reference ∈ compiled.model.references, reference.id ≠ id := by
  intro missing
  obtain ⟨compiled, compiles, reported, reference, member, same⟩ := exists_compiled_linkToRenamed
  exact missing compiled compiles _ reported reference member same

theorem compile_unresolved_linkToRenamed : ∃ compiled : Compiled Float,
    compile .plain 1 "a" linkToRenamed = .ok compiled ∧ ∃ setting : Setting,
      compiled.ReportsLinks setting ∧
      IsRenamed setting.fileNumber setting.outline.mentions "slidoc-ref-x-duplicate-1" := by
  obtain ⟨compiled, compiles, reported, known⟩ := exists_compiled_linkToRenamed
  obtain ⟨setting, _, reports⟩ := compile_unresolved compiles
  exact ⟨compiled, compiles, setting, reports, reports.found _ reported known⟩

end Compiled

end LectureDeck
