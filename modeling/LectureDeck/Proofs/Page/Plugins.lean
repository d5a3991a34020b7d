import LectureDeck.Proofs.Deck.Plugins
import LectureDeck.Proofs.Outline.Reads
import LectureDeck.Proofs.Page.Pages

/-!
# Plugins of compiled files

What is told of plugins when a file compiles: their embeds, their heads, and the warnings of them
(`LectureDeck.Compiled.compile_plugins`). The top of a plugin stands with its first embed in the
file, and is on no page when that embed is on none (`LectureDeck.Compiled.compile_tops`).
-/

namespace LectureDeck

section Tops

/-- The top of a plugin in a piece, if the piece is the markup of the plugin. -/
def Piece.top? (name : String) : Piece → Option String
  | .plugin _ other top _ _ => if other == name then some top else none
  | _ => none

namespace Script

/-- The embeds of one plugin in a script, in order. -/
def embeds (name : String) (script : List Entry) : List Entry :=
  script.filter fun entry => (entry.piece.top? name).isSome

/-- The tops in the embeds of one plugin on the pages that show some scripts, in order. -/
def shownTops (strip : Strip) (name : String) (scripts : List (List Entry)) : List String :=
  scripts.flatMap fun script => (shown strip script).filterMap (Piece.top? name)

theorem filter_flatMap_plugins (name : String) (scripts : List (List Entry)) :
    ((scripts.flatMap plugins).filter fun entry => (entry.piece.top? name).isSome) =
      scripts.flatMap (embeds name) := by
  rw [List.filter_flatMap]
  refine List.flatMap_congr fun script _ => ?_
  rw [embeds, plugins, List.filter_filter]
  refine List.filter_congr fun entry _ => ?_
  cases piece : entry.piece <;> first | rfl | simp [Piece.isPlugin]

/-- The pages show the embeds that are not left out. -/
theorem shownTops_eq (strip : Strip) (name : String) (scripts : List (List Entry)) :
    shownTops strip name scripts =
      ((scripts.flatMap (embeds name)).filter (Entry.isShown strip)).filterMap
        fun entry => entry.piece.top? name := by
  rw [List.filter_flatMap, List.filterMap_flatMap, shownTops]
  refine List.flatMap_congr fun script _ => ?_
  rw [shown, List.filterMap_map, embeds, List.filter_comm]
  generalize script.filter (Entry.isShown strip) = entries
  rw [List.filterMap_filter]
  refine List.filterMap_congr fun entry _ => ?_
  cases top : entry.piece.top? name <;> simp [top]

/-- When the first embed alone has a top, the pages have it if they show that embed. -/
theorem shownTops_of_first (strip : Strip) {name top : String} {scripts : List (List Entry)}
    {first : Entry} {rest : List Entry} (whole : scripts.flatMap (embeds name) = first :: rest)
    (atFirst : first.piece.top? name = some top)
    (later : ∀ entry ∈ rest, entry.piece.top? name = some "") :
    shownTops strip name scripts = (if first.isShown strip then [top] else []) ++
      List.replicate (rest.countP (Entry.isShown strip)) "" := by
  have none : (rest.filter (Entry.isShown strip)).filterMap (fun entry => entry.piece.top? name) =
      List.replicate (rest.countP (Entry.isShown strip)) "" := by
    rw [List.countP_eq_length_filter, ← List.map_const', ← List.filterMap_eq_map]
    exact List.filterMap_congr fun entry member => later entry (List.mem_of_mem_filter member)
  rw [shownTops_eq, whole, List.filter_cons]
  split
  · rw [List.filterMap_cons, atFirst, none]
    rfl
  · rw [none]
    rfl

end Script

/-- The first use of a plugin is the only one that says so. -/
theorem isFirst_of_filter {uses others : List PluginUse} {use : PluginUse} {name : String}
    (first : Stepwise PluginUse.IsMarkedAfter uses)
    (named : (uses.filter fun use => use.name == name) = use :: others) :
    use.isFirst = true ∧ ∀ other ∈ others, other.isFirst = false := by
  obtain ⟨before, after, whole, absent, own, rest⟩ := List.filter_eq_cons_iff.1 named
  have own : use.name = name := beq_iff_eq.1 own
  constructor
  · have marked : use.isFirst = _ := first before use after whole
    rw [marked, Bool.not_eq_true', List.any_eq_false]
    intro other member
    rw [own]
    exact absent other member
  · intro other member
    rw [← rest] at member
    obtain ⟨member, same⟩ := List.mem_filter.1 member
    obtain ⟨between, later, rfl⟩ := List.append_of_mem member
    have again : uses = (before ++ use :: between) ++ other :: later := by simp [whole]
    have marked : other.isFirst = _ := first _ _ _ again
    rw [marked, Bool.not_eq_false', List.any_eq_true]
    exact ⟨use, by simp, by rw [own, ← beq_iff_eq.1 same]; exact beq_self_eq_true _⟩

/-- A piece was written by a use of a plugin: by the first one, or by a later one. -/
def IsWritten (setting : Setting) (uses : List PluginUse) (plugin : String) (isFirst : Bool)
    (piece : Piece) : Prop :=
  ∃ use ∈ uses, use.name = plugin ∧ use.isFirst = isFirst ∧ use.Writes setting piece

theorem PluginUse.Writes.isSome_top? {setting : Setting} {use : PluginUse} {piece : Piece}
    (writes : use.Writes setting piece) (name : String) :
    (use.name == name) = (piece.top? name).isSome := by
  obtain ⟨plugin, top, body, button, -, -, -, -, rfl⟩ := writes
  rw [Piece.top?]
  cases use.name == name <;> rfl

/-- What a later use wrote has no top. -/
theorem IsWritten.exists_top? {setting : Setting} {uses : List PluginUse} {plugin : String}
    {isFirst : Bool} {piece : Piece} (written : IsWritten setting uses plugin isFirst piece) :
    ∃ top, piece.top? plugin = some top ∧ (isFirst = false → top = "") := by
  obtain ⟨use, -, rfl, rfl, _, top, body, button, -, atTop, -, -, rfl⟩ := written
  refine ⟨top, ?_, fun later => ?_⟩
  · rw [Piece.top?, beq_self_eq_true, if_pos rfl]
  · rwa [later] at atTop

/-- The embeds of a plugin are what its uses wrote, in the same order. -/
theorem TellsUses.written_filter {setting : Setting} {uses : List PluginUse} {heads : List String}
    {scripts : List (List Entry)}
    (tells : TellsUses setting uses heads (scripts.flatMap Script.plugins)) (plugin : String) :
    List.Forall₂ (fun use entry => use.Writes setting entry.piece)
      (uses.filter fun use => use.name == plugin) (scripts.flatMap (Script.embeds plugin)) := by
  rw [← Script.filter_flatMap_plugins]
  exact List.rel_filter
    (fun _ _ writes => iff_of_eq (congrArg (· = true) (writes.isSome_top? plugin))) tells.written

/-- The first embed of a plugin was written by its first use, and the others by later ones. -/
theorem isWritten_of_forall₂ {setting : Setting} {uses : List PluginUse} {plugin : String}
    {first : Entry} {rest : List Entry} (marked : Stepwise PluginUse.IsMarkedAfter uses)
    (written : List.Forall₂ (fun use entry => use.Writes setting entry.piece)
      (uses.filter fun use => use.name == plugin) (first :: rest)) :
    IsWritten setting uses plugin true first.piece ∧
      ∀ entry ∈ rest, IsWritten setting uses plugin false entry.piece := by
  obtain ⟨use, others, wrote, later, named⟩ := List.forall₂_cons_right_iff.1 written
  obtain ⟨isFirst, again⟩ := isFirst_of_filter marked named
  have known (other : PluginUse) (member : other ∈ use :: others) :
      other ∈ uses ∧ other.name = plugin := by
    rw [← named] at member
    exact ⟨List.mem_of_mem_filter member, beq_iff_eq.1 (List.mem_filter.1 member).2⟩
  refine ⟨⟨use, (known use List.mem_cons_self).1, (known use List.mem_cons_self).2, isFirst, wrote⟩,
    fun entry member => ?_⟩
  obtain ⟨other, among, wrote⟩ := exists_mem_of_forall₂ later.flip member
  have own := known other (List.mem_cons_of_mem _ among)
  exact ⟨other, own.1, own.2, again other among, wrote⟩

end Tops

namespace Compiled

variable {W : Type}

/-- What is told of plugins in a file that was read in a setting. -/
structure TellsPlugins (compiled : Compiled W) (setting : Setting) : Prop where
  /-- Every block of the file is on one slide. -/
  slides : compiled.model.slides.flatMap (Slide.blocksOf setting.outline.blocks) =
    setting.outline.blocks
  /-- A slide has the plugins that its blocks embed, each of them once. -/
  embeds : ∀ slide ∈ compiled.model.slides, slide.plugins.Nodup ∧
    slide.plugins = (slide.blocksOf setting.outline.blocks).filterMap Block.embedded?
  /-- Each embed of a plugin that the run knows is a use of it. -/
  uses : compiled.model.pluginUses.map PluginUse.bare = compiled.model.slides.flatMap fun slide =>
    (slide.blocksOf setting.outline.blocks).filterMap (Block.use? setting.plugins slide.number)
  /-- One use of each plugin is its first. -/
  first : Stepwise PluginUse.IsMarkedAfter compiled.model.pluginUses
  /-- The head of each plugin that has one is filled for its first use. -/
  heads : List.Forall₂ (PluginUse.Heads setting)
    (compiled.model.pluginUses.filter (PluginUse.hasHead setting.plugins)) compiled.heads
  /-- There is a warning of each embed of another plugin, and one of each plugin that is missing on
  a slide. -/
  warnings : (compiled.warnings.filter fun warning => warning.finding.isOfPlugin) =
    compiled.model.slides.flatMap fun slide =>
      ((slide.blocksOf setting.outline.blocks).filterMap
        (Block.unknown? setting.plugins)).map (Draft.unknownWarning setting slide.number) ++
      (missingOf (slide.blocksOf setting.outline.blocks)).map
        (Draft.missingWarning setting slide.number)
  /-- A plugin is missing on a slide that calls it and does not embed it. -/
  missing : ∀ slide ∈ compiled.model.slides,
    (missingOf (slide.blocksOf setting.outline.blocks)).Nodup ∧
    ∀ plugin, plugin ∈ missingOf (slide.blocksOf setting.outline.blocks) ↔
      plugin ∈ (slide.blocksOf setting.outline.blocks).flatMap Block.calls ∧
        plugin ∉ slide.plugins

variable [Weight W] {environment : Environment} {fileNumber : Nat} {name text : String}
  {compiled : Compiled W}

omit [Weight W] in
/-- The plugins that are known when a source is read are those of the environment. -/
theorem plugins_of_findSetting {source : Source} {setting : Setting}
    (found : (findSetting environment fileNumber name source : Except (CompileError W) Setting) =
      .ok setting) : setting.plugins = environment.plugins := by
  unfold findSetting at found
  simp only [bind_eq_ok, pure_eq_ok] at found
  obtain ⟨_, -, _, -, rfl⟩ := found
  rfl

/-- A slide of a file has the plugins that its blocks embed, each of them once. -/
theorem plugins_of_readFile {setting : Setting} {draft : Draft W}
    (read : Draft.readFile setting = .ok draft) {slide : Slide}
    (member : slide ∈ draft.file.slides) :
    slide.plugins.Nodup ∧
      slide.plugins = (slide.blocksOf setting.outline.blocks).filterMap Block.embedded? := by
  obtain ⟨script, -, -, last, ⟨tells, knows⟩, -, question, -, finishes, -⟩ :=
    (Draft.kept_knowing setting).exists_endsAs read member
  have embeds : slide.plugins = last.slide.embeds := by
    rw [finishes]
    exact SlideDraft.embeds_of_bare (SlideDraft.bare_closeAll last.slide)
  exact ⟨embeds ▸ knows.distinct, embeds.trans tells.embeds⟩

omit [Weight W] in
/-- Neither the defaults of a file nor its links have anything to say of plugins. -/
theorem findings_present {source : Source} (setting : Setting) (file : FileDraft W) :
    ((present environment fileNumber name source
        (setting, Analysis.ofDraft setting file)).warnings.filter
          fun warning => warning.finding.isOfPlugin) = file.findings := by
  have defaults (keys : List String) : ((keys.map fun key => (⟨name, none, .unknownDefault key⟩ :
      Warning)).filter fun warning => warning.finding.isOfPlugin) = [] := by
    refine List.filter_eq_nil_iff.2 fun warning member => ?_
    obtain ⟨key, -, rfl⟩ := List.mem_map.1 member
    exact Bool.false_ne_true
  have links (links : List (String × Nat)) :
      ((links.map (Analysis.unresolvedWarning setting)).filter
        fun warning => warning.finding.isOfPlugin) = [] := by
    refine List.filter_eq_nil_iff.2 fun warning member => ?_
    obtain ⟨link, -, rfl⟩ := List.mem_map.1 member
    exact Bool.false_ne_true
  change List.filter _ (_ ++ (_ ++ _)) = _
  rw [List.filter_append, List.filter_append, defaults, links, List.nil_append, List.append_nil]
  rfl

/-- **Plugins.** When a file compiles, no slide embeds a plugin twice. The uses of plugins are the
embeds, in the order of the blocks, of those that the run knows, and each of the others has a
warning. The first use of each plugin is marked as such, and for it the head of the plugin is put at
the head of the page. There is one warning of each plugin that a slide calls and does not embed,
before the call or after it. -/
theorem compile_plugins (compiles : compile environment fileNumber name text = .ok compiled) :
    ∃ setting, ∃ analysis : Analysis W,
      read environment fileNumber name (Source.ofText text.toList) = .ok (setting, analysis) ∧
        setting.file = name ∧ setting.fileNumber = fileNumber ∧
        setting.plugins = environment.plugins ∧ compiled.TellsPlugins setting := by
  obtain ⟨setting, analysis, found, rfl⟩ := ofSource_eq_ok_iff.1 compiles
  obtain ⟨named, numbered, -, -⟩ := setting_of_findSetting (read_eq_ok_iff.1 found).1
  obtain ⟨draft, -, reads, rfl⟩ := exists_readFile_of_read found
  have tells := Draft.tellsUses_of_readFile reads
  refine ⟨setting, _, found, named, numbered, plugins_of_findSetting (read_eq_ok_iff.1 found).1, ?_⟩
  exact {
    slides := Draft.flatMap_blocksOf_of_readFile reads
    embeds := fun slide member => plugins_of_readFile reads member
    uses := Draft.pluginUses_of_readFile reads
    first := tells.first
    heads := tells.heads
    warnings := (findings_present setting draft.file).trans (Draft.findings_of_readFile reads)
    missing := fun slide member => ⟨nodup_missingOf _, fun plugin => by
      rw [mem_missingOf, (plugins_of_readFile reads member).2]⟩ }

section Calls

/-- A run with a plugin that has a head. -/
def withHead : Environment :=
  { Environment.plain with plugins := ⟨[("P", { head := "H", body := "B" })]⟩ }

/-- Embeds of two plugins of which one is not known, and calls of three on two slides. -/
def callsAround : String :=
  "\x60=P.a()\x60\n\n=P()\n\n=Q()\n\n*\x60=R.b()\x60*\n\n---\n\n\x60=Q.a()\x60\n\n=P(x)\n"

theorem compile_plugins_callsAround : ∃ compiled : Compiled Float,
    compile withHead 1 "a" callsAround = .ok compiled ∧
      compiled.model.slides.map Slide.plugins = [["P", "Q"], ["P"]] ∧
      compiled.model.pluginUses.map PluginUse.isFirst = [true, false] ∧
      compiled.heads = ["H"] ∧
      compiled.warnings.map Warning.finding =
        [.unknownPlugin "Q", .missingEmbed "R", .missingEmbed "Q"] ∧
      ∃ setting, compiled.TellsPlugins setting := by
  have seen : (read (W := Float) withHead 1 "a"
      (Source.ofText callsAround.toList)).toOption.any (fun reading =>
        reading.2.model.slides.map Slide.plugins = [["P", "Q"], ["P"]] ∧
        reading.2.model.pluginUses.map PluginUse.isFirst = [true, false] ∧
        reading.2.heads = ["H"] ∧
        reading.2.warnings.map Warning.finding =
          [.unknownPlugin "Q", .missingEmbed "R", .missingEmbed "Q"]) = true := by
    unfold read findSetting
    rw [Outline.ofSource_eq_within 60 (by decide +kernel)]
    decide +kernel
  obtain ⟨⟨setting, analysis⟩, found, holds⟩ := exists_of_any seen
  obtain ⟨plugins, first, heads, findings⟩ := of_decide_eq_true holds
  have compiles : compile withHead 1 "a" callsAround =
      .ok (present withHead 1 "a" _ (setting, analysis)) :=
    ofSource_eq_ok_iff.2 ⟨setting, analysis, found, rfl⟩
  have plain : (Source.ofText callsAround.toList).defaults = none := by decide +kernel
  have warnings : (present withHead 1 "a" (Source.ofText callsAround.toList)
      (setting, analysis)).warnings = analysis.warnings := by
    unfold present
    rw [plain]
    rfl
  obtain ⟨other, _, _, -, -, -, tells⟩ := compile_plugins compiles
  exact ⟨_, compiles, plugins, first, heads, warnings ▸ findings, other, tells⟩

end Calls

/-- Where the top of a plugin is, given the first of its embeds in a file and the rest of them:
before the body in the first, and in no other one. On the pages it is there if they show the
first. -/
structure PlacesTop (compiled : Compiled W) (setting : Setting) (scripts : List (List Entry))
    (plugin : String) (first : Entry) (rest : List Entry) (top : String) : Prop where
  begins : IsWritten setting compiled.model.pluginUses plugin true first.piece
  atFirst : first.piece.top? plugin = some top
  repeats : ∀ entry ∈ rest,
    IsWritten setting compiled.model.pluginUses plugin false entry.piece
  shown : Script.shownTops compiled.options.strip plugin scripts =
    (if first.isShown compiled.options.strip then [top] else []) ++
      List.replicate (rest.countP (Entry.isShown compiled.options.strip)) ""

/-- **Tops of plugins.** Each page of a file that compiles shows a script, and the uses of a plugin
wrote its embeds in the scripts. The first of them has the top of the plugin, filled, before its
body, and no other one has it. On the pages an embed of the plugin has its top if and only if it is
the first in the file: when that one is left out, those that are shown have no top. -/
theorem compile_tops (compiles : compile environment fileNumber name text = .ok compiled) :
    ∃ setting analysis,
      read environment fileNumber name (Source.ofText text.toList) = .ok (setting, analysis) ∧
        setting.fileNumber = fileNumber ∧ setting.plugins = environment.plugins ∧
        compiled.Presents environment analysis ∧
        ∀ plugin,
          List.Forall₂ (fun use entry => use.Writes setting entry.piece)
            (compiled.model.pluginUses.filter fun use => use.name == plugin)
            (analysis.scripts.flatMap (Script.embeds plugin)) ∧
          ∀ first rest, analysis.scripts.flatMap (Script.embeds plugin) = first :: rest →
            ∃ top, compiled.PlacesTop setting analysis.scripts plugin first rest top := by
  obtain ⟨setting, analysis, found, rfl⟩ := ofSource_eq_ok_iff.1 compiles
  obtain ⟨-, numbered, -, -⟩ := setting_of_findSetting (read_eq_ok_iff.1 found).1
  refine ⟨setting, analysis, found, numbered, plugins_of_findSetting (read_eq_ok_iff.1 found).1,
    presents_of_read found, fun plugin => ?_⟩
  obtain ⟨draft, -, reads, rfl⟩ := exists_readFile_of_read found
  have tells := Draft.tellsUses_of_readFile reads
  have written := tells.written_filter plugin
  refine ⟨written, fun first rest whole => ?_⟩
  obtain ⟨begins, repeats⟩ := isWritten_of_forall₂ tells.first (whole ▸ written)
  obtain ⟨top, atFirst, -⟩ := begins.exists_top?
  refine ⟨top, begins, atFirst, repeats, ?_⟩
  refine Script.shownTops_of_first _ whole atFirst fun entry member => ?_
  obtain ⟨top, found, none⟩ := (repeats entry member).exists_top?
  rw [found, none rfl]

section Lost

/-- A run with a plugin that has a top, in which something is left out. -/
def withTop (strip : Strip) : Environment :=
  { Environment.plain with
    options := { strip := strip }, plugins := ⟨[("P", { top := "T", body := "B" })]⟩ }

/-- A plugin embedded in the notes of a slide and on the next one. -/
def embeddedTwice : String := "Notes:\n\n=P()\n\n---\n\n=P()\n"

theorem compile_tops_embeddedTwice : ∃ compiled : Compiled Float, ∃ setting,
    ∃ analysis : Analysis Float, compile (withTop {}) 1 "a" embeddedTwice = .ok compiled ∧
      ∃ first second, analysis.scripts.flatMap (Script.embeds "P") = [first, second] ∧
        Script.shownTops compiled.options.strip "P" analysis.scripts = ["T", ""] ∧
        compiled.PlacesTop setting analysis.scripts "P" first [second] "T" := by
  have seen : (read (W := Float) (withTop {}) 1 "a"
      (Source.ofText embeddedTwice.toList)).toOption.any (fun reading =>
        ((reading.2.scripts.flatMap (Script.embeds "P")).map fun entry =>
          entry.piece.top? "P") = [some "T", some ""] ∧
        Script.shownTops {} "P" reading.2.scripts = ["T", ""]) = true := by
    unfold read findSetting
    rw [Outline.ofSource_eq_within 30 (by decide +kernel)]
    decide +kernel
  obtain ⟨⟨setting, analysis⟩, found, holds⟩ := exists_of_any seen
  obtain ⟨twice, tops⟩ := of_decide_eq_true holds
  obtain ⟨first, rest, both, atFirst, others⟩ := List.map_eq_cons_iff.1 twice
  obtain ⟨second, none, rfl, -, last⟩ := List.map_eq_cons_iff.1 others
  obtain rfl := List.map_eq_nil_iff.1 last
  have compiles : compile (withTop {}) 1 "a" embeddedTwice =
      .ok (present (withTop {}) 1 "a" _ (setting, analysis)) :=
    ofSource_eq_ok_iff.2 ⟨setting, analysis, found, rfl⟩
  obtain ⟨_, _, same, -, -, -, places⟩ := compile_tops compiles
  obtain ⟨rfl, rfl⟩ := Prod.mk.inj (Except.ok.inj (found.symm.trans same))
  obtain ⟨top, places⟩ := (places "P").2 first [second] both
  obtain rfl := Option.some.inj (places.atFirst.symm.trans atFirst)
  exact ⟨_, setting, analysis, compiles, first, second, both, tops, places⟩

/-- The top of a plugin may be on no page that embeds the plugin. -/
theorem exists_lost_top : ∃ compiled : Compiled Float, ∃ setting, ∃ analysis : Analysis Float,
    compile (withTop { notes := true }) 1 "a" embeddedTwice = .ok compiled ∧
      read (withTop { notes := true }) 1 "a" (Source.ofText embeddedTwice.toList) =
        .ok (setting, analysis) ∧
      compiled.Presents (withTop { notes := true }) analysis ∧
      Template.fill "T" ⟨"P", slideId 1 2, "", 1⟩ = .ok "T" ∧
      Script.shownTops compiled.options.strip "P" analysis.scripts = [""] := by
  have seen : (read (W := Float) (withTop { notes := true }) 1 "a"
      (Source.ofText embeddedTwice.toList)).toOption.any (fun reading =>
        Script.shownTops { notes := true } "P" reading.2.scripts = [""]) = true := by
    unfold read findSetting
    rw [Outline.ofSource_eq_within 30 (by decide +kernel)]
    decide +kernel
  obtain ⟨⟨setting, analysis⟩, found, holds⟩ := exists_of_any seen
  exact ⟨_, setting, analysis, ofSource_eq_ok_iff.2 ⟨setting, analysis, found, rfl⟩, found,
    presents_of_read found, by decide +kernel, of_decide_eq_true holds⟩

end Lost

end Compiled

end LectureDeck
