import LectureDeck.Proofs.Deck.Gathering
import LectureDeck.Proofs.Deck.Presenting
import LectureDeck.Proofs.Stepwise
import Mathlib.Data.List.Nodup

/-!
# Plugins of a file

What is known of plugins when a file is read to its end: each slide embeds a plugin once
(`LectureDeck.Draft.kept_plugins`), the uses of plugins are the embeds of those that the run knows,
and there is a warning for each of the others and for each call without an embed
(`LectureDeck.Draft.pluginUses_of_readFile`, `LectureDeck.Draft.findings_of_readFile`). What the
templates of a plugin yield is at the head and in the scripts, the head and the top with the first
use only (`LectureDeck.Draft.tellsUses_of_readFile`).
-/

namespace LectureDeck

/-- A use of a plugin apart from whether it is the first. -/
def PluginUse.bare (use : PluginUse) : PluginUse := { use with isFirst := false }

namespace Block

/-- The use of a plugin that a block makes on a slide, if it embeds one that the run knows. -/
def use? (plugins : Plugins) (slide : Nat) : Block → Option PluginUse
  | .pluginEmbed name arguments => (plugins.get? name).map fun plugin =>
    ⟨name, slide, false, arguments, Template.fieldNames plugin.body⟩
  | _ => none

/-- The plugin that a block embeds, if the run does not know it. -/
def unknown? (plugins : Plugins) : Block → Option String
  | .pluginEmbed name _ => if plugins.contains name then none else some name
  | _ => none

end Block

section Missing

/-- A name that is added last counts if it is not among those before. -/
theorem distinct_concat (names : List String) (last : String) : distinct (names ++ [last]) =
    if (distinct names).contains last then distinct names else distinct names ++ [last] := by
  rw [distinct, List.foldl_append]
  rfl

/-- Names are not lost by leaving out their repetitions. -/
theorem mem_distinct {names : List String} {name : String} :
    name ∈ distinct names ↔ name ∈ names := by
  induction names using List.reverseRecOn with
  | nil => rfl
  | append_singleton names last earlier =>
    rw [distinct_concat, List.mem_append, List.mem_singleton, ← earlier]
    split
    · rename_i known
      rw [List.contains_iff_mem] at known
      exact ⟨.inl, fun either => either.elim id fun same => same ▸ known⟩
    · rw [List.mem_append, List.mem_singleton]

/-- Each of the distinct names is there once. -/
theorem nodup_distinct (names : List String) : (distinct names).Nodup := by
  induction names using List.reverseRecOn with
  | nil => exact List.nodup_nil
  | append_singleton names last earlier =>
    rw [distinct_concat]
    split
    · exact earlier
    · rename_i fresh
      rw [List.contains_iff_mem] at fresh
      rw [← List.concat_eq_append]
      exact earlier.concat fresh

/-- The plugins that blocks call and do not embed, each once. -/
def missingOf (blocks : List Block) : List String :=
  (distinct (blocks.flatMap Block.calls)).filter fun plugin =>
    !(blocks.filterMap Block.embedded?).contains plugin

/-- A plugin is missing from a slide if its text calls it and no block embeds it. -/
theorem mem_missingOf {blocks : List Block} {plugin : String} : plugin ∈ missingOf blocks ↔
    plugin ∈ blocks.flatMap Block.calls ∧ plugin ∉ blocks.filterMap Block.embedded? := by
  rw [missingOf, List.mem_filter, mem_distinct, Bool.not_eq_true', ← Bool.not_eq_true,
    List.contains_iff_mem]

/-- Each missing plugin is there once, however often it is called. -/
theorem nodup_missingOf (blocks : List Block) : (missingOf blocks).Nodup :=
  (nodup_distinct _).filter _

end Missing

namespace Draft

variable {W : Type} [Weight W] {setting : Setting} {draft after : Draft W}

/-- How a block of a slide is read: it embeds a plugin, or brings choices and calls. -/
inductive PartRead (setting : Setting) (draft : Draft W) (block : Block) (after : Draft W) : Prop
  | brings (plain : block.embedded? = none)
      (brings : Brings setting block.markers block.calls draft after)
  | embeds {name arguments : String} (same : block = .pluginEmbed name arguments)
      (new : name ∉ draft.slide.embeds)
      (read : EmbedRead setting (draft.withSlide draft.slide.closeList) name arguments after)

/-- A block is an embed of a plugin, which is read as such, or brings its markers and calls. -/
theorem partRead_of_readPart {block : Block} (read : draft.readPart setting block = .ok after) :
    PartRead setting draft block after := by
  cases embeds : block.embedded? with
  | none =>
    exact .brings embeds ((brings_of_readContent embeds read).onto (brings_beforeBlock setting _ _))
  | some name =>
    cases block with
    | pluginEmbed plugin arguments =>
      obtain ⟨new, embedded⟩ := embedRead_of_readEmbed read
      have same := SlideDraft.embeds_of_bare (SlideDraft.bare_closeList draft.slide)
      exact .embeds rfl (fun known => new (same ▸ known)) embedded
    | _ => contradiction

/-- The plugins that a slide calls and does not embed, each once. -/
def missing (slide : SlideDraft W) : List String :=
  (distinct slide.calls).filter fun plugin => !slide.embeds.contains plugin

/-- What a slide calls is what its blocks call, and it embeds a plugin once. -/
structure KnowsPlugins (blocks : List Block) (slide : SlideDraft W) : Prop where
  calls : slide.calls = blocks.flatMap Block.calls
  distinct : slide.embeds.Nodup

/-- The plugins that a slide finds missing when it ends are those that its blocks call and do not
embed. -/
theorem KnowsPlugins.missing {blocks : List Block} {slide : SlideDraft W}
    (knows : KnowsPlugins blocks slide) (tells : slide.Tells setting blocks) :
    missing slide = missingOf blocks := by
  rw [Draft.missing, knows.calls, tells.embeds, missingOf]

/-- **A slide embeds a plugin once.** -/
theorem kept_plugins (setting : Setting) :
    Kept (W := W) setting fun blocks slide => KnowsPlugins blocks slide where
  start := fun _ _ => ⟨rfl, List.nodup_nil⟩
  noted := fun _ knows => ⟨knows.calls, knows.distinct⟩
  part := by
    intro blocks draft after block read knows
    cases partRead_of_readPart read with
    | brings plain brings =>
      refine ⟨?_, brings.embeds ▸ knows.distinct⟩
      rw [brings.calls, knows.calls, List.flatMap_append, List.flatMap_singleton]
    | @embeds name arguments same new read =>
      have bare := SlideDraft.bare_closeList draft.slide
      have calls := SlideDraft.calls_of_bare bare
      have embedded := SlideDraft.embeds_of_bare bare
      have slide : after.slide.calls = draft.slide.calls ∧
          after.slide.embeds = draft.slide.embeds ++ [name] := by
        cases read with
        | known _ _ slide => exact slide ▸ ⟨calls, congrArg (· ++ [name]) embedded⟩
        | unknown _ slide => exact slide ▸ ⟨calls, congrArg (· ++ [name]) embedded⟩
      subst same
      refine ⟨?_, ?_⟩
      · rw [slide.1, knows.calls, List.flatMap_append]
        simp [Block.calls]
      · rw [slide.2, ← List.concat_eq_append]
        exact knows.distinct.concat new
  rule := by
    intro blocks slide knows
    refine ⟨?_, knows.distinct⟩
    rw [List.flatMap_append, knows.calls]
    exact (List.append_nil _).symm

/-- What is told of a slide, with what is known of its plugins. -/
theorem kept_knowing (setting : Setting) : Kept (W := W) setting fun blocks slide =>
    slide.Tells setting blocks ∧ KnowsPlugins blocks slide :=
  (kept_tells setting).and (kept_plugins setting)

section Uses

/-- The warning of a slide about a plugin that it embeds and the run does not know. -/
def unknownWarning (setting : Setting) (slide : Nat) (plugin : String) : Warning :=
  ⟨setting.file, some slide, .unknownPlugin plugin⟩

/-- The warning of a slide about a plugin that it calls and does not embed. -/
def missingWarning (setting : Setting) (slide : Nat) (plugin : String) : Warning :=
  ⟨setting.file, some slide, .missingEmbed plugin⟩

/-- What is found of the plugins that the blocks of a slide embed. -/
def unknownOf (setting : Setting) (slide : Nat) (block : Block) : List Warning :=
  ((block.unknown? setting.plugins).map (unknownWarning setting slide)).toList

omit [Weight W] in
/-- There is one warning for each plugin that a slide calls and does not embed, in the order of
first calls. -/
theorem warnOfCalls_eq (setting : Setting) (draft : Draft W) : warnOfCalls setting draft =
    { draft with file := { draft.file with
      warnings := draft.file.warnings ++
        (missing draft.slide).map (missingWarning setting draft.slide.number) } } := by
  unfold warnOfCalls missing
  generalize (distinct draft.slide.calls).filter _ = plugins
  induction plugins generalizing draft with
  | nil => simp
  | cons plugin rest later =>
    rw [List.foldl_cons, later]
    simp [warn, missingWarning]

/-- Links that are settled use no plugins. -/
theorem plugins_of_settle (settled : draft.settle setting = .ok after) :
    after.file.plugins = draft.file.plugins := by
  unfold settle at settled
  split at settled
  · contradiction
  · cases settled
    rfl

/-- At the end of a slide it is found which plugins it calls and does not embed. -/
theorem plugins_of_closeSlide {endBlock : Nat}
    (closed : draft.closeSlide setting endBlock = .ok after) :
    after.file.plugins = (draft.file.pluginUses, draft.file.heads, draft.file.findings ++
      (missing draft.slide).map (missingWarning setting draft.slide.number)) := by
  have bare := SlideDraft.bare_closeAll draft.slide
  have number := (SlideDraft.SamePlace.of_bare bare).number
  have same : missing draft.slide.closeAll = missing draft.slide :=
    (congrArg missing bare : missing draft.slide.closeAll.bare = _)
  have slide : (draft.withSlide draft.slide.closeAll).slide = draft.slide.closeAll := rfl
  have all : ((missing draft.slide).map (missingWarning setting draft.slide.number)).filter
      (fun warning => warning.finding.isOfPlugin) =
        (missing draft.slide).map (missingWarning setting draft.slide.number) :=
    List.filter_eq_self.2 (by simp [missingWarning, Finding.isOfPlugin])
  unfold closeSlide at closed
  obtain ⟨⟨recorded, question⟩, records, settled⟩ := bind_eq_ok.1 closed
  rw [recordQuestion_eq, bind_eq_ok] at records
  obtain ⟨_, -, records⟩ := records
  cases records
  rw [plugins_of_settle settled, warnOfCalls_eq, record_slide, slide, same, number]
  generalize slideQuestion setting (draft.withSlide draft.slide.closeAll) = question
  change (_, _, List.filter _ (_ ++ _)) = _
  rw [List.filter_append, all]
  cases question <;> rfl

omit [Weight W] in
/-- A block that is no embed uses no plugin and names no unknown one. -/
theorem use?_of_plain (setting : Setting) {block : Block} (plain : block.embedded? = none)
    (slide : Nat) :
    block.use? setting.plugins slide = none ∧ unknownOf setting slide block = [] := by
  cases block <;> first | contradiction | exact ⟨rfl, rfl⟩

/-- A plugin that is embedded is used if the run knows it, and there is a warning if not. -/
theorem uses_of_readPart {block : Block} (read : draft.readPart setting block = .ok after) :
    after.file.pluginUses.map PluginUse.bare = draft.file.pluginUses.map PluginUse.bare ++
        (block.use? setting.plugins draft.slide.number).toList ∧
      after.file.findings =
        draft.file.findings ++ unknownOf setting draft.slide.number block := by
  cases partRead_of_readPart read with
  | brings plain brings =>
    obtain ⟨use, unknown⟩ := use?_of_plain setting plain draft.slide.number
    obtain ⟨uses, same⟩ := Prod.mk.inj brings.file
    obtain ⟨-, findings⟩ := Prod.mk.inj same
    rw [use, unknown, uses, findings]
    simp
  | @embeds name arguments same new embedded =>
    have number : draft.slide.closeList.number = draft.slide.number :=
      (SlideDraft.SamePlace.of_bare (SlideDraft.bare_closeList draft.slide)).number
    subst same
    cases embedded with
    | known found _ _ file =>
      constructor
      · rw [file, List.map_append, Block.use?, found]
        simp [PluginUse.bare, withSlide, number]
      · simp [file, unknownOf, Block.unknown?, Plugins.contains, found, FileDraft.findings,
          withSlide]
    | unknown missing _ file =>
      constructor
      · simp [file, warn, withSlide, Block.use?, missing]
      · simp [file, unknownOf, Block.unknown?, Plugins.contains, missing, FileDraft.findings, warn,
          withSlide, Finding.isOfPlugin, unknownWarning, number]

/-- The uses of plugins are gathered from the blocks of a file: one for each embed of a plugin that
the run knows. -/
theorem gathers_pluginUses (setting : Setting) : Gathers (W := W) setting
    (fun blocks slide => slide.Tells setting blocks ∧ KnowsPlugins blocks slide)
    (fun file => file.pluginUses.map PluginUse.bare)
    (fun slide block => (block.use? setting.plugins slide).toList) (fun _ _ => []) where
  kept := kept_knowing setting
  start := rfl
  part := fun read => (uses_of_readPart read).1
  close := by
    intro draft after endBlock blocks _ closed
    rw [List.append_nil]
    exact congrArg (List.map PluginUse.bare) (Prod.mk.inj (plugins_of_closeSlide closed)).1
  rule := fun _ => rfl

/-- The warnings of plugins are gathered from the blocks too, and from what their slides leave
missing at their ends. -/
theorem gathers_findings (setting : Setting) : Gathers (W := W) setting
    (fun blocks slide => slide.Tells setting blocks ∧ KnowsPlugins blocks slide) FileDraft.findings
    (unknownOf setting)
    (fun slide blocks => (missingOf blocks).map (missingWarning setting slide)) where
  kept := kept_knowing setting
  start := rfl
  part := fun read => (uses_of_readPart read).2
  close := by
    intro draft after endBlock blocks knows closed
    rw [← knows.2.missing knows.1]
    exact (Prod.mk.inj (Prod.mk.inj (plugins_of_closeSlide closed)).2).2
  rule := fun _ => rfl

/-- **Plugins are used where blocks embed them.** -/
theorem pluginUses_of_readFile (read : readFile setting = .ok after) :
    after.file.pluginUses.map PluginUse.bare = after.file.slides.flatMap fun slide =>
      (slide.blocksOf setting.outline.blocks).filterMap
        (Block.use? setting.plugins slide.number) := by
  rw [(gathers_pluginUses setting).of_readFile read]
  refine List.flatMap_congr fun slide _ => ?_
  rw [Slide.gives, List.append_nil]
  exact (List.filterMap_eq_flatMap_toList _ _).symm

/-- **Warnings of plugins** are of embeds that the run does not know, and of calls without an
embed. -/
theorem findings_of_readFile (read : readFile setting = .ok after) :
    after.file.findings = after.file.slides.flatMap fun slide =>
      ((slide.blocksOf setting.outline.blocks).filterMap
        (Block.unknown? setting.plugins)).map (unknownWarning setting slide.number) ++
      (missingOf (slide.blocksOf setting.outline.blocks)).map
        (missingWarning setting slide.number) := by
  rw [(gathers_findings setting).of_readFile read]
  refine List.flatMap_congr fun slide _ => ?_
  rw [Slide.gives, List.map_filterMap, List.filterMap_eq_flatMap_toList]
  rfl

end Uses

end Draft

section Written

/-- What the templates of a plugin are filled with for a use. -/
def PluginUse.fields (fileNumber : Nat) (use : PluginUse) : TemplateFields :=
  ⟨use.name, slideId fileNumber use.slide, use.arguments, fileNumber⟩

/-- A use is marked as the first one if no use before it is of the same plugin. -/
def PluginUse.IsMarkedAfter (before : List PluginUse) (use : PluginUse) : Prop :=
  use.isFirst = !before.any fun other => other.name == use.name

/-- A use puts something at the head of the page: it is the first one of a plugin that has a
head. -/
def PluginUse.hasHead (plugins : Plugins) (use : PluginUse) : Bool :=
  use.isFirst && (plugins.get? use.name).any fun plugin => !plugin.head.isEmpty

/-- A text at the head of the page is the head of the plugin, filled for its first use. -/
def PluginUse.Heads (setting : Setting) (use : PluginUse) (head : String) : Prop :=
  ∃ plugin, setting.plugins.get? use.name = some plugin ∧
    Template.fill plugin.head (use.fields setting.fileNumber) = .ok head

/-- A piece is the markup of a use: the body and the button of the plugin after its top, which is
there for the first use. -/
def PluginUse.Writes (setting : Setting) (use : PluginUse) (piece : Piece) : Prop :=
  ∃ plugin top body button, setting.plugins.get? use.name = some plugin ∧
    (if use.isFirst then Template.fill plugin.top (use.fields setting.fileNumber) = .ok top
      else top = "") ∧
    Template.fill plugin.body (use.fields setting.fileNumber) = .ok body ∧
    Template.fill plugin.button (use.fields setting.fileNumber) = .ok button ∧
    piece = .plugin (slideId setting.fileNumber use.slide) use.name top body button

/-- What is at the head of the page and what the scripts have of plugins is what their uses yield.
Of the uses of a plugin one is the first. -/
structure TellsUses (setting : Setting) (uses : List PluginUse) (heads : List String)
    (entries : List Entry) : Prop where
  first : Stepwise PluginUse.IsMarkedAfter uses
  heads : List.Forall₂ (PluginUse.Heads setting)
    (uses.filter (PluginUse.hasHead setting.plugins)) heads
  written : List.Forall₂ (fun use entry => use.Writes setting entry.piece) uses entries

/-- A plugin is used once more. -/
theorem TellsUses.concat {setting : Setting} {uses : List PluginUse} {heads more : List String}
    {entries : List Entry} (tells : TellsUses setting uses heads entries) {use : PluginUse}
    {entry : Entry} {plugin : Plugin} {top body button : String}
    (isFirst : use.IsMarkedAfter uses)
    (found : setting.plugins.get? use.name = some plugin)
    (yields : plugin.Yields (use.fields setting.fileNumber) use.isFirst more top body button)
    (piece : entry.piece =
      .plugin (slideId setting.fileNumber use.slide) use.name top body button) :
    TellsUses setting (uses ++ [use]) (heads ++ more) (entries ++ [entry]) where
  first := Stepwise.concat_iff.2 ⟨tells.first, isFirst⟩
  heads := by
    have own : use.hasHead setting.plugins = (use.isFirst && !plugin.head.isEmpty) := by
      rw [PluginUse.hasHead, found]
      rfl
    have atHead := yields.atHead
    rw [List.filter_append]
    refine List.rel_append tells.heads ?_
    split at atHead
    · rename_i puts
      obtain ⟨head, filled, rfl⟩ := atHead
      rw [List.filter_singleton, own, puts]
      exact .cons ⟨plugin, found, filled⟩ .nil
    · rename_i puts
      rw [atHead, List.filter_singleton, own, (Bool.not_eq_true _).mp puts]
      exact .nil
  written := List.rel_append tells.written
    (.cons ⟨plugin, top, body, button, found, yields.atTop, yields.inBody, yields.onButton, piece⟩
      .nil)

end Written

namespace Draft

variable {W : Type} [Weight W] {setting : Setting} {draft after : Draft W}

/-- What plugins have of a draft is what their uses yield. -/
structure TellsPlugins (setting : Setting) (draft : Draft W) : Prop where
  id : draft.slide.id = slideId setting.fileNumber draft.slide.number
  tells : TellsUses setting draft.file.pluginUses draft.file.heads
    (draft.file.scripts.flatMap Script.plugins ++ Script.plugins draft.slide.script)

/-- A block keeps what the scripts and the heads tell of plugins the same as what the uses tell. -/
theorem TellsPlugins.of_readPart {block : Block} (read : draft.readPart setting block = .ok after)
    (tells : draft.TellsPlugins setting) : after.TellsPlugins setting := by
  have stays := stays_of_readPart read
  have id : after.slide.id = draft.slide.id := stays.place.id
  have number : after.slide.number = draft.slide.number := stays.place.number
  have scripts : after.file.scripts = draft.file.scripts := stays.file.scripts
  refine ⟨by rw [id, number]; exact tells.id, ?_⟩
  rw [scripts]
  cases partRead_of_readPart read with
  | brings plain brings =>
    obtain ⟨uses, same⟩ := Prod.mk.inj brings.file
    obtain ⟨heads, -⟩ := Prod.mk.inj same
    rw [uses, heads, brings.written]
    exact tells.tells
  | @embeds name arguments same new embedded =>
    have place := SlideDraft.SamePlace.of_bare (SlideDraft.bare_closeList draft.slide)
    have written : Script.plugins draft.slide.closeList.script =
        Script.plugins draft.slide.script :=
      congrArg (fun view => view.2.2.2) (SlideDraft.overlooksMarks_uttered.closeList draft.slide)
    have own : draft.slide.closeList.id =
        slideId setting.fileNumber draft.slide.closeList.number := by
      rw [place.id, place.number]
      exact tells.id
    cases embedded with
    | @known plugin heads top body button found yields slide file =>
      rw [file, slide, SlideDraft.write, Script.plugins_concat]
      change TellsUses setting (draft.file.pluginUses ++ [_]) (draft.file.heads ++ heads)
        (_ ++ (Script.plugins draft.slide.closeList.script ++ [_]))
      rw [written, ← List.append_assoc]
      have fields : templateFields setting (draft.withSlide draft.slide.closeList) name arguments =
          ⟨name, slideId setting.fileNumber draft.slide.closeList.number, arguments,
            setting.fileNumber⟩ := congrArg (TemplateFields.mk name · arguments _) own
      rw [fields] at yields
      exact tells.tells.concat rfl found yields (congrArg (Piece.plugin · name top body button) own)
    | unknown _ slide file =>
      rw [file, slide, SlideDraft.write, Script.plugins_concat]
      change TellsUses setting draft.file.pluginUses draft.file.heads
        (_ ++ (Script.plugins draft.slide.closeList.script ++ []))
      rw [written, List.append_nil]
      exact tells.tells

/-- What scripts, heads and uses tell of plugins stays the same over a whole file. -/
theorem lasting_tellsPlugins (setting : Setting) :
    LastingByPart (W := W) setting (fun draft => draft.TellsPlugins setting)
      (fun file => TellsUses setting file.pluginUses file.heads
        (file.scripts.flatMap Script.plugins)) where
  start := ⟨rfl, Stepwise.nil, .nil, .nil⟩
  part := fun read tells => tells.of_readPart read
  noteContent := fun _ tells => ⟨tells.id, tells.tells⟩
  close := by
    intro draft after endBlock closed tells
    have written : Script.plugins draft.slide.closeAll.script =
        Script.plugins draft.slide.script :=
      congrArg (fun view => view.2.2.2) (SlideDraft.overlooksMarks_uttered.closeAll draft.slide)
    obtain ⟨uses, same⟩ := Prod.mk.inj (plugins_of_closeSlide closed)
    obtain ⟨heads, -⟩ := Prod.mk.inj same
    rw [uses, heads, scripts_of_closeSlide closed, List.flatMap_append, List.flatMap_singleton,
      written]
    exact tells.tells
  next := by
    intro draft endBlock tells
    exact ⟨rfl, (List.append_nil _).symm ▸ tells⟩

/-- **What plugins have of a file is what their uses yield.** -/
theorem tellsUses_of_readFile (read : readFile setting = .ok after) :
    TellsUses setting after.file.pluginUses after.file.heads
      (after.file.scripts.flatMap Script.plugins) :=
  (lasting_tellsPlugins setting).of_readFile read

end Draft

end LectureDeck
