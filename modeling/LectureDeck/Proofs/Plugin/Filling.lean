import LectureDeck.Plugin.Template
import LectureDeck.Proofs.Outline.Lines
import LectureDeck.Proofs.Result
import Mathlib.Data.List.Induction

/-!
# The filling of templates

A template is divided in one way into placeholders and the characters between them
(`LectureDeck.Template.divides_iff`). It is filled if every name in its placeholders is that of a
field, and then each placeholder is replaced by the value of its field, which is not read again;
otherwise the first other name is told (`LectureDeck.Template.exists_isFilling`).
-/

namespace LectureDeck

open LectureDeck.Text

/-- The names of the fields that there are. -/
def TemplateFields.names : List String :=
  ["pluginName", "pluginId", "pluginLabel", "pluginArgs", "pluginSlide", "pluginNumber"]

/-- Whether a field has a value does not depend on the values. -/
theorem TemplateFields.exists_value?_iff {fields : TemplateFields} {name : String} :
    (∃ value, fields.value? name = some value) ↔ name ∈ names := by
  unfold value? names
  split <;> simp_all

namespace Template

section Placeholders

/-- A placeholder as it is written: a name in double braces, with gaps around it. -/
def IsPlaceholder (source : List Char) (name : String) : Prop :=
  ∃ before after, (∀ c ∈ before, isGap c = true) ∧ (∀ c ∈ name.toList, isWordChar c = true) ∧
    (∀ c ∈ after, isGap c = true) ∧
    source = ['{', '{'] ++ (before ++ (name.toList ++ (after ++ ['}', '}'])))

/-- A template is read from its start: a placeholder where there is one, and elsewhere a
character. -/
inductive Divides : List Char → List TemplatePart → Prop
  | nothing : Divides [] []
  | field {source : List Char} {name : String} (written : IsPlaceholder source name)
      {rest : List Char} {parts : List TemplatePart} (divides : Divides rest parts) :
      Divides (source ++ rest) (.field name :: parts)
  | char {c : Char} {rest : List Char}
      (plain : ∀ source name, IsPlaceholder source name → ¬source <+: c :: rest)
      {parts : List TemplatePart} (divides : Divides rest parts) :
      Divides (c :: rest) (.char c :: parts)

variable {before word after cs rest source : List Char} {name : String} {size : Nat}

/-- No character of a word is a gap. -/
theorem isGap_of_isWordChar {c : Char} (inWord : isWordChar c = true) : isGap c = false := by
  rw [← Bool.not_eq_true]
  intro gap
  rcases isGap_iff.1 gap with rfl | rfl <;> contradiction

/-- A name between gaps, with what it is closed by, is read with all of both gaps. -/
theorem word_between_gaps (gapBefore : ∀ c ∈ before, isGap c = true)
    (inWord : ∀ c ∈ word, isWordChar c = true) (gapAfter : ∀ c ∈ after, isGap c = true)
    (closes : ∀ c ∈ rest.head?, isGap c = false ∧ isWordChar c = false) :
    (skipGap (before ++ (word ++ (after ++ rest)))).takeWhile isWordChar = word ∧
      skipGap ((skipGap (before ++ (word ++ (after ++ rest)))).dropWhile isWordChar) = rest := by
  have noGap : ∀ c ∈ rest.head?, isGap c = false := fun c first => (closes c first).1
  have noWord : ∀ c ∈ rest.head?, isWordChar c = false := fun c first => (closes c first).2
  cases word with
  | nil =>
    -- Without a name there is one gap, which is all before it.
    have gaps : ∀ c ∈ before ++ after, isGap c = true :=
      List.forall_mem_append.2 ⟨gapBefore, gapAfter⟩
    have skipped : skipGap (before ++ ([] ++ (after ++ rest))) = rest := by
      rw [List.nil_append, ← List.append_assoc]
      exact (span_append gaps noGap).2
    have taken := span_append (List.forall_mem_nil _) noWord
    rw [List.nil_append] at taken
    rw [skipped, taken.1, taken.2]
    exact ⟨rfl, (span_append (List.forall_mem_nil _) noGap).2⟩
  | cons first word =>
    have starts : ∀ c ∈ (first :: word ++ (after ++ rest)).head?, isGap c = false := by
      rintro c (_ | _)
      exact isGap_of_isWordChar (inWord first List.mem_cons_self)
    have stops : ∀ c ∈ (after ++ rest).head?, isWordChar c = false := by
      intro c ahead
      cases after with
      | nil => exact noWord c ahead
      | cons gap after =>
        obtain rfl : gap = c := Option.some.inj ahead
        rw [← Bool.not_eq_true]
        intro inWord
        have blank := gapAfter gap List.mem_cons_self
        rw [isGap_of_isWordChar inWord] at blank
        contradiction
    have skipped := (span_append gapBefore starts).2
    have taken := span_append inWord stops
    rw [skipGap, skipped, taken.1, taken.2]
    exact ⟨rfl, (span_append gapAfter noGap).2⟩

/-- The placeholder at the start of a text is the one that is written there. -/
theorem placeholder?_eq_some_iff : placeholder? cs = some (name, size) ↔
    ∃ source rest, cs = source ++ rest ∧ IsPlaceholder source name ∧ source.length = size := by
  constructor
  · intro read
    obtain ⟨start, opened, read⟩ := Option.bind_eq_some_iff.1 read
    obtain ⟨rest, closed, read⟩ := Option.bind_eq_some_iff.1 read
    cases read
    set inner := skipGap start with skipped
    have whole : cs = ['{', '{'] ++ (start.takeWhile isGap ++ (inner.takeWhile isWordChar ++
        ((inner.dropWhile isWordChar).takeWhile isGap ++ ['}', '}']))) ++ rest := by
      simp only [List.append_assoc]
      rw [after?_eq_some_iff.1 opened, ← after?_eq_some_iff.1 closed]
      simp only [skipped, skipGap, List.takeWhile_append_dropWhile]
    refine ⟨_, rest, whole, ⟨_, _, fun c => List.mem_takeWhile_imp, fun c inside => ?_,
      fun c => List.mem_takeWhile_imp, by rw [String.toList_ofList]⟩, ?_⟩
    · rw [String.toList_ofList] at inside
      exact List.mem_takeWhile_imp inside
    · exact Nat.eq_sub_of_add_eq (by rw [← List.length_append, ← whole])
  · rintro ⟨source, rest, rfl, ⟨before, after, gapBefore, inWord, gapAfter, rfl⟩, rfl⟩
    have closes : ∀ c ∈ (['}', '}'] ++ rest).head?, isGap c = false ∧ isWordChar c = false := by
      rintro c (_ | _)
      decide
    obtain ⟨taken, left⟩ := word_between_gaps gapBefore inWord gapAfter closes
    have opened : after? ['{', '{']
        (['{', '{'] ++ (before ++ (name.toList ++ (after ++ ['}', '}']))) ++ rest) =
          some (before ++ (name.toList ++ (after ++ (['}', '}'] ++ rest)))) := by
      rw [after?_eq_some_iff]
      simp only [List.append_assoc]
    have closed : after? ['}', '}'] (['}', '}'] ++ rest) = some rest := after?_eq_some_iff.2 rfl
    simp only [placeholder?, opened, Option.bind_eq_bind, Option.bind_some, taken, left, closed,
      List.length_append, String.ofList_toList, Nat.add_sub_cancel]

/-- What stands before a text is left out of it. -/
theorem partsAfter_append (source rest : List Char) :
    partsAfter source.length (source ++ rest) = partsAfter 0 rest := by
  induction source with
  | nil => rfl
  | cons c source later => exact later

/-- A placeholder that begins a text is its first part. -/
theorem partsAfter_placeholder (written : IsPlaceholder source name) (rest : List Char) :
    partsAfter 0 (source ++ rest) = .field name :: partsAfter 0 rest := by
  have read := placeholder?_eq_some_iff.2 ⟨source, rest, rfl, written, rfl⟩
  cases source with
  | nil =>
    obtain ⟨_, _, -, -, -, same⟩ := written
    contradiction
  | cons c source =>
    rw [List.cons_append] at read
    rw [List.cons_append, partsAfter, read]
    exact congrArg _ (partsAfter_append source rest)

/-- A character that begins no placeholder is a part of its own. -/
theorem partsAfter_char {c : Char}
    (plain : ∀ source name, IsPlaceholder source name → ¬source <+: c :: rest) :
    partsAfter 0 (c :: rest) = .char c :: partsAfter 0 rest := by
  have read : placeholder? (c :: rest) = none := by
    rw [Option.eq_none_iff_forall_ne_some]
    rintro ⟨name, size⟩ found
    obtain ⟨source, after, same, written, -⟩ := placeholder?_eq_some_iff.1 found
    exact plain source name written ⟨after, same.symm⟩
  rw [partsAfter, read]

/-- The parts that a text is read as are those that it divides into. -/
theorem partsAfter_of_divides {parts : List TemplatePart} (divides : Divides cs parts) :
    partsAfter 0 cs = parts := by
  induction divides with
  | nothing => rfl
  | @field source name written rest parts _ later => rw [partsAfter_placeholder written, later]
  | char plain _ later => rw [partsAfter_char plain, later]

/-- A text divides into the parts that it is read as. -/
theorem divides_partsAfter (cs : List Char) : Divides cs (partsAfter 0 cs) := by
  -- The induction is on the length, because a placeholder takes many characters at once.
  induction size : cs.length using Nat.strong_induction_on generalizing cs with
  | _ most later =>
    cases cs with
    | nil => exact .nothing
    | cons c rest =>
      by_cases opens : ∃ source name, IsPlaceholder source name ∧ source <+: c :: rest
      · obtain ⟨source, name, written, after, same⟩ := opens
        have shorter : after.length < most := by
          obtain ⟨_, _, -, -, -, rfl⟩ := written
          rw [← size, ← same, List.length_append, List.length_append]
          exact Nat.lt_add_of_pos_left (Nat.add_pos_left Nat.two_pos _)
        rw [← same, partsAfter_placeholder written]
        exact .field written (later _ shorter after rfl)
      · have plain : ∀ source name, IsPlaceholder source name → ¬source <+: c :: rest :=
          fun source name written begins => opens ⟨source, name, written, begins⟩
        have shorter : rest.length < most := size ▸ Nat.lt_succ_self rest.length
        rw [partsAfter_char plain]
        exact .char plain (later _ shorter rest rfl)

/-- **A template is divided in one way.** -/
theorem divides_iff {template : String} {found : List TemplatePart} :
    Divides template.toList found ↔ found = parts template := by
  constructor
  · exact fun divides => (partsAfter_of_divides divides).symm
  · rintro rfl
    exact divides_partsAfter _

end Placeholders

section Names

/-- The names in the placeholders among some parts. -/
def namesIn (parts : List TemplatePart) : List String :=
  parts.filterMap fun part =>
    match part with
    | .char _ => none
    | .field name => some name

/-- Names in the order in which they are used for the first time. -/
structure IsFirstUses (uses names : List String) : Prop where
  mem_iff : ∀ name, name ∈ names ↔ name ∈ uses
  inOrder : names.Pairwise fun name other => uses.idxOf name < uses.idxOf other

/-- A name that is used last is new, or it was used before. -/
theorem eraseDups_concat (uses : List String) (last : String) : (uses ++ [last]).eraseDups =
    if last ∈ uses then uses.eraseDups else uses.eraseDups ++ [last] := by
  rw [List.eraseDups_append, List.removeAll]
  by_cases known : last ∈ uses
  · simp [known]
  · simp [known, List.eraseDups_cons]

/-- Without repetitions, names are left in the order of their first uses. -/
theorem isFirstUses_eraseDups (uses : List String) : IsFirstUses uses uses.eraseDups := by
  refine ⟨fun name => List.mem_eraseDups, ?_⟩
  induction uses using List.reverseRecOn with
  | nil => exact .nil
  | append_singleton uses last earlier =>
    have stays : ∀ name ∈ uses.eraseDups, (uses ++ [last]).idxOf name = uses.idxOf name :=
      fun name used => List.idxOf_append_of_mem (List.mem_eraseDups.1 used)
    have inOrder : uses.eraseDups.Pairwise fun name other =>
        (uses ++ [last]).idxOf name < (uses ++ [last]).idxOf other := by
      refine earlier.imp_of_mem fun used usedLater before => ?_
      rw [stays _ used, stays _ usedLater]
      exact before
    rw [eraseDups_concat]
    split
    · exact inOrder
    · rename_i fresh
      refine List.pairwise_append.2 ⟨inOrder, List.pairwise_singleton _ _, ?_⟩
      intro name used other same
      rw [List.mem_singleton.1 same, stays name used, List.idxOf_append_of_notMem fresh]
      exact Nat.lt_add_right _ (List.idxOf_lt_length_of_mem (List.mem_eraseDups.1 used))

/-- What is looked for is found at its first use. -/
theorem find?_eraseDups (p : String → Bool) (uses : List String) :
    uses.eraseDups.find? p = uses.find? p := by
  induction uses using List.reverseRecOn with
  | nil => rfl
  | append_singleton uses last earlier =>
    rw [eraseDups_concat, List.find?_append, ← earlier]
    split
    · rename_i known
      cases found : uses.eraseDups.find? p with
      | some name => rfl
      | none =>
        have passed := List.find?_eq_none.1 found last (List.mem_eraseDups.2 known)
        rw [Option.none_or, List.find?_singleton, if_neg passed]
    · rw [List.find?_append]

end Names

section Filling

/-- A text is made of the parts of a template: of its characters, and of a value for each
placeholder. -/
inductive IsReplaced (fields : TemplateFields) : List TemplatePart → List Char → Prop
  | nothing : IsReplaced fields [] []
  | char (c : Char) {parts : List TemplatePart} {text : List Char}
      (replaced : IsReplaced fields parts text) : IsReplaced fields (.char c :: parts) (c :: text)
  | field {name value : String} (known : fields.value? name = some value)
      {parts : List TemplatePart} {text : List Char} (replaced : IsReplaced fields parts text) :
      IsReplaced fields (.field name :: parts) (value.toList ++ text)

/-- What the filling of a template of given parts does. -/
structure IsFilling (template : String) (fields : TemplateFields) (parts : List TemplatePart) :
    Prop where
  /-- The parts are the only ones that the template is divided into. -/
  divides : ∀ others, Divides template.toList others ↔ others = parts
  names : IsFirstUses (namesIn parts) (fieldNames template)
  succeeds : (∃ text, fill template fields = .ok text) ↔
    ∀ name ∈ fieldNames template, name ∈ TemplateFields.names
  /-- A filling that fails tells the first name that is not that of a field. -/
  fails : ∀ name, fill template fields = .error name ↔
    (fieldNames template).find? (fun used => used ∉ TemplateFields.names) = some name
  replaces : ∀ text, fill template fields = .ok text ↔ IsReplaced fields parts text.toList
  /-- A template without placeholders stays as it is. -/
  plain : (∀ source name, IsPlaceholder source name → ¬source <:+: template.toList) →
    fill template fields = .ok template

variable {fields : TemplateFields} {template : String} {parts : List TemplatePart}

/-- A placeholder is filled with the value of its field. -/
theorem fillPart_field_eq_ok_iff {name : String} {text : List Char} :
    fillPart fields (.field name) = .ok text ↔
      ∃ value, fields.value? name = some value ∧ value.toList = text := by
  cases known : fields.value? name with
  | none => simp [fillPart, known]
  | some value => simp [fillPart, known]

/-- Parts are filled if and only if each placeholder among them is replaced by a value, and the rest
stays as it is. -/
theorem exists_mapM_fillPart_iff {text : List Char} :
    (∃ texts, parts.mapM (fillPart fields) = .ok texts ∧ texts.flatten = text) ↔
      IsReplaced fields parts text := by
  constructor
  · rintro ⟨texts, filled, rfl⟩
    induction parts generalizing texts with
    | nil =>
      cases filled
      exact .nothing
    | cons part parts later =>
      rw [List.mapM_cons, bind_eq_ok] at filled
      obtain ⟨first, one, filled⟩ := filled
      obtain ⟨others, rest, same⟩ := bind_eq_ok.1 filled
      cases same
      rw [List.flatten_cons]
      cases part with
      | char c =>
        cases one
        exact .char c (later others rest)
      | field name =>
        obtain ⟨value, known, rfl⟩ := fillPart_field_eq_ok_iff.1 one
        exact .field known (later others rest)
  · intro replaced
    induction replaced with
    | nothing => exact ⟨[], rfl, rfl⟩
    | char c _ later =>
      obtain ⟨texts, filled, rfl⟩ := later
      exact ⟨[c] :: texts, by rw [List.mapM_cons, filled]; rfl, rfl⟩
    | @field name value known parts _ _ later =>
      obtain ⟨texts, filled, rfl⟩ := later
      have one := fillPart_field_eq_ok_iff.2 ⟨value, known, rfl⟩
      exact ⟨value.toList :: texts, by rw [List.mapM_cons, one, filled]; rfl, rfl⟩

/-- Parts are not filled if a name among them is no field, and the first such name is told. -/
theorem mapM_fillPart_eq_error_iff {name : String} :
    parts.mapM (fillPart fields) = .error name ↔
      (namesIn parts).find? (fun used => used ∉ TemplateFields.names) = some name := by
  induction parts with
  | nil => exact ⟨nofun, nofun⟩
  | cons part parts later =>
    have passed (text : List Char) (one : fillPart fields part = .ok text) :
        (part :: parts).mapM (fillPart fields) = .error name ↔
          parts.mapM (fillPart fields) = .error name := by
      rw [List.mapM_cons, one]
      cases parts.mapM (fillPart fields) with
      | ok texts => exact ⟨nofun, nofun⟩
      | error found => rfl
    cases part with
    | char c => exact (passed [c] rfl).trans later
    | field first =>
      change _ ↔ (first :: namesIn parts).find? _ = _
      cases known : fields.value? first with
      | some value =>
        have isField : first ∈ TemplateFields.names :=
          TemplateFields.exists_value?_iff.1 ⟨value, known⟩
        rw [List.find?_cons_of_neg (by simpa using isField)]
        exact (passed value.toList (fillPart_field_eq_ok_iff.2 ⟨value, known, rfl⟩)).trans later
      | none =>
        have isOther : first ∉ TemplateFields.names := by
          rw [← @TemplateFields.exists_value?_iff fields, known]
          exact nofun
        have one : fillPart fields (.field first) = .error first := by simp only [fillPart, known]
        rw [List.find?_cons_of_pos (by simpa using isOther), List.mapM_cons, one]
        exact ⟨fun same => congrArg some (Except.error.inj same), fun same =>
          congrArg Except.error (Option.some.inj same)⟩

/-- A template is filled with the replacement of its parts. -/
theorem fill_eq_ok_iff {text : String} :
    fill template fields = .ok text ↔ IsReplaced fields (Template.parts template) text.toList := by
  rw [fill, map_eq_ok, ← exists_mapM_fillPart_iff]
  refine exists_congr fun texts => and_congr_right fun _ => ?_
  rw [← String.toList_inj, String.toList_ofList]

/-- The error of a template names the first of its names that is no field. -/
theorem fill_eq_error_iff {name : String} : fill template fields = .error name ↔
    (fieldNames template).find? (fun used => used ∉ TemplateFields.names) = some name := by
  change _ ↔ (namesIn (Template.parts template)).eraseDups.find? _ = _
  rw [find?_eraseDups, ← @mapM_fillPart_eq_error_iff fields, fill]
  cases (Template.parts template).mapM (fillPart fields) with
  | ok texts => exact ⟨nofun, nofun⟩
  | error found => exact ⟨fun same => congrArg _ (Except.error.inj same), fun same =>
      congrArg _ (Except.error.inj same)⟩

/-- A template is filled if and only if all of its names are those of fields. -/
theorem exists_fill_eq_ok_iff : (∃ text, fill template fields = .ok text) ↔
    ∀ name ∈ fieldNames template, name ∈ TemplateFields.names := by
  have noOther : (∃ text, fill template fields = .ok text) ↔
      (fieldNames template).find? (fun used => used ∉ TemplateFields.names) = none := by
    rw [Option.eq_none_iff_forall_ne_some]
    constructor
    · rintro ⟨text, filled⟩ name found
      cases filled.symm.trans (fill_eq_error_iff.2 found)
    · intro noName
      cases same : fill template fields with
      | ok text => exact ⟨text, rfl⟩
      | error name => exact absurd (fill_eq_error_iff.1 same) (noName name)
  rw [noOther, List.find?_eq_none]
  simp

/-- Characters outside of placeholders stay as they are. -/
theorem isReplaced_map_char (fields : TemplateFields) (cs : List Char) :
    IsReplaced fields (cs.map .char) cs := by
  induction cs with
  | nil => exact .nothing
  | cons c cs later => exact .char c later

/-- A text without placeholders divides into its characters. -/
theorem divides_map_char {cs : List Char}
    (plain : ∀ source name, IsPlaceholder source name → ¬source <:+: cs) :
    Divides cs (cs.map .char) := by
  induction cs with
  | nil => exact .nothing
  | cons c rest later =>
    refine .char (fun source name written begins => plain source name written begins.isInfix) ?_
    exact later fun source name written inside =>
      plain source name written (inside.trans (List.suffix_cons c rest).isInfix)

/-- **A template is filled if it asks only for fields that there are, and what is put in is not
read again.** -/
theorem exists_isFilling (template : String) (fields : TemplateFields) :
    ∃ parts, IsFilling template fields parts := by
  refine ⟨Template.parts template, fun others => divides_iff, isFirstUses_eraseDups _,
    exists_fill_eq_ok_iff, fun name => fill_eq_error_iff, fun text => fill_eq_ok_iff, ?_⟩
  intro plain
  rw [fill_eq_ok_iff, ← divides_iff.1 (divides_map_char plain)]
  exact isReplaced_map_char fields template.toList

/-- A value that looks like a placeholder stays as it is. -/
example : fill "\x7b\x7bpluginArgs\x7d\x7d" ⟨"P", "s", "\x7b\x7bpluginId\x7d\x7d", 1⟩ =
    .ok "\x7b\x7bpluginId\x7d\x7d" := by
  decide

end Filling

end Template

end LectureDeck
