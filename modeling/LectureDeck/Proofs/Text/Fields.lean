import LectureDeck.Text.Blank
import Mathlib.Data.List.Basic

/-!
# Fields and words of texts

A text is cut at each separator, so that no field has one
(`LectureDeck.Text.not_mem_of_mem_fields`). Texts that are joined with a separator between them are
told apart again if none of them has it (`LectureDeck.Text.fields_intercalate`). A text can also be
cut at the first separator alone (`LectureDeck.Text.cut?_eq_some_iff`), and into words at its
blanks, whatever stands between them (`LectureDeck.Text.words_append_cons`).
-/

namespace LectureDeck.Text

variable {separator : Char} {cs field : List Char}

/-- Every text has a field, if only an empty one. -/
theorem fields_ne_nil (separator : Char) (cs : List Char) : fields separator cs ≠ [] := by
  unfold fields
  split
  · simp
  · split
    · simp
    · split <;> simp

/-- A separator ends a field. -/
theorem fields_append_cons (separator : Char) (cs rest : List Char) :
    fields separator (cs ++ separator :: rest) = fields separator cs ++ fields separator rest := by
  induction cs with
  | nil =>
    rw [List.nil_append, fields.eq_def separator (separator :: rest)]
    exact if_pos rfl
  | cons c cs later =>
    rw [List.cons_append, fields, fields, later]
    split
    · rfl
    · cases found : fields separator cs with
      | nil => exact absurd found (fields_ne_nil separator cs)
      | cons first others => rfl

/-- No separator stands in a field. -/
theorem not_mem_of_mem_fields (member : field ∈ fields separator cs) : separator ∉ field := by
  induction cs generalizing field with
  | nil =>
    rw [List.mem_singleton.1 member]
    exact List.not_mem_nil
  | cons c rest later =>
    unfold fields at member
    split at member
    · rcases List.mem_cons.1 member with rfl | member
      · exact List.not_mem_nil
      · exact later member
    · rename_i other
      split at member
      · rw [List.mem_singleton.1 member]
        simpa using Ne.symm other
      · rename_i first others found
        rw [found] at later
        rcases List.mem_cons.1 member with rfl | member
        · rw [List.mem_cons, not_or]
          exact ⟨Ne.symm other, later List.mem_cons_self⟩
        · exact later (List.mem_cons_of_mem _ member)

/-- All characters of a field are in the text. -/
theorem mem_of_mem_fields (member : field ∈ fields separator cs) {c : Char}
    (inside : c ∈ field) : c ∈ cs := by
  induction cs generalizing field with
  | nil => rwa [List.mem_singleton.1 member] at inside
  | cons d rest later =>
    unfold fields at member
    split at member
    · rcases List.mem_cons.1 member with rfl | member
      · contradiction
      · exact List.mem_cons_of_mem _ (later member inside)
    · split at member
      · rw [List.mem_singleton.1 member, List.mem_singleton] at inside
        exact inside ▸ List.mem_cons_self
      · rename_i first others found
        rw [found] at later
        rcases List.mem_cons.1 member with rfl | member
        · rcases List.mem_cons.1 inside with rfl | inside
          · exact List.mem_cons_self
          · exact List.mem_cons_of_mem _ (later List.mem_cons_self inside)
        · exact List.mem_cons_of_mem _ (later (List.mem_cons_of_mem _ member) inside)

/-- A text without separators is one field. -/
theorem fields_of_not_mem (plain : separator ∉ cs) : fields separator cs = [cs] := by
  induction cs with
  | nil => rfl
  | cons c rest later =>
    obtain ⟨other, plain⟩ := not_or.1 (List.mem_cons.not.1 plain)
    rw [fields, if_neg (Ne.symm other), later plain]

/-- A text without the separator is the first field of what it begins. -/
theorem fields_append (plain : separator ∉ cs) (rest : List Char) :
    fields separator (cs ++ separator :: rest) = cs :: fields separator rest := by
  rw [fields_append_cons, fields_of_not_mem plain, List.singleton_append]

/-- Texts without the separator are the fields of what they make when they are joined. -/
theorem fields_intercalate {texts : List (List Char)} (some : texts ≠ [])
    (plain : ∀ text ∈ texts, separator ∉ text) :
    fields separator ([separator].intercalate texts) = texts := by
  induction texts with
  | nil => exact absurd rfl some
  | cons text others later =>
    obtain ⟨first, plain⟩ := List.forall_mem_cons.1 plain
    cases others with
    | nil => simpa using fields_of_not_mem first
    | cons next others =>
      rw [List.intercalate_cons_cons, List.append_assoc, List.singleton_append,
        fields_append first, later (List.cons_ne_nil _ _) plain]

/-- Fields make up the text when they are joined. -/
theorem intercalate_fields (separator : Char) (cs : List Char) :
    [separator].intercalate (fields separator cs) = cs := by
  induction cs with
  | nil => rfl
  | cons c cs later =>
    unfold fields
    split
    · rename_i same
      obtain ⟨first, others, found⟩ := List.exists_cons_of_ne_nil (fields_ne_nil separator cs)
      rw [found] at later ⊢
      rw [List.intercalate_cons_cons, later, same]
      rfl
    · split
      · rename_i found
        exact absurd found (fields_ne_nil separator cs)
      · rename_i first others found
        rw [found] at later
        rw [← later]
        cases others with
        | nil => simp
        | cons next others => simp [List.intercalate_cons_cons]

/-- Fields with a separator behind each make up the text with a separator behind it. -/
theorem flatMap_fields (separator : Char) (cs : List Char) :
    (fields separator cs).flatMap (· ++ [separator]) = cs ++ [separator] := by
  induction cs with
  | nil => rfl
  | cons c cs later =>
    obtain ⟨first, others, found⟩ := List.exists_cons_of_ne_nil (fields_ne_nil separator cs)
    rw [fields, List.cons_append, ← later]
    split
    · rename_i same
      rw [same]
      rfl
    · rw [found]
      rfl

/-- Fields tell the text. -/
theorem fields_inj {other : List Char} :
    fields separator cs = fields separator other ↔ cs = other := by
  constructor
  · intro same
    rw [← intercalate_fields separator cs, same, intercalate_fields]
  · exact congrArg _

/-- What has no separator adds to the first field of what follows. -/
theorem fields_append_of_eq_cons {before first : List Char} {others : List (List Char)}
    (plain : separator ∉ before) (found : fields separator cs = first :: others) :
    fields separator (before ++ cs) = (before ++ first) :: others := by
  induction before with
  | nil => exact found
  | cons c before later =>
    obtain ⟨other, plain⟩ := not_or.1 (List.mem_cons.not.1 plain)
    rw [List.cons_append, fields, if_neg (Ne.symm other), later plain]
    rfl

/-- Where separators are kept, the fields are left. -/
theorem fields_filter {p : Char → Bool} (kept : p separator = true) (cs : List Char) :
    fields separator (cs.filter p) = (fields separator cs).map (List.filter p) := by
  induction cs with
  | nil => rfl
  | cons c cs later =>
    obtain ⟨first, others, found⟩ := List.exists_cons_of_ne_nil (fields_ne_nil separator cs)
    rw [List.filter_cons, fields]
    by_cases same : c = separator
    · rw [if_pos same, same, if_pos kept, fields, if_pos rfl, later]
      rfl
    · rw [if_neg same, found]
      split
      · rename_i chosen
        rw [fields, if_neg same, later, found]
        simp [chosen]
      · rename_i dropped
        rw [later, found]
        simp [dropped]

/-- There is one field more than separators. -/
theorem length_fields (separator : Char) (cs : List Char) :
    (fields separator cs).length = cs.count separator + 1 := by
  induction cs with
  | nil => rfl
  | cons c cs later =>
    obtain ⟨first, others, found⟩ := List.exists_cons_of_ne_nil (fields_ne_nil separator cs)
    rw [fields, List.count_cons]
    by_cases same : c = separator
    · rw [if_pos same, if_pos (beq_iff_eq.2 same), List.length_cons, later]
    · rw [if_neg same, if_neg (mt beq_iff_eq.1 same), ← later, found]
      rfl

/-- Fields that are joined in two parts have a separator between the parts. -/
theorem intercalate_append {first second : List (List Char)} (some : first ≠ [])
    (others : second ≠ []) : [separator].intercalate (first ++ second) =
      [separator].intercalate first ++ separator :: [separator].intercalate second := by
  induction first with
  | nil => contradiction
  | cons text first later =>
    by_cases single : first = []
    · rw [single, List.singleton_append, List.intercalate_cons_of_ne_nil others]
      simp
    · have more : first ++ second ≠ [] := List.append_ne_nil_of_left_ne_nil single second
      rw [List.cons_append, List.intercalate_cons_of_ne_nil more, later single,
        List.intercalate_cons_of_ne_nil single, List.append_assoc _ _ (separator :: _)]

/-- A text is divided between two of its fields. -/
theorem exists_of_fields_eq_append {first second : List (List Char)} (some : first ≠ [])
    (others : second ≠ []) (parts : fields separator cs = first ++ second) : ∃ front back,
      cs = front ++ separator :: back ∧ fields separator front = first ∧
        fields separator back = second := by
  have plain : ∀ field ∈ first ++ second, separator ∉ field :=
    parts ▸ fun _ => not_mem_of_mem_fields
  obtain ⟨before, after⟩ := List.forall_mem_append.1 plain
  refine ⟨_, _, ?_, fields_intercalate some before, fields_intercalate others after⟩
  rw [← intercalate_append some others, ← parts, intercalate_fields]

/-- A field stands between separators, or at an end of the text. -/
theorem exists_of_mem_fields (member : field ∈ fields separator cs) : ∃ front back,
    cs = front ++ field ++ back ∧ (front = [] ∨ ∃ above, front = above ++ [separator]) ∧
      (back = [] ∨ ∃ more, back = separator :: more) := by
  obtain ⟨before, after, parts⟩ := List.append_of_mem member
  have whole := intercalate_fields separator cs
  rw [parts] at whole
  obtain ⟨back, tail, starts⟩ : ∃ back, [separator].intercalate (field :: after) = field ++ back ∧
      (back = [] ∨ ∃ more, back = separator :: more) := by
    by_cases last : after = []
    · rw [last, List.intercalate_singleton]
      exact ⟨[], (List.append_nil field).symm, .inl rfl⟩
    · rw [List.intercalate_cons_of_ne_nil last, List.append_assoc]
      exact ⟨_, rfl, .inr ⟨_, rfl⟩⟩
  by_cases first : before = []
  · rw [first, List.nil_append, tail] at whole
    exact ⟨[], back, by rw [← whole, List.nil_append], .inl rfl, starts⟩
  · rw [intercalate_append first (List.cons_ne_nil _ _), tail] at whole
    refine ⟨[separator].intercalate before ++ [separator], back, ?_, .inr ⟨_, rfl⟩, starts⟩
    rw [← whole]
    simp

section Ends

variable {front last first rest : List Char}

/-- The first field ends at the first separator. -/
theorem head?_fields (plain : separator ∉ first)
    (starts : rest = [] ∨ ∃ more, rest = separator :: more) :
    (fields separator (first ++ rest)).head? = some first := by
  rcases starts with rfl | ⟨more, rfl⟩
  · rw [List.append_nil, fields_of_not_mem plain, List.head?_cons]
  · rw [fields_append plain, List.head?_cons]

/-- A text has a first field, which a separator follows or nothing. -/
theorem exists_firstField (separator : Char) (cs : List Char) : ∃ first rest, cs = first ++ rest ∧
    separator ∉ first ∧ (rest = [] ∨ ∃ more, rest = separator :: more) := by
  by_cases inside : separator ∈ cs
  · obtain ⟨first, more, rfl, plain⟩ := List.eq_append_cons_of_mem inside
    exact ⟨first, separator :: more, rfl, plain, .inr ⟨more, rfl⟩⟩
  · exact ⟨cs, [], (List.append_nil cs).symm, inside, .inl rfl⟩

/-- The last field begins at the last separator. -/
theorem getLast?_fields (plain : separator ∉ last)
    (ends : front = [] ∨ ∃ above, front = above ++ [separator]) :
    (fields separator (front ++ last)).getLast? = some last := by
  rcases ends with rfl | ⟨above, rfl⟩
  · rw [List.nil_append, fields_of_not_mem plain, List.getLast?_singleton]
  · rw [List.append_assoc, List.singleton_append, fields_append_cons, fields_of_not_mem plain,
      List.getLast?_concat]

/-- A text has a last field, which stands behind a separator or at the beginning. -/
theorem exists_lastField (separator : Char) (cs : List Char) : ∃ front last, cs = front ++ last ∧
    separator ∉ last ∧ (front = [] ∨ ∃ above, front = above ++ [separator]) := by
  obtain ⟨first, rest, same, plain, starts⟩ := exists_firstField separator cs.reverse
  refine ⟨rest.reverse, first.reverse, ?_, by simpa using plain, ?_⟩
  · rw [← List.reverse_append, ← same, List.reverse_reverse]
  · exact starts.imp (by rintro rfl; rfl) fun ⟨more, begins⟩ => ⟨more.reverse, by simp [begins]⟩

end Ends

/-- What is neither in a separator nor in any of the texts is not in what they make. -/
theorem not_mem_intercalate {between : List Char} {texts : List (List Char)} {c : Char}
    (other : c ∉ between) (each : ∀ text ∈ texts, c ∉ text) : c ∉ between.intercalate texts := by
  induction texts with
  | nil => exact List.not_mem_nil
  | cons text others later =>
    obtain ⟨first, each⟩ := List.forall_mem_cons.1 each
    cases others with
    | nil => rwa [List.intercalate_singleton]
    | cons next others =>
      rw [List.intercalate_cons_cons, List.mem_append, List.mem_append, not_or, not_or]
      exact ⟨⟨first, other⟩, later each⟩

section Cut

variable {before after : List Char}

/-- A separator that the first part of a text lacks stands in the second. -/
theorem exists_append_of_not_mem {start rest : List Char} (lacks : separator ∉ start)
    (divided : start ++ rest = before ++ separator :: after) :
    ∃ part, before = start ++ part ∧ rest = part ++ separator :: after := by
  rcases List.append_eq_append_iff.1 divided with ⟨part, same, rest⟩ | ⟨part, same, divided⟩
  · exact ⟨part, same, rest⟩
  · cases part with
    | nil => exact ⟨[], by rw [same, List.append_nil, List.append_nil], divided.symm⟩
    | cons c part =>
      rw [(List.cons.inj divided).1] at lacks
      exact absurd (same ▸ by simp) lacks

/-- A text is cut at the first separator. -/
theorem cut?_append_cons (plain : separator ∉ before) (after : List Char) :
    cut? separator (before ++ separator :: after) = some (before, after) := by
  induction before with
  | nil => exact if_pos rfl
  | cons c before later =>
    obtain ⟨other, plain⟩ := not_or.1 (List.mem_cons.not.1 plain)
    rw [List.cons_append, cut?, if_neg (Ne.symm other), later plain]
    rfl

/-- A text without separators is not cut. -/
theorem cut?_of_not_mem (plain : separator ∉ cs) : cut? separator cs = none := by
  induction cs with
  | nil => rfl
  | cons c rest later =>
    obtain ⟨other, plain⟩ := not_or.1 (List.mem_cons.not.1 plain)
    rw [cut?, if_neg (Ne.symm other), later plain]
    rfl

/-- A text is cut if and only if it has a separator. -/
theorem cut?_eq_none_iff : cut? separator cs = none ↔ separator ∉ cs := by
  refine ⟨fun whole inside => ?_, cut?_of_not_mem⟩
  obtain ⟨start, last, rfl, plain⟩ := List.eq_append_cons_of_mem inside
  rw [cut?_append_cons plain] at whole
  contradiction

/-- A text is cut at the first separator, which stands between the parts. -/
theorem cut?_eq_some_iff : cut? separator cs = some (before, after) ↔
    separator ∉ before ∧ cs = before ++ separator :: after := by
  constructor
  · intro cuts
    by_cases inside : separator ∈ cs
    · obtain ⟨start, last, rfl, plain⟩ := List.eq_append_cons_of_mem inside
      rw [cut?_append_cons plain] at cuts
      cases cuts
      exact ⟨plain, rfl⟩
    · rw [cut?_of_not_mem inside] at cuts
      contradiction
  · rintro ⟨plain, rfl⟩
    exact cut?_append_cons plain after

/-- The parts of a cut text and the separator between them make up the text. -/
theorem eq_of_cut? (cuts : cut? separator cs = some (before, after)) :
    cs = before ++ separator :: after := (cut?_eq_some_iff.1 cuts).2

end Cut

section Literals

variable {literal rest : List Char}

/-- Nothing comes after a literal if the text does not begin with it. -/
theorem after?_eq_none_iff : after? literal cs = none ↔ ¬literal <+: cs := by
  rw [Option.eq_none_iff_forall_ne_some]
  simp only [ne_eq, after?_eq_some_iff]
  exact ⟨fun none ⟨rest, same⟩ => none rest same.symm, fun none rest same => none ⟨rest, same.symm⟩⟩

/-- A literal is found at any of its occurrences, or before. -/
theorem exists_cutAt?_append (literal before rest : List Char) : ∃ front between,
    cutAt? literal (before ++ literal ++ rest) = some (front, between ++ rest) := by
  induction before with
  | nil =>
    rw [List.nil_append]
    cases whole : literal ++ rest with
    | nil =>
      obtain ⟨rfl, rfl⟩ := List.append_eq_nil_iff.1 whole
      exact ⟨[], [], rfl⟩
    | cons c cs =>
      rw [cutAt?, after?_eq_some_iff.2 whole.symm]
      exact ⟨[], [], rfl⟩
  | cons c before later =>
    rw [List.cons_append, List.cons_append, cutAt?]
    split
    · rename_i after found
      have whole : c :: before ++ (literal ++ rest) = literal ++ after := by
        rw [← after?_eq_some_iff.1 found, List.cons_append, List.append_assoc]
      have shorter : rest.length ≤ after.length := by
        have same := congrArg List.length whole
        simp only [List.length_append, List.length_cons] at same
        omega
      have ends : rest <:+ literal ++ after := ⟨c :: before ++ literal, by simp [← whole]⟩
      obtain ⟨between, rfl⟩ := List.suffix_of_suffix_length_le ends (List.suffix_append _ _) shorter
      exact ⟨[], between, rfl⟩
    · obtain ⟨front, between, same⟩ := later
      exact ⟨c :: front, between, by rw [same]; rfl⟩

/-- A literal is found just if it occurs. -/
theorem cutAt?_eq_none_iff : cutAt? literal cs = none ↔ ¬literal <:+: cs := by
  constructor
  · rintro none ⟨before, rest, rfl⟩
    obtain ⟨front, between, found⟩ := exists_cutAt?_append literal before rest
    rw [none] at found
    contradiction
  · intro none
    rw [Option.eq_none_iff_forall_ne_some]
    rintro ⟨before, rest⟩ found
    exact none ⟨before, rest, (eq_of_cutAt?_eq_some found).symm⟩

end Literals

section Words

variable {blank : Char} {word : List Char}

/-- A blank ends a word, and the words behind it are read by themselves. -/
theorem wordsAfter_append_cons (gap : isBlank blank = true) (word cs rest : List Char) :
    wordsAfter word (cs ++ blank :: rest) = wordsAfter word cs ++ words rest := by
  induction cs generalizing word with
  | nil =>
    rw [List.nil_append, wordsAfter.eq_def word (blank :: rest), wordsAfter]
    simp only [gap, if_true]
    split <;> rfl
  | cons c cs later =>
    rw [List.cons_append, wordsAfter, wordsAfter, later, later]
    split
    · split <;> rfl
    · rfl

/-- A blank ends the words before it. -/
theorem words_append_cons (gap : isBlank blank = true) (cs rest : List Char) :
    words (cs ++ blank :: rest) = words cs ++ words rest := wordsAfter_append_cons gap [] cs rest

/-- Without blanks there is one word, with what was read of it before. -/
theorem wordsAfter_of_full (full : ∀ c ∈ cs, isBlank c = false) (word : List Char) :
    wordsAfter word cs = if (word.reverse ++ cs).isEmpty then [] else [word.reverse ++ cs] := by
  induction cs generalizing word with
  | nil => simp [wordsAfter]
  | cons c cs later =>
    obtain ⟨first, full⟩ := List.forall_mem_cons.1 full
    rw [wordsAfter, if_neg (by simp [first]), later full]
    simp

/-- A text without blanks is one word. -/
theorem words_of_full (some : cs ≠ []) (full : ∀ c ∈ cs, isBlank c = false) : words cs = [cs] := by
  rw [words, wordsAfter_of_full full]
  simpa using some

/-- No word has a blank. -/
theorem isBlank_of_mem_wordsAfter (full : ∀ c ∈ word, isBlank c = false) {part : List Char}
    (member : part ∈ wordsAfter word cs) : ∀ c ∈ part, isBlank c = false := by
  induction cs generalizing word with
  | nil =>
    unfold wordsAfter at member
    split at member
    · contradiction
    · rw [List.mem_singleton.1 member]
      simpa using full
  | cons c cs later =>
    unfold wordsAfter at member
    split at member
    · split at member
      · exact later (by simp) member
      · rcases List.mem_cons.1 member with rfl | member
        · simpa using full
        · exact later (by simp) member
    · rename_i first
      exact later (List.forall_mem_cons.2 ⟨Bool.eq_false_iff.2 first, full⟩) member

/-- No word has a blank in it. -/
theorem isBlank_of_mem_words (member : word ∈ words cs) : ∀ c ∈ word, isBlank c = false :=
  isBlank_of_mem_wordsAfter (by simp) member

end Words

end LectureDeck.Text
