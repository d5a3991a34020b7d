import LectureDeck.Proofs.Stepwise
import LectureDeck.Reference.Table

/-!
# Mentions of references

What the text of a file says of references, in the order in which it is read: links and definitions,
each with its slide. From it alone follows which names are defined where
(`LectureDeck.tableAfter`), which links lead forward (`LectureDeck.IsForward`), and where they land
(`LectureDeck.Lands`). A forward link to a name that is in the table in the end has landed, unless
the name was given to a repeated definition (`LectureDeck.IsRenamed`).
-/

namespace LectureDeck

/-- What a text says of references. -/
inductive Reference.Mention where
  | link (id : String)
  | definition (id : String) (kind : ReferenceKind) (counter : String)
  /-- A heading without an identifier. It defines its text, unless the name is taken. -/
  | heading (id counter : String)
deriving DecidableEq, Repr

namespace Reference.Mention

/-- The name that a mention defines when it is free. -/
def defines? : Reference.Mention → Option String
  | link _ => none
  | definition id _ _ => some id
  | heading id _ => some id

/-- A table after a mention on a slide. -/
def enter (slide : Nat) (table : Reference.Table) : Reference.Mention → Reference.Table
  | link _ => table
  | definition id kind counter => (table.define id kind counter slide).1
  | heading id counter =>
    if table.contains id then table else (table.define id .plain counter slide).1

end Reference.Mention

/-- The references of a file after mentions, each given with its slide. -/
def tableAfter (fileNumber : Nat) (mentions : List (Nat × Reference.Mention)) : Reference.Table :=
  mentions.foldl (fun table mention => mention.2.enter mention.1 table) ⟨fileNumber, [], []⟩

/-- A link on a slide leads forward to a name that was not in the table then. -/
def IsForward (fileNumber : Nat) (mentions : List (Nat × Reference.Mention)) (id : String)
    (slide : Nat) : Prop :=
  ∃ before after, mentions = before ++ (slide, .link id) :: after ∧
    (tableAfter fileNumber before).contains id = false

/-- A link on a slide lands on another, where its name is later defined for the first time. -/
def Lands (fileNumber : Nat) (mentions : List (Nat × Reference.Mention)) (id : String)
    (origin target : Nat) : Prop :=
  ∃ before between mention after,
    mentions = before ++ (origin, .link id) :: between ++ (target, mention) :: after ∧
      mention.defines? = some id ∧
      (tableAfter fileNumber (before ++ (origin, .link id) :: between)).contains id = false

/-- Links have landed on a name. -/
def HasLanded (fileNumber : Nat) (mentions : List (Nat × Reference.Mention)) (id : String) : Prop :=
  ∃ origin target, Lands fileNumber mentions id origin target

/-- A name was given to a definition, because the one that it asked for was taken. -/
def IsRenamed (fileNumber : Nat) (mentions : List (Nat × Reference.Mention)) (id : String) : Prop :=
  ∃ before slide name kind counter after,
    mentions = before ++ (slide, .definition name kind counter) :: after ∧
      (tableAfter fileNumber before).contains name = true ∧
      (tableAfter fileNumber before).freshId name = id

namespace Reference.Table

theorem contains_define (table : Table) (id other counter : String) (kind : ReferenceKind)
    (slide : Nat) : (table.define id kind counter slide).1.contains other =
      (table.contains other || (table.define id kind counter slide).2.id == other) := by
  simp [define, contains]

theorem contains_define_of_new {table : Table} {id : String} (new : table.contains id = false)
    (other counter : String) (kind : ReferenceKind) (slide : Nat) :
    (table.define id kind counter slide).1.contains other =
      (table.contains other || id == other) := by
  rw [contains_define]
  simp [define, new]

end Reference.Table

section Mentions

variable {fileNumber : Nat} {mentions : List (Nat × Reference.Mention)} {id : String}
  {slide origin target : Nat}

theorem tableAfter_concat (fileNumber : Nat) (mentions : List (Nat × Reference.Mention))
    (slide : Nat) (mention : Reference.Mention) :
    tableAfter fileNumber (mentions ++ [(slide, mention)]) =
      mention.enter slide (tableAfter fileNumber mentions) := by
  rw [tableAfter, List.foldl_append]
  rfl

/-- A name that is in the table stays in it. -/
theorem Reference.Mention.contains_enter {table : Reference.Table}
    (known : table.contains id = true) (slide : Nat) (mention : Reference.Mention) :
    (mention.enter slide table).contains id = true := by
  cases mention with
  | link => exact known
  | definition => simp [enter, Reference.Table.contains_define, known]
  | heading =>
    rw [enter]
    split
    · exact known
    · simp [Reference.Table.contains_define, known]

/-- A name that a mention defines is in the table then. -/
theorem Reference.Mention.contains_enter_of_defines {mention : Reference.Mention}
    (defines : mention.defines? = some id) (slide : Nat) (table : Reference.Table) :
    (mention.enter slide table).contains id = true := by
  cases known : table.contains id with
  | true => exact mention.contains_enter known slide
  | false =>
    cases mention with
    | link => contradiction
    | definition other kind counter =>
      obtain rfl := Option.some.inj defines
      simp [enter, Reference.Table.contains_define_of_new known]
    | heading other counter =>
      obtain rfl := Option.some.inj defines
      simp [enter, known, Reference.Table.contains_define_of_new known]

theorem contains_tableAfter_append {before : List (Nat × Reference.Mention)}
    (known : (tableAfter fileNumber before).contains id = true)
    (after : List (Nat × Reference.Mention)) :
    (tableAfter fileNumber (before ++ after)).contains id = true := by
  induction after using List.reverseRecOn with
  | nil => rwa [List.append_nil]
  | append_singleton after last later =>
    rw [← List.append_assoc, tableAfter_concat]
    exact last.2.contains_enter later last.1

theorem not_contains_of_append {before after : List (Nat × Reference.Mention)}
    (free : (tableAfter fileNumber (before ++ after)).contains id = false) :
    (tableAfter fileNumber before).contains id = false := by
  cases known : (tableAfter fileNumber before).contains id with
  | false => rfl
  | true =>
    rw [contains_tableAfter_append known] at free
    contradiction

/-- One more mention adds a forward link if it is a link to a name that is not defined. -/
theorem isForward_concat_iff {mention : Reference.Mention} :
    IsForward fileNumber (mentions ++ [(slide, mention)]) id origin ↔
      IsForward fileNumber mentions id origin ∨
        (mention = .link id ∧ slide = origin ∧
          (tableAfter fileNumber mentions).contains id = false) := by
  constructor
  · rintro ⟨before, after, same, free⟩
    rcases concat_eq_append_cons.1 same with ⟨rfl, last, -⟩ | ⟨rest, whole, -⟩
    · cases last
      exact .inr ⟨rfl, rfl, free⟩
    · exact .inl ⟨before, rest, whole, free⟩
  · rintro (⟨before, after, rfl, free⟩ | ⟨rfl, rfl, free⟩)
    · exact ⟨before, after ++ [(slide, mention)], by simp, free⟩
    · exact ⟨mentions, [], rfl, free⟩

/-- One more mention makes the forward links land whose name it defines first. -/
theorem lands_concat_iff {mention : Reference.Mention} :
    Lands fileNumber (mentions ++ [(slide, mention)]) id origin target ↔
      Lands fileNumber mentions id origin target ∨
        (slide = target ∧ mention.defines? = some id ∧
          (tableAfter fileNumber mentions).contains id = false ∧
          IsForward fileNumber mentions id origin) := by
  constructor
  · rintro ⟨before, between, landing, after, same, defines, free⟩
    rcases concat_eq_append_cons.1 same with ⟨rfl, last, -⟩ | ⟨rest, rfl, -⟩
    · cases last
      exact .inr ⟨rfl, defines, free, before, between, rfl, not_contains_of_append free⟩
    · exact .inl ⟨before, between, landing, rest, rfl, defines, free⟩
  · rintro (⟨before, between, landing, after, rfl, defines, free⟩ |
      ⟨rfl, defines, free, before, between, rfl, -⟩)
    · exact ⟨before, between, landing, after ++ [(slide, mention)], by simp, defines, free⟩
    · exact ⟨before, between, mention, [], rfl, defines, free⟩

/-- A name on which a link has landed is defined. -/
theorem Lands.contains (lands : Lands fileNumber mentions id origin target) :
    (tableAfter fileNumber mentions).contains id = true := by
  obtain ⟨before, between, mention, after, rfl, defines, -⟩ := lands
  have landed := mention.contains_enter_of_defines defines target
    (tableAfter fileNumber (before ++ (origin, .link id) :: between))
  rw [← tableAfter_concat] at landed
  simpa using contains_tableAfter_append landed after

/-- A link that lands leads forward. -/
theorem Lands.isForward (lands : Lands fileNumber mentions id origin target) :
    IsForward fileNumber mentions id origin := by
  obtain ⟨before, between, mention, after, rfl, defines, free⟩ := lands
  exact ⟨before, between ++ (target, mention) :: after, by simp, not_contains_of_append free⟩

/-- A link lands where something is mentioned. -/
theorem Lands.exists_mem (lands : Lands fileNumber mentions id origin target) :
    ∃ mention, (target, mention) ∈ mentions := by
  obtain ⟨before, between, mention, after, rfl, -, -⟩ := lands
  exact ⟨mention, by simp⟩

/-- What has landed has landed. -/
theorem Lands.append (lands : Lands fileNumber mentions id origin target)
    (later : List (Nat × Reference.Mention)) :
    Lands fileNumber (mentions ++ later) id origin target := by
  obtain ⟨before, between, mention, after, rfl, defines, free⟩ := lands
  exact ⟨before, between, mention, after ++ later, by simp, defines, free⟩

theorem HasLanded.contains (landed : HasLanded fileNumber mentions id) :
    (tableAfter fileNumber mentions).contains id = true := by
  obtain ⟨_, _, lands⟩ := landed
  exact lands.contains

/-- One more mention makes links land on a name if it defines the name first. -/
theorem hasLanded_concat_iff {mention : Reference.Mention} :
    HasLanded fileNumber (mentions ++ [(slide, mention)]) id ↔
      HasLanded fileNumber mentions id ∨
        (mention.defines? = some id ∧ (tableAfter fileNumber mentions).contains id = false ∧
          ∃ origin, IsForward fileNumber mentions id origin) := by
  constructor
  · rintro ⟨origin, target, lands⟩
    rcases lands_concat_iff.1 lands with lands | ⟨-, defines, free, forward⟩
    · exact .inl ⟨origin, target, lands⟩
    · exact .inr ⟨defines, free, origin, forward⟩
  · rintro (⟨origin, target, lands⟩ | ⟨defines, free, origin, forward⟩)
    · exact ⟨origin, target, lands.append _⟩
    · exact ⟨origin, slide, lands_concat_iff.2 (.inr ⟨rfl, defines, free, forward⟩)⟩

/-- A name that a mention makes known is the one that it defines, or one given to a repeated
definition. -/
theorem Reference.Mention.defines?_or_of_enter {table : Reference.Table}
    {mention : Reference.Mention} (entered : (mention.enter slide table).contains id = true)
    (free : table.contains id = false) :
    mention.defines? = some id ∨ ∃ name kind counter, mention = .definition name kind counter ∧
      table.contains name = true ∧ table.freshId name = id := by
  have defined (name counter : String) (kind : ReferenceKind)
      (made : (table.define name kind counter slide).1.contains id = true) :
      if table.contains name = true then table.freshId name = id else name = id := by
    rw [Reference.Table.contains_define, free, Bool.false_or, beq_iff_eq] at made
    cases contained : table.contains name <;> simpa [Reference.Table.define, contained] using made
  cases mention with
  | link => exact absurd (free.symm.trans entered) Bool.false_ne_true
  | definition name kind counter =>
    have made := defined name counter kind entered
    split at made
    · rename_i taken
      exact .inr ⟨name, kind, counter, rfl, taken, made⟩
    · exact .inl (congrArg some made)
  | heading name counter =>
    rw [enter] at entered
    split at entered
    · exact absurd (free.symm.trans entered) Bool.false_ne_true
    · rename_i new
      have made := defined name counter .plain entered
      rw [if_neg new] at made
      exact .inl (congrArg some made)

/-- **Names without links.** Links have landed on a name to which one leads forward if it is in the
table in the end, unless it was given to a repeated definition. -/
theorem IsForward.hasLanded_or (forward : IsForward fileNumber mentions id slide)
    (contained : (tableAfter fileNumber mentions).contains id = true) :
    HasLanded fileNumber mentions id ∨ IsRenamed fileNumber mentions id := by
  -- The name came into the table with one mention, after the link.
  induction mentions using List.reverseRecOn with
  | nil => contradiction
  | append_singleton mentions last earlier =>
    obtain ⟨page, mention⟩ := last
    rw [tableAfter_concat] at contained
    cases before : (tableAfter fileNumber mentions).contains id with
    | true =>
      have forward : IsForward fileNumber mentions id slide := by
        rcases isForward_concat_iff.1 forward with forward | ⟨-, -, free⟩
        · exact forward
        · rw [before] at free
          contradiction
      rcases earlier forward before with
        landed | ⟨first, on, name, kind, counter, rest, rfl, same⟩
      · exact .inl (hasLanded_concat_iff.2 (.inl landed))
      · exact .inr ⟨first, on, name, kind, counter, rest ++ [(page, mention)], by simp, same⟩
    | false =>
      rcases mention.defines?_or_of_enter contained before with
        defines | ⟨name, kind, counter, rfl, taken, same⟩
      · rcases isForward_concat_iff.1 forward with forward | ⟨rfl, -, -⟩
        · exact .inl (hasLanded_concat_iff.2 (.inr ⟨defines, before, slide, forward⟩))
        · contradiction
      · exact .inr ⟨mentions, page, name, kind, counter, [], rfl, taken, same⟩

end Mentions

end LectureDeck
