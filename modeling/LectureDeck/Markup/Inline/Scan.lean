import LectureDeck.Markup.Inline.Rules

/-!
# Running text as tokens

A text is read token by token, each from a part of at least one character. The content of strong
and emphasised text is shorter than the text it stands in, so that reading it in turn ends.
-/

namespace LectureDeck.Inline

open LectureDeck.Text

/-- A token and the part of the text that it was read from. -/
structure Span where
  source : List Char
  token : Inline
deriving DecidableEq, Repr

/-- The spans of a text, given whether it starts at the start of a line. -/
def spansFrom (atLineStart : Bool) (cs : List Char) : List Span :=
  if cs.isEmpty then []
  else
    let found := next atLineStart cs
    let size := max 1 (cs.length - found.2.length)
    let source := cs.take size
    ⟨source, found.1⟩ :: spansFrom (source.getLast? == some '\n') (cs.drop size)
termination_by cs.length
decreasing_by
  simp_all only [List.isEmpty_iff, List.length_drop]
  have := List.length_pos_iff.2 ‹_›
  omega

/-- The spans of a text. -/
def spans (cs : List Char) : List Span := spansFrom true cs

/-- A token put before others, joined to the first when both are plain text. -/
def consJoined : Inline → List Inline → List Inline
  | text first, text second :: others => text (first ++ second) :: others
  | token, others => token :: others

def joinTexts (tokens : List Inline) : List Inline := tokens.foldr consJoined []

def scan (content : String) : List Inline := joinTexts ((spans content.toList).map Span.token)

/-- A token does not hold markup that is as long as `bound`. -/
def Shorter (bound : Nat) (token : Inline) : Prop :=
  ∀ inner, token.nested? = some inner → inner.length < bound

/-- What stands between stars is no longer than the text that it is read from. -/
theorem length_le_of_starred? {cs content after : List Char}
    (found : starred? cs = some (content, after)) : content.length ≤ cs.length := by
  unfold starred? at found
  split at found
  · obtain ⟨part, later, same⟩ := Option.map_eq_some_iff.1 found
    cases same
    have := length_le_of_upTo? later
    simp only [List.length_cons]
    omega
  · contradiction
  · obtain ⟨part, later, same⟩ := Option.map_eq_some_iff.1 found
    cases same
    exact Nat.succ_le_succ (length_le_of_upTo? later)
  · contradiction

/-- What stands between underscores is no longer than the text that it is read from. -/
theorem length_le_of_underscored? {first : Bool} {cs content after : List Char}
    (found : underscored? first cs = some (content, after)) : content.length ≤ cs.length := by
  fun_induction underscored? first cs generalizing content with
  | case1 => contradiction
  | case2 => cases found; exact Nat.zero_le _
  | case3 first more _ shorter =>
    obtain ⟨part, later, same⟩ := Option.map_eq_some_iff.1 found
    cases same
    have := shorter later
    simp only [List.length_cons]
    omega
  | case4 => contradiction
  | case5 first c rest _ shorter =>
    obtain ⟨part, later, same⟩ := Option.map_eq_some_iff.1 found
    cases same
    exact Nat.succ_le_succ (shorter later)

/-- Strong text is shorter than with its marks. -/
theorem shorter_of_strong? {cs : List Char} {found : Found} (read : strong? cs = some found) :
    Shorter cs.length found.1 := by
  unfold strong? at read
  split at read
  all_goals
    first
    | contradiction
    | obtain ⟨part, later, same⟩ := Option.map_eq_some_iff.1 read
      cases same
      intro inner isInner
      cases isInner
      have := length_le_of_someUpTo? later
      simp only [String.length_ofList, List.length_cons]
      omega

/-- Emphasised text is shorter than with its marks. -/
theorem shorter_of_emphasis? {cs : List Char} {found : Found}
    (read : emphasis? cs = some found) : Shorter cs.length found.1 := by
  unfold emphasis? at read
  split at read
  · obtain ⟨part, later, same⟩ := Option.map_eq_some_iff.1 read
    cases same
    intro inner isInner
    cases isInner
    have := length_le_of_starred? later
    simp only [String.length_ofList, List.length_cons]
    omega
  · obtain ⟨part, later, same⟩ := Option.map_eq_some_iff.1 read
    cases same
    intro inner isInner
    cases isInner
    have := length_le_of_underscored? later
    simp only [String.length_ofList, List.length_cons]
    omega
  · contradiction

/-- A token without markup of its own is shorter than any bound. -/
theorem shorter_of_nested?_eq_none {bound : Nat} {token : Inline} (flat : token.nested? = none) :
    Shorter bound token := by
  intro inner isInner
  rw [flat] at isInner
  contradiction

/-- What a rule reads, if anything, has no markup of its own. -/
def IsFlat (read : Option Found) : Prop := ∀ found, read = some found → found.1.nested? = none

/-- A token without markup of its own is flat. -/
theorem isFlat_some {token : Inline} {rest : List Char} (flat : token.nested? = none) :
    IsFlat (some (token, rest)) := by
  rintro _ ⟨⟩
  exact flat

/-- What is read before a flat token does not matter. -/
theorem isFlat_bind {α : Type} {read : Option α} {go : α → Option Found}
    (flat : ∀ a, IsFlat (go a)) : IsFlat (read >>= go) := by
  cases read with
  | none => rintro _ ⟨⟩
  | some a => exact flat a

/-- A marker of choices holds no markup. -/
theorem isFlat_choice? (cs : List Char) : IsFlat (choice? cs) := by
  unfold choice?
  split
  · split
    · exact isFlat_bind fun _ => isFlat_bind fun _ => isFlat_some rfl
    · rintro _ ⟨⟩
  · rintro _ ⟨⟩

/-- Mathematics set apart holds no markup. -/
theorem isFlat_displayMath? (cs : List Char) : IsFlat (displayMath? cs) :=
  isFlat_bind fun _ => isFlat_bind fun _ => isFlat_some rfl

/-- Mathematics within a line holds no markup. -/
theorem isFlat_inlineMath? (cs : List Char) : IsFlat (inlineMath? cs) :=
  isFlat_bind fun _ => isFlat_bind fun _ => isFlat_some rfl

/-- A call holds no markup. -/
theorem isFlat_call? (cs : List Char) : IsFlat (call? cs) :=
  isFlat_bind fun _ => isFlat_bind fun _ => isFlat_bind fun _ => isFlat_bind fun _ =>
    isFlat_bind fun _ => isFlat_bind fun _ => isFlat_some rfl

/-- A definition holds no markup. -/
theorem isFlat_definition? (cs : List Char) : IsFlat (definition? cs) :=
  isFlat_bind fun _ => isFlat_bind fun _ => isFlat_bind fun _ => isFlat_bind fun _ =>
    isFlat_bind fun _ => isFlat_some rfl

/-- The label of a link is kept as it is. -/
theorem isFlat_link? (cs : List Char) : IsFlat (link? cs) :=
  isFlat_bind fun _ => isFlat_bind fun _ => isFlat_bind fun _ => isFlat_some rfl

/-- The label of a link by key is kept as it is. -/
theorem isFlat_keyedLink? (cs : List Char) : IsFlat (keyedLink? cs) :=
  isFlat_bind fun _ => isFlat_bind fun _ => isFlat_bind fun _ => isFlat_some rfl

/-- An address holds no markup. -/
theorem isFlat_autolink? (cs : List Char) : IsFlat (autolink? cs) :=
  isFlat_bind fun _ => isFlat_bind fun _ => isFlat_bind fun _ => isFlat_bind fun _ =>
    isFlat_some rfl

/-- Code holds no markup. -/
theorem isFlat_code? (cs : List Char) : IsFlat (code? cs) :=
  isFlat_bind fun _ => isFlat_bind fun _ => isFlat_some rfl

/-- An escaped character is no markup. -/
theorem isFlat_escape? (cs : List Char) : IsFlat (escape? cs) := by
  unfold escape?
  split
  · split
    · exact isFlat_some rfl
    · rintro _ ⟨⟩
  · rintro _ ⟨⟩

/-- A tag of HTML holds no markup. -/
theorem isFlat_html? (cs : List Char) : IsFlat (html? cs) := isFlat_bind fun _ => isFlat_some rfl

/-- The break of a line holds no markup. -/
theorem isFlat_lineBreak? (cs : List Char) : IsFlat (lineBreak? cs) := by
  rintro _ read
  obtain ⟨_, _, rfl⟩ := Option.map_eq_some_iff.1 read
  rfl

/-- Plain text holds no markup. -/
theorem nested?_plain (cs : List Char) : (plain cs).1.nested? = none := by
  unfold plain
  split
  · rfl
  · split <;> rfl

/-- A token that holds markup of its own holds less than the text it was read from. -/
theorem shorter_of_next {atLineStart : Bool} {cs : List Char} :
    Shorter cs.length (next atLineStart cs).1 := by
  have flat {read : Option Found} (isFlat : IsFlat read) {found : Found}
      (same : read = some found) : Shorter cs.length found.1 :=
    shorter_of_nested?_eq_none (isFlat _ same)
  unfold next
  split
  · rename_i found read
    split at read
    · exact flat (isFlat_choice? cs) read
    · contradiction
  · cases found : rules.findSome? fun rule => rule cs with
    | none => exact shorter_of_nested?_eq_none (nested?_plain cs)
    | some token =>
      obtain ⟨rule, known, read⟩ := List.exists_of_findSome?_eq_some found
      simp only [rules, List.mem_cons, List.not_mem_nil, or_false] at known
      rcases known with rfl | rfl | rfl | rfl | rfl | rfl | rfl | rfl | rfl | rfl | rfl | rfl | rfl
      · exact flat (isFlat_displayMath? cs) read
      · exact flat (isFlat_inlineMath? cs) read
      · exact flat (isFlat_call? cs) read
      · exact flat (isFlat_definition? cs) read
      · exact flat (isFlat_link? cs) read
      · exact flat (isFlat_keyedLink? cs) read
      · exact flat (isFlat_autolink? cs) read
      · exact flat (isFlat_code? cs) read
      · exact flat (isFlat_escape? cs) read
      · exact shorter_of_strong? read
      · exact shorter_of_emphasis? read
      · exact flat (isFlat_html? cs) read
      · exact flat (isFlat_lineBreak? cs) read

/-- Every token of a text holds less than the text: the rules for strong and emphasised text take
their marks, and no other token holds markup. -/
theorem shorter_of_mem_spansFrom {atLineStart : Bool} {cs : List Char} {span : Span}
    (member : span ∈ spansFrom atLineStart cs) : Shorter cs.length span.token := by
  fun_induction spansFrom atLineStart cs with
  | case1 => contradiction
  | case2 atLineStart cs _ found size source later =>
    rcases List.mem_cons.1 member with rfl | member
    · exact shorter_of_next
    · intro inner isInner
      have := later member inner isInner
      simp only [List.length_drop] at this
      omega

/-- Plain texts that are joined hold no markup either. -/
theorem shorter_of_mem_consJoined {bound : Nat} {token : Inline} {others : List Inline}
    (first : Shorter bound token) (rest : ∀ other ∈ others, Shorter bound other) :
    ∀ other ∈ consJoined token others, Shorter bound other := by
  unfold consJoined
  split
  · intro other member
    rcases List.mem_cons.1 member with rfl | member
    · exact shorter_of_nested?_eq_none rfl
    · exact rest other (List.mem_cons_of_mem _ member)
  · intro other member
    rcases List.mem_cons.1 member with rfl | member
    · exact first
    · exact rest other member

/-- Tokens stay shorter when plain texts among them are joined. -/
theorem shorter_of_mem_joinTexts {bound : Nat} {tokens : List Inline}
    (shorter : ∀ token ∈ tokens, Shorter bound token) :
    ∀ token ∈ joinTexts tokens, Shorter bound token := by
  induction tokens with
  | nil => exact fun _ member => absurd member List.not_mem_nil
  | cons token rest later =>
    exact shorter_of_mem_consJoined (shorter token List.mem_cons_self)
      (later fun other member => shorter other (List.mem_cons_of_mem _ member))

/-- A token of a text that holds markup of its own holds less than the text. -/
theorem length_lt_of_mem_scan {content inner : String} {token : Inline}
    (member : token ∈ scan content) (isInner : token.nested? = some inner) :
    inner.length < content.length := by
  have shorter : ∀ token ∈ (spans content.toList).map Span.token,
      Shorter content.toList.length token := by
    intro token member
    obtain ⟨span, inSpans, rfl⟩ := List.mem_map.1 member
    exact shorter_of_mem_spansFrom inSpans
  simpa only [String.length_toList] using
    shorter_of_mem_joinTexts shorter token member inner isInner

end LectureDeck.Inline
