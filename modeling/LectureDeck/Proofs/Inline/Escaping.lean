import LectureDeck.Markup.Inline.Scan
import LectureDeck.Proofs.Text.Backslashes

/-!
# Texts written with backslashes

A text is written with a backslash before each character that a token may start with, and before
each that a backslash makes plain. It is read back as it was, in plain text and escapes alone, if
and only if no line of it is broken and it has no `<`: this one starts tokens, and no backslash
makes it plain (`LectureDeck.Inline.plainText?_scan_escaped_iff`).
-/

namespace LectureDeck.Inline

open LectureDeck.Text

section Marks

variable {α : Type} {c : Char} {rest marks : List Char}

/-- A reader takes nothing from a text that begins with none of its marks. -/
def StartsWith (marks : List Char) (reader : List Char → Option α) : Prop :=
  ∀ c rest, c ∉ marks → reader (c :: rest) = none

/-- A reader that starts with some marks starts with more of them. -/
theorem StartsWith.of_subset {more : List Char} {reader : List Char → Option α}
    (starts : StartsWith marks reader) (among : marks ⊆ more) : StartsWith more reader :=
  fun c rest other => starts c rest fun member => other (among member)

/-- What is read on after a part does not change how it starts. -/
theorem StartsWith.bind {β : Type} {reader : List Char → Option α}
    (starts : StartsWith marks reader) (go : α → Option β) :
    StartsWith marks fun cs => reader cs >>= go := by
  intro c rest other
  change (reader (c :: rest) >>= go) = none
  rw [starts c rest other]
  rfl

/-- A literal starts with its first character. -/
theorem startsWith_literal? (literal : String) (mark : Char)
    (first : literal.toList.head? = some mark) : StartsWith [mark] (literal? literal) := by
  intro c rest other
  obtain ⟨more, whole⟩ : ∃ more, literal.toList = mark :: more := List.head?_eq_some_iff.1 first
  rw [literal?, whole, after?, if_neg fun same => other (List.mem_singleton.2 same.symm)]

/-- The label of a link starts with a bracket, that of an image with an exclamation mark. -/
theorem startsWith_linkLabel? : StartsWith ['!', '['] linkLabel? := by
  intro c rest other
  obtain ⟨image, bracket⟩ := not_or.1 (List.mem_cons.not.1 other)
  have none := startsWith_literal? "[" '[' rfl c rest bracket
  simp [linkLabel?, image, none]

/-- Code starts with a backquote. -/
theorem startsWith_code? : StartsWith ['\x60'] code? := by
  intro c rest other
  have quote : (c == '\x60') = false := by simpa using other
  simp [code?, run?, quote]

/-- Strong text starts with a star or an underscore. -/
theorem startsWith_strong? : StartsWith ['*', '_'] strong? := by
  intro c rest other
  unfold strong?
  split <;> simp_all

/-- Emphasised text starts with a star or an underscore. -/
theorem startsWith_emphasis? : StartsWith ['*', '_'] emphasis? := by
  intro c rest other
  unfold emphasis?
  split <;> simp_all

/-- A tag of HTML starts with an angle bracket. -/
theorem startsWith_html? : StartsWith ['<'] html? := by
  intro c rest other
  have comment := startsWith_literal? "<!--" '<' rfl c rest other
  have tag := startsWith_literal? "<" '<' rfl c rest other
  simp [html?, comment?, tag?, comment, tag]

/-- The rules that are tried before the one for escapes. -/
def firstRules : List (List Char → Option Found) :=
  [displayMath?, inlineMath?, call?, definition?, link?, keyedLink?, autolink?, code?]

/-- The rules that are tried between those for escapes and for line breaks. -/
def lastRules : List (List Char → Option Found) := [strong?, emphasis?, html?]

/-- The characters, other than a backslash, at which plain text ends. -/
def markupChars : List Char := specialChars.erase '\\'

/-- Every rule starts with one of the characters that are markup. -/
theorem startsWith_of_mem_rules :
    ∀ rule ∈ firstRules ++ lastRules, StartsWith markupChars rule := by
  have dollar : StartsWith ['$'] displayMath? := (startsWith_literal? _ '$' rfl).bind _
  have math : StartsWith ['\x60'] inlineMath? := (startsWith_literal? _ '\x60' rfl).bind _
  have call : StartsWith ['\x60'] call? := (startsWith_literal? _ '\x60' rfl).bind _
  have bracket : StartsWith ['['] definition? := (startsWith_literal? _ '[' rfl).bind _
  have address : StartsWith ['<'] autolink? := (startsWith_literal? _ '<' rfl).bind _
  simp only [firstRules, lastRules, List.cons_append, List.nil_append, List.forall_mem_cons]
  refine ⟨?_, ?_, ?_, ?_, ?_, ?_, ?_, ?_, ?_, ?_, ?_, nofun⟩
  · exact dollar.of_subset (by decide)
  · exact math.of_subset (by decide)
  · exact call.of_subset (by decide)
  · exact bracket.of_subset (by decide)
  · exact (startsWith_linkLabel?.bind _).of_subset (by decide)
  · exact (startsWith_linkLabel?.bind _).of_subset (by decide)
  · exact address.of_subset (by decide)
  · exact startsWith_code?.of_subset (by decide)
  · exact startsWith_strong?.of_subset (by decide)
  · exact startsWith_emphasis?.of_subset (by decide)
  · exact startsWith_html?.of_subset (by decide)

/-- Where none of these characters stands, only the rules for escapes and for line breaks apply. -/
theorem findSome?_rules (other : c ∉ markupChars) :
    (rules.findSome? fun rule => rule (c :: rest)) =
      (escape? (c :: rest)).or (lineBreak? (c :: rest)) := by
  have first : (firstRules.findSome? fun rule => rule (c :: rest)) = none :=
    List.findSome?_eq_none_iff.2 fun rule member =>
      startsWith_of_mem_rules rule (List.mem_append_left _ member) c rest other
  have last : (lastRules.findSome? fun rule => rule (c :: rest)) = none :=
    List.findSome?_eq_none_iff.2 fun rule member =>
      startsWith_of_mem_rules rule (List.mem_append_right _ member) c rest other
  have whole : rules = firstRules ++ ([escape?] ++ (lastRules ++ [lineBreak?])) := rfl
  rw [whole, List.findSome?_append, List.findSome?_append, List.findSome?_append, first, last]
  simp

end Marks

section Steps

variable {c : Char} {rest cs : List Char}

/-- At a backslash there is an escape or plain text. -/
theorem next_backslash : next false ('\\' :: rest) =
    (escape? ('\\' :: rest)).getD (plain ('\\' :: rest)) := by
  have same : lineBreak? ('\\' :: rest) = none := rfl
  change ((rules.findSome? fun rule => rule ('\\' :: rest)).getD _) = _
  rw [findSome?_rules (by decide), same, Option.or_none]

/-- Where no token may start, a line is broken or there is plain text. -/
theorem next_of_not_mem (plain : c ∉ specialChars) : next false (c :: rest) =
    (lineBreak? (c :: rest)).getD (Inline.plain (c :: rest)) := by
  have unescaped : escape? (c :: rest) = none := by
    unfold escape?
    split
    · rename_i same
      cases same
      exact absurd (by decide) plain
    · rfl
  change ((rules.findSome? fun rule => rule (c :: rest)).getD _) = _
  rw [findSome?_rules fun member => plain (List.mem_of_mem_erase member), unescaped, Option.none_or]

end Steps

section Contents

/-- What a token of plain text or an escape stands for. -/
def plainContent? : Inline → Option (List Char)
  | text content => some content.toList
  | escape c => some [c]
  | _ => none

/-- What tokens stand for, if they are all plain text and escapes. -/
def plainText? (tokens : List Inline) : Option (List Char) :=
  (tokens.mapM plainContent?).map List.flatten

/-- Tokens are plain text if the first is and the others are. -/
theorem plainText?_cons (token : Inline) (tokens : List Inline) : plainText? (token :: tokens) =
    (plainContent? token).bind fun content => (plainText? tokens).map (content ++ ·) := by
  unfold plainText?
  rw [List.mapM_cons]
  cases plainContent? token with
  | none => rfl
  | some content => cases tokens.mapM plainContent? <;> rfl

/-- Plain text may be joined. -/
theorem plainText?_joinTexts (tokens : List Inline) :
    plainText? (joinTexts tokens) = plainText? tokens := by
  induction tokens with
  | nil => rfl
  | cons token tokens later =>
    rw [plainText?_cons, ← later, ← plainText?_cons]
    change plainText? (consJoined token (joinTexts tokens)) = _
    unfold consJoined
    split
    · rename_i first second others same
      rw [same, plainText?_cons, plainText?_cons, plainText?_cons]
      cases plainText? others <;> simp [plainContent?]
    · rfl

/-- What a text is read as from some place on, if it is plain text and escapes. -/
def readFrom? (atLineStart : Bool) (cs : List Char) : Option (List Char) :=
  plainText? ((spansFrom atLineStart cs).map Span.token)

variable {c : Char} {cs rest : List Char} {token : Inline} {atLineStart : Bool}

/-- It does not matter that a text starts a line if it has no marker of choices. -/
theorem spansFrom_eq_false (unmarked : choice? cs = none) :
    spansFrom atLineStart cs = spansFrom false cs := by
  rw [spansFrom, spansFrom, next, next, unmarked]
  simp

/-- One token, read from some part of a text, and what follows it. -/
theorem readFrom?_of_next (part : List Char) (found : next false cs = (token, rest))
    (whole : cs = part ++ rest) (some : part ≠ []) :
    readFrom? false cs = (plainContent? token).bind fun content =>
      (readFrom? (part.getLast? == Option.some '\n') rest).map (content ++ ·) := by
  have size : max 1 (cs.length - rest.length) = part.length := by
    have positive := List.length_pos_iff.2 some
    rw [whole, List.length_append]
    omega
  have filled : cs.isEmpty = false := by simp [whole, some]
  unfold readFrom?
  rw [spansFrom, if_neg (by simp [filled]), found]
  have taken : cs.take part.length = part := by rw [whole, List.take_left]
  have dropped : cs.drop part.length = rest := by rw [whole, List.drop_left]
  simp only [size, taken, dropped, List.map_cons, plainText?_cons]

/-- An escape is read as its character. -/
theorem readFrom?_escape (escapable : c ∈ escapableChars) :
    readFrom? false ('\\' :: c :: rest) = (readFrom? false rest).map (c :: ·) := by
  have escaped : escape? ('\\' :: c :: rest) = some (escape c, rest) :=
    if_pos (List.contains_iff_mem.2 escapable)
  have found : next false ('\\' :: c :: rest) = (escape c, rest) := by
    rw [next_backslash, escaped, Option.getD_some]
  have stop : (['\\', c].getLast? == some '\n') = false := by
    have other : c ≠ '\n' := by
      rintro rfl
      revert escapable
      decide
    simpa using other
  have read := readFrom?_of_next ['\\', c] found rfl (List.cons_ne_nil _ _)
  rwa [stop] at read

/-- Plain text and what is left of it make up the text. -/
theorem textTail_append (cs : List Char) : (textTail cs).1 ++ (textTail cs).2 = cs := by
  fun_induction textTail cs with
  | case1 => rfl
  | case2 => rfl
  | case3 c rest _ _ part later => exact congrArg (c :: ·) later
  | case4 => rfl

/-- Where plain text goes on, it is all that a run of plain text would take. -/
theorem plain_of_textGoesOn (goesOn : textGoesOn cs = true) :
    plain cs = (text (String.ofList (textTail cs).1), (textTail cs).2) ∧ (textTail cs).1 ≠ [] := by
  cases cs with
  | nil => contradiction
  | cons c rest =>
    rw [textTail, if_pos goesOn, plain]
    split
    · rename_i same
      rw [same]
      exact ⟨rfl, List.cons_ne_nil _ _⟩
    · exact ⟨rfl, List.cons_ne_nil _ _⟩

/-- No rule takes anything where plain text goes on. -/
theorem next_of_textGoesOn (goesOn : textGoesOn cs = true) : next false cs = plain cs := by
  cases cs with
  | nil => contradiction
  | cons c rest =>
    simp only [textGoesOn, Bool.and_eq_true, Bool.not_eq_true', List.contains_eq_mem,
      decide_eq_false_iff_not, Option.isNone_iff_eq_none] at goesOn
    rw [next_of_not_mem goesOn.1, lineBreak?, goesOn.2]
    rfl

/-- Plain text that goes on is read up to where it may end, and what is left is read on from
there. -/
theorem readFrom?_of_textGoesOn (goesOn : textGoesOn cs = true) :
    readFrom? false cs = (readFrom? ((textTail cs).1.getLast? == some '\n') (textTail cs).2).map
      ((textTail cs).1 ++ ·) := by
  obtain ⟨run, some⟩ := plain_of_textGoesOn goesOn
  have read := readFrom?_of_next _ ((next_of_textGoesOn goesOn).trans run)
    (textTail_append cs).symm some
  simpa [plainContent?] using read

/-- A character of plain text is read as it is. -/
theorem readFrom?_plain (plain : c ∉ specialChars) (unbroken : brokenLine? (c :: rest) = none)
    (unmarked : choice? rest = none) :
    readFrom? false (c :: rest) = (readFrom? false rest).map (c :: ·) := by
  have whole : next false (c :: rest) = Inline.plain (c :: rest) := by
    rw [next_of_not_mem plain, lineBreak?, unbroken]
    rfl
  by_cases isBreak : c = '\n'
  · subst isBreak
    have read := readFrom?_of_next ['\n'] whole rfl (List.cons_ne_nil _ _)
    have same : readFrom? true rest = readFrom? false rest := by
      rw [readFrom?, spansFrom_eq_false unmarked, readFrom?]
    rw [← same]
    exact read
  · rw [Inline.plain, if_neg isBreak] at whole
    have read := readFrom?_of_next (c :: (textTail rest).1) whole
      (congrArg (c :: ·) (textTail_append rest).symm) (List.cons_ne_nil _ _)
    by_cases goesOn : textGoesOn rest = true
    · rw [readFrom?_of_textGoesOn goesOn]
      have last : (c :: (textTail rest).1).getLast? = (textTail rest).1.getLast? := by
        rw [List.getLast?_cons, List.getLast?_eq_some_getLast (plain_of_textGoesOn goesOn).2]
        rfl
      rw [last] at read
      simpa [plainContent?, Function.comp_def] using read
    · have none : textTail rest = ([], rest) := by
        cases rest with
        | nil => rfl
        | cons d rest => rw [textTail, if_neg goesOn]
      have stop : ([c].getLast? == some '\n') = false := by simpa using isBreak
      rw [none, stop] at read
      simpa [plainContent?] using read

/-- A `<` after a backslash is not escaped, and leaves the backslash in the text. -/
theorem readFrom?_less : readFrom? false ('\\' :: '<' :: rest) =
    (readFrom? false ('<' :: rest)).map ('\\' :: ·) := by
  have found : next false ('\\' :: '<' :: rest) = (text "\\", '<' :: rest) := rfl
  exact readFrom?_of_next ['\\'] found rfl (List.cons_ne_nil _ _)

/-- A line break is no plain text. -/
theorem readFrom?_of_brokenLine? (plain : c ∉ specialChars)
    (broken : brokenLine? (c :: rest) ≠ none) : readFrom? false (c :: rest) = none := by
  obtain ⟨after, found⟩ := Option.ne_none_iff_exists'.1 broken
  have broken : next false (c :: rest) = (lineBreak, after) := by
    rw [next_of_not_mem plain, lineBreak?, found]
    rfl
  rw [readFrom?, spansFrom, broken, if_neg (by simp), List.map_cons, plainText?_cons]
  rfl

end Contents

section Escaped

/-- A character that is written with a backslash: it may start a token, or a backslash makes it
plain. -/
def isMarked (c : Char) : Bool := specialChars.contains c || escapableChars.contains c

/-- A text with a backslash before each of these characters. -/
def escaped (content : String) : String := String.ofList (withBackslashes isMarked content.toList)

/-- A line of a text is broken after spaces. -/
def BreaksLine (cs : List Char) : Prop := [' ', ' ', '\n'] <:+: cs

variable {c : Char} {cs rest : List Char}

/-- A text with backslashes begins with no other marked character. -/
theorem not_mem_head?_withBackslashes (cs : List Char) (mark : Char)
    (marked : isMarked mark = true) (other : mark ≠ '\\') :
    mark ∉ (withBackslashes isMarked cs).head? := by
  intro first
  cases cs with
  | nil => contradiction
  | cons c rest =>
    rw [withBackslashes_cons] at first
    split at first
    · exact other (Option.some.inj first).symm
    · rename_i plain
      cases Option.some.inj first
      exact plain marked

/-- Characters are marked that may start a token and those that can be escaped. -/
theorem isMarked_iff : isMarked c = true ↔ c ∈ specialChars ∨ c ∈ escapableChars := by
  simp [isMarked]

/-- Every marked character but `<` is made plain by a backslash. -/
theorem mem_escapableChars (marked : isMarked c = true) (other : c ≠ '<') :
    c ∈ escapableChars := by
  have special : ∀ c ∈ specialChars, c ≠ '<' → c ∈ escapableChars :=
    forall_mem_of_all (by decide)
  rcases isMarked_iff.1 marked with member | member
  · exact special c member other
  · exact member

/-- No space is marked. -/
theorem ne_space_of_isMarked (marked : isMarked c = true) : (c == ' ') = false := by
  by_contra isSpace
  rw [Bool.not_eq_false, beq_iff_eq] at isSpace
  rw [isSpace] at marked
  contradiction

/-- What a text with backslashes begins with, unless it is a backslash, the text begins with. -/
theorem eq_cons_of_withBackslashes {first : Char}
    (begins : withBackslashes isMarked cs = first :: rest) (other : first ≠ '\\') :
    ∃ tail, cs = first :: tail ∧ rest = withBackslashes isMarked tail := by
  cases cs with
  | nil => contradiction
  | cons c tail =>
    rw [withBackslashes_cons] at begins
    split at begins
    · exact absurd (List.cons.inj begins).1.symm other
    · obtain ⟨rfl, rfl⟩ := List.cons.inj begins
      exact ⟨tail, rfl, rfl⟩

/-- What is written with backslashes presents no choice. -/
theorem choice?_withBackslashes (cs : List Char) :
    choice? (withBackslashes isMarked cs) = none := by
  have spaces : (withBackslashes isMarked cs).dropWhile (· == ' ') =
      withBackslashes isMarked (cs.dropWhile (· == ' ')) :=
    dropWhile_withBackslashes rfl fun _ => ne_space_of_isMarked
  unfold choice?
  split
  · rename_i letter rest indented
    have begins : withBackslashes isMarked (cs.dropWhile (· == ' ')) = letter :: rest := by
      rw [← spaces]
      unfold indent? at indented
      split at indented
      · exact Option.some.inj indented
      · contradiction
    split
    · rename_i isLetter
      have other : letter ≠ '\\' := by
        rintro rfl
        contradiction
      obtain ⟨tail, -, rfl⟩ := eq_cons_of_withBackslashes begins other
      -- A star or a dot after the letter would have a backslash before it.
      have star := not_mem_head?_withBackslashes tail '*' (by decide) (by decide)
      have dot := not_mem_head?_withBackslashes tail '.' (by decide) (by decide)
      generalize withBackslashes isMarked tail = rest at star dot
      cases rest with
      | nil => rfl
      | cons c rest =>
        have notStar : c ≠ '*' := fun same => star (same ▸ rfl)
        have notDot : '.' ≠ c := fun same => dot (same ▸ rfl)
        simp [notStar, notDot, literal?, after?]
    · rfl
  · rfl

/-- What follows a text that needs no backslashes, before or after backslashes are written. -/
theorem after?_withBackslashes {start : List Char} (plain : ∀ c ∈ start, isMarked c = false)
    (cs : List Char) : after? start (withBackslashes isMarked cs) =
      (after? start cs).map (withBackslashes isMarked) := by
  induction start generalizing cs with
  | nil => rfl
  | cons first start later =>
    obtain ⟨unmarked, plain⟩ := List.forall_mem_cons.1 plain
    cases cs with
    | nil => rfl
    | cons c rest =>
      rw [withBackslashes_cons]
      by_cases same : first = c
      · subst same
        simp [after?, unmarked, later plain rest]
      · have backslash : first ≠ '\\' := by
          rintro rfl
          contradiction
        by_cases marked : isMarked c = true <;> simp [after?, marked, same, backslash]

/-- A line is broken by two spaces or more before its end. -/
theorem brokenLine?_eq (cs : List Char) : brokenLine? cs =
    (after? [' ', ' '] cs).bind fun rest => after? ['\n'] (rest.dropWhile (· == ' ')) := by
  unfold brokenLine?
  split
  · rfl
  · rename_i other
    cases found : after? [' ', ' '] cs with
    | none => rfl
    | some rest => exact absurd (after?_eq_some_iff.1 found) (other rest)

/-- Backslashes break no line and hide no break, for they stand before neither spaces nor the end of
a line. -/
theorem brokenLine?_withBackslashes (cs : List Char) : brokenLine? (withBackslashes isMarked cs) =
    (brokenLine? cs).map (withBackslashes isMarked) := by
  rw [brokenLine?_eq, brokenLine?_eq, after?_withBackslashes (forall_mem_of_all (by decide))]
  cases after? [' ', ' '] cs with
  | none => rfl
  | some rest =>
    change after? ['\n'] ((withBackslashes isMarked rest).dropWhile (· == ' ')) = _
    rw [dropWhile_withBackslashes rfl fun _ => ne_space_of_isMarked,
      after?_withBackslashes (forall_mem_of_all (by decide))]
    rfl

/-- Of the spaces before a line break, the last two stand right before it. -/
theorem breaksLine_of_spaces {tail after : List Char}
    (spaces : tail.dropWhile (· == ' ') = '\n' :: after) : BreaksLine (' ' :: ' ' :: tail) := by
  induction tail with
  | nil => contradiction
  | cons c tail later =>
    by_cases isSpace : c = ' '
    · subst isSpace
      exact List.infix_cons (later spaces)
    · rw [List.dropWhile_cons_of_neg (by simpa using isSpace)] at spaces
      rw [spaces]
      exact ⟨[], after, rfl⟩

/-- A line is broken at the start of a text, or in what follows. -/
theorem breaksLine_cons_iff : BreaksLine (c :: rest) ↔
    brokenLine? (c :: rest) ≠ none ∨ BreaksLine rest := by
  constructor
  · intro breaks
    rcases List.infix_cons_iff.1 breaks with ⟨after, same⟩ | inside
    · rw [← same]
      exact .inl nofun
    · exact .inr inside
  · rintro (broken | inside)
    · obtain ⟨after, found⟩ := Option.ne_none_iff_exists'.1 broken
      rw [brokenLine?_eq] at found
      obtain ⟨tail, spaces, ends⟩ := Option.bind_eq_some_iff.1 found
      rw [after?_eq_some_iff.1 spaces]
      exact breaksLine_of_spaces (after?_eq_some_iff.1 ends)
    · exact List.infix_cons inside

/-- A character that is put before what is read is the first one of it. -/
theorem map_cons_eq_some_iff {read : Option (List Char)} {d : Char} :
    read.map (d :: ·) = some (c :: rest) ↔ d = c ∧ read = some rest := by
  cases read <;> simp

/-- Character by character, what is written with backslashes is read as it was written. -/
theorem readFrom?_withBackslashes (cs : List Char) :
    readFrom? false (withBackslashes isMarked cs) = some cs ↔ '<' ∉ cs ∧ ¬BreaksLine cs := by
  induction cs with
  | nil =>
    have read : readFrom? false (withBackslashes isMarked []) = some [] := by
      rw [readFrom?, withBackslashes, List.flatMap_nil, spansFrom]
      rfl
    simp [read, BreaksLine]
  | cons c rest later =>
    rw [withBackslashes_cons, breaksLine_cons_iff, List.mem_cons]
    by_cases marked : isMarked c = true
    · have unbroken : brokenLine? (c :: rest) = none := by
        have other : ' ' ≠ c := by
          rintro rfl
          contradiction
        rw [brokenLine?_eq, after?, if_neg other]
        rfl
      rw [if_pos marked, List.cons_append, List.singleton_append]
      by_cases isLess : c = '<'
      · subst isLess
        rw [readFrom?_less, map_cons_eq_some_iff]
        simp
      · rw [readFrom?_escape (mem_escapableChars marked isLess), map_cons_eq_some_iff, later]
        simp [unbroken, Ne.symm isLess]
    · have plain : c ∉ specialChars := fun member => marked (isMarked_iff.2 (.inl member))
      have isLess : c ≠ '<' := by
        rintro rfl
        exact marked rfl
      have same : brokenLine? (c :: withBackslashes isMarked rest) =
          (brokenLine? (c :: rest)).map (withBackslashes isMarked) := by
        have read := brokenLine?_withBackslashes (c :: rest)
        rwa [withBackslashes_cons, if_neg marked, List.singleton_append] at read
      rw [if_neg marked, List.singleton_append]
      by_cases broken : brokenLine? (c :: rest) = none
      · rw [broken] at same
        rw [readFrom?_plain plain same (choice?_withBackslashes rest), map_cons_eq_some_iff, later]
        simp [broken, Ne.symm isLess]
      · have none : readFrom? false (c :: withBackslashes isMarked rest) = none := by
          refine readFrom?_of_brokenLine? plain ?_
          rw [same]
          simpa using broken
        simp [none, broken]

/-- The plain text of what was escaped is read character by character. -/
theorem plainText?_scan_escaped (content : String) : plainText? (scan (escaped content)) =
    readFrom? false (withBackslashes isMarked content.toList) := by
  rw [scan, plainText?_joinTexts, spans, escaped, String.toList_ofList,
    spansFrom_eq_false (choice?_withBackslashes _), readFrom?]

end Escaped

section Results

/-- **A text that is written with backslashes is read back**, in plain text and escapes alone, if
and only if it has no `<` and no line of it is broken. -/
theorem plainText?_scan_escaped_iff (content : String) :
    plainText? (scan (escaped content)) = some content.toList ↔
      '<' ∉ content.toList ∧ ¬BreaksLine content.toList := by
  rw [plainText?_scan_escaped, readFrom?_withBackslashes]

/-- Not every text of one line is read back: from a `<` with a backslash, the backslash is left. -/
theorem not_forall_plainText?_scan_escaped : ¬∀ content : String, '\n' ∉ content.toList →
    plainText? (scan (escaped content)) = some content.toList := by
  intro all
  have read := all "<" (by decide)
  rw [plainText?_scan_escaped, readFrom?_withBackslashes] at read
  exact read.1 (by decide)

end Results

end LectureDeck.Inline
