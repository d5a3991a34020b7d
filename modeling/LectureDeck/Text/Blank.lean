/-!
# Blank characters and the edges of texts

Which characters count as space, and the cutting of a text at its edges, at a separator and at
runs of space.
-/

namespace LectureDeck.Text

/-- A character that counts as white space. -/
def isBlank (c : Char) : Bool :=
  c == ' ' || ('\t' ≤ c && c ≤ '\r') || c == '\u0085' || c == '\u00A0' || c == '\u1680' ||
    ('\u2000' ≤ c && c ≤ '\u200A') || c == '\u2028' || c == '\u2029' || c == '\u202F' ||
    c == '\u205F' || c == '\u3000'

/-- A space or a tab. -/
def isGap (c : Char) : Bool := c == ' ' || c == '\t'

/-- A text without the characters at its end that satisfy `p`. -/
def dropEndWhile (p : Char → Bool) (cs : List Char) : List Char :=
  (cs.reverse.dropWhile p).reverse

/-- A text without the blank characters at its start. -/
def trimStart (cs : List Char) : List Char := cs.dropWhile isBlank

/-- A text without the blank characters at its end. -/
def trimEnd (cs : List Char) : List Char := dropEndWhile isBlank cs

/-- A text without the blank characters at both ends. -/
def trim (cs : List Char) : List Char := trimEnd (trimStart cs)

/-- A text of blank characters only. -/
def allBlank (cs : List Char) : Bool := cs.all isBlank

/-- The fields of a text between occurrences of a separator; there is always at least one. -/
def fields (separator : Char) : List Char → List (List Char)
  | [] => [[]]
  | c :: rest =>
    if c = separator then [] :: fields separator rest
    else
      match fields separator rest with
      | [] => [[c]]
      | first :: others => (c :: first) :: others

/-- The text before and after the first occurrence of a separator. -/
def cut? (separator : Char) : List Char → Option (List Char × List Char)
  | [] => none
  | c :: rest =>
    if c = separator then some ([], rest)
    else (cut? separator rest).map fun parts => (c :: parts.1, parts.2)

/-- What follows a given text at the start of another. -/
def after? : List Char → List Char → Option (List Char)
  | [], cs => some cs
  | x :: start, c :: cs => if x = c then after? start cs else none
  | _ :: _, [] => none

theorem after?_eq_some_iff {start cs rest : List Char} :
    after? start cs = some rest ↔ cs = start ++ rest := by
  induction start generalizing cs with
  | nil => simp [after?]
  | cons x start same =>
    cases cs with
    | nil => simp [after?]
    | cons c cs =>
      by_cases equal : x = c
      · simp [after?, equal, same]
      · simp [after?, equal, Ne.symm equal]

theorem length_lt_of_after?_eq_some {start cs rest : List Char} (nonempty : 0 < start.length)
    (found : after? start cs = some rest) : rest.length < cs.length := by
  rw [after?_eq_some_iff.1 found, List.length_append]
  exact Nat.lt_add_of_pos_left nonempty

/-- The text before and after the first occurrence of a literal. -/
def cutAt? (literal : List Char) : List Char → Option (List Char × List Char)
  | [] => if literal = [] then some ([], []) else none
  | c :: rest =>
    match after? literal (c :: rest) with
    | some after => some ([], after)
    | none => (cutAt? literal rest).map fun parts => (c :: parts.1, parts.2)

theorem eq_of_cutAt?_eq_some {literal cs before rest : List Char}
    (cut : cutAt? literal cs = some (before, rest)) : cs = before ++ literal ++ rest := by
  induction cs generalizing before with
  | nil =>
    unfold cutAt? at cut
    split at cut
    · rename_i isEmpty
      cases cut
      simp [isEmpty]
    · contradiction
  | cons c cs later =>
    unfold cutAt? at cut
    split at cut
    · rename_i found
      cases cut
      simpa using after?_eq_some_iff.1 found
    · obtain ⟨parts, inner, same⟩ := Option.map_eq_some_iff.1 cut
      cases same
      have := later inner
      simp only [List.cons_append, List.cons.injEq, true_and]
      exact this

theorem length_lt_of_cutAt?_eq_some {literal cs before rest : List Char}
    (nonempty : 0 < literal.length) (cut : cutAt? literal cs = some (before, rest)) :
    rest.length < cs.length := by
  rw [eq_of_cutAt?_eq_some cut, List.length_append, List.length_append]
  exact Nat.lt_add_of_pos_left (Nat.add_pos_right _ nonempty)

/-- The words of a text, where `word` is the current one, its last character first. -/
def wordsAfter (word : List Char) : List Char → List (List Char)
  | [] => if word.isEmpty then [] else [word.reverse]
  | c :: rest =>
    if isBlank c then
      if word.isEmpty then wordsAfter [] rest else word.reverse :: wordsAfter [] rest
    else wordsAfter (c :: word) rest

/-- The maximal runs of non-blank characters of a text. -/
def words (cs : List Char) : List (List Char) := wordsAfter [] cs

/-- Texts put one after another with a separator between neighbours. -/
def joinWith (separator : List Char) (texts : List (List Char)) : List Char :=
  (texts.intersperse separator).flatten

end LectureDeck.Text
