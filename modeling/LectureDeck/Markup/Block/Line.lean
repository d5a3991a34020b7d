import LectureDeck.Text.CaseFold
import LectureDeck.Text.Line
import LectureDeck.Text.WordChar

/-!
# How lines begin

Which lines are blank, which begin a block of their own and so end the paragraph before them, and
which close a fence.
-/

namespace LectureDeck.Block

open LectureDeck.Text

/-- What follows the empty lines at the start of a text, where `found` follows those that have been
passed, if there are any. -/
def afterEmptyLines? (found : Option (List Char)) : List Char → Option (List Char)
  | [] => found
  | c :: rest =>
    if c = '\n' then afterEmptyLines? (some rest) rest
    else if isGap c then afterEmptyLines? found rest
    else found

/-- What follows the empty lines at the start of a text, of which there is at least one, or the
gap that the text consists of. -/
def emptyLines? (cs : List Char) : Option (List Char) :=
  match afterEmptyLines? none cs with
  | some rest => some rest
  | none => if !cs.isEmpty && cs.all isGap then some [] else none

/-- What follows a run of marks with gaps between them, of which there are at least three. -/
def ruleMarks? (mark : Char) (cs : List Char) : Option (List Char) :=
  let inRule := fun c => c == mark || isGap c
  if cs.head? == some mark && 3 ≤ (cs.takeWhile inRule).count mark then some (cs.dropWhile inRule)
  else none

def anyRuleMarks? (cs : List Char) : Option (List Char) :=
  ['-', '*', '_'].findSome? fun mark => ruleMarks? mark cs

/-- The mark of a list item and what follows it and a gap. The item is ordered when the mark
begins with a digit of the common kind. -/
def listMarker? (cs : List Char) : Option (Bool × List Char) :=
  match cs with
  | c :: rest =>
    if c == '*' || c == '+' || c == '-' then (gap? rest).map fun rest => (false, rest)
    else do
      let (digits, rest) ← run? isDecimalDigit cs
      if digits.length ≤ 9 then
        let rest ← oneOf? [".", ")"] rest
        let rest ← gap? rest
        some (c.isDigit, rest)
      else none
  | [] => none

/-- The mark of an indented list item and what follows it. -/
def listStart? (cs : List Char) : Option (Bool × List Char) := (indent? cs).bind listMarker?

/-- What follows the mark of a quoted line. -/
def quoteMark? (cs : List Char) : Option (List Char) := do
  let rest ← literal? ">" (← indent? cs)
  some ((literal? " " rest).getD rest)

/-- The words that begin a directive. -/
def directives : List String :=
  ["Answer:", "Ans:", "Tags:", "Concepts:", "Discuss:", "Hint:", "Notes:", "Extra:"]

/-- A run of at most six number signs, before a gap or at the end of a line. -/
def isHeadingMark (cs : List Char) : Bool :=
  let size := (cs.takeWhile (· == '#')).length
  1 ≤ size && size ≤ 6 &&
    match cs.dropWhile (· == '#') with
    | c :: _ => isGap c
    | [] => true

/-- The call of a plugin begins. -/
def isEmbedStart (cs : List Char) : Bool :=
  ((literal? "=" cs).bind fun rest => (run? isWordChar rest).bind fun part =>
    literal? "(" part.2).isSome

/-- A line without its line break begins a block of its own, even right after a paragraph. -/
def interrupts (body : List Char) : Bool :=
  match indent? body with
  | none => false
  | some cs =>
    isHeadingMark cs || anyRuleMarks? cs == some [] ||
      (literal? "--" cs).any (·.all isGap) ||
      (oneOf? ["\x60\x60\x60", "~~~", "$$", ">", "<!--slidoc-"] cs).isSome ||
      (oneOf? directives cs).isSome || (listMarker? cs).isSome || isEmbedStart cs

/-- A line closes a fence of at least `size` marks. -/
def closesFence (mark : Char) (size : Nat) (line : List Char) : Bool :=
  match indent? (lineBody line) with
  | none => false
  | some cs => size ≤ (cs.takeWhile (· == mark)).length && allBlank (cs.dropWhile (· == mark))

/-- The elements that begin a block of their own. -/
def blockElements : List String :=
  ["address", "article", "aside", "audio", "blockquote", "canvas", "center", "details", "div",
    "dl", "fieldset", "figure", "footer", "form", "h1", "h2", "h3", "h4", "h5", "h6", "header",
    "hr", "iframe", "nav", "ol", "p", "pre", "script", "section", "style", "svg", "table", "ul",
    "video"]

/-- What follows a word at the start of a text, in any case of letters. -/
def foldedWord? : List Char → List Char → Option (List Char)
  | [], cs => some cs
  | w :: word, c :: cs => if sameFold w c then foldedWord? word cs else none
  | _ :: _, [] => none

/-- The name of an element ends here. -/
def elementEnds : List Char → Bool
  | c :: _ => isBlank c || c == '/' || c == '>'
  | [] => true

/-- A comment or the tag of a block element begins. -/
def startsHtml (cs : List Char) : Bool :=
  match (indent? cs).bind (literal? "<") with
  | none => false
  | some rest =>
    (literal? "!--" rest).isSome ||
      let name := (literal? "/" rest).getD rest
      blockElements.any fun element =>
        (foldedWord? element.toList name).any elementEnds

theorem suffix_of_afterEmptyLines? {found : Option (List Char)} {cs rest : List Char}
    (read : afterEmptyLines? found cs = some rest) : found = some rest ∨ rest <:+ cs := by
  induction cs generalizing found with
  | nil => exact Or.inl read
  | cons c cs later =>
    have shorter : cs <:+ c :: cs := List.suffix_cons c cs
    unfold afterEmptyLines? at read
    split at read
    · rcases later read with same | inside
      · cases same
        exact Or.inr shorter
      · exact Or.inr (inside.trans shorter)
    · split at read
      · exact (later read).imp_right fun inside => inside.trans shorter
      · exact Or.inl read

theorem suffix_of_emptyLines? {cs rest : List Char} (read : emptyLines? cs = some rest) :
    rest <:+ cs := by
  unfold emptyLines? at read
  split at read
  · rename_i found
    cases read
    exact (suffix_of_afterEmptyLines? found).resolve_left (by simp)
  · split at read
    · cases read
      exact List.nil_suffix
    · contradiction

theorem suffix_of_anyRuleMarks? {cs rest : List Char} (read : anyRuleMarks? cs = some rest) :
    rest <:+ cs := by
  obtain ⟨mark, _, read⟩ := List.exists_of_findSome?_eq_some read
  simp only [ruleMarks?] at read
  split at read
  · cases read
    exact List.dropWhile_suffix _
  · contradiction

theorem suffix_of_listMarker? {cs : List Char} {found : Bool × List Char}
    (read : listMarker? cs = some found) : found.2 <:+ cs := by
  cases cs with
  | nil => contradiction
  | cons c cs =>
    simp only [listMarker?] at read
    split at read
    · obtain ⟨rest, spaced, rfl⟩ := Option.map_eq_some_iff.1 read
      exact (suffix_of_gap? spaced).trans (List.suffix_cons c cs)
    · obtain ⟨digits, counted, read⟩ := Option.bind_eq_some_iff.1 read
      split at read
      · obtain ⟨marked, closed, read⟩ := Option.bind_eq_some_iff.1 read
        obtain ⟨rest, spaced, read⟩ := Option.bind_eq_some_iff.1 read
        cases read
        exact (suffix_of_gap? spaced).trans
          ((suffix_of_oneOf? closed).trans (suffix_of_run? counted))
      · contradiction

theorem suffix_of_listStart? {cs : List Char} {found : Bool × List Char}
    (read : listStart? cs = some found) : found.2 <:+ cs := by
  obtain ⟨inner, indented, read⟩ := Option.bind_eq_some_iff.1 read
  exact (suffix_of_listMarker? read).trans (suffix_of_indent? indented)

end LectureDeck.Block
