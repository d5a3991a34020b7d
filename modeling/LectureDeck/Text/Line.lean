import LectureDeck.Text.Blank

/-!
# Lines and literals

A text is the concatenation of its lines, each with its line break. The readers below take a part
from the start of a text and return what follows it.
-/

namespace LectureDeck.Text

/-- The lines of a text, each with the line break that ends it. -/
def lines : List Char → List (List Char)
  | [] => []
  | c :: rest =>
    if c = '\n' then ['\n'] :: lines rest
    else
      match lines rest with
      | [] => [[c]]
      | first :: others => (c :: first) :: others

/-- The lines that satisfy `p` up to the first that does not, and the text from there on. `line`
holds the part of the current line that has been passed, its last character first, and `start` the
text from the beginning of that line on. -/
def spanLinesFrom (p : List Char → Bool) (line start : List Char) :
    List Char → List (List Char) × List Char
  | [] =>
    if line.isEmpty then ([], [])
    else if p line.reverse then ([line.reverse], [])
    else ([], start)
  | c :: rest =>
    if c = '\n' then
      if p (c :: line).reverse then
        let part := spanLinesFrom p [] rest rest
        ((c :: line).reverse :: part.1, part.2)
      else ([], start)
    else spanLinesFrom p (c :: line) start rest

/-- The lines at the start of a text that satisfy `p`, and what follows them. -/
def spanLines (p : List Char → Bool) (cs : List Char) : List (List Char) × List Char :=
  spanLinesFrom p [] cs cs

/-- The lines that are taken and what is left of a text make up the text. -/
theorem flatten_spanLinesFrom {p : List Char → Bool} {line start cs : List Char}
    (passed : start = line.reverse ++ cs) :
    (spanLinesFrom p line start cs).1.flatten ++ (spanLinesFrom p line start cs).2 = start := by
  fun_induction spanLinesFrom p line start cs with
  | case1 => simp_all
  | case2 => simp_all
  | case3 => simp_all
  | case4 line start rest part accepted later =>
    have same : part.1.flatten ++ part.2 = rest := later rfl
    simp_all
  | case5 => simp_all
  | case6 line start c rest other later => exact later (by simp [passed])

/-- The lines taken from the start of a text and what follows them make up the text. -/
theorem flatten_spanLines (p : List Char → Bool) (cs : List Char) :
    (spanLines p cs).1.flatten ++ (spanLines p cs).2 = cs :=
  flatten_spanLinesFrom rfl

/-- The first line of a text without its line break. -/
def firstLine (cs : List Char) : List Char := cs.takeWhile (· != '\n')

/-- What follows the first line of a text. -/
def afterLine (cs : List Char) : List Char := (cs.dropWhile (· != '\n')).drop 1

/-- A line without its line break. -/
def lineBody (line : List Char) : List Char := dropEndWhile (· == '\n') line

/-- What follows a literal at the start of a text. -/
def literal? (literal : String) (cs : List Char) : Option (List Char) :=
  after? literal.toList cs

/-- What follows the first literal of a list that stands at the start of a text. -/
def oneOf? (literals : List String) (cs : List Char) : Option (List Char) :=
  literals.findSome? fun literal => literal? literal cs

/-- What follows the gap at the start of a text. -/
def skipGap (cs : List Char) : List Char := cs.dropWhile isGap

/-- What follows a gap of at least one character. -/
def gap? (cs : List Char) : Option (List Char) :=
  match cs with
  | c :: rest => if isGap c then some (skipGap rest) else none
  | [] => none

/-- What follows an indentation of at most three spaces. -/
def indent? (cs : List Char) : Option (List Char) :=
  if (cs.takeWhile (· == ' ')).length ≤ 3 then some (cs.dropWhile (· == ' ')) else none

/-- What follows the end of a line and the empty lines after it. -/
def lineEnd? : List Char → Option (List Char)
  | [] => some []
  | c :: rest => if c = '\n' then some (rest.dropWhile (· == '\n')) else none

/-- What follows a gap and the end of a line. -/
def gapLineEnd? (cs : List Char) : Option (List Char) := lineEnd? (skipGap cs)

/-- A run of at least one character of a class, and what follows it. -/
def run? (p : Char → Bool) (cs : List Char) : Option (List Char × List Char) :=
  let taken := cs.takeWhile p
  if taken.isEmpty then none else some (taken, cs.dropWhile p)

/-- The shortest text after which `close` succeeds, and what `close` returns. No character of the
class `stop` may stand in the text. -/
def upTo? {α : Type} (stop : Char → Bool) (close : List Char → Option α) :
    List Char → Option (List Char × α)
  | [] => (close []).map fun after => ([], after)
  | c :: rest =>
    match close (c :: rest) with
    | some after => some ([], after)
    | none =>
      if stop c then none
      else (upTo? stop close rest).map fun part => (c :: part.1, part.2)

/-- The shortest text of at least one character after which `close` succeeds. -/
def someUpTo? {α : Type} (stop : Char → Bool) (close : List Char → Option α) :
    List Char → Option (List Char × α)
  | [] => none
  | c :: rest =>
    if stop c then none
    else (upTo? stop close rest).map fun part => (c :: part.1, part.2)

/-- No character stops a text. -/
def never : Char → Bool := fun _ => false

/-- A line break stops a text. -/
def isLineBreak (c : Char) : Bool := c == '\n'

/-- A text is made up of its lines. -/
theorem flatten_lines (cs : List Char) : (lines cs).flatten = cs := by
  fun_induction lines cs <;> simp_all

/-! What the readers return after the part that they take is an end of the text. -/

/-- A literal leaves an end of the text. -/
theorem suffix_of_literal? {literal : String} {cs rest : List Char}
    (read : literal? literal cs = some rest) : rest <:+ cs :=
  ⟨literal.toList, (after?_eq_some_iff.1 read).symm⟩

/-- One of several literals leaves an end of the text. -/
theorem suffix_of_oneOf? {literals : List String} {cs rest : List Char}
    (read : oneOf? literals cs = some rest) : rest <:+ cs := by
  obtain ⟨_, _, read⟩ := List.exists_of_findSome?_eq_some read
  exact suffix_of_literal? read

/-- What follows a literal that may be missing. -/
theorem getD_literal?_suffix (literal : String) (cs : List Char) :
    (literal? literal cs).getD cs <:+ cs := by
  cases read : literal? literal cs with
  | none => exact List.suffix_refl cs
  | some rest => exact suffix_of_literal? read

/-- What comes after a literal is an end of the text. -/
theorem suffix_of_cutAt? {literal cs before rest : List Char}
    (cut : cutAt? literal cs = some (before, rest)) : rest <:+ cs :=
  ⟨before ++ literal, (eq_of_cutAt?_eq_some cut).symm⟩

/-- Skipping a gap leaves an end of the text. -/
theorem skipGap_suffix (cs : List Char) : skipGap cs <:+ cs := List.dropWhile_suffix _

/-- What comes after a line is an end of the text. -/
theorem afterLine_suffix (cs : List Char) : afterLine cs <:+ cs :=
  (List.drop_suffix 1 _).trans (List.dropWhile_suffix _)

/-- A line takes something, if only its break. -/
theorem length_afterLine_lt {cs : List Char} (nonempty : cs ≠ []) :
    (afterLine cs).length < cs.length := by
  cases cs with
  | nil => contradiction
  | cons c cs =>
    have shorter : (afterLine (c :: cs)).length ≤ cs.length := by
      unfold afterLine
      rw [List.dropWhile_cons]
      split
      · exact Nat.le_trans (List.drop_suffix 1 _).length_le (List.dropWhile_suffix _).length_le
      · exact Nat.le_refl _
    exact Nat.lt_succ_of_le shorter

/-- A gap leaves an end of the text. -/
theorem suffix_of_gap? {cs rest : List Char} (read : gap? cs = some rest) : rest <:+ cs := by
  unfold gap? at read
  split at read
  · split at read
    · cases read
      exact (skipGap_suffix _).trans (List.suffix_cons _ _)
    · contradiction
  · contradiction

/-- An indentation leaves an end of the text. -/
theorem suffix_of_indent? {cs rest : List Char} (read : indent? cs = some rest) : rest <:+ cs := by
  unfold indent? at read
  split at read
  · cases read
    exact List.dropWhile_suffix _
  · contradiction

/-- The end of a line leaves an end of the text. -/
theorem suffix_of_lineEnd? {cs rest : List Char} (read : lineEnd? cs = some rest) :
    rest <:+ cs := by
  unfold lineEnd? at read
  split at read
  · cases read
    exact List.suffix_refl _
  · split at read
    · cases read
      exact (List.dropWhile_suffix _).trans (List.suffix_cons _ _)
    · contradiction

/-- So does the end of a line behind a gap. -/
theorem suffix_of_gapLineEnd? {cs rest : List Char} (read : gapLineEnd? cs = some rest) :
    rest <:+ cs := (suffix_of_lineEnd? read).trans (skipGap_suffix cs)

/-- A run has the characters that are taken while a condition holds, of which there is one at
least. -/
theorem eq_of_run? {p : Char → Bool} {cs : List Char} {part : List Char × List Char}
    (read : run? p cs = some part) :
    part = (cs.takeWhile p, cs.dropWhile p) ∧ cs.takeWhile p ≠ [] := by
  simp only [run?] at read
  split at read
  · contradiction
  · rename_i some
    cases read
    exact ⟨rfl, fun none => some (List.isEmpty_iff.2 none)⟩

/-- A run leaves an end of the text. -/
theorem suffix_of_run? {p : Char → Bool} {cs : List Char} {part : List Char × List Char}
    (read : run? p cs = some part) : part.2 <:+ cs := by
  obtain ⟨rfl, -⟩ := eq_of_run? read
  exact List.dropWhile_suffix _

/-- The closing part leaves an end of the text when `close` does. -/
theorem suffix_of_upTo? {stop : Char → Bool} {close : List Char → Option (List Char)}
    (closes : ∀ {cs rest}, close cs = some rest → rest <:+ cs) {cs : List Char}
    {part : List Char × List Char} (found : upTo? stop close cs = some part) : part.2 <:+ cs := by
  induction cs generalizing part with
  | nil =>
    obtain ⟨_, closed, same⟩ := Option.map_eq_some_iff.1 found
    cases same
    exact closes closed
  | cons c rest later =>
    unfold upTo? at found
    split at found
    · rename_i closed
      cases found
      exact closes closed
    · split at found
      · contradiction
      · obtain ⟨part, inner, same⟩ := Option.map_eq_some_iff.1 found
        cases same
        exact (later inner).trans (List.suffix_cons c rest)

/-- A search leaves an end of the text if what closes it does. -/
theorem suffix_of_someUpTo? {stop : Char → Bool} {close : List Char → Option (List Char)}
    (closes : ∀ {cs rest}, close cs = some rest → rest <:+ cs) {cs : List Char}
    {part : List Char × List Char} (found : someUpTo? stop close cs = some part) :
    part.2 <:+ cs := by
  cases cs with
  | nil => contradiction
  | cons c rest =>
    simp only [someUpTo?] at found
    split at found
    · contradiction
    · obtain ⟨part, inner, same⟩ := Option.map_eq_some_iff.1 found
      cases same
      exact (suffix_of_upTo? closes inner).trans (List.suffix_cons c rest)

/-- Lines that are taken leave an end of the text. -/
theorem spanLines_suffix (p : List Char → Bool) (cs : List Char) : (spanLines p cs).2 <:+ cs :=
  ⟨(spanLines p cs).1.flatten, flatten_spanLines p cs⟩

/-- The text found before a closing part is no longer than what it was searched in. -/
theorem length_le_of_upTo? {α : Type} {stop : Char → Bool} {close : List Char → Option α}
    {cs text : List Char} {after : α} (found : upTo? stop close cs = some (text, after)) :
    text.length ≤ cs.length := by
  induction cs generalizing text with
  | nil =>
    obtain ⟨_, _, same⟩ := Option.map_eq_some_iff.1 found
    cases same
    exact Nat.le_refl _
  | cons c rest shorter =>
    unfold upTo? at found
    split at found
    · cases found
      exact Nat.zero_le _
    · split at found
      · contradiction
      · obtain ⟨part, later, same⟩ := Option.map_eq_some_iff.1 found
        cases same
        exact Nat.succ_le_succ (shorter later)

/-- The text found before a closing part is no longer than what it was searched in. -/
theorem length_le_of_someUpTo? {α : Type} {stop : Char → Bool} {close : List Char → Option α}
    {cs text : List Char} {after : α} (found : someUpTo? stop close cs = some (text, after)) :
    text.length ≤ cs.length := by
  cases cs with
  | nil => contradiction
  | cons c rest =>
    simp only [someUpTo?] at found
    split at found
    · contradiction
    · obtain ⟨part, later, same⟩ := Option.map_eq_some_iff.1 found
      cases same
      exact Nat.succ_le_succ (length_le_of_upTo? later)

end LectureDeck.Text
