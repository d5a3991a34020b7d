import LectureDeck.Text.Blank
import LectureDeck.Text.CaseFold
import LectureDeck.Text.WordChar

/-!
# Patterns

A pattern describes texts. It matches a text when it describes some part of it. Matching moves a
set of positions through the pattern, so that it ends for every pattern and every text.
-/

namespace LectureDeck

/-- A set of characters. -/
inductive CharSet where
  | range (first last : Char)
  | word
  | digit
  | blank
  | none
  | not (set : CharSet)
  | union (left right : CharSet)
  | inter (left right : CharSet)
  /-- The characters that differ in case only from a character of the set. -/
  | anyCase (set : CharSet)
deriving DecidableEq, Repr

/-- A character is in a set. -/
def CharSet.holds : CharSet → Char → Bool
  | range first last, c => first ≤ c && c ≤ last
  | word, c => Text.isWordChar c
  | digit, c => Text.isDecimalDigit c
  | blank, c => Text.isBlank c
  | none, _ => false
  | not set, c => !set.holds c
  | union left right, c => left.holds c || right.holds c
  | inter left right, c => left.holds c && right.holds c
  | anyCase set, c => set.holds c || (Text.caseVariants c).any set.holds

/-- A condition on a position of a text. -/
inductive Assertion where
  | textStart
  | textEnd
  | lineStart
  | lineEnd
  | wordEdge
  | notWordEdge
  | wordStart
  | wordEnd
  | wordStartHalf
  | wordEndHalf
deriving DecidableEq, Repr

/-- A description of texts. -/
inductive Pattern where
  | empty
  | char (set : CharSet)
  | assertion (condition : Assertion)
  | append (first second : Pattern)
  | either (left right : Pattern)
  /-- A part in brackets, the text of which may be captured. -/
  | group (captured : Bool) (inner : Pattern)
  /-- At least `least` repetitions, and at most `most` more, if that is bounded. -/
  | repeated (inner : Pattern) (least : Nat) (most : Option Nat)
deriving DecidableEq, Repr

def wordBefore (text : Array Char) (position : Nat) : Bool :=
  position != 0 && (text[position - 1]?).any Text.isWordChar

def wordAfter (text : Array Char) (position : Nat) : Bool :=
  (text[position]?).any Text.isWordChar

def Assertion.holds (text : Array Char) (position : Nat) : Assertion → Bool
  | textStart => position == 0
  | textEnd => position == text.size
  | lineStart => position == 0 || text[position - 1]? == some '\n'
  | lineEnd => position == text.size || text[position]? == some '\n'
  | wordEdge => wordBefore text position != wordAfter text position
  | notWordEdge => wordBefore text position == wordAfter text position
  | wordStart => !wordBefore text position && wordAfter text position
  | wordEnd => wordBefore text position && !wordAfter text position
  | wordStartHalf => !wordBefore text position
  | wordEndHalf => !wordAfter text position

/-- The positions reached by any number of steps, at most `fuel`, given those reached so far and
the newest of them. -/
def closure (step : List Nat → List Nat) : Nat → List Nat → List Nat → List Nat
  | 0, reached, _ => reached
  | fuel + 1, reached, newest =>
    let further := (step newest).eraseDups.filter fun position => !reached.contains position
    if further.isEmpty then reached else closure step fuel (reached ++ further) further

/-- The positions reached by a number of steps. The search ends once a step changes nothing. -/
def iterate (step : List Nat → List Nat) : Nat → List Nat → List Nat
  | 0, positions => positions
  | count + 1, positions =>
    let further := (step positions).eraseDups
    if further == positions then positions else iterate step count further

/-- The positions at which a part that begins at one of the given positions may end. -/
def Pattern.ends (text : Array Char) : Pattern → List Nat → List Nat
  | empty, starts => starts
  | char set, starts =>
    starts.filterMap fun position =>
      if (text[position]?).any set.holds then some (position + 1) else none
  | assertion condition, starts => starts.filter fun position => condition.holds text position
  | append first second, starts => second.ends text (first.ends text starts)
  | either left right, starts => (left.ends text starts ++ right.ends text starts).eraseDups
  | group _ inner, starts => inner.ends text starts
  | repeated inner least most, starts =>
    let required := iterate (inner.ends text) least starts
    let bound := text.size + 2
    closure (inner.ends text) (match most with | some more => min more bound | none => bound)
      required required

/-- The pattern describes some part of a text. -/
def Pattern.matches (pattern : Pattern) (text : String) : Bool :=
  let chars := text.toList.toArray
  !(pattern.ends chars (List.range (chars.size + 1))).isEmpty

end LectureDeck
