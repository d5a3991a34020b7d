import LectureDeck.Pattern.Machine

/-!
# Reading patterns

The written form of patterns: characters, sets in brackets, groups, alternatives, repetitions,
positions, and flags that change what follows them. A text that is not a pattern has no reading, nor
has a pattern that is nested too deep or too large to be followed.
-/

namespace LectureDeck.Pattern

/-- Flags under which a part of a pattern is read. -/
structure Flags where
  anyCase : Bool
  /-- Line breaks are edges for `^` and `$`. -/
  lines : Bool
  /-- A dot describes line breaks too. -/
  dotAll : Bool
  /-- Space and comments are skipped. -/
  spaced : Bool
deriving DecidableEq, Repr

/-- The pattern of one character under flags. -/
def Flags.charPattern (flags : Flags) (set : CharSet) : Pattern :=
  .char (if flags.anyCase then .anyCase set else set)

/-- The set of one character. -/
def single (c : Char) : CharSet := .range c c

/-- All characters but line breaks, or all. -/
def Flags.dot (flags : Flags) : CharSet := if flags.dotAll then .not .none else .not (single '\n')

/-- What has been read of a pattern, with the number of levels of its parts. -/
structure Reading where
  pattern : Pattern
  levels : Nat

namespace Reading

/-- A part that has no parts. -/
def leaf (pattern : Pattern) : Reading := ⟨pattern, 0⟩

/-- One level more. -/
def raised (reading : Reading) (change : Pattern → Pattern) : Reading :=
  ⟨change reading.pattern, reading.levels + 1⟩

/-- The largest number of levels. -/
def maxLevels (readings : List Reading) : Nat :=
  readings.foldl (fun levels reading => max levels reading.levels) 0

/-- Readings joined by an operation, the last of them first. Two or more are parts of a level. -/
def joined (operation : Pattern → Pattern → Pattern) : List Reading → Reading
  | [] => leaf .empty
  | [only] => only
  | last :: before =>
    ⟨before.foldl (fun later part => operation part.pattern later) last.pattern,
      maxLevels (last :: before) + 1⟩

end Reading

/-- A text without the space and comments at its start. -/
def skipComments : Nat → List Char → List Char
  | 0, cs => cs
  | fuel + 1, cs =>
    match cs with
    | '#' :: rest => skipComments fuel (rest.dropWhile (· != '\n'))
    | c :: rest => if Text.isBlank c then skipComments fuel rest else cs
    | [] => []

/-- A pattern without the space and comments at its start, where flags skip them. -/
def skipSpaced (flags : Flags) (cs : List Char) : List Char :=
  if flags.spaced then skipComments cs.length cs else cs

/-- Characters that mean something in a pattern. -/
def metaChars : List Char :=
  ['\\', '.', '+', '*', '?', '(', ')', '|', '[', ']', '{', '}', '^', '$', '#', '&', '-', '~']

/-- A character that may stand for itself after a backslash. -/
def isEscapable (c : Char) : Bool :=
  metaChars.contains c || (c.toNat < 128 && !c.isAlphanum && c != '<' && c != '>')

/-- What a backslash and what follows it stand for. -/
inductive Escape where
  | literal (c : Char)
  | set (chars : CharSet)
  | position (condition : Assertion)

/-- The value of a digit in base 16. -/
def hexValue? (c : Char) : Option Nat :=
  if c.isDigit then some (c.toNat - 48)
  else if 'a' ≤ c && c ≤ 'f' then some (c.toNat - 87)
  else if 'A' ≤ c && c ≤ 'F' then some (c.toNat - 55)
  else none

/-- The character of a number in base 16. -/
def hexChar? (digits : List Char) : Option Char := do
  if digits.isEmpty then none
  else
    let values ← digits.mapM hexValue?
    let code := values.foldl (fun code value => min 0x110000 (code * 16 + value)) 0
    if code.isValidChar then some (Char.ofNat code) else none

/-- The character that is given by number after `x`, `u` or `U`. -/
def hexEscape? (size : Nat) (cs : List Char) : Option (Char × List Char) :=
  match cs with
  | '{' :: rest => do
    let (digits, rest) ← Text.cut? '}' rest
    some (← hexChar? digits, rest)
  | _ => do
    if cs.length < size then none else some (← hexChar? (cs.take size), cs.drop size)

/-- The condition on the edge of a word that stands after `b`. -/
def edgeEscape (cs : List Char) : Assertion × List Char :=
  let named := [("{start}", Assertion.wordStart), ("{end}", .wordEnd),
    ("{start-half}", .wordStartHalf), ("{end-half}", .wordEndHalf)]
  (named.findSome? fun (name, condition) =>
    (Text.after? name.toList cs).map fun rest => (condition, rest)).getD (.wordEdge, cs)

/-- What follows a backslash. -/
def escape? : List Char → Option (Escape × List Char)
  | [] => none
  | c :: rest =>
    match c with
    | 'd' => some (.set .digit, rest)
    | 'D' => some (.set (.not .digit), rest)
    | 's' => some (.set .blank, rest)
    | 'S' => some (.set (.not .blank), rest)
    | 'w' => some (.set .word, rest)
    | 'W' => some (.set (.not .word), rest)
    | 'a' => some (.literal '\x07', rest)
    | 'f' => some (.literal '\x0c', rest)
    | 't' => some (.literal '\t', rest)
    | 'n' => some (.literal '\n', rest)
    | 'r' => some (.literal '\r', rest)
    | 'v' => some (.literal '\x0b', rest)
    | 'A' => some (.position .textStart, rest)
    | 'z' => some (.position .textEnd, rest)
    | 'B' => some (.position .notWordEdge, rest)
    | '<' => some (.position .wordStart, rest)
    | '>' => some (.position .wordEnd, rest)
    | 'b' => some (.position (edgeEscape rest).1, (edgeEscape rest).2)
    | 'x' => (hexEscape? 2 rest).map fun found => (.literal found.1, found.2)
    | 'u' => (hexEscape? 4 rest).map fun found => (.literal found.1, found.2)
    | 'U' => (hexEscape? 8 rest).map fun found => (.literal found.1, found.2)
    | _ => if isEscapable c then some (.literal c, rest) else none

/-- Sets with names, written in brackets and colons. -/
def namedSet? (name : String) : Option CharSet :=
  let ranges := fun (l : List (Char × Char)) =>
    some (l.foldr (fun range set => CharSet.union (.range range.1 range.2) set) .none)
  match name with
  | "alnum" => ranges [('0', '9'), ('A', 'Z'), ('a', 'z')]
  | "alpha" => ranges [('A', 'Z'), ('a', 'z')]
  | "ascii" => ranges [('\x00', '\x7f')]
  | "blank" => ranges [('\t', '\t'), (' ', ' ')]
  | "cntrl" => ranges [('\x00', '\x1f'), ('\x7f', '\x7f')]
  | "digit" => ranges [('0', '9')]
  | "graph" => ranges [('!', '~')]
  | "lower" => ranges [('a', 'z')]
  | "print" => ranges [(' ', '~')]
  | "punct" => ranges [('!', '/'), (':', '@'), ('[', '\x60'), ('{', '~')]
  | "space" => ranges [('\t', '\r'), (' ', ' ')]
  | "upper" => ranges [('A', 'Z')]
  | "word" => ranges [('0', '9'), ('A', 'Z'), ('_', '_'), ('a', 'z')]
  | "xdigit" => ranges [('0', '9'), ('A', 'F'), ('a', 'f')]
  | _ => none

/-- A set by name at the start of a text. -/
def namedSetAt? (cs : List Char) : Option (CharSet × List Char) := do
  let rest ← Text.after? ['[', ':'] cs
  let (negated, rest) := match rest with
    | '^' :: rest => (true, rest)
    | _ => (false, rest)
  let (name, rest) ← Text.cut? ':' rest
  let rest ← Text.after? [']'] rest
  let set ← namedSet? (String.ofList name)
  some (if negated then .not set else set, rest)

/-- A member of a set: a character or a set. -/
def setItem? : List Char → Option ((Char ⊕ CharSet) × List Char)
  | [] => none
  | '\\' :: rest => do
    match ← escape? rest with
    | (.literal c, rest) => some (.inl c, rest)
    | (.set chars, rest) => some (.inr chars, rest)
    | (.position _, _) => none
  | c :: rest => some (.inl c, rest)

/-- A member of a set or a range of characters. -/
def setRange? (flags : Flags) (cs : List Char) : Option (CharSet × List Char) := do
  let skip := skipSpaced flags
  let (first, rest) ← setItem? cs
  let alone := match first with
    | .inl c => single c
    | .inr chars => chars
  match skip rest with
  | [] => none
  | '-' :: after =>
    match skip after with
    | [] => none
    | ']' :: _ => some (alone, skip rest)
    | '-' :: _ => some (alone, skip rest)
    | _ => do
      let (second, rest) ← setItem? (skip after)
      match first, second with
      | .inl first, .inl second => if first ≤ second then some (.range first second, rest) else none
      | _, _ => none
  | rest => some (alone, rest)

/-- Two sets joined by an operator: `&` for what both hold, `-` for what only the first holds, and
`~` for what one of them holds. -/
def combine (flags : Flags) (operator : Char) (left right : CharSet) : CharSet :=
  let fold := fun set => if flags.anyCase then CharSet.anyCase set else set
  let left := fold left
  let right := fold right
  match operator with
  | '&' => .inter left right
  | '-' => .inter left (.not right)
  | _ => .union (.inter left (.not right)) (.inter right (.not left))

/-- A set that has been read, with the number of levels of its parts. -/
structure SetReading where
  set : CharSet
  levels : Nat

/-- What has been read of a set: an operator with its left side, the members since, how many they
are, and the largest number of levels of one. -/
structure SetSoFar where
  pending : Option (Char × SetReading)
  members : CharSet
  count : Nat
  levels : Nat

/-- Nothing read. -/
def SetSoFar.start : SetSoFar := ⟨none, .none, 0, 0⟩

def SetSoFar.add (so : SetSoFar) (member : SetReading) : SetSoFar :=
  { so with
    members := .union so.members member.set
    count := so.count + 1
    levels := max so.levels member.levels }

/-- The set that has been read. Two members or more are parts of a level, and so are the sides of an
operator. -/
def SetSoFar.finish (flags : Flags) (so : SetSoFar) : SetReading :=
  let levels := if so.count ≤ 1 then so.levels else so.levels + 1
  match so.pending with
  | some (operator, left) =>
    ⟨combine flags operator left.set so.members, max left.levels levels + 1⟩
  | none => ⟨so.members, levels⟩

mutual

/-- A set in brackets, after its opening bracket. -/
def setBody? (flags : Flags) : Nat → List Char → Option (SetReading × List Char)
  | 0, _ => none
  | fuel + 1, cs => do
    let skip := skipSpaced flags
    let (negated, rest) := match skip cs with
      | '^' :: rest => (true, skip rest)
      | rest => (false, rest)
    let dashes := rest.takeWhile (· == '-')
    let rest := rest.dropWhile (· == '-')
    let start := dashes.foldl (fun so dash => so.add ⟨single dash, 0⟩) SetSoFar.start
    let (start, rest) := match dashes, skip rest with
      | [], ']' :: after => (start.add ⟨single ']', 0⟩, after)
      | _, rest => (start, rest)
    let (reading, rest) ← setMembers? flags fuel start rest
    let set := if flags.anyCase then .anyCase reading.set else reading.set
    some (⟨if negated then .not set else set, reading.levels + 1⟩, rest)

/-- The members of a set, up to its closing bracket. -/
def setMembers? (flags : Flags) : Nat → SetSoFar → List Char → Option (SetReading × List Char)
  | 0, _, _ => none
  | fuel + 1, so, cs =>
    let operate := fun operator =>
      { SetSoFar.start with pending := some (operator, so.finish flags) }
    match skipSpaced flags cs with
    | [] => none
    | ']' :: rest => some (so.finish flags, rest)
    | '&' :: '&' :: rest => setMembers? flags fuel (operate '&') rest
    | '-' :: '-' :: rest => setMembers? flags fuel (operate '-') rest
    | '~' :: '~' :: rest => setMembers? flags fuel (operate '~') rest
    | '[' :: rest =>
      match namedSetAt? ('[' :: rest) with
      | some (set, rest) => setMembers? flags fuel (so.add ⟨set, 0⟩) rest
      | none => do
        let (inner, rest) ← setBody? flags fuel rest
        setMembers? flags fuel (so.add inner) rest
    | rest => do
      let (set, rest) ← setRange? flags rest
      setMembers? flags fuel (so.add ⟨set, 0⟩) rest

end

/-- A number of repetitions, with space around it. -/
def count? (cs : List Char) : Option (Nat × List Char) :=
  let rest := cs.dropWhile Text.isBlank
  let digits := rest.takeWhile Char.isDigit
  let value := digits.foldl (fun value digit => value * 10 + (digit.toNat - 48)) 0
  if digits.isEmpty || 4294967296 ≤ value then none
  else some (value, (rest.dropWhile Char.isDigit).dropWhile Text.isBlank)

/-- The numbers of repetitions after an opening brace: how many at least, and how many more at
most. -/
def counts? (flags : Flags) (cs : List Char) : Option ((Nat × Option Nat) × List Char) := do
  let skip := skipSpaced flags
  let (least, rest) ← count? (skip cs)
  match rest with
  | '}' :: rest => some ((least, some 0), rest)
  | ',' :: rest =>
    match skip rest with
    | '}' :: rest => some ((least, none), rest)
    | rest => do
      let (most, rest) ← count? rest
      match rest with
      | '}' :: rest => if least ≤ most then some ((least, some (most - least)), rest) else none
      | _ => none
  | _ => none

/-- What follows a question mark that makes a repetition reluctant. -/
def skipReluctant (flags : Flags) (cs : List Char) : List Char :=
  match skipSpaced flags cs with
  | '?' :: rest => rest
  | _ => cs

/-- The repetition that stands at the start of a text. -/
def repetition? (flags : Flags) : List Char → Option ((Nat × Option Nat) × List Char)
  | '*' :: rest => some ((0, none), skipReluctant flags rest)
  | '+' :: rest => some ((1, none), skipReluctant flags rest)
  | '?' :: rest => some ((0, some 1), skipReluctant flags rest)
  | '{' :: rest => (counts? flags rest).map fun found => (found.1, skipReluctant flags found.2)
  | _ => none

/-- A character that a repetition begins with. -/
def isRepetitionStart (c : Char) : Bool := c == '*' || c == '+' || c == '?' || c == '{'

def setFlag? (flags : Flags) (letter : Char) (value : Bool) : Option Flags :=
  match letter with
  | 'i' => some { flags with anyCase := value }
  | 'm' => some { flags with lines := value }
  | 's' => some { flags with dotAll := value }
  | 'x' => some { flags with spaced := value }
  | 'U' => some flags
  | 'u' => if value then some flags else none
  | _ => none

/-- The letters of flags, each at most once, those after a dash being unset. A dash is followed by
some letter. -/
def flagLetters? (seen : List Char) (value dangling : Bool) :
    Flags → List Char → Option (Flags × List Char)
  | _, [] => none
  | flags, c :: rest =>
    if c == ':' || c == ')' then if dangling then none else some (flags, c :: rest)
    else if c == '-' then
      if value then flagLetters? seen false true flags rest else none
    else if seen.contains c then none
    else (setFlag? flags c value).bind fun flags => flagLetters? (c :: seen) value false flags rest

/-- A character that the name of a group may begin with. -/
def isNameStart (c : Char) : Bool := c == '_' || (Text.isWordChar c && !Text.isDecimalDigit c)

/-- A character of the name of a group. -/
def isNameChar (c : Char) : Bool := Text.isWordChar c || c == '.' || c == '[' || c == ']'

/-- The name of a group, up to its closing angle. -/
def groupName? (cs : List Char) : Option (String × List Char) := do
  let (name, rest) ← Text.cut? '>' cs
  match name with
  | first :: others =>
    if isNameStart first && others.all isNameChar then some (String.ofList name, rest) else none
  | [] => none

/-- How a group begins. -/
inductive Opening where
  /-- Flags for the rest of the group that they stand in. -/
  | flags (flags : Flags)
  | group (flags : Flags) (captured : Bool) (name : Option String)

/-- What follows an opening bracket. -/
def opening? (flags : Flags) (cs : List Char) : Option (Opening × List Char) :=
  match cs with
  | '?' :: 'P' :: '<' :: rest =>
    (groupName? rest).map fun found => (.group flags true (some found.1), found.2)
  | '?' :: '<' :: rest =>
    match rest with
    | '=' :: _ => none
    | '!' :: _ => none
    | _ => (groupName? rest).map fun found => (.group flags true (some found.1), found.2)
  | '?' :: rest => do
    let (inner, after) ← flagLetters? [] true false flags rest
    match after with
    | ':' :: after => some (.group inner false none, after)
    | ')' :: after => if (rest.head? == some ')') then none else some (.flags inner, after)
    | _ => none
  | _ => some (.group flags true none, cs)

/-- What has been read of a group: the alternatives, the parts of the last of them with the newest
first, whether the newest part may be repeated, and the names of groups. -/
structure GroupSoFar where
  alternatives : List Reading
  parts : List Reading
  repeatable : Bool
  names : List String

def GroupSoFar.add (so : GroupSoFar) (part : Reading) : GroupSoFar :=
  { so with parts := part :: so.parts, repeatable := true }

/-- One more part that has no parts. -/
def GroupSoFar.addLeaf (so : GroupSoFar) (pattern : Pattern) : GroupSoFar := so.add (.leaf pattern)

/-- The alternatives, the last of them first. -/
def GroupSoFar.allAlternatives (so : GroupSoFar) : List Reading :=
  Reading.joined .append so.parts :: so.alternatives

/-- The pattern that has been read. -/
def GroupSoFar.finish (so : GroupSoFar) : Reading := Reading.joined .either so.allAlternatives

/-- A group up to its closing bracket or the end of the text, with the names of groups. -/
def group? : Nat → Flags → GroupSoFar → List Char → Option (Reading × List String × List Char)
  | 0, _, _, _ => none
  | fuel + 1, flags, so, cs =>
    match skipSpaced flags cs with
    | [] => some (so.finish, so.names, [])
    | ')' :: rest => some (so.finish, so.names, ')' :: rest)
    | '|' :: rest =>
      group? fuel flags ⟨so.allAlternatives, [], false, so.names⟩ rest
    | '(' :: rest => do
      match ← opening? flags rest with
      | (.flags inner, rest) =>
        group? fuel inner { so.addLeaf .empty with repeatable := false } rest
      | (.group inner captured name, rest) =>
        let names := match name with
          | some name => name :: so.names
          | none => so.names
        if (name.map so.names.contains).getD false then none
        else
          let (reading, names, rest) ← group? fuel inner ⟨[], [], false, names⟩ rest
          match rest with
          | ')' :: rest =>
            let so := so.add (reading.raised (.group captured))
            group? fuel flags { so with names := names } rest
          | _ => none
    | '[' :: rest => do
      let (reading, rest) ← setBody? flags fuel rest
      group? fuel flags (so.add ⟨.char reading.set, reading.levels⟩) rest
    | '\\' :: rest => do
      match ← escape? rest with
      | (.literal c, rest) => group? fuel flags (so.addLeaf (flags.charPattern (single c))) rest
      | (.set chars, rest) => group? fuel flags (so.addLeaf (.char chars)) rest
      | (.position condition, rest) => group? fuel flags (so.addLeaf (.assertion condition)) rest
    | '.' :: rest => group? fuel flags (so.addLeaf (.char flags.dot)) rest
    | '^' :: rest =>
      let condition := if flags.lines then .lineStart else .textStart
      group? fuel flags (so.addLeaf (.assertion condition)) rest
    | '$' :: rest =>
      let condition := if flags.lines then .lineEnd else .textEnd
      group? fuel flags (so.addLeaf (.assertion condition)) rest
    | c :: rest =>
      if isRepetitionStart c then
        match so.repeatable, so.parts with
        | true, newest :: before => do
          let ((least, most), rest) ← repetition? flags (c :: rest)
          let part := newest.raised (.repeated · least most)
          group? fuel flags { so with parts := part :: before } rest
        | _, _ => none
      else group? fuel flags (so.addLeaf (flags.charPattern (single c))) rest

/-- The largest number of levels that a pattern may have. -/
def maxLevels : Nat := 250

def read? (text : String) : Option Pattern := do
  let cs := text.toList
  let flags : Flags := ⟨false, false, false, false⟩
  let (reading, _, rest) ← group? (2 * cs.length + 2) flags ⟨[], [], false, []⟩ cs
  if rest.isEmpty && reading.levels ≤ maxLevels && reading.pattern.fits then some reading.pattern
  else none

end LectureDeck.Pattern
