import LectureDeck.Text.Line
import LectureDeck.Text.WordChar
import LectureDeck.Markup.Inline

/-!
# Rules for running text

Each rule takes one token from the start of a text and returns what follows it. The rules are
tried in order, and the first that applies decides; plain text is what no rule takes.
-/

namespace LectureDeck.Inline

open LectureDeck.Text

/-- A token and what follows it. -/
abbrev Found := Inline × List Char

/-- Characters at which plain text ends, since a token may start there. -/
def specialChars : List Char := ['\\', '<', '!', '[', '_', '*', '\x60', '$']

/-- Characters that a backslash makes plain. -/
def escapableChars : List Char :=
  ['\\', '\x60', '*', '{', '}', '[', ']', '(', ')', '#', '+', '-', '.', '!', '_', '>', '~', '|',
    '$', ';']

/-- A letter that can name a choice, or `Q` for the question itself. -/
def isChoiceLetter (c : Char) : Bool := ('a' ≤ c && c ≤ 'q') || ('A' ≤ c && c ≤ 'Q')

/-- `A.. ` or `A*.. `, which stand at the start of a line only. -/
def choice? (cs : List Char) : Option Found :=
  match indent? cs with
  | some (letter :: rest) =>
    if isChoiceLetter letter then
      let (alternative, rest) := match rest with
        | '*' :: after => (true, after)
        | _ => (false, rest)
      do
        let rest ← literal? ".." rest
        let rest ← gap? rest
        some (choice letter.toUpper alternative, rest)
    else none
  | _ => none

/-- Mathematics between pairs of dollars. -/
def displayMath? (cs : List Char) : Option Found := do
  let rest ← literal? "$$" cs
  let (content, rest) ← someUpTo? never (literal? "$$") rest
  some (displayMath (String.ofList content), rest)

/-- Mathematics between dollars inside backquotes. -/
def inlineMath? (cs : List Char) : Option Found := do
  let rest ← literal? "\x60$" cs
  let (content, rest) ← someUpTo? never (literal? "$\x60") rest
  some (inlineMath (String.ofList content), rest)

/-- The end of a call: a bracket, perhaps a semicolon, and a backquote. -/
def callEnd? (cs : List Char) : Option (List Char) := do
  let rest ← literal? ")" (skipGap cs)
  oneOf? [";\x60", "\x60"] rest

/-- A call of a plugin inside backquotes. -/
def call? (cs : List Char) : Option Found := do
  let rest ← literal? "\x60=" cs
  let (plugin, rest) ← run? isWordChar rest
  let rest ← literal? "." rest
  let (action, rest) ← run? isWordChar rest
  let rest ← literal? "(" rest
  let (argument, rest) ← upTo? (fun c => c == ')' || c == '\x60') callEnd? (skipGap rest)
  some (call (String.ofList plugin) (String.ofList action) (String.ofList argument), rest)

/-- The rest of a bracketed text up to its closing bracket. One level of brackets may stand inside
it, around characters other than `stop`; `inside` tells that such brackets are open. -/
def bracketed? (stop : Char → Bool) : Bool → List Char → Option (List Char × List Char)
  | _, [] => none
  | true, c :: rest =>
    if c = ']' then (bracketed? stop false rest).map fun part => (c :: part.1, part.2)
    else if stop c then none
    else (bracketed? stop true rest).map fun part => (c :: part.1, part.2)
  | false, c :: rest =>
    if c = ']' then some ([], rest)
    else if c = '[' then (bracketed? stop true rest).map fun part => (c :: part.1, part.2)
    else (bracketed? stop false rest).map fun part => (c :: part.1, part.2)

/-- A text in brackets, followed by a key in braces. -/
def definition? (cs : List Char) : Option Found := do
  let rest ← literal? "[" cs
  let (label, rest) ← bracketed? (· == '^') false rest
  let rest ← literal? "\x7b" (skipGap rest)
  let rest ← literal? "#" (skipGap rest)
  let isKey := fun c => c != '^' && c != '}'
  let key := rest.takeWhile isKey
  let rest ← literal? "\x7d" (rest.dropWhile isKey)
  some (definition (String.ofList label) (String.ofList (trim key)), rest)

/-- An exclamation mark, which makes an image of a link, and a text in brackets. -/
def linkLabel? (cs : List Char) : Option (Bool × List Char × List Char) := do
  let (image, rest) := match cs with
    | '!' :: after => (true, after)
    | _ => (false, cs)
  let rest ← literal? "[" rest
  let (label, rest) ← bracketed? never false rest
  some (image, label, rest)

/-- The end of a link's title: a quote and the closing bracket. -/
def titleEnd? : List Char → Option (List Char)
  | c :: rest => if c = '"' || c = '\x27' then literal? ")" (skipGap rest) else none
  | [] => none

/-- A quoted title and the closing bracket. -/
def quotedTitle? : List Char → Option (List Char × List Char)
  | c :: rest => if c = '"' || c = '\x27' then upTo? isLineBreak titleEnd? rest else none
  | [] => none

/-- The title of a link, which may be absent, and the closing bracket. -/
def linkEnd? (cs : List Char) : Option (Option (List Char) × List Char) :=
  match (gap? cs).bind quotedTitle? with
  | some (title, rest) => some (some title, rest)
  | none => (literal? ")" (skipGap cs)).map fun rest => (none, rest)

/-- The target of a link and its title, up to the closing bracket. The target is empty when a
title is all that follows the opening bracket and a gap. -/
def linkTarget? (cs : List Char) : Option (List Char × Option (List Char) × List Char) :=
  let start := skipGap cs
  let inner := (literal? "<" start).getD start
  let isTarget := fun c => !isBlank c && c != ')' && c != '>'
  let after := inner.dropWhile isTarget
  match linkEnd? ((literal? ">" after).getD after) with
  | some (title, rest) => some (inner.takeWhile isTarget, title, rest)
  | none =>
    ((gap? cs).bind quotedTitle?).map fun part => ([], some part.1, part.2)

/-- A link or an image. -/
def link? (cs : List Char) : Option Found := do
  let (image, label, rest) ← linkLabel? cs
  let rest ← literal? "(" rest
  let (url, title, rest) ← linkTarget? rest
  some (link (String.ofList label) (String.ofList url) (title.map String.ofList) image, rest)

/-- A link by key; a blank key stands for the text itself. -/
def keyedLink? (cs : List Char) : Option Found := do
  let (image, label, rest) ← linkLabel? cs
  let rest ← literal? "[" (skipGap rest)
  let key := rest.takeWhile (· != ']')
  let rest ← literal? "]" (rest.dropWhile (· != ']'))
  let key := if allBlank key then label else key
  some (keyedLink (String.ofList label) (String.ofList key) image, rest)

/-- A bare address in angle brackets. -/
def autolink? (cs : List Char) : Option Found := do
  let start ← literal? "<" cs
  let rest ← oneOf? ["http:", "https:", "ftp:", "mailto:"] start
  let (path, rest) ← run? (fun c => c != '>' && !isBlank c) rest
  let rest ← literal? ">" rest
  let scheme := start.takeWhile (· != ':')
  some (autolink (String.ofList (scheme ++ ':' :: path)), rest)

/-- The text before the first maximal run of exactly `size` backquotes, and what follows that run.
The length of the text bounds the search. -/
def untilRun? (size : Nat) (cs : List Char) : Option (List Char × List Char) :=
  let before := cs.takeWhile (· != '\x60')
  let start := cs.dropWhile (· != '\x60')
  let count := (start.takeWhile (· == '\x60')).length
  let after := start.dropWhile (· == '\x60')
  if count = 0 then none
  else if count = size then some (before, after)
  else if after.length < cs.length then
    (untilRun? size after).map fun part =>
      (before ++ List.replicate count '\x60' ++ part.1, part.2)
  else none
termination_by cs.length

/-- Code between runs of backquotes of the same length. -/
def code? (cs : List Char) : Option Found := do
  let (opening, rest) ← run? (· == '\x60') cs
  let (content, rest) ← untilRun? opening.length rest
  some (code (String.ofList (trim content)), rest)

/-- A backslash and a character that it makes plain. -/
def escape? : List Char → Option Found
  | '\\' :: c :: rest => if escapableChars.contains c then some (escape c, rest) else none
  | _ => none

/-- Text between pairs of asterisks or of underscores. -/
def strong? (cs : List Char) : Option Found :=
  match cs with
  | '*' :: '*' :: rest =>
    (someUpTo? never (literal? "**") rest).map fun part => (strong (String.ofList part.1), part.2)
  | '_' :: '_' :: rest =>
    (someUpTo? never (literal? "__") rest).map fun part => (strong (String.ofList part.1), part.2)
  | _ => none

/-- The text up to a single asterisk, and what follows it. -/
def untilAsterisk? (cs : List Char) : Option (List Char × List Char) :=
  upTo? never (literal? "*") cs

/-- The text between single asterisks, which may start with a pair of asterisks. -/
def starred? : List Char → Option (List Char × List Char)
  | '*' :: '*' :: rest => (untilAsterisk? rest).map fun part => ('*' :: '*' :: part.1, part.2)
  | '*' :: _ => none
  | c :: rest => (untilAsterisk? rest).map fun part => (c :: part.1, part.2)
  | [] => none

/-- A word does not go on at the start of a text. -/
def wordEnds : List Char → Bool
  | c :: _ => !isWordChar c
  | [] => true

/-- The text up to an underscore that ends a word, and what follows it. Other underscores stand in
pairs; `first` tells that the text must not end yet. -/
def underscored? : Bool → List Char → Option (List Char × List Char)
  | _, [] => none
  | first, '_' :: rest =>
    if !first && wordEnds rest then some ([], rest)
    else
      match rest with
      | '_' :: more =>
        (underscored? false more).map fun part => ('_' :: '_' :: part.1, part.2)
      | _ => none
  | _, c :: rest => (underscored? false rest).map fun part => (c :: part.1, part.2)

/-- Text between single asterisks, or between underscores the second of which ends a word. -/
def emphasis? (cs : List Char) : Option Found :=
  match cs with
  | '*' :: rest => (starred? rest).map fun part => (emphasis (String.ofList part.1), part.2)
  | '_' :: rest =>
    (underscored? true rest).map fun part => (emphasis (String.ofList part.1), part.2)
  | _ => none

/-- What follows a comment. -/
def comment? (cs : List Char) : Option (List Char) := do
  let rest ← literal? "<!--" cs
  let (_, rest) ← upTo? never (literal? "-->") rest
  some rest

/-- What follows a tag: its name, perhaps attributes, and the closing bracket. -/
def tag? (cs : List Char) : Option (List Char) := do
  let rest ← literal? "<" cs
  match (literal? "/" rest).getD rest with
  | letter :: rest =>
    if letter.isAlpha then
      let rest := rest.dropWhile fun c => isWordChar c || c == '-'
      match rest with
      | c :: _ =>
        if isBlank c then literal? ">" (rest.dropWhile fun c => c != '<' && c != '>')
        else literal? ">" ((literal? "/" rest).getD rest)
      | [] => none
    else none
  | [] => none

/-- A comment or a tag, kept as it stands. -/
def html? (cs : List Char) : Option Found := do
  let rest ← comment? cs <|> tag? cs
  some (html (String.ofList (cs.take (cs.length - rest.length))), rest)

/-- What follows at least two spaces at the end of a line. -/
def brokenLine? : List Char → Option (List Char)
  | ' ' :: ' ' :: rest => literal? "\n" (rest.dropWhile (· == ' '))
  | _ => none

/-- A line that ends with at least two spaces is broken there. -/
def lineBreak? (cs : List Char) : Option Found :=
  (brokenLine? cs).map fun rest => (lineBreak, rest)

/-- Plain text goes on at the start of a text. -/
def textGoesOn : List Char → Bool
  | c :: rest => !specialChars.contains c && (brokenLine? (c :: rest)).isNone
  | [] => false

/-- The rest of a run of plain text, which stops after a line break. -/
def textTail : List Char → List Char × List Char
  | [] => ([], [])
  | c :: rest =>
    if textGoesOn (c :: rest) then
      if c = '\n' then ([c], rest)
      else
        let part := textTail rest
        (c :: part.1, part.2)
    else ([], c :: rest)

/-- A run of plain text. Its first character may be any. -/
def plain : List Char → Found
  | [] => (text "", [])
  | c :: rest =>
    if c = '\n' then (text "\n", rest)
    else
      let part := textTail rest
      (text (String.ofList (c :: part.1)), part.2)

/-- The rules that apply anywhere in a line, in the order in which they are tried. -/
def rules : List (List Char → Option Found) :=
  [displayMath?, inlineMath?, call?, definition?, link?, keyedLink?, autolink?, code?, escape?,
    strong?, emphasis?, html?, lineBreak?]

/-- The token at the start of a text, and what follows it. -/
def next (atLineStart : Bool) (cs : List Char) : Found :=
  match if atLineStart then choice? cs else none with
  | some found => found
  | none => (rules.findSome? fun rule => rule cs).getD (plain cs)

end LectureDeck.Inline
