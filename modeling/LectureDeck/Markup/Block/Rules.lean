import LectureDeck.Decimal.Reader
import LectureDeck.Markup.Block
import LectureDeck.Markup.Block.Line
import LectureDeck.Reference.Name

/-!
# Rules for blocks

Each rule takes one block from the start of a text, which is the start of a line, and returns what
follows it. The rules are tried in order, and the first that takes something decides. The last is
the rule for paragraphs, which takes something from every text that is not empty.
-/

namespace LectureDeck.Block

open LectureDeck.Text

/-- A block and what follows it. -/
abbrev Found := Block × List Char

/-- What a rule may take from a text. -/
inductive Item where
  | blank
  | block (token : Block)
  /-- Quoted lines, without their marks. -/
  | quote (content : List Char)
  | linkTarget (key : String) (target : LinkTarget)
deriving Repr

/-- Code between fences of backquotes or tildes. Without a closing fence, all lines belong to the
code. -/
def fencedCode? (cs : List Char) : Option Found :=
  match indent? cs with
  | some (mark :: start) =>
    if mark == '\x60' || mark == '~' then
      let size := ((mark :: start).takeWhile (· == mark)).length
      let rest := (mark :: start).dropWhile (· == mark)
      let info := rest.takeWhile (· != '\n')
      if 3 ≤ size && !info.contains '\x60' then
        let language := trim info
        let part := spanLines (fun line => !closesFence mark size line) (afterLine rest)
        some (code (if language.isEmpty then none else some (String.ofList language))
          (String.ofList (lineBody part.1.flatten)), afterLine part.2)
      else none
    else none
  | _ => none

/-- A line of indented code without its indentation and its line break. -/
def indentedLine? : List Char → Option (List Char)
  | ' ' :: ' ' :: ' ' :: ' ' :: rest => some rest
  | '\t' :: rest => some rest
  | _ => none

/-- A line without its line break, which may be preceded by a carriage return. -/
def withoutBreak (line : List Char) : List Char :=
  if line.getLast? == some '\n' then
    let body := line.dropLast
    if body.getLast? == some '\r' then body.dropLast else body
  else line

/-- Lines indented by four spaces or a tab. -/
def indentedCode? (cs : List Char) : Option Found :=
  let part := spanLines (fun line => (indentedLine? line).isSome) cs
  if part.1.isEmpty then none
  else
    let bodies := part.1.filterMap fun line => indentedLine? (withoutBreak line)
    some (code none (String.ofList (lineBody (joinWith ['\n'] bodies))), part.2)

/-- Mathematics between pairs of dollars. -/
def displayMath? (cs : List Char) : Option Found := do
  let rest ← literal? "$$" (← indent? cs)
  let close := fun cs => (literal? "$$" cs).bind gapLineEnd?
  let (content, rest) ← upTo? never close rest
  some (displayMath (String.ofList content), rest)

/-- The name of an environment: letters, and perhaps an asterisk. -/
def environmentName? (cs : List Char) : Option (List Char × List Char) := do
  let (letters, rest) ← run? Char.isAlpha cs
  match rest with
  | '*' :: rest => some (letters ++ ['*'], rest)
  | _ => some (letters, rest)

/-- An environment, from its beginning to its end. -/
def environment? (cs : List Char) : Option Found := do
  let start ← indent? cs
  let rest ← literal? "\\begin\x7b" start
  let (name, rest) ← environmentName? rest
  let body ← literal? "\x7d" rest
  let (_, tail) ← cutAt? ("\\end\x7b".toList ++ name ++ ['}']) body
  let content := start.take (start.length - tail.length)
  let rest := skipGap tail
  some (environment (String.ofList name) (String.ofList content), (emptyLines? rest).getD rest)

/-- The end of a plugin's definition. -/
def definitionEnd? (cs : List Char) : Option (List Char) := do
  let rest ← literal? "\n" cs
  let rest ← literal? "\x7d" (skipGap rest)
  let rest ← literal? "</script>" (skipGap rest)
  gapLineEnd? rest

def pluginDefinition? (cs : List Char) : Option Found := do
  let rest ← literal? "<script " (← indent? cs)
  let rest ← literal? "type=\"x-slidoc-plugin\"" (rest.dropWhile (· == ' '))
  let rest ← literal? ">" (skipGap rest)
  let rest := skipGap rest
  let (name, rest) ← run? isWordChar (skipGap ((literal? "\n" rest).getD rest))
  let rest ← literal? "=" (skipGap rest)
  let rest ← literal? "\x7b" (skipGap rest)
  let (content, rest) ← upTo? never definitionEnd? rest
  some (pluginDefinition (String.ofList name) (String.ofList content), rest)

/-- A comment that tells something of the file. -/
def metadata? (cs : List Char) : Option Found := do
  let rest ← literal? "<!--slidoc-" (← indent? cs)
  let (name, rest) ← run? isWordChar rest
  let close := fun cs => (literal? "-->" (skipGap cs)).bind gapLineEnd?
  let (content, rest) ← upTo? isLineBreak close (skipGap rest)
  some (metadata (String.ofList name) (String.ofList content), rest)

/-- The rest of a line after one of the given words, trimmed, and what follows the line. -/
def directive? (words : List String) (cs : List Char) : Option (String × List Char) := do
  let rest ← oneOf? words (← indent? cs)
  let after ← lineEnd? (rest.dropWhile (· != '\n'))
  some (String.ofList (trim (rest.takeWhile (· != '\n'))), after)

/-- The answer of a question. -/
def answer? (cs : List Char) : Option Found :=
  (directive? ["Answer:", "Ans:"] cs).map fun part => (answer part.1, part.2)

/-- A line to discuss. -/
def discuss? (cs : List Char) : Option Found :=
  (directive? ["Discuss:"] cs).map fun part => (discuss part.1, part.2)

/-- The concepts of a slide. -/
def tags? (cs : List Char) : Option Found :=
  (directive? ["Tags:", "Concepts:"] cs).map fun part => (tags part.1, part.2)

/-- What follows a word, a gap and line breaks. -/
def openingWord? (word : String) (cs : List Char) : Option (List Char) := do
  let rest ← literal? word (← indent? cs)
  some ((skipGap rest).dropWhile (· == '\n'))

/-- Digits, perhaps with a point, before a percent sign. -/
def percentage? (cs : List Char) : Option (List Char × List Char) := do
  let (whole, rest) ← run? isDecimalDigit cs
  let (fraction, rest) := match rest with
    | '.' :: after => ('.' :: after.takeWhile isDecimalDigit, after.dropWhile isDecimalDigit)
    | _ => ([], rest)
  let rest ← literal? "%" (skipGap rest)
  some (whole ++ fraction, skipGap rest)

/-- The start of a hint, with its penalty. What follows on the line belongs to the hint. -/
def hint? (cs : List Char) : Option Found := do
  let rest ← literal? "Hint:" (← indent? cs)
  let rest := skipGap rest
  match percentage? rest with
  | some (digits, rest) => some (hint (Decimal.readFloat? digits), rest.dropWhile (· == '\n'))
  | none => some (hint none, rest.dropWhile (· == '\n'))

/-- The start of notes. -/
def notes? (cs : List Char) : Option Found :=
  (openingWord? "Notes:" cs).map fun rest => (notes, rest)

/-- The start of extra material. -/
def extra? (cs : List Char) : Option Found :=
  (openingWord? "Extra:" cs).map fun rest => (extra, rest)

/-- The call of a plugin, alone on a line. -/
def pluginEmbed? (cs : List Char) : Option Found := do
  let rest ← literal? "=" (← indent? cs)
  let (name, rest) ← run? isWordChar rest
  let rest ← literal? "(" rest
  let line := dropEndWhile isGap (rest.takeWhile (· != '\n'))
  if line.getLast? == some ')' then
    let after ← lineEnd? (rest.dropWhile (· != '\n'))
    some (pluginEmbed (String.ofList name) (String.ofList (trim line.dropLast)), after)
  else none

/-- The end of a heading: perhaps a gap and number signs, and the end of the line. -/
def headingEnd? (cs : List Char) : Option (List Char) :=
  let closing := do
    let (_, rest) ← run? (· == '#') (← gap? cs)
    gapLineEnd? rest
  closing <|> gapLineEnd? cs

/-- A heading of one to six levels. -/
def heading? (cs : List Char) : Option Found := do
  let (marks, rest) ← run? (· == '#') (← indent? cs)
  if marks.length ≤ 6 then
    match gap? rest with
    | some start =>
      let (content, rest) ← upTo? isLineBreak headingEnd? start
      some (heading marks.length (String.ofList (trim content)), rest)
    | none =>
      let rest ← lineEnd? rest
      some (heading marks.length "", rest)
  else none

/-- A rule, which ends a slide. -/
def rule? (cs : List Char) : Option Found := do
  let rest ← anyRuleMarks? (← indent? cs)
  let rest ← lineEnd? rest
  some (rule, rest)

/-- A short rule, which does not end a slide. -/
def minirule? (cs : List Char) : Option Found := do
  let rest ← literal? "--" (← indent? cs)
  let rest ← gapLineEnd? rest
  some (minirule, rest)

/-- A point at which a presentation waits. -/
def pause? (cs : List Char) : Option Found := do
  let rest ← oneOf? ["...", "Pause:"] (← indent? cs)
  let rest ← gapLineEnd? rest
  some (pause, rest)

/-- The characters of an address, after an angle bracket or not. A bracket without an address after
it is one. -/
def urlPart (cs : List Char) : List Char × List Char :=
  let isUrl := fun c => !isBlank c && c != '>'
  match cs with
  | '<' :: inner =>
    if (inner.takeWhile isUrl).isEmpty then (['<'], inner)
    else (inner.takeWhile isUrl, inner.dropWhile isUrl)
  | _ => (cs.takeWhile isUrl, cs.dropWhile isUrl)

/-- The address of a link's target, perhaps in angle brackets. -/
def targetUrl? (cs : List Char) : Option (List Char × List Char) :=
  let (url, rest) := urlPart cs
  if url.isEmpty then none else some (url, (literal? ">" rest).getD rest)

/-- The end of a target's title, and the end of the line. -/
def targetTitleEnd? : List Char → Option (List Char)
  | c :: rest => if c == '"' || c == '\x27' || c == ')' then gapLineEnd? rest else none
  | [] => none

/-- The title of a link's target, and the end of the line. -/
def targetTitle? (cs : List Char) : Option (List Char × List Char) := do
  match ← gap? cs with
  | c :: rest =>
    if c == '"' || c == '\x27' || c == '(' then someUpTo? isLineBreak targetTitleEnd? rest
    else none
  | [] => none

/-- The key and the target of links by key. -/
def linkTarget? (cs : List Char) : Option ((String × LinkTarget) × List Char) := do
  let rest ← literal? "[" (← indent? cs)
  let (key, rest) ← run? (fun c => c != '^' && c != ']') rest
  let rest ← literal? "]:" rest
  let (url, rest) ← targetUrl? (skipGap rest)
  let target := fun title =>
    (Reference.key (String.ofList key), (⟨String.ofList url, title⟩ : LinkTarget))
  match targetTitle? rest with
  | some (title, rest) => some (target (some (String.ofList title)), rest)
  | none => (gapLineEnd? rest).map fun rest => (target none, rest)

/-- The content of quoted lines, and the lines that follow them. A line without a mark goes on the
paragraph that is quoted before it; `afterBlank` tells that there is none. -/
def quotedLines (afterBlank : Bool) : List (List Char) → List Char × List (List Char)
  | [] => ([], [])
  | line :: rest =>
    let body := lineBody line
    match quoteMark? body with
    | some content =>
      let part := quotedLines (allBlank content) rest
      (content ++ '\n' :: part.1, part.2)
    | none =>
      if !afterBlank && !allBlank body && !interrupts body then
        let part := quotedLines false rest
        (body ++ '\n' :: part.1, part.2)
      else ([], line :: rest)

/-- Quoted lines, the first of which has a mark. -/
def quote? (cs : List Char) : Option (Item × List Char) :=
  (quoteMark? (firstLine cs)).map fun content =>
    let part := quotedLines (allBlank content) (lines (afterLine cs))
    (.quote (content ++ '\n' :: part.1), part.2.flatten)

/-- A line goes on the paragraph before it. -/
def goesOn (line : List Char) : Bool :=
  !allBlank (lineBody line) && !interrupts (lineBody line)

/-- An item of a list, with the lines that go on its text. -/
def listItem? (cs : List Char) : Option Found := do
  let (ordered, rest) ← listStart? cs
  let others := spanLines goesOn (afterLine rest)
  let content := trimEnd (firstLine rest) ++
    others.1.flatMap fun line => '\n' :: trim (lineBody line)
  some (listItem ordered (String.ofList content), others.2)

/-- A comment or a block element, up to the next blank line. -/
def html? (cs : List Char) : Option Found :=
  if startsHtml cs then
    let part := spanLines (fun line => !allBlank line) cs
    some (html (String.ofList (trimEnd part.1.flatten)), part.2)
  else none

/-- A paragraph: a line and the lines that go on it. -/
def paragraph? (cs : List Char) : Option Found :=
  if cs.isEmpty then none
  else
    let others := spanLines goesOn (afterLine cs)
    some (text (String.ofList (trim (firstLine cs ++ '\n' :: others.1.flatten))), others.2)

/-- What a rule for blocks takes, as an item. -/
def asItem (rule : List Char → Option Found) (cs : List Char) : Option (Item × List Char) :=
  (rule cs).map fun found => (.block found.1, found.2)

/-- The empty lines between blocks. -/
def blank? (cs : List Char) : Option (Item × List Char) :=
  (emptyLines? cs).map fun rest => (.blank, rest)

/-- The target of links by key, as an item. -/
def target? (cs : List Char) : Option (Item × List Char) :=
  (linkTarget? cs).map fun found => (.linkTarget found.1.1 found.1.2, found.2)

/-- The rules that are tried before those for link targets and quotes. -/
def firstRules : List (List Char → Option Found) :=
  [fencedCode?, indentedCode?, displayMath?, environment?, pluginDefinition?, metadata?, answer?,
    discuss?, tags?, hint?, notes?, extra?, pluginEmbed?, heading?, rule?, minirule?, pause?]

/-- The rules that are tried after those for link targets and quotes. -/
def lastRules : List (List Char → Option Found) := [listItem?, html?, paragraph?]

/-- The rules, in the order in which they are tried. -/
def rules : List (List Char → Option (Item × List Char)) :=
  [blank?] ++ firstRules.map asItem ++ [target?, quote?] ++ lastRules.map asItem

/-- The item that the first rule that takes something from the start of a text takes, and what
follows it. -/
def next? (cs : List Char) : Option (Item × List Char) :=
  rules.findSome? fun rule => (rule cs).filter fun found => found.2.length < cs.length

end LectureDeck.Block
