import LectureDeck.Deck.Draft
import LectureDeck.Markup.Inline.Scan

/-!
# Running text

Running text is read token by token. Strong and emphasised text holds running text of its own,
which is laid out first as a flat sequence, so that reading is a fold.
-/

namespace LectureDeck

open LectureDeck.Text

/-- A step of running text: a token without text inside, or the edge of one that has. -/
inductive TextStep where
  | token (token : Inline)
  | opening (element : Element)
  | closing (element : Element)
deriving Repr

namespace TextStep

def ofText (content : String) : List TextStep :=
  (Inline.scan content).attach.flatMap fun ⟨part, member⟩ =>
    match part with
    | .strong inner =>
      have : inner.length < content.length :=
        Inline.length_lt_of_mem_scan member rfl
      .opening .strong :: ofText inner ++ [.closing .strong]
    | .emphasis inner =>
      have : inner.length < content.length :=
        Inline.length_lt_of_mem_scan member rfl
      .opening .emphasis :: ofText inner ++ [.closing .emphasis]
    | _ => [.token part]
termination_by content.length

def ofToken : Inline → List TextStep
  | .strong inner => .opening .strong :: ofText inner ++ [.closing .strong]
  | .emphasis inner => .opening .emphasis :: ofText inner ++ [.closing .emphasis]
  | other => [.token other]

end TextStep

/-- An address outside the site. -/
def isRemote (url : String) : Bool :=
  (cutAt? "://".toList url.toList).isSome || (after? "data:".toList url.toList).isSome ||
    (after? "//".toList url.toList).isSome

/-- A key that a link gives, or the text of the link when it gives none. -/
def linkKey (key : List Char) (content : String) : String :=
  if key.isEmpty then content else String.ofList key

namespace Draft

variable {W : Type}

/-- Pieces written to the script of the slide. -/
def writeAll (draft : Draft W) (pieces : List Piece) : Draft W := pieces.foldl write draft

/-- A link whose address gives a concept, a reference or another page. -/
def readLink (draft : Draft W) (content url : String) (title : Option String) : Draft W :=
  match url.toList with
  | '#' :: '#' :: tag => draft.write (.conceptLink (linkKey tag content) content)
  | '#' :: ':' :: key =>
    let id := Reference.idOf (linkKey key content)
    let link := Element.labelLink id
    (draft.writeAll
      ([.opening link, .text content] ++ (if content.isEmpty then [] else [.text " "]) ++
        [.label id, .closing link])).follow id
  | '#' :: key =>
    let id := Reference.idOf (linkKey key content)
    (draft.follow id).write (.goto id content)
  | _ => draft.write (.hyperlink url content title)

/-- An image, with its bytes if they are to become part of the page and can be found. -/
def readImage (setting : Setting) (draft : Draft W) (alternative path : String)
    (title : Option String) : Draft W :=
  if isRemote path then draft.write (.image path none alternative title)
  else
    let images := draft.slide.images
    let draft := draft.withSlide
      { draft.slide with images := if images.contains path then images else images ++ [path] }
    if setting.embedImages then
      match setting.images setting.file draft.slide.id path with
      | some bytes => draft.write (.image path (some bytes) alternative title)
      | none =>
        (warn setting draft (.imageNotFound path)).write (.image path none alternative title)
    else draft.write (.image path none alternative title)

/-- A link to a target that is given by key. Without one it is plain text. -/
def readKeyedLink (setting : Setting) (draft : Draft W) (content key : String) (image : Bool) :
    Draft W :=
  match setting.outline.linkTargets.lookup (Reference.key key) with
  | some target =>
    if image then readImage setting draft content target.url target.title
    else draft.readLink content target.url target.title
  | none =>
    draft.write (.text ((if image then "!" else "") ++ "[" ++ content ++ "][" ++ key ++ "]"))

def readCall (draft : Draft W) (plugin action argument : String) : Draft W :=
  (draft.withSlide { draft.slide with calls := draft.slide.calls ++ [plugin] }).write
    (.call plugin action argument)

variable [Weight W]

/-- A text that defines a reference. -/
def readDefinition (setting : Setting) (draft : Draft W) (content key : String) :
    Except (CompileError W) (Draft W) := do
  let declaration := Reference.Declaration.parse key content
  let (draft, defined) ← define setting draft declaration.id declaration.kind
    (Reference.key content)
  return draft.write (.anchor defined.id declaration.kind content defined.label)

/-- A token of running text. One that holds text of its own is laid out before. -/
def readToken (setting : Setting) (draft : Draft W) :
    Inline → Except (CompileError W) (Draft W)
  | .text content => .ok (draft.write (.text content))
  | .choice letter alternative => .ok (draft.write (.choiceMark letter alternative))
  | .displayMath content => .ok (draft.write (.spanMath content))
  | .inlineMath content => .ok (draft.write (.inlineMath content))
  | .call plugin action argument => .ok (draft.readCall plugin action argument)
  | .definition content key => readDefinition setting draft content key
  | .link content url title image =>
    .ok (if image then readImage setting draft content url title
      else draft.readLink content url title)
  | .keyedLink content key image => .ok (readKeyedLink setting draft content key image)
  | .autolink url => .ok (draft.write (.autolink url))
  | .code content => .ok (draft.write (.spanCode content))
  | .escape c => .ok (draft.write (.text (String.singleton c)))
  | .strong _ => .ok draft
  | .emphasis _ => .ok draft
  | .html content => .ok (draft.write (.spanHtml content))
  | .lineBreak => .ok (draft.write .lineBreak)

def readStep (setting : Setting) (draft : Draft W) : TextStep → Except (CompileError W) (Draft W)
  | .token token => readToken setting draft token
  | .opening element => .ok (draft.write (.opening element))
  | .closing element => .ok (draft.write (.closing element))

def readInside (setting : Setting) (element : Element) (steps : List TextStep) (draft : Draft W) :
    Except (CompileError W) (Draft W) := do
  let draft ← steps.foldlM (readStep setting) (draft.write (.opening element))
  return draft.write (.closing element)

end Draft

end LectureDeck
