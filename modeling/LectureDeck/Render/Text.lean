import LectureDeck.Render.Slide

/-!
# Rendering of running text

Running text is written token by token. The label of a reference that is defined already is written
where a link asks for it. Otherwise it stays pending, and the link is kept as one that leads
forward.
-/

namespace LectureDeck.Rendering

open LectureDeck.Text

variable {W : Type}

/-- The label of a reference, which may be defined only later. -/
def putLabel (context : RenderContext) (rendering : Rendering W) (id : String) : Rendering W :=
  match rendering.file.references.get? id with
  | some reference => rendering.put context (.text reference.label)
  | none => (rendering.await id).emit context (.pending id)

/-- A link whose address gives a concept, a reference or another page. -/
def renderLink (context : RenderContext) (rendering : Rendering W) (content url : String)
    (title : Option String) : Rendering W :=
  match url.toList with
  | '#' :: '#' :: tag => rendering.put context (.conceptLink (linkKey tag content) content)
  | '#' :: ':' :: key =>
    let id := Reference.idOf (linkKey key content)
    let link := Element.labelLink id
    let rendering := (rendering.put context (.opening link)).put context (.text content)
    let rendering := if content.isEmpty then rendering else rendering.put context (.text " ")
    (rendering.putLabel context id).put context (.closing link)
  | '#' :: key =>
    let id := Reference.idOf (linkKey key content)
    let rendering :=
      if rendering.file.references.contains id then rendering else rendering.await id
    rendering.put context (.goto id content)
  | _ => rendering.put context (.hyperlink url content title)

/-- An image, with its bytes if they are to become part of the page and can be found. -/
def renderImage (context : RenderContext) (rendering : Rendering W) (alternative path : String)
    (title : Option String) : Rendering W :=
  if isRemote path then rendering.put context (.image path none alternative title)
  else
    let images := rendering.slide.images
    let rendering := rendering.withSlide
      { rendering.slide with images := if images.contains path then images else images ++ [path] }
    if context.options.embedImages then
      match context.images context.file rendering.slide.id path with
      | some bytes => rendering.put context (.image path (some bytes) alternative title)
      | none =>
        (rendering.warn context (.imageNotFound path)).put context
          (.image path none alternative title)
    else rendering.put context (.image path none alternative title)

/-- A link to a target that is given by key. Without one it is plain text. -/
def renderKeyedLink (context : RenderContext) (rendering : Rendering W) (content key : String)
    (image : Bool) : Rendering W :=
  match context.outline.linkTargets.lookup (Reference.key key) with
  | some target =>
    if image then rendering.renderImage context content target.url target.title
    else rendering.renderLink context content target.url target.title
  | none =>
    rendering.put context
      (.text ((if image then "!" else "") ++ "[" ++ content ++ "][" ++ key ++ "]"))

def renderCall (context : RenderContext) (rendering : Rendering W)
    (plugin action argument : String) : Rendering W :=
  (rendering.withSlide { rendering.slide with calls := rendering.slide.calls ++ [plugin] }).put
    context (.call plugin action argument)

variable [Weight W]

/-- A text that defines a reference. -/
def renderDefinition (context : RenderContext) (rendering : Rendering W) (content key : String) :
    Except (CompileError W) (Rendering W) := do
  let declaration := Reference.Declaration.parse key content
  let (rendering, defined) ←
    define context rendering declaration.id declaration.kind (Reference.key content)
  return rendering.put context (.anchor defined.id declaration.kind content defined.label)

/-- A token of running text. One that holds text of its own is laid out before. -/
def renderToken (context : RenderContext) (rendering : Rendering W) :
    Inline → Except (CompileError W) (Rendering W)
  | .text content => .ok (rendering.put context (.text content))
  | .choice letter alternative => .ok (rendering.put context (.choiceMark letter alternative))
  | .displayMath content => .ok (rendering.put context (.spanMath content))
  | .inlineMath content => .ok (rendering.put context (.inlineMath content))
  | .call plugin action argument => .ok (rendering.renderCall context plugin action argument)
  | .definition content key => renderDefinition context rendering content key
  | .link content url title image =>
    .ok (if image then rendering.renderImage context content url title
      else rendering.renderLink context content url title)
  | .keyedLink content key image => .ok (rendering.renderKeyedLink context content key image)
  | .autolink url => .ok (rendering.put context (.autolink url))
  | .code content => .ok (rendering.put context (.spanCode content))
  | .escape c => .ok (rendering.put context (.text (String.singleton c)))
  | .strong _ => .ok rendering
  | .emphasis _ => .ok rendering
  | .html content => .ok (rendering.put context (.spanHtml content))
  | .lineBreak => .ok (rendering.put context .lineBreak)

def renderStep (context : RenderContext) (rendering : Rendering W) :
    TextStep → Except (CompileError W) (Rendering W)
  | .token token => renderToken context rendering token
  | .opening element => .ok (rendering.put context (.opening element))
  | .closing element => .ok (rendering.put context (.closing element))

/-- Running text in an element. -/
def renderInside (context : RenderContext) (element : Element) (steps : List TextStep)
    (rendering : Rendering W) : Except (CompileError W) (Rendering W) := do
  let rendering ← steps.foldlM (renderStep context) (rendering.put context (.opening element))
  return rendering.put context (.closing element)

end LectureDeck.Rendering
