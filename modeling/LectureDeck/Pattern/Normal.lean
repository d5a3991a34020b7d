import LectureDeck.Pattern.Ranges

/-!
# Normal forms of patterns

A pattern without what makes no difference: groups that are not captured, repetitions that repeat
nothing, and choices that a set or a shared beginning can stand for. Machines are made from normal
forms, so their size is a matter of these and not of the way a pattern is written.
-/

namespace LectureDeck

/-- A normal form. -/
inductive Normal where
  | empty
  | literal (text : List Char)
  /-- One character of a set that does not hold just one. -/
  | chars (ranges : Ranges)
  | assertion (condition : Assertion)
  /-- At least `least` repetitions, and at most `most` more, if that is bounded. -/
  | repeated (inner : Normal) (least : Nat) (most : Option Nat)
  | captured (inner : Normal)
  /-- Parts one after another, at least two, none of them empty or again a sequence. -/
  | append (parts : List Normal)
  /-- Alternatives, at least two. -/
  | either (branches : List Normal)
deriving Repr, Inhabited

namespace Normal

/-- One character of a set. -/
def ofRanges : Ranges → Normal
  | [(first, last)] =>
    if first = last then literal [Char.ofNat first] else chars [(first, last)]
  | ranges => chars ranges

mutual

/-- Whatever is described is the empty text. -/
def isNull : Normal → Bool
  | empty => true
  | literal _ => false
  | chars _ => false
  | assertion _ => true
  | repeated inner _ most => most.isSome && inner.isNull
  | captured inner => inner.isNull
  | append parts => allNull parts
  | either branches => allNull branches

/-- Each of some forms describes the empty text only. -/
def allNull : List Normal → Bool
  | [] => true
  | form :: rest => form.isNull && allNull rest

end

mutual

/-- The least number of characters that are described, if each alternative describes some text. -/
def shortest? : Normal → Option Nat
  | empty => some 0
  | literal text => some text.length
  | chars ranges => if ranges.isEmpty then none else some 1
  | assertion _ => some 0
  | repeated inner least _ => inner.shortest?.map (· * least)
  | captured inner => inner.shortest?
  | append parts => shortestSum? parts
  | either branches => shortestOf? branches

/-- The least number of characters of forms one after another. -/
def shortestSum? : List Normal → Option Nat
  | [] => some 0
  | form :: rest => do some ((← form.shortest?) + (← shortestSum? rest))

/-- The least number of characters of one of some forms. -/
def shortestOf? : List Normal → Option Nat
  | [] => none
  | [form] => form.shortest?
  | form :: rest => do some (min (← form.shortest?) (← shortestOf? rest))

end

mutual

/-- A position of one kind has to be at the beginning, or at the end. -/
def hasAtEdge (atEnd : Bool) (condition : Assertion) : Normal → Bool
  | assertion other => other == condition
  | repeated inner least _ => least != 0 && inner.hasAtEdge atEnd condition
  | captured inner => inner.hasAtEdge atEnd condition
  | append parts => sequenceHasAtEdge atEnd condition parts
  | either branches => allHaveAtEdge atEnd condition branches
  | _ => false

/-- A position of one kind has to be at an edge of parts one after another: it stands at that edge
of one of them, and those beyond it describe the empty text only. -/
def sequenceHasAtEdge (atEnd : Bool) (condition : Assertion) : List Normal → Bool
  | [] => false
  | form :: rest =>
    if atEnd then
      sequenceHasAtEdge atEnd condition rest || (allNull rest && form.hasAtEdge atEnd condition)
    else
      form.hasAtEdge atEnd condition || (form.isNull && sequenceHasAtEdge atEnd condition rest)

/-- A position of one kind has to be at an edge of each of some forms. -/
def allHaveAtEdge (atEnd : Bool) (condition : Assertion) : List Normal → Bool
  | [] => true
  | form :: rest => form.hasAtEdge atEnd condition && allHaveAtEdge atEnd condition rest

end

mutual

/-- Two forms are written alike. A captured group is like none other. -/
def alike : Normal → Normal → Bool
  | empty, empty => true
  | literal left, literal right => left == right
  | chars left, chars right => left == right
  | assertion left, assertion right => left == right
  | repeated left least most, repeated right otherLeast otherMost =>
    least == otherLeast && most == otherMost && left.alike right
  | append left, append right => allAlike left right
  | either left, either right => allAlike left right
  | _, _ => false

/-- Forms are written alike one by one. -/
def allAlike : List Normal → List Normal → Bool
  | [], [] => true
  | left :: lefts, right :: rights => left.alike right && allAlike lefts rights
  | _, _ => false

end

/-- The parts of a form. -/
def parts : Normal → List Normal
  | empty => []
  | append parts => parts
  | form => [form]

/-- The form of parts. -/
def ofParts : List Normal → Normal
  | [] => empty
  | [form] => form
  | forms => append forms

/-- Parts one after another, where literals that meet become one. -/
def joinParts : List Normal → List Normal → List Normal
  | [], later => later
  | [literal text], literal more :: later => literal (text ++ more) :: later
  | form :: rest, later => form :: joinParts rest later

/-- Two forms one after the other. -/
def follow (first second : Normal) : Normal := ofParts (joinParts first.parts second.parts)

/-- A form repeated. What describes the empty text only is not repeated more than once. -/
def repeatForm (inner : Normal) (least : Nat) (most : Option Nat) : Normal :=
  let bound := if inner.isNull then 1 else least
  let fewest := min least bound
  let further := if inner.isNull then some (min (most.elim 1 (least + ·)) 1 - fewest) else most
  match fewest, further with
  | 0, some 0 => empty
  | 1, some 0 => inner
  | _, _ => repeated inner fewest further

/-- The branches of a form. -/
def branches : Normal → List Normal
  | either branches => branches
  | form => [form]

/-- The ranges of one character, if the form is one. -/
def single? : Normal → Option Ranges
  | literal [c] => some [(c.toNat, c.toNat)]
  | _ => none

/-- The ranges of a set, if the form is one. -/
def set? : Normal → Option Ranges
  | chars ranges => some ranges
  | _ => none

/-- Alternatives, where characters or sets become one set. -/
def ofBranches : List Normal → Normal
  | [form] => form
  | forms =>
    match (forms.mapM single?).orElse fun _ => forms.mapM set? with
    | some sets => ofRanges (Ranges.ofList sets.flatten)
    | none => either forms

/-- The beginning that two sequences of parts share. -/
def sharedParts : List Normal → List Normal → List Normal
  | left :: lefts, right :: rights =>
    if left.alike right then left :: sharedParts lefts rights else []
  | _, _ => []

/-- The parts of a sequence. -/
def sequence? : Normal → Option (List Normal)
  | append parts => some parts
  | _ => none

/-- Alternatives, where a beginning that all of them share is taken out. -/
def choose (alternatives : List Normal) : Normal :=
  let forms := alternatives.flatMap branches
  match forms.mapM sequence? with
  | some (first :: others) =>
    let beginning := others.foldl sharedParts first
    if beginning.isEmpty || others.isEmpty then ofBranches forms
    else
      let rests := (first :: others).map fun parts => ofParts (parts.drop beginning.length)
      follow (ofParts beginning) (ofBranches (rests.flatMap branches))
  | _ => ofBranches forms

end Normal

namespace Pattern

/-- The normal forms of the alternatives of a pattern. -/
def branches : Pattern → List Normal
  | empty => [.empty]
  | char set => [.ofRanges set.ranges]
  | assertion condition => [.assertion condition]
  | append first second => [.follow (.choose first.branches) (.choose second.branches)]
  | either left right => left.branches ++ right.branches
  | repeated inner least most => [.repeatForm (.choose inner.branches) least most]
  | group captured inner =>
    let form := Normal.choose inner.branches
    [if captured then .captured form else form]

def normal (pattern : Pattern) : Normal := .choose pattern.branches

end Pattern

end LectureDeck
