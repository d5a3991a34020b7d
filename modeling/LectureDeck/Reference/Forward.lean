import LectureDeck.Question.Weight

/-!
# Forward links

A link may be made before its target is defined. Once the slide of the link is closed and the
target is defined, the link tells what a reader who follows it skips: it may skip questions that
count for the score, but none that count for the grade.
-/

namespace LectureDeck

/-- A link made before its target was defined. -/
structure ForwardLink where
  target : String
  originSlide : Nat
  /-- The question on the slide of the link, once that slide is closed. -/
  originQuestion : Option Nat := none
  originClosed : Bool := false
  /-- The slide on which the target was first defined. -/
  definedAt : Option Nat := none
deriving DecidableEq, Repr

/-- What a reader skips who follows a link. -/
structure Skip (W : Type) where
  targetSlide : Nat
  slidesSkipped : Nat
  /-- The score weight of the questions between. -/
  scoreWeight : W
deriving Repr

/-- A forward link that skips questions with grades. -/
structure SkipViolation (W : Type) where
  target : String
  originSlide : Nat
  /-- The grade weight of the questions between. -/
  weight : W
deriving Repr

namespace ForwardLink

/-- The link, given that its target is now defined on a slide. -/
def define (target : String) (slide : Nat) (link : ForwardLink) : ForwardLink :=
  if link.target == target then { link with definedAt := link.definedAt.or (some slide) } else link

/-- The link, given that a slide with a question or without is now closed. -/
def close (slide : Nat) (question : Option Nat) (link : ForwardLink) : ForwardLink :=
  if link.originSlide = slide then { link with originClosed := true, originQuestion := question }
  else link

/-- What the link skips can be told. -/
def isReady (link : ForwardLink) : Bool := link.originClosed && link.definedAt.isSome

variable {W : Type} [Weight W]

/-- The question of a link and what a reader skips there, unless the link is not on a question or
does not lead to a later slide. -/
def skip? (ledger : Ledger W) (link : ForwardLink) :
    Except (SkipViolation W) (Option (Nat × Skip W)) :=
  match link.originQuestion, link.definedAt with
  | some question, some target =>
    if target ≤ link.originSlide then .ok none
    else
      let last := ledger.questionsBefore target
      let grade := Ledger.between ledger.grades question last
      if Weight.isZero grade then
        .ok (some (question,
          ⟨target, target - link.originSlide, Ledger.between ledger.scores question last⟩))
      else .error ⟨link.target, link.originSlide, grade⟩
  | _, _ => .ok none

end ForwardLink

/-- The forward links of a file that are not settled yet. -/
structure ForwardLinks where
  links : List ForwardLink := []
deriving DecidableEq, Repr

namespace ForwardLinks

def add (forward : ForwardLinks) (target : String) (originSlide : Nat) : ForwardLinks :=
  { forward with links := forward.links ++ [⟨target, originSlide, none, false, none⟩] }

/-- The links, given that a target is now defined on a slide. -/
def define (forward : ForwardLinks) (target : String) (slide : Nat) : ForwardLinks :=
  { forward with links := forward.links.map (ForwardLink.define target slide) }

/-- The links, given that a slide is now closed. -/
def closeSlide (forward : ForwardLinks) (slide : Nat) (question : Option Nat) : ForwardLinks :=
  { forward with links := forward.links.map (ForwardLink.close slide question) }

/-- The links that cannot be settled yet, and what the others skip, by question. -/
def settle {W : Type} [Weight W] (forward : ForwardLinks) (ledger : Ledger W) :
    Except (SkipViolation W) (ForwardLinks × List (Nat × Skip W)) := do
  let skips ← (forward.links.filter ForwardLink.isReady).mapM (ForwardLink.skip? ledger)
  return (⟨forward.links.filter fun link => !link.isReady⟩, skips.filterMap fun skip => skip)

/-- The targets that were never defined, each with the slide of the first link to it. -/
def unresolved (forward : ForwardLinks) : List (String × Nat) :=
  (forward.links.filter fun link => link.definedAt.isNone).foldl (fun targets link =>
    if targets.any fun other => other.1 == link.target then targets
    else targets ++ [(link.target, link.originSlide)]) []

end ForwardLinks

end LectureDeck
