import LectureDeck.Deck.Reading
import LectureDeck.Proofs.Outline.Walk
import LectureDeck.Proofs.Reference.Mentions
import Mathlib.Data.List.Basic

/-!
# Mentions in a file

What the blocks of a file say of references, in order and each with its slide
(`LectureDeck.Outline.mentions`). It is told by the blocks alone, whatever becomes of them.
-/

namespace LectureDeck

open LectureDeck.Text

/-- What a link says of references, by its address. Without a key it means its own text. -/
def Reference.Mention.ofLink? (content url : String) : Option Reference.Mention :=
  match url.toList with
  | '#' :: '#' :: _ => none
  | '#' :: ':' :: key => some (.link (Reference.idOf (linkKey key content)))
  | '#' :: key => some (.link (Reference.idOf (linkKey key content)))
  | _ => none

/-- What the definition of a text under a key says of references. -/
def Reference.Mention.ofDefinition (content key : String) : Reference.Mention :=
  let declaration := Reference.Declaration.parse key content
  .definition declaration.id declaration.kind (Reference.key content)

/-- What a heading says of references by itself. -/
def Reference.Mention.ofHeading? (content : String) : Option String → Option Reference.Mention
  | some key => some (.ofDefinition content key)
  | none =>
    if content.isEmpty then none
    else some (.heading (Reference.idOf content) (Reference.key content))

/-- What a token of running text says of references, given the targets of links by key. -/
def Inline.mention? (targets : List (String × LinkTarget)) : Inline → Option Reference.Mention
  | .definition content key => some (.ofDefinition content key)
  | .link content url _ false => Reference.Mention.ofLink? content url
  | .keyedLink content key false =>
    (targets.lookup (Reference.key key)).bind fun target =>
      Reference.Mention.ofLink? content target.url
  | _ => none

/-- What a step of running text says of references. -/
def TextStep.mention? (targets : List (String × LinkTarget)) : TextStep → Option Reference.Mention
  | .token part => part.mention? targets
  | _ => none

/-- What running text says of references. -/
def textMentions (targets : List (String × LinkTarget)) (content : String) :
    List Reference.Mention :=
  (TextStep.ofText content).filterMap (TextStep.mention? targets)

/-- What tokens of running text say of references. -/
def tokenMentions (targets : List (String × LinkTarget)) (tokens : List Inline) :
    List Reference.Mention :=
  (tokens.flatMap TextStep.ofToken).filterMap (TextStep.mention? targets)

/-- The steps of a text are those of its tokens. -/
theorem TextStep.ofText_eq (content : String) :
    ofText content = (Inline.scan content).flatMap ofToken := by
  rw [ofText]
  conv_rhs => rw [← List.attach_map_subtype_val (Inline.scan content), List.flatMap_map]
  refine List.flatMap_congr fun part _ => ?_
  obtain ⟨part, member⟩ := part
  cases part <;> rfl

theorem textMentions_eq (targets : List (String × LinkTarget)) (content : String) :
    textMentions targets content = tokenMentions targets (Inline.scan content) := by
  rw [textMentions, TextStep.ofText_eq, tokenMentions]

/-- Cutting running text at its choices leaves what its steps tell, if markers of choices tell
nothing. -/
theorem TextStep.filterMap_cutChoices {α : Type} (tells : TextStep → Option α)
    (silent : ∀ letter alternative, tells (.token (.choice letter alternative)) = none)
    (tokens : List Inline) :
    ((cutChoices tokens).1.flatMap ofToken).filterMap tells ++
        (cutChoices tokens).2.flatMap (fun item => (item.2.flatMap ofToken).filterMap tells) =
      (tokens.flatMap ofToken).filterMap tells := by
  fun_induction cutChoices tokens with
  | case1 => rfl
  | case2 letter alternative rest content items cut earlier =>
    rw [cut] at earlier
    have marker : (ofToken (.choice letter alternative)).filterMap tells = [] := by
      simp [ofToken, silent]
    rw [List.flatMap_cons, List.flatMap_cons, List.filterMap_append, marker, ← earlier]
    rfl
  | case3 token rest marker content items cut earlier =>
    rw [cut] at earlier
    rw [List.flatMap_cons, List.flatMap_cons, List.filterMap_append, List.filterMap_append,
      ← earlier, List.append_assoc]

/-- Cutting running text at its choices leaves what it says of references. -/
theorem tokenMentions_cutChoices (targets : List (String × LinkTarget)) (tokens : List Inline) :
    tokenMentions targets (cutChoices tokens).1 ++
      (cutChoices tokens).2.flatMap (fun item => tokenMentions targets item.2) =
        tokenMentions targets tokens :=
  TextStep.filterMap_cutChoices _ (fun _ _ => rfl) tokens

/-- What a block says of references. -/
def Block.mentions (targets : List (String × LinkTarget)) : Block → List Reference.Mention
  | .text content => textMentions targets content
  | .heading _ content =>
    let (content, key) := cutHeading content.toList
    let content := String.ofList (trim content)
    (Reference.Mention.ofHeading? content key).toList ++ textMentions targets content
  | .discuss content => textMentions targets content
  | .listItem _ content => textMentions targets content
  | _ => []

theorem Block.mentions_of_endsSlide {targets : List (String × LinkTarget)} {block : Block}
    (ends : block.endsSlide = true) : block.mentions targets = [] := by
  cases block <;> first | rfl | contradiction

/-- The number of the slide on which a block stands, by its place among the blocks. A rule counts to
the slide after it. -/
def slideOf (blocks : List Block) (index : Nat) : Nat :=
  (SlideWalk.ofBlocks (blocks.take (index + 1))).ends.length + 1

/-- What blocks say of references, each with its slide. -/
def mentionsOf (targets : List (String × LinkTarget)) (blocks : List Block) :
    List (Nat × Reference.Mention) :=
  blocks.zipIdx.flatMap fun (block, index) =>
    (block.mentions targets).map (Prod.mk (slideOf blocks index))

/-- What the blocks of a source say of references. -/
def Outline.mentions (outline : Outline) : List (Nat × Reference.Mention) :=
  mentionsOf outline.linkTargets outline.blocks

theorem slideOf_append {blocks : List Block} {index : Nat} (inside : index < blocks.length)
    (later : List Block) : slideOf (blocks ++ later) index = slideOf blocks index := by
  rw [slideOf, slideOf, List.take_append_of_le_length inside]

theorem mentionsOf_concat (targets : List (String × LinkTarget)) (blocks : List Block)
    (block : Block) : mentionsOf targets (blocks ++ [block]) = mentionsOf targets blocks ++
      (block.mentions targets).map
        (Prod.mk ((SlideWalk.ofBlocks (blocks ++ [block])).ends.length + 1)) := by
  rw [mentionsOf, List.zipIdx_append, List.flatMap_append, mentionsOf]
  congr 1
  · refine List.flatMap_congr fun place member => ?_
    obtain ⟨-, inside, -⟩ := List.mem_zipIdx member
    dsimp only
    rw [slideOf_append (by omega)]
  · simp [slideOf, List.take_of_length_le]

end LectureDeck
