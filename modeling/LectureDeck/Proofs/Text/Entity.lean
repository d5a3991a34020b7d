import LectureDeck.Proofs.Text.Fields
import LectureDeck.Text.Entity
import Mathlib.Data.List.Infix
import Mathlib.Data.List.TakeWhile

/-!
# Entities read back

What is written of a text in an element or in an attribute has none of the characters that end it
there, and each ampersand in it begins an entity. The text is read back, so that it is told from all
others (`LectureDeck.Text.isEscaping_escape_escapeAttribute`). A text without entities of its own is
read as it is (`LectureDeck.Text.unescape_eq_self_iff`).
-/

namespace LectureDeck.Text

/-- A text with its entities read as the characters that they stand for. -/
def unescape : List Char → List Char
  | '&' :: 'a' :: 'm' :: 'p' :: ';' :: rest => '&' :: unescape rest
  | '&' :: 'l' :: 't' :: ';' :: rest => '<' :: unescape rest
  | '&' :: 'g' :: 't' :: ';' :: rest => '>' :: unescape rest
  | '&' :: 'q' :: 'u' :: 'o' :: 't' :: ';' :: rest => '"' :: unescape rest
  | '&' :: '#' :: '3' :: '9' :: ';' :: rest => '\x27' :: unescape rest
  | c :: rest => c :: unescape rest
  | [] => []

/-- The entities that are read. -/
def entities : List (List Char) :=
  ["&amp;".toList, "&lt;".toList, "&gt;".toList, "&quot;".toList, "&#39;".toList]

/-- The entities that a text in an element is written with. -/
def contentEntities : List (List Char) := ["&amp;".toList, "&lt;".toList, "&gt;".toList]

/-- A text as it stands inside an element: it has no bracket of a tag, and it is the text when its
entities are read. -/
structure IsEscapeOf (shown text : String) : Prop where
  noOpening : '<' ∉ shown.toList
  noClosing : '>' ∉ shown.toList
  reads : unescape shown.toList = text.toList

/-- A text that is written up to a character, with its entities read, and what follows. -/
def readUpTo (stop : Char) (cs : List Char) : List Char × List Char :=
  (unescape (cs.takeWhile (· != stop)), cs.dropWhile (· != stop))

/-- A way to write texts with some entities and without some characters. -/
structure IsEscaping (known : List (List Char)) (barred : List Char) (write : String → String) :
    Prop where
  absent : ∀ text, ∀ c ∈ barred, c ∉ (write text).toList
  begins : ∀ text before after, (write text).toList = before ++ '&' :: after →
    ∃ entity ∈ known, entity <+: '&' :: after
  reads : ∀ text, unescape (write text).toList = text.toList
  injective : Function.Injective write
  /-- A text stays before what ends it, and goes on up to there. -/
  ends : ∀ text, ∀ stop ∈ barred, ∀ rest,
    readUpTo stop ((write text).toList ++ stop :: rest) = (text.toList, stop :: rest)

section Characters

variable {known : List (List Char)} {barred : List Char} {write : Char → List Char}

/-- A text begins with its only ampersand, and has no character of some. -/
def IsEntity (barred entity : List Char) : Prop :=
  entity.head? = some '&' ∧ '&' ∉ entity.tail ∧ ∀ c ∈ barred, c ∉ entity

/-- Each character is written as an entity, or as it is where it has no meaning. -/
structure WritesEach (known : List (List Char)) (barred : List Char) (write : Char → List Char) :
    Prop where
  entity : ∀ entity ∈ known, IsEntity barred entity
  each : ∀ c, write c ∈ known ∨ write c = [c] ∧ c ≠ '&' ∧ c ∉ barred
  reads : ∀ c rest, unescape (write c ++ rest) = c :: unescape rest

namespace WritesEach

theorem not_mem (writes : WritesEach known barred write) (cs : List Char) {c : Char}
    (member : c ∈ barred) : c ∉ cs.flatMap write := by
  intro inside
  obtain ⟨d, -, inside⟩ := List.mem_flatMap.1 inside
  rcases writes.each d with isEntity | ⟨same, -, free⟩
  · exact (writes.entity _ isEntity).2.2 c member inside
  · rw [same, List.mem_singleton] at inside
    exact free (inside ▸ member)

/-- Every ampersand begins an entity. -/
theorem begins (writes : WritesEach known barred write) {cs before after : List Char}
    (divided : cs.flatMap write = before ++ '&' :: after) :
    ∃ entity ∈ known, entity <+: '&' :: after := by
  induction cs generalizing before with
  | nil => simp at divided
  | cons c cs later =>
    rw [List.flatMap_cons] at divided
    rcases writes.each c with isEntity | ⟨same, plain, -⟩
    · cases before with
      | nil => exact ⟨_, isEntity, _, divided⟩
      | cons first before =>
        -- An ampersand further on stands behind this entity.
        obtain ⟨head, single, -⟩ := writes.entity _ isEntity
        obtain ⟨name, entity⟩ := List.head?_eq_some_iff.1 head
        rw [entity] at divided single
        obtain ⟨part, -, rest⟩ := exists_append_of_not_mem single (List.cons.inj divided).2
        exact later rest
    · rw [same] at divided
      obtain ⟨part, -, rest⟩ := exists_append_of_not_mem (by simpa using plain.symm) divided
      exact later rest

theorem unescape_flatMap (writes : WritesEach known barred write) (cs : List Char) :
    unescape (cs.flatMap write) = cs := by
  induction cs with
  | nil => rfl
  | cons c cs later => rw [List.flatMap_cons, writes.reads, later]

/-- Texts are escaped character by character. -/
theorem isEscaping (writes : WritesEach known barred write) :
    IsEscaping known barred fun text => String.ofList (text.toList.flatMap write) := by
  have reads (text : String) : unescape (String.ofList (text.toList.flatMap write)).toList =
      text.toList := by
    rw [String.toList_ofList, writes.unescape_flatMap]
  have absent (text : String) : ∀ c ∈ barred,
      c ∉ (String.ofList (text.toList.flatMap write)).toList := fun c member => by
    rw [String.toList_ofList]
    exact writes.not_mem _ member
  refine ⟨absent, fun text before after divided => ?_, reads, fun text other same => ?_,
    fun text stop member rest => ?_⟩
  · rw [String.toList_ofList] at divided
    exact writes.begins divided
  · have same : String.ofList (text.toList.flatMap write) =
        String.ofList (other.toList.flatMap write) := same
    rw [← String.toList_inj, ← reads text, same, reads]
  · have others : ∀ c ∈ (String.ofList (text.toList.flatMap write)).toList, (c != stop) = true :=
      fun c inside => bne_iff_ne.2 fun same => absent text stop member (same ▸ inside)
    have stops : (stop :: rest).takeWhile (· != stop) = [] := by simp
    have stays : (stop :: rest).dropWhile (· != stop) = stop :: rest := by simp
    rw [readUpTo, List.takeWhile_append_of_pos others, List.dropWhile_append_of_pos others, stops,
      stays, List.append_nil, reads]

end WritesEach

end Characters

section Escapes

theorem unescape_cons_of_ne {c : Char} (plain : c ≠ '&') (rest : List Char) :
    unescape (c :: rest) = c :: unescape rest := by
  rw [unescape.eq_def]
  split <;> simp_all

/-- An entity that a character is written as is read as that character. -/
theorem unescape_contentEntity_append (c : Char) (rest : List Char) :
    unescape (contentEntity c ++ rest) = c :: unescape rest := by
  unfold contentEntity
  split
  · rename_i same
    exact same ▸ rfl
  · rename_i plain
    split
    · rename_i same
      exact same ▸ rfl
    · split
      · rename_i same
        exact same ▸ rfl
      · exact unescape_cons_of_ne plain rest

theorem writesEach_contentEntity : WritesEach contentEntities ['<', '>'] contentEntity where
  entity := by simp [IsEntity, contentEntities]
  each c := by
    unfold contentEntity
    split
    · exact .inl (by decide)
    · rename_i plain
      split
      · exact .inl (by decide)
      · rename_i noOpening
        split
        · exact .inl (by decide)
        · rename_i noClosing
          exact .inr ⟨rfl, plain, by simp [noOpening, noClosing]⟩
  reads := unescape_contentEntity_append

theorem writesEach_attributeEntity :
    WritesEach entities ['<', '>', '"', '\x27'] attributeEntity where
  entity := by simp [IsEntity, entities]
  each c := by
    unfold attributeEntity
    split
    · exact .inl (by decide)
    · rename_i noQuote
      split
      · exact .inl (by decide)
      · rename_i noApostrophe
        rcases writesEach_contentEntity.each c with isEntity | ⟨same, plain, free⟩
        · have all : ∀ entity ∈ contentEntities, entity ∈ entities := by decide
          exact .inl (all _ isEntity)
        · exact .inr ⟨same, plain, by simpa [noQuote, noApostrophe] using free⟩
  reads c rest := by
    unfold attributeEntity
    split
    · rename_i same
      exact same ▸ rfl
    · split
      · rename_i same
        exact same ▸ rfl
      · exact unescape_contentEntity_append c rest

/-- A text that is written with entities is read back. -/
theorem isEscapeOf_escape (text : String) : IsEscapeOf (escape text) text :=
  have escapes := writesEach_contentEntity.isEscaping
  ⟨escapes.absent text '<' (by decide), escapes.absent text '>' (by decide), escapes.reads text⟩

end Escapes

section Replacing

/-- A text in which each occurrence of a character is replaced. -/
def replaced (c : Char) (other : String) (cs : List Char) : List Char :=
  cs.flatMap fun d => if d = c then other.toList else [d]

theorem replaced_flatMap (c : Char) (other : String) (write : Char → List Char) (cs : List Char) :
    replaced c other (cs.flatMap write) = cs.flatMap fun d => replaced c other (write d) :=
  List.flatMap_assoc

theorem replaced_of_not_mem {c : Char} (other : String) {cs : List Char} (free : c ∉ cs) :
    replaced c other cs = cs := by
  have stays : ∀ d ∈ cs, (if d = c then other.toList else [d]) = [d] := fun d member =>
    if_neg fun (same : d = c) => free (same ▸ member)
  rw [replaced, List.flatMap_congr stays, List.flatMap_singleton']

/-- Replacing quotes spares the entities that are there already. -/
theorem attributeEntity_eq (c : Char) : attributeEntity c =
    replaced '\x27' "&#39;" (replaced '"' "&quot;" (contentEntity c)) := by
  unfold attributeEntity
  split
  · rename_i same
    subst same
    decide
  · rename_i noQuote
    split
    · rename_i same
      subst same
      decide
    · rename_i noApostrophe
      have free : '"' ∉ contentEntity c ∧ '\x27' ∉ contentEntity c := by
        rcases writesEach_contentEntity.each c with isEntity | ⟨same, -, -⟩
        · have each : ∀ entity ∈ contentEntities, '"' ∉ entity ∧ '\x27' ∉ entity := by decide
          exact each _ isEntity
        · rw [same]
          simp [Ne.symm noQuote, Ne.symm noApostrophe]
      rw [replaced_of_not_mem "&quot;" free.1, replaced_of_not_mem "&#39;" free.2]

/-- Attributes are escaped as if quotes were replaced in what stands in an element. -/
theorem escapeAttribute_eq (text : String) : escapeAttribute text =
    String.ofList (replaced '\x27' "&#39;" (replaced '"' "&quot;" (escape text).toList)) := by
  rw [escape, String.toList_ofList, replaced_flatMap, replaced_flatMap, escapeAttribute]
  simp only [← attributeEntity_eq]

/-- **Texts are read back from what is written of them**, and cannot end what they stand in. For an
attribute, what is written in an element is written with its quotes replaced one after the other. -/
theorem isEscaping_escape_escapeAttribute :
    IsEscaping contentEntities ['<', '>'] escape ∧
      IsEscaping entities ['<', '>', '"', '\x27'] escapeAttribute ∧
      ∀ text, escapeAttribute text =
        String.ofList (replaced '\x27' "&#39;" (replaced '"' "&quot;" (escape text).toList)) :=
  ⟨writesEach_contentEntity.isEscaping, writesEach_attributeEntity.isEscaping, escapeAttribute_eq⟩

/-- What looks like an entity is not read as one. -/
example : escapeAttribute "&lt; &quot;\x27" = "&amp;lt; &amp;quot;&#39;" := by decide

end Replacing

section Unescaped

variable {cs : List Char}

theorem length_unescape_le (cs : List Char) : (unescape cs).length ≤ cs.length := by
  fun_induction unescape cs <;> simp only [List.length_cons, List.length_nil] <;> omega

/-- A text begins with an entity, which is read, or with a character that stays. -/
theorem unescape_cons (c : Char) (rest : List Char) :
    (∃ entity ∈ entities, ∃ d after, c :: rest = entity ++ after ∧
        unescape (c :: rest) = d :: unescape after) ∨
      (∀ entity ∈ entities, ¬entity <+: c :: rest) ∧
        unescape (c :: rest) = c :: unescape rest := by
  rw [unescape.eq_def]
  split
  case h_1 after same => exact .inl ⟨"&amp;".toList, by decide, '&', after, same, rfl⟩
  case h_2 after same => exact .inl ⟨"&lt;".toList, by decide, '<', after, same, rfl⟩
  case h_3 after same => exact .inl ⟨"&gt;".toList, by decide, '>', after, same, rfl⟩
  case h_4 after same => exact .inl ⟨"&quot;".toList, by decide, '"', after, same, rfl⟩
  case h_5 after same => exact .inl ⟨"&#39;".toList, by decide, '\x27', after, same, rfl⟩
  case h_6 d others noAmp noLt noGt noQuot noApos same =>
    obtain ⟨rfl, rfl⟩ := List.cons.inj same
    refine .inr ⟨?_, rfl⟩
    have begins {entity after : List Char} {first : Char}
        (whole : first :: entity ++ after = c :: rest) : c = first ∧ rest = entity ++ after :=
      List.cons.inj whole.symm
    simp only [entities, List.forall_mem_cons]
    refine ⟨?_, ?_, ?_, ?_, ?_, nofun⟩
    · exact fun ⟨after, whole⟩ => noAmp after (begins whole).1 (begins whole).2
    · exact fun ⟨after, whole⟩ => noLt after (begins whole).1 (begins whole).2
    · exact fun ⟨after, whole⟩ => noGt after (begins whole).1 (begins whole).2
    · exact fun ⟨after, whole⟩ => noQuot after (begins whole).1 (begins whole).2
    · exact fun ⟨after, whole⟩ => noApos after (begins whole).1 (begins whole).2
  case h_7 same => contradiction

/-- A text is read as it is just if no entity is in it. -/
theorem unescape_eq_self_iff :
    unescape cs = cs ↔ ∀ entity ∈ entities, ¬entity <:+: cs := by
  induction cs with
  | nil => simp [unescape, entities]
  | cons c rest later =>
    rcases unescape_cons c rest with ⟨entity, isEntity, d, after, begins, reads⟩ | ⟨none, reads⟩
    · have long : 1 < entity.length := by
        have each : ∀ entity ∈ entities, 1 < entity.length := by decide
        exact each entity isEntity
      have shorter : unescape (c :: rest) ≠ c :: rest := by
        intro same
        have sizes := congrArg List.length (reads.symm.trans (same.trans begins))
        rw [List.length_cons, List.length_append] at sizes
        have bound := length_unescape_le after
        omega
      refine ⟨fun same => absurd same shorter, fun noEntity => ?_⟩
      exact absurd ⟨[], after, begins.symm⟩ (noEntity entity isEntity)
    · rw [reads, List.cons_inj_right, later]
      refine forall₂_congr fun entity isEntity => ?_
      rw [List.infix_cons_iff, not_or]
      exact (and_iff_right (none entity isEntity)).symm

/-- A text is an escape of itself just if it has no bracket of a tag and no entity in it. -/
theorem isEscapeOf_self_iff {text : String} : IsEscapeOf text text ↔
    '<' ∉ text.toList ∧ '>' ∉ text.toList ∧ ∀ entity ∈ entities, ¬entity <:+: text.toList := by
  rw [← unescape_eq_self_iff]
  exact ⟨fun escapes => ⟨escapes.noOpening, escapes.noClosing, escapes.reads⟩,
    fun ⟨noOpening, noClosing, reads⟩ => ⟨noOpening, noClosing, reads⟩⟩

end Unescaped

end LectureDeck.Text
