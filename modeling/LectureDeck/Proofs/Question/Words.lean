import LectureDeck.Proofs.Result
import LectureDeck.Proofs.Text.Backslashes
import LectureDeck.Question.Options

/-!
# Words in quotes

Any words can be written between double quotes, whatever they hold. A text is a row of pieces:
single characters, which may be escaped, and quotes. It has no words if and only if what comes after
its pieces is a quote that nothing ends (`LectureDeck.Words.split_eq_error_iff`). Both together are
`LectureDeck.Words.split_quoted`.
-/

namespace LectureDeck.Words

open LectureDeck.Text

/-- A character that opens a quote, and ends the quote that it opened. -/
def IsMark (c : Char) : Prop := c = '"' ∨ c = '\x27'

section Steps

variable {quote : Option Char} {word : Option (List Char)} {mark c next : Char} {rest : List Char}

/-- A blank neither escapes nor opens a quote. -/
theorem free_of_isBlank (blank : isBlank c = true) : c ≠ '\\' ∧ ¬ IsMark c := by
  refine ⟨?_, ?_⟩
  · rintro rfl
    contradiction
  · rintro (rfl | rfl) <;> contradiction

/-- The mark that opened a quote ends it. Its word goes on. -/
theorem splitFrom_close :
    splitFrom (some mark) word (mark :: rest) = splitFrom none word rest := by
  cases rest <;> exact if_pos rfl

/-- The character behind a backslash is kept as it is, where a backslash keeps one. -/
theorem splitFrom_keep (keeps : keepsNext quote c = true) (other : quote ≠ some c) :
    splitFrom quote word (c :: next :: rest) =
      splitFrom quote (some (next :: word.getD [])) rest := (if_neg other).trans (if_pos keeps)

/-- A backslash at the end of a text has nothing to keep. -/
theorem splitFrom_last (keeps : keepsNext quote c = true) (other : quote ≠ some c) :
    splitFrom quote word [c] = finish quote (some (word.getD [])) :=
  (if_neg other).trans (if_pos keeps)

/-- Within a quote every other character belongs to the word. -/
theorem splitFrom_inside (other : c ≠ mark) (plain : keepsNext (some mark) c = false) :
    splitFrom (some mark) word (c :: rest) =
      splitFrom (some mark) (some (c :: word.getD [])) rest := by
  have different : some mark ≠ some c := fun same => other (Option.some.inj same).symm
  have passes : ¬keepsNext (some mark) c = true := Bool.not_eq_true _ ▸ plain
  cases rest <;> exact (if_neg different).trans ((if_neg passes).trans (if_pos rfl))

/-- A mark opens a quote, and with it a word if none is open. -/
theorem splitFrom_open (isMark : IsMark mark) :
    splitFrom none word (mark :: rest) = splitFrom (some mark) (some (word.getD [])) rest := by
  rcases isMark with rfl | rfl <;> cases rest <;> rfl

/-- Between words, most characters neither escape nor open a quote. -/
theorem splitFrom_free (plain : c ≠ '\\') (free : ¬ IsMark c) : splitFrom none word (c :: rest) =
    if isBlank c then
      (splitFrom none none rest).map fun words => word.toList.map List.reverse ++ words
    else splitFrom none (some (c :: word.getD [])) rest := by
  have passes : ¬keepsNext none c = true := by simp [keepsNext, plain]
  have opensNone : ¬(c = '"' || c = '\x27') = true := by simpa [IsMark] using free
  cases rest <;>
    exact (if_neg nofun).trans ((if_neg passes).trans ((if_neg nofun).trans (if_neg opensNone)))

/-- A blank ends a word outside of quotes. -/
theorem splitFrom_blank (blank : isBlank c = true) : splitFrom none word (c :: rest) =
    (splitFrom none none rest).map fun words => word.toList.map List.reverse ++ words := by
  obtain ⟨plain, free⟩ := free_of_isBlank blank
  rw [splitFrom_free plain free, if_pos blank]

/-- Outside of quotes every other character belongs to the word. -/
theorem splitFrom_plain (plain : c ≠ '\\') (free : ¬ IsMark c) (full : isBlank c = false) :
    splitFrom none word (c :: rest) = splitFrom none (some (c :: word.getD [])) rest := by
  rw [splitFrom_free plain free, full]
  rfl

end Steps

section Written

/-- A character that is written with a backslash between double quotes. -/
def isSpecial (c : Char) : Bool := c == '"' || c == '\\'

/-- A word between double quotes. -/
def quoted (word : List Char) : List Char := '"' :: withBackslashes isSpecial word ++ ['"']

/-- The space between two words. -/
structure Gap where
  chars : List Char
  nonempty : chars ≠ []
  blank : ∀ c ∈ chars, isBlank c = true

/-- Words between double quotes with a gap between any two. The gap of a number stands before that
many words. -/
def written (gap : Nat → Gap) : List (List Char) → List Char
  | [] => []
  | [word] => quoted word
  | word :: next :: rest =>
    quoted word ++ (gap (rest.length + 1)).chars ++ written gap (next :: rest)

/-- What was escaped for a quote is read as it was. -/
theorem splitFrom_withBackslashes (pending word rest : List Char) :
    splitFrom (some '"') (some pending) (withBackslashes isSpecial word ++ rest) =
      splitFrom (some '"') (some (word.reverse ++ pending)) rest := by
  induction word generalizing pending with
  | nil => rfl
  | cons c word later =>
    have passed : splitFrom (some '"') (some pending)
        ((if isSpecial c then ['\\', c] else [c]) ++ (withBackslashes isSpecial word ++ rest)) =
          splitFrom (some '"') (some (c :: pending)) (withBackslashes isSpecial word ++ rest) := by
      by_cases special : isSpecial c = true
      · rw [if_pos special]
        exact splitFrom_keep rfl (by decide)
      · rw [if_neg special]
        rw [isSpecial, Bool.or_eq_true, not_or, beq_iff_eq, beq_iff_eq] at special
        exact splitFrom_inside special.1 (by simp [keepsNext, special.2])
    rw [withBackslashes_cons, List.append_assoc, passed, later]
    simp

/-- A word between double quotes is read as it is. -/
theorem splitFrom_quoted (word rest : List Char) :
    splitFrom none none (quoted word ++ rest) = splitFrom none (some word.reverse) rest := by
  have whole : quoted word ++ rest = '"' :: (withBackslashes isSpecial word ++ '"' :: rest) := by
    simp [quoted]
  rw [whole, splitFrom_open (.inl rfl), splitFrom_withBackslashes, splitFrom_close]
  simp

/-- Blanks before a word are passed over. -/
theorem splitFrom_blanks {gap : List Char} (blank : ∀ c ∈ gap, isBlank c = true)
    (rest : List Char) : splitFrom none none (gap ++ rest) = splitFrom none none rest := by
  induction gap with
  | nil => rfl
  | cons c gap later =>
    obtain ⟨first, blank⟩ := List.forall_mem_cons.1 blank
    rw [List.cons_append, splitFrom_blank first, later blank]
    cases splitFrom none none rest <;> rfl

/-- A gap ends the word before it. -/
theorem splitFrom_gap (gap : Gap) (word rest : List Char) :
    splitFrom none (some word) (gap.chars ++ rest) =
      (splitFrom none none rest).map (word.reverse :: ·) := by
  obtain ⟨_ | ⟨c, chars⟩, nonempty, blank⟩ := gap
  · contradiction
  · obtain ⟨first, blank⟩ := List.forall_mem_cons.1 blank
    rw [List.cons_append, splitFrom_blank first, splitFrom_blanks blank]
    rfl

/-- Words that are written are read back. -/
theorem split_written (gap : Nat → Gap) (words : List (List Char)) :
    split (written gap words) = .ok words := by
  unfold split
  induction words with
  | nil => rfl
  | cons word rest later =>
    cases rest with
    | nil =>
      have read := splitFrom_quoted word []
      rw [List.append_nil] at read
      rw [written, read, splitFrom, finish]
      simp
    | cons next rest =>
      rw [written, List.append_assoc, splitFrom_quoted, splitFrom_gap, later]
      simp [Except.map]

example : written (fun _ => ⟨[' '], nofun, List.forall_mem_singleton.2 rfl⟩)
    [[], ['a', ' ', '"', '\\']] = ['"', '"', ' ', '"', 'a', ' ', '\\', '"', '\\', '\\', '"'] := rfl

end Written

section Quotes

variable {mark : Char} {start inside cs : List Char}

/-- After a text within a quote, the next character is kept as it is. -/
def Keeps (mark : Char) (before : List Char) : Prop := mark = '"' ∧ Escapes before

/-- A text within a quote that does not end the quote: each mark in it is kept. -/
def StaysOpen (mark : Char) (inside : List Char) : Prop :=
  Stepwise (fun before c => c = mark → Keeps mark before) inside

/-- What a text consists of outside of quotes that are not ended. -/
inductive IsPiece : List Char → Prop
  | plain {c : Char} (plain : c ≠ '\\') (free : ¬ IsMark c) : IsPiece [c]
  | kept (c : Char) : IsPiece ['\\', c]
  | quote {mark : Char} {inside : List Char} (isMark : IsMark mark) (stays : StaysOpen mark inside)
      (ends : ¬ Keeps mark inside) : IsPiece (mark :: inside ++ [mark])

/-- A text that ends within a quote: after some pieces, a mark opens a quote that nothing ends. -/
def EndsWithin (mark : Char) (cs : List Char) : Prop :=
  ∃ pieces inside, cs = List.flatten pieces ++ mark :: inside ∧ (∀ piece ∈ pieces, IsPiece piece) ∧
    IsMark mark ∧ StaysOpen mark inside

/-- What a quote keeps depends on what was read since nothing was kept. -/
theorem keeps_append_iff (free : ¬ Keeps mark start) :
    Keeps mark (start ++ cs) ↔ Keeps mark cs := by
  by_cases double : mark = '"'
  · have unescaped : ¬ Escapes start := fun escapes => free ⟨double, escapes⟩
    rw [Keeps, Keeps, escapes_append_iff unescaped]
  · exact ⟨fun keeps => absurd keeps.1 double, fun keeps => absurd keeps.1 double⟩

/-- A quote that stays open does so from any place where nothing is kept. -/
theorem StaysOpen.of_append (free : ¬ Keeps mark start)
    (stays : StaysOpen mark (start ++ inside)) : StaysOpen mark inside := by
  intro before c after same isMark
  apply (keeps_append_iff free).1
  exact stays (start ++ before) c after (by rw [same, List.append_assoc]) isMark

/-- A quote that stays open does not begin with its mark. -/
theorem StaysOpen.ne {c : Char} (stays : StaysOpen mark (c :: inside)) : c ≠ mark :=
  fun same => not_escapes_nil (stays [] c inside rfl same).2

/-- A single character within a quote keeps the next one, or does not. -/
theorem keeps_singleton_iff (isMark : IsMark mark) {c : Char} :
    Keeps mark [c] ↔ keepsNext (some mark) c = true := by
  rw [Keeps, escapes_singleton_iff]
  rcases isMark with rfl | rfl <;> simp [keepsNext]

/-- Nothing is kept after a backslash and the character behind it. -/
theorem not_keeps_pair (mark c : Char) : ¬ Keeps mark ['\\', c] := by
  rintro ⟨-, escapes⟩
  rw [← List.singleton_append, escapes_concat_iff] at escapes
  exact escapes.2 (by decide)

/-- What stays within a quote is passed, if nothing is left to keep. -/
theorem exists_splitFrom_append (isMark : IsMark mark) (inside : List Char)
    (word : Option (List Char)) (stays : StaysOpen mark inside) (free : ¬ Keeps mark inside) :
    ∃ after, ∀ rest, splitFrom (some mark) word (inside ++ rest) =
      splitFrom (some mark) after rest := by
  match inside with
  | [] => exact ⟨word, fun _ => rfl⟩
  | c :: inside =>
    by_cases keeps : Keeps mark [c]
    · -- A backslash takes the character after it along, so that two are passed at once.
      have backslash := (keeps_singleton_iff isMark).1 keeps
      have other : some mark ≠ some c := fun same => stays.ne (Option.some.inj same).symm
      match inside with
      | [] => exact absurd keeps free
      | next :: inside =>
        obtain rfl := escapes_singleton_iff.1 keeps.2
        have pair := not_keeps_pair mark next
        obtain ⟨after, passed⟩ := exists_splitFrom_append isMark inside
          (some (next :: word.getD []))
          (.of_append pair stays) (fun kept => free ((keeps_append_iff pair).2 kept))
        refine ⟨after, fun rest => ?_⟩
        rw [List.cons_append, List.cons_append, splitFrom_keep backslash other, passed]
    · have plain := Bool.eq_false_iff.2 (mt (keeps_singleton_iff isMark).2 keeps)
      obtain ⟨after, passed⟩ := exists_splitFrom_append isMark inside (some (c :: word.getD []))
        (.of_append keeps stays) (fun kept => free ((keeps_append_iff keeps).2 kept))
      refine ⟨after, fun rest => ?_⟩
      rw [List.cons_append, splitFrom_inside stays.ne plain, passed]

/-- A quote that nothing ends is an error. -/
theorem splitFrom_of_staysOpen (isMark : IsMark mark) (word : Option (List Char))
    (stays : StaysOpen mark inside) : splitFrom (some mark) word inside = .error mark := by
  by_cases keeps : Keeps mark inside
  · -- The last backslash has nothing to keep.
    obtain ⟨rfl, escapes⟩ := keeps
    obtain ⟨init, rfl, free⟩ := exists_concat_of_escapes escapes
    obtain ⟨after, passed⟩ := exists_splitFrom_append isMark init word
      (Stepwise.concat_iff.1 stays).1 (fun kept => free kept.2)
    rw [passed, splitFrom_last rfl (by decide)]
    rfl
  · obtain ⟨after, passed⟩ := exists_splitFrom_append isMark inside word stays keeps
    have read := passed []
    rw [List.append_nil] at read
    rw [read]
    rfl

/-- After a piece no quote is open. -/
theorem IsPiece.exists_splitFrom {piece : List Char} (isPiece : IsPiece piece)
    (word : Option (List Char)) : ∃ after, ∀ rest mark,
      splitFrom none word (piece ++ rest) = .error mark ↔
        splitFrom none after rest = .error mark := by
  cases isPiece with
  | @plain c plain free =>
    by_cases blank : isBlank c = true
    · refine ⟨none, fun rest mark => ?_⟩
      rw [List.singleton_append, splitFrom_blank blank]
      cases splitFrom none none rest <;> simp [Except.map]
    · refine ⟨some (c :: word.getD []), fun rest mark => ?_⟩
      rw [List.singleton_append, splitFrom_plain plain free (Bool.eq_false_iff.2 blank)]
  | kept c =>
    refine ⟨some (c :: word.getD []), fun rest mark => ?_⟩
    have other : none ≠ some '\\' := (Option.some_ne_none _).symm
    rw [List.cons_append, List.singleton_append, splitFrom_keep rfl other]
  | @quote mark inside isMark stays ends =>
    obtain ⟨after, passed⟩ := exists_splitFrom_append isMark inside (some (word.getD [])) stays ends
    refine ⟨after, fun rest other => ?_⟩
    have whole : mark :: inside ++ [mark] ++ rest = mark :: (inside ++ mark :: rest) := by simp
    rw [whole, splitFrom_open isMark, passed, splitFrom_close]

/-- Pieces that are read lead to a word that is open or to none, and no quote is open after them. -/
theorem exists_splitFrom_flatten {pieces : List (List Char)}
    (each : ∀ piece ∈ pieces, IsPiece piece) (word : Option (List Char)) :
    ∃ after, ∀ rest mark, splitFrom none word (pieces.flatten ++ rest) = .error mark ↔
      splitFrom none after rest = .error mark := by
  induction pieces generalizing word with
  | nil => exact ⟨word, fun _ _ => Iff.rfl⟩
  | cons piece pieces later =>
    obtain ⟨first, each⟩ := List.forall_mem_cons.1 each
    obtain ⟨middle, passed⟩ := first.exists_splitFrom word
    obtain ⟨after, others⟩ := later each middle
    refine ⟨after, fun rest mark => ?_⟩
    rw [List.flatten_cons, List.append_assoc, passed, others]

/-- What is left of a text after its pieces: nothing, a backslash that has nothing to keep, or a
quote that nothing ends. -/
inductive IsLeft : List Char → Prop
  | nothing : IsLeft []
  | backslash : IsLeft ['\\']
  | quote {mark : Char} {inside : List Char} (isMark : IsMark mark)
      (stays : StaysOpen mark inside) : IsLeft (mark :: inside)

/-- A text begins with a piece, unless it is what is left after pieces. -/
theorem isLeft_or_exists_piece (cs : List Char) :
    IsLeft cs ∨ ∃ piece rest, cs = piece ++ rest ∧ IsPiece piece ∧ rest.length < cs.length := by
  match cs with
  | [] => exact .inl .nothing
  | c :: rest =>
    by_cases isMark : IsMark c
    · rcases Stepwise.or_exists_first _ rest with stays | ⟨inside, found, after, rfl, stays, ends⟩
      · exact .inl (.quote isMark stays)
      · obtain ⟨rfl, ends⟩ := Classical.not_imp.1 ends
        refine .inr ⟨found :: inside ++ [found], after, by simp, .quote isMark stays ends, ?_⟩
        simp only [List.length_append, List.length_cons]
        omega
    · by_cases backslash : c = '\\'
      · subst backslash
        match rest with
        | [] => exact .inl .backslash
        | next :: rest =>
          refine .inr ⟨['\\', next], rest, rfl, .kept next, ?_⟩
          simp only [List.length_cons]
          omega
      · exact .inr ⟨[c], rest, rfl, .plain backslash isMark, Nat.lt_succ_self _⟩

/-- Every text is pieces, and what is left of it. -/
theorem exists_pieces (cs : List Char) : ∃ pieces rest, cs = List.flatten pieces ++ rest ∧
    (∀ piece ∈ pieces, IsPiece piece) ∧ IsLeft rest := by
  rcases isLeft_or_exists_piece cs with left | ⟨piece, rest, whole, first, shorter⟩
  · exact ⟨[], cs, rfl, nofun, left⟩
  · obtain ⟨pieces, last, same, each, left⟩ := exists_pieces rest
    refine ⟨piece :: pieces, last, ?_, List.forall_mem_cons.2 ⟨first, each⟩, left⟩
    rw [whole, same, List.flatten_cons, List.append_assoc]
termination_by cs.length

/-- A text has no words if and only if it ends within a quote. -/
theorem split_eq_error_iff : split cs = .error mark ↔ EndsWithin mark cs := by
  unfold split
  constructor
  · intro failed
    obtain ⟨pieces, rest, rfl, each, left⟩ := exists_pieces cs
    obtain ⟨after, passed⟩ := exists_splitFrom_flatten each none
    rw [passed] at failed
    cases left with
    | nothing => contradiction
    | backslash => contradiction
    | quote isMark stays =>
      rw [splitFrom_open isMark, splitFrom_of_staysOpen isMark _ stays] at failed
      cases failed
      exact ⟨pieces, _, rfl, each, isMark, stays⟩
  · rintro ⟨pieces, inside, rfl, each, isMark, stays⟩
    obtain ⟨after, passed⟩ := exists_splitFrom_flatten each none
    rw [passed, splitFrom_open isMark, splitFrom_of_staysOpen isMark _ stays]

end Quotes

/-- **Words are read back, and only open quotes fail.** Words that are written between double quotes
with gaps between them are split into the same words. A text is not split if and only if a quote is
still open at its end, and that quote is the error. -/
theorem split_quoted : (∀ (gap : Nat → Gap) (words : List (List Char)),
      split (written gap words) = .ok words) ∧
    ∀ (cs : List Char) (mark : Char), split cs = .error mark ↔ EndsWithin mark cs :=
  ⟨split_written, fun _ _ => split_eq_error_iff⟩

end LectureDeck.Words
