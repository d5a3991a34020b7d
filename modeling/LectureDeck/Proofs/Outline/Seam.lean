import LectureDeck.Markup.Block.Rules
import Mathlib.Data.List.TakeWhile

/-!
# Seams

A text may be cut where an item ends: after a line break, or before a heading and after the last
mark of an item that leaves the rest of its line to others (`LectureDeck.Text.Seam`). A reader that
is given the first part alone is to return what it returns for the whole, unless it takes some of
the second part (`LectureDeck.Text.Cut`).
-/

namespace LectureDeck.Text

/-- What a reader returns, with the text that it leaves. -/
class Reading (α : Type) where
  rest : α → List Char
  /-- The same with more text at the end. -/
  followedBy : List Char → α → α

export Reading (rest followedBy)

instance : Reading (List Char) where
  rest cs := cs
  followedBy more cs := cs ++ more

instance {α β : Type} [Reading β] : Reading (α × β) where
  rest part := rest part.2
  followedBy more part := (part.1, followedBy more part.2)

section Cut

variable {α β : Type} [Reading α] [Reading β] {more : List Char}

/-- What is read from a text is read with more text after it too, or else some of that is taken. -/
def Cut (more : List Char) (alone whole : Option α) : Prop :=
  whole = alone.map (followedBy more) ∨ ∃ found ∈ whole, (rest found).length < more.length

/-- Nothing that is read alone is cut if nothing is read with what follows. -/
theorem Cut.none : Cut more (none : Option α) none := .inl rfl

/-- What is read alike with what follows is cut. -/
theorem Cut.within (found : α) : Cut more (some found) (some (followedBy more found)) := .inl rfl

/-- What takes some of what follows is cut, whatever is read alone. -/
theorem Cut.beyond {alone : Option α} {found : α} (taken : (rest found).length < more.length) :
    Cut more alone (some found) := .inr ⟨found, rfl, taken⟩

/-- A text from which nothing is read alone. -/
theorem Cut.of_none {whole : Option α}
    (taken : ∀ found ∈ whole, (rest found).length < more.length) : Cut more Option.none whole := by
  cases whole with
  | none => exact .none
  | some found => exact .beyond (taken found rfl)

/-- What is read on from what was read before the end of the text. -/
theorem Cut.bind {alone whole : Option α} (same : whole = alone.map (followedBy more))
    {next next' : α → Option β}
    (later : ∀ found ∈ alone, Cut more (next found) (next' (followedBy more found))) :
    Cut more (alone.bind next) (whole.bind next') := by
  subst same
  cases alone with
  | none => exact .none
  | some found => exact later found rfl

/-- What is read on from all that may have been read. -/
theorem Cut.next {alone whole : Option α} (cut : Cut more alone whole) {next next' : α → Option β}
    (within : ∀ found ∈ alone, Cut more (next found) (next' (followedBy more found)))
    (beyond : ∀ found ∈ whole, (rest found).length < more.length →
      ∃ last ∈ next' found, (rest last).length < more.length) :
    Cut more (alone.bind next) (whole.bind next') := by
  rcases cut with same | ⟨found, taken, shorter⟩
  · exact Cut.bind same within
  · obtain ⟨last, later, less⟩ := beyond found taken shorter
    rw [Option.mem_def.1 taken]
    exact .inr ⟨last, later, less⟩

/-- What is made of what was read, with the text that it leaves. -/
theorem Cut.map {alone whole : Option α} (cut : Cut more alone whole) (make : α → β)
    (left : ∀ found, rest (make found) = rest found)
    (followed : ∀ found, make (followedBy more found) = followedBy more (make found)) :
    Cut more (alone.map make) (whole.map make) := by
  rcases cut with rfl | ⟨found, taken, shorter⟩
  · left
    cases alone with
    | none => rfl
    | some found => exact congrArg some (followed found)
  · rw [Option.mem_def.1 taken]
    exact .beyond (by rwa [left])

/-- What is made of all that may have been read. -/
theorem Cut.bind_total {alone whole : Option α} (cut : Cut more alone whole) {next : α → Option β}
    (make : α → β) (total : ∀ found, next found = some (make found))
    (left : ∀ found, rest (make found) = rest found)
    (followed : ∀ found, make (followedBy more found) = followedBy more (make found)) :
    Cut more (alone.bind next) (whole.bind next) := by
  have same (read : Option α) : read.bind next = read.map make := by
    cases read with
    | none => rfl
    | some found => exact total found
  rw [same, same]
  exact cut.map make left followed

/-- The first of two readers that reads something. -/
theorem Cut.or {alone whole alone' whole' : Option α} (first : Cut more alone whole)
    (second : Cut more alone' whole') : Cut more (alone.or alone') (whole.or whole') := by
  rcases first with rfl | ⟨found, taken, shorter⟩
  · cases alone with
    | none => exact second
    | some found => exact .within found
  · rw [Option.mem_def.1 taken]
    exact .beyond shorter

/-- Where the first reader reads something, the second does not count. -/
theorem Cut.or_of_some {found : α} {whole : Option α} (first : Cut more (some found) whole)
    (alone' whole' : Option α) : Cut more ((some found).or alone') (whole.or whole') := by
  rcases first with rfl | ⟨found, taken, shorter⟩
  · exact .within found
  · rw [Option.mem_def.1 taken]
    exact .beyond shorter

/-- The first of many readers that reads something. -/
theorem Cut.findSome? {ι : Type} {alone whole : ι → Option α} {readers : List ι}
    (each : ∀ reader ∈ readers, Cut more (alone reader) (whole reader)) :
    Cut more (readers.findSome? alone) (readers.findSome? whole) := by
  induction readers with
  | nil => exact .none
  | cons reader readers later =>
    have first (read : ι → Option α) :
        (reader :: readers).findSome? read = (read reader).or (readers.findSome? read) := by
      rw [List.findSome?_cons]
      cases read reader <;> rfl
    rw [first, first]
    exact (each reader List.mem_cons_self).or
      (later fun other member => each other (List.mem_cons_of_mem _ member))

/-- A text ends within a line. -/
def EndsInLine (cs : List Char) : Prop := ∃ body last, cs = body ++ [last] ∧ last ≠ '\n'

/-- A text ends within a line if an end of it does. -/
theorem EndsInLine.of_suffix {cs tail : List Char} (ends : EndsInLine tail) (later : tail <:+ cs) :
    EndsInLine cs := by
  obtain ⟨body, last, rfl, other⟩ := ends
  obtain ⟨before, rfl⟩ := later
  exact ⟨before ++ body, last, by rw [List.append_assoc], other⟩

/-- A text that ends with a character of a class has no line break at its end. -/
theorem endsInLine_of_all {p : Char → Bool} {cs : List Char} (every : cs.all p = true)
    (nonempty : cs ≠ []) (other : p '\n' = false) : EndsInLine cs := by
  refine ⟨cs.dropLast, cs.getLast nonempty, (List.dropLast_concat_getLast nonempty).symm,
    fun broken => ?_⟩
  have member := List.all_eq_true.1 every _ (List.getLast_mem nonempty)
  rw [broken, other] at member
  contradiction

/-- What is read from a text is read with more text after it too, or some of that is taken, or the
text ends within a line and is read alone to its end. -/
def CutOrEnds (cs more : List Char) (alone whole : Option α) : Prop :=
  Cut more alone whole ∨ (EndsInLine cs ∧ ∃ found ∈ alone, rest found = [])

section CutOrEnds

variable {cs : List Char} {alone whole : Option α}

/-- What is read from an end of a text is read from the text. -/
theorem CutOrEnds.of_suffix {tail : List Char} (cut : CutOrEnds tail more alone whole)
    (later : tail <:+ cs) : CutOrEnds cs more alone whole :=
  cut.imp_right fun ends => ⟨ends.1.of_suffix later, ends.2⟩

/-- What is read on after something that is read alike is read alike, or reaches the end. -/
theorem CutOrEnds.bind (same : whole = alone.map (followedBy more)) {next next' : α → Option β}
    (later : ∀ found ∈ alone, CutOrEnds cs more (next found) (next' (followedBy more found))) :
    CutOrEnds cs more (alone.bind next) (whole.bind next') := by
  subst same
  cases alone with
  | none => exact .inl .none
  | some found => exact later found rfl

/-- What is made of a part that is read may be anything that leaves the same text. -/
theorem CutOrEnds.map (cut : CutOrEnds cs more alone whole) (make : α → β)
    (left : ∀ found, rest (make found) = rest found)
    (followed : ∀ found, make (followedBy more found) = followedBy more (make found)) :
    CutOrEnds cs more (alone.map make) (whole.map make) := by
  rcases cut with cut | ⟨within, found, taken, ended⟩
  · exact .inl (cut.map make left followed)
  · rw [Option.mem_def.1 taken]
    exact .inr ⟨within, make found, rfl, (left found).trans ended⟩

end CutOrEnds

end Cut

/-! ### Where a text may be cut -/

/-- A character that may end an item of a text. -/
def isItemEnd (c : Char) : Bool := c == '\n' || c == ':' || c == '%' || c == '\x7d'

/-- No character of a class ends an item. -/
def Spares (p : Char → Bool) : Prop := ∀ c, isItemEnd c = true → p c = false

/-- An item may end with a break, a colon, a percent sign or a brace. -/
theorem eq_of_isItemEnd {c : Char} (ends : isItemEnd c = true) :
    c = '\n' ∨ c = ':' ∨ c = '%' ∨ c = '\x7d' := by
  simpa [isItemEnd, or_assoc] using ends

/-- A class has no ends of items if each of the four is not in it. -/
theorem spares_of_all {p : Char → Bool} (spared : ['\n', ':', '%', '\x7d'].all (!p ·) = true) :
    Spares p := by
  intro c ends
  simp only [List.all_cons, List.all_nil, Bool.and_true, Bool.and_eq_true,
    Bool.not_eq_true'] at spared
  obtain ⟨line, colon, percent, brace⟩ := spared
  rcases eq_of_isItemEnd ends with rfl | rfl | rfl | rfl <;> assumption

/-- What is in a class that spares the ends of items ends none. -/
theorem Spares.isItemEnd_eq {p : Char → Bool} (spares : Spares p) {c : Char} (member : p c = true) :
    isItemEnd c = false := by
  cases ends : isItemEnd c with
  | false => rfl
  | true =>
    rw [spares c ends] at member
    contradiction

/-- No gap ends an item. -/
theorem spares_isGap : Spares isGap := spares_of_all rfl

/-- A text ends where an item may end, and more text follows: the text ends with a line break, or a
heading follows. -/
structure Seam (cs more : List Char) : Prop where
  nonempty : more ≠ []
  unbroken : more.head? ≠ some '\n'
  ends : ∃ body last gap, cs = body ++ last :: gap ∧ isItemEnd last = true ∧
    gap.all isGap = true ∧ ((last = '\n' ∧ gap = []) ∨ (last ≠ '\n' ∧ more.head? = some '#'))

section Seam

variable {cs more : List Char}

/-- The text before a seam has the end of an item. -/
theorem Seam.exists_isItemEnd (seam : Seam cs more) : ∃ c ∈ cs, isItemEnd c = true := by
  obtain ⟨body, last, gap, rfl, ends, -⟩ := seam.ends
  exact ⟨last, by simp, ends⟩

/-- The text before a seam is not empty. -/
theorem Seam.ne_nil (seam : Seam cs more) : cs ≠ [] := by
  obtain ⟨c, member, -⟩ := seam.exists_isItemEnd
  exact List.ne_nil_of_mem member

/-- An end of the text ends as the text does, or it is a gap. -/
theorem Seam.suffix (seam : Seam cs more) {tail : List Char} (later : tail <:+ cs) :
    Seam tail more ∨ (tail.all isGap = true ∧ (tail = [] ∨ more.head? = some '#')) := by
  obtain ⟨body, last, gap, rfl, ends, gaps, kind⟩ := seam.ends
  obtain ⟨before, whole⟩ := later
  rcases List.append_eq_append_iff.1 whole with ⟨inner, -, rfl⟩ | ⟨inner, rfl, same⟩
  · exact .inl ⟨seam.nonempty, seam.unbroken, inner, last, gap, rfl, ends, gaps, kind⟩
  · cases inner with
    | nil =>
      exact .inl ⟨seam.nonempty, seam.unbroken, [], last, gap, same.symm, ends, gaps, kind⟩
    | cons c inner =>
      have parts : last = c ∧ gap = inner ++ tail := List.cons.inj same
      obtain ⟨rfl, rfl⟩ := parts
      rw [List.all_append, Bool.and_eq_true] at gaps
      refine .inr ⟨gaps.2, ?_⟩
      rcases kind with ⟨-, empty⟩ | ⟨-, heading⟩
      · exact .inl (List.append_eq_nil_iff.1 empty).2
      · exact .inr heading

/-- What follows a part in which no item ends. -/
theorem Seam.of_append {part tail : List Char} (seam : Seam (part ++ tail) more)
    (clear : ∀ c ∈ part, isItemEnd c = false) : Seam tail more := by
  rcases seam.suffix (List.suffix_append part tail) with seam | ⟨gaps, -⟩
  · exact seam
  · obtain ⟨c, member, ends⟩ := seam.exists_isItemEnd
    rcases List.mem_append.1 member with before | after
    · rw [clear c before] at ends
      contradiction
    · have spared := spares_isGap c ends
      rw [List.all_eq_true.1 gaps c after] at spared
      contradiction

/-- A first character that ends no item can be left out before a seam. -/
theorem Seam.of_cons {c : Char} (seam : Seam (c :: cs) more) (clear : isItemEnd c = false) :
    Seam cs more :=
  Seam.of_append (show Seam ([c] ++ cs) more from seam) fun d member => by
    rwa [List.mem_singleton.1 member]

/-- What follows a line break. -/
theorem Seam.of_break {line tail : List Char} (seam : Seam (line ++ '\n' :: tail) more) :
    tail = [] ∨ Seam tail more := by
  obtain ⟨body, last, gap, whole, ends, gaps, kind⟩ := seam.ends
  rcases List.append_eq_append_iff.1 whole with ⟨inner, -, same⟩ | ⟨inner, -, same⟩
  · cases inner with
    | nil =>
      obtain ⟨rfl, rfl⟩ := List.cons.inj same
      rcases kind with ⟨-, rfl⟩ | ⟨other, -⟩
      · exact .inl rfl
      · contradiction
    | cons c inner =>
      obtain ⟨rfl, rfl⟩ := List.cons.inj same
      exact .inr ⟨seam.nonempty, seam.unbroken, inner, last, gap, rfl, ends, gaps, kind⟩
  · cases inner with
    | nil =>
      obtain ⟨rfl, rfl⟩ := List.cons.inj same
      rcases kind with ⟨-, rfl⟩ | ⟨other, -⟩
      · exact .inl rfl
      · contradiction
    | cons c inner =>
      -- A line break is no gap.
      obtain ⟨rfl, rfl⟩ := List.cons.inj same
      have inside := List.all_eq_true.1 gaps '\n' (by simp)
      contradiction

/-- So can a break that does not stand at the seam itself. -/
theorem Seam.of_cons_break (seam : Seam ('\n' :: cs) more) : cs = [] ∨ Seam cs more :=
  Seam.of_break (show Seam ([] ++ '\n' :: cs) more from seam)

/-- Any text can be put before a seam. -/
theorem Seam.append (seam : Seam cs more) (part : List Char) : Seam (part ++ cs) more := by
  obtain ⟨body, last, gap, rfl, rest⟩ := seam.ends
  exact ⟨seam.nonempty, seam.unbroken, part ++ body, last, gap, by simp, rest⟩

end Seam

end LectureDeck.Text
