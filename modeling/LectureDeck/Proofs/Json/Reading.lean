import LectureDeck.Json.Printer
import LectureDeck.Json.Reader
import LectureDeck.Proofs.Decimal.Natural

/-!
# Reading what was written

A value that is spread over lines is read as it was written (`LectureDeck.Json.read?_pretty`), if
its numbers are natural and nothing in it is garbled. Whatever characters a text has, it is quoted
so that it is read again (`LectureDeck.Json.quotedText?_quoted`).
-/

namespace LectureDeck.Json

section Texts

variable {c : Char} {rest : List Char}

/-- An escape is read as the character that it stands for. -/
theorem unquote?_escape {code : Nat} (known : escaped? c = some code) (rest : List Char) :
    unquote? ('\\' :: c :: rest) = (unquote? rest).map fun part => (code :: part.1, part.2) := by
  rw [unquote?, known]
  · cases unquote? rest <;> rfl
  · rintro _ _ _ _ _ rfl
    contradiction

/-- A character that needs no escape is read as it is. -/
theorem unquote?_plain (notQuote : c ≠ '"') (notEscape : c ≠ '\\') (printed : 32 ≤ c.toNat)
    (rest : List Char) :
    unquote? (c :: rest) = (unquote? rest).map fun part => (c.toNat :: part.1, part.2) := by
  rw [unquote?, if_neg]
  · cases unquote? rest <;> rfl
  · simpa using ⟨notEscape, printed⟩
  · exact notQuote
  · exact fun _ _ _ _ _ same => absurd same notEscape
  · exact fun _ _ same => absurd same notEscape

/-- Control characters are written with two digits. -/
theorem hexUnit?_hexSmall : ∀ code < 32,
    hexUnit? '0' '0' (Text.hexSmall (code / 16)) (Text.hexSmall (code % 16)) = some code := by
  decide

/-- A character is written as it is, after a backslash, or by its code point. -/
theorem quotedChar_cases (c : Char) :
    (∃ mark, quotedChar c = ['\\', mark] ∧ escaped? mark = some c.toNat) ∨
      (quotedChar c = ['\\', 'u', '0', '0', Text.hexSmall (c.toNat / 16),
        Text.hexSmall (c.toNat % 16)] ∧ c.toNat < 32) ∨
      (quotedChar c = [c] ∧ c ≠ '"' ∧ c ≠ '\\' ∧ 32 ≤ c.toNat) := by
  by_cases named : c ∈ ['"', '\\', '\n', '\r', '\t', '\x08', '\x0c']
  · have marks : ∀ c ∈ ['"', '\\', '\n', '\r', '\t', '\x08', '\x0c'],
        ∃ mark, quotedChar c = ['\\', mark] ∧ escaped? mark = some c.toNat := by
      simp only [List.forall_mem_cons]
      exact ⟨⟨'"', rfl, rfl⟩, ⟨'\\', rfl, rfl⟩, ⟨'n', rfl, rfl⟩, ⟨'r', rfl, rfl⟩, ⟨'t', rfl, rfl⟩,
        ⟨'b', rfl, rfl⟩, ⟨'f', rfl, rfl⟩, nofun⟩
    exact .inl (marks c named)
  · simp only [List.mem_cons, List.not_mem_nil, or_false, not_or] at named
    obtain ⟨quote, backslash, newline, carriage, tab, back, feed⟩ := named
    refine .inr ?_
    unfold quotedChar
    rw [if_neg quote, if_neg backslash, if_neg newline, if_neg carriage, if_neg tab, if_neg back,
      if_neg feed]
    by_cases control : c.toNat < 32
    · rw [if_pos control]
      exact .inl ⟨rfl, control⟩
    · rw [if_neg control]
      exact .inr ⟨rfl, quote, backslash, Nat.not_lt.1 control⟩

/-- A character that was written is read as its code point. -/
theorem unquote?_quotedChar (c : Char) (rest : List Char) :
    unquote? (quotedChar c ++ rest) =
      (unquote? rest).map fun part => (c.toNat :: part.1, part.2) := by
  rcases quotedChar_cases c with ⟨mark, same, known⟩ | ⟨same, control⟩ |
    ⟨same, quote, escape, printed⟩
  · rw [same]
    exact unquote?_escape known rest
  · rw [same]
    change (hexUnit? '0' '0' _ _ >>= fun first => unquote? rest >>= fun part =>
      some (first :: part.1, part.2)) = _
    rw [hexUnit?_hexSmall _ control]
    cases unquote? rest <;> rfl
  · rw [same]
    exact unquote?_plain quote escape printed rest

/-- Characters that were quoted one by one are read again one by one, up to the quotation mark. -/
theorem unquote?_quoted (cs rest : List Char) :
    unquote? (cs.flatMap quotedChar ++ '"' :: rest) = some (cs.map Char.toNat, rest) := by
  induction cs with
  | nil => rfl
  | cons c cs later =>
    rw [List.flatMap_cons, List.append_assoc, unquote?_quotedChar, later]
    rfl

/-- No character is half of a pair. -/
theorem joinPairs?_map_toNat (cs : List Char) : joinPairs? (cs.map Char.toNat) = some cs := by
  have whole (c : Char) : isHighSurrogate c.toNat = false ∧ isLowSurrogate c.toNat = false := by
    have valid : c.toNat < 0xD800 ∨ 0xDFFF < c.toNat ∧ c.toNat < 0x110000 := c.valid
    simp only [isHighSurrogate, isLowSurrogate, Bool.and_eq_false_iff, decide_eq_false_iff_not]
    omega
  induction cs with
  | nil => rfl
  | cons c cs later =>
    cases cs with
    | nil =>
      rw [List.map_singleton, joinPairs?, (whole c).1, (whole c).2, Char.ofNat_toNat]
      rfl
    | cons next rest =>
      rw [List.map_cons, List.map_cons, joinPairs?, (whole c).1, (whole c).2, ← List.map_cons,
        later, Char.ofNat_toNat]
      rfl

/-- **A text that was quoted is read again.** -/
theorem quotedText?_quoted (text : String) (rest : List Char) :
    quotedText? (text.toList.flatMap quotedChar ++ '"' :: rest) = some (some text, rest) := by
  rw [quotedText?, unquote?_quoted, Option.map_some, joinPairs?_map_toNat, Option.map_some,
    String.ofList_toList]

end Texts

section Numbers

/-- What follows is no part of a number. -/
def EndsNumber (rest : List Char) : Prop :=
  ∀ c ∈ rest.head?, c.isDigit = false ∧ c ≠ '.' ∧ c ≠ 'e' ∧ c ≠ 'E'

/-- No zero stands before other digits. -/
theorem natural_eq_zero_cons {n : Nat} {digits : List Char}
    (same : Decimal.natural n = '0' :: digits) : n = 0 ∧ digits = [] := by
  induction n using Nat.strongRecOn generalizing digits with
  | ind n earlier =>
    rw [Decimal.natural, Nat.toDigits_eq_if (by decide)] at same
    split at same
    · rename_i small
      obtain ⟨digit, rfl⟩ := List.cons.inj same
      have zero : ∀ n < 10, n.digitChar = '0' → n = 0 := by decide
      exact ⟨zero n small digit, rfl⟩
    · rename_i large
      cases upper : Nat.toDigits 10 (n / 10) with
      | nil => exact absurd upper Nat.toDigits_ne_nil
      | cons first rest =>
        rw [upper] at same
        obtain ⟨rfl, -⟩ := List.cons.inj same
        have none := (earlier (n / 10) (by omega) upper).1
        omega

/-- The digits of a number are read up to where a number ends. -/
theorem someDigits?_natural (n : Nat) {rest : List Char} (ends : EndsNumber rest) :
    someDigits? (Decimal.natural n ++ rest) = some (Decimal.natural n, rest) := by
  have digits : ∀ c ∈ Decimal.natural n, c.isDigit = true := fun c member =>
    Nat.isDigit_of_mem_toDigits (by decide) (by decide) member
  have stop : rest.takeWhile Char.isDigit = [] ∧ rest.dropWhile Char.isDigit = rest := by
    cases rest with
    | nil => exact ⟨rfl, rfl⟩
    | cons c rest =>
      have other := (ends c rfl).1
      exact ⟨List.takeWhile_cons_of_neg (by simpa using other),
        List.dropWhile_cons_of_neg (by simpa using other)⟩
  have nonempty : (Decimal.natural n).isEmpty = false :=
    List.isEmpty_eq_false_iff.2 Nat.toDigits_ne_nil
  rw [someDigits?, List.takeWhile_append_of_pos digits, List.dropWhile_append_of_pos digits,
    stop.1, stop.2, List.append_nil, nonempty]
  rfl

/-- The digits of a number are a whole part, since no zero leads them. -/
theorem wholePart?_natural (n : Nat) {rest : List Char} (ends : EndsNumber rest) :
    wholePart? (Decimal.natural n ++ rest) = some (Decimal.natural n, rest) := by
  cases digits : Decimal.natural n with
  | nil => exact absurd digits Nat.toDigits_ne_nil
  | cons first others =>
    by_cases zero : first = '0'
    · subst zero
      obtain ⟨-, rfl⟩ := natural_eq_zero_cons digits
      cases rest with
      | nil => rfl
      | cons c rest =>
        have other := (ends c rfl).1
        change wholePart? ('0' :: c :: rest) = _
        rw [wholePart?, other]
        rfl
    · rw [← digits]
      have found := someDigits?_natural n ends
      rw [digits] at found ⊢
      rw [List.cons_append] at found ⊢
      rw [wholePart?]
      · exact found
      · rintro _ same
        exact zero (List.cons.inj same).1

/-- Where a number ends there is no fraction. -/
theorem fractionPart?_of_ends {rest : List Char} (ends : EndsNumber rest) :
    fractionPart? rest = some ([], rest) := by
  cases rest with
  | nil => rfl
  | cons c rest =>
    rw [fractionPart?]
    rintro _ same
    exact (ends c rfl).2.1 (List.cons.inj same).1

/-- Where a number ends there is no power. -/
theorem powerPart?_of_ends {rest : List Char} (ends : EndsNumber rest) :
    powerPart? rest = some ([], rest) := by
  cases rest with
  | nil => rfl
  | cons c rest =>
    obtain ⟨-, -, small, capital⟩ := ends c rfl
    unfold powerPart?
    dsimp only
    rw [if_neg]
    simp [small, capital]

/-- A natural number ends where its digits do. -/
theorem numberLiteral?_natural (n : Nat) {rest : List Char} (ends : EndsNumber rest) :
    numberLiteral? (Decimal.natural n ++ rest) = some (Decimal.natural n, rest) := by
  have whole := wholePart?_natural n ends
  cases digits : Decimal.natural n with
  | nil => exact absurd digits Nat.toDigits_ne_nil
  | cons first others =>
    have digit : first.isDigit = true :=
      Nat.isDigit_of_mem_toDigits (by decide) (by decide) (digits ▸ List.mem_cons_self)
    have unsigned : first ≠ '-' := by
      rintro rfl
      contradiction
    rw [digits] at whole
    unfold numberLiteral?
    split
    rename_i sign start found
    split at found
    · rename_i same
      exact absurd (List.cons.inj same).1 unsigned
    · cases found
      simp only [whole, fractionPart?_of_ends ends, powerPart?_of_ends ends, Option.bind_eq_bind,
        Option.bind_some, List.nil_append, List.append_nil]

end Numbers

section Values

/-- A value that is written as it is read: nothing in it is garbled, and its numbers are natural. -/
inductive IsPlain : Json → Prop
  | null : IsPlain .null
  | bool (value : Bool) : IsPlain (.bool value)
  | number (n : Nat) : IsPlain (.ofNat n)
  | string (text : String) : IsPlain (.string text)
  | array {items : List Json} (each : ∀ item ∈ items, IsPlain item) : IsPlain (.array items)
  | object {members : List (String × Json)} (each : ∀ member ∈ members, IsPlain member.2) :
      IsPlain (.object members)

/-- No digit is space. -/
theorem not_isSpace_of_isDigit {c : Char} (digit : c.isDigit = true) : isSpace c = false := by
  by_contra space
  simp only [isSpace, Bool.not_eq_false, Bool.or_eq_true, beq_iff_eq] at space
  rcases space with ((rfl | rfl) | rfl) | rfl <;> contradiction

/-- A natural number begins with a digit. -/
theorem exists_natural_eq_cons (n : Nat) :
    ∃ first rest, Decimal.natural n = first :: rest ∧ first.isDigit = true := by
  cases digits : Decimal.natural n with
  | nil => exact absurd digits Nat.toDigits_ne_nil
  | cons first rest =>
    refine ⟨first, rest, rfl, ?_⟩
    exact Nat.isDigit_of_mem_toDigits (by decide) (by decide) (digits ▸ List.mem_cons_self)

/-- The indentation of a line is skipped. -/
theorem skipSpace_lineStart (level : Nat) (rest : List Char) :
    skipSpace (lineStart level ++ rest) = skipSpace rest := by
  have spaces : ∀ c ∈ lineStart level, isSpace c = true := by
    intro c member
    rcases List.mem_cons.1 member with rfl | member
    · rfl
    · rw [(List.mem_replicate.1 member).2]
      rfl
  rw [skipSpace, List.dropWhile_append_of_pos spaces]
  rfl

/-- Where something else stands, no space is skipped. -/
theorem skipSpace_of_not {c : Char} (other : isSpace c = false) (rest : List Char) :
    skipSpace (c :: rest) = c :: rest := List.dropWhile_cons_of_neg (by simpa using other)

/-- Space before a value does not matter. -/
theorem value?_congr {cs other : List Char} (same : skipSpace cs = skipSpace other) (fuel : Nat) :
    value? fuel cs = value? fuel other := by
  cases fuel with
  | zero => rfl
  | succ fuel =>
    rw [value?.eq_def, value?.eq_def]
    dsimp only
    rw [same]

/-- A space before a value is skipped. -/
theorem value?_space (fuel : Nat) (rest : List Char) :
    value? fuel (' ' :: rest) = value? fuel rest := by
  have same : skipSpace (' ' :: rest) = skipSpace rest := rfl
  exact value?_congr same fuel

/-- A natural number is written by its digits. -/
theorem prettyAt_ofNat (level n : Nat) : prettyAt level (.ofNat n) = Decimal.natural n :=
  String.toList_ofList

/-- A value that is written begins with no space, and with no bracket that closes another. -/
theorem exists_prettyAt_eq_cons {value : Json} (plain : value.IsPlain) (level : Nat) :
    ∃ c cs, prettyAt level value = c :: cs ∧ isSpace c = false ∧ c ≠ ']' := by
  cases plain with
  | null => exact ⟨'n', _, rfl, rfl, by decide⟩
  | bool value => cases value <;> exact ⟨_, _, rfl, rfl, by decide⟩
  | number n =>
    obtain ⟨first, rest, digits, digit⟩ := exists_natural_eq_cons n
    rw [prettyAt_ofNat, digits]
    refine ⟨first, rest, rfl, not_isSpace_of_isDigit digit, ?_⟩
    rintro rfl
    contradiction
  | string text => exact ⟨'"', _, rfl, rfl, by decide⟩
  | @array items each =>
    cases items with
    | nil => exact ⟨'[', _, rfl, rfl, by decide⟩
    | cons first rest => exact ⟨'[', _, rfl, rfl, by decide⟩
  | @object members each =>
    cases members with
    | nil => exact ⟨'{', _, rfl, rfl, by decide⟩
    | cons first rest => exact ⟨'{', _, rfl, rfl, by decide⟩

/-- A value is read where it is written, with as many steps as it has characters. -/
def ReadsBack (value : Json) : Prop :=
  ∀ level fuel rest, (prettyAt level value).length ≤ fuel → EndsNumber rest →
    value? fuel (prettyAt level value ++ rest) = some (value, rest)

/-- A text is read back, whatever its characters. -/
theorem readsBack_string (text : String) : ReadsBack (.string text) := by
  intro level fuel rest enough ends
  cases fuel with
  | zero => cases enough
  | succ fuel =>
    have whole : prettyAt level (.string text) ++ rest =
        '"' :: (text.toList.flatMap quotedChar ++ '"' :: rest) :=
      congrArg (List.cons '"') (List.append_assoc _ _ _)
    rw [whole]
    change (quotedText? _).map _ = _
    rw [quotedText?_quoted]
    rfl

/-- A natural number is read back. -/
theorem readsBack_number (n : Nat) : ReadsBack (.ofNat n) := by
  intro level fuel rest enough ends
  have read := numberLiteral?_natural n ends
  obtain ⟨first, others, digits, digit⟩ := exists_natural_eq_cons n
  rw [prettyAt_ofNat, digits] at enough ⊢
  rw [digits] at read
  cases fuel with
  | zero => cases enough
  | succ fuel =>
    have same : skipSpace (first :: others ++ rest) = first :: others ++ rest :=
      List.dropWhile_cons_of_neg (by simpa using not_isSpace_of_isDigit digit)
    rw [value?.eq_def]
    dsimp only
    rw [same]
    -- A number begins with a digit, so that it is no other value.
    split
    case h_7 => rw [read, ofNat, Decimal.naturalText, digits]; rfl
    all_goals
      rename_i same
      rw [(List.cons.inj same).1] at digit
      contradiction

/-- An array that is not empty is read item by item. -/
theorem value?_array {body cs : List Char} {c : Char} (begins : skipSpace body = c :: cs)
    (other : c ≠ ']') (fuel : Nat) : value? (fuel + 1) ('[' :: body) =
      (items? fuel body).map fun part => (.array part.1, part.2) := by
  have opens : skipSpace ('[' :: body) = '[' :: body := rfl
  rw [value?, opens]
  simp only [begins]
  split
  · rename_i same
    exact absurd (List.cons.inj same).1 other
  · rfl

/-- An object that is not empty is read member by member. -/
theorem value?_object {body cs : List Char} (begins : skipSpace body = '"' :: cs) (fuel : Nat) :
    value? (fuel + 1) ('{' :: body) =
      (namedItems? fuel body).map fun part => (ofMembers part.1, part.2) := by
  have opens : skipSpace ('{' :: body) = '{' :: body := rfl
  rw [value?, opens]
  simp only [begins]
  rfl

/-- A comma ends a number. -/
theorem endsNumber_comma (rest : List Char) : EndsNumber (',' :: rest) := by
  rintro c same
  cases same
  decide

/-- The end of a line ends a number. -/
theorem endsNumber_lineStart (level : Nat) (rest : List Char) :
    EndsNumber (lineStart level ++ rest) := by
  rintro c same
  cases same
  decide

section Parts

variable {value : Json} {level fuel : Nat}

/-- A value that reads back does so on a line of its own, and leaves what follows. -/
theorem value?_part (reads : ReadsBack value) (enough : (prettyAt level value).length ≤ fuel)
    {rest : List Char} (ends : EndsNumber rest) :
    value? fuel (lineStart level ++ (prettyAt level value ++ rest)) = some (value, rest) := by
  rw [value?_congr (skipSpace_lineStart level _)]
  exact reads level fuel rest enough ends

/-- The last item of an array. -/
theorem items?_last (reads : ReadsBack value) (enough : (prettyAt level value).length ≤ fuel)
    (outer : Nat) (rest : List Char) :
    items? (fuel + 1) (lineStart level ++ (prettyAt level value ++
      (lineStart outer ++ ']' :: rest))) = some ([value], rest) := by
  change (value? fuel _ >>= _) = _
  rw [value?_part reads enough (endsNumber_lineStart outer _)]
  simp only [Option.bind_eq_bind, Option.bind_some, skipSpace_lineStart]
  rfl

/-- An item of an array with others after it. -/
theorem items?_next (reads : ReadsBack value) (enough : (prettyAt level value).length ≤ fuel)
    (rest : List Char) :
    items? (fuel + 1) (lineStart level ++ (prettyAt level value ++ ',' :: rest)) =
      (items? fuel rest).map fun part => (value :: part.1, part.2) := by
  change (value? fuel _ >>= _) = _
  rw [value?_part reads enough (endsNumber_comma rest)]
  simp only [Option.bind_eq_bind, Option.bind_some,
    skipSpace_of_not (show isSpace ',' = false from rfl)]
  cases items? fuel rest <;> rfl

/-- On a line of its own a quoted text begins with its quotation mark. -/
theorem skipSpace_quoted (level : Nat) (text : String) (rest : List Char) :
    skipSpace (lineStart level ++ (quoted text ++ rest)) =
      '"' :: (text.toList.flatMap quotedChar ++ '"' :: rest) := by
  simp only [quoted, skipSpace_lineStart, List.cons_append, List.append_assoc, List.nil_append]
  rfl

/-- The last member of an object. -/
theorem namedItems?_last (reads : ReadsBack value) (enough : (prettyAt level value).length ≤ fuel)
    (name : String) (outer : Nat) (rest : List Char) :
    namedItems? (fuel + 1) (lineStart level ++ (quoted name ++ ':' :: ' ' ::
      (prettyAt level value ++ (lineStart outer ++ '}' :: rest)))) =
        some ([(some name, value)], rest) := by
  rw [namedItems?.eq_def]
  dsimp only
  rw [skipSpace_quoted]
  simp only [quotedText?_quoted, Option.bind_eq_bind, Option.bind_some,
    skipSpace_of_not (show isSpace ':' = false from rfl),
    value?_space, reads _ _ _ enough (endsNumber_lineStart outer _), skipSpace_lineStart]
  rfl

/-- A member of an object with others after it. -/
theorem namedItems?_next (reads : ReadsBack value) (enough : (prettyAt level value).length ≤ fuel)
    (name : String) (rest : List Char) :
    namedItems? (fuel + 1) (lineStart level ++ (quoted name ++ ':' :: ' ' ::
      (prettyAt level value ++ ',' :: rest))) =
        (namedItems? fuel rest).map fun part => ((some name, value) :: part.1, part.2) := by
  rw [namedItems?.eq_def]
  dsimp only
  rw [skipSpace_quoted]
  simp only [quotedText?_quoted, Option.bind_eq_bind, Option.bind_some,
    skipSpace_of_not (show isSpace ':' = false from rfl),
    skipSpace_of_not (show isSpace ',' = false from rfl),
    value?_space, reads _ _ _ enough (endsNumber_comma rest)]
  cases namedItems? fuel rest <;> rfl

end Parts

/-- The items of an array are read up to its end. -/
theorem items?_prettyItems {first : Json} {others : List Json} (reads : ReadsBack first)
    (each : ∀ item ∈ others, ReadsBack item) (level outer : Nat) {fuel : Nat}
    (enough : (prettyAt level first).length + (prettyItems level others).length < fuel)
    (rest : List Char) :
    items? fuel (lineStart level ++ (prettyAt level first ++ (prettyItems level others ++
      (lineStart outer ++ ']' :: rest)))) = some (first :: others, rest) := by
  obtain ⟨fuel, rfl⟩ := Nat.exists_eq_succ_of_ne_zero (Nat.ne_zero_of_lt enough)
  have fits : (prettyAt level first).length ≤ fuel := by omega
  induction others generalizing first fuel with
  | nil => exact items?_last reads fits outer rest
  | cons next others later =>
    obtain ⟨nextReads, others⟩ := List.forall_mem_cons.1 each
    simp only [prettyItems, List.length_cons, List.length_append, List.cons_append,
      List.append_assoc] at enough ⊢
    obtain ⟨fuel, rfl⟩ := Nat.exists_eq_succ_of_ne_zero (show fuel ≠ 0 by omega)
    rw [items?_next reads fits, later nextReads others fuel (by omega) (by omega)]
    rfl

/-- The members of an object are read up to its end. -/
theorem namedItems?_prettyMembers {name : String} {first : Json} {others : List (String × Json)}
    (reads : ReadsBack first) (each : ∀ member ∈ others, ReadsBack member.2) (level outer : Nat)
    {fuel : Nat}
    (enough : (prettyAt level first).length + (prettyMembers level others).length < fuel)
    (rest : List Char) :
    namedItems? fuel (lineStart level ++ (quoted name ++ ':' :: ' ' :: (prettyAt level first ++
      (prettyMembers level others ++ (lineStart outer ++ '}' :: rest))))) =
        some (((name, first) :: others).map fun member => (some member.1, member.2), rest) := by
  obtain ⟨fuel, rfl⟩ := Nat.exists_eq_succ_of_ne_zero (Nat.ne_zero_of_lt enough)
  have fits : (prettyAt level first).length ≤ fuel := by omega
  induction others generalizing name first fuel with
  | nil => exact namedItems?_last reads fits name outer rest
  | cons next others later =>
    obtain ⟨nextReads, others⟩ := List.forall_mem_cons.1 each
    simp only [prettyMembers, List.length_cons, List.length_append, List.cons_append,
      List.append_assoc, List.nil_append] at enough ⊢
    obtain ⟨fuel, rfl⟩ := Nat.exists_eq_succ_of_ne_zero (show fuel ≠ 0 by omega)
    rw [namedItems?_next reads fits, later nextReads others fuel (by omega) (by omega)]
    rfl

/-- An array is read back if its items are. -/
theorem readsBack_array {items : List Json} (plain : ∀ item ∈ items, item.IsPlain)
    (each : ∀ item ∈ items, ReadsBack item) : ReadsBack (.array items) := by
  intro level fuel rest enough ends
  cases fuel with
  | zero => cases items <;> cases enough
  | succ fuel =>
    cases items with
    | nil => rfl
    | cons first others =>
      simp only [prettyAt, List.length_cons, List.length_append, List.cons_append,
        List.append_assoc, List.nil_append] at enough ⊢
      obtain ⟨c, cs, begins, space, other⟩ :=
        exists_prettyAt_eq_cons (plain first List.mem_cons_self) (level + 1)
      have start (tail : List Char) :
          skipSpace (lineStart (level + 1) ++ (prettyAt (level + 1) first ++ tail)) =
            c :: (cs ++ tail) := by
        rw [skipSpace_lineStart, begins]
        exact skipSpace_of_not space _
      obtain ⟨reads, each⟩ := List.forall_mem_cons.1 each
      rw [value?_array (start _) other,
        items?_prettyItems reads each (level + 1) level (by omega) rest]
      rfl

/-- Members of which all have a name make an object. -/
theorem ofMembers_some (members : List (String × Json)) :
    ofMembers (members.map fun member => (some member.1, member.2)) = .object members := by
  have named : (members.map fun member => (some member.1, member.2)).all
      (fun member => member.1.isSome) = true := by
    simp [List.all_eq_true]
  rw [ofMembers, if_pos named, List.map_map]
  exact congrArg object (List.map_id' members)

/-- An object is read back if its members are. Names are quoted like other texts. -/
theorem readsBack_object {members : List (String × Json)}
    (each : ∀ member ∈ members, ReadsBack member.2) : ReadsBack (.object members) := by
  intro level fuel rest enough ends
  cases fuel with
  | zero => cases members <;> cases enough
  | succ fuel =>
    cases members with
    | nil => rfl
    | cons first others =>
      obtain ⟨name, first⟩ := first
      obtain ⟨reads, each⟩ : ReadsBack first ∧ ∀ member ∈ others, ReadsBack member.2 :=
        List.forall_mem_cons.1 each
      simp only [prettyAt, List.length_cons, List.length_append, List.cons_append,
        List.append_assoc, List.nil_append] at enough ⊢
      rw [value?_object (skipSpace_quoted (level + 1) name _),
        namedItems?_prettyMembers reads each (level + 1) level (by omega) rest, Option.map_some,
        ofMembers_some]

/-- **A plain value is read where it is written.** -/
theorem IsPlain.readsBack {value : Json} (plain : value.IsPlain) : ReadsBack value := by
  induction plain with
  | null =>
    intro level fuel rest enough ends
    cases fuel with
    | zero => cases enough
    | succ fuel => rfl
  | bool value =>
    intro level fuel rest enough ends
    cases fuel with
    | zero => cases value <;> cases enough
    | succ fuel => cases value <;> rfl
  | number n => exact readsBack_number n
  | string text => exact readsBack_string text
  | array plain each => exact readsBack_array plain each
  | object plain each => exact readsBack_object each

/-- **A plain value is read as it was written.** -/
theorem read?_pretty {value : Json} (plain : value.IsPlain) :
    Json.read? value.pretty = some value := by
  have read := plain.readsBack 0 _ [] (Nat.le_succ _) nofun
  rw [List.append_nil] at read
  rw [read?, pretty, String.toList_ofList]
  dsimp only
  rw [read]
  rfl

end Values

section Decoding

variable {α : Type} {encode : α → Json} {decode : Json → Option α}

/-- A list is encoded plainly if its items are. -/
theorem isPlain_ofList {items : List α} (each : ∀ item ∈ items, (encode item).IsPlain) :
    (ofList encode items).IsPlain := .array (List.forall_mem_map.2 each)

/-- What may be there is encoded plainly, also when it is not there. -/
theorem isPlain_ofOption {value : Option α} (each : ∀ item ∈ value, (encode item).IsPlain) :
    (ofOption encode value).IsPlain := by
  cases value with
  | none => exact .null
  | some item => exact each item rfl

/-- A number that fits in a word is decoded as it was encoded. -/
theorem natural?_ofNat {n : Nat} (small : n < wordBound) : natural? (ofNat n) = some n := by
  have digits : ∀ c ∈ Decimal.natural n, c.isDigit = true := fun c member =>
    Nat.isDigit_of_mem_toDigits (by decide) (by decide) member
  have some : Decimal.natural n ≠ [] := by
    obtain ⟨first, rest, same, _⟩ := exists_natural_eq_cons n
    exact same ▸ List.cons_ne_nil first rest
  rw [ofNat, natural?, Decimal.naturalText, String.toList_ofList,
    if_pos (List.all_eq_true.2 digits), Decimal.readNatural?_of_digits digits,
    Decimal.digitsValue_natural, if_neg (by simpa using some)]
  simp [small]

/-- A list is decoded as it was encoded if its items are. -/
theorem list?_ofList {items : List α} (each : ∀ item ∈ items, decode (encode item) = some item) :
    list? decode (ofList encode items) = some items := by
  rw [ofList, list?, List.mapM_map]
  induction items with
  | nil => rfl
  | cons item rest later =>
    obtain ⟨first, each⟩ := List.forall_mem_cons.1 each
    rw [List.mapM_cons, Function.comp_apply, first, later each]
    rfl

/-- What may be there is decoded as it was encoded, if nothing that is there is encoded as null. -/
theorem option?_ofOption {value : Option α}
    (each : ∀ item ∈ value, encode item ≠ .null ∧ decode (encode item) = some item) :
    option? decode (ofOption encode value) = some value := by
  cases value with
  | none => rfl
  | some item =>
    obtain ⟨given, decoded⟩ := each item rfl
    rw [ofOption, option?]
    · rw [decoded]
      rfl
    · exact given

end Decoding

end LectureDeck.Json
