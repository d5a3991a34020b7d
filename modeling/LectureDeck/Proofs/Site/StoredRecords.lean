import LectureDeck.Proofs.Deck.Records
import LectureDeck.Site.Build

/-!
# Stored records

A record is read back from the text in which it is stored, and from that text without the member for
the defaults as a record without defaults. Either text accepts the sources that the record accepts,
and gives the same slides of them (`LectureDeck.Site.isStored_print`).
-/

namespace LectureDeck

open LectureDeck.Text

/-- A value without the members of a name. -/
def Json.leavingOut (name : String) : Json → Json
  | object members => object (members.filter fun member => member.1 != name)
  | value => value

theorem Json.IsPlain.leavingOut {value : Json} (plain : value.IsPlain) (name : String) :
    (value.leavingOut name).IsPlain := by
  cases plain with
  | object each => exact .object fun member known => each member (List.mem_filter.1 known).1
  | null => exact .null
  | bool value => exact .bool value
  | number n => exact .number n
  | string text => exact .string text
  | array each => exact .array each

/-- A record whose defaults are not told has none. -/
theorem Record.decode?_leavingOut {record : Record} (fits : record.Fits) :
    decode? (record.encode.leavingOut "defaults_text") =
      some { record with defaults := none } :=
  decode?_of_fields? fits none rfl rfl

namespace Site

/-- The text of slides of a source, or of all of them. -/
def Gives (slides : SlideTexts) (range : Option (Nat × Nat)) (found : String) : Prop :=
  match range with
  | none => found = String.ofList slides.source
  | some (first, last) => slides.extract first last = .ok found.toList

/-- A text that is stored is read as a record, and accepts the sources that another record accepts:
where it is kept, the text that is taken from a source is what that record gives. -/
structure IsStored (stored : String) (reading accepting : Record) : Prop where
  read : (Json.read? stored).bind Record.decode? = some reading
  verify : ∀ source, reading.verify source = accepting.verify source
  accepts : ∀ (tree : FileTree) place path text, tree.read? place = some stored →
    tree.read? path = some text → ∀ range found, verifyFile tree path place range = .ok found ↔
      ∃ slides, accepting.verify text.toList = .ok slides ∧ Gives slides range found

section Keeping

variable {tree : FileTree} {path place text stored found : String} {reading : Record}

/-- A source is verified by the record that is read. -/
theorem verifyFile_eq_ok_iff (reads : tree.read? path = some text)
    (keeps : tree.read? place = some stored)
    (decoded : (Json.read? stored).bind Record.decode? = some reading)
    (range : Option (Nat × Nat)) :
    verifyFile tree path place range = .ok found ↔
      ∃ slides, reading.verify text.toList = .ok slides ∧ Gives slides range found := by
  have steps : verifyFile tree path place range =
      (reading.verify text.toList).mapError (Error.mismatch path) >>= fun slides =>
        match range with
        | none => .ok (String.ofList slides.source)
        | some (first, last) => (slides.extract first last).mapError Error.outOfRange >>=
          fun text => .ok (String.ofList text) := by
    rw [verifyFile, readFile, readFile, reads, keeps]
    dsimp only [bind, Except.bind]
    generalize (Json.read? stored).bind Record.decode? = record at decoded ⊢
    subst decoded
    rfl
  rw [steps, bind_eq_ok]
  refine exists_congr fun slides => and_congr mapError_eq_ok ?_
  cases range with
  | none => exact ⟨fun same => (Except.ok.inj same).symm, fun same => congrArg Except.ok same.symm⟩
  | some range =>
    simp only [Gives, bind_eq_ok, mapError_eq_ok, Except.ok.injEq]
    constructor
    · rintro ⟨part, taken, rfl⟩
      rwa [String.toList_ofList]
    · intro taken
      exact ⟨_, taken, String.ofList_toList⟩

theorem IsStored.of_read {accepting : Record}
    (decoded : (Json.read? stored).bind Record.decode? = some reading)
    (same : ∀ source, reading.verify source = accepting.verify source) :
    IsStored stored reading accepting where
  read := decoded
  verify := same
  accepts := fun _ _ _ text keeps reads range _ =>
    same text.toList ▸ verifyFile_eq_ok_iff reads keeps decoded range

end Keeping

/-- **A stored record stands for the record.** The text of a record whose numbers are words is read
as the record, and without the member for the defaults as the record without defaults. Both accept
what the record accepts. -/
theorem isStored_print {record : Record} (fits : record.Fits) :
    IsStored record.print record record ∧
      IsStored (record.encode.leavingOut "defaults_text").pretty
        { record with defaults := none } record := by
  have without := Json.read?_pretty (record.isPlain_encode.leavingOut "defaults_text")
  refine ⟨.of_read (Record.read?_print fits) fun _ => rfl, .of_read ?_ fun _ => rfl⟩
  rw [without, Option.bind_some, Record.decode?_leavingOut fits]

/-- A record with texts that cannot be quoted as they are, empty lists, and the largest word. -/
def oddRecord : Record where
  digest := "\x00\x1f\"\\/\x7f\u2028"
  defaults := some "\x08\t\n\x0c\r \\ud800 𝄞"
  breaks := [18446744073709551615, 0]
  images := [[], ["", "a\"b.png"], []]
  nextImage := 18446744073709551615

/-- An odd record is stored with all its texts. -/
theorem isStored_print_oddRecord : oddRecord.Fits ∧
    IsStored oddRecord.print oddRecord oddRecord ∧
      IsStored (oddRecord.encode.leavingOut "defaults_text").pretty
        { oddRecord with defaults := none } oddRecord := by
  have fits : oddRecord.Fits := ⟨by decide, by decide⟩
  exact ⟨fits, isStored_print fits⟩

end Site

end LectureDeck
