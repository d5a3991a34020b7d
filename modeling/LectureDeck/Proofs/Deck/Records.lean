import LectureDeck.Proofs.Deck.Verification
import LectureDeck.Proofs.Json.Reading
import Mathlib.Data.List.Flatten

/-!
# Stored records

A record is stored as a text, from which it is read as it was (`LectureDeck.Record.read?_print`).
Its numbers have to be words for that, as those of a source are that is not too large
(`LectureDeck.Compiled.fits_record`).
-/

namespace LectureDeck

open LectureDeck.Text

namespace Text

theorem byteSize_le_of_sublist {first second : List Char} (part : first.Sublist second) :
    byteSize first ≤ byteSize second := by
  induction part with
  | slnil => exact Nat.le_refl _
  | cons c _ later =>
    rw [byteSize_cons]
    omega
  | cons_cons c _ later =>
    rw [byteSize_cons, byteSize_cons]
    omega

end Text

theorem Source.byteSize_plainBreaks_le (text : List Char) :
    byteSize (plainBreaks text) ≤ byteSize text := by
  induction text using plainBreaks.induct with
  | case1 => exact Nat.le_refl _
  | case2 rest later =>
    rw [plainBreaks, byteSize_cons, byteSize_cons, byteSize_cons]
    omega
  | case3 c rest other later =>
    rw [plainBreaks, byteSize_cons, byteSize_cons]
    · split
      · rename_i same
        have width : '\n'.utf8Size = c.utf8Size := by
          rw [same]
          rfl
        omega
      · omega
    · exact other

/-- Reading a source leaves things out and adds nothing. -/
theorem Source.byteSize_ofText_le (text : List Char) :
    byteSize (ofText text).text ≤ byteSize text := by
  refine Nat.le_trans (byteSize_le_of_sublist ?_) (byteSize_plainBreaks_le text)
  have kept := (List.filter_sublist (p := fun line => !isAuthorNote line)
    (l := lines (plainBreaks text))).flatten
  rwa [flatten_lines] at kept

/-- Slides begin inside the source. -/
theorem Outline.le_of_mem_breaks {source : List Char} {outline : Outline}
    (outlined : ofSource source = .ok outline) : ∀ offset ∈ outline.breaks,
      offset ≤ byteSize source := by
  obtain ⟨same, texts, read, tiles⟩ := exists_tiles source
  obtain rfl : same = outline := Except.ok.inj (read.symm.trans outlined)
  intro offset member
  obtain ⟨slice, known, rfl⟩ := List.mem_map.1 member
  obtain ⟨index, inside, rfl⟩ := List.getElem_of_mem (List.mem_of_mem_drop known)
  rw [tiles.start_getElem, ← tiles.whole, ← offsetAt_length]
  exact offsetAt_mono texts (by have := tiles.length_slices; omega)

namespace Record

/-- The numbers of a record are words. -/
structure Fits (record : Record) : Prop where
  breaks : ∀ offset ∈ record.breaks, offset < Json.wordBound
  nextImage : record.nextImage < Json.wordBound

theorem isPlain_encode (record : Record) : record.encode.IsPlain := by
  refine .object ?_
  simp only [fieldNames, List.zip_cons_cons, List.zip_nil_left, List.forall_mem_cons]
  refine ⟨.string _, Json.isPlain_ofOption fun _ _ => .string _,
    Json.isPlain_ofList fun _ _ => .number _,
    Json.isPlain_ofList fun _ _ => Json.isPlain_ofList fun _ _ => .string _, .number _, nofun⟩

/-- A record is told by the values of its fields. Only the defaults may be absent. -/
theorem decode?_of_fields? {record : Record} (fits : record.Fits) {value : Json}
    (given : Option Json) {defaults : Option String}
    (told : (given.getD .null).option? Json.string? = some defaults)
    (fields : value.fields? fieldNames = some [some (.string record.digest), given,
      some (.ofList .ofNat record.breaks), some (.ofList (.ofList .string) record.images),
      some (.ofNat record.nextImage)]) :
    decode? value = some { record with defaults := defaults } := by
  have breaks : (Json.ofList .ofNat record.breaks).list? Json.natural? = some record.breaks :=
    Json.list?_ofList fun offset member => Json.natural?_ofNat (fits.breaks offset member)
  have images : (Json.ofList (.ofList .string) record.images).list? (Json.list? Json.string?) =
      some record.images := Json.list?_ofList fun _ _ => Json.list?_ofList fun _ _ => rfl
  have nextImage := Json.natural?_ofNat fits.nextImage
  rw [decode?, fields]
  simp only [Option.bind_eq_bind, Option.bind_some, told, breaks, images, nextImage, Json.string?]

/-- A record is told by its value. -/
theorem decode?_encode {record : Record} (fits : record.Fits) :
    decode? record.encode = some record := by
  have defaults : (Json.ofOption .string record.defaults).option? Json.string? =
      some record.defaults := Json.option?_ofOption fun _ _ => ⟨nofun, rfl⟩
  exact decode?_of_fields? fits (some (.ofOption .string record.defaults)) defaults rfl

/-- **A record is read as it was stored.** -/
theorem read?_print {record : Record} (fits : record.Fits) :
    (Json.read? record.print).bind decode? = some record := by
  rw [print, Json.read?_pretty record.isPlain_encode, Option.bind_some, decode?_encode fits]

end Record

theorem nextImageNumber_lt (images : List (List String)) :
    nextImageNumber images < Json.wordBound := by
  unfold nextImageNumber
  split
  · exact Nat.mod_lt _ (by decide)
  · decide

namespace Compiled

variable {W : Type} [Weight W] {environment : Environment} {fileNumber : Nat} {name text : String}
  {compiled : Compiled W}

/-- The numbers of a record are words if the source is not larger than words count. -/
theorem fits_record (compiles : compile environment fileNumber name text = .ok compiled)
    (small : byteSize text.toList < Json.wordBound) : compiled.record.Fits := by
  obtain ⟨setting, draft, reading⟩ := exists_isReadIn compiles
  rw [reading.record]
  refine ⟨fun offset member => ?_, nextImageNumber_lt _⟩
  have inside := Outline.le_of_mem_breaks reading.outline offset member
  exact Nat.lt_of_le_of_lt (inside.trans (Source.byteSize_ofText_le _)) small

/-- A source that was compiled agrees with the record that was stored. -/
theorem exists_verify_stored (compiles : compile environment fileNumber name text = .ok compiled)
    (small : byteSize text.toList < Json.wordBound) : ∃ record slides,
      (Json.read? compiled.record.print).bind Record.decode? = some record ∧
        record.verify text.toList = .ok slides ∧
        slides.source = (Source.ofText text.toList).text := by
  obtain ⟨outline, _, outlined, _⟩ := Outline.exists_tiles (Source.ofText text.toList).text
  refine ⟨_, ⟨(Source.ofText text.toList).text, outline.slices⟩,
    Record.read?_print (fits_record compiles small), ?_, rfl⟩
  rw [Record.verify, (record_eq compiles outlined).1, (record_eq compiles outlined).2]
  exact verify_same outlined

end Compiled

end LectureDeck
