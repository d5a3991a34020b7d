import LectureDeck.Proofs.Decimal.Natural
import LectureDeck.Proofs.Deck.Records
import LectureDeck.Proofs.Outline.Reads
import LectureDeck.Proofs.Page.Pages
import LectureDeck.Proofs.Text.Edges
import LectureDeck.Proofs.Text.Fields
import Mathlib.Order.Bounds.Basic

/-!
# Numbers of images

Images are numbered by the digits at the end of their stems. A record has a number for the next
image, which is one more than the largest number that is a word. So it is fresh if and only if the
number after that of each image is a word, too (`LectureDeck.Compiled.numbersImages_record`).
-/

namespace LectureDeck

open LectureDeck.Text LectureDeck.Decimal

/-- The digits at the end of what stands before the first dot in the name of a file. -/
def endDigits (text : String) : List Char :=
  let name := ((fields '/' text.toList).getLast?).getD []
  let stem := ((fields '.' name).head?).getD []
  (stem.reverse.takeWhile Char.isDigit).reverse

/-- The parts of the path of an image: the directory that it is in, and its name. The stem of the
name is what stands before its first dot, and the digits at its end are told apart from it. -/
structure ImagePath where
  directory : List Char
  stem : List Char
  digits : List Char
  ending : List Char
  directoryEnds : directory = [] ∨ ∃ above, directory = above ++ ['/']
  nameIsPlain : '/' ∉ stem ++ digits ++ ending
  stemIsPlain : '.' ∉ stem
  stemEnds : ∀ c ∈ stem.getLast?, c.isDigit = false
  areDigits : ∀ c ∈ digits, c.isDigit = true
  endingStarts : ending = [] ∨ ∃ more, ending = '.' :: more

namespace ImagePath

def text (path : ImagePath) : String :=
  .ofList (path.directory ++ (path.stem ++ path.digits ++ path.ending))

/-- The number of an image, however many digits it has. -/
def number? (path : ImagePath) : Option Nat :=
  if path.digits.isEmpty then none else some (digitsValue path.digits)

/-- Each path has its parts. -/
theorem exists_text_eq (text : String) : ∃ path : ImagePath, path.text = text := by
  obtain ⟨directory, name, whole, nameIsPlain, directoryEnds⟩ := exists_lastField '/' text.toList
  obtain ⟨start, ending, rfl, startIsPlain, endingStarts⟩ := exists_firstField '.' name
  have parts : dropEndWhile Char.isDigit start ++ (start.reverse.takeWhile Char.isDigit).reverse =
      start := by
    rw [dropEndWhile, ← List.reverse_append, List.takeWhile_append_dropWhile, List.reverse_reverse]
  refine ⟨⟨directory, dropEndWhile Char.isDigit start,
    (start.reverse.takeWhile Char.isDigit).reverse, ending, directoryEnds, ?_, ?_, ?_, ?_,
    endingStarts⟩, ?_⟩
  · rwa [parts]
  · have within : dropEndWhile Char.isDigit start <+: start := dropEndWhile_prefix _ _
    exact fun member => startIsPlain (within.subset member)
  · exact fun c last => of_mem_getLast?_dropEndWhile last
  · exact fun c member => List.mem_takeWhile_imp (List.mem_reverse.1 member)
  · rw [ImagePath.text]
    dsimp only
    rw [parts, ← whole, String.ofList_toList]

variable (path : ImagePath)

theorem not_mem_stem_append : '.' ∉ path.stem ++ path.digits := by
  rw [List.mem_append, not_or]
  exact ⟨path.stemIsPlain, fun member => absurd (path.areDigits _ member) (by decide)⟩

/-- The digits are all that there are at the end of the stem. -/
theorem takeWhile_stem_append :
    ((path.stem ++ path.digits).reverse.takeWhile Char.isDigit).reverse = path.digits := by
  have digits : ∀ c ∈ path.digits.reverse, c.isDigit = true := fun c member =>
    path.areDigits c (List.mem_reverse.1 member)
  have stops : path.stem.reverse.takeWhile Char.isDigit = [] := by
    have stop := path.stemEnds
    rw [← List.head?_reverse] at stop
    cases found : path.stem.reverse with
    | nil => rfl
    | cons c rest =>
      rw [found] at stop
      exact List.takeWhile_cons_of_neg (by simp [stop c rfl])
  rw [List.reverse_append, List.takeWhile_append_of_pos digits, stops, List.append_nil,
    List.reverse_reverse]

/-- The digits at the end of a stem are found in the text. -/
theorem endDigits_text : endDigits path.text = path.digits := by
  have name := getLast?_fields path.nameIsPlain path.directoryEnds
  have stem := head?_fields path.not_mem_stem_append path.endingStarts
  rw [endDigits, text, String.toList_ofList, name, Option.getD_some, stem, Option.getD_some,
    takeWhile_stem_append]

/-- A number that is a word is read. -/
theorem imageNumber?_text : imageNumber? path.text = path.number?.filter (· < Json.wordBound) := by
  have found : imageNumber? path.text = readNatural? Json.wordBound (endDigits path.text) := rfl
  rw [found, endDigits_text, readNatural?_of_digits path.areDigits, number?]
  split
  · rfl
  · rfl

end ImagePath

/-- An image has a number if its stem ends in the digits of the number. -/
def HasNumber (text : String) (number : Nat) : Prop :=
  ∃ path : ImagePath, path.text = text ∧ path.number? = some number

theorem hasNumber_iff {text : String} {number : Nat} : HasNumber text number ↔
    endDigits text ≠ [] ∧ digitsValue (endDigits text) = number := by
  have told (path : ImagePath) : path.number? = some number ↔
      endDigits path.text ≠ [] ∧ digitsValue (endDigits path.text) = number := by
    rw [path.endDigits_text, ImagePath.number?]
    split
    · rename_i empty
      simpa using fun some => absurd (List.isEmpty_iff.1 empty) some
    · rename_i some
      simpa using fun _ => mt List.isEmpty_iff.2 some
  constructor
  · rintro ⟨path, rfl, found⟩
    exact (told path).1 found
  · intro found
    obtain ⟨path, rfl⟩ := ImagePath.exists_text_eq text
    exact ⟨path, rfl, (told path).2 found⟩

instance (text : String) (number : Nat) : Decidable (HasNumber text number) :=
  decidable_of_iff _ hasNumber_iff.symm

theorem imageNumber?_eq_some_iff {text : String} {number : Nat} :
    imageNumber? text = some number ↔ HasNumber text number ∧ number < Json.wordBound := by
  constructor
  · obtain ⟨path, rfl⟩ := ImagePath.exists_text_eq text
    rw [path.imageNumber?_text, Option.filter_eq_some_iff, decide_eq_true_eq]
    exact And.imp_left fun found => ⟨path, rfl, found⟩
  · rintro ⟨⟨path, rfl, found⟩, word⟩
    rw [path.imageNumber?_text, found]
    exact Option.filter_eq_some_iff.2 ⟨rfl, decide_eq_true word⟩

namespace Record

variable {record : Record} {number : Nat}

/-- A number is taken by an image of a record. -/
def IsTaken (record : Record) (number : Nat) : Prop :=
  ∃ text ∈ record.images.flatten, HasNumber text number

/-- The numbers of images that are read are those that are words. -/
theorem mem_filterMap_imageNumber? :
    number ∈ record.images.flatten.filterMap imageNumber? ↔
      record.IsTaken number ∧ number < Json.wordBound := by
  simp only [List.mem_filterMap, imageNumber?_eq_some_iff, IsTaken]
  constructor
  · exact fun ⟨text, member, has, word⟩ => ⟨⟨text, member, has⟩, word⟩
  · exact fun ⟨⟨text, member, has⟩, word⟩ => ⟨text, member, has, word⟩

/-- How the next number is found. -/
inductive IsNext (record : Record) : Nat → Prop where
  | first (none : ∀ number, record.IsTaken number → Json.wordBound ≤ number) : IsNext record 1
  | following (last : Nat) (taken : record.IsTaken last) (word : last + 1 < Json.wordBound)
      (largest : ∀ number, record.IsTaken number → number < Json.wordBound → number ≤ last) :
      IsNext record (last + 1)
  | wrapped (taken : record.IsTaken (Json.wordBound - 1)) : IsNext record 0

theorem isNext_nextImageNumber (record : Record) :
    record.IsNext (nextImageNumber record.images) := by
  unfold nextImageNumber
  split
  · rename_i last found
    obtain ⟨member, largest⟩ := List.max?_eq_some_iff.1 found
    obtain ⟨taken, word⟩ := mem_filterMap_imageNumber?.1 member
    have largest : ∀ number, record.IsTaken number → number < Json.wordBound → number ≤ last :=
      fun number taken word => largest number (mem_filterMap_imageNumber?.2 ⟨taken, word⟩)
    by_cases inside : last + 1 < Json.wordBound
    · rw [Nat.mod_eq_of_lt inside]
      exact .following last taken inside largest
    · have end' : last + 1 = Json.wordBound := by omega
      rw [end', Nat.mod_self]
      obtain rfl : last = Json.wordBound - 1 := by omega
      exact .wrapped taken
  · rename_i none
    rw [List.max?_eq_none_iff] at none
    refine .first fun number taken => Nat.le_of_not_lt fun word => ?_
    have member := mem_filterMap_imageNumber?.2 ⟨taken, word⟩
    rw [none] at member
    contradiction

/-- What the number for the next image is. -/
structure NumbersImages (record : Record) : Prop where
  /-- It is larger than the numbers of all images just if there is a word after each of them. -/
  isFresh_iff : (∀ number, record.IsTaken number → number < record.nextImage) ↔
    ∀ number, record.IsTaken number → number + 1 < Json.wordBound
  /-- After the last word comes zero. -/
  eq_zero_iff : record.nextImage = 0 ↔ record.IsTaken (Json.wordBound - 1)
  /-- Otherwise, it is the least number that comes after all words that are taken. -/
  isLeast : ¬record.IsTaken (Json.wordBound - 1) → IsLeast {next | 0 < next ∧
    ∀ number, record.IsTaken number → number < Json.wordBound → number < next} record.nextImage

theorem IsNext.numbersImages (next : record.IsNext record.nextImage) : record.NumbersImages := by
  have positive : 1 < Json.wordBound := by decide
  have fresh_of_words (words : ∀ number, record.IsTaken number → number + 1 < Json.wordBound) :
      ∀ number, record.IsTaken number → number < record.nextImage := by
    intro number taken
    have word := words number taken
    generalize record.nextImage = found at next
    cases next with
    | first none => exact absurd (none number taken) (by omega)
    | following last _ _ largest => exact Nat.lt_succ_of_le (largest number taken (by omega))
    | wrapped last => exact absurd (words _ last) (by omega)
  have words_of_fresh (fresh : ∀ number, record.IsTaken number → number < record.nextImage) :
      ∀ number, record.IsTaken number → number + 1 < Json.wordBound := by
    intro number taken
    have small := fresh number taken
    generalize record.nextImage = found at next small
    cases next with
    | first none => omega
    | following last _ word _ => omega
    | wrapped last => omega
  refine ⟨⟨words_of_fresh, fresh_of_words⟩, ?_, ?_⟩
  · generalize record.nextImage = found at next
    cases next with
    | first none => simpa using fun taken => absurd (none _ taken) (by omega)
    | following last _ word largest =>
      simpa using fun taken => absurd (largest _ taken (by omega)) (by omega)
    | wrapped taken => simpa using taken
  · intro free
    generalize record.nextImage = found at next
    cases next with
    | first none =>
      refine ⟨⟨Nat.one_pos, fun number taken word => ?_⟩, fun other above => above.1⟩
      exact absurd (none number taken) (by omega)
    | following last taken word largest =>
      refine ⟨⟨Nat.succ_pos last, fun number taken word => ?_⟩, fun other above => ?_⟩
      · exact Nat.lt_succ_of_le (largest number taken word)
      · exact above.2 last taken (by omega)
    | wrapped taken => exact absurd taken free

end Record

namespace Compiled

variable {W : Type} [Weight W] {environment : Environment} {fileNumber : Nat} {name text : String}
  {compiled : Compiled W}

/-- **The number of the next image.** When a file compiles, the number for the next image is larger
than those of all images of the file if and only if each of them is followed by a word. -/
theorem numbersImages_record (compiles : compile environment fileNumber name text = .ok compiled) :
    compiled.record.NumbersImages := by
  obtain ⟨setting, draft, reading⟩ := exists_isReadIn compiles
  apply Record.IsNext.numbersImages
  rw [reading.record]
  exact Record.isNext_nextImageNumber (recordOf _ _ _)

example : nextImageNumber [["a/shot12.png", "fig.svg"], ["shot9.v2.png"]] = 13 := by decide +kernel

/-- An image whose number is not a word. -/
def imageBeyondWords : String := "![](img18446744073709551616.png)\n"

theorem exists_compile_imageBeyondWords : ∃ compiled : Compiled Float,
    compile .plain 1 "a" imageBeyondWords = .ok compiled ∧
      compiled.record.images = [["img18446744073709551616.png"]] := by
  have seen : (read (W := Float) .plain 1 "a"
      (Source.ofText imageBeyondWords.toList)).toOption.any (fun reading =>
        reading.2.model.slides.map Slide.images = [["img18446744073709551616.png"]]) = true := by
    unfold read findSetting
    rw [Outline.ofSource_eq_within 20 (by decide +kernel)]
    decide +kernel
  obtain ⟨reading, compiles, images⟩ := exists_compile_of_any seen
  exact ⟨_, compiles, of_decide_eq_true images⟩

/-- No larger number is found where an image has a number that is not a word. -/
theorem numbersImages_record_beyondWords : ∃ compiled : Compiled Float,
    compile .plain 1 "a" imageBeyondWords = .ok compiled ∧
      compiled.record.IsTaken 18446744073709551616 ∧
      ¬∀ number, compiled.record.IsTaken number → number < compiled.record.nextImage := by
  obtain ⟨compiled, compiles, images⟩ := exists_compile_imageBeyondWords
  have taken : compiled.record.IsTaken 18446744073709551616 :=
    ⟨"img18446744073709551616.png", by simp [images], by decide⟩
  refine ⟨compiled, compiles, taken, fun fresh => ?_⟩
  have word := (numbersImages_record compiles).isFresh_iff.1 fresh _ taken
  exact absurd word (by decide)

/-- An image whose number is not a word is not counted. -/
theorem exists_image_not_counted : ∃ compiled : Compiled Float,
    compile .plain 1 "a" imageBeyondWords = .ok compiled ∧
      compiled.record.images = [["img18446744073709551616.png"]] ∧
      HasNumber "img18446744073709551616.png" 18446744073709551616 ∧
      compiled.record.nextImage = 1 := by
  obtain ⟨compiled, compiles, images⟩ := exists_compile_imageBeyondWords
  obtain ⟨setting, draft, reading⟩ := exists_isReadIn compiles
  refine ⟨compiled, compiles, images, by decide, ?_⟩
  rw [reading.record] at images ⊢
  exact (congrArg nextImageNumber images).trans (by decide)

end Compiled

end LectureDeck
