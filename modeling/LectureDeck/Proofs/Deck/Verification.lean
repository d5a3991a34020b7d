import LectureDeck.Proofs.Deck.Slides

/-!
# Verification of published files

Slides are taken from a source only if it agrees with the record of the published file. A source
that was just compiled agrees with its record (`LectureDeck.Compiled.verify_record`), and one that
agrees with a record has the text that was published, unless digests collide
(`LectureDeck.verify_exact`).
-/

namespace LectureDeck

open LectureDeck.Text

namespace SlideTexts

variable {source : List Char} {outline : Outline} {texts : List (List Char)}

/-- Slides have numbers from 1 on. -/
theorem get?_eq_getElem? (tiles : outline.Tiles source texts) {number : Nat}
    (positive : 1 ≤ number) : get? ⟨source, outline.slices⟩ number = texts[number - 1]? := by
  rw [get?, if_neg (by omega), ← List.getElem?_map, tiles.map_text]

/-- An extract is made of the texts from one slide to another. -/
theorem extract_eq_flatten (tiles : outline.Tiles source texts) {first last : Nat}
    (positive : 1 ≤ first) (ordered : first ≤ last) (inside : last ≤ texts.length) :
    extract ⟨source, outline.slices⟩ first last =
      .ok ((texts.drop (first - 1)).take (last + 1 - first)).flatten := by
  have same := tiles.length_slices
  have found : ¬(first = 0 ∨ last < first ∨ outline.slices.length < last) := by omega
  rw [extract, dif_neg found, tiles.start_getElem, tiles.stop_getElem,
    Nat.sub_add_cancel (by omega)]
  have range := byteRange_offsetAt texts (show first - 1 ≤ last by omega)
  rw [tiles.whole] at range
  dsimp only
  rw [range, show last - (first - 1) = last + 1 - first by omega]

/-- All slides make up the source. -/
theorem extract_all (tiles : outline.Tiles source texts) :
    extract ⟨source, outline.slices⟩ 1 outline.slices.length = .ok source := by
  have inhabited := List.length_pos_iff.2 tiles.inhabited
  rw [tiles.length_slices, extract_eq_flatten tiles (Nat.le_refl 1) inhabited (Nat.le_refl _),
    Nat.sub_self, List.drop_zero, Nat.add_sub_cancel, List.take_length, tiles.whole]

/-- The texts from one slide to another are those of the slides between. -/
theorem map_get?_range' (tiles : outline.Tiles source texts) {first last : Nat}
    (positive : 1 ≤ first) (inside : last ≤ texts.length) :
    (List.range' first (last + 1 - first)).map (get? ⟨source, outline.slices⟩) =
      ((texts.drop (first - 1)).take (last + 1 - first)).map some := by
  refine List.ext_getElem (by simp; omega) fun index early late => ?_
  simp only [List.length_map, List.length_range'] at early
  simp only [List.getElem_map, List.getElem_range', List.getElem_take, List.getElem_drop]
  rw [get?_eq_getElem? tiles (by omega), List.getElem?_eq_getElem (by omega)]
  simp only [Nat.one_mul, show first + index - 1 = first - 1 + index by omega]

/-- No other slides are extracted. -/
theorem extract_outOfRange (slides : SlideTexts) {first last : Nat}
    (outside : ¬(1 ≤ first ∧ first ≤ last ∧ last ≤ slides.size)) :
    slides.extract first last = .error (.outOfRange first last slides.size) := by
  have found : first = 0 ∨ last < first ∨ slides.slices.length < last := by
    rw [size] at outside
    omega
  rw [extract, dif_pos found]
  rfl

theorem inside_of_extract {slides : SlideTexts} {first last : Nat} {part : List Char}
    (extracted : slides.extract first last = .ok part) :
    1 ≤ first ∧ first ≤ last ∧ last ≤ slides.size := by
  by_contra outside
  rw [extract_outOfRange slides outside] at extracted
  contradiction

/-- An extract consists of the texts of slices. -/
theorem eq_flatMap_of_extract (tiles : outline.Tiles source texts) {first last : Nat}
    {part : List Char} (extracted : extract ⟨source, outline.slices⟩ first last = .ok part) :
    part = ((outline.slices.take last).drop (first - 1)).flatMap fun slice =>
      slice.text source := by
  obtain ⟨positive, ordered, inside⟩ := inside_of_extract extracted
  have inside : last ≤ texts.length := tiles.length_slices ▸ inside
  rw [extract_eq_flatten tiles positive ordered inside] at extracted
  rw [← Except.ok.inj extracted, List.flatMap_def, List.map_drop, List.map_take, tiles.map_text,
    List.drop_take, show last - (first - 1) = last + 1 - first by omega]

end SlideTexts

theorem Draft.get?_eq_slideText (setting : Setting) {number : Nat} (positive : 1 ≤ number)
    (inside : number ≤ setting.outline.slices.length) :
    SlideTexts.get? ⟨setting.source, setting.outline.slices⟩ number =
      some (Draft.slideText setting number) := by
  have present : number - 1 < setting.outline.slices.length := by omega
  rw [SlideTexts.get?, if_neg (by omega), Draft.slideText, List.getElem?_eq_getElem present,
    Option.map_some]
  rfl

/-- What verification does with a source whose outline is known. -/
theorem verify_of_outline {source : List Char} {outline : Outline}
    (outlined : Outline.ofSource (Source.ofText source).text = .ok outline) (recorded : String)
    (breaks : List Nat) :
    verify source recorded breaks =
      if digest (Source.ofText source).text ≠ recorded then
        .error (.digest recorded (digest (Source.ofText source).text))
      else if outline.slices.length ≠ breaks.length + 1 then
        .error (.slideCount (breaks.length + 1) outline.slices.length)
      else if outline.breaks ≠ breaks then .error (.breaks breaks outline.breaks)
      else .ok ⟨(Source.ofText source).text, outline.slices⟩ := by
  obtain ⟨same, texts, read, tiles⟩ := Outline.exists_tiles (Source.ofText source).text
  rw [outlined] at read
  obtain rfl := Except.ok.inj read
  unfold verify
  dsimp only
  rw [outlined]
  have joined : ¬outline.joined (Source.ofText source).text ≠ (Source.ofText source).text :=
    not_not_intro tiles.joined
  simp only [if_neg joined]

/-- A source agrees with its own digest and its own breaks. -/
theorem verify_same {source : List Char} {outline : Outline}
    (outlined : Outline.ofSource (Source.ofText source).text = .ok outline) :
    verify source (digest (Source.ofText source).text) outline.breaks =
      .ok ⟨(Source.ofText source).text, outline.slices⟩ := by
  obtain ⟨same, texts, read, tiles⟩ := Outline.exists_tiles (Source.ofText source).text
  obtain rfl : same = outline := Except.ok.inj (read.symm.trans outlined)
  have agrees := tiles.length_breaks
  simp only [verify_of_outline outlined, ne_eq, not_true_eq_false, if_false, agrees]

/-- A source is verified if its digest and its breaks are as recorded, and then its slides are those
of its outline. -/
theorem verify_eq_ok_iff {source : List Char} {outline : Outline}
    (outlined : Outline.ofSource (Source.ofText source).text = .ok outline) {recorded : String}
    {breaks : List Nat} {slides : SlideTexts} :
    verify source recorded breaks = .ok slides ↔
      digest (Source.ofText source).text = recorded ∧ outline.breaks = breaks ∧
        slides = ⟨(Source.ofText source).text, outline.slices⟩ := by
  constructor
  · intro verified
    rw [verify_of_outline outlined] at verified
    split at verified
    · contradiction
    · rename_i same
      split at verified
      · contradiction
      · split at verified
        · contradiction
        · rename_i agree
          exact ⟨not_not.1 same, not_not.1 agree, (Except.ok.inj verified).symm⟩
  · rintro ⟨rfl, rfl, rfl⟩
    exact verify_same outlined

/-- What fails to verify differs from its record. -/
theorem verify_ne_error {source : List Char} {recorded : String} {breaks : List Nat}
    {mismatch : Mismatch} (digests : ∀ current, mismatch ≠ .digest recorded current)
    (counts : ∀ current, mismatch ≠ .slideCount (breaks.length + 1) current)
    (places : ∀ current, mismatch ≠ .breaks breaks current) :
    verify source recorded breaks ≠ .error mismatch := by
  obtain ⟨outline, _, outlined, _⟩ := Outline.exists_tiles (Source.ofText source).text
  intro failed
  rw [verify_of_outline outlined] at failed
  split at failed
  · exact digests _ (Except.error.inj failed).symm
  · split at failed
    · exact counts _ (Except.error.inj failed).symm
    · split at failed
      · exact places _ (Except.error.inj failed).symm
      · contradiction

namespace Compiled

variable {W : Type} [Weight W] {environment : Environment} {fileNumber : Nat} {name text : String}
  {compiled : Compiled W}

/-- The record of a compiled file holds the digest of its source, and the places where its slides
begin. -/
theorem record_eq (compiles : compile environment fileNumber name text = .ok compiled)
    {outline : Outline}
    (outlined : Outline.ofSource (Source.ofText text.toList).text = .ok outline) :
    compiled.record.digest = digest (Source.ofText text.toList).text ∧
      compiled.record.breaks = outline.breaks := by
  obtain ⟨setting, draft, reading⟩ := exists_isReadIn compiles
  obtain rfl : outline = setting.outline := Except.ok.inj (outlined.symm.trans reading.outline)
  rw [reading.record]
  exact ⟨rfl, rfl⟩

/-- **A compiled file verifies.** A source that was just compiled agrees with its record. Its slides
are as many as those of the model, and as the lists of images in the record. An extract is made of
the slides from its first to its last one, all slides together are the text that was read, and no
extract goes beyond them. Every question has the digest of its slide. -/
theorem verify_record (compiles : compile environment fileNumber name text = .ok compiled) :
    ∃ slides, compiled.record.verify text.toList = .ok slides ∧
      slides.source = (Source.ofText text.toList).text ∧
      slides.size = compiled.model.slides.length ∧
      slides.size = compiled.record.images.length ∧
      slides.extract 1 slides.size = .ok slides.source ∧
      (∀ first last, 1 ≤ first → first ≤ last → last ≤ slides.size → ∃ parts : List (List Char),
        (List.range' first (last + 1 - first)).map slides.get? = parts.map some ∧
        slides.extract first last = .ok parts.flatten) ∧
      (∀ first last, ¬(1 ≤ first ∧ first ≤ last ∧ last ≤ slides.size) →
        slides.extract first last = .error (.outOfRange first last slides.size)) ∧
      ∀ question ∈ compiled.model.questions, ∃ part,
        slides.get? question.slide = some part ∧ question.digest = digest part := by
  obtain ⟨setting, draft, reading⟩ := exists_isReadIn compiles
  obtain ⟨outline, texts, outlined, tiles⟩ := Outline.exists_tiles (Source.ofText text.toList).text
  obtain rfl : outline = setting.outline := Except.ok.inj (outlined.symm.trans reading.outline)
  have has := hasSlides_of_ofSource (reading.text ▸ outlined) reading.read
  have same := length_slides_of_ofSource (reading.text ▸ outlined) reading.read
  have size := tiles.length_slices
  have positive := List.length_pos_iff.2 tiles.inhabited
  refine ⟨⟨(Source.ofText text.toList).text, setting.outline.slices⟩, ?_, rfl, ?_, ?_, ?_, ?_, ?_,
    ?_⟩
  · rw [Record.verify, (record_eq compiles outlined).1, (record_eq compiles outlined).2]
    exact verify_same outlined
  · rw [reading.model]
    exact same.symm
  · rw [reading.record]
    simp only [recordOf, List.length_map, same]
    rfl
  · exact SlideTexts.extract_all tiles
  · intro first last positive ordered inside
    have inside : last ≤ texts.length := size ▸ inside
    exact ⟨_, SlideTexts.map_get?_range' tiles positive inside,
      SlideTexts.extract_eq_flatten tiles positive ordered inside⟩
  · exact fun first last => SlideTexts.extract_outOfRange _
  · intro question member
    rw [reading.model] at member
    have on := has.questions question member
    have found := Draft.get?_eq_slideText setting on.positive (on.inside.trans_eq same)
    rw [reading.text] at found
    exact ⟨_, found, on.digest⟩

theorem compile_rule :
    compile .plain 1 "a" "---\n" = (ofSource .plain 1 "a" ⟨"---\n".toList, none⟩ :
      Except (CompileError Float) (Compiled Float)) := by
  rw [compile, show Source.ofText "---\n".toList = ⟨"---\n".toList, none⟩ by decide]

theorem verify_record_rule : ∃ compiled : Compiled Float,
    compile .plain 1 "a" "---\n" = .ok compiled ∧ ∃ slides,
      compiled.record.verify "---\n".toList = .ok slides ∧
        slides.extract 1 slides.size = .ok "---\n".toList := by
  obtain ⟨compiled, compiles⟩ := exists_compiled_rule
  rw [← compile_rule] at compiles
  obtain ⟨slides, verified, source, _, _, extracted, _⟩ := verify_record compiles
  have text : (Source.ofText "---\n".toList).text = "---\n".toList := by decide
  rw [source, text] at extracted
  exact ⟨compiled, compiles, slides, verified, extracted⟩

/-- A source agrees with the record of a compiled file if it is read as the same text, unless
digests collide. -/
theorem verify_record_eq_ok_iff (compiles : compile environment fileNumber name text = .ok compiled)
    {outline : Outline} (outlined : Outline.ofSource (Source.ofText text.toList).text = .ok outline)
    {source : List Char}
    (injective : digest (Source.ofText source).text = digest (Source.ofText text.toList).text →
      (Source.ofText source).text = (Source.ofText text.toList).text) {slides : SlideTexts} :
    compiled.record.verify source = .ok slides ↔
      (Source.ofText source).text = (Source.ofText text.toList).text ∧
        slides = ⟨(Source.ofText text.toList).text, outline.slices⟩ := by
  obtain ⟨digests, breaks⟩ := record_eq compiles outlined
  rw [Record.verify, digests, breaks]
  constructor
  · intro verified
    obtain ⟨current, _, read, _⟩ := Outline.exists_tiles (Source.ofText source).text
    obtain ⟨same, _, rfl⟩ := (verify_eq_ok_iff read).1 verified
    have same := injective same
    rw [same, outlined] at read
    rw [same, Except.ok.inj read]
    exact ⟨rfl, rfl⟩
  · rintro ⟨same, rfl⟩
    rw [← same] at outlined ⊢
    exact verify_same outlined

end Compiled

/-- **Verification is exact.** A source is verified if and only if its digest and the places where
its slides begin are as recorded. Otherwise the digest is reported if it differs, else the number of
slides, else the places. What cannot be read and what does not make up the source is never reported.
If digests do not collide, a source agrees with the record of a published file if and only if it has
the text that was published, and an extract is made of the slides that were published. -/
theorem verify_exact {W : Type} [Weight W] (source : List Char) :
    (∀ recorded breaks, ∃ outline, Outline.ofSource (Source.ofText source).text = .ok outline ∧
      ((∃ slides, verify source recorded breaks = .ok slides) ↔
        digest (Source.ofText source).text = recorded ∧ outline.breaks = breaks) ∧
      (digest (Source.ofText source).text ≠ recorded → verify source recorded breaks =
        .error (.digest recorded (digest (Source.ofText source).text))) ∧
      (digest (Source.ofText source).text = recorded →
        outline.slices.length ≠ breaks.length + 1 → verify source recorded breaks =
          .error (.slideCount (breaks.length + 1) outline.slices.length)) ∧
      (digest (Source.ofText source).text = recorded →
        outline.slices.length = breaks.length + 1 → outline.breaks ≠ breaks →
          verify source recorded breaks = .error (.breaks breaks outline.breaks)) ∧
      verify source recorded breaks ≠ .error .reassembly ∧
      ∀ unread, verify source recorded breaks ≠ .error (.unread unread)) ∧
    ∀ (environment : Environment) (fileNumber : Nat) (name published : String)
      (compiled : Compiled W), compile environment fileNumber name published = .ok compiled →
      (digest (Source.ofText source).text = digest (Source.ofText published.toList).text →
        (Source.ofText source).text = (Source.ofText published.toList).text) →
      ∃ outline, Outline.ofSource (Source.ofText published.toList).text = .ok outline ∧
        ((∃ slides, compiled.record.verify source = .ok slides) ↔
          (Source.ofText source).text = (Source.ofText published.toList).text) ∧
        ∀ slides first last part, compiled.record.verify source = .ok slides →
          slides.extract first last = .ok part →
          part = ((outline.slices.take last).drop (first - 1)).flatMap fun slice =>
            slice.text (Source.ofText published.toList).text := by
  obtain ⟨outline, texts, outlined, tiles⟩ := Outline.exists_tiles (Source.ofText source).text
  constructor
  · intro recorded breaks
    refine ⟨outline, outlined, ?_, ?_, ?_, ?_, ?_, ?_⟩
    · constructor
      · rintro ⟨slides, verified⟩
        obtain ⟨same, agree, _⟩ := (verify_eq_ok_iff outlined).1 verified
        exact ⟨same, agree⟩
      · rintro ⟨same, agree⟩
        exact ⟨_, (verify_eq_ok_iff outlined).2 ⟨same, agree, rfl⟩⟩
    · intro other
      rw [verify_of_outline outlined, if_pos other]
    · intro same other
      rw [verify_of_outline outlined, if_neg (not_not_intro same), if_pos other]
    · intro same counted other
      rw [verify_of_outline outlined, if_neg (not_not_intro same), if_neg (not_not_intro counted),
        if_pos other]
    · exact verify_ne_error (by simp) (by simp) (by simp)
    · exact fun unread => verify_ne_error (by simp) (by simp) (by simp)
  · intro environment fileNumber name published compiled compiles injective
    obtain ⟨original, texts, outlinedOriginal, tiles⟩ :=
      Outline.exists_tiles (Source.ofText published.toList).text
    have verified_iff (slides : SlideTexts) : compiled.record.verify source = .ok slides ↔
        (Source.ofText source).text = (Source.ofText published.toList).text ∧
          slides = ⟨(Source.ofText published.toList).text, original.slices⟩ :=
      Compiled.verify_record_eq_ok_iff compiles outlinedOriginal injective
    refine ⟨original, outlinedOriginal, ⟨?_, ?_⟩, ?_⟩
    · rintro ⟨slides, verified⟩
      exact ((verified_iff _).1 verified).1
    · exact fun same => ⟨_, (verified_iff _).2 ⟨same, rfl⟩⟩
    · intro slides first last part verified extracted
      obtain ⟨_, rfl⟩ := (verified_iff _).1 verified
      exact SlideTexts.eq_flatMap_of_extract tiles extracted

theorem verify_exact_rule : ∃ compiled : Compiled Float,
    compile .plain 1 "a" "---\n" = .ok compiled ∧
      verify "---\r\n".toList "" [4] = .error (.digest "" (digest "---\n".toList)) ∧
      verify "---\r\n".toList (digest "---\n".toList) [] = .error (.slideCount 1 2) ∧
      verify "---\r\n".toList (digest "---\n".toList) [3] = .error (.breaks [3] [4]) ∧
      ∃ slides, compiled.record.verify "---\r\n".toList = .ok slides := by
  obtain ⟨compiled, compiles⟩ := Compiled.exists_compiled_rule
  rw [← Compiled.compile_rule] at compiles
  have text : (Source.ofText "---\r\n".toList).text = "---\n".toList := by decide
  have published : (Source.ofText "---\n".toList).text = "---\n".toList := by decide
  obtain ⟨checks, agrees⟩ := @verify_exact Float _ "---\r\n".toList
  refine ⟨compiled, compiles, ?_, ?_, ?_, ?_⟩
  · obtain ⟨_, _, _, other, _⟩ := checks "" [4]
    rw [text] at other
    exact other (by decide +kernel)
  · obtain ⟨outline, read, _, _, other, _⟩ := checks (digest "---\n".toList) []
    rw [text, Compiled.ofSource_rule] at read
    cases read
    exact other (by rw [text]) (by decide)
  · obtain ⟨outline, read, _, _, _, other, _⟩ := checks (digest "---\n".toList) [3]
    rw [text, Compiled.ofSource_rule] at read
    cases read
    exact other (by rw [text]) (by decide) (by decide)
  · obtain ⟨_, _, same, _⟩ := agrees .plain 1 "a" "---\n" compiled compiles
      fun _ => text.trans published.symm
    exact same.2 (text.trans published.symm)

end LectureDeck
