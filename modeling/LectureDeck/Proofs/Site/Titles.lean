import LectureDeck.Proofs.Outline.Reads
import LectureDeck.Proofs.Page.Copies
import LectureDeck.Proofs.Page.Pages
import LectureDeck.Proofs.Run.Files
import LectureDeck.Site.Build
import Mathlib.Data.List.TakeWhile

/-!
# Titles

What a run copies into its pages stands there as an escape of itself, but for the titles of the
pages of its files: a heading, or a name, is written there as it is, so that it is read back only if
it has no bracket of a tag and no entity (`LectureDeck.Site.isShown_ofFiles`). Other headings are
not (`LectureDeck.Site.exists_title_not_escaped`).
-/

namespace LectureDeck.Site

open LectureDeck.Text LectureDeck.Page

section Titles

variable {title body text : String}

/-- The title of a page is an escape of a text. -/
def Entitles (content text : String) : Prop :=
  ∃ shown body, content = page shown body ∧ IsEscapeOf shown text

/-- The title of a page is followed by a tag. -/
theorem exists_toList_page : ∃ start stop : List Char, ∀ title body : String,
    ∃ rest, (page title body).toList = start ++ (title.toList ++ '<' :: (stop ++ rest)) := by
  refine ⟨"<!DOCTYPE html>\n<html>\n<head>\n<meta charset=\"utf-8\">\n<title>".toList,
    "/title>\n</head>\n<body>\n".toList, fun title body =>
      ⟨body.toList ++ "</body>\n</html>\n".toList, ?_⟩⟩
  unfold page
  simp only [String.toList_append, List.append_assoc]
  rfl

theorem takeWhile_append_opening (cs rest : List Char) :
    (cs ++ '<' :: rest).takeWhile (· != '<') = cs.takeWhile (· != '<') := by
  induction cs with
  | nil => rfl
  | cons c cs later => rw [List.cons_append, List.takeWhile_cons, List.takeWhile_cons, later]

/-- A title without brackets of tags is what stands before the first of them. -/
theorem takeWhile_of_page_eq {shown other : String} (same : page title body = page shown other)
    (noOpening : '<' ∉ shown.toList) : shown.toList = title.toList.takeWhile (· != '<') := by
  obtain ⟨start, stop, pages⟩ := exists_toList_page
  obtain ⟨rest, written⟩ := pages title body
  obtain ⟨others, alsoWritten⟩ := pages shown other
  rw [same, alsoWritten] at written
  have whole := congrArg (List.takeWhile (· != '<')) (List.append_cancel_left written)
  have every : ∀ c ∈ shown.toList, (c != '<') = true := fun c member =>
    bne_iff_ne.2 fun isOpening => noOpening (isOpening ▸ member)
  rwa [takeWhile_append_opening, takeWhile_append_opening, List.takeWhile_eq_self_iff.2 every]
    at whole

/-- **A title is an escape of its text just if the text has no bracket of a tag and no entity.** -/
theorem entitles_page_iff : Entitles (page title body) title ↔
    '<' ∉ title.toList ∧ '>' ∉ title.toList ∧ ∀ entity ∈ entities, ¬entity <:+: title.toList := by
  rw [← isEscapeOf_self_iff]
  constructor
  · rintro ⟨shown, other, same, escapes⟩
    have start := takeWhile_of_page_eq same escapes.noOpening
    have begins : shown.toList <+: title.toList := start ▸ List.takeWhile_prefix _
    -- What is read is no longer than what is shown, so nothing was left out.
    have short := length_unescape_le shown.toList
    rw [escapes.reads] at short
    rw [String.toList_inj.1 (begins.eq_of_length_le short)] at escapes
    exact escapes
  · exact fun escapes => ⟨title, body, rfl, escapes⟩

end Titles

section Shown

/-- What the pages of a run show of the headings and names in it. -/
structure IsShown (target : String) (options : Options) (run : Run Float) : Prop where
  /-- On the pages for the run as a whole, each copy is an escape of its text. In tags there are
  constant words, and addresses and identifiers of the page. -/
  pages : List.Forall₂ (fun artifact shown => ∃ body, artifact.content = page shown.1 body ∧
      Shows shown.2.1 body shown.2.2) (runArtifacts target options run)
    [("Concept index", run.concepts.places options.siteUrl, run.concepts.copies),
      ("Question concepts", run.questionConcepts.places options.siteUrl,
        run.questionConcepts.copies),
      ("Contents", run.contentsPlaces options, run.contentsCopies),
      ("Cross-reference", run.referencePlaces options, run.referenceCopies)]
  /-- The page of a file has its heading, or its name, for a title, which is an escape of it only
  if it is plain. -/
  titles : ∀ file ∈ run.files, ∃ content others,
    fileArtifacts target file = ⟨join target (file.name ++ ".html"), content⟩ :: others ∧
      (Entitles content (file.model.header.getD file.name) ↔
        '<' ∉ (file.model.header.getD file.name).toList ∧
          '>' ∉ (file.model.header.getD file.name).toList ∧
          ∀ entity ∈ entities, ¬entity <:+: (file.model.header.getD file.name).toList)

/-- **Headings and names are escaped on the pages of a run, but not in the titles of its files.** -/
theorem isShown_ofFiles (target : String) (options : Options) (files : List (Compiled Float)) :
    IsShown target options (Run.ofFiles options files) where
  pages := by
    have marked := SubquestionReport.isMarked_ofQuestions (Run.conceptIndex files).questions
    refine .cons ⟨_, rfl, ?_⟩ (.cons ⟨_, rfl, ?_⟩ (.cons ⟨_, rfl, ?_⟩ (.cons ⟨_, rfl, ?_⟩ .nil)))
    · exact shows_index options.siteUrl _
    · exact shows_index options.siteUrl _
    · exact shows_contents options _
    · exact shows_crossReferences options marked
  titles := fun _ _ => ⟨_, _, rfl, entitles_page_iff⟩

/-- A lecture whose heading closes the title of its page. -/
def titledLecture : SourceFile := ⟨"x.md", "# a </title> b\n"⟩

theorem exists_compile_titledLecture : ∃ file : Compiled Float,
    compile .plain 1 "x" "# a </title> b\n" = .ok file ∧
      file.model.header = some "a </title> b" ∧ file.name = "x" := by
  have seen : (Compiled.read (W := Float) .plain 1 "x"
      (Source.ofText "# a </title> b\n".toList)).toOption.any
        (fun reading => reading.2.model.header == some "a </title> b") = true := by
    unfold Compiled.read Compiled.findSetting
    rw [Outline.ofSource_eq_within 20 (by decide +kernel)]
    decide +kernel
  obtain ⟨reading, compiles, same⟩ := Compiled.exists_compile_of_any seen
  exact ⟨_, compiles, beq_iff_eq.1 same, rfl⟩

/-- A heading that closes the title of its page is not escaped there. -/
theorem exists_title_not_escaped : ∃ run, compileSite {} [titledLecture] = .ok run ∧
    ∃ file ∈ run.files, file.model.header = some "a </title> b" ∧ ∃ content others,
      fileArtifacts "out" file = ⟨"out/x.html", content⟩ :: others ∧
        ¬Entitles content "a </title> b" := by
  obtain ⟨file, compiles, header, name⟩ := exists_compile_titledLecture
  have stemmed : stem "x.md" = "x" := by decide +kernel
  have path : join "out" ("x" ++ ".html") = "out/x.html" := by decide +kernel
  have compiled : compileSite {} [titledLecture] =
      .ok (Run.ofFiles Environment.plain.options [file]) := by
    simp only [compileSite, bind_eq_ok, mapError_eq_ok]
    refine ⟨.plain, rfl, Run.ofSources_eq_ok_iff.2 ⟨_, ?_, rfl⟩⟩
    simp only [titledLecture, Run.compileFiles, SourceFile.name, bind_eq_ok, pure_eq_ok, stemmed]
    exact ⟨file, compiles, [], rfl, rfl⟩
  have written : ∃ others, fileArtifacts "out" file =
      ⟨"out/x.html", page "a </title> b" file.page⟩ :: others := by
    refine ⟨_, congrArg (· :: _) ?_⟩
    dsimp only
    rw [name, header, path, Option.getD_some]
  obtain ⟨others, written⟩ := written
  refine ⟨_, compiled, file, List.mem_singleton_self file, header, _, others, written, ?_⟩
  rw [entitles_page_iff]
  decide +kernel

end Shown

end LectureDeck.Site
