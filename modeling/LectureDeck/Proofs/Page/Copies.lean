import LectureDeck.Page.Contents
import LectureDeck.Proofs.Text.Entity
import Mathlib.Data.List.Forall2

/-!
# Copies on the pages of a run

The pages for a run as a whole are made of tags, of constant words and numbers, of letters in
elements of their own, and of texts that are copied: headings, names, tags and warnings. In a tag
stand constant words too, and the places of the page: the addresses that its links lead to, and
identifiers. Whatever is copied stands outside of tags, as an escape of itself
(`LectureDeck.shows_contents`, `LectureDeck.shows_index`, `LectureDeck.shows_crossReferences`).
-/

namespace LectureDeck

open LectureDeck.Text

namespace Page

/-- The elements on the pages of a run. -/
inductive ElementName where
  | a | b | blockquote | br | div | h3 | li | ol | p | pre | sup | ul
deriving DecidableEq, Repr

inductive AttributeName where
  | href | id | classes | style | target
deriving DecidableEq, Repr

@[simp]
def ElementName.text : ElementName → String
  | a => "a"
  | b => "b"
  | blockquote => "blockquote"
  | br => "br"
  | div => "div"
  | h3 => "h3"
  | li => "li"
  | ol => "ol"
  | p => "p"
  | pre => "pre"
  | sup => "sup"
  | ul => "ul"

@[simp]
def AttributeName.text : AttributeName → String
  | href => "href"
  | id => "id"
  | classes => "class"
  | style => "style"
  | target => "target"

/-- The values of attributes that are the same on the pages of every run. -/
inductive AttributeWord where
  | headerLink | contents | index | indexList | indexSpacer | subquestions | unmarked | beside
deriving DecidableEq, Repr

@[simp]
def AttributeWord.text : AttributeWord → String
  | headerLink => "header-link"
  | contents => "slidoc-toc-container"
  | index => "slidoc-index"
  | indexList => "slidoc-index-list"
  | indexSpacer => "slidoc-index-spacer"
  | subquestions => "slidoc-subquestions"
  | unmarked => "list-style-type: none;"
  | beside => "_blank"

/-- The value of an attribute: a constant word, or a place, which is an address or a name by which a
part of the page is found. -/
inductive AttributeValue where
  | word (constant : AttributeWord)
  | place (text : String)
deriving DecidableEq, Repr

@[simp]
def AttributeValue.text : AttributeValue → String
  | word constant => constant.text
  | place text => text

@[simp]
def AttributeValue.place? : AttributeValue → Option String
  | word _ => none
  | place text => some text

@[simp]
def openTag (element : ElementName) (attributes : List (AttributeName × AttributeValue)) :
    List Char :=
  '<' :: element.text.toList ++
    attributes.flatMap (fun (name, value) =>
      ' ' :: name.text.toList ++ "=\"".toList ++ value.text.toList ++ ['"']) ++ ['>']

@[simp]
def closeTag (element : ElementName) : List Char := "</".toList ++ element.text.toList ++ ['>']

/-- What the pages of every run say. -/
inductive Wording where
  | lineBreak | colon | comma | semicolon | question | star | space | spaces
  | index | back | references | mapping | coverage | subquestions | address | marks | shared
deriving DecidableEq, Repr

@[simp]
def Wording.text : Wording → String
  | lineBreak => "\n"
  | colon => ": "
  | comma => ", "
  | semicolon => "; "
  | question => ".Q"
  | star => "*"
  | space => "&nbsp;"
  | spaces => "&nbsp;&nbsp;"
  | index => "INDEX"
  | back => "BACK TO CONTENTS"
  | references => "Concepts cross-reference"
  | mapping => "Concepts -> files mapping:"
  | coverage => "Primary concepts covered in each file:"
  | subquestions => "CONCEPT SUB-QUESTIONS"
  | address => "Sub-questions address a subset of the original question's "
  | marks =>
    "concepts. (*) marks a variant covering the same concepts; a number gives how many concepts "
  | shared => "are shared."

/-- A part of a page that is not copied from elsewhere. A letter is an element of its own, so that
letters do not make words. -/
inductive Token where
  | opening (element : ElementName) (attributes : List (AttributeName × AttributeValue))
  | closing (element : ElementName)
  | wording (constant : Wording)
  | numeral (number : Nat)
  | letter (element : ElementName) (attributes : List (AttributeName × AttributeValue))
      (initial : Char)

@[simp]
def Token.chars : Token → List Char
  | opening element attributes => openTag element attributes
  | closing element => closeTag element
  | wording constant => constant.text.toList
  | numeral number => (Decimal.naturalText number).toList
  | letter element attributes initial =>
    openTag element attributes ++ (String.singleton initial).toList ++ closeTag element

/-- The places that stand in the tags of a part. -/
@[simp]
def Token.places : Token → List String
  | opening _ attributes => attributes.filterMap fun (_, value) => value.place?
  | letter _ attributes _ => attributes.filterMap fun (_, value) => value.place?
  | closing _ => []
  | wording _ => []
  | numeral _ => []

/-- A part of a page that has some places, with the texts that are copied into it, each as an escape
of itself. Nothing else is in it: tags hold constant words and places of the page only. -/
inductive Shows (places : List String) : String → List String → Prop
  | nothing : Shows places "" []
  | token (token : Token) {start rest : String} (written : start.toList = token.chars)
      (known : token.places ⊆ places) {copies : List String} (later : Shows places rest copies) :
      Shows places (start ++ rest) copies
  | copy {shown text : String} (escapes : IsEscapeOf shown text) {rest : String}
      {copies : List String} (later : Shows places rest copies) :
      Shows places (shown ++ rest) (text :: copies)

namespace Shows

variable {α : Type} {places : List String} {text other : String} {copies further : List String}

/-- Two markups one after the other show the copies of both, in order. -/
theorem append (first : Shows places text copies) (second : Shows places other further) :
    Shows places (text ++ other) (copies ++ further) := by
  induction first with
  | nothing => rwa [String.empty_append]
  | token token written known _ later =>
    rw [String.append_assoc]
    exact .token token written known later
  | copy escapes _ later =>
    rw [String.append_assoc]
    exact .copy escapes later

/-- What shows no copies may stand before what does. -/
theorem precedes (first : Shows places text []) (second : Shows places other further) :
    Shows places (text ++ other) further := first.append second

/-- What shows no copies may stand behind what does. -/
theorem followedBy (first : Shows places text copies) (second : Shows places other []) :
    Shows places (text ++ other) copies := by
  rw [← List.append_nil copies]
  exact first.append second

/-- What is not copied shows no copies. -/
theorem of_tokens (tokens : List Token) (written : text.toList = tokens.flatMap Token.chars)
    (known : tokens.flatMap Token.places ⊆ places) : Shows places text [] := by
  induction tokens generalizing text with
  | nil =>
    have empty : text = "" := String.toList_inj.1 written
    exact empty ▸ .nothing
  | cons token tokens later =>
    have whole :
        text = String.ofList token.chars ++ String.ofList (tokens.flatMap Token.chars) := by
      apply String.toList_inj.1
      rw [String.toList_append, String.toList_ofList, String.toList_ofList, written,
        List.flatMap_cons]
    obtain ⟨here, rest⟩ := List.append_subset.1 (List.flatMap_cons ▸ known)
    rw [whole]
    exact .token token String.toList_ofList here (later String.toList_ofList rest)

/-- Tags without places are on every page. -/
theorem of_constants (tokens : List Token) (written : text.toList = tokens.flatMap Token.chars)
    (none : tokens.flatMap Token.places = []) : Shows places text [] :=
  of_tokens tokens written (none ▸ List.nil_subset places)

/-- A token without places in it shows no copies. -/
theorem of_token (token : Token) (written : text.toList = token.chars)
    (none : token.places = []) : Shows places text [] := by
  rw [← @String.append_empty text]
  exact .token token written (none ▸ List.nil_subset places) .nothing

/-- A text is copied as what it is escaped to. -/
theorem of_escape (text : String) : Shows places (escape text) [text] := by
  rw [← @String.append_empty (escape text)]
  exact .copy (isEscapeOf_escape text) .nothing

/-- Markups that are joined show the copies of each. -/
theorem join {texts : List String} {copies : List (List String)}
    (each : List.Forall₂ (Shows places) texts copies) :
    Shows places (String.join texts) copies.flatten := by
  induction each with
  | nil => exact .nothing
  | cons first _ later =>
    rw [String.join_cons, List.flatten_cons]
    exact first.append later

/-- Constant words may stand between markups. -/
theorem intercalate (separator : Wording) {texts : List String} {copies : List (List String)}
    (each : List.Forall₂ (Shows places) texts copies) :
    Shows places (String.intercalate separator.text texts) copies.flatten := by
  induction each with
  | nil => exact .nothing
  | @cons text copies texts others first rest later =>
    rw [List.flatten_cons]
    cases texts with
    | nil =>
      cases rest
      rw [String.intercalate_singleton, List.flatten_nil, List.append_nil]
      exact first
    | cons next texts =>
      rw [String.intercalate_cons_cons, String.append_assoc]
      exact first.append (.token (.wording separator) rfl (List.nil_subset places) later)

variable {write : α → String} {copied : α → List String} {items : List α}

/-- If each item shows what is copied of it, then so do the items, one by one. -/
theorem map (each : ∀ item ∈ items, Shows places (write item) (copied item)) :
    List.Forall₂ (Shows places) (items.map write) (items.map copied) := by
  rw [List.forall₂_map_left_iff, List.forall₂_map_right_iff, List.forall₂_same]
  exact each

/-- The markups of items that are joined show what is copied of the items. -/
theorem join_map (each : ∀ item ∈ items, Shows places (write item) (copied item)) :
    Shows places (String.join (items.map write)) (items.flatMap copied) :=
  List.flatMap_def ▸ join (map each)

/-- Constant words may stand between the markups of items. -/
theorem intercalate_map (separator : Wording)
    (each : ∀ item ∈ items, Shows places (write item) (copied item)) :
    Shows places (String.intercalate separator.text (items.map write)) (items.flatMap copied) :=
  List.flatMap_def ▸ intercalate separator (map each)

/-- How an item is written may depend on its position, if what is copied of it does not. -/
theorem join_mapIdx {write : Nat → α → String} {items : List α}
    (each : ∀ position, ∀ item ∈ items, Shows places (write position item) (copied item)) :
    Shows places (String.join (items.mapIdx write)) (items.flatMap copied) := by
  induction items generalizing write with
  | nil => exact .nothing
  | cons item items later =>
    rw [List.mapIdx_cons, String.join_cons, List.flatMap_cons]
    exact (each 0 item List.mem_cons_self).append
      (later fun position other member => each (position + 1) other (List.mem_cons_of_mem _ member))

/-- The end of an item is constant. -/
theorem itemEnd : Shows places "</li>\n" [] :=
  of_constants [.closing .li, .wording .lineBreak] (by simp) rfl

/-- The end of a list is constant. -/
theorem listEnd : Shows places "</ul>\n" [] :=
  of_constants [.closing .ul, .wording .lineBreak] (by simp) rfl

/-- The end of a division is constant. -/
theorem divisionEnd : Shows places "</div>\n" [] :=
  of_constants [.closing .div, .wording .lineBreak] (by simp) rfl

/-- What stands between a label and what it labels. -/
theorem labelEnd : Shows places "</b>: " [] :=
  of_constants [.closing .b, .wording .colon] (by simp) rfl

end Shows

end Page

open Page

variable {allowed : List String}

/-- The places of an item are among those of all items. -/
theorem subset_of_flatMap_subset {α : Type} {items : List α} {placed : α → List String}
    (known : items.flatMap placed ⊆ allowed) {item : α} (member : item ∈ items) :
    placed item ⊆ allowed :=
  fun _ inside => known (List.mem_flatMap.2 ⟨item, member, inside⟩)

section Contents

variable {W : Type}

/-- The places in the list of the sections of a file: its own name, and the address of each
section. -/
def FileModel.places (model : FileModel W) (url : String) : List String :=
  ("slidoc-toc " ++ model.chapterId ++ "-toc") :: model.sections.map fun entry =>
    url ++ "#" ++ entry.1

/-- A heading in the contents, as a link. -/
theorem shows_sectionEntry {url : String} {entry : String × String}
    (known : url ++ "#" ++ entry.1 ∈ allowed) :
    Shows allowed (sectionEntry url entry) [entry.2] := by
  have opens : Shows allowed
      ("<li><a class=\"header-link\" href=\"" ++ url ++ "#" ++ entry.1 ++ "\">") [] := by
    exact .of_tokens [.opening .li [], .opening .a [(.classes, .word .headerLink),
      (.href, .place (url ++ "#" ++ entry.1))]] (by simp) (by simpa using known)
  have closes : Shows allowed "</a></li>\n" [] :=
    .of_constants [.closing .a, .closing .li, .wording .lineBreak] (by simp) rfl
  exact (opens.precedes (.of_escape entry.2)).followedBy closes

/-- The beginning of the list of the sections of a file. -/
theorem shows_listOpening (numbered : Bool) {chapterId : String}
    (known : "slidoc-toc " ++ chapterId ++ "-toc" ∈ allowed) :
    Shows allowed ((if numbered then "<ol" else "<ul style=\"list-style-type: none;\"") ++
      " class=\"slidoc-toc " ++ chapterId ++ "-toc\">\n") [] := by
  cases numbered with
  | true =>
    exact .of_tokens [.opening .ol [(.classes, .place ("slidoc-toc " ++ chapterId ++ "-toc"))],
      .wording .lineBreak] (by simp) (by simpa using known)
  | false =>
    exact .of_tokens [.opening .ul [(.style, .word .unmarked),
      (.classes, .place ("slidoc-toc " ++ chapterId ++ "-toc"))], .wording .lineBreak] (by simp)
      (by simpa using known)

/-- The end of a list of files is constant, numbered or not. -/
theorem shows_listClosing (numbered : Bool) : Shows allowed (Run.listClosing numbered) [] := by
  unfold Run.listClosing
  split
  · exact .of_constants [.closing .ol, .wording .lineBreak] (by simp) rfl
  · exact .listEnd

/-- The sections of a file are shown by their titles. The classes and the addresses of the list are
places of the page. -/
theorem shows_sections {model : FileModel W} {url : String} (known : model.places url ⊆ allowed)
    (numbered : Bool) :
    Shows allowed (model.contents url numbered) (model.sections.map Prod.snd) := by
  obtain ⟨name, addresses⟩ := List.cons_subset.1 known
  unfold FileModel.contents
  split
  · rename_i none
    rw [List.isEmpty_iff.1 none]
    exact .nothing
  · have entries : Shows allowed (String.join (model.sections.map (sectionEntry url)))
        (model.sections.map Prod.snd) := by
      rw [@List.map_eq_flatMap _ _ Prod.snd]
      exact .join_map fun entry member =>
        shows_sectionEntry (addresses (List.mem_map_of_mem member))
    exact ((shows_listOpening numbered name).precedes entries).followedBy
      (shows_listClosing numbered)

/-- The texts that are copied into the contents: for each file its heading, or its name, and the
headings of its sections. -/
def Run.contentsCopies (run : Run W) : List String :=
  run.files.flatMap fun file => file.model.header.getD file.name :: file.model.sections.map Prod.snd

/-- The places in the line of a file: the address of its page, and those of its sections. -/
def Run.linePlaces (site : String) (file : Compiled W) : List String :=
  (site ++ file.name ++ ".html" ++ "#" ++ file.model.chapterId) ::
    file.model.places (site ++ file.name ++ ".html")

/-- The places in the contents: the address of the concept index, and those of the files. -/
def Run.contentsPlaces (options : Options) (run : Run W) : List String :=
  (options.siteUrl ++ options.indexFile ++ "#" ++ run.concepts.indexId) ::
    run.files.flatMap (linePlaces options.siteUrl)

/-- A line of contents shows the header of a file, or its name, and the titles of its sections. -/
theorem shows_contentsLine {site : String} (numbered : Bool) {file : Compiled W}
    (known : Run.linePlaces site file ⊆ allowed) :
    Shows allowed (Run.contentsLine site numbered file)
      (file.model.header.getD file.name :: file.model.sections.map Prod.snd) := by
  obtain ⟨address, inner⟩ := List.cons_subset.1 known
  have opens : Shows allowed ("<li><a href=\"" ++ (site ++ file.name ++ ".html") ++ "#" ++
      file.model.chapterId ++ "\"><b>") [] := by
    exact .of_tokens [.opening .li [], .opening .a [(.href, .place
      (site ++ file.name ++ ".html" ++ "#" ++ file.model.chapterId))], .opening .b []] (by simp)
      (by simpa using address)
  have ends : Shows allowed "</b></a>\n" [] :=
    .of_constants [.closing .b, .closing .a, .wording .lineBreak] (by simp) rfl
  have sections := shows_sections inner numbered
  exact (((opens.precedes (.of_escape (file.model.header.getD file.name))).followedBy ends).append
    sections).followedBy .itemEnd

/-- The link to an index copies nothing: its words are constant. -/
theorem shows_indexLink {options : Options} {index : IndexView}
    (known : options.siteUrl ++ options.indexFile ++ "#" ++ index.indexId ∈ allowed) :
    Shows allowed (Run.indexLink options index) [] := by
  unfold Run.indexLink
  split
  · exact .nothing
  · exact .of_tokens [.opening .a [(.href, .place (options.siteUrl ++ options.indexFile ++ "#" ++
      index.indexId))], .wording .index, .closing .a, .opening .p [], .closing .p,
      .wording .lineBreak] (by simp) (by simpa using known)

/-- **The contents show headings and names as escapes of themselves.** -/
theorem shows_contents (options : Options) (run : Run W) :
    Shows (run.contentsPlaces options) (run.contents options) run.contentsCopies := by
  obtain ⟨index, files⟩ := List.cons_subset.1 (List.Subset.refl (run.contentsPlaces options))
  have opens : Shows (run.contentsPlaces options) "<div class=\"slidoc-toc-container\">\n" [] :=
    .of_constants [.opening .div [(.classes, .word .contents)], .wording .lineBreak] rfl rfl
  have list : Shows (run.contentsPlaces options) (Run.listOpening !options.strip.sections) [] := by
    unfold Run.listOpening
    split
    · exact .of_constants [.opening .ol [], .wording .lineBreak] (by simp) rfl
    · exact .of_constants [.opening .ul [(.style, .word .unmarked)], .wording .lineBreak]
        (by simp) rfl
  have lines : Shows (run.contentsPlaces options) (String.join (run.files.map
      (Run.contentsLine options.siteUrl !options.strip.sections))) run.contentsCopies :=
    .join_map fun file member => shows_contentsLine _ (subset_of_flatMap_subset files member)
  exact ((((opens.precedes (shows_indexLink index)).precedes list).precedes
    lines).followedBy (shows_listClosing !options.strip.sections)).followedBy .divisionEnd

end Contents

section Index

/-- The texts that are copied into an index: the tag of each entry and the headings of the slides
that it links to. -/
def IndexView.copies (view : IndexView) : List String :=
  view.entries.flatMap fun entry =>
    entry.label :: entry.links.map fun link => orElse link.place.header "slide"

/-- The address of the slide that a link of an index leads to. -/
def IndexLink.address (site : String) (link : IndexLink) : String :=
  site ++ link.file ++ ".html" ++ link.query.getD "" ++ "#" ++ link.place.slideId

/-- The identifier of the group of a letter. -/
def IndexEntry.letterId (indexId : String) (letter : Char) : String :=
  indexId ++ "-letter-" ++ String.singleton letter

/-- The places in an entry: the group that it begins, its own identifier, and where it links to. -/
def IndexEntry.places (site indexId : String) (entry : IndexEntry) : List String :=
  entry.letter.toList.map (letterId indexId) ++ entry.id :: entry.links.map (IndexLink.address site)

/-- The places in an index: its identifier, the addresses of its letters, and those in entries. -/
def IndexView.places (site : String) (view : IndexView) : List String :=
  view.indexId :: view.letters.map (fun letter => "#" ++ IndexEntry.letterId view.indexId letter) ++
    view.entries.flatMap (IndexEntry.places site view.indexId)

/-- A link of an index shows the header of its slide, or a constant word where there is none. -/
theorem shows_link {site : String} {link : IndexLink} (known : link.address site ∈ allowed) :
    Shows allowed (link.markup site) [orElse link.place.header "slide"] := by
  have opens : Shows allowed ("<a href=\"" ++ site ++ link.file ++ ".html" ++ link.query.getD "" ++
      "#" ++ link.place.slideId ++ "\" target=\"_blank\">") [] := by
    exact .of_tokens [.opening .a [(.href, .place (link.address site)), (.target, .word .beside)]]
      (by simp [IndexLink.address]) (by simpa using known)
  have header : Shows allowed (if link.primary
        then "<b>" ++ escape (orElse link.place.header "slide") ++ "</b>"
        else escape (orElse link.place.header "slide"))
      [orElse link.place.header "slide"] := by
    have bold : Shows allowed "<b>" [] := .of_token (.opening .b []) rfl rfl
    have ends : Shows allowed "</b>" [] := .of_token (.closing .b) rfl rfl
    split
    · exact (bold.precedes (.of_escape _)).followedBy ends
    · exact .of_escape _
  exact (opens.precedes header).followedBy (.of_token (.closing .a) rfl rfl)

/-- The link to a letter of an index shows the letter, which is no text that is copied. -/
theorem shows_letterLink {indexId : String} {letter : Char}
    (known : "#" ++ IndexEntry.letterId indexId letter ∈ allowed) :
    Shows allowed (IndexEntry.letterLink indexId letter) [] := by
  unfold IndexEntry.letterLink
  exact .of_tokens [.letter .a [(.href, .place ("#" ++ IndexEntry.letterId indexId letter))] letter]
    (by simp [IndexEntry.letterId]) (by simpa using known)

/-- What stands before the entries of a letter shows the letter alone. -/
theorem shows_opening {indexId : String} (isFirst : Bool) {entry : IndexEntry}
    (known : ∀ letter ∈ entry.letter, IndexEntry.letterId indexId letter ∈ allowed) :
    Shows allowed (entry.opening indexId isFirst) [] := by
  unfold IndexEntry.opening
  split
  · rename_i letter begins
    have before : Shows allowed (if isFirst then "" else "</ul>\n") [] := by
      cases isFirst with
      | true => exact .nothing
      | false => exact .listEnd
    have group : Shows allowed ("<b id=\"" ++ indexId ++ "-letter-" ++ String.singleton letter ++
        "\">" ++ String.singleton letter ++ "</b>\n<ul class=\"slidoc-index-list\">\n") [] := by
      exact .of_tokens [
        .letter .b [(.id, .place (IndexEntry.letterId indexId letter))] letter,
        .wording .lineBreak, .opening .ul [(.classes, .word .indexList)],
        .wording .lineBreak] (by simp [IndexEntry.letterId])
        (by simpa using known letter begins)
    simpa only [String.append_assoc] using before.precedes group
  · split
    · exact .of_constants [.opening .li [(.classes, .word .indexSpacer)], .wording .space,
        .closing .li, .wording .lineBreak] (by simp) rfl
    · exact .nothing

/-- An entry of an index shows its label, and then what each of its links shows. -/
theorem shows_line {site : String} {entry : IndexEntry} (known : entry.id ∈ allowed)
    (addresses : entry.links.map (IndexLink.address site) ⊆ allowed) :
    Shows allowed (entry.line site)
      (entry.label :: entry.links.map fun link => orElse link.place.header "slide") := by
  have opens : Shows allowed ("<li id=\"" ++ entry.id ++ "\"><b>") [] := by
    exact .of_tokens [.opening .li [(.id, .place entry.id)], .opening .b []] (by simp)
      (by simpa using known)
  have links : Shows allowed (String.intercalate ", " (entry.links.map (IndexLink.markup site)))
      (entry.links.map fun link => orElse link.place.header "slide") := by
    rw [@List.map_eq_flatMap _ _ fun link : IndexLink => orElse link.place.header "slide"]
    exact .intercalate_map .comma fun link member =>
      shows_link (addresses (List.mem_map_of_mem member))
  exact (((opens.precedes (.of_escape entry.label)).followedBy .labelEnd).append links).followedBy
    .itemEnd

/-- An entry of an index, with what stands before it. -/
theorem shows_entry {site indexId : String} {entry : IndexEntry} (isFirst : Bool)
    (known : entry.places site indexId ⊆ allowed) :
    Shows allowed (entry.opening indexId isFirst ++ entry.line site)
      (entry.label :: entry.links.map fun link => orElse link.place.header "slide") := by
  obtain ⟨letters, rest⟩ := List.append_subset.1 known
  obtain ⟨id, addresses⟩ := List.cons_subset.1 rest
  have group : ∀ letter ∈ entry.letter, IndexEntry.letterId indexId letter ∈ allowed :=
    fun letter begins => letters (List.mem_map_of_mem (Option.mem_toList.2 begins))
  exact (shows_opening isFirst group).precedes (shows_line id addresses)

/-- **An index shows tags and headings as escapes of themselves.** -/
theorem shows_index (site : String) (view : IndexView) :
    Shows (view.places site) (view.markup site) view.copies := by
  obtain ⟨outer, inner⟩ := List.append_subset.1 (List.Subset.refl (view.places site))
  obtain ⟨own, addresses⟩ := List.cons_subset.1 outer
  have opens : Shows (view.places site) ("<div id=\"" ++ view.indexId ++
      "\" class=\"slidoc-index\">\n<b>INDEX</b><blockquote>\n") [] := by
    exact .of_tokens [.opening .div [(.id, .place view.indexId), (.classes, .word .index)],
      .wording .lineBreak, .opening .b [], .wording .index, .closing .b, .opening .blockquote [],
      .wording .lineBreak] (by simp) (by simpa using own)
  have letters : Shows (view.places site) (String.intercalate "&nbsp;&nbsp;"
      (view.letters.map (IndexEntry.letterLink view.indexId))) [] := by
    have none : view.letters.flatMap (fun _ => ([] : List String)) = [] := by simp
    rw [← none]
    exact .intercalate_map .spaces fun letter member =>
      shows_letterLink (addresses (List.mem_map_of_mem member))
  have ends : Shows (view.places site) "\n</blockquote>\n" [] :=
    .of_constants [.wording .lineBreak, .closing .blockquote, .wording .lineBreak] (by simp) rfl
  have entries : Shows (view.places site) (String.join (view.entries.mapIdx fun position entry =>
      entry.opening view.indexId (position == 0) ++ entry.line site)) view.copies :=
    .join_mapIdx fun position entry member =>
      shows_entry (position == 0) (subset_of_flatMap_subset inner member)
  have last : Shows (view.places site) (if view.entries.isEmpty then "" else "</ul>\n") [] := by
    split
    · exact .nothing
    · exact .listEnd
  exact ((((opens.precedes letters).precedes ends).precedes entries).followedBy last).followedBy
    .divisionEnd

end Index

section Subquestions

/-- The texts that are copied into a link to a question: the name of its file and its heading. -/
def TaggedQuestion.copies (question : TaggedQuestion) : List String :=
  [question.file, orElse question.header "question"]

def SubquestionReport.copies (report : SubquestionReport) : List String :=
  report.entries.flatMap fun entry =>
    entry.question.copies ++ entry.related.flatMap fun related => related.2.copies

/-- The marks of a report tell how many concepts are shared. -/
def SubquestionReport.IsMarked (report : SubquestionReport) : Prop :=
  ∀ entry ∈ report.entries, ∀ related ∈ entry.related, ∃ size count, related.1 = mark size count

/-- The marks of a report of questions are made of a size and a count. -/
theorem SubquestionReport.isMarked_ofQuestions (questions : List ConceptQuestion) :
    (ofQuestions questions).IsMarked := by
  intro entry member related relates
  obtain ⟨question, -, rfl⟩ := List.mem_map.1 member
  obtain ⟨size, -, relates⟩ := List.mem_flatMap.1 relates
  obtain ⟨subset, -, relates⟩ := List.mem_flatMap.1 relates
  obtain ⟨other, -, rfl⟩ := List.mem_map.1 relates
  exact ⟨size, _, rfl⟩

/-- The address of the slide of a question. -/
def TaggedQuestion.address (site : String) (question : TaggedQuestion) : String :=
  site ++ question.file ++ ".html#" ++ question.slideId

/-- The places in a line of sub-questions: the addresses of its questions. -/
def SubquestionEntry.places (site : String) (entry : SubquestionEntry) : List String :=
  entry.question.address site :: entry.related.map fun related => related.2.address site

/-- The places in the list of sub-questions. -/
def SubquestionReport.places (site : String) (report : SubquestionReport) : List String :=
  report.entries.flatMap (SubquestionEntry.places site)

/-- A mark is made of constant words and numbers. -/
theorem shows_mark (size count : Nat) :
    Shows allowed (SubquestionReport.mark size count) [] := by
  unfold SubquestionReport.mark
  split
  · exact .of_token (.wording .star) rfl rfl
  · exact .of_token (.numeral size) rfl rfl

/-- The beginning of a link to a slide, up to its text. -/
theorem shows_linkOpening {site file slideId : String}
    (known : site ++ file ++ ".html#" ++ slideId ∈ allowed) :
    Shows allowed ("<a href=\"" ++ site ++ file ++ ".html#" ++ slideId ++ "\" target=\"_blank\">")
      [] := by
  exact .of_tokens [.opening .a [(.href, .place (site ++ file ++ ".html#" ++ slideId)),
    (.target, .word .beside)]] (by simp) (by simpa using known)

/-- The link to a question shows its file and its header. -/
theorem shows_questionLink {site : String} {question : TaggedQuestion}
    (known : question.address site ∈ allowed) :
    Shows allowed (question.link site) question.copies := by
  have opens := shows_linkOpening known
  have named := opens.precedes (.of_escape question.file)
  have numbered := (named.followedBy (.of_token (.wording .question) rfl rfl)).followedBy
    (.of_token (.numeral question.number) rfl rfl)
  have headed := (numbered.followedBy (.of_token (.wording .colon) rfl rfl)).append
    (.of_escape (orElse question.header "question"))
  exact headed.followedBy (.of_token (.closing .a) rfl rfl)

/-- A related question is shown with its mark above the line. -/
theorem shows_related {site mark : String} (marks : Shows allowed mark [])
    {question : TaggedQuestion} (known : question.address site ∈ allowed) :
    Shows allowed (question.link site ++ "<sup>" ++ mark ++ "</sup>") question.copies := by
  have opens : Shows allowed "<sup>" [] := .of_token (.opening .sup []) rfl rfl
  have closes : Shows allowed "</sup>" [] := .of_token (.closing .sup) rfl rfl
  exact (((shows_questionLink known).followedBy opens).followedBy marks).followedBy closes

/-- An entry of a report shows its question, and then the related ones. -/
theorem shows_entryLine {site : String} {entry : SubquestionEntry}
    (known : entry.places site ⊆ allowed)
    (marked : ∀ related ∈ entry.related, ∃ size count,
      related.1 = SubquestionReport.mark size count) :
    Shows allowed (entry.line site)
      (entry.question.copies ++ entry.related.flatMap fun related => related.2.copies) := by
  obtain ⟨own, others⟩ := List.cons_subset.1 known
  have opens : Shows allowed "<li><b>" [] :=
    .of_constants [.opening .li [], .opening .b []] (by simp) rfl
  have related : Shows allowed (String.intercalate ", " (entry.related.map fun related =>
      related.2.link site ++ "<sup>" ++ related.1 ++ "</sup>"))
      (entry.related.flatMap fun related => related.2.copies) := by
    refine .intercalate_map .comma fun related relates => ?_
    obtain ⟨size, count, same⟩ := marked related relates
    exact shows_related (same ▸ shows_mark size count) (others (List.mem_map_of_mem relates))
  exact (((opens.precedes (shows_questionLink own)).followedBy .labelEnd).append
    related).followedBy .itemEnd

/-- A report shows the questions of its entries, in order. -/
theorem shows_report {site : String} {report : SubquestionReport}
    (known : report.places site ⊆ allowed) (marked : report.IsMarked) :
    Shows allowed (report.markup site) report.copies := by
  have opens : Shows allowed
    "<p><b>CONCEPT SUB-QUESTIONS</b><br>Sub-questions address a subset of the original question's "
    [] := .of_constants [.opening .p [], .opening .b [], .wording .subquestions, .closing .b,
      .opening .br [], .wording .address] (by simp) rfl
  have marks : Shows allowed
      "concepts. (*) marks a variant covering the same concepts; a number gives how many concepts "
      [] := .of_token (.wording .marks) rfl rfl
  have list : Shows allowed
      "are shared.</p>\n<ul class=\"slidoc-subquestions\" style=\"list-style-type: none;\">\n" [] :=
    .of_constants [.wording .shared, .closing .p, .wording .lineBreak,
      .opening .ul [(.classes, .word .subquestions), (.style, .word .unmarked)],
      .wording .lineBreak] (by simp) rfl
  have lines :
      Shows allowed (String.join (report.entries.map (SubquestionEntry.line site))) report.copies :=
    .join_map fun entry member =>
      shows_entryLine (subset_of_flatMap_subset known member) (marked entry member)
  exact (((opens.precedes marks).precedes list).precedes lines).followedBy .listEnd

end Subquestions

section CrossReferences

variable {W : Type}

/-- The texts that are copied into the cross-references: concepts with the names of the files that
mention them, names of files with the tags that they cover, warnings, and sub-questions. -/
def Run.referenceCopies (run : Run W) : List String :=
  (run.concepts.firstLinks.flatMap fun concept => concept.1 :: concept.2.map IndexLink.file) ++
    (run.files.flatMap fun file =>
      match run.concepts.covered.lookup file.name with
      | none => []
      | some covered => file.name :: covered.map Prod.fst) ++
    run.warnings.map Warning.message ++ run.subquestions.copies

/-- The addresses in the line of a concept: one for each file that mentions it. -/
def Run.conceptPlaces (site : String) (concept : String × List IndexLink) : List String :=
  concept.2.map fun link => site ++ link.file ++ ".html#" ++ link.place.slideId

/-- The addresses in the line of a file: one for each concept that it covers. -/
def Run.coveragePlaces (site : String) (view : IndexView) (file : Compiled W) : List String :=
  ((view.covered.lookup file.name).getD []).map fun link =>
    site ++ file.name ++ ".html#" ++ link.2.slideId

/-- The places in the cross-references: the address of the contents, and those of slides. -/
def Run.referencePlaces (options : Options) (run : Run W) : List String :=
  (options.siteUrl ++ options.contentsFile) ::
    (run.concepts.firstLinks.flatMap (conceptPlaces options.siteUrl) ++
      run.files.flatMap (coveragePlaces options.siteUrl run.concepts) ++
      run.subquestions.places options.siteUrl)

/-- The link to a slide shows the text that it is given. -/
theorem shows_slideLink {site file slideId : String}
    (known : site ++ file ++ ".html#" ++ slideId ∈ allowed) (text : String) :
    Shows allowed (Run.slideLink site file slideId text) [text] :=
  ((shows_linkOpening known).precedes (.of_escape text)).followedBy
    (.of_token (.closing .a) rfl rfl)

/-- The end of a line is constant. -/
theorem shows_lineEnd : Shows allowed "<br>\n" [] :=
  .of_constants [.opening .br [], .wording .lineBreak] (by simp) rfl

/-- A line of the mapping shows a concept and the files that it is linked to. -/
theorem shows_conceptLine {site : String} {concept : String × List IndexLink}
    (known : Run.conceptPlaces site concept ⊆ allowed) :
    Shows allowed (Run.conceptLine site concept) (concept.1 :: concept.2.map IndexLink.file) := by
  have links : Shows allowed (String.intercalate ", " (concept.2.map fun link =>
      Run.slideLink site link.file link.place.slideId link.file))
      (concept.2.map IndexLink.file) := by
    rw [@List.map_eq_flatMap _ _ IndexLink.file]
    exact .intercalate_map .comma fun link member =>
      shows_slideLink (known (List.mem_map_of_mem member)) link.file
  exact (((Shows.of_escape concept.1).followedBy (.of_token (.wording .colon) rfl rfl)).append
    links).followedBy shows_lineEnd

/-- A line of coverage shows a file and the concepts that it covers, or nothing if the index does
not know the file. -/
theorem shows_coverageLine {site : String} {view : IndexView} {file : Compiled W}
    (known : Run.coveragePlaces site view file ⊆ allowed) :
    Shows allowed (Run.coverageLine site view file) (match view.covered.lookup file.name with
      | none => []
      | some covered => file.name :: covered.map Prod.fst) := by
  unfold Run.coveragePlaces at known
  unfold Run.coverageLine
  cases covers : view.covered.lookup file.name with
  | none => exact .nothing
  | some covered =>
    rw [covers] at known
    have links : Shows allowed (String.intercalate "; " (covered.map fun link =>
        Run.slideLink site file.name link.2.slideId link.1)) (covered.map Prod.fst) := by
      rw [@List.map_eq_flatMap _ _ Prod.fst]
      exact .intercalate_map .semicolon fun link member =>
        shows_slideLink (known (List.mem_map.2 ⟨link, member, rfl⟩)) link.1
    exact (((Shows.of_escape file.name).followedBy (.of_token (.wording .colon) rfl rfl)).append
      links).followedBy shows_lineEnd

/-- The warnings are shown by their messages, one a line. -/
theorem shows_warningList (warnings : List Warning) :
    Shows allowed (Run.warningList warnings) (warnings.map Warning.message) := by
  unfold Run.warningList
  split
  · rename_i none
    rw [List.isEmpty_iff.1 none]
    exact .nothing
  · have opens : Shows allowed "<pre>\n" [] :=
      .of_constants [.opening .pre [], .wording .lineBreak] (by simp) rfl
    have messages : Shows allowed
        (String.join (warnings.map fun warning => escape warning.message ++ "\n"))
        (warnings.map Warning.message) := by
      rw [@List.map_eq_flatMap _ _ Warning.message]
      exact .join_map fun warning _ =>
        (Shows.of_escape warning.message).followedBy (.of_token (.wording .lineBreak) rfl rfl)
    have closes : Shows allowed "</pre>\n" [] :=
      .of_constants [.closing .pre, .wording .lineBreak] (by simp) rfl
    exact (opens.precedes messages).followedBy closes

/-- **The cross-references show names, tags, warnings and headings as escapes of themselves.** -/
theorem shows_crossReferences (options : Options) {run : Run W}
    (marked : run.subquestions.IsMarked) :
    Shows (run.referencePlaces options) (run.crossReferences options) run.referenceCopies := by
  obtain ⟨contents, slides⟩ :=
    List.cons_subset.1 (List.Subset.refl (run.referencePlaces options))
  obtain ⟨lines, questions⟩ := List.append_subset.1 slides
  obtain ⟨mentioned, covered⟩ := List.append_subset.1 lines
  have opens : Shows (run.referencePlaces options) ("<a href=\"" ++ options.siteUrl ++
      options.contentsFile ++ "\">BACK TO CONTENTS</a><p></p>\n") [] := by
    exact .of_tokens [.opening .a [(.href, .place (options.siteUrl ++ options.contentsFile))],
      .wording .back, .closing .a, .opening .p [], .closing .p, .wording .lineBreak] (by simp)
      (by simpa using contents)
  have mapping : Shows (run.referencePlaces options)
      "<h3>Concepts cross-reference</h3><p></p>\n<b>Concepts -> files mapping:</b><br>\n" [] :=
    .of_constants [.opening .h3 [], .wording .references, .closing .h3, .opening .p [],
      .closing .p, .wording .lineBreak, .opening .b [], .wording .mapping, .closing .b,
      .opening .br [], .wording .lineBreak] (by simp) rfl
  have concepts := Shows.join_map fun concept (member : concept ∈ run.concepts.firstLinks) =>
    shows_conceptLine (subset_of_flatMap_subset mentioned member)
  have coverage : Shows (run.referencePlaces options)
      "<p></p><b>Primary concepts covered in each file:</b><br>\n" [] :=
    .of_constants [.opening .p [], .closing .p, .opening .b [], .wording .coverage, .closing .b,
      .opening .br [], .wording .lineBreak] (by simp) rfl
  have files := Shows.join_map fun file (member : file ∈ run.files) =>
    shows_coverageLine (subset_of_flatMap_subset covered member)
  have before := (((opens.precedes mapping).precedes concepts).followedBy coverage).append files
  exact (before.append (shows_warningList run.warnings)).append (shows_report questions marked)

end CrossReferences

end LectureDeck
