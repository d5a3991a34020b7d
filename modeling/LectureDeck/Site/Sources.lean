import LectureDeck.Deck.Run
import LectureDeck.Site.Config
import LectureDeck.Text.Blank

/-!
# Sources of a site

The files of a run are named one by one, or found in directories by their extensions and the
patterns of the configuration.

In a pattern, two stars stand for any directories at the start, at the end or in the middle; other
stars stand for any text, so that what is between them must occur in order.
-/

namespace LectureDeck.Site

open LectureDeck.Text

def withSlashes (path : List Char) : List Char := path.map fun c => if c = '\\' then '/' else c

/-- What stands before a given text at the end of another. -/
def before? (ending cs : List Char) : Option (List Char) :=
  (after? ending.reverse cs.reverse).map List.reverse

def hasExtension (name path : List Char) : Bool := ('.' :: name).isSuffixOf path

def lastComponent (path : List Char) : List Char := ((fields '/' path).getLast?).getD []

/-- Texts occur in order in another. -/
def occurInOrder : List (List Char) → List Char → Bool
  | [], _ => true
  | part :: parts, cs =>
    match cutAt? part cs with
    | some (_, rest) => occurInOrder parts rest
    | none => false

/-- A path without directories in the middle matches a pattern. -/
def matchesName (pattern path : List Char) : Bool :=
  match after? "*.".toList pattern with
  | some name => !path.contains '/' && hasExtension name path
  | none =>
    if pattern.contains '*' then
      occurInOrder ((fields '*' pattern).filter fun part => !part.isEmpty) path
    else path == pattern

def matchesPattern (pattern path : List Char) : Bool :=
  match after? "**/*.".toList pattern with
  | some name => hasExtension name path
  | none =>
    match start : after? "**/".toList pattern with
    | some rest =>
      have : rest.length < pattern.length := length_lt_of_after?_eq_some (by decide) start
      matchesPattern rest path
    | none =>
      match before? "/**".toList pattern with
      | some directory => (directory ++ ['/']).isPrefixOf path
      | none =>
        match middle : cutAt? "/**/".toList pattern with
        | some (directory, rest) =>
          have : rest.length < pattern.length := length_lt_of_cutAt?_eq_some (by decide) middle
          match after? (directory ++ ['/']) path with
          | some inner =>
            matchesPattern rest inner ||
              inner.contains '/' && matchesPattern rest (lastComponent inner)
          | none => false
        | none => matchesName pattern path
termination_by pattern.length

/-- Patterns that select the files of a directory. -/
structure Selection where
  included : List String := []
  excluded : List String := []
deriving Repr

namespace Selection

def matchesAny (patterns : List String) (path : String) : Bool :=
  patterns.any fun pattern =>
    matchesPattern (withSlashes pattern.toList) (withSlashes path.toList)

/-- A path inside a directory is selected. -/
def selects (selection : Selection) (path : String) : Bool :=
  (selection.included.isEmpty || matchesAny selection.included path) &&
    !matchesAny selection.excluded path

end Selection

def below (path : String) (inside : Place) : String :=
  if inside.isEmpty then path else join path (String.intercalate "/" inside)

/-- The paths of the sources that a directory holds, or of the one source that the path leads to. -/
def walk (tree : FileTree) (root : String) (selection : Selection) : List String :=
  match tree.place? root with
  | none => []
  | some place =>
    let found :=
      if tree.isDirectory place then tree.inside place
      else if (tree.read? root).isSome then [[]] else []
    (found.filter fun inside =>
      isSource (below root inside) && selection.selects (String.intercalate "/" inside)).map
        (below root)

/-- A source with its text. -/
def readSource (tree : FileTree) (path : String) : Except Error SourceFile :=
  match tree.read? path with
  | some text => .ok ⟨path, text⟩
  | none => .error (.unreadableSource path)

def sourcesAt (tree : FileTree) (config : Config) (path : String) :
    Except Error (List SourceFile) :=
  if tree.hasDirectory path then
    (walk tree path ⟨config.included, config.excluded⟩).mapM (readSource tree)
  else if isSource path then (readSource tree path).map fun source => [source]
  else .error (.notSource path)

/-- The sources that paths lead to, of which there must be one. -/
def collect (tree : FileTree) (config : Config) (paths : List String) :
    Except Error (List SourceFile) := do
  let sources ← paths.mapM (sourcesAt tree config)
  if sources.flatten.isEmpty then .error .noSources else .ok sources.flatten

end LectureDeck.Site
