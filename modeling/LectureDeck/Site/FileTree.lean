import LectureDeck.Site.Path
import LectureDeck.Text.Utf8

/-!
# File trees

The files and directories around the directory in which a program works. Paths lead from there, or
from the root. The root and the directories above the working one are there, but what else they hold
is not known. Searches of a directory go by the ignore files on the way, of which a tree has what
they say, not how it is read from them.
-/

namespace LectureDeck.Site

/-- The names of the directories that lead to a file or a directory, and its own. A place outside
the working directory begins with as many `..` as there are steps up, or with `/` for the root. -/
abbrev Place : Type := List String

/-- Files with their texts, and directories. -/
structure FileTree where
  files : List (Place × String) := []
  directories : List Place := []
  /-- What ignore files say of places: a search passes the place over, or it does not although the
  name is hidden. -/
  rules : List (Place × Bool) := []
deriving Repr

/-- A place comes before another, or is the same: places are compared name by name. -/
def Place.isBefore : Place → Place → Bool
  | [], _ => true
  | _ :: _, [] => false
  | name :: rest, other :: others =>
    if name = other then Place.isBefore rest others else name < other

def Place.root : Place := ["/"]

/-- The root, the working directory, or one above it. -/
def Place.isGiven (place : Place) : Bool := place == Place.root || place.all (· == "..")

/-- The directory that holds a directory; the root holds itself. -/
def Place.up (place : Place) : Place :=
  if place == Place.root then place
  else if place.isGiven then ".." :: place
  else place.dropLast

/-- A name that a file or a directory can have: it is not too long. -/
def canName (name : List Char) : Bool := Text.byteSize name ≤ 255

namespace FileTree

def text? (tree : FileTree) (place : Place) : Option String := tree.files.lookup place

def isFile (tree : FileTree) (place : Place) : Bool := (tree.text? place).isSome

def isDirectory (tree : FileTree) (place : Place) : Bool :=
  place.isGiven || tree.directories.contains place

/-- The place that components lead to from a directory. The way to it must exist, the place
itself need not. -/
def placeFrom? (tree : FileTree) (place : Place) : List Component → Option Place
  | [] => some place
  | .root :: rest => placeFrom? tree Place.root rest
  | .here :: rest => placeFrom? tree place rest
  | .parent :: rest =>
    if tree.isDirectory place then placeFrom? tree place.up rest else none
  | .name name :: rest =>
    if tree.isDirectory place && canName name then
      placeFrom? tree (place ++ [String.ofList name]) rest
    else none

/-- A path that can lead somewhere. -/
def isPath (path : String) : Bool := !path.toList.contains '\x00'

def place? (tree : FileTree) (path : String) : Option Place :=
  if path.isEmpty || !isPath path then none else tree.placeFrom? [] (components path.toList)

def asksForDirectory (path : String) : Bool :=
  ['/'].isSuffixOf path.toList || ['/', '.'].isSuffixOf path.toList

/-- The place of the file that a path leads to. -/
def filePlace? (tree : FileTree) (path : String) : Option Place :=
  if asksForDirectory path then none else tree.place? path

/-- The text of the file that a path leads to. -/
def read? (tree : FileTree) (path : String) : Option String :=
  (tree.filePlace? path).bind tree.text?

def hasDirectory (tree : FileTree) (path : String) : Bool := (tree.place? path).any tree.isDirectory

/-- A path leads to a file or a directory. -/
def contains (tree : FileTree) (path : String) : Bool :=
  tree.hasDirectory path || (tree.read? path).isSome

def put (tree : FileTree) (place : Place) (text : String) : FileTree :=
  { tree with files := (place, text) :: tree.files.filter fun file => file.1 != place }

/-- The tree with a text written to a file, whose directory must exist. -/
def write? (tree : FileTree) (path text : String) : Option FileTree := do
  let place ← tree.filePlace? path
  if tree.isDirectory place then none else some (tree.put place text)

/-- The tree with the directories that components lead through from one, and whether the last was
reached. A file in the way ends it, and the directories made before it stay. The last component may
be one that must be there already. -/
def directoriesFrom (tree : FileTree) (place : Place) (lastExists : Bool) :
    List Component → FileTree × Bool
  | [] => (tree, true)
  | .root :: rest => directoriesFrom tree Place.root lastExists rest
  | .here :: rest => directoriesFrom tree place lastExists rest
  | .parent :: rest => directoriesFrom tree place.up lastExists rest
  | .name name :: rest =>
    let inner := place ++ [String.ofList name]
    if tree.isDirectory inner then directoriesFrom tree inner lastExists rest
    else if tree.isFile inner || !canName name || (lastExists && rest.isEmpty) then (tree, false)
    else
      directoriesFrom { tree with directories := inner :: tree.directories } inner lastExists rest

/-- A path that ends with a dot leads to a directory through the directory itself. -/
def endsInside (path : String) : Bool :=
  ['/', '.'].isSuffixOf (Text.dropEndWhile (· == '/') path.toList)

/-- The tree with a directory and those that lead to it, as far as they can be made, and whether
the directory is there. -/
def makeDirectories (tree : FileTree) (path : String) : FileTree × Bool :=
  if isPath path then tree.directoriesFrom [] (endsInside path) (components path.toList)
  else (tree, false)

/-- The tree with a file, and the directories that lead to it. -/
def add (tree : FileTree) (path text : String) : FileTree :=
  let parents := String.ofList ((path.toList.reverse.dropWhile (· != '/')).reverse)
  let (tree, _) := tree.makeDirectories parents
  (tree.write? path text).getD tree

def ofFiles (files : List (String × String)) : FileTree :=
  files.foldl (fun tree file => tree.add file.1 file.2) {}

/-- A name that leads out of a directory. -/
def leadsOut (name : String) : Bool := name == "/" || name == ".."

def isHidden (name : String) : Bool := ['.'].isPrefixOf name.toList

/-- A search of a directory passes over a name in it. Where ignore files say nothing, it passes over
names that are hidden. -/
def isPassedOver (tree : FileTree) (directory : Place) (name : String) : Bool :=
  leadsOut name || (tree.rules.lookup (directory ++ [name])).getD (isHidden name)

/-- A search of a directory finds what names lead to: none of the places on the way is passed
over. -/
def finds (tree : FileTree) : Place → List String → Bool
  | _, [] => true
  | directory, name :: rest =>
    !tree.isPassedOver directory name && finds tree (directory ++ [name]) rest

/-- The names that lead to a file from a directory, if it is inside and a search finds it. -/
def foundInside? (tree : FileTree) (directory : Place) (file : Place × String) : Option Place :=
  if directory.isPrefixOf file.1 then
    let inside := file.1.drop directory.length
    if tree.finds directory inside then some inside else none
  else none

/-- The files inside a directory that a search finds, in order. -/
def inside (tree : FileTree) (directory : Place) : List Place :=
  (tree.files.filterMap (tree.foundInside? directory)).mergeSort Place.isBefore

end FileTree

end LectureDeck.Site
