import LectureDeck.Site.Build
import LectureDeck.Site.Command

/-!
# The program

Reads the files that a command line names, asks the library what they yield, and writes it. Nothing
is decided here.
-/

namespace LectureDeck.Site

/-- The text of a file, if it can be read. -/
def readText? (path : String) : IO (Option String) := do
  try
    return some (← IO.FS.readFile path)
  catch _ =>
    return none

/-- The tree of the files that can be read. -/
def loadTree (paths : List String) : IO FileTree := do
  let mut files := []
  for path in paths do
    if let some text ← readText? path then
      files := (path, text) :: files
  return FileTree.ofFiles files.reverse

/-- The lines of the standard input. -/
partial def inputLines (input : IO.FS.Stream) (lines : List String) : IO (List String) := do
  let line ← input.getLine
  if line.isEmpty then return lines.reverse
  else inputLines input (String.ofList (Text.lineBody line.toList) :: lines)

/-- An error told on the standard error output. -/
def tell (causes : List String) : IO UInt32 := do
  IO.eprintln ("error: " ++ String.intercalate ": " causes)
  return 1

/-- An error of a site told. -/
def tellError (error : Error) : IO UInt32 := tell (error.causes.map Cause.text)

/-- The files of a site written where they belong. -/
def writeFiles (tree : FileTree) (target : String) (paths : List String) : IO Unit := do
  IO.FS.createDirAll target
  for path in paths do
    IO.FS.writeFile path ((tree.read? path).getD "")

/-- A site built. -/
def runBuild (command : BuildCommand) : IO UInt32 := do
  let listed ← if command.filesListed then inputLines (← IO.getStdin) [] else pure []
  let tree ← loadTree (Command.filesOf command ++ listed)
  let config := match command.config with
    | some path => Config.load tree path
    | none => Config.loadOrInitial tree Config.defaultPath
  match config with
  | .error error => tellError error
  | .ok config =>
    let target := command.target.getD config.target
    match build tree config command.paths target with
    | (_, .error error) => tellError error
    | (tree, .ok (run, paths)) =>
      writeFiles tree target paths
      let text := report command.form command.verbose run
      match command.form with
      | .terminal => IO.eprint text
      | .data => IO.println text
      IO.eprintln (shaded .bold (shaded .green "OK") ++ " Wrote " ++
        counted paths.length "files to " ++ target)
      return 0

def runVerify (source record : String) (range : Option (Nat × Nat)) : IO UInt32 := do
  let tree ← loadTree [source, record]
  match verifyFile tree source record range with
  | .error error => tellError error
  | .ok text =>
    if range.isSome then IO.print text
    else IO.eprintln (shaded .bold (shaded .green "OK") ++ " " ++ source ++ " matches its record")
    return 0

end LectureDeck.Site

open LectureDeck.Site in
/-- The program. -/
def main (words : List String) : IO UInt32 := do
  match Command.parse words with
  | .error message => tell [message]
  | .ok .help => IO.print Command.usage; return 0
  | .ok (.build command) => runBuild command
  | .ok (.verify source record range) => runVerify source record range
