import LectureDeck.Deck.Options
import LectureDeck.Json.Reader
import LectureDeck.Plugin.Registry
import LectureDeck.Site.Error
import LectureDeck.Site.FileTree

/-!
# Configurations

The options and plugins of a site, where its pages go, and which files of a directory belong to
it.
-/

namespace LectureDeck.Site

/-- The configuration of a site. -/
structure Config where
  options : Options := {}
  outDirectory : Option String := none
  plugins : Plugins := .empty
  /-- Patterns of which a file must match one, if there are any. -/
  included : List String := []
  /-- Patterns of which a file must match none. -/
  excluded : List String := []
deriving Repr

namespace Config

/-- Where the configuration is read from when nothing else is said. -/
def defaultPath : String := ".config/slidoc/config.json"

/-- The directory for pages. -/
def target (config : Config) : String := config.outDirectory.getD "slides"

/-- The configuration that a value describes. Fields that are left out have their defaults. -/
def decode? (value : Json) : Option Config := do
  match ← value.fields? ["options", "out_dir", "plugins", "include", "exclude"] with
  | [options, target, plugins, included, excluded] =>
    let options ← Json.fieldOr? {} Options.decode? options
    let target ← Json.fieldOr? none (Json.option? Json.string?) target
    let plugins ← Json.fieldOr? .empty Plugins.decode? plugins
    let included ← Json.fieldOr? [] (Json.list? Json.string?) included
    let excluded ← Json.fieldOr? [] (Json.list? Json.string?) excluded
    some ⟨options, target, plugins, included, excluded⟩
  | _ => none

def load (tree : FileTree) (path : String) : Except Error Config :=
  if tree.contains path then
    match tree.read? path with
    | none => .error (.unreadableConfig path)
    | some text =>
      match (Json.read? text).bind decode? with
      | some config => .ok config
      | none => .error (.invalidConfig path)
  else .error (.missingConfig path)

/-- The configuration that a file holds, or the initial one if there is no file. -/
def loadOrInitial (tree : FileTree) (path : String) : Except Error Config :=
  if tree.contains path then load tree path else .ok {}

end Config

end LectureDeck.Site
