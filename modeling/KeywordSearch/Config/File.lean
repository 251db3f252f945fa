import KeywordSearch.Config.Text
import KeywordSearch.FileTree

/-!
# Configuration files

Loading a configuration from a file, and writing one to a file.  Loading only looks
at the tree; what writes answers with the tree that it leaves, whether it fails or not.
-/

set_option autoImplicit false

namespace KeywordSearch.Config

/-- The valid configuration that a file gives. -/
def load (path : FilePath) (tree : FileTree) : Except Failure Config :=
  match tree.readText path with
  | .error fault => .error (.file fault)
  | .ok document =>
    match parse document with
    | .error (.format text) =>
      .error (.format ("Failed to parse config file '" ++ path.text ++ "': " ++ text))
    | outcome => outcome

/-- Writes a text to a file. -/
def store (path : FilePath) (text : String) (tree : FileTree) : Except Failure Unit × FileTree :=
  match tree.write path text.toUTF8 with
  | (.ok (), after) => (.ok (), after)
  | (.error fault, after) => (.error (.file fault), after)

/-- Writes a configuration to a file. -/
def save (config : Config) (path : FilePath) (tree : FileTree) : Except Failure Unit × FileTree :=
  match config.render with
  | .ok text => store path text tree
  | .error failure => (.error failure, tree)

/-- Writes the default document to a file unless something lies there already. -/
def saveDefaultIfMissing (path : FilePath) (tree : FileTree) : Except Failure Unit × FileTree :=
  if tree.hasPath path then (.ok (), tree) else store path defaultText tree

end KeywordSearch.Config
