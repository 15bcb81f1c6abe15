import TableQuery.Config
import TableQuery.Path

/-!
# Finding a configuration

The configuration of a directory is the one nearest above it. Files and directories are given as a
tree of paths. The search goes up the path as it is written, part by part, and what is at a path
depends only on the place that the path leads to.
-/

namespace TableQuery

/-- What is at a path. The bytes of a file need not be text. -/
inductive FileTree.Found where
  | file (bytes : ByteArray)
  | directory

structure FileTree where
  entries : List (Path × FileTree.Found)

namespace FileTree

def Found.text? : Found → Option String
  | file bytes => String.fromUTF8? bytes
  | directory => none

/-- What is at a place. A later entry for a place replaces an earlier one, and everything on the way
to an entry is a directory. -/
def findAt? (tree : FileTree) (place : Path) : Option Found :=
  match tree.entries.reverse.find? fun entry => entry.1.resolve? = some place with
  | some (_, found) => some found
  | none =>
    if tree.entries.any fun entry => entry.1.way.contains place then some .directory else none

def find? (tree : FileTree) (path : Path) : Option Found :=
  path.resolve?.bind tree.findAt?

def nearest? (tree : FileTree) (directory : Path) : Option (Path × Found) :=
  directory.upwards.findSome? fun above =>
    (tree.find? (above ++ Config.location)).map fun found => (above ++ Config.location, found)

end FileTree

/-!
## Loading

What was found has to be text, and the text is given to a reader. Nothing here depends on the notation
that the reader knows: it gives a configuration, or it refuses the text.
-/

namespace Config

def parse (read : String → Option Config) (text : String) : Except ConfigFault Config :=
  match read text with
  | some config => .ok config
  | none => .error .malformed

def loadFound (read : String → Option Config) (path : Path) (found : FileTree.Found) :
    Except ConfigFault (Config × Path) :=
  match found.text? with
  | none => .error .unreadable
  | some text => (parse read text).map fun config => (config, path)

def load (read : String → Option Config) (tree : FileTree) (directory : Path) :
    Except ConfigFault (Config × Path) :=
  match tree.nearest? directory with
  | none => .error .notFound
  | some (path, found) => loadFound read path found

/-- Loads the schema of a directory. The search starts at the place that the path leads to. -/
def loadSchema (read : String → Option Config) (tree : FileTree) (directory : Path) :
    Except ConfigFault Schema :=
  match directory.resolve? with
  | none => .error .notFound
  | some place => do
    let (config, _) ← load read tree place
    config.schema

end Config

end TableQuery
