import TextHygiene.Path

/-!
# File trees

A file system as data: files with their bytes, directories with their entries in listing order, and
symbolic links.  A file may be unreadable; a directory may be closed to listing, or to reaching what
is in it.
-/

namespace TextHygiene

/-- A file, a directory or a symbolic link, with all that is below it. -/
inductive FileTree where
  | file (readable : Bool) (bytes : List UInt8)
  | directory (listable enterable : Bool) (entries : List (Text × FileTree))
  | link (target : Path)

namespace FileTree

def emptyDirectory : FileTree :=
  .directory true true []

def child? : FileTree → Text → Option FileTree
  | .directory _ _ entries, name => entries.lookup name
  | _, _ => none

/-- What is found by going down a list of names, without following links. -/
def at? (tree : FileTree) : List Text → Option FileTree
  | [] => some tree
  | name :: names => (tree.child? name).bind (·.at? names)

end FileTree

/-- A file tree seen from a current directory. -/
structure Workspace where
  /-- The tree from the root of the file system. -/
  root : FileTree
  /-- The names on the way from the root to the current directory. -/
  home : List Text

def Workspace.homePath (ws : Workspace) : Path :=
  '/' :: List.intercalate ['/'] ws.home

end TextHygiene
