import TextHygiene.Text.Basic

/-!
# Paths

A path is a text in which slashes part the components.  Two paths are the same when their components
are: repeated slashes, a trailing slash and `.` components do not count, except for a leading `.`.
-/

namespace TextHygiene

/-- A path as it is written. -/
abbrev Path := Text

/-- A part of a path. -/
inductive Component where
  /-- The leading slash of an absolute path. -/
  | root
  /-- A leading `.`. -/
  | current
  /-- A `..`. -/
  | parent
  | name (text : Text)
deriving DecidableEq, Repr

namespace Path

/-- The component between two slashes, if it counts. -/
def component? (piece : Text) : Option Component :=
  if piece.isEmpty || piece == ['.'] then none
  else if piece == ['.', '.'] then some .parent
  else some (.name piece)

/-- The component in front of the first slash. -/
def firstComponent? (piece : Text) (more : Bool) : Option Component :=
  if piece.isEmpty then (if more then some .root else none)
  else if piece == ['.'] then some .current
  else component? piece

def components (path : Path) : List Component :=
  match path.splitOn '/' with
  | [] => []
  | piece :: pieces => (firstComponent? piece !pieces.isEmpty).toList ++ pieces.filterMap component?

/-- Two spellings of one path. -/
def same (a b : Path) : Bool :=
  a.components == b.components

def fileName? (path : Path) : Option Text :=
  match path.components.getLast? with
  | some (.name text) => some text
  | _ => none

/-- What follows the last dot of a name.  A dot at the very front does not count. -/
def nameExtension? (name : Text) : Option Text := do
  let (ending, stem) ← Text.cut? (· == '.') name.reverse
  if stem.isEmpty then none else some ending.reverse

def extension? (path : Path) : Option Text :=
  path.fileName?.bind nameExtension?

/-- A name below a directory. -/
def join (directory : Path) (name : Text) : Path :=
  if directory.isEmpty || directory.getLast? == some '/' then directory ++ name
  else directory ++ '/' :: name

/-- A path for matching and display, with slashes in the place of backslashes. -/
def normalized (path : Path) : Text :=
  Text.replace '\\' '/' path

end Path

end TextHygiene
