import TextHygiene.Tree.Lookup

/-!
# Changing file trees

Edits address a place by a path, which is followed through links and past the permissions.
Directories on the way are made as needed.
-/

namespace TextHygiene

namespace FileTree

/-- Changes the entry with a given name, or adds one at the end; an entry without a new value is
taken out. -/
def changeEntry (name : Text) (f : Option FileTree → Option FileTree) :
    List (Text × FileTree) → List (Text × FileTree)
  | [] => ((f none).map fun tree => (name, tree)).toList
  | (n, tree) :: rest =>
      if n = name then ((f (some tree)).map fun tree => (n, tree)).toList ++ rest
      else (n, tree) :: changeEntry name f rest

/-- Changes what is found by going down a list of names.  What is missing on the way, or is no
directory, becomes one. -/
def changeAt (f : Option FileTree → Option FileTree) :
    List Text → Option FileTree → Option FileTree
  | [], tree => f tree
  | name :: names, tree =>
      match tree with
      | some (.directory listable enterable entries) =>
          some (.directory listable enterable (changeEntry name (changeAt f names) entries))
      | _ => some (.directory true true (changeEntry name (changeAt f names) []))

end FileTree

namespace Workspace

/-- Takes steps as far as names are known and goes on by name from there.  At a link, `follow` goes
on from the directory that holds it. -/
def aimSteps (ws : Workspace) (follow : List Text → List Step → List Text) (here : List Text) :
    List Step → List Text
  | [] => here
  | .stay :: rest | .directory :: rest => aimSteps ws follow here rest
  | .up :: rest => aimSteps ws follow here.dropLast rest
  | .down name :: rest =>
      match ws.root.at? (here ++ [name]) with
      | some (.link target) => follow (startOf here target) (Step.ofPath target ++ rest)
      | _ => aimSteps ws follow (here ++ [name]) rest

/-- Takes steps while at most `links` links are followed. -/
def aim (ws : Workspace) : Nat → List Text → List Step → List Text
  | 0 => aimSteps ws fun here _ => here
  | links + 1 => aimSteps ws (aim ws links)

/-- The place that an edit of a path is about, where links are followed. -/
def place (ws : Workspace) (path : Path) : List Text :=
  ws.aim linkLimit (startOf ws.home path) (Step.ofPath path)

/-- The place of a path itself: a link in the last component is not followed. -/
def ownPlace (ws : Workspace) (path : Path) : List Text :=
  match (Step.ofPath path).reverse.dropWhile (· == .directory) with
  | .down name :: rest => ws.aim linkLimit (startOf ws.home path) rest.reverse ++ [name]
  | _ => ws.place path

def changeAt (ws : Workspace) (place : List Text) (f : Option FileTree → Option FileTree) :
    Workspace :=
  { ws with root := (FileTree.changeAt f place (some ws.root)).getD ws.root }

def changeIfThere (ws : Workspace) (place : List Text) (f : FileTree → Option FileTree) :
    Workspace :=
  if (ws.root.at? place).isSome then ws.changeAt place (·.bind f) else ws

/-- Writes a file, keeping the permissions of a file that is already there. -/
def writeFile (ws : Workspace) (path : Path) (bytes : List UInt8) : Workspace :=
  ws.changeAt (ws.place path) fun
    | some (.file readable _) => some (.file readable bytes)
    | _ => some (.file true bytes)

def makeDirectory (ws : Workspace) (path : Path) : Workspace :=
  ws.changeAt (ws.place path) fun
    | some (.directory listable enterable entries) => some (.directory listable enterable entries)
    | _ => some .emptyDirectory

def makeLink (ws : Workspace) (path target : Path) : Workspace :=
  ws.changeAt (ws.ownPlace path) fun _ => some (.link target)

def remove (ws : Workspace) (path : Path) : Workspace :=
  ws.changeIfThere (ws.ownPlace path) fun _ => none

/-- Sets the permissions: `readable` to read a file or list a directory, `enterable` to reach what
is in a directory. -/
def setPermissions (ws : Workspace) (path : Path) (readable enterable : Bool) : Workspace :=
  ws.changeIfThere (ws.place path) fun
    | .file _ bytes => some (.file readable bytes)
    | .directory _ _ entries => some (.directory readable enterable entries)
    | .link target => some (.link target)

end Workspace

end TextHygiene
