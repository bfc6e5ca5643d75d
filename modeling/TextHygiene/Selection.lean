import TextHygiene.Filter
import TextHygiene.Journal
import TextHygiene.Tree.Lookup

/-!
# Selecting files

Which files below some roots are inspected.  A root may be a file, a directory, or a link to either.
Below a root, links to files count as files and links to directories are not entered.  The files of
one root come sorted by their normalised paths; the roots come in the order given.  A directory
below a root that cannot be listed is skipped, while a root that cannot be listed ends the run.
-/

namespace TextHygiene

/-! ## Walking a tree -/

/-- What a walk meets. -/
inductive Visit where
  | entry (path : Path) (isLink : Bool)
  /-- A directory that cannot be listed. -/
  | unreadable (path : Path) (fault : AccessFault)
deriving DecidableEq, Repr

namespace FileTree

/-- Why a directory below a root cannot be listed, if it cannot. -/
def listingFault? (path : Path) (reachable listable : Bool) : Option AccessFault :=
  if path.isTooLong then some .nameTooLong
  else if reachable && listable then none
  else some .denied

mutual

/-- All that a walk meets at a path and below it, each directory in front of what is in it.
`reachable` says that every directory above is open to what is in it. -/
def visits (path : Path) (reachable : Bool) : FileTree → List Visit
  | .file .. => [.entry path false]
  | .link _ => [.entry path true]
  | .directory listable enterable entries =>
      .entry path false ::
        match listingFault? path reachable listable with
        | none => entryVisits path enterable entries
        | some fault => [.unreadable path fault]

/-- All that a walk meets in the entries of a directory. -/
def entryVisits (path : Path) (reachable : Bool) : List (Text × FileTree) → List Visit
  | [] => []
  | (name, tree) :: rest => tree.visits (path.join name) reachable ++ entryVisits path reachable rest

end

end FileTree

/-! ## One root -/

/-- What was found below one root. -/
structure Scan where
  files : List Path
  skipped : List Path
deriving DecidableEq, Repr

namespace Scan

def noLater (a b : Path) : Bool :=
  Text.noLater a.normalized b.normalized

def file? (ws : Workspace) (filter : Filter) : Visit → Option Path
  | .entry path _ => if ws.isFile path && filter.includes path then some path else none
  | .unreadable .. => none

def skipped? : Visit → Option Path
  | .entry .. => none
  | .unreadable path _ => some path

def record? (ws : Workspace) (filter : Filter) : Visit → Option Record
  | .entry path isLink =>
      if ws.isFile path && filter.includes path then none
      else if isLink && !ws.leadsSomewhere path then
        some ⟨.debug, "Skipping dangling symlink ".toList ++ path⟩
      else none
  | .unreadable path fault =>
      some ⟨.warn, "Skipping unreadable entry: IO error for operation on ".toList ++ path ++
        ": ".toList ++ fault.message⟩

def ofVisits (ws : Workspace) (filter : Filter) (visits : List Visit) : Scan where
  files := (visits.filterMap (file? ws filter)).mergeSort noLater
  skipped := visits.filterMap skipped?

end Scan

/-- The visits below a root, if there is such a root and it can be listed. -/
def Workspace.rootVisits (ws : Workspace) (path : Path) : Except Failure (List Visit) :=
  match ws.find path with
  | .error _ => .error (.rootMissing path)
  | .ok (.directory false _ _) => .error (.rootUnreadable path)
  | .ok tree => .ok (tree.visits path true)

def Workspace.scan (ws : Workspace) (filter : Filter) (path : Path) : Logged Scan := do
  let visits ← Logged.ofExcept (ws.rootVisits path)
  let found := Scan.ofVisits ws filter visits
  ⟨visits.filterMap (Scan.record? ws filter), .ok ()⟩
  Logged.record .debug
    ("Selected ".toList ++ Text.decimal found.files.length ++ " file(s) under ".toList ++ path)
  return found

/-! ## All roots -/

/-- A file to inspect with its extension. -/
structure SelectedFile where
  path : Path
  extension : Text
deriving DecidableEq, Repr

/-- What was found below all roots. -/
structure Selection where
  files : List SelectedFile := []
  skipped : List Path := []
deriving DecidableEq, Repr

namespace Selection

def tagged (filter : Filter) (files : List Path) : List SelectedFile :=
  files.filterMap fun path => (filter.extension? path).map fun e => ⟨path, e⟩

def add (filter : Filter) (selection : Selection) (found : Scan) : Selection :=
  ⟨selection.files ++ tagged filter found.files, selection.skipped ++ found.skipped⟩

end Selection

def Workspace.scanAll (ws : Workspace) (filter : Filter) (selection : Selection) :
    List Path → Logged Selection
  | [] => pure selection
  | path :: rest => do
      let found ← ws.scan filter path
      ws.scanAll filter (selection.add filter found) rest

/-- Selects the files below some roots. -/
def Workspace.select (ws : Workspace) (paths extensions ignore : List Text) :
    Logged Selection := do
  let filter ← Logged.ofExcept ((Filter.compile extensions ignore).mapError Failure.badPattern)
  ws.scanAll filter {} paths

end TextHygiene
