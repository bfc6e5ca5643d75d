import TextHygiene.Text.Utf8
import TextHygiene.Tree.Basic

/-!
# Finding files

What a path leads to.  Components are taken one after the other: every directory on the way must be
open to what is in it, and a symbolic link is replaced by its target, seen from the directory that
holds the link.  After too many links the search is given up, so that links in a circle do no harm.
Names and whole paths have a greatest length, counted in bytes.
-/

namespace TextHygiene

/-! ## Faults -/

/-- Why a path leads nowhere, or cannot be read. -/
inductive AccessFault where
  | notFound
  | denied
  | notDirectory
  | isDirectory
  | tooManyLinks
  /-- The path, or a name in it, takes more bytes than the system allows. -/
  | nameTooLong
  /-- The path holds a character that no path can hold. -/
  | nulCharacter
deriving DecidableEq, Repr

/-- The wording of an access fault, with the number of the system's error. -/
def AccessFault.message : AccessFault → Text
  | notFound => "No such file or directory (os error 2)".toList
  | denied => "Permission denied (os error 13)".toList
  | notDirectory => "Not a directory (os error 20)".toList
  | isDirectory => "Is a directory (os error 21)".toList
  | tooManyLinks => "Too many levels of symbolic links (os error 40)".toList
  | nameTooLong => "File name too long (os error 36)".toList
  | nulCharacter => "file name contained an unexpected NUL byte".toList

/-! ## Lengths -/

def nameLimit : Nat :=
  255

def pathLimit : Nat :=
  4095

def AccessFault.ofMissing (name : Text) : AccessFault :=
  if nameLimit < (Utf8.encode name).length then .nameTooLong else .notFound

/-- A path that takes more bytes than the system allows, whatever it leads to. -/
def Path.isTooLong (path : Path) : Bool :=
  pathLimit < (Utf8.encode path).length

/-! ## Steps -/

/-- A step on the way that a path describes. -/
inductive Step where
  /-- A component `.`. -/
  | stay
  /-- A component `..`. -/
  | up
  | down (name : Text)
  /-- A trailing slash: what is found must be a directory. -/
  | directory
deriving DecidableEq, Repr

namespace Step

def ofPiece? (piece : Text) : Option Step :=
  if piece.isEmpty then none
  else if piece == ['.'] then some .stay
  else if piece == ['.', '.'] then some .up
  else some (.down piece)

def ofPath (path : Path) : List Step :=
  (path.splitOn '/').filterMap ofPiece? ++
    if path.getLast? == some '/' then [.directory] else []

end Step

namespace Workspace

/-- The number of links that may be followed on the way to one file. -/
def linkLimit : Nat :=
  40

/-- The directory that a path starts from, as names from the root. -/
def startOf (here : List Text) (path : Path) : List Text :=
  if path.head? == some '/' then [] else here

/-- Takes steps from a place.  At a link, `follow` goes on from the directory that holds it. -/
def takeSteps (ws : Workspace) (follow : List Text → List Step → Except AccessFault (List Text))
    (here : List Text) : List Step → Except AccessFault (List Text)
  | [] => .ok here
  | step :: rest =>
      match ws.root.at? here with
      | some (.directory _ enterable _) =>
          -- a trailing slash only asks for a directory, and does not enter it
          if step = .directory then takeSteps ws follow here rest
          else if !enterable then .error .denied
          else
            match step with
            | .stay | .directory => takeSteps ws follow here rest
            | .up => takeSteps ws follow here.dropLast rest
            | .down name =>
                match ws.root.at? (here ++ [name]) with
                | none => .error (.ofMissing name)
                -- the target goes in the place of the link, and the rest of the path follows
                | some (.link target) => follow (startOf here target) (Step.ofPath target ++ rest)
                | some _ => takeSteps ws follow (here ++ [name]) rest
      | some _ => .error .notDirectory
      | none => .error .notFound

/-- Takes steps from a place while at most `links` links are followed. -/
def walk (ws : Workspace) : Nat → List Text → List Step → Except AccessFault (List Text)
  | 0 => takeSteps ws fun _ _ => .error .tooManyLinks
  | links + 1 => takeSteps ws (walk ws links)

/-- The place that a path leads to, as names from the root. -/
def locate (ws : Workspace) (path : Path) : Except AccessFault (List Text) :=
  if path.contains '\x00' then .error .nulCharacter
  else if path.isEmpty then .error .notFound
  else if path.isTooLong then .error .nameTooLong
  else walk ws linkLimit (startOf ws.home path) (Step.ofPath path)

def find (ws : Workspace) (path : Path) : Except AccessFault FileTree := do
  let place ← ws.locate path
  match ws.root.at? place with
  | some tree => pure tree
  | none => .error .notFound

def leadsSomewhere (ws : Workspace) (path : Path) : Bool :=
  (ws.find path).toBool

def isFile (ws : Workspace) (path : Path) : Bool :=
  match ws.find path with
  | .ok (.file ..) => true
  | _ => false

def bytes (ws : Workspace) (path : Path) : Except AccessFault (List UInt8) := do
  match ← ws.find path with
  | .file readable bytes => if readable then pure bytes else .error .denied
  | .directory listable .. => .error (if listable then .isDirectory else .denied)
  | .link _ => .error .tooManyLinks

end Workspace

end TextHygiene
