import TextHygiene.CommandLine.Parser
import TextHygiene.Program
import TextHygiene.Tree.Edit

/-!
# Entry point

The only module that touches the outside world.  It copies the parts of the file system that a
command line speaks of into a workspace, runs the program on it, and prints what the program leaves
behind.
-/

namespace TextHygiene
namespace Main

/-! ## Copying files -/

/-- The place that a path leads to with all links resolved, if it leads anywhere. -/
def real? (path : String) : IO (Option String) := do
  try
    return some (← IO.FS.realPath path).toString
  catch _ =>
    return none

def isDirectory (path : String) : IO Bool := do
  (← IO.FS.realPath path).isDir

def entries? (path : String) : IO (Option (List String)) := do
  try
    let entries ← (← IO.FS.realPath path).readDir
    return some (entries.toList.map (·.fileName))
  catch _ =>
    return none

def below (directory name : String) : String :=
  String.ofList (Path.join directory.toList name.toList)

/-- Puts a file into the workspace.  Bytes that no one will ask for are left out. -/
def copyFile (ws : Workspace) (path : String) (wanted : Bool) : IO Workspace := do
  if wanted then
    try
      return ws.writeFile path.toList (← IO.FS.readBinFile path).toList
    catch _ =>
      return (ws.writeFile path.toList []).setPermissions path.toList false false
  else if ws.leadsSomewhere path.toList then return ws
  else return ws.writeFile path.toList []

mutual

/-- Puts a directory with all that is below it into the workspace. -/
partial def copyDirectory (wanted : String → Bool) (ws : Workspace) (path : String) :
    IO Workspace := do
  let ws := ws.makeDirectory path.toList
  match ← entries? path with
  | none => return ws.setPermissions path.toList false true
  | some names => names.foldlM (fun ws name => copyEntry wanted ws (below path name)) ws

/-- Puts an entry of a directory into the workspace.  A link is pointed to the place that it leads
to, and a link that leads nowhere to itself. -/
partial def copyEntry (wanted : String → Bool) (ws : Workspace) (path : String) : IO Workspace := do
  match ← real? path with
  | none => return ws.makeLink path.toList path.toList
  | some real =>
      if real == path then
        if ← isDirectory path then copyDirectory wanted ws path
        else copyFile ws path (wanted path)
      else
        let ws := ws.makeLink path.toList real.toList
        if ← isDirectory real then return ws.makeDirectory real.toList
        else copyFile ws real (wanted path)

end

/-- Puts what a path leads to into the workspace, going through its components from the directory
`here`. -/
def copyPath (wanted : String → Bool) (ws : Workspace) (here : String) :
    List Step → IO Workspace
  | [] => do
      if ← isDirectory here then copyDirectory wanted ws here else copyFile ws here (wanted here)
  | .stay :: rest | .directory :: rest => copyPath wanted ws here rest
  -- the system says what is above, since `here` may have been reached through a link
  | .up :: rest => do
      match ← real? (below here "..") with
      | some above => copyPath wanted ws above rest
      | none => return ws
  | .down name :: rest => do
      let path := below here (String.ofList name)
      match ← real? path with
      | none => return ws
      | some real =>
          -- a link keeps its own place, and what it leads to is copied as well
          let ws := if real == path then ws else ws.makeLink path.toList real.toList
          let ws := if ← isDirectory real then ws.makeDirectory real.toList else ws
          copyPath (fun p => wanted p || (p == real && wanted path)) ws real rest

/-- The file has an extension that a command line asks for, or is its configuration. -/
def wantedBy (cli : CommandLine) (path : String) : Bool :=
  (Path.extension? path.toList).any ((cli.extensions.map bareExtension).contains ·) ||
    ((ConfigStore.localName :: cli.config.toList).filterMap Path.fileName?).any
      (some · == Path.fileName? path.toList)

def workspace (arguments : List Text) : IO Workspace := do
  let home := (← IO.FS.realPath ".").toString
  let names := (home.toList.splitOn '/').filter (!·.isEmpty)
  let ws := (Workspace.mk .emptyDirectory names).makeDirectory home.toList
  match CommandLine.parse arguments with
  | .error _ => return ws
  | .ok cli =>
      -- paths are gone through as they are written, so that links on the way are kept
      (ConfigStore.localName :: cli.config.toList ++ cli.paths).foldlM
        (fun ws path =>
          copyPath (wantedBy cli) ws (if path.head? == some '/' then "/" else home)
            (Step.ofPath path))
        ws

def wantsColors : IO Bool := do
  if (← IO.getEnv "NO_COLOR").isSome then return false
  (← IO.getStdout).isTty

end Main
end TextHygiene

open TextHygiene in
def main (arguments : List String) : IO UInt32 := do
  let arguments := arguments.map String.toList
  let ws ← Main.workspace arguments
  let logWord ← IO.getEnv "RUST_LOG"
  let execution := ws.execute arguments (logWord.map String.toList) (← Main.wantsColors)
  for line in execution.log do
    IO.eprintln (String.ofList line)
  match execution.usage with
  | some e => if !e.isWish then IO.eprint (String.ofList e.notice)
  | none => pure ()
  IO.print (String.ofList execution.output)
  return execution.code.toUInt32
