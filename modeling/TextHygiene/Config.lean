import TextHygiene.Journal
import TextHygiene.Text.Utf8
import TextHygiene.Tree.Lookup

/-!
# Loading the configuration

The configuration comes from the file that is asked for, or else from the local file in the current
directory if there is one.  A file that is asked for must exist.
-/

namespace TextHygiene

/-- Where configuration files are looked for. -/
structure ConfigStore where
  /-- The current directory, if it is known. -/
  home : Option Path
  /-- The path leads to a file. -/
  isFile : Path → Bool
  /-- The text of a file, if it can be read as text. -/
  text? : Path → Option Text

/-- A configuration with the file it comes from. -/
structure Config where
  sections : Sections := Dict.empty
  source : Option Path := none

namespace ConfigStore

def localName : Text :=
  ".codedust.ini".toList

def loadFrom (store : ConfigStore) (path : Path) : Logged Config :=
  if !store.isFile path then .ofExcept (.error (.configMissing path))
  else
    -- a file that is there can still be closed to reading, or be no text
    match store.text? path with
    | none => .ofExcept (.error (.configUnreadable path))
    | some text => do
        let sections ← Logged.ofExcept ((Ini.read text).mapError (Failure.configSyntax path))
        Logged.record .debug
          ("Loaded ".toList ++ Text.decimal sections.size ++ " config section(s) from ".toList ++
            path)
        return ⟨sections, some path⟩

/-- The path of the local configuration file, if there is one. -/
def localPath? (store : ConfigStore) : Option Path :=
  (store.home.map (Path.join · localName)).filter store.isFile

/-- Loads the local configuration file, or nothing if there is none. -/
def loadLocal (store : ConfigStore) : Logged Config :=
  match store.localPath? with
  | some path => do
      Logged.record .debug ("Found project config: ".toList ++ path)
      store.loadFrom path
  | none => do
      Logged.record .debug
        ("No ".toList ++ localName ++ " found; using built-in defaults".toList)
      return {}

def load (store : ConfigStore) (path : Option Path) (disabled : Bool) : Logged Config :=
  if disabled then do
    Logged.record .debug "Configuration loading disabled".toList
    return {}
  else
    match path with
    | some path => store.loadFrom path
    | none => store.loadLocal

end ConfigStore

def Workspace.configStore (ws : Workspace) : ConfigStore where
  home := some ws.homePath
  isFile := ws.isFile
  text? path := (ws.bytes path).toOption.bind Utf8.decode?

end TextHygiene
