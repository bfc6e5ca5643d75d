import TextHygiene.CommandLine.Basic
import TextHygiene.Config
import TextHygiene.Report.Document
import TextHygiene.Selection

/-!
# Runs

A run loads the configuration, resolves it for every extension, selects the files, inspects each of
them and shows the report.  All that can fail does so before the first file is read; a file that
cannot be read is a finding and never ends the run.
-/

namespace TextHygiene

/-! ## One file -/

/-- Why a file cannot be inspected. -/
inductive Unreadable where
  | access (fault : AccessFault)
  /-- The file holds a zero byte. -/
  | binary
  /-- The bytes are not well-formed text. -/
  | notText
deriving DecidableEq, Repr

def Unreadable.message : Unreadable → Text
  | access fault => "Cannot read file: ".toList ++ fault.message
  | binary => "Cannot inspect binary file.".toList
  | notText => "Cannot decode file as UTF-8 text.".toList

/-- The text of a sequence of bytes without zeros. -/
def textOfBytes (bytes : List UInt8) : Except Unreadable Text :=
  if bytes.contains 0 then .error .binary
  else
    match Utf8.decode? bytes with
    | some text => .ok text
    | none => .error .notText

def Workspace.text (ws : Workspace) (path : Path) : Except Unreadable Text := do
  let bytes ← (ws.bytes path).mapError .access
  textOfBytes bytes

/-- The findings of a file, given its text or why it has none. -/
def findingsOf (settings : Settings) (path : Path) : Except Unreadable Text → List Finding
  | .ok contents => (inspect settings contents).map (Finding.ofIssue path)
  | .error reason =>
      if settings.enables .unreadableFile then [⟨path, 1, .unreadableFile, reason.message⟩] else []

def Workspace.inspectFile (ws : Workspace) (settings : Settings) (path : Path) : List Finding :=
  findingsOf settings path (ws.text path)

def Workspace.inspectionRecords (ws : Workspace) (file : SelectedFile) : List Record :=
  ⟨.debug, "Inspecting ".toList ++ file.path ++ " as .".toList ++ file.extension⟩ ::
    match ws.text file.path with
    | .ok _ => []
    | .error reason =>
        [⟨.warn, "Skipping ".toList ++ file.path ++ ": ".toList ++ reason.message⟩]

/-! ## All files -/

def settingsFor (settings : Dict Settings) (file : SelectedFile) : Settings :=
  (settings.get? file.extension).getD {}

/-- Inspects what a command line asks for. -/
def Workspace.inspectAll (ws : Workspace) (cli : CommandLine) : Logged Report := do
  let extensions ← Logged.ofExcept (normalizeExtensions cli.extensions)
  let config ← ws.configStore.load cli.config cli.noConfig
  match config.source with
  | some source => Logged.record .info ("Using configuration from ".toList ++ source)
  | none => pure ()
  let settings ← Logged.ofExcept
    ((Settings.resolveAll config.sections extensions).mapError Failure.badOption)
  let selection ← ws.select cli.paths extensions cli.ignore
  Logged.record .info
    ("Inspecting ".toList ++ Text.decimal selection.files.length ++ " file(s)".toList)
  -- files are inspected after the records about them, which does not show
  ⟨selection.files.flatMap ws.inspectionRecords, .ok ()⟩
  let files := selection.files.map fun file => ws.inspectFile (settingsFor settings file) file.path
  return (Report.ofFiles files).addSkipped selection.skipped

/-- The report in the form that a command line asks for. -/
def CommandLine.render (cli : CommandLine) (terminal : Bool) (report : Report) : Text :=
  match cli.format with
  | .text => report.lines (cli.color.colors terminal) cli.quiet
  | .json => report.document

/-! ## Outcomes -/

/-- What a run leaves behind. -/
structure Outcome where
  /-- Zero if nothing was found, one if something was, two if the run failed. -/
  code : Nat
  output : Text
  /-- The line that names a failure. -/
  failure : Option Text
deriving DecidableEq, Repr

/-- The outcome of a run, given its report or its failure. -/
def Outcome.of (cli : CommandLine) (terminal : Bool) : Except Failure Report → Outcome
  | .ok report => ⟨if report.isClean then 0 else 1, cli.render terminal report, none⟩
  | .error failure => ⟨2, [], some ("Error: ".toList ++ failure.message)⟩

/-- Runs what a command line asks for. -/
def Workspace.run (ws : Workspace) (cli : CommandLine) (terminal : Bool) : Outcome :=
  Outcome.of cli terminal (ws.inspectAll cli).outcome

end TextHygiene
