import TextHygiene.Pattern
import TextHygiene.Settings.Resolve

/-!
# Failures

What ends a run before any file is inspected.  Trouble with a single file is never a failure: it
becomes a finding.
-/

namespace TextHygiene

/-- Why a run cannot go on. -/
inductive Failure where
  /-- No extension is left to inspect. -/
  | noExtension
  /-- The configuration file that was asked for is not there. -/
  | configMissing (path : Path)
  /-- The configuration file cannot be read as text. -/
  | configUnreadable (path : Path)
  /-- The configuration file is not well formed. -/
  | configSyntax (path : Path) (error : Ini.SyntaxError)
  /-- An option has a value that cannot be used. -/
  | badOption (error : OptionError)
  /-- An ignore pattern cannot be used. -/
  | badPattern (error : PatternError)
  /-- A root does not exist or cannot be reached. -/
  | rootMissing (path : Path)
  /-- A root is a directory that cannot be listed. -/
  | rootUnreadable (path : Path)
deriving DecidableEq, Repr

namespace Failure

def configuration (message : Text) : Text :=
  "Configuration error: ".toList ++ message

def message : Failure → Text
  | noExtension => configuration "At least one non-empty extension is required".toList
  | configMissing path => configuration ("File not found: '".toList ++ path ++ "'".toList)
  | configUnreadable path => "Failed to read file: ".toList ++ path
  | configSyntax path error =>
      "Invalid config file ".toList ++ path ++ " (line ".toList ++ Text.decimal error.line ++
        "): ".toList ++ error.fault.message
  | badOption error => configuration error.message
  | badPattern .empty => configuration "Ignore pattern must not be empty".toList
  | badPattern (.invalid body) => "Invalid ignore pattern: ".toList ++ body
  | rootMissing path => "Path not found: ".toList ++ path
  | rootUnreadable path => "Failed to read path: ".toList ++ path

end Failure

end TextHygiene
