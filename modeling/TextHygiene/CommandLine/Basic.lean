import TextHygiene.Path
import TextHygiene.Report.Lines
import TextHygiene.Unicode.Lowercase

/-!
# Command lines

What a command line asks for, and the options it can be written with.
-/

namespace TextHygiene

/-- The form of a report. -/
inductive Format where
  | text
  | json
deriving DecidableEq, Repr

namespace Format

def name : Format → Text
  | text => "text".toList
  | json => "json".toList

/-- The form with a given name, letter case aside, or what is wrong with the name. -/
def ofName (value : Text) : Except Text Format :=
  match [text, json].find? (·.name == Text.lowercase value) with
  | some format => .ok format
  | none => .error ("Unknown output format: ".toList ++ value)

end Format

namespace ColorChoice

def name : ColorChoice → Text
  | auto => "auto".toList
  | always => "always".toList
  | never => "never".toList

def ofName? (value : Text) : Option ColorChoice :=
  [auto, always, never].find? (·.name == value)

end ColorChoice

/-- What a command line asks for. -/
structure CommandLine where
  extensions : List Text := []
  paths : List Path := []
  ignore : List Text := []
  config : Option Path := none
  noConfig : Bool := false
  format : Format := .text
  color : ColorChoice := .auto
  verbose : Nat := 0
  quiet : Bool := false
deriving DecidableEq, Repr

namespace CommandLine

/-! ## Options -/

/-- The options of a command line. -/
inductive Opt where
  | extension
  | path
  | ignore
  | config
  | noConfig
  | format
  | color
  | verbose
  | quiet
  | help
  | version
deriving DecidableEq, Repr

namespace Opt

def all : List Opt :=
  [extension, path, ignore, config, noConfig, format, color, verbose, quiet, help, version]

def long : Opt → Text
  | extension => "extension".toList
  | path => "path".toList
  | ignore => "ignore".toList
  | config => "config".toList
  | noConfig => "no-config".toList
  | format => "format".toList
  | color => "color".toList
  | verbose => "verbose".toList
  | quiet => "quiet".toList
  | help => "help".toList
  | version => "version".toList

def short? : Opt → Option Char
  | extension => some 'e'
  | path => some 'p'
  | ignore => some 'i'
  | config => some 'c'
  | format => some 'f'
  | verbose => some 'v'
  | quiet => some 'q'
  | help => some 'h'
  | version => some 'V'
  | noConfig | color => none

def takesValue : Opt → Bool
  | extension | path | ignore | config | format | color => true
  | noConfig | verbose | quiet | help | version => false

def ofLong? (name : Text) : Option Opt :=
  all.find? (·.long == name)

def ofShort? (letter : Char) : Option Opt :=
  all.find? (·.short? == some letter)

end Opt

/-! ## Errors -/

/-- Why a command line cannot be used, or asks for a notice instead of a run. -/
inductive UsageError where
  | missingRequired
  | unknownArgument
  /-- A value is missing, empty where that is not allowed, or not one of the possible ones. -/
  | invalidValue
  /-- A value that its option does not understand, with what the option says about it. -/
  | rejectedValue (message : Text)
  /-- Two options that exclude each other, or one given twice that may be given once. -/
  | conflict
  /-- A value for an option that takes none. -/
  | tooManyValues
  | helpAsked
  | versionAsked
deriving DecidableEq, Repr

end CommandLine

end TextHygiene
