import TextHygiene.CommandLine.Basic

/-!
# Notices

What the program says about itself and about how it is called.
-/

namespace TextHygiene

namespace CommandLine

def versionNotice : Text :=
  "codedust 0.1.0\n".toList

def usageNotice : Text :=
  "Usage: codedust [OPTIONS] --extension <EXT> --path <PATH>\n".toList

def Opt.purpose : Opt → Text
  | extension => "File extension to inspect (e.g. -e py -e js, or -e py,js)".toList
  | path => "Directory or file to inspect (can be repeated)".toList
  | ignore => "Pattern for excluding file paths (can be repeated)".toList
  | config => "Path to an INI configuration file".toList
  | noConfig => "Skip loading configuration file".toList
  | format => "Output format: text or json".toList
  | color => "Control color output: auto, always or never".toList
  | verbose => "Increase log verbosity on stderr (-v, -vv for more)".toList
  | quiet => "Suppress the summary line".toList
  | help => "Print help".toList
  | version => "Print version".toList

/-- An option with its purpose, on a line of its own. -/
def Opt.helpLine (opt : Opt) : Text :=
  "  ".toList ++ (opt.short?.map fun c => ['-', c, ',', ' ']).getD [] ++ "--".toList ++ opt.long ++
    ": ".toList ++ opt.purpose ++ ['\n']

def helpNotice : Text :=
  "Inspects source files for whitespace, indentation, blank-line, spacing and comment hygiene issues.\n\nExit codes: 0 no issues found, 1 issues found, 2 usage, configuration or path error.\n\n".toList ++
    usageNotice ++ "\nOptions:\n".toList ++ Opt.all.flatMap Opt.helpLine

def UsageError.notice : UsageError → Text
  | missingRequired => "error: a required option is missing\n\n".toList ++ usageNotice
  | unknownArgument => "error: unexpected argument\n\n".toList ++ usageNotice
  | invalidValue => "error: a value is missing or cannot be used\n\n".toList ++ usageNotice
  | rejectedValue message =>
      "error: a value is not understood: ".toList ++ message ++ "\n\n".toList ++ usageNotice
  | conflict => "error: options that cannot be used together\n\n".toList ++ usageNotice
  | tooManyValues => "error: unexpected value\n\n".toList ++ usageNotice
  | helpAsked => helpNotice
  | versionAsked => versionNotice

/-- The error is a wish for a notice, not a mistake. -/
def UsageError.isWish : UsageError → Bool
  | helpAsked | versionAsked => true
  | _ => false

end CommandLine

end TextHygiene
