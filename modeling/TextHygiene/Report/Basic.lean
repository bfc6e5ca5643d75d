import TextHygiene.Inspection
import TextHygiene.Path

/-!
# Reports

The findings of a run in the order in which they were made, with the number of files inspected and
the entries that had to be skipped.
-/

namespace TextHygiene

/-- A rule broken in a file. -/
structure Finding where
  path : Path
  /-- The number of the line, from one. -/
  line : Nat
  rule : Rule
  message : Text
deriving DecidableEq, Repr

def Finding.ofIssue (path : Path) (issue : Issue) : Finding :=
  ⟨path, issue.line, issue.rule, issue.message⟩

/-- What a run has found. -/
structure Report where
  findings : List Finding := []
  filesInspected : Nat := 0
  /-- Entries below a root that could not be read. -/
  skipped : List Path := []
deriving DecidableEq, Repr

namespace Report

def addFile (report : Report) (findings : List Finding) : Report :=
  { report with
    findings := report.findings ++ findings
    filesInspected := report.filesInspected + 1 }

def addSkipped (report : Report) (paths : List Path) : Report :=
  { report with skipped := report.skipped ++ paths }

def ofFiles (files : List (List Finding)) : Report :=
  files.foldl addFile {}

def isClean (report : Report) : Bool :=
  report.findings.isEmpty

/-- Neighbouring findings of one file, in order. -/
def groups (report : Report) : List (List Finding) :=
  report.findings.splitBy fun a b => a.path.same b.path

/-- The number of groups of findings. -/
def filesWithFindings (report : Report) : Nat :=
  report.groups.length

end Report

end TextHygiene
