import TextHygiene.Report.Basic

/-!
# Reports as lines

One line per finding, and a line that sums up the run unless it is unwanted.  With colours, the name
of a rule and the counts that speak of trouble are set between terminal codes.
-/

namespace TextHygiene

/-- When a report is coloured. -/
inductive ColorChoice where
  /-- If it goes to a terminal that wants colours. -/
  | auto
  | always
  | never
deriving DecidableEq, Repr

/-- A report is coloured, given whether it goes to a terminal that wants colours. -/
def ColorChoice.colors (choice : ColorChoice) (terminal : Bool) : Bool :=
  match choice with
  | auto => terminal
  | always => true
  | never => false

/-- The colours of a report. -/
inductive Color where
  | red
  | yellow
deriving DecidableEq, Repr

def Color.code : Color → Text
  | red => '\x1b' :: "[31m".toList
  | yellow => '\x1b' :: "[33m".toList

def colorReset : Text :=
  '\x1b' :: "[0m".toList

def colored (colors : Bool) (color : Color) (text : Text) : Text :=
  if colors then color.code ++ text ++ colorReset else text

def Finding.shown (colors : Bool) (finding : Finding) : Text :=
  finding.path.normalized ++ ":".toList ++ Text.decimal finding.line ++ ": ".toList ++
    colored colors .yellow ("[".toList ++ finding.rule.name ++ "]".toList) ++ " ".toList ++
    finding.message ++ "\n".toList

namespace Report

/-- The line that sums a report up, without its line break. -/
def summary (colors : Bool) (report : Report) : Text :=
  let issues := Text.decimal report.findings.length
  (if report.findings.isEmpty then issues else colored colors .red issues) ++
    " issue(s) in ".toList ++ Text.decimal report.filesInspected ++ " file(s) inspected".toList ++
    if report.skipped.isEmpty then []
    else
      ", ".toList ++ colored colors .yellow (Text.decimal report.skipped.length) ++
        " unreadable entry(ies) skipped".toList

/-- A report as lines.  A quiet report has no summary. -/
def lines (colors quiet : Bool) (report : Report) : Text :=
  report.groups.flatMap (fun group => group.flatMap (Finding.shown colors)) ++
    if quiet then [] else report.summary colors ++ "\n".toList

end Report

end TextHygiene
