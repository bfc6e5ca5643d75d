import TextHygiene.Proofs.Groups
import TextHygiene.Proofs.JsonRead
import TextHygiene.Report.Document
import TextHygiene.Report.Lines

/-!
# Reports as documents and as lines

A report that is written as a JSON text is read back as what it says: the counts, the skipped
entries and all findings in order, whatever stands in the paths and messages.  The lines of a report
can be made from this text alone, as grouping the findings by file does not change their order.
-/

namespace TextHygiene

/-! ## The value of a document -/

def Finding.value (finding : Finding) : Json.Value :=
  .object [
    ("path".toList, .string finding.path.normalized),
    ("line".toList, .natural finding.line),
    ("rule".toList, .string finding.rule.name),
    ("code".toList, .string finding.rule.code),
    ("message".toList, .string finding.message)]

namespace Report

def summaryValue (report : Report) : Json.Value :=
  .object [
    ("files_inspected".toList, .natural report.filesInspected),
    ("files_with_findings".toList, .natural report.filesWithFindings),
    ("total_findings".toList, .natural report.findings.length),
    ("skipped_entries".toList, .array (report.skipped.map fun path => .string path.normalized))]

def value (report : Report) : Json.Value :=
  .object [
    ("summary".toList, report.summaryValue),
    ("findings".toList, .array (report.findings.map Finding.value))]

theorem value_summaryJson (report : Report) : report.summaryJson.value = report.summaryValue := by
  simp only [summaryJson, summaryValue, Json.value, Json.members, Json.values_eq_map, List.map_map,
    Function.comp_def]

theorem value_toJson (report : Report) : report.toJson.value = report.value := by
  have hfinding : ∀ finding : Finding, finding.toJson.value = finding.value := fun _ => rfl
  simp only [toJson, value, Json.value, Json.members, Json.values_eq_map, List.map_map,
    Function.comp_def, value_summaryJson, hfinding]

/-- A document reads back as the value that it says. -/
theorem read?_document_eq_value (report : Report) :
    Json.read? report.document = some report.value := by
  rw [document, Json.read?_pretty, value_toJson]

/-- The document of a report is read back as an object with the summary and with one object for each
finding, in order. -/
theorem read_document (report : Report) :
    Json.read? report.document = some (.object [
      ("summary".toList, .object [
        ("files_inspected".toList, .natural report.filesInspected),
        ("files_with_findings".toList, .natural report.filesWithFindings),
        ("total_findings".toList, .natural report.findings.length),
        ("skipped_entries".toList,
          .array (report.skipped.map fun path => .string path.normalized))]),
      ("findings".toList, .array (report.findings.map fun finding => .object [
        ("path".toList, .string finding.path.normalized),
        ("line".toList, .natural finding.line),
        ("rule".toList, .string finding.rule.name),
        ("code".toList, .string finding.rule.code),
        ("message".toList, .string finding.message)]))]) :=
  read?_document_eq_value report

end Report

/-! ## Lines from a document -/

namespace Json.Value

def member? (key : Text) : Value → Option Value
  | .object members => members.lookup key
  | _ => none

def items? : Value → Option (List Value)
  | .array items => some items
  | _ => none

def text? : Value → Option Text
  | .string text => some text
  | _ => none

def natural? : Value → Option Nat
  | .number ⟨.ofNat n, 0⟩ => some n
  | _ => none

def findingLine? (finding : Value) : Option Text := do
  let path ← (← finding.member? "path".toList).text?
  let line ← (← finding.member? "line".toList).natural?
  let rule ← (← finding.member? "rule".toList).text?
  let message ← (← finding.member? "message".toList).text?
  return path ++ ":".toList ++ Text.decimal line ++ ": [".toList ++ rule ++ "] ".toList ++
    message ++ "\n".toList

def findingLines? (document : Value) : Option Text := do
  let findings ← (← document.member? "findings".toList).items?
  return (← findings.mapM findingLine?).flatten

def summaryLine? (document : Value) : Option Text := do
  let summary ← document.member? "summary".toList
  let issues ← (← summary.member? "total_findings".toList).natural?
  let files ← (← summary.member? "files_inspected".toList).natural?
  let skipped ← (← summary.member? "skipped_entries".toList).items?
  return Text.decimal issues ++ " issue(s) in ".toList ++ Text.decimal files ++
    " file(s) inspected".toList ++
    (if skipped.length = 0 then []
      else ", ".toList ++ Text.decimal skipped.length ++ " unreadable entry(ies) skipped".toList) ++
    "\n".toList

end Json.Value

/-- The line of a finding can be told from its object. -/
theorem Finding.findingLine?_value (finding : Finding) :
    finding.value.findingLine? = some (finding.shown false) := by
  have hline : finding.shown false = finding.path.normalized ++ ":".toList ++
      Text.decimal finding.line ++ ": [".toList ++ finding.rule.name ++ "] ".toList ++
      finding.message ++ "\n".toList := by
    simp [Finding.shown, colored]
  rw [hline]
  rfl

namespace Report

/-- The lines of all findings can be told from a document. -/
theorem findingLines?_value (report : Report) :
    report.value.findingLines? = some (report.findings.flatMap (Finding.shown false)) := by
  have hlines : (report.findings.map Finding.value).mapM Json.Value.findingLine? =
      some (report.findings.map (Finding.shown false)) := by
    induction report.findings with
    | nil => rfl
    | cons finding findings ih =>
        rw [List.map_cons, List.mapM_cons, Finding.findingLine?_value, ih]
        rfl
  change (do return (← (report.findings.map Finding.value).mapM Json.Value.findingLine?).flatten) =
    some _
  rw [hlines, List.flatMap_def]
  rfl

/-- The summary can be told from a document. -/
theorem summaryLine?_value (report : Report) :
    report.value.summaryLine? = some (report.summary false ++ "\n".toList) := by
  have hvalue : report.value.summaryLine? = some (Text.decimal report.findings.length ++
      " issue(s) in ".toList ++ Text.decimal report.filesInspected ++
      " file(s) inspected".toList ++
      (if (report.skipped.map fun path => Json.Value.string path.normalized).length = 0 then []
        else ", ".toList ++
          Text.decimal (report.skipped.map fun path => Json.Value.string path.normalized).length ++
          " unreadable entry(ies) skipped".toList) ++ "\n".toList) := rfl
  rw [hvalue, summary, List.length_map]
  cases hskipped : report.skipped with
  | nil => simp [colored]
  | cons path paths => simp [colored]

/-- The groups have all findings in order, so showing them group by group is showing them one by
one. -/
theorem lines_eq (colors quiet : Bool) (report : Report) :
    report.lines colors quiet = report.findings.flatMap (Finding.shown colors) ++
      if quiet then [] else report.summary colors ++ "\n".toList := by
  rw [lines, ← List.flatMap_assoc, List.flatMap_id', flatten_groups]

/-- The lines of a report are the lines of the findings of its document, in order, and the line that
sums up the document. -/
theorem lines_of_document (report : Report) :
    ∃ document findingLines summaryLine, Json.read? report.document = some document ∧
      document.findingLines? = some findingLines ∧ document.summaryLine? = some summaryLine ∧
      report.lines false true = findingLines ∧
      report.lines false false = findingLines ++ summaryLine ∧
      report.groups.flatten = report.findings := by
  refine ⟨report.value, _, _, read?_document_eq_value report, findingLines?_value report,
    summaryLine?_value report, ?_, lines_eq false false report, flatten_groups report⟩
  rw [lines_eq, if_pos rfl, List.append_nil]

end Report

end TextHygiene
