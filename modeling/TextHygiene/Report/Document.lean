import TextHygiene.Json
import TextHygiene.Report.Basic

/-!
# Reports as documents

A report as a JSON object: a summary, and the findings in order.
-/

namespace TextHygiene

def Finding.toJson (finding : Finding) : Json :=
  .object [
    ("path".toList, .string finding.path.normalized),
    ("line".toList, .number finding.line),
    ("rule".toList, .string finding.rule.name),
    ("code".toList, .string finding.rule.code),
    ("message".toList, .string finding.message)]

namespace Report

/-- The counts of a report and the entries that were skipped. -/
def summaryJson (report : Report) : Json :=
  .object [
    ("files_inspected".toList, .number report.filesInspected),
    ("files_with_findings".toList, .number report.filesWithFindings),
    ("total_findings".toList, .number report.findings.length),
    ("skipped_entries".toList, .array (report.skipped.map fun path => .string path.normalized))]

def toJson (report : Report) : Json :=
  .object [
    ("summary".toList, report.summaryJson),
    ("findings".toList, .array (report.findings.map Finding.toJson))]

/-- A report as a JSON text. -/
def document (report : Report) : Text :=
  report.toJson.pretty

end Report

end TextHygiene
