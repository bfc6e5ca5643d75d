import TextHygiene.Proofs.Document
import TextHygiene.Proofs.Inspection
import TextHygiene.Proofs.Splitting
import TextHygiene.Proofs.Token

/-!
# One line for each finding

A report puts each finding on a line of its own, with its path and its message as they are.  A line
feed in one of them breaks the line, and nothing else does.  The inspection makes no message with a
line feed, so a report of a run has one line for each finding unless a file with a finding has a
line feed in its path.
-/

namespace TextHygiene

open Line

variable {c : Char} {colors quiet : Bool} {report : Report}

/-! ## The pieces of a line -/

/-- Normalising a path keeps all characters but the two slashes. -/
theorem Path.count_normalized (path : Path) (hslash : c ≠ '/') (hbackslash : c ≠ '\\') :
    path.normalized.count c = path.count c := by
  rw [normalized, Text.replace, List.count_eq_countP, List.countP_map, List.count_eq_countP]
  refine List.countP_congr fun x _ => ?_
  by_cases hx : x = '\\'
  · simp [hx, hslash.symm, hbackslash.symm]
  · simp [hx]

theorem Path.mem_normalized_iff {path : Path} (hslash : c ≠ '/') (hbackslash : c ≠ '\\') :
    c ∈ path.normalized ↔ c ∈ path := by
  rw [← List.count_pos_iff, count_normalized path hslash hbackslash, List.count_pos_iff]

/-- The names of rules are single words. -/
theorem Rule.isToken_name (rule : Rule) : Text.IsToken rule.name := by
  cases rule with
  | _ => decide +kernel

/-- The letters of a literal are compared faster than the literal is decoded. -/
theorem Text.not_mem_literal {literal : String} {letters : List Char}
    (h : String.ofList letters = literal) (hc : c ∉ letters) : c ∉ literal.toList := by
  rw [← h, String.toList_ofList]
  exact hc

theorem Text.lineFeed_not_mem_decimal (n : Nat) : '\n' ∉ decimal n :=
  (isToken_decimal n).not_mem (by decide)

/-- Colours add no line feed. -/
theorem lineFeed_not_mem_colored {color : Color} {text : Text} (h : '\n' ∉ text) :
    '\n' ∉ colored colors color text := by
  have hcode : '\n' ∉ color.code := by
    cases color with
    | _ => decide
  cases colors with
  | false => exact h
  | true => exact List.not_mem_append (List.not_mem_append hcode h) (by decide)

/-! ## Messages -/

/-- A number between two texts adds no line feed. -/
theorem Text.lineFeed_not_mem_around {front back : Text} (hfront : '\n' ∉ front)
    (hback : '\n' ∉ back) (n : Nat) : '\n' ∉ front ++ decimal n ++ back :=
  List.not_mem_append (List.not_mem_append hfront (lineFeed_not_mem_decimal n)) hback

/-- A rule says what its text says, or nothing. -/
theorem Check.lineFeed_not_mem_of_report {broken : Bool} {text message : Text}
    (htext : '\n' ∉ text) (h : Check.report broken text = some message) : '\n' ∉ message := by
  cases broken with
  | false => cases h
  | true =>
      cases h
      exact htext

/-- No rule writes a line feed into its message. -/
theorem Rule.lineFeed_not_mem_of_check {rule : Rule} {settings : Settings} {ctx : Context}
    {message : Text} (h : rule.check settings ctx = some message) : '\n' ∉ message := by
  -- most messages are fixed texts; the others put a number between two of them
  cases rule with
  | lineTooLong | sectionHeaderLength =>
      refine Check.lineFeed_not_mem_of_report ?_ h
      refine Text.lineFeed_not_mem_around ?_ (Text.not_mem_literal rfl (by decide)) _
      refine Text.lineFeed_not_mem_around ?_ (Text.not_mem_literal rfl (by decide)) _
      exact Text.not_mem_literal rfl (by decide)
  | tabIndentation =>
      refine Check.lineFeed_not_mem_of_report ?_ h
      refine Text.lineFeed_not_mem_around ?_ (Text.not_mem_literal rfl (by decide)) _
      split
      · exact Text.not_mem_literal rfl (by decide)
      · exact Text.not_mem_literal rfl (by decide)
  | indentSize | overIndentation | excessiveBlankLines =>
      refine Check.lineFeed_not_mem_of_report ?_ h
      refine Text.lineFeed_not_mem_around ?_ (Text.not_mem_literal rfl (by decide)) _
      exact Text.not_mem_literal rfl (by decide)
  | missingSpaceAfterCommentMarker | missingSpaceBeforeCommentMarker =>
      rcases Option.bind_eq_some_iff.1 h with ⟨_, _, hreport⟩
      exact Check.lineFeed_not_mem_of_report (Text.not_mem_literal rfl (by decide)) hreport
  | unclosedDirective | unreadableFile => cases h
  | _ =>
      refine Check.lineFeed_not_mem_of_report ?_ h
      exact Text.not_mem_literal rfl (by decide)

/-- No message about a file that cannot be read has a line feed in it. -/
theorem Unreadable.lineFeed_not_mem_message (reason : Unreadable) : '\n' ∉ reason.message := by
  cases reason with
  | access fault =>
      refine List.not_mem_append (Text.not_mem_literal rfl (by decide)) ?_
      cases fault with
      | _ => exact Text.not_mem_literal rfl (by decide)
  | _ => exact Text.not_mem_literal rfl (by decide)

/-- No inspection of a file makes a message with a line feed. -/
theorem lineFeed_not_mem_of_mem_inspectFile {ws : Workspace} {settings : Settings} {path : Path}
    {finding : Finding} (h : finding ∈ ws.inspectFile settings path) : '\n' ∉ finding.message := by
  rcases cases_of_mem_inspectFile h with ⟨_, issue, hissue, rfl⟩ | ⟨reason, rfl⟩
  · change '\n' ∉ issue.message
    rcases (Inspection.mem_ofLines_iff.1 hissue).2 with ⟨_, _, _, hcheck⟩ | ⟨_, _, hmessage⟩
    · exact Rule.lineFeed_not_mem_of_check hcheck
    · -- the message about an `OFF` that is left open is the one that no rule makes
      rw [hmessage]
      exact Text.not_mem_literal rfl (by decide)
  · exact reason.lineFeed_not_mem_message

/-- No run makes a message with a line feed. -/
theorem lineFeed_not_mem_of_inspectAll {ws : Workspace} {cli : CommandLine}
    (h : (ws.inspectAll cli).outcome = .ok report) :
    ∀ finding ∈ report.findings, '\n' ∉ finding.message := by
  rcases inspectAll_outcome_eq_ok_iff.1 h with ⟨_, _, resolved, selection, _, _, _, _, rfl⟩
  intro finding hfinding
  rw [Report.ofFiles_eq] at hfinding
  rcases List.mem_flatten.1 hfinding with ⟨findings, hfindings, hmem⟩
  rcases List.mem_map.1 hfindings with ⟨file, _, rfl⟩
  exact lineFeed_not_mem_of_mem_inspectFile hmem

/-! ## The line of a finding -/

def Finding.lineText (colors : Bool) (finding : Finding) : Text :=
  finding.path.normalized ++ ":".toList ++ Text.decimal finding.line ++ ": ".toList ++
    colored colors .yellow ("[".toList ++ finding.rule.name ++ "]".toList) ++ " ".toList ++
    finding.message

/-- A finding is shown as a line with its line break. -/
theorem Finding.shown_eq (colors : Bool) (finding : Finding) :
    finding.shown colors = finding.lineText colors ++ ['\n'] :=
  rfl

/-- The line feeds in the line of a finding are those of its path and of its message. -/
theorem Finding.count_lineText (colors : Bool) (finding : Finding) :
    (finding.lineText colors).count '\n' =
      finding.path.count '\n' + finding.message.count '\n' := by
  have hname : '\n' ∉ finding.rule.name := finding.rule.isToken_name.not_mem (by decide)
  have htag : '\n' ∉ colored colors .yellow ("[".toList ++ finding.rule.name ++ "]".toList) :=
    lineFeed_not_mem_colored
      (List.not_mem_append (List.not_mem_append (by decide) hname) (by decide))
  have hcolon : (":".toList ++ Text.decimal finding.line ++ ": ".toList).count '\n' = 0 :=
    List.count_eq_zero_of_not_mem (List.not_mem_append
      (List.not_mem_append (by decide) (Text.lineFeed_not_mem_decimal _)) (by decide))
  have hspace : " ".toList.count '\n' = 0 := by decide
  have hpath := Path.count_normalized (c := '\n') finding.path (by decide) (by decide)
  simp only [List.count_append] at hcolon
  simp only [lineText, List.count_append, List.count_eq_zero_of_not_mem htag, hspace, hpath]
  omega

namespace Report

/-! ## The lines of a report -/

/-- What stands in the lines of a report: one text for each finding, in order, and the summary
unless the report is quiet. -/
def lineTexts (colors quiet : Bool) (report : Report) : List Text :=
  report.findings.map (Finding.lineText colors) ++ if quiet then [] else [report.summary colors]

/-- The lines of a report are one line for each finding and the summary, all of them ended. -/
def LineByLine (colors quiet : Bool) (report : Report) : Prop :=
  cutAtLineFeeds (report.lines colors quiet) =
    (report.lineTexts colors quiet).map fun text => ⟨text, true⟩

/-- A report is written line by line, each with its line break. -/
theorem lines_eq_flatMap (colors quiet : Bool) (report : Report) :
    report.lines colors quiet = (report.lineTexts colors quiet).flatMap (· ++ ['\n']) := by
  have hfindings : report.findings.flatMap (Finding.shown colors) =
      (report.findings.map (Finding.lineText colors)).flatMap (· ++ ['\n']) := by
    rw [List.flatMap_map]
    exact List.flatMap_congr fun finding _ => finding.shown_eq colors
  rw [lines_eq, lineTexts, List.flatMap_append, hfindings]
  cases quiet with
  | true => rfl
  | false => simp

/-- A report has one line for each finding and, unless it is quiet, the summary. -/
theorem length_lineTexts (colors quiet : Bool) (report : Report) :
    (report.lineTexts colors quiet).length = report.findings.length + if quiet then 0 else 1 := by
  rw [lineTexts, List.length_append, List.length_map]
  cases quiet with
  | _ => rfl

/-- The summary is one line. -/
theorem lineFeed_not_mem_summary (colors : Bool) (report : Report) :
    '\n' ∉ report.summary colors := by
  have hissues : '\n' ∉ if report.findings.isEmpty then Text.decimal report.findings.length
      else colored colors .red (Text.decimal report.findings.length) := by
    split
    · exact Text.lineFeed_not_mem_decimal _
    · exact lineFeed_not_mem_colored (Text.lineFeed_not_mem_decimal _)
  have hskipped : '\n' ∉ (if report.skipped.isEmpty then ([] : Text)
      else ", ".toList ++ colored colors .yellow (Text.decimal report.skipped.length) ++
        " unreadable entry(ies) skipped".toList) := by
    split
    · exact List.not_mem_nil
    · exact List.not_mem_append (List.not_mem_append (by decide)
        (lineFeed_not_mem_colored (Text.lineFeed_not_mem_decimal _))) (by decide)
  simp only [summary, List.mem_append, not_or]
  exact ⟨⟨⟨⟨hissues, by decide⟩, Text.lineFeed_not_mem_decimal _⟩, by decide⟩, hskipped⟩

/-- The line feeds in the texts of a report are those in the paths and messages. -/
theorem sum_count_lineTexts (colors quiet : Bool) (report : Report) :
    ((report.lineTexts colors quiet).map (·.count '\n')).sum =
      (report.findings.map fun finding =>
        finding.path.count '\n' + finding.message.count '\n').sum := by
  have hfindings : ((report.findings.map (Finding.lineText colors)).map (·.count '\n')) =
      report.findings.map fun finding => finding.path.count '\n' + finding.message.count '\n' := by
    rw [List.map_map]
    exact List.map_congr_left fun finding _ => finding.count_lineText colors
  rw [lineTexts, List.map_append, List.sum_append, hfindings]
  cases quiet with
  | true => rfl
  | false => simp [List.count_eq_zero_of_not_mem (lineFeed_not_mem_summary colors report)]

/-- There are no stray line feeds exactly if no path and no message has one. -/
theorem sum_breaks_eq_zero_iff :
    (report.findings.map fun finding =>
        finding.path.count '\n' + finding.message.count '\n').sum = 0 ↔
      ∀ finding ∈ report.findings, '\n' ∉ finding.path ∧ '\n' ∉ finding.message := by
  rw [List.sum_eq_zero_iff_forall_eq_nat, List.forall_mem_map]
  refine forall₂_congr fun finding _ => ?_
  rw [Nat.add_eq_zero_iff, List.count_eq_zero, List.count_eq_zero]

/-- Every line of a report is one line exactly if no path and no message has a line feed in it. -/
theorem forall_lineFeed_not_mem_iff :
    (∀ text ∈ report.lineTexts colors quiet, '\n' ∉ text) ↔
      ∀ finding ∈ report.findings, '\n' ∉ finding.path ∧ '\n' ∉ finding.message := by
  have htexts : (∀ text ∈ report.lineTexts colors quiet, '\n' ∉ text) ↔
      ((report.lineTexts colors quiet).map (·.count '\n')).sum = 0 := by
    rw [List.sum_eq_zero_iff_forall_eq_nat, List.forall_mem_map]
    exact forall₂_congr fun text _ => List.count_eq_zero.symm
  rw [htexts, sum_count_lineTexts, sum_breaks_eq_zero_iff]

/-- A report consists of ended lines: one for each finding, in order, one for the summary unless it
is quiet, and one more for each line feed in the path or the message of a finding.  So it has one
line for each finding, and these lines are what stands in it about the findings, exactly if there is
no such line feed.  In the report of a run only the paths can have one. -/
theorem lineByLine_exact (colors quiet : Bool) (report : Report) :
    (∀ line ∈ cutAtLineFeeds (report.lines colors quiet), line.terminated = true) ∧
      (cutAtLineFeeds (report.lines colors quiet)).length =
        (report.findings.length + if quiet then 0 else 1) +
          (report.findings.map fun finding =>
            finding.path.count '\n' + finding.message.count '\n').sum ∧
      (report.LineByLine colors quiet ↔
        (cutAtLineFeeds (report.lines colors quiet)).length =
          report.findings.length + if quiet then 0 else 1) ∧
      (report.LineByLine colors quiet ↔
        ∀ finding ∈ report.findings, '\n' ∉ finding.path ∧ '\n' ∉ finding.message) ∧
      ∀ ws cli, (Workspace.inspectAll ws cli).outcome = .ok report →
        (report.LineByLine colors quiet ↔ ∀ finding ∈ report.findings, '\n' ∉ finding.path) := by
  have hterminated : ∀ line ∈ cutAtLineFeeds (report.lines colors quiet),
      line.terminated = true := by
    rw [lines_eq_flatMap]
    exact fun line => terminated_of_mem_cutAtLineFeeds_flatMap
  -- every line feed ends a line, so those inside paths and messages make further ones
  have hlength : (cutAtLineFeeds (report.lines colors quiet)).length =
      (report.findings.length + if quiet then 0 else 1) +
        (report.findings.map fun finding =>
          finding.path.count '\n' + finding.message.count '\n').sum := by
    rw [lines_eq_flatMap, length_cutAtLineFeeds_flatMap, length_lineTexts, sum_count_lineTexts]
  have hbreaks : report.LineByLine colors quiet ↔
      ∀ finding ∈ report.findings, '\n' ∉ finding.path ∧ '\n' ∉ finding.message := by
    rw [LineByLine, lines_eq_flatMap, cutAtLineFeeds_flatMap_iff, forall_lineFeed_not_mem_iff]
  refine ⟨hterminated, hlength, ?_, hbreaks, ?_⟩
  · rw [hbreaks, hlength, Nat.add_eq_left, sum_breaks_eq_zero_iff]
  · intro ws cli h
    rw [hbreaks]
    refine forall₂_congr fun finding hfinding => ?_
    exact and_iff_left (lineFeed_not_mem_of_inspectAll h finding hfinding)

/-- A file name that starts like the line of a finding and goes on behind a line feed. -/
def forgingName : Text :=
  "a.py:1: [LineTooLong] x\nb.py".toList

/-- A directory with a file of this name, and a file that misses its last line break. -/
def forgingWorkspace (contents : Text) : Workspace where
  root := .directory true true [
    ("d".toList, .directory true true [(forgingName, .file true (Utf8.encode contents))]),
    ("c.py".toList, .file true (Utf8.encode "z".toList))]
  home := []

/-- Asks for the directory and for the file beside it. -/
def forgedRequest : CommandLine where
  extensions := ["py".toList]
  paths := ["d".toList, "c.py".toList]

/-- The finding of a file that misses its last line break. -/
def unfinishedAt (path : Path) : Finding :=
  ⟨path, 1, .missingFinalNewline, "There should be a line break at the end of the file.".toList⟩

/-- As long as nothing is found in the file with the line feed in its name, there is one line for
each finding. -/
theorem lineByLine_exact_unforged :
    ((forgingWorkspace "y\n".toList).inspectAll forgedRequest).outcome =
        .ok { findings := [unfinishedAt "c.py".toList], filesInspected := 2 } ∧
      LineByLine true false { findings := [unfinishedAt "c.py".toList], filesInspected := 2 } := by
  have hrun : ((forgingWorkspace "y\n".toList).inspectAll forgedRequest).outcome =
      .ok { findings := [unfinishedAt "c.py".toList], filesInspected := 2 } := by
    decide +kernel
  rcases lineByLine_exact true false
    { findings := [unfinishedAt "c.py".toList], filesInspected := 2 } with ⟨_, _, _, _, hruns⟩
  refine ⟨hrun, (hruns _ _ hrun).2 ?_⟩
  decide

/-- As soon as something is found in it, the two findings make three lines, and the first of them
reads as a finding that was never made. -/
theorem lines_forged :
    ((forgingWorkspace "y".toList).inspectAll forgedRequest).outcome =
        .ok { findings := [unfinishedAt ("d/".toList ++ forgingName), unfinishedAt "c.py".toList]
              filesInspected := 2 } ∧
      ((forgingWorkspace "y".toList).run forgedRequest false).output =
        "d/a.py:1: [LineTooLong] x\n".toList ++
          "b.py:1: [MissingFinalNewline] ".toList ++
            "There should be a line break at the end of the file.\n".toList ++
          "c.py:1: [MissingFinalNewline] ".toList ++
            "There should be a line break at the end of the file.\n".toList ++
          "2 issue(s) in 2 file(s) inspected\n".toList ∧
      ¬ LineByLine false false
        { findings := [unfinishedAt ("d/".toList ++ forgingName), unfinishedAt "c.py".toList]
          filesInspected := 2 } := by
  refine ⟨by decide +kernel, by decide +kernel, ?_⟩
  rw [LineByLine]
  decide +kernel

end Report

end TextHygiene
