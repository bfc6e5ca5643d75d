import TextHygiene.Proofs.ReportLines

/-!
# Colours of a report

In a coloured report the tags of the findings and the counts that speak of trouble stand between
terminal codes.  A report is a list of pieces, some of which have a colour.  As long as no path and
no message holds an escape character, a terminal finds the pieces as they were written: nothing else
is coloured, each colour ends where its piece ends, and without the codes the report is the plain
one.
-/

namespace TextHygiene

/-! ## What a terminal reads -/

/-- What a terminal reads at once. -/
inductive Sign where
  | char (c : Char)
  /-- A code that turns a colour on. -/
  | on (color : Color)
  /-- The code that turns colours off. -/
  | off
deriving DecidableEq, Repr

def Sign.char? : Sign → Option Char
  | char c => some c
  | on _ => none
  | off => none

def signs : Text → List Sign
  -- an escape character that begins none of the three codes is read as any other character
  | '\x1b' :: '[' :: '3' :: '1' :: 'm' :: rest => .on .red :: signs rest
  | '\x1b' :: '[' :: '3' :: '3' :: 'm' :: rest => .on .yellow :: signs rest
  | '\x1b' :: '[' :: '0' :: 'm' :: rest => .off :: signs rest
  | c :: rest => .char c :: signs rest
  | [] => []

def withoutCodes (text : Text) : Text :=
  (signs text).filterMap Sign.char?

/-- Each colour that is turned on is turned off on the same line and before the next one is turned
on, and nothing else is turned off. -/
inductive Bracketed : List Sign → Prop
  | nil : Bracketed []
  | char {read : List Sign} (c : Char) (hread : Bracketed read) : Bracketed (.char c :: read)
  | colored {read : List Sign} {text : Text} (color : Color) (hline : '\n' ∉ text)
      (hread : Bracketed read) : Bracketed (.on color :: (text.map .char ++ .off :: read))

/-- The texts that are coloured: those behind a code that turns a colour on, up to the next code
that turns it off. -/
def coloredTexts : List Sign → List (Color × Text)
  | [] => []
  | .on color :: rest =>
      (color, (rest.takeWhile (· != .off)).filterMap Sign.char?) :: coloredTexts rest
  | .char _ :: rest => coloredTexts rest
  | .off :: rest => coloredTexts rest

variable {c : Char} {text rest : Text} {read : List Sign}

/-- A character that starts no code is shown as it is. -/
theorem signs_cons (h : c ≠ '\x1b') : signs (c :: rest) = .char c :: signs rest := by
  -- the letter cannot begin a code
  rw [signs]
  all_goals
    intro _ hcode _
    exact h hcode

/-- Text without an escape is shown as it is, whatever follows. -/
theorem signs_append (h : '\x1b' ∉ text) :
    signs (text ++ rest) = text.map .char ++ signs rest := by
  induction text with
  | nil => rfl
  | cons c text ih =>
      have hc : c ≠ '\x1b' := fun hc => h (hc ▸ List.mem_cons_self)
      have htext : '\x1b' ∉ text := fun hmem => h (List.mem_cons_of_mem c hmem)
      rw [List.cons_append, signs_cons hc, ih htext]
      rfl

/-- A code that turns a colour on is read as a whole. -/
theorem signs_code (color : Color) : signs (color.code ++ rest) = .on color :: signs rest := by
  cases color with
  | _ => rfl

/-- The code that turns colours off is read as a whole. -/
theorem signs_colorReset : signs (colorReset ++ rest) = .off :: signs rest :=
  rfl

theorem Sign.filterMap_char? (text : Text) : (text.map Sign.char).filterMap Sign.char? = text := by
  rw [List.filterMap_map]
  exact List.filterMap_some

theorem bracketed_map_append (hread : Bracketed read) (text : Text) :
    Bracketed (text.map .char ++ read) := by
  -- characters outside of the colours can be put in front one by one
  induction text with
  | nil => exact hread
  | cons c text ih => exact .char c ih

theorem coloredTexts_map_append (text : Text) :
    coloredTexts (text.map .char ++ read) = coloredTexts read := by
  induction text with
  | nil => rfl
  | cons c text ih => exact ih

theorem Sign.takeWhile_map_append (text : Text) :
    (text.map Sign.char ++ .off :: read).takeWhile (· != .off) = text.map .char := by
  rw [List.takeWhile_append_of_pos]
  · simp
  · intro sign hsign
    rcases List.mem_map.1 hsign with ⟨c, _, rfl⟩
    rfl

/-! ## Pieces of a report -/

/-- A piece of a report, with the colour that it has if colours are wanted. -/
structure Piece where
  color : Option Color
  text : Text

namespace Piece

variable {piece : Piece} {pieces : List Piece}

def written (colors : Bool) (piece : Piece) : Text :=
  match piece.color with
  | none => piece.text
  | some color => colored colors color piece.text

def toSigns (piece : Piece) : List Sign :=
  match piece.color with
  | none => piece.text.map .char
  | some color => .on color :: (piece.text.map .char ++ [.off])

def colored? (piece : Piece) : Option (Color × Text) :=
  piece.color.map fun color => (color, piece.text)

/-- A piece in which a terminal reads nothing but characters, all of them on one line if they are
coloured. -/
structure Plain (piece : Piece) : Prop where
  noEscape : '\x1b' ∉ piece.text
  oneLine : piece.color ≠ none → '\n' ∉ piece.text

theorem written_false (piece : Piece) : piece.written false = piece.text := by
  rcases piece with ⟨_ | color, text⟩
  · rfl
  · rfl

/-- A piece is read back sign by sign, whatever is written behind it. -/
theorem Plain.signs_written_append (h : piece.Plain) :
    signs (piece.written true ++ rest) = piece.toSigns ++ signs rest := by
  rcases piece with ⟨_ | color, text⟩
  · exact signs_append h.noEscape
  · have hcolored : (⟨some color, text⟩ : Piece).written true ++ rest =
        color.code ++ (text ++ (colorReset ++ rest)) := by
      simp [written, colored]
    rw [hcolored, signs_code, signs_append h.noEscape, signs_colorReset]
    simp [toSigns]

/-- A report is read back piece by piece. -/
theorem signs_flatMap (h : ∀ piece ∈ pieces, piece.Plain) :
    signs (pieces.flatMap (written true)) = pieces.flatMap toSigns := by
  -- what stands behind a piece does not change how it is read
  induction pieces with
  | nil => rfl
  | cons piece pieces ih =>
      rcases List.forall_mem_cons.1 h with ⟨hpiece, hpieces⟩
      rw [List.flatMap_cons, hpiece.signs_written_append, ih hpieces, List.flatMap_cons]

/-- What is shown of a piece is its text. -/
theorem filterMap_toSigns (piece : Piece) : piece.toSigns.filterMap Sign.char? = piece.text := by
  rcases piece with ⟨_ | color, text⟩
  · exact Sign.filterMap_char? text
  · change (text.map Sign.char ++ [Sign.off]).filterMap Sign.char? = text
    rw [List.filterMap_append, Sign.filterMap_char?]
    exact List.append_nil text

/-- Without the codes the pieces are as they are without colours. -/
theorem withoutCodes_flatMap (h : ∀ piece ∈ pieces, piece.Plain) :
    withoutCodes (pieces.flatMap (written true)) = pieces.flatMap (written false) := by
  rw [withoutCodes, signs_flatMap h, List.filterMap_flatMap]
  refine List.flatMap_congr fun piece _ => ?_
  rw [filterMap_toSigns, written_false]

/-- In front of signs that are in order a piece is so as well. -/
theorem Plain.bracketed_append (h : piece.Plain) (hread : Bracketed read) :
    Bracketed (piece.toSigns ++ read) := by
  rcases piece with ⟨_ | color, text⟩
  · exact bracketed_map_append hread text
  · have hline : '\n' ∉ text := h.oneLine (Option.some_ne_none color)
    simpa [toSigns] using Bracketed.colored color hline hread

theorem bracketed_flatMap (h : ∀ piece ∈ pieces, piece.Plain) :
    Bracketed (pieces.flatMap toSigns) := by
  induction pieces with
  | nil => exact .nil
  | cons piece pieces ih =>
      rcases List.forall_mem_cons.1 h with ⟨hpiece, hpieces⟩
      rw [List.flatMap_cons]
      exact hpiece.bracketed_append (ih hpieces)

/-- A piece adds its text to the coloured ones if it has a colour. -/
theorem coloredTexts_toSigns_append (piece : Piece) :
    coloredTexts (piece.toSigns ++ read) = piece.colored?.toList ++ coloredTexts read := by
  rcases piece with ⟨_ | color, text⟩
  · exact coloredTexts_map_append text
  · have hsigns : (⟨some color, text⟩ : Piece).toSigns ++ read =
        .on color :: (text.map .char ++ .off :: read) := by
      simp [toSigns]
    rw [hsigns, coloredTexts, Sign.takeWhile_map_append, Sign.filterMap_char?,
      coloredTexts_map_append, coloredTexts]
    rfl

/-- Without colours no escape is written. -/
theorem escape_not_mem_flatMap (h : ∀ piece ∈ pieces, piece.Plain) :
    '\x1b' ∉ pieces.flatMap (written false) := by
  intro hmem
  rcases List.mem_flatMap.1 hmem with ⟨piece, hpiece, hescape⟩
  rw [written_false] at hescape
  exact (h piece hpiece).noEscape hescape

/-- The pieces that have a colour are the texts that are coloured. -/
theorem coloredTexts_flatMap (pieces : List Piece) :
    coloredTexts (pieces.flatMap toSigns) = pieces.filterMap colored? := by
  induction pieces with
  | nil => rfl
  | cons piece pieces ih =>
      rw [List.flatMap_cons, coloredTexts_toSigns_append, ih, List.filterMap_cons]
      cases piece.colored? with
      | _ => rfl

end Piece

/-! ## Reports in pieces -/

/-- The name of the rule of a finding, as it stands in the line of the finding. -/
def Finding.tag (finding : Finding) : Text :=
  "[".toList ++ finding.rule.name ++ "]".toList

def Finding.pieces (finding : Finding) : List Piece :=
  [⟨none, finding.path.normalized ++ ":".toList ++ Text.decimal finding.line ++ ": ".toList⟩,
    ⟨some .yellow, finding.tag⟩,
    ⟨none, " ".toList ++ finding.message ++ "\n".toList⟩]

/-- The line of a finding is written piece by piece. -/
theorem Finding.shown_eq_pieces (colors : Bool) (finding : Finding) :
    finding.shown colors = finding.pieces.flatMap (Piece.written colors) := by
  simp [shown, pieces, tag, Piece.written]

theorem Finding.plain_pieces {finding : Finding} (hpath : '\x1b' ∉ finding.path)
    (hmessage : '\x1b' ∉ finding.message) : ∀ piece ∈ finding.pieces, piece.Plain := by
  have hname := finding.rule.isToken_name
  have hline := Text.isToken_decimal finding.line
  have hnormalized : '\x1b' ∉ finding.path.normalized :=
    fun h => hpath ((Path.mem_normalized_iff (by decide) (by decide)).1 h)
  simp only [pieces, tag, List.forall_mem_cons]
  -- the tag is the one piece that has a colour, so the one that must not break its line
  refine ⟨⟨?_, nofun⟩, ⟨?_, fun _ => ?_⟩, ⟨?_, nofun⟩, List.forall_mem_nil _⟩
  · simp [hnormalized, hline.not_mem (c := '\x1b') (by decide)]
  · simp [hname.not_mem (c := '\x1b') (by decide)]
  · simp [hname.not_mem (c := '\n') (by decide)]
  · simp [hmessage]

namespace Report

variable {report : Report}

/-- The counts of a report that are coloured in its summary: that of the findings and that of the
entries skipped, each if there are any. -/
def coloredCounts (report : Report) : List (Color × Text) :=
  (if report.findings.isEmpty then [] else [(.red, Text.decimal report.findings.length)]) ++
    if report.skipped.isEmpty then [] else [(.yellow, Text.decimal report.skipped.length)]

def summaryPieces (report : Report) : List Piece :=
  [⟨if report.findings.isEmpty then none else some .red, Text.decimal report.findings.length⟩,
    ⟨none, " issue(s) in ".toList ++ Text.decimal report.filesInspected ++
      " file(s) inspected".toList⟩] ++
    if report.skipped.isEmpty then []
    else
      [⟨none, ", ".toList⟩, ⟨some .yellow, Text.decimal report.skipped.length⟩,
        ⟨none, " unreadable entry(ies) skipped".toList⟩]

def pieces (quiet : Bool) (report : Report) : List Piece :=
  report.findings.flatMap Finding.pieces ++
    if quiet then [] else report.summaryPieces ++ [⟨none, "\n".toList⟩]

/-- The summary is written piece by piece, the counts that matter in a colour. -/
theorem summary_eq_pieces (colors : Bool) (report : Report) :
    report.summary colors = report.summaryPieces.flatMap (Piece.written colors) := by
  rw [summary, summaryPieces]
  cases report.findings.isEmpty with
  | _ =>
      cases report.skipped.isEmpty with
      | _ => simp [Piece.written]

/-- A report is written piece by piece. -/
theorem lines_eq_pieces (colors quiet : Bool) (report : Report) :
    report.lines colors quiet = (report.pieces quiet).flatMap (Piece.written colors) := by
  have hfindings : report.findings.flatMap (Finding.shown colors) =
      (report.findings.flatMap Finding.pieces).flatMap (Piece.written colors) := by
    rw [List.flatMap_assoc]
    exact List.flatMap_congr fun finding _ => finding.shown_eq_pieces colors
  rw [lines_eq, pieces, List.flatMap_append, hfindings]
  cases quiet with
  | true => rfl
  | false => simp [summary_eq_pieces, Piece.written]

/-- The coloured pieces of a report are the names of the rules and the counts in the summary. -/
theorem filterMap_colored?_pieces (quiet : Bool) (report : Report) :
    (report.pieces quiet).filterMap Piece.colored? =
      (report.findings.map fun finding => (.yellow, finding.tag)) ++
        if quiet then [] else report.coloredCounts := by
  have hfindings : (report.findings.flatMap Finding.pieces).filterMap Piece.colored? =
      report.findings.map fun finding => (.yellow, finding.tag) := by
    rw [List.filterMap_flatMap, List.map_eq_flatMap]
    rfl
  have hsummary : report.summaryPieces.filterMap Piece.colored? = report.coloredCounts := by
    -- the two counts are coloured or not regardless of each other
    rw [summaryPieces, coloredCounts]
    cases report.findings.isEmpty with
    | _ =>
        cases report.skipped.isEmpty with
        | _ => rfl
  rw [pieces, List.filterMap_append, hfindings]
  cases quiet with
  | true => rfl
  | false => simp [hsummary, Piece.colored?]

theorem plain_summaryPieces (report : Report) : ∀ piece ∈ report.summaryPieces, piece.Plain := by
  have hcount : ∀ color n, Piece.Plain ⟨color, Text.decimal n⟩ := by
    intro color n
    exact ⟨(Text.isToken_decimal n).not_mem (by decide), fun _ => Text.lineFeed_not_mem_decimal n⟩
  have hfiles : '\x1b' ∉ Text.decimal report.filesInspected :=
    (Text.isToken_decimal _).not_mem (by decide)
  refine List.forall_mem_append.2 ⟨?_, ?_⟩
  · simp only [List.forall_mem_cons]
    refine ⟨hcount _ _, ⟨?_, nofun⟩, List.forall_mem_nil _⟩
    simp [hfiles]
  · split
    · exact List.forall_mem_nil _
    · simp only [List.forall_mem_cons]
      exact ⟨⟨by decide, nofun⟩, hcount _ _, ⟨by decide, nofun⟩, List.forall_mem_nil _⟩

/-- A report is made of plain pieces if its paths and messages have no escape in them. -/
theorem plain_pieces (quiet : Bool)
    (h : ∀ finding ∈ report.findings, '\x1b' ∉ finding.path ∧ '\x1b' ∉ finding.message) :
    ∀ piece ∈ report.pieces quiet, piece.Plain := by
  refine List.forall_mem_append.2 ⟨?_, ?_⟩
  · intro piece hpiece
    rcases List.mem_flatMap.1 hpiece with ⟨finding, hfinding, hmem⟩
    exact Finding.plain_pieces (h finding hfinding).1 (h finding hfinding).2 piece hmem
  · cases quiet with
    | true => exact List.forall_mem_nil _
    | false =>
        refine List.forall_mem_append.2 ⟨report.plain_summaryPieces, ?_⟩
        exact List.forall_mem_singleton.2 ⟨by decide, nofun⟩

/-- If no path and no message of a finding holds an escape character, then the coloured report is
the plain one without its codes, and the plain one has no escape character.  In the coloured report
each colour is turned off on its line and before the next one is turned on.  What is coloured is one
tag for each finding, in order, and behind them the counts of the summary, unless the report is
quiet. -/
theorem coloring_exact (terminal quiet : Bool) (report : Report)
    (h : ∀ finding ∈ report.findings, '\x1b' ∉ finding.path ∧ '\x1b' ∉ finding.message) :
    withoutCodes (report.lines (ColorChoice.always.colors terminal) quiet) =
        report.lines (ColorChoice.never.colors terminal) quiet ∧
      '\x1b' ∉ report.lines (ColorChoice.never.colors terminal) quiet ∧
      Bracketed (signs (report.lines (ColorChoice.always.colors terminal) quiet)) ∧
      coloredTexts (signs (report.lines (ColorChoice.always.colors terminal) quiet)) =
        (report.findings.map fun finding => (.yellow, finding.tag)) ++
          if quiet then [] else report.coloredCounts := by
  -- all four parts follow from reading the report back piece by piece
  have hplain := plain_pieces quiet h
  have hsigns : signs (report.lines true quiet) = (report.pieces quiet).flatMap Piece.toSigns := by
    rw [lines_eq_pieces, Piece.signs_flatMap hplain]
  simp only [ColorChoice.colors]
  refine ⟨?_, ?_, ?_, ?_⟩
  · rw [lines_eq_pieces, Piece.withoutCodes_flatMap hplain, lines_eq_pieces]
  · rw [lines_eq_pieces]
    exact Piece.escape_not_mem_flatMap hplain
  · rw [hsigns]
    exact Piece.bracketed_flatMap hplain
  · rw [hsigns, Piece.coloredTexts_flatMap, filterMap_colored?_pieces]

/-- A report with two findings, one of them in a file whose name has brackets and a line feed in it,
and with an entry that had to be skipped. -/
def troubledReport : Report where
  findings := [
    ⟨"d/[0m\n.py".toList, 3, .trailingWhitespace, "Trailing whitespace.".toList⟩,
    unfinishedAt "c.py".toList]
  filesInspected := 7
  skipped := ["e".toList]

/-- Brackets and a line feed in the name of a file do not disturb the colours. -/
theorem coloring_exact_troubled :
    (∀ finding ∈ troubledReport.findings, '\x1b' ∉ finding.path ∧ '\x1b' ∉ finding.message) ∧
      withoutCodes (troubledReport.lines true false) = troubledReport.lines false false ∧
      Bracketed (signs (troubledReport.lines true false)) ∧
      coloredTexts (signs (troubledReport.lines true false)) =
        [(.yellow, "[TrailingWhitespace]".toList), (.yellow, "[MissingFinalNewline]".toList),
          (.red, "2".toList), (.yellow, "1".toList)] := by
  have hplain : ∀ finding ∈ troubledReport.findings,
      '\x1b' ∉ finding.path ∧ '\x1b' ∉ finding.message := by
    decide +kernel
  rcases coloring_exact true false troubledReport hplain with ⟨hplainly, _, hbracketed, hcolored⟩
  refine ⟨hplain, hplainly, hbracketed, hcolored.trans ?_⟩
  decide +kernel

/-- A path that holds a code keeps it in the plain report, so the two reports differ in more than
the codes of the coloured one. -/
example :
    let report : Report := { findings := [unfinishedAt ('\x1b' :: "[0m.py".toList)] }
    withoutCodes (report.lines true false) ≠ report.lines false false := by
  decide +kernel

end Report

end TextHygiene
