import TextHygiene.Proofs.Exemption
import TextHygiene.Proofs.Padding
import TextHygiene.Proofs.RuleByRule

/-!
# Blank lines and other lines

Rules about indentation, spacing, section headers and comment markers have nothing to say about a
blank line, and rules about blank lines have nothing to say about any other.  The rules about
comment markers do not ask whether a line is blank.  They are silent on blank lines because no
configuration file makes a marker that is nothing but white space.
-/

namespace TextHygiene

open Line Directive Suppression Inspection

/-! ## Blank lines -/

/-- A line is blank if all its characters are. -/
theorem Line.isBlank_iff {line : Line} :
    line.isBlank = true ↔ ∀ c ∈ line.text, TextHygiene.isBlank c = true := by
  rw [Line.isBlank, List.isEmpty_iff]
  constructor
  · -- trimming takes off nothing but blanks, so all of the line was blank
    intro hnil c hc
    rcases Text.exists_eq_trim_between line.text with ⟨front, back, heq, hfront, hback⟩
    rw [heq, hnil, List.append_nil] at hc
    rcases List.mem_append.1 hc with hin | hin
    · exact hfront c hin
    · exact hback c hin
  · intro hall
    have hnone : ∀ c ∈ ([] : Text), TextHygiene.isBlank c = true := nofun
    calc
      Text.trim line.text = Text.trim (line.text ++ [] ++ []) := by simp
      _ = Text.trim [] := Text.trim_append_of_blank hall hnone []
      _ = [] := rfl

/-- A line that carries a directive is not blank. -/
theorem Directive.StandsAt.not_blankAt {lines : List Line} {n : Nat} {d : Directive}
    (h : StandsAt lines n d) : ¬ BlankAt lines n := by
  rcases h with ⟨line, hline, hd⟩
  have hletter : 'C' ∈ d.ending := by
    cases d with
    | _ => decide
  rcases Text.exists_eq_trimEnd_append line.text with ⟨back, heq, _⟩
  have hmem : 'C' ∈ line.text := by
    rw [heq]
    exact List.mem_append_left back ((of?_eq_some_iff.1 hd).subset hletter)
  rw [blankAt_iff hline, Line.isBlank_iff]
  intro hblank
  exact absurd (hblank 'C' hmem) (by decide)

namespace Rule

variable {rule : Rule} {settings : Settings} {ctx : Context} {message : Text}

/-! ## Groups of rules -/

def onBlankLines : List Rule :=
  [trailingWhitespace, lineTooLong, excessiveBlankLines, trailingBlankLines, missingFinalNewline,
    leadingBlankLines, blankLineAfterOpeningBracket, blankLineBeforeClosingBracket,
    blankLineAfterSectionHeader]

def aboutBlankLines : List Rule :=
  [excessiveBlankLines, trailingBlankLines, leadingBlankLines, blankLineAfterOpeningBracket,
    blankLineBeforeClosingBracket, blankLineAfterSectionHeader]

def aboutIndentation : List Rule :=
  [tabIndentation, indentSize, overIndentation]

/-- A rule that looks at the trimmed line says of a blank line what it says of an empty one. -/
theorem check_blindToPadding_of_isBlank (hrule : rule ∈ blindToPadding)
    (hmarker : ∀ marker, settings.lineComment = some marker → IsMarker marker)
    (hblank : ctx.line.isBlank = true) : rule.check settings ctx = none := by
  have htrim : Text.trim ctx.line.text = Text.trim [] := List.isEmpty_iff.1 hblank
  have hempty : rule.check settings ctx =
      rule.check settings { ctx with line := ⟨[], ctx.line.terminated⟩ } :=
    check_congr_trim hrule hmarker htrim
  -- a marker that occurs in the empty text is empty itself, and no comment is looked for
  have hmentions : ∀ marker, Check.mentionsMarker marker [] = false := by
    intro marker
    simp [Check.mentionsMarker, Text.occurs]
  rw [hempty]
  simp only [blindToPadding, List.mem_cons, List.not_mem_nil, or_false] at hrule
  rcases hrule with rfl | rfl | rfl | rfl | rfl | rfl | rfl | rfl | rfl | rfl | rfl | rfl
  · rfl
  · rfl
  · rfl
  · rfl
  · rfl
  · rfl
  · rfl
  · rfl
  · rfl
  · rfl
  · simp [check, Check.missingSpaceAfterCommentMarker, hmentions, Check.report]
  · simp [check, Check.missingSpaceBeforeCommentMarker, hmentions, Check.report]

/-- Rules about indentation leave blank lines alone. -/
theorem check_aboutIndentation_of_isBlank (hrule : rule ∈ aboutIndentation)
    (hblank : ctx.line.isBlank = true) : rule.check settings ctx = none := by
  simp only [aboutIndentation, List.mem_cons, List.not_mem_nil, or_false] at hrule
  rcases hrule with rfl | rfl | rfl
  · simp [check, Check.tabIndentation, Check.report, hblank]
  · simp [check, Check.indentSize, Check.report, hblank]
  · simp [check, Check.overIndentation, Check.report, hblank]

/-- Rules about blank lines leave all other lines alone. -/
theorem check_aboutBlankLines_of_not_isBlank (hrule : rule ∈ aboutBlankLines)
    (hblank : ctx.line.isBlank = false) : rule.check settings ctx = none := by
  simp only [aboutBlankLines, List.mem_cons, List.not_mem_nil, or_false] at hrule
  rcases hrule with rfl | rfl | rfl | rfl | rfl | rfl
  · simp [check, Check.excessiveBlankLines, Check.report, hblank]
  · simp [check, Check.trailingBlankLines, Check.report, hblank]
  · simp [check, Check.leadingBlankLines, Check.report, hblank]
  · simp [check, Check.blankLineAfterOpeningBracket, Check.report, hblank]
  · simp [check, Check.blankLineBeforeClosingBracket, Check.report, hblank]
  · simp [check, Check.blankLineAfterSectionHeader, Check.report, hblank]

/-- The groups take in all rules but the two about whole files. -/
theorem mem_groups (rule : Rule) :
    rule ∈ onBlankLines ∨ rule ∈ blindToPadding ∨ rule ∈ aboutIndentation ∨
      rule ∈ [unclosedDirective, unreadableFile] := by
  cases rule with
  | _ => decide

/-- A rule that speaks up about a blank line is one that a blank line can break. -/
theorem mem_onBlankLines_of_check
    (hmarker : ∀ marker, settings.lineComment = some marker → IsMarker marker)
    (hblank : ctx.line.isBlank = true) (h : rule.check settings ctx = some message) :
    rule ∈ onBlankLines := by
  have hsilent : rule.check settings ctx ≠ none := by
    rw [h]
    exact Option.some_ne_none message
  rcases mem_groups rule with hon | hblind | hindentation | hfile
  · exact hon
  · exact absurd (check_blindToPadding_of_isBlank hblind hmarker hblank) hsilent
  · exact absurd (check_aboutIndentation_of_isBlank hindentation hblank) hsilent
  · simp only [List.mem_cons, List.not_mem_nil, or_false] at hfile
    rcases hfile with rfl | rfl
    · cases h
    · cases h

/-- Tabs in the indentation of a line leave its size out of question. -/
theorem check_indentSize_of_tabIndentation (h : tabIndentation.check settings ctx = some message) :
    indentSize.check settings ctx = none := by
  have htab : (tabIndentation.check settings ctx).isSome = true := by
    rw [h]
    rfl
  simp only [check, Check.tabIndentation, Check.isSome_report, Bool.and_eq_true] at htab
  rw [check, Check.indentSize, htab.2, Bool.not_true, Bool.and_false, Bool.false_and,
    Bool.false_and]
  rfl

end Rule

/-! ## Issues -/

/-- Under settings from a configuration file, an issue on a blank line is about a rule that a blank
line can break, an issue on another line is not about blank lines, and no line is reported both for
tabs in its indentation and for the size of its indentation. -/
theorem inspect_lineKinds {content extension : Text} {sections : Sections} {settings : Settings}
    (hread : Ini.read content = .ok sections)
    (hresolve : Settings.resolve sections extension = .ok settings) (contents : Text) :
    (∀ issue ∈ inspect settings contents, BlankAt (linesOf contents) issue.line →
        issue.rule ∈ Rule.onBlankLines) ∧
      (∀ issue ∈ inspect settings contents, ¬ BlankAt (linesOf contents) issue.line →
        issue.rule ∉ Rule.aboutBlankLines) ∧
      ∀ issue ∈ inspect settings contents, ∀ other ∈ inspect settings contents,
        issue.line = other.line → issue.rule = .tabIndentation → other.rule ≠ .indentSize := by
  refine ⟨?_, ?_, ?_⟩
  · intro issue hissue hblank
    rcases (mem_ofLines_iff.1 hissue).2 with ⟨_, ctx, hctx, hcheck⟩ | ⟨_, hlast, _⟩
    · exact Rule.mem_onBlankLines_of_check
        (fun _ => Settings.isMarker_of_resolve hread hresolve)
        ((blankAt_iff hctx.line).1 hblank) hcheck
    · exact absurd hblank hlast.stands.not_blankAt
  · intro issue hissue hnot hrule
    rcases (mem_ofLines_iff.1 hissue).2 with ⟨_, ctx, hctx, hcheck⟩ | ⟨hunclosed, _⟩
    · have hother : ctx.line.isBlank = false := by
        rw [← Bool.not_eq_true]
        exact fun hblank => hnot ((blankAt_iff hctx.line).2 hblank)
      rw [Rule.check_aboutBlankLines_of_not_isBlank hrule hother] at hcheck
      cases hcheck
    · rw [hunclosed] at hrule
      exact absurd hrule (by decide)
  · intro issue hissue other hmem hline htab hsize
    rcases (mem_ofLines_iff.1 hissue).2 with ⟨_, ctx, hctx, hcheck⟩ | ⟨hunclosed, _⟩
    · rcases (mem_ofLines_iff.1 hmem).2 with ⟨_, ctx', hctx', hcheck'⟩ | ⟨hunclosed, _⟩
      · -- both rules were asked about the same line in the same context
        rw [hline] at hctx
        rw [htab, hctx.unique hctx'] at hcheck
        rw [hsize, Rule.check_indentSize_of_tabIndentation hcheck] at hcheck'
        cases hcheck'
      · rw [hsize] at hunclosed
        cases hunclosed
    · rw [htab] at hunclosed
      cases hunclosed

/-- Blank lines of three kinds, a line that starts with a tab and one that starts with three
spaces. -/
def unevenContents : Text :=
  "\u3000\n\t if x == (y,z):#c\n   return\n \t\n\u0085".toList

/-- Settings with a marker that was written with a wide blank, and a text with lines of all kinds.
-/
theorem inspect_lineKinds_uneven :
    ∃ sections settings, Ini.read "[py]\nLine_Comment = \u00a0#\n".toList = .ok sections ∧
      Settings.resolve sections "py".toList = .ok settings ∧
      (inspect settings unevenContents).map (fun issue => (issue.line, issue.rule)) =
        [(1, .leadingBlankLines), (2, .tabIndentation), (2, .missingSpaceAfterComma),
          (2, .missingSpaceAfterCommentMarker), (2, .missingSpaceBeforeCommentMarker),
          (3, .indentSize), (4, .trailingWhitespace), (4, .trailingBlankLines),
          (5, .excessiveBlankLines), (5, .missingFinalNewline)] ∧
      (∀ issue ∈ inspect settings unevenContents, issue.line = 5 →
        issue.rule ∈ Rule.onBlankLines) ∧
      (∀ issue ∈ inspect settings unevenContents, issue.line = 2 →
        issue.rule ∉ Rule.aboutBlankLines ∧ issue.rule ≠ .indentSize) := by
  have hissues : ((Ini.read "[py]\nLine_Comment = \u00a0#\n".toList).toOption.bind fun sections =>
      (Settings.resolve sections "py".toList).toOption).map (fun settings =>
        (inspect settings unevenContents).map fun issue => (issue.line, issue.rule)) =
      some [(1, .leadingBlankLines), (2, .tabIndentation), (2, .missingSpaceAfterComma),
        (2, .missingSpaceAfterCommentMarker), (2, .missingSpaceBeforeCommentMarker),
        (3, .indentSize), (4, .trailingWhitespace), (4, .trailingBlankLines),
        (5, .excessiveBlankLines), (5, .missingFinalNewline)] := by
    decide +kernel
  rcases Option.map_eq_some_iff.1 hissues with ⟨settings, hsettings, hlist⟩
  rcases Option.bind_eq_some_iff.1 hsettings with ⟨sections, hsections, hresolved⟩
  have hread := toOption_eq_some_iff.1 hsections
  have hresolve := toOption_eq_some_iff.1 hresolved
  rcases inspect_lineKinds hread hresolve unevenContents with ⟨hblank, hother, htabs⟩
  refine ⟨sections, settings, hread, hresolve, hlist, ?_, ?_⟩
  · intro issue hissue hline
    refine hblank issue hissue ?_
    rw [hline]
    decide +kernel
  · intro issue hissue hline
    -- the line with the tab has an issue about it, which is what the last part needs
    have htab : (2, Rule.tabIndentation) ∈
        (inspect settings unevenContents).map fun issue => (issue.line, issue.rule) := by
      rw [hlist]
      decide
    rcases List.mem_map.1 htab with ⟨tab, hmem, heq⟩
    rcases Prod.mk.inj heq with ⟨htabLine, htabRule⟩
    refine ⟨hother issue hissue ?_, ?_⟩
    · rw [hline]
      decide +kernel
    · exact htabs tab hmem issue hissue (htabLine.trans hline.symm) htabRule

end TextHygiene
