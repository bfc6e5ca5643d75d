import TextHygiene.Proofs.Concatenation
import TextHygiene.Proofs.RuleByRule

/-!
# The final line break

A text that does not end with a line feed has a last line without a line break.  Only one rule looks
at the breaks of lines: with a line feed at the end of the text, its issue is gone and the rest of
the report is as before.
-/

namespace TextHygiene

open Line Directive Suppression Inspection

/-! ## Lines with their line breaks -/

def Line.ended (line : Line) : Line :=
  { line with terminated := true }

theorem Line.map_ended_eq_self {lines : List Line} (h : ∀ line ∈ lines, line.terminated = true) :
    lines.map ended = lines := by
  have hfix : ∀ line ∈ lines, line.ended = line := by
    rintro ⟨text, terminated⟩ hline
    have hterminated : terminated = true := h _ hline
    rw [hterminated]
    rfl
  rw [List.map_congr_left hfix, List.map_id']

def Context.ended (ctx : Context) : Context :=
  { ctx with
    line := ctx.line.ended, above := ctx.above.map Line.ended, below := ctx.below.map Line.ended }

namespace Context

/-- Line breaks at the end of lines have no say in numbers, neighbours and counts. -/
theorem listFrom_ended (number : Nat) (above : Option Line) (run : Nat) (lines : List Line) :
    listFrom number (above.map Line.ended) run (lines.map Line.ended) =
      (listFrom number above run lines).map ended := by
  -- a line is blank by its text, so the pass counts the same blank lines
  induction lines generalizing number above run with
  | nil => rfl
  | cons line rest ih =>
      have hrest := ih (number + 1) (some line) (if line.isBlank then run + 1 else 0)
      have hblank : (rest.map Line.ended).all (·.isBlank) = rest.all (·.isBlank) := List.all_map
      rw [List.map_cons, listFrom, listFrom, List.map_cons, hblank, List.head?_map]
      exact congrArg _ hrest

theorem list_ended (lines : List Line) : list (lines.map Line.ended) = (list lines).map ended :=
  listFrom_ended 1 none 0 lines

end Context

/-- Directives are read off the text of a line alone. -/
theorem Suppression.scanFrom_ended (number : Nat) (off : Option Nat) (lines : List Line) :
    scanFrom number off (lines.map ended) = scanFrom number off lines := by
  induction lines generalizing number off with
  | nil => rfl
  | cons line rest ih =>
      rw [List.map_cons, scanFrom, ih]
      rfl

/-- All rules but one pay no attention to line breaks. -/
theorem Rule.check_ended {rule : Rule} (h : rule ≠ .missingFinalNewline) (settings : Settings)
    (ctx : Context) : rule.check settings ctx.ended = rule.check settings ctx := by
  rcases ctx with ⟨number, line, above, below, blankRun, startsTrailingBlanks⟩
  -- a rule that asks for a neighbour needs to know first if there is one
  cases rule with
  | missingFinalNewline => exact absurd rfl h
  | overIndentation | blankLineAfterOpeningBracket =>
      cases above with
      | _ => rfl
  | blankLineBeforeClosingBracket =>
      cases below with
      | _ => rfl
  | blankLineAfterSectionHeader =>
      cases above with
      | _ =>
        cases below with
        | _ => rfl
  | _ => rfl

namespace Inspection

variable {settings : Settings} {lines : List Line}

/-- A line with its line break misses none. -/
theorem check_missingFinalNewline_ended (ctx : Context) :
    Rule.missingFinalNewline.check settings ctx.ended = none := by
  simp [Rule.check, Check.missingFinalNewline, Check.report, Context.ended, Line.ended]

/-- A line break that is put at the end of a line takes away the issue about it and changes nothing
else. -/
theorem ofLine_ended (ctx : Context) :
    ofLine settings ctx.ended =
      (ofLine settings ctx).filter fun issue => issue.rule != .missingFinalNewline := by
  -- the issue cannot be there any more, so filtering it out again changes nothing
  have hkeep : (ofLine settings ctx.ended).filter
      (fun issue => issue.rule != .missingFinalNewline) = ofLine settings ctx.ended := by
    rw [List.filter_eq_self]
    intro issue hmem
    rw [bne_iff_ne]
    intro hrule
    have hcheck := (mem_ofLine_iff.1 hmem).2.2
    rw [hrule, check_missingFinalNewline_ended] at hcheck
    cases hcheck
  have hsame : ∀ rule : Rule, (rule != .missingFinalNewline) = true →
      rule.check settings ctx.ended = rule.check settings ctx :=
    fun rule hrule => Rule.check_ended (bne_iff_ne.1 hrule) settings ctx
  have hnumber : ctx.ended.number = ctx.number := rfl
  rw [← hkeep]
  exact filter_ofLine_congr hnumber (fun _ => rfl) hsame

theorem inspected_ended (suppression : Suppression) (contexts : List Context) :
    inspected suppression (contexts.map Context.ended) =
      (inspected suppression contexts).map Context.ended := by
  simp [inspected, List.zip_map_left, List.filter_map, Function.comp_def]

/-- With line breaks on all lines, the one issue about line breaks is gone. -/
theorem ofLines_ended (settings : Settings) (lines : List Line) :
    ofLines settings (lines.map Line.ended) =
      (ofLines settings lines).filter fun issue => issue.rule != .missingFinalNewline := by
  have hscan : scan (lines.map Line.ended) = scan lines := scanFrom_ended 1 none lines
  -- an `OFF` that is left open is another rule's affair
  have hunclosed : (ofUnclosed settings (scan lines).unclosed).filter
      (fun issue => issue.rule != .missingFinalNewline) =
        ofUnclosed settings (scan lines).unclosed := by
    rw [List.filter_eq_self]
    intro issue hmem
    rw [(mem_ofUnclosed_iff.1 hmem).2.2.1]
    rfl
  rw [ofLines, hscan, Context.list_ended, inspected_ended, List.flatMap_map, ofLines,
    List.filter_append, List.filter_flatMap, hunclosed, funext ofLine_ended]

/-- The rule about the final line break speaks of the last line, if that has none. -/
theorem mem_linesAbout_missingFinalNewline_iff {n : Nat} :
    n ∈ linesAbout .missingFinalNewline (ofLines settings lines) ↔
      settings.enables .missingFinalNewline = true ∧ ¬ Exempt lines n ∧ n = lines.length ∧
        ∃ line, numbered? lines n = some line ∧ line.terminated = false := by
  rw [mem_linesAbout_ofLines_iff (by decide)]
  refine and_congr_right fun _ => and_congr_right fun _ => ?_
  constructor
  · rintro ⟨ctx, hctx, hbroken⟩
    rcases Check.missingFinalNewline_isSome_iff.1 hbroken with ⟨hisLast, hopen⟩
    have hbelow : numbered? lines (n + 1) = none := by
      rw [← hctx.below]
      exact Option.isNone_iff_eq_none.1 hisLast
    -- no line with the next number exists, so this is the last one
    have hlast : lines.length ≤ n := List.getElem?_eq_none_iff.1 hbelow
    exact ⟨Nat.le_antisymm (bounds_of_numbered? hctx.line).2 hlast, ctx.line, hctx.line, hopen⟩
  · rintro ⟨rfl, line, hline, hopen⟩
    rcases Context.exists_isAt hline with ⟨ctx, hctx⟩
    have hbelow : ctx.below = none := by
      rw [hctx.below]
      exact List.getElem?_eq_none (Nat.le_refl _)
    have hisLast : ctx.isLast = true := Option.isNone_iff_eq_none.2 hbelow
    have hsame : ctx.line = line := Option.some.inj (hctx.line.symm.trans hline)
    exact ⟨ctx, hctx, Check.missingFinalNewline_isSome_iff.2 ⟨hisLast, hsame ▸ hopen⟩⟩

/-- Nothing is missing if every line has its line break. -/
theorem rule_ne_missingFinalNewline {issue : Issue} (h : ∀ line ∈ lines, line.terminated = true)
    (hmem : issue ∈ ofLines settings lines) : issue.rule ≠ .missingFinalNewline := by
  intro hrule
  have hlines : issue.line ∈ linesAbout .missingFinalNewline (ofLines settings lines) :=
    mem_linesAbout_iff.2 ⟨issue, hmem, hrule, rfl⟩
  rcases mem_linesAbout_missingFinalNewline_iff.1 hlines with ⟨_, _, _, line, hline, hopen⟩
  have hended := h line (mem_of_numbered? hline)
  rw [hopen] at hended
  cases hended

/-- A last line without a line break is reported once, unless the rule is disabled or the line is
exempt. -/
theorem linesAbout_missingFinalNewline {last : Line} (hlast : lines.getLast? = some last)
    (hopen : last.terminated = false) :
    (linesAbout .missingFinalNewline (ofLines settings lines) = [lines.length] ↔
      settings.enables .missingFinalNewline = true ∧ ¬ Exempt lines lines.length) ∧
      (linesAbout .missingFinalNewline (ofLines settings lines) = [] ↔
        ¬ (settings.enables .missingFinalNewline = true ∧ ¬ Exempt lines lines.length)) := by
  -- no line but the last can be among them
  have hmem : ∀ n, n ∈ linesAbout .missingFinalNewline (ofLines settings lines) ↔
      (settings.enables .missingFinalNewline = true ∧ ¬ Exempt lines lines.length) ∧
        n = lines.length := by
    intro n
    rw [mem_linesAbout_missingFinalNewline_iff]
    constructor
    · rintro ⟨henabled, hnot, rfl, _⟩
      exact ⟨⟨henabled, hnot⟩, rfl⟩
    · rintro ⟨⟨henabled, hnot⟩, rfl⟩
      exact ⟨henabled, hnot, rfl, last, (numbered?_length lines).trans hlast, hopen⟩
  refine ⟨⟨fun heq => ?_, fun hspeaks => ?_⟩, ⟨fun hnil hspeaks => ?_, fun hsilent => ?_⟩⟩
  · exact ((hmem _).1 (heq ▸ List.mem_singleton_self _)).1
  · refine (sortedLT_linesAbout _ settings _).eq_of_mem_iff
      (List.pairwise_singleton _ _).sortedLT fun n => ?_
    rw [hmem, and_iff_right hspeaks, List.mem_singleton]
  · have hnone := (hmem _).2 ⟨hspeaks, rfl⟩
    rw [hnil] at hnone
    cases hnone
  · exact List.eq_nil_iff_forall_not_mem.2 fun n hn => hsilent ((hmem n).1 hn).1

end Inspection

/-! ## Texts that do not end with a line break -/

namespace Line

/-- A line feed at the end of a text gives its last line a line break.  The text must not end with a
carriage return, which would become a part of the line break. -/
theorem exists_split_append_lineFeed {t : Text} {c : Char} (hlast : t.getLast? = some c)
    (hfeed : c ≠ '\n') (hreturn : c ≠ '\r') :
    ∃ last, (split t).getLast? = some last ∧ last.terminated = false ∧
      split (t ++ ['\n']) = (split t).map ended := by
  rcases exists_eq_append_last t with ⟨first, rest, rfl, hrest, hfirst⟩
  -- the lines up to the last line feed do not depend on what stands behind it
  have hparted : ∀ second, split (first ++ second) = split first ++ split second :=
    fun second => split_append_of_ended second hfirst
  have hended : (split first).map ended = split first := by
    rcases hfirst with rfl | hend
    · rfl
    · exact map_ended_eq_self fun line hline => terminated_of_mem_split hend hline
  -- and something stands behind it, or else the text would end with it
  have hne : rest ≠ [] := by
    rintro rfl
    rw [List.append_nil] at hlast
    rcases hfirst with rfl | hend
    · cases hlast
    · exact hfeed (Option.some.inj (hlast.symm.trans hend))
  have hlast : rest.getLast? = some c := by
    rwa [List.getLast?_append_of_ne_nil _ hne] at hlast
  -- the line break takes no carriage return away, since there is none in front of it
  have hkept : dropReturn ⟨rest, true⟩ = ⟨rest, true⟩ := by
    have hbefore : Text.before? '\r' rest = none := by
      rw [Text.before?, if_neg]
      rw [hlast]
      exact fun h => hreturn (Option.some.inj h)
    rw [dropReturn, if_pos rfl, hbefore]
    rfl
  have hwhole : split (rest ++ ['\n']) = [⟨rest, true⟩] := by
    rw [split, cutAtLineFeeds_concat hrest, List.map_singleton, hkept]
  refine ⟨⟨rest, false⟩, ?_, rfl, ?_⟩
  · rw [hparted, split_of_not_mem hne hrest, List.getLast?_concat]
  · rw [List.append_assoc, hparted, hparted, List.map_append, hended, split_of_not_mem hne hrest,
      hwhole]
    rfl

end Line

/-! ## Reports -/

/-- With a line feed at the end, a text that lacks one has the same report but for the issue about
the final line break.  That issue is about the last line and comes once, exactly if the rule is
enabled and no directive exempts the line.  A text that is empty or ends with a line feed never has
it. -/
theorem inspect_append_lineFeed (settings : Settings) (contents : Text) :
    (∀ c, (withoutMark contents).getLast? = some c → c ≠ '\n' → c ≠ '\r' →
      inspect settings (contents ++ ['\n']) =
          (inspect settings contents).filter (fun issue => issue.rule != .missingFinalNewline) ∧
        (linesAbout .missingFinalNewline (inspect settings contents) =
            [(linesOf contents).length] ↔
          settings.enables .missingFinalNewline = true ∧
            ¬ Exempt (linesOf contents) (linesOf contents).length) ∧
        (linesAbout .missingFinalNewline (inspect settings contents) = [] ↔
          ¬ (settings.enables .missingFinalNewline = true ∧
            ¬ Exempt (linesOf contents) (linesOf contents).length))) ∧
      (withoutMark contents = [] ∨ contents.getLast? = some '\n' →
        ∀ issue ∈ inspect settings contents, issue.rule ≠ .missingFinalNewline) := by
  refine ⟨fun c hlast hfeed hreturn => ?_, fun hended issue hmem => ?_⟩
  · rcases exists_split_append_lineFeed hlast hfeed hreturn with ⟨last, hline, hopen, hended⟩
    -- a byte order mark in front stays where it is
    have hne : contents ≠ [] := by
      rintro rfl
      cases hlast
    refine ⟨?_, linesAbout_missingFinalNewline hline hopen⟩
    rw [inspect, withoutMark_append _ hne, hended]
    exact ofLines_ended settings (linesOf contents)
  · refine rule_ne_missingFinalNewline (fun line hline => ?_) hmem
    rcases hended with hempty | hend
    · rw [hempty] at hline
      cases hline
    · exact terminated_of_mem_split (getLast?_withoutMark hend) hline

/-- A text behind a byte order mark whose last line is blank. -/
def unfinished : Text :=
  "\ufeffa  = 1\n\n \t".toList

/-- A text that ends in the middle of the line that turns inspection off. -/
def turnedOff : Text :=
  " a\nb ;  // CodeDust: OFF".toList

/-- With its last line break a text that lacks it loses that one issue. -/
theorem inspect_append_lineFeed_unfinished :
    linesAbout .missingFinalNewline (inspect {} unfinished) = [3] ∧
      inspect {} (unfinished ++ ['\n']) =
        (inspect {} unfinished).filter (fun issue => issue.rule != .missingFinalNewline) ∧
      (inspect {} (unfinished ++ ['\n'])).map (·.line) = [1, 2, 3, 3] ∧
      (∀ issue ∈ inspect {} (unfinished ++ ['\n']), issue.rule ≠ .missingFinalNewline) ∧
      linesAbout .missingFinalNewline (inspect {} turnedOff) = [] ∧
      inspect {} (turnedOff ++ ['\n']) =
        (inspect {} turnedOff).filter fun issue => issue.rule != .missingFinalNewline := by
  rcases (inspect_append_lineFeed {} unfinished).1 '\t' (by decide) (by decide) (by decide)
    with ⟨hfiltered, _, _⟩
  rcases (inspect_append_lineFeed {} turnedOff).1 'F' (by decide) (by decide) (by decide)
    with ⟨hfiltered', _, _⟩
  have hended := (inspect_append_lineFeed {} (unfinished ++ ['\n'])).2 (Or.inr (by decide))
  exact ⟨by decide +kernel, hfiltered, by decide +kernel, hended, by decide +kernel, hfiltered'⟩

end TextHygiene
