import Mathlib.Data.List.Basic
import TextHygiene.Run

/-!
# Turning rules off

Turning more rules off takes the findings of these rules out of a report and does nothing else: no
rule asks which rules are on, and neither do the directives.  The switch of a rule is read where a
line is inspected, where an open `OFF` is reported and where a file cannot be read, and in each of
these places it only decides about the findings of that rule.
-/

namespace TextHygiene

namespace Settings

def withDisabled (settings : Settings) (rules : RuleSet) : Settings :=
  { settings with disabled := fun rule => settings.disabled rule || rules rule }

variable (settings : Settings) (rules : RuleSet)

@[simp] theorem enables_withDisabled (rule : Rule) :
    (settings.withDisabled rules).enables rule = (settings.enables rule && !rules rule) := by
  simp [enables, withDisabled]

/-- What a rule says about a line does not depend on the switches. -/
theorem check_withDisabled (rule : Rule) (ctx : Context) :
    rule.check (settings.withDisabled rules) ctx = rule.check settings ctx := by
  cases rule with
  | _ => rfl

end Settings

open Settings

variable (settings : Settings) (rules : RuleSet)

/-! ## Issues -/

namespace Inspection

/-- On each line the issues of the rules that are turned off are missing, and no other. -/
theorem ofLine_withDisabled (ctx : Context) :
    ofLine (settings.withDisabled rules) ctx =
      (ofLine settings ctx).filter fun issue => !rules issue.rule := by
  have hasked : Rule.all.filter (settings.withDisabled rules).enables =
      (Rule.all.filter settings.enables).filter fun rule => !rules rule := by
    rw [List.filter_filter]
    apply List.filter_congr
    intro rule _
    rw [enables_withDisabled, Bool.and_comm]
  rw [ofLine, ofLine, hasked, List.filterMap_filter, List.filter_filterMap]
  -- an issue is about the rule that was asked
  apply List.filterMap_congr
  intro rule _
  rw [check_withDisabled]
  cases hcheck : rule.check settings ctx with
  | none => simp
  | some message =>
      cases hoff : rules rule with
      | false => simp [Option.filter, hoff]
      | true => simp [Option.filter, hoff]

theorem ofUnclosed_withDisabled (unclosed : Option Nat) :
    ofUnclosed (settings.withDisabled rules) unclosed =
      (ofUnclosed settings unclosed).filter fun issue => !rules issue.rule := by
  cases unclosed with
  | none => rfl
  | some number =>
      cases henabled : settings.enables .unclosedDirective with
      | false => simp [ofUnclosed, henabled]
      | true =>
          cases hoff : rules .unclosedDirective with
          | false => simp [ofUnclosed, henabled, hoff]
          | true => simp [ofUnclosed, henabled, hoff]

/-- Turning rules off takes their issues out of a report and leaves the rest as it is. -/
theorem ofLines_withDisabled (lines : List Line) :
    ofLines (settings.withDisabled rules) lines =
      (ofLines settings lines).filter fun issue => !rules issue.rule := by
  -- which lines are inspected is up to the directives alone
  have hline : ofLine (settings.withDisabled rules) = fun ctx =>
      (ofLine settings ctx).filter fun issue => !rules issue.rule := by
    funext ctx
    exact ofLine_withDisabled settings rules ctx
  rw [ofLines, ofLines, List.filter_append, List.filter_flatMap, hline, ofUnclosed_withDisabled]

end Inspection

/-! ## Findings -/

/-- The same holds of the findings of a file, whether it has a text or not. -/
theorem findingsOf_withDisabled (path : Path) (text : Except Unreadable Text) :
    findingsOf (settings.withDisabled rules) path text =
      (findingsOf settings path text).filter fun finding => !rules finding.rule := by
  cases text with
  | ok contents =>
      have hissues : inspect (settings.withDisabled rules) contents =
          (inspect settings contents).filter fun issue => !rules issue.rule :=
        Inspection.ofLines_withDisabled settings rules _
      rw [findingsOf, findingsOf, hissues, List.filter_map]
      rfl
  | error reason =>
      -- a file that cannot be read has one finding or none
      cases henabled : settings.enables .unreadableFile with
      | false => simp [findingsOf, henabled]
      | true =>
          cases hoff : rules .unreadableFile with
          | false => simp [findingsOf, henabled, hoff]
          | true => simp [findingsOf, henabled, hoff]

/-- With more rules turned off, a file has exactly the findings that it had before and that are not
about one of these rules, in the same order and with the same messages, whether the file can be read
or not. -/
theorem inspectFile_withDisabled (ws : Workspace) (path : Path) :
    ws.inspectFile (settings.withDisabled rules) path =
      (ws.inspectFile settings path).filter fun finding => !rules finding.rule :=
  findingsOf_withDisabled settings rules path (ws.text path)

end TextHygiene
