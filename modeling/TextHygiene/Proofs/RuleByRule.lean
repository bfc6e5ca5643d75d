import Mathlib.Data.List.Sort
import TextHygiene.Proofs.Inspection

/-!
# Reports rule by rule

A report falls into one part for each rule.  The lines that a rule is reported on come in strictly
increasing order, so that they are known as soon as it is known which lines they are.  Two
inspections agree on the rules of a set if on every line the rules of the set answer alike.
-/

namespace TextHygiene

open Line Directive Suppression

namespace Check

/-- A rule speaks up exactly if it is broken. -/
@[simp] theorem isSome_report (broken : Bool) (message : Text) :
    (report broken message).isSome = broken := by
  cases broken with
  | _ => rfl

variable {settings : Settings} {line : Line} {ctx : Context}

/-- A line is reported as too long exactly if it is longer than allowed. -/
theorem lineTooLong_isSome_iff :
    (lineTooLong settings line).isSome = true ↔ settings.maxLineLength.toNat < line.length := by
  simp only [lineTooLong, isSome_report, decide_eq_true_eq]

/-- The sum of the indentation and one level is taken in 64 bits. -/
theorem toNat_oneLevelBelow (settings : Settings) (above : Line) :
    (oneLevelBelow settings above).toNat =
      (above.indent + settings.indentSize.toNat) % UInt64.size := by
  rw [oneLevelBelow, UInt64.toNat_add, UInt64.toNat_ofNat', Nat.mod_add_mod]

/-- A line is reported as indented too far if neither it nor the line above is blank and it exceeds
the sum of the indentation above and one level, which wraps around. -/
theorem overIndentation_isSome_iff :
    (overIndentation settings ctx).isSome = true ↔
      ctx.line.isBlank = false ∧
        ∃ above, ctx.above = some above ∧ above.isBlank = false ∧
          (above.indent + settings.indentSize.toNat) % UInt64.size < ctx.line.indent := by
  simp only [overIndentation, isSome_report, Bool.and_eq_true, Bool.not_eq_true',
    Option.any_eq_true, decide_eq_true_eq, toNat_oneLevelBelow]

/-- A blank line is reported if more blank lines than allowed end with it. -/
theorem excessiveBlankLines_isSome_iff :
    (excessiveBlankLines settings ctx).isSome = true ↔
      ctx.line.isBlank = true ∧ settings.maxBlankLines.toNat < ctx.blankRun := by
  simp only [excessiveBlankLines, isSome_report, Bool.and_eq_true, decide_eq_true_eq]

theorem missingFinalNewline_isSome_iff :
    (missingFinalNewline ctx).isSome = true ↔
      ctx.isLast = true ∧ ctx.line.terminated = false := by
  simp only [missingFinalNewline, isSome_report, Bool.and_eq_true, Bool.not_eq_true']

end Check

namespace Inspection

/-! ## The lines of one rule -/

/-- The lines of the issues that are about a rule, in the order of the issues. -/
def linesAbout (rule : Rule) (issues : List Issue) : List Nat :=
  (issues.filter (·.rule == rule)).map (·.line)

variable {settings : Settings} {lines : List Line} {rule : Rule} {n : Nat}

theorem mem_linesAbout_iff {issues : List Issue} :
    n ∈ linesAbout rule issues ↔ ∃ issue ∈ issues, issue.rule = rule ∧ issue.line = n := by
  simp [linesAbout, and_assoc]

/-- No line is reported twice by one rule. -/
theorem sortedLT_linesAbout (rule : Rule) (settings : Settings) (lines : List Line) :
    (linesAbout rule (ofLines settings lines)).SortedLT := by
  rw [List.sortedLT_iff_pairwise, linesAbout, List.pairwise_map, List.pairwise_filter]
  refine (pairwise_ofLines settings lines).imp ?_
  rintro a b (hline | ⟨_, hrank⟩) ha hb
  · exact hline
  · -- issues of one rule on one line would be in no order
    rw [beq_iff_eq.1 ha, beq_iff_eq.1 hb] at hrank
    exact absurd hrank (Nat.lt_irrefl _)

/-- A line rule is reported on the lines that it objects to, if it is enabled and no directive
exempts them. -/
theorem mem_linesAbout_ofLines_iff (hrule : rule ≠ .unclosedDirective) :
    n ∈ linesAbout rule (ofLines settings lines) ↔
      settings.enables rule = true ∧ ¬ Exempt lines n ∧
        ∃ ctx, Context.IsAt lines n ctx ∧ (rule.check settings ctx).isSome = true := by
  rw [mem_linesAbout_iff]
  constructor
  · rintro ⟨issue, hmem, rfl, rfl⟩
    rcases mem_ofLines_iff.1 hmem with ⟨henabled, ⟨hnot, ctx, hctx, hcheck⟩ | ⟨hunclosed, _⟩⟩
    · exact ⟨henabled, hnot, ctx, hctx, by rw [hcheck]; rfl⟩
    · -- an `OFF` that is left open is the one thing that is reported on an exempt line
      exact absurd hunclosed hrule
  · rintro ⟨henabled, hnot, ctx, hctx, hcheck⟩
    rcases Option.isSome_iff_exists.1 hcheck with ⟨message, hmessage⟩
    exact ⟨⟨n, rule, message⟩,
      mem_ofLines_iff.2 ⟨henabled, Or.inl ⟨hnot, ctx, hctx, hmessage⟩⟩, rfl, rfl⟩

variable {a b : Settings}

/-- A rule that objects to fewer lines is reported on fewer lines, in the same order. -/
theorem linesAbout_sublist (hrule : rule ≠ .unclosedDirective)
    (henables : a.enables rule = true → b.enables rule = true)
    (hcheck : ∀ n ctx, Context.IsAt lines n ctx →
      (rule.check a ctx).isSome = true → (rule.check b ctx).isSome = true) :
    (linesAbout rule (ofLines a lines)).Sublist (linesAbout rule (ofLines b lines)) := by
  -- both lists are in order, so it is enough that every line of the first is in the second
  have hsorted := sortedLT_linesAbout rule a lines
  have hsubset : linesAbout rule (ofLines a lines) ⊆ linesAbout rule (ofLines b lines) := by
    intro n hn
    rcases (mem_linesAbout_ofLines_iff hrule).1 hn with ⟨henabled, hnot, ctx, hctx, hsome⟩
    exact (mem_linesAbout_ofLines_iff hrule).2
      ⟨henables henabled, hnot, ctx, hctx, hcheck n ctx hctx hsome⟩
  exact List.sublist_of_subperm_of_sortedLE (List.subperm_of_subset hsorted.nodup hsubset)
    hsorted.sortedLE (sortedLT_linesAbout rule b lines).sortedLE

/-- Rules that object to the same lines are reported on the same lines. -/
theorem linesAbout_congr (hrule : rule ≠ .unclosedDirective)
    (henables : a.enables rule = b.enables rule)
    (hcheck : ∀ ctx, (rule.check a ctx).isSome = (rule.check b ctx).isSome) (lines : List Line) :
    linesAbout rule (ofLines a lines) = linesAbout rule (ofLines b lines) := by
  have hleft : (linesAbout rule (ofLines a lines)).Sublist (linesAbout rule (ofLines b lines)) :=
    linesAbout_sublist hrule (fun h => henables ▸ h) fun _ ctx _ h => hcheck ctx ▸ h
  have hright : (linesAbout rule (ofLines b lines)).Sublist (linesAbout rule (ofLines a lines)) :=
    linesAbout_sublist hrule (fun h => henables.symm ▸ h) fun _ ctx _ h => (hcheck ctx).symm ▸ h
  exact hleft.antisymm hright

/-! ## The rules of a set -/

variable {keep : RuleSet}

/-- On two lines the rules of a set have the same issues if each of them answers alike. -/
theorem filter_ofLine_congr {c d : Context} (hnumber : c.number = d.number)
    (henables : ∀ rule, a.enables rule = b.enables rule)
    (hcheck : ∀ rule, keep rule = true → rule.check a c = rule.check b d) :
    (ofLine a c).filter (fun issue => keep issue.rule) =
      (ofLine b d).filter (fun issue => keep issue.rule) := by
  rw [ofLine, ofLine, funext henables, List.filter_filterMap, List.filter_filterMap, hnumber]
  apply List.filterMap_congr
  intro rule _
  by_cases hkeep : keep rule = true
  · rw [hcheck rule hkeep]
  · -- the rule is outside the set, so what it says is dropped
    have hdropped : ∀ answer : Option Text,
        (answer.map fun message => Issue.mk d.number rule message).filter
          (fun issue => keep issue.rule) = none := by
      intro answer
      cases answer with
      | none => rfl
      | some message => simp [Option.filter, hkeep]
    rw [hdropped, hdropped]

/-- If each rule of a set answers alike on all lines, two reports agree on the rules of the set. -/
theorem filter_ofLines_congr (lines : List Line)
    (henables : ∀ rule, a.enables rule = b.enables rule)
    (hcheck : ∀ rule ctx, keep rule = true → rule.check a ctx = rule.check b ctx) :
    (ofLines a lines).filter (fun issue => keep issue.rule) =
      (ofLines b lines).filter (fun issue => keep issue.rule) := by
  have hline : (fun ctx => (ofLine a ctx).filter fun issue => keep issue.rule) =
      fun ctx => (ofLine b ctx).filter fun issue => keep issue.rule := by
    funext ctx
    exact filter_ofLine_congr rfl henables fun rule => hcheck rule ctx
  have hunclosed : ofUnclosed a = ofUnclosed b := by
    funext unclosed
    simp only [ofUnclosed, henables]
  rw [ofLines, ofLines, List.filter_append, List.filter_append, List.filter_flatMap,
    List.filter_flatMap, hline, hunclosed]

end Inspection

end TextHygiene
