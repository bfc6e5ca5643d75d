import TextHygiene.Proofs.Context
import TextHygiene.Proofs.Suppression

/-!
# What an inspection reports

The issues of a file are told apart one by one: a rule is reported on a line exactly if it is
enabled, the line is not exempt and the rule objects to the line in its context, or if it is the
rule about an `OFF` that no `ON` follows.  The issues come in strictly increasing order of line and
rule.
-/

namespace TextHygiene

open Line Directive Suppression

/-! ## Order -/

/-- An issue on an earlier line, or of an earlier rule on the same line. -/
def Issue.Before (a b : Issue) : Prop :=
  a.line < b.line ∨ a.line = b.line ∧ a.rule.rank < b.rule.rank

theorem Rule.pairwise_rank_all : Rule.all.Pairwise fun a b => a.rank < b.rank := by
  decide

namespace Inspection

def linesOf (contents : Text) : List Line :=
  Line.split (withoutMark contents)

/-- The message about an `OFF` that is never turned back on. -/
def unclosedMessage : Text :=
  "CodeDust should be re-enabled afterwards.".toList

variable {settings : Settings} {lines : List Line}

/-! ## The issues of one line -/

/-- On one line every enabled rule that is broken has its issue. -/
theorem mem_ofLine_iff {ctx : Context} {issue : Issue} :
    issue ∈ ofLine settings ctx ↔
      settings.enables issue.rule = true ∧ issue.line = ctx.number ∧
        issue.rule.check settings ctx = some issue.message := by
  rcases issue with ⟨line, rule, message⟩
  simp only [ofLine, List.mem_filterMap, List.mem_filter, Option.map_eq_some_iff, Issue.mk.injEq]
  constructor
  · rintro ⟨rule', ⟨_, henabled⟩, message', hcheck, rfl, rfl, rfl⟩
    exact ⟨henabled, rfl, hcheck⟩
  · rintro ⟨henabled, rfl, hcheck⟩
    exact ⟨rule, ⟨Rule.mem_all rule, henabled⟩, message, hcheck, rfl, rfl, rfl⟩

/-- The issues of one line are in the order of the rules. -/
theorem pairwise_ofLine (settings : Settings) (ctx : Context) :
    (ofLine settings ctx).Pairwise Issue.Before := by
  rw [ofLine, List.pairwise_filterMap]
  refine (Rule.pairwise_rank_all.filter _).imp ?_
  intro a b hab x hx y hy
  rcases Option.map_eq_some_iff.1 hx with ⟨_, _, rfl⟩
  rcases Option.map_eq_some_iff.1 hy with ⟨_, _, rfl⟩
  exact Or.inr ⟨rfl, hab⟩

/-- An `OFF` that is left open makes one issue, if the rule is enabled. -/
theorem mem_ofUnclosed_iff {unclosed : Option Nat} {issue : Issue} :
    issue ∈ ofUnclosed settings unclosed ↔
      settings.enables issue.rule = true ∧ unclosed = some issue.line ∧
        issue.rule = .unclosedDirective ∧ issue.message = unclosedMessage := by
  rcases issue with ⟨line, rule, message⟩
  cases unclosed with
  | none => simp [ofUnclosed]
  | some number =>
      by_cases h : settings.enables .unclosedDirective = true
      · simp only [ofUnclosed, if_pos h, List.mem_singleton, Issue.mk.injEq, Option.some.injEq]
        constructor
        · rintro ⟨rfl, rfl, rfl⟩
          exact ⟨h, rfl, rfl, rfl⟩
        · rintro ⟨_, rfl, rfl, rfl⟩
          exact ⟨rfl, rfl, rfl⟩
      · simp only [ofUnclosed, if_neg h, List.not_mem_nil, false_iff]
        rintro ⟨henabled, _, rfl, _⟩
        exact h henabled

/-! ## The lines that are inspected -/

theorem inspected_sublist (lines : List Line) :
    (inspected (scan lines) (Context.list lines)).Sublist (Context.list lines) := by
  have hlen : (Context.list lines).length ≤ (scan lines).exempt.length := by
    rw [Context.list, Context.length_listFrom, scan, length_scanFrom]
  have hsub := (List.filter_sublist (p := fun pair : Context × Bool => !pair.2)
    (l := (Context.list lines).zip (scan lines).exempt)).map (·.1)
  rwa [List.map_fst_zip hlen] at hsub

/-- The lines that are inspected are those that no directive exempts. -/
theorem mem_inspected_iff {ctx : Context} :
    ctx ∈ inspected (scan lines) (Context.list lines) ↔
      ∃ n, Context.IsAt lines n ctx ∧ ¬ Exempt lines n := by
  simp only [inspected, List.mem_map, List.mem_filter, Prod.exists, Bool.not_eq_true']
  constructor
  · rintro ⟨_, _, ⟨hmem, rfl⟩, rfl⟩
    rcases List.mem_iff_getElem?.1 hmem with ⟨i, hi⟩
    rcases List.getElem?_zip_eq_some.1 hi with ⟨hctx, hexempt⟩
    refine ⟨i + 1, Context.list_getElem?_eq_some_iff.1 hctx, ?_⟩
    rw [← scan_exempt_getElem? hexempt]
    exact Bool.false_ne_true
  · rintro ⟨n, hctx, hnot⟩
    -- there are as many marks as lines
    have hbounds := bounds_of_numbered? hctx.line
    rcases n with _ | i
    · omega
    · have hlt : i < (scan lines).exempt.length := by
        rw [scan, length_scanFrom]
        omega
      have hexempt := List.getElem?_eq_getElem hlt
      have hmark : (scan lines).exempt[i] = false := by
        rw [← Bool.not_eq_true, scan_exempt_getElem? hexempt]
        exact hnot
      rw [hmark] at hexempt
      have hget := Context.list_getElem?_eq_some_iff.2 hctx
      have hmem : (ctx, false) ∈ (Context.list lines).zip (scan lines).exempt :=
        List.mem_iff_getElem?.2 ⟨i, List.getElem?_zip_eq_some.2 ⟨hget, hexempt⟩⟩
      exact ⟨ctx, false, ⟨hmem, rfl⟩, rfl⟩

theorem pairwise_number_list (lines : List Line) :
    (Context.list lines).Pairwise fun a b => a.number < b.number := by
  rw [List.pairwise_iff_getElem]
  intro i j hi hj hij
  have hfirst := Context.list_getElem?_eq_some_iff.1 (List.getElem?_eq_getElem hi)
  have hsecond := Context.list_getElem?_eq_some_iff.1 (List.getElem?_eq_getElem hj)
  rw [hfirst.number, hsecond.number]
  omega

/-! ## The issues of a file -/

/-- An issue is that of a broken rule on a line that is not exempt, or that of the `OFF` that is
left open. -/
theorem mem_ofLines_iff {issue : Issue} :
    issue ∈ ofLines settings lines ↔
      settings.enables issue.rule = true ∧
        ((¬ Exempt lines issue.line ∧
            ∃ ctx, Context.IsAt lines issue.line ctx ∧
              issue.rule.check settings ctx = some issue.message) ∨
          (issue.rule = .unclosedDirective ∧
            LastSwitch lines lines.length issue.line .off ∧ issue.message = unclosedMessage)) := by
  simp only [ofLines, List.mem_append, List.mem_flatMap, mem_inspected_iff, mem_ofLine_iff,
    mem_ofUnclosed_iff, scan_unclosed_eq_some_iff]
  constructor
  · rintro (⟨ctx, ⟨n, hctx, hnot⟩, henabled, hline, hcheck⟩ | ⟨henabled, hlast, hrule, hmessage⟩)
    · -- the issue bears the number of the line that its context is about
      have hn : n = issue.line := by rw [hline, hctx.number]
      subst hn
      exact ⟨henabled, Or.inl ⟨hnot, ctx, hctx, hcheck⟩⟩
    · exact ⟨henabled, Or.inr ⟨hrule, hlast, hmessage⟩⟩
  · rintro ⟨henabled, ⟨hnot, ctx, hctx, hcheck⟩ | ⟨hrule, hlast, hmessage⟩⟩
    · exact Or.inl ⟨ctx, ⟨issue.line, hctx, hnot⟩, henabled, hctx.number.symm, hcheck⟩
    · exact Or.inr ⟨henabled, hlast, hrule, hmessage⟩

/-- All issues are in order, by lines and then by rules. -/
theorem pairwise_ofLines (settings : Settings) (lines : List Line) :
    (ofLines settings lines).Pairwise Issue.Before := by
  rw [ofLines, List.pairwise_append, List.pairwise_flatMap]
  refine ⟨⟨fun ctx _ => pairwise_ofLine settings ctx, ?_⟩, ?_, ?_⟩
  · -- the issues of different lines are in the order of the lines
    refine ((pairwise_number_list lines).sublist (inspected_sublist lines)).imp ?_
    intro a b hab x hx y hy
    refine Or.inl ?_
    rw [(mem_ofLine_iff.1 hx).2.1, (mem_ofLine_iff.1 hy).2.1]
    exact hab
  · cases (scan lines).unclosed with
    | none => exact List.Pairwise.nil
    | some number =>
        by_cases h : settings.enables .unclosedDirective = true
        · simp [ofUnclosed, h]
        · simp [ofUnclosed, h]
  · -- an unclosed `OFF` exempts its own line and all lines behind it, so its issue may stand last
    intro x hx y hy
    rcases List.mem_flatMap.1 hx with ⟨ctx, hctx, hx⟩
    rcases mem_inspected_iff.1 hctx with ⟨n, hat, hnot⟩
    have hlast := scan_unclosed_eq_some_iff.1 (mem_ofUnclosed_iff.1 hy).2.1
    refine Or.inl ?_
    rw [(mem_ofLine_iff.1 hx).2.1, hat.number]
    by_contra hge
    exact hnot (exempt_of_unclosed hlast (by omega) (bounds_of_numbered? hat.line).2)

/-- Issues are on lines that exist. -/
theorem bounds_of_mem_ofLines {issue : Issue} (h : issue ∈ ofLines settings lines) :
    1 ≤ issue.line ∧ issue.line ≤ lines.length := by
  rcases (mem_ofLines_iff.1 h).2 with ⟨_, ctx, hctx, _⟩ | ⟨_, hlast, _⟩
  · exact bounds_of_numbered? hctx.line
  · exact hlast.stands.bounds

end Inspection

open Inspection

/-- What an inspection reports, and in which order: an issue is reported exactly if its rule is
enabled and either the rule objects to a line that is not exempt, seen in its context, or the issue
is about an `OFF` that no `ON` follows. -/
theorem inspect_exact (settings : Settings) (contents : Text) :
    (∀ issue, issue ∈ inspect settings contents ↔
      settings.enables issue.rule = true ∧
        ((¬ Exempt (linesOf contents) issue.line ∧
            ∃ ctx, Context.IsAt (linesOf contents) issue.line ctx ∧
              issue.rule.check settings ctx = some issue.message) ∨
          (issue.rule = .unclosedDirective ∧
            LastSwitch (linesOf contents) (linesOf contents).length issue.line .off ∧
            issue.message = unclosedMessage))) ∧
      (inspect settings contents).Pairwise Issue.Before ∧
      ∀ issue ∈ inspect settings contents,
        1 ≤ issue.line ∧ issue.line ≤ (linesOf contents).length :=
  ⟨fun _ => mem_ofLines_iff, pairwise_ofLines settings (linesOf contents),
    fun _ => bounds_of_mem_ofLines⟩

end TextHygiene
