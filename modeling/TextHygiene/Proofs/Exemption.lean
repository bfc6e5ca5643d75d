import TextHygiene.Proofs.Inspection

/-!
# What directives do to a report

Directives form a small state machine: `OFF` and `ON` switch inspection off and on, and `SKIP`
exempts one line.  The reader of directives is this machine, and so a report says nothing about an
exempt line but that an `OFF` was left open.  That issue comes last, behind all lines with issues.
-/

namespace TextHygiene

open Line Directive Suppression Inspection

/-! ## Directives of a line -/

namespace Directive

variable {text : Text} {d e : Directive}

/-- No ending is an ending of another one. -/
theorem eq_of_ending_suffix (h : d.ending <:+ e.ending) : d = e := by
  revert h
  cases d with
  | _ =>
      cases e with
      | _ => decide

/-- No line ends in two directives. -/
theorem eq_of_suffix (hd : d.ending <:+ text) (he : e.ending <:+ text) : d = e := by
  rcases List.suffix_or_suffix_of_suffix hd he with hshort | hshort
  · exact eq_of_ending_suffix hshort
  · exact (eq_of_ending_suffix hshort).symm

/-- A line carries the directive that it ends in, trailing blanks aside. -/
theorem of?_eq_some_iff : of? text = some d ↔ d.ending <:+ Text.trimEnd text := by
  have hfound : ∀ {found}, of? text = some found → found.ending <:+ Text.trimEnd text := by
    intro found h
    simpa using List.find?_some h
  constructor
  · exact hfound
  · intro hd
    cases h : of? text with
    | none =>
        have hmem : d ∈ [skip, off, on] := by
          cases d with
          | _ => decide
        have hnot := List.find?_eq_none.1 h d hmem
        simp [hd] at hnot
    | some found => rw [eq_of_suffix (hfound h) hd]

end Directive

/-! ## Exempt lines -/

namespace Suppression

variable {lines : List Line} {place : Nat}

/-- The reader marks a place exactly if there is a line and directives exempt it. -/
theorem exempts_scan_iff :
    (scan lines).exempts place = true ↔ place < lines.length ∧ Exempt lines (place + 1) := by
  have hlength : (scan lines).exempt.length = lines.length := length_scanFrom 1 none lines
  rw [exempts, List.getD_eq_getElem?_getD]
  by_cases hplace : place < lines.length
  · have hget := List.getElem?_eq_getElem (hlength ▸ hplace)
    rw [hget, Option.getD_some, scan_exempt_getElem? hget]
    exact (and_iff_right hplace).symm
  · have hnone : (scan lines).exempt[place]? = none :=
      List.getElem?_eq_none (by omega)
    rw [hnone]
    exact iff_of_false Bool.false_ne_true fun h => hplace h.1

end Suppression

/-! ## Issues about an open `OFF` -/

namespace Inspection

variable {settings : Settings} {lines : List Line} {issue other : Issue}

/-- No line rule speaks of an `OFF` that is left open. -/
theorem lastSwitch_of_unclosed (h : issue ∈ ofLines settings lines)
    (hrule : issue.rule = .unclosedDirective) :
    LastSwitch lines lines.length issue.line .off := by
  rcases (mem_ofLines_iff.1 h).2 with ⟨_, ctx, _, hcheck⟩ | ⟨_, hlast, _⟩
  · rw [hrule] at hcheck
    cases hcheck
  · exact hlast

/-- All that is ever reported on an exempt line is the `OFF` that is left open. -/
theorem rule_of_exempt (h : issue ∈ ofLines settings lines) (hexempt : Exempt lines issue.line) :
    issue.rule = .unclosedDirective := by
  rcases (mem_ofLines_iff.1 h).2 with ⟨hnot, _⟩ | ⟨hrule, _⟩
  · exact absurd hexempt hnot
  · exact hrule

/-- Every other issue is about a line above the `OFF` that is left open. -/
theorem line_lt_of_unclosed (h : issue ∈ ofLines settings lines)
    (hrule : issue.rule = .unclosedDirective) (hother : other ∈ ofLines settings lines)
    (hne : other.rule ≠ .unclosedDirective) : other.line < issue.line := by
  have hlast := lastSwitch_of_unclosed h hrule
  have hbound := (bounds_of_mem_ofLines hother).2
  by_contra hbehind
  -- from the `OFF` on all lines are exempt
  have hexempt : Exempt lines other.line :=
    exempt_of_unclosed hlast (Nat.le_of_not_lt hbehind) hbound
  exact hne (rule_of_exempt hother hexempt)

/-- No issue comes behind the one about the `OFF` that is left open. -/
theorem not_before_of_unclosed (h : issue ∈ ofLines settings lines)
    (hrule : issue.rule = .unclosedDirective) (hother : other ∈ ofLines settings lines) :
    ¬ issue.Before other := by
  intro hbefore
  by_cases hsame : other.rule = .unclosedDirective
  · -- there is only one such issue
    have hleft := scan_unclosed_eq_some_iff.2 (lastSwitch_of_unclosed h hrule)
    have hleft' := scan_unclosed_eq_some_iff.2 (lastSwitch_of_unclosed hother hsame)
    have hone : issue.line = other.line := Option.some.inj (hleft.symm.trans hleft')
    rcases hbefore with hline | ⟨_, hrank⟩
    · exact absurd hone (Nat.ne_of_lt hline)
    · rw [hrule, hsame] at hrank
      exact absurd hrank (Nat.lt_irrefl _)
  · have habove := line_lt_of_unclosed h hrule hother hsame
    rcases hbefore with hline | ⟨hline, _⟩
    · exact absurd hline (Nat.lt_asymm habove)
    · exact absurd hline.symm (Nat.ne_of_lt habove)

/-- The issue about the `OFF` that is left open ends the report, and all others are about lines
above that `OFF`. -/
theorem ofLines_eq_concat (h : issue ∈ ofLines settings lines)
    (hrule : issue.rule = .unclosedDirective) :
    ∃ before, ofLines settings lines = before ++ [issue] ∧
      ∀ other ∈ before, other.line < issue.line := by
  have hordered := pairwise_ofLines settings lines
  rcases List.append_of_mem h with ⟨before, after, hsplit⟩
  have hmem : ∀ {other}, other ∈ before ++ issue :: after → other ∈ ofLines settings lines := by
    intro other hother
    exact hsplit ▸ hother
  rw [hsplit, List.pairwise_append, List.pairwise_cons] at hordered
  rcases hordered with ⟨_, ⟨hafter, _⟩, hbefore⟩
  -- no issue can come behind the one about an open `OFF`
  have hnil : after = [] := by
    rw [List.eq_nil_iff_forall_not_mem]
    intro other hother
    have hin := hmem (List.mem_append_right before (List.mem_cons_of_mem issue hother))
    exact not_before_of_unclosed h hrule hin (hafter other hother)
  refine ⟨before, by rw [hsplit, hnil], ?_⟩
  intro other hother
  have hin := hmem (List.mem_append_left (issue :: after) hother)
  rcases hbefore other hother issue List.mem_cons_self with hline | ⟨_, hrank⟩
  · exact hline
  · -- a rule of another rank is another rule
    apply line_lt_of_unclosed h hrule hin
    intro hsame
    rw [hrule, hsame] at hrank
    exact absurd hrank (Nat.lt_irrefl _)

end Inspection

/-- Directives are a state machine: a line is exempt exactly if it carries `SKIP` or the last switch
up to it is `OFF`, and an `OFF` is left open exactly if it is the last switch of the file.  Hence a
report has no issue on an exempt line but the one about an open `OFF`, which comes last and behind
all lines with other issues. -/
theorem suppression_exact :
    (∀ text d, of? text = some d ↔ d.ending <:+ Text.trimEnd text) ∧
    (∀ lines place, (scan lines).exempts place = true ↔
      place < lines.length ∧ Exempt lines (place + 1)) ∧
    (∀ lines n, (scan lines).unclosed = some n ↔ LastSwitch lines lines.length n .off) ∧
    ∀ settings contents,
      (∀ issue ∈ inspect settings contents,
        Exempt (linesOf contents) issue.line → issue.rule = .unclosedDirective) ∧
      ∀ issue ∈ inspect settings contents, issue.rule = .unclosedDirective →
        ∃ before, inspect settings contents = before ++ [issue] ∧
          ∀ other ∈ before, other.line < issue.line := by
  -- the scan is settled by the lemmas above; the report is left
  refine ⟨fun _ _ => of?_eq_some_iff, fun _ _ => exempts_scan_iff,
    fun _ _ => scan_unclosed_eq_some_iff, fun settings contents => ⟨?_, ?_⟩⟩
  · intro issue hissue hexempt
    exact rule_of_exempt hissue hexempt
  · intro issue hissue hrule
    exact ofLines_eq_concat hissue hrule

/-- An `ON` that switches nothing, and an `OFF` below another one that is left open. -/
def openOff : Text :=
  "a \n# CodeDust: ON\nb \n# CodeDust: OFF\nc \n".toList ++
    "d # CodeDust: SKIP\n# CodeDust: OFF\ne \n".toList

def openOffIssue : Issue :=
  ⟨7, .unclosedDirective, unclosedMessage⟩

/-- The `OFF` that is left open is reported last, on its own line. -/
theorem suppression_exact_openOff :
    openOffIssue ∈ inspect {} openOff ∧
      (inspect {} openOff).map (·.line) = [1, 3, 7] ∧
      ∃ before, inspect {} openOff = before ++ [openOffIssue] ∧
        ∀ other ∈ before, other.line < 7 := by
  have hmem : openOffIssue ∈ inspect {} openOff := by
    decide +kernel
  rcases suppression_exact with ⟨_, _, _, hreport⟩
  exact ⟨hmem, by decide +kernel, (hreport {} openOff).2 _ hmem rfl⟩

end TextHygiene
