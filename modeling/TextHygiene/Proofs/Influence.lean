import TextHygiene.Proofs.RuleByRule

/-!
# Settings and the rules that read them

A rule reads few settings, so that a change of one setting leaves the reports of most rules as they
are.  A limit that is raised lets more lines pass: the rule that measures against it is reported on
some of the lines it was reported on before, and on no other.
-/

namespace TextHygiene

open Inspection

/-- A new value for one of the settings that the rules measure against. -/
inductive Change where
  | indentSize (size : UInt64)
  | maxLineLength (length : UInt64)
  | headerLength (length : UInt64)
  | maxBlankLines (count : UInt64)
  | lineComment (marker : Option Text)
deriving DecidableEq, Repr

namespace Change

def applyTo (settings : Settings) : Change → Settings
  | indentSize size => { settings with indentSize := size }
  | maxLineLength length => { settings with maxLineLength := length }
  | headerLength length => { settings with headerLength := length }
  | maxBlankLines count => { settings with maxBlankLines := count }
  | lineComment marker => { settings with lineComment := marker }

def readers : Change → RuleSet
  | indentSize _ => RuleSet.ofList [.tabIndentation, .indentSize, .overIndentation]
  | maxLineLength _ => RuleSet.ofList [.lineTooLong]
  | headerLength _ => RuleSet.ofList [.sectionHeaderLength]
  | maxBlankLines _ => RuleSet.ofList [.excessiveBlankLines]
  | lineComment _ =>
      RuleSet.ofList [.blankLineAfterSectionHeader, .missingSpaceAfterCommentMarker,
        .missingSpaceBeforeCommentMarker]

variable (settings : Settings) (change : Change)

@[simp] theorem enables_applyTo (rule : Rule) :
    (change.applyTo settings).enables rule = settings.enables rule := by
  cases change with
  | _ => rfl

/-- A rule that does not read a setting says the same whatever its value is. -/
theorem check_applyTo {rule : Rule} (h : change.readers rule = false) (ctx : Context) :
    rule.check (change.applyTo settings) ctx = rule.check settings ctx := by
  -- setting by setting: the rules that read it are left out by `h`, no other mentions the field
  cases change with
  | indentSize size =>
      cases rule with
      | tabIndentation | indentSize | overIndentation => cases h
      | _ => rfl
  | maxLineLength length =>
      cases rule with
      | lineTooLong => cases h
      | _ => rfl
  | headerLength length =>
      cases rule with
      | sectionHeaderLength => cases h
      | _ => rfl
  | maxBlankLines count =>
      cases rule with
      | excessiveBlankLines => cases h
      | _ => rfl
  | lineComment marker =>
      cases rule with
      | blankLineAfterSectionHeader | missingSpaceAfterCommentMarker
      | missingSpaceBeforeCommentMarker => cases h
      | _ => rfl

end Change

open Change

variable (settings : Settings) (lines : List Line)

/-! ## Reports -/

namespace Inspection

/-- The rules that do not read a setting have the same issues whatever its value is. -/
theorem filter_ofLines_applyTo (change : Change) :
    (ofLines (change.applyTo settings) lines).filter (fun issue => !change.readers issue.rule) =
      (ofLines settings lines).filter fun issue => !change.readers issue.rule := by
  have hcheck : ∀ rule ctx, (!change.readers rule) = true →
      rule.check (change.applyTo settings) ctx = rule.check settings ctx := by
    intro rule ctx hother
    exact change.check_applyTo settings (by simpa using hother) ctx
  exact filter_ofLines_congr lines (change.enables_applyTo settings) hcheck

/-- The rule about tabs only words its message by the size of a level. -/
theorem linesAbout_tabIndentation_applyTo (size : UInt64) :
    linesAbout .tabIndentation (ofLines ((indentSize size).applyTo settings) lines) =
      linesAbout .tabIndentation (ofLines settings lines) := by
  apply linesAbout_congr
  · decide
  · rfl
  · intro ctx
    simp only [Rule.check, Check.tabIndentation, Check.isSome_report]

/-! ## Limits -/

variable {settings lines}

/-- If a rule objects to fewer lines after a change, it is reported on fewer lines. -/
theorem linesAbout_applyTo_sublist {change : Change} {rule : Rule}
    (hrule : rule ≠ .unclosedDirective)
    (hcheck : ∀ n ctx, Context.IsAt lines n ctx →
      (rule.check (change.applyTo settings) ctx).isSome = true →
        (rule.check settings ctx).isSome = true) :
    (linesAbout rule (ofLines (change.applyTo settings) lines)).Sublist
      (linesAbout rule (ofLines settings lines)) := by
  apply linesAbout_sublist hrule
  · rw [enables_applyTo]
    exact id
  · exact hcheck

/-- A greater limit reports fewer lines as too long. -/
theorem linesAbout_lineTooLong_applyTo {length : UInt64} (h : settings.maxLineLength ≤ length) :
    (linesAbout .lineTooLong (ofLines ((maxLineLength length).applyTo settings) lines)).Sublist
      (linesAbout .lineTooLong (ofLines settings lines)) := by
  apply linesAbout_applyTo_sublist
  · decide
  · -- a line that is too long for the greater limit is so for the smaller one
    intro n ctx _ hbroken
    have hlong : length.toNat < ctx.line.length := Check.lineTooLong_isSome_iff.1 hbroken
    exact Check.lineTooLong_isSome_iff.2 (Nat.lt_of_le_of_lt (UInt64.le_iff_toNat_le.1 h) hlong)

/-- A greater limit reports fewer blank lines. -/
theorem linesAbout_excessiveBlankLines_applyTo {count : UInt64}
    (h : settings.maxBlankLines ≤ count) :
    (linesAbout .excessiveBlankLines
        (ofLines ((maxBlankLines count).applyTo settings) lines)).Sublist
      (linesAbout .excessiveBlankLines (ofLines settings lines)) := by
  apply linesAbout_applyTo_sublist
  · decide
  · intro n ctx _ hbroken
    rcases Check.excessiveBlankLines_isSome_iff.1 hbroken with ⟨hblank, hmany⟩
    have hmany : count.toNat < ctx.blankRun := hmany
    exact Check.excessiveBlankLines_isSome_iff.2
      ⟨hblank, Nat.lt_of_le_of_lt (UInt64.le_iff_toNat_le.1 h) hmany⟩

/-- A greater size of a level reports fewer lines as indented too far, as long as no sum wraps
around. -/
theorem linesAbout_overIndentation_applyTo {size : UInt64} (h : settings.indentSize ≤ size)
    (hfits : ∀ line ∈ lines, line.indent + size.toNat < UInt64.size) :
    (linesAbout .overIndentation (ofLines ((indentSize size).applyTo settings) lines)).Sublist
      (linesAbout .overIndentation (ofLines settings lines)) := by
  apply linesAbout_applyTo_sublist
  · decide
  · intro n ctx hctx hbroken
    rcases Check.overIndentation_isSome_iff.1 hbroken with ⟨hline, above, habove, hnot, hdeep⟩
    have hdeep : (above.indent + size.toNat) % UInt64.size < ctx.line.indent := hdeep
    have hmem : above ∈ lines := Line.mem_of_numbered? (hctx.above.symm.trans habove)
    have hsmall : above.indent + size.toNat < UInt64.size := hfits above hmem
    have hle : settings.indentSize.toNat ≤ size.toNat := UInt64.le_iff_toNat_le.1 h
    -- neither sum wraps around, the smaller one least of all
    rw [Nat.mod_eq_of_lt hsmall] at hdeep
    refine Check.overIndentation_isSome_iff.2 ⟨hline, above, habove, hnot, ?_⟩
    rw [Nat.mod_eq_of_lt (by omega)]
    omega

end Inspection

/-- A setting acts on the rules that read it and on no other: after a change of one setting the
issues of all other rules are the same, in the same order, and the size of a level does not decide
which lines have tabs.  A greater length of lines, a greater number of blank lines and a greater
size of a level never add a line to those that are too long, one blank line too many or indented too
far, unless the new size and the indentation of some line make a sum that does not fit in 64
bits. -/
theorem inspect_applyTo (settings : Settings) (contents : Text) :
    (∀ change : Change,
      (inspect (change.applyTo settings) contents).filter
          (fun issue => !change.readers issue.rule) =
        (inspect settings contents).filter fun issue => !change.readers issue.rule) ∧
      (∀ size, linesAbout .tabIndentation (inspect ((indentSize size).applyTo settings) contents) =
        linesAbout .tabIndentation (inspect settings contents)) ∧
      (∀ length, settings.maxLineLength ≤ length →
        (linesAbout .lineTooLong
            (inspect ((maxLineLength length).applyTo settings) contents)).Sublist
          (linesAbout .lineTooLong (inspect settings contents))) ∧
      (∀ count, settings.maxBlankLines ≤ count →
        (linesAbout .excessiveBlankLines
            (inspect ((maxBlankLines count).applyTo settings) contents)).Sublist
          (linesAbout .excessiveBlankLines (inspect settings contents))) ∧
      ∀ size, settings.indentSize ≤ size →
        (∀ line ∈ linesOf contents, line.indent + size.toNat < UInt64.size) →
        (linesAbout .overIndentation
            (inspect ((indentSize size).applyTo settings) contents)).Sublist
          (linesAbout .overIndentation (inspect settings contents)) :=
  ⟨filter_ofLines_applyTo settings (linesOf contents),
    linesAbout_tabIndentation_applyTo settings (linesOf contents),
    fun _ => linesAbout_lineTooLong_applyTo, fun _ => linesAbout_excessiveBlankLines_applyTo,
    fun _ => linesAbout_overIndentation_applyTo⟩

/-- Settings under which lines are soon too long. -/
def narrow : Settings :=
  { maxLineLength := 12, lineComment := some "#".toList }

/-- A text with faults of every kind that a setting of `narrow` decides. -/
def crowded : Text :=
  "####\n\n\n\n#a line too long\n  b\n             d\n\tc\n".toList

/-- Each limit is raised just far enough to let one line pass. -/
theorem inspect_applyTo_crowded :
    (narrow.maxLineLength ≤ 14 ∧
        linesAbout .lineTooLong (inspect narrow crowded) = [5, 7] ∧
        (linesAbout .lineTooLong
            (inspect ((maxLineLength 14).applyTo narrow) crowded)).Sublist [5, 7]) ∧
      (narrow.maxBlankLines ≤ 2 ∧
        linesAbout .excessiveBlankLines (inspect narrow crowded) = [3, 4] ∧
        (linesAbout .excessiveBlankLines
            (inspect ((maxBlankLines 2).applyTo narrow) crowded)).Sublist [3, 4]) ∧
      (narrow.indentSize ≤ 11 ∧
        (∀ line ∈ linesOf crowded, line.indent + (11 : UInt64).toNat < UInt64.size) ∧
        linesAbout .overIndentation (inspect narrow crowded) = [7] ∧
        (linesAbout .overIndentation
            (inspect ((indentSize 11).applyTo narrow) crowded)).Sublist [7]) ∧
      linesAbout .tabIndentation (inspect ((indentSize 11).applyTo narrow) crowded) = [8] ∧
      inspect ((lineComment none).applyTo narrow) crowded ≠ inspect narrow crowded ∧
      (inspect ((lineComment none).applyTo narrow) crowded).filter
          (fun issue => !(lineComment none).readers issue.rule) =
        (inspect narrow crowded).filter fun issue => !(lineComment none).readers issue.rule := by
  rcases inspect_applyTo narrow crowded with ⟨hothers, htabs, hlong, hblank, hdeep⟩
  -- with the narrow settings every rule finds something
  have hlines : linesAbout .lineTooLong (inspect narrow crowded) = [5, 7] ∧
      linesAbout .excessiveBlankLines (inspect narrow crowded) = [3, 4] ∧
      linesAbout .overIndentation (inspect narrow crowded) = [7] ∧
      linesAbout .tabIndentation (inspect narrow crowded) = [8] := by
    decide +kernel
  rcases hlines with ⟨hlongAt, hblankAt, hdeepAt, htabAt⟩
  have hlength : narrow.maxLineLength ≤ 14 := by decide
  have hcount : narrow.maxBlankLines ≤ 2 := by decide
  have hsize : narrow.indentSize ≤ 11 := by decide
  have hfits : ∀ line ∈ linesOf crowded, line.indent + (11 : UInt64).toNat < UInt64.size := by
    decide +kernel
  refine ⟨⟨hlength, hlongAt, ?_⟩, ⟨hcount, hblankAt, ?_⟩, ⟨hsize, hfits, hdeepAt, ?_⟩, ?_, ?_,
    hothers _⟩
  · exact hlongAt ▸ hlong 14 hlength
  · exact hblankAt ▸ hblank 2 hcount
  · exact hdeepAt ▸ hdeep 11 hsize hfits
  · rw [htabs, htabAt]
  · decide +kernel

-- A sum that does not fit in 64 bits wraps around, and then a greater size adds a line.
example :
    linesAbout .overIndentation (inspect {} " a\n b\n".toList) = [] ∧
      linesAbout .overIndentation
        (inspect ((indentSize 18446744073709551615).applyTo {}) " a\n b\n".toList) = [2] := by
  decide +kernel

end TextHygiene
