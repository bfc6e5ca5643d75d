import Mathlib.Algebra.BigOperators.Group.Finset.Basic
import Mathlib.Data.Finset.Prod
import Mathlib.Order.Interval.Finset.Nat
import TextHygiene.Proofs.Alike
import TextHygiene.Proofs.Exemption
import TextHygiene.Proofs.RuleByRule
import TextHygiene.Proofs.Trimming

/-!
# Gaps

A gap is a block of blank lines that no other blank line touches.  A line with a directive is not
blank, so directives exempt all lines of a gap or none.  Of a gap that is inspected exactly the
lines behind the allowed ones are reported as too many, each of them once, and of a gap that is
exempt none.
-/

namespace TextHygiene

open Line Directive Suppression Inspection

variable {lines : List Line} {first last n : Nat}

/-! ## Blocks of blank lines -/

namespace Line

theorem BlankAt.bounds (h : BlankAt lines n) : 1 ≤ n ∧ n ≤ lines.length := by
  rcases h with ⟨line, hline, _⟩
  exact bounds_of_numbered? hline

/-- The lines from `first` to `last` are blank, and the lines directly above and below are not. -/
structure IsGap (lines : List Line) (first last : Nat) : Prop where
  ordered : first ≤ last
  blank : ∀ n, first ≤ n → n ≤ last → BlankAt lines n
  above : ¬ BlankAt lines (first - 1)
  below : ¬ BlankAt lines (last + 1)

instance (lines : List Line) (first last : Nat) : Decidable (IsGap lines first last) :=
  decidable_of_iff
    (first ≤ last ∧ (∀ n ∈ Finset.Icc first last, BlankAt lines n) ∧
      ¬ BlankAt lines (first - 1) ∧ ¬ BlankAt lines (last + 1))
    ⟨fun ⟨hordered, hblank, habove, hbelow⟩ =>
        ⟨hordered, fun n hn hn' => hblank n (Finset.mem_Icc.2 ⟨hn, hn'⟩), habove, hbelow⟩,
      fun h => ⟨h.ordered,
        fun n hn => h.blank n (Finset.mem_Icc.1 hn).1 (Finset.mem_Icc.1 hn).2, h.above, h.below⟩⟩

namespace IsGap

variable {first' last' : Nat}

theorem bounds (h : IsGap lines first last) : 1 ≤ first ∧ last ≤ lines.length :=
  ⟨(h.blank first (Nat.le_refl _) h.ordered).bounds.1,
    (h.blank last h.ordered (Nat.le_refl _)).bounds.2⟩

/-- A line belongs to one gap at most. -/
theorem unique (h : IsGap lines first last) (h' : IsGap lines first' last')
    (hn : first ≤ n ∧ n ≤ last) (hn' : first' ≤ n ∧ n ≤ last') : first = first' ∧ last = last' := by
  -- a gap that reached further would have a blank line where the other one has none
  have hfirst : ¬ first' < first := fun hlt => h.above (h'.blank _ (by omega) (by omega))
  have hfirst' : ¬ first < first' := fun hlt => h'.above (h.blank _ (by omega) (by omega))
  have hlast : ¬ last < last' := fun hlt => h.below (h'.blank _ (by omega) (by omega))
  have hlast' : ¬ last' < last := fun hlt => h'.below (h.blank _ (by omega) (by omega))
  omega

/-- The longest block of blank lines that ends inside a gap reaches up to the start of the gap. -/
theorem longestBlankBlock (h : IsGap lines first last) (hn : first ≤ n) (hn' : n ≤ last) :
    LongestBlankBlock lines n (n + 1 - first) := by
  refine ⟨fun m hm hle => h.blank m (by omega) (by omega), ?_⟩
  intro k hk
  by_contra hlong
  have hpos := h.bounds.1
  exact h.above (hk (first - 1) (by omega) (by omega))

end IsGap

/-- Every blank line belongs to a gap. -/
theorem exists_isGap (h : BlankAt lines n) :
    ∃ first last, IsGap lines first last ∧ first ≤ n ∧ n ≤ last := by
  rcases h with ⟨line, hline, hblank⟩
  rcases Context.exists_isAt hline with ⟨ctx, hctx⟩
  have hat : BlankAt lines n := ⟨line, hline, hblank⟩
  have hrun := hctx.blankRun
  have hpos : ctx.blankRun ≠ 0 := fun hzero => hrun.eq_zero_iff.1 hzero hat
  have hle : ctx.blankRun ≤ n := by
    by_contra hlong
    exact not_blankAt_zero lines (hrun.1 0 (by omega) (Nat.zero_le n))
  -- downwards, the gap ends above the first line that is not blank
  have hend : ∃ k, ¬ BlankAt lines (n + k + 1) :=
    ⟨lines.length, fun hbeyond => by have := hbeyond.bounds; omega⟩
  refine ⟨n + 1 - ctx.blankRun, n + Nat.find hend, ⟨by omega, ?_, ?_, Nat.find_spec hend⟩,
    by omega, Nat.le_add_right _ _⟩
  · intro m hm hm'
    rcases Nat.lt_or_ge n m with hbehind | hbefore
    · have hblank := Nat.find_min hend (m := m - n - 1) (by omega)
      rw [not_not] at hblank
      have hsame : n + (m - n - 1) + 1 = m := by omega
      rwa [hsame] at hblank
    · exact hrun.1 m (by omega) hbefore
  · intro habove
    -- otherwise the block above would be longer by one
    have hlonger : ctx.blankRun + 1 ≤ ctx.blankRun := hrun.2 fun m hm hm' => by
      rcases Nat.lt_or_ge n (m + ctx.blankRun) with hin | hout
      · exact hrun.1 m hin hm'
      · have hsame : m = n + 1 - ctx.blankRun - 1 := by omega
        exact hsame ▸ habove
    omega

/-- The gaps of a file, each as its first and its last line. -/
def gaps (lines : List Line) : Finset (Nat × Nat) :=
  (Finset.Icc 1 lines.length ×ˢ Finset.Icc 1 lines.length).filter fun gap =>
    IsGap lines gap.1 gap.2

/-- The gaps that are listed are the gaps of the file. -/
theorem mem_gaps_iff {gap : Nat × Nat} : gap ∈ gaps lines ↔ IsGap lines gap.1 gap.2 := by
  rw [gaps, Finset.mem_filter, Finset.mem_product, Finset.mem_Icc, Finset.mem_Icc]
  refine and_iff_right_of_imp fun h => ?_
  have hbounds := h.bounds
  have hordered := h.ordered
  omega

end Line

/-! ## Exempt gaps -/

namespace Directive

/-- A blank line carries no directive. -/
theorem not_standsAt_of_blankAt (h : BlankAt lines n) (d : Directive) : ¬ StandsAt lines n d := by
  rcases h with ⟨line, hline, hblank⟩
  rw [standsAt_iff hline]
  have hnil : Text.trim line.text = [] := List.isEmpty_iff.1 hblank
  rcases Text.exists_eq_trim_between line.text with ⟨front, back, htext, hfront, hback⟩
  rw [hnil, List.append_nil] at htext
  have hall : ∀ c ∈ line.text, isBlank c = true := by
    intro c hc
    rw [htext] at hc
    exact (List.mem_append.1 hc).elim (hfront c) (hback c)
  have hend : Text.trimEnd line.text = [] := Text.trimEnd_append_of_blank hall []
  -- nothing but the empty text is an ending of the empty text
  have hnone : of? line.text = none := by
    rw [of?, hend]
    decide
  rw [hnone]
  intro hd
  cases hd

end Directive

namespace Suppression

/-- Directives exempt either both of two neighbouring blank lines or neither. -/
theorem exempt_succ_iff (h : BlankAt lines n) (h' : BlankAt lines (n + 1)) :
    Exempt lines (n + 1) ↔ Exempt lines n := by
  have hswitch : ∀ m, LastSwitch lines (n + 1) m .off ↔ LastSwitch lines n m .off := fun m =>
    lastSwitch_succ_of_no_switch fun e he => absurd he (not_standsAt_of_blankAt h' e)
  rw [Exempt, Exempt, exists_congr hswitch,
    iff_false_intro (not_standsAt_of_blankAt h' .skip),
    iff_false_intro (not_standsAt_of_blankAt h .skip)]

/-- Directives exempt all lines of a gap or none. -/
theorem exempt_iff_of_isGap (h : IsGap lines first last) (hn : first ≤ n) (hn' : n ≤ last) :
    Exempt lines n ↔ Exempt lines first := by
  induction n, hn using Nat.le_induction with
  | base => exact Iff.rfl
  | succ n hn ih =>
      have hblank := h.blank n hn (by omega)
      have hnext := h.blank (n + 1) (by omega) hn'
      exact (exempt_succ_iff hblank hnext).trans (ih (by omega))

def inspectedGaps (lines : List Line) : Finset (Nat × Nat) :=
  (gaps lines).filter fun gap => (scan lines).exempts (gap.1 - 1) = false

theorem mem_inspectedGaps_iff {gap : Nat × Nat} :
    gap ∈ inspectedGaps lines ↔ IsGap lines gap.1 gap.2 ∧ ¬ Exempt lines gap.1 := by
  rw [inspectedGaps, Finset.mem_filter, mem_gaps_iff]
  refine and_congr_right fun h => ?_
  have hbounds := h.bounds
  have hordered := h.ordered
  have hplace : gap.1 - 1 + 1 = gap.1 := Nat.sub_add_cancel hbounds.1
  rw [← Bool.not_eq_true, exempts_scan_iff, hplace, and_iff_right (by omega)]

end Suppression

/-! ## Too many blank lines -/

namespace Inspection

variable {settings : Settings}

/-- The lines with one blank line too many are those of a gap behind the allowed ones. -/
theorem mem_linesAbout_excessive_iff (h : settings.enables .excessiveBlankLines = true) :
    n ∈ linesAbout .excessiveBlankLines (ofLines settings lines) ↔
      ∃ first last, IsGap lines first last ∧ ¬ Exempt lines first ∧
        first + settings.maxBlankLines.toNat ≤ n ∧ n ≤ last := by
  rw [mem_linesAbout_ofLines_iff (by decide), and_iff_right h]
  constructor
  · rintro ⟨hnot, ctx, hctx, hbroken⟩
    rcases Check.excessiveBlankLines_isSome_iff.1 hbroken with ⟨hblank, hmany⟩
    rcases exists_isGap ((blankAt_iff hctx.line).2 hblank) with ⟨first, last, hgap, hn, hn'⟩
    -- the run that ends with line `n` starts where its gap does
    have hrun := hctx.blankRun.unique (hgap.longestBlankBlock hn hn')
    rw [exempt_iff_of_isGap hgap hn hn'] at hnot
    exact ⟨first, last, hgap, hnot, by omega, hn'⟩
  · rintro ⟨first, last, hgap, hnot, hmany, hn'⟩
    have hn : first ≤ n := by omega
    rcases hgap.blank n hn hn' with ⟨line, hline, hblank⟩
    rcases Context.exists_isAt hline with ⟨ctx, hctx⟩
    have hrun := hctx.blankRun.unique (hgap.longestBlankBlock hn hn')
    have hsame : ctx.line = line := Option.some.inj (hctx.line.symm.trans hline)
    have hbroken : (Check.excessiveBlankLines settings ctx).isSome = true :=
      Check.excessiveBlankLines_isSome_iff.2 ⟨hsame ▸ hblank, by omega⟩
    exact ⟨(exempt_iff_of_isGap hgap hn hn').not.2 hnot, ctx, hctx, hbroken⟩

/-- Within a gap the lines behind the allowed ones are reported, unless the gap is exempt. -/
theorem mem_linesAbout_excessive_iff_of_isGap (h : settings.enables .excessiveBlankLines = true)
    (hgap : IsGap lines first last) (hn : first ≤ n) (hn' : n ≤ last) :
    n ∈ linesAbout .excessiveBlankLines (ofLines settings lines) ↔
      ¬ Exempt lines first ∧ first + settings.maxBlankLines.toNat ≤ n := by
  rw [mem_linesAbout_excessive_iff h]
  constructor
  · rintro ⟨first', last', hgap', hnot, hmany, hle⟩
    rcases hgap.unique hgap' ⟨hn, hn'⟩ ⟨by omega, hle⟩ with ⟨rfl, rfl⟩
    exact ⟨hnot, hmany⟩
  · rintro ⟨hnot, hmany⟩
    exact ⟨first, last, hgap, hnot, hmany, hn'⟩

/-- In a gap that is inspected, every line behind the allowed ones is reported once. -/
theorem linesAbout_excessive_of_isGap (h : settings.enables .excessiveBlankLines = true)
    (hgap : IsGap lines first last) (hnot : ¬ Exempt lines first) :
    (linesAbout .excessiveBlankLines (ofLines settings lines)).filter
        (fun n => first ≤ n && n ≤ last) =
      List.range' (first + settings.maxBlankLines.toNat)
        (last + 1 - (first + settings.maxBlankLines.toNat)) := by
  -- both lists go up, so the same members will do
  have hsorted := (sortedLT_linesAbout .excessiveBlankLines settings lines).pairwise.filter
    fun n => decide (first ≤ n) && decide (n ≤ last)
  refine hsorted.sortedLT.eq_of_mem_iff (List.pairwise_lt_range' 1).sortedLT fun n => ?_
  rw [List.mem_filter, List.mem_range'_1, Bool.and_eq_true, decide_eq_true_eq, decide_eq_true_eq]
  constructor
  · rintro ⟨hmem, hn, hn'⟩
    have hmany := ((mem_linesAbout_excessive_iff_of_isGap h hgap hn hn').1 hmem).2
    omega
  · rintro ⟨hmany, hn'⟩
    have hn : first ≤ n := by omega
    have hmem := (mem_linesAbout_excessive_iff_of_isGap h hgap hn (by omega)).2 ⟨hnot, hmany⟩
    exact ⟨hmem, hn, by omega⟩

/-- There are as many reports as lines behind the allowed ones, summed up over the gaps. -/
theorem length_linesAbout_excessive (h : settings.enables .excessiveBlankLines = true) :
    (linesAbout .excessiveBlankLines (ofLines settings lines)).length =
      ∑ gap ∈ inspectedGaps lines, (gap.2 + 1 - gap.1 - settings.maxBlankLines.toNat) := by
  let behind := fun gap : Nat × Nat => Finset.Icc (gap.1 + settings.maxBlankLines.toNat) gap.2
  -- the lines that are reported are those behind the allowed ones of some gap
  have hlines : (linesAbout .excessiveBlankLines (ofLines settings lines)).toFinset =
      (inspectedGaps lines).biUnion behind := by
    ext n
    simp only [List.mem_toFinset, mem_linesAbout_excessive_iff h, Finset.mem_biUnion,
      mem_inspectedGaps_iff, Finset.mem_Icc, Prod.exists, behind, and_assoc]
  -- no line lies in two gaps
  have hdisjoint : (inspectedGaps lines : Set (Nat × Nat)).PairwiseDisjoint behind := by
    intro a ha b hb hne
    refine Finset.disjoint_left.2 fun n hn hn' => hne ?_
    rw [Finset.mem_Icc] at hn hn'
    have hsame := (mem_inspectedGaps_iff.1 ha).1.unique (mem_inspectedGaps_iff.1 hb).1
      (n := n) ⟨by omega, hn.2⟩ ⟨by omega, hn'.2⟩
    exact Prod.ext hsame.1 hsame.2
  have hnodup := (sortedLT_linesAbout .excessiveBlankLines settings lines).nodup
  calc
    (linesAbout .excessiveBlankLines (ofLines settings lines)).length
        = ((inspectedGaps lines).biUnion behind).card := by
          rw [← hlines, List.toFinset_card_of_nodup hnodup]
    _ = ∑ gap ∈ inspectedGaps lines, (behind gap).card := Finset.card_biUnion hdisjoint
    _ = ∑ gap ∈ inspectedGaps lines, (gap.2 + 1 - gap.1 - settings.maxBlankLines.toNat) := by
          refine Finset.sum_congr rfl fun gap _ => ?_
          rw [Nat.card_Icc]
          omega

end Inspection

/-- Blank lines are counted gap by gap: directives exempt all lines of a gap or none, and then
either no line of the gap is reported as one blank line too many or exactly the lines behind the
allowed ones are, once each.  No other line is reported so, and the number of reports is the sum
over the gaps that are inspected. -/
theorem excessiveBlankLines_exact (settings : Settings) (contents : Text)
    (h : settings.enables .excessiveBlankLines = true) :
    (∀ first last, IsGap (linesOf contents) first last →
      ((∀ n, first ≤ n → n ≤ last → Exempt (linesOf contents) n) ∧
          ∀ n ∈ linesAbout .excessiveBlankLines (inspect settings contents),
            ¬ (first ≤ n ∧ n ≤ last)) ∨
        ((∀ n, first ≤ n → n ≤ last → ¬ Exempt (linesOf contents) n) ∧
          (linesAbout .excessiveBlankLines (inspect settings contents)).filter
              (fun n => first ≤ n && n ≤ last) =
            List.range' (first + settings.maxBlankLines.toNat)
              (last + 1 - (first + settings.maxBlankLines.toNat)))) ∧
      (linesAbout .excessiveBlankLines (inspect settings contents)).length =
        ∑ gap ∈ inspectedGaps (linesOf contents),
          (gap.2 + 1 - gap.1 - settings.maxBlankLines.toNat) ∧
      ∀ n ∈ linesAbout .excessiveBlankLines (inspect settings contents),
        BlankAt (linesOf contents) n := by
  refine ⟨fun first last hgap => ?_, length_linesAbout_excessive h, ?_⟩
  · by_cases hexempt : Exempt (linesOf contents) first
    · refine Or.inl ⟨fun n hn hn' => (exempt_iff_of_isGap hgap hn hn').2 hexempt, ?_⟩
      rintro n hmem ⟨hn, hn'⟩
      exact ((mem_linesAbout_excessive_iff_of_isGap h hgap hn hn').1 hmem).1 hexempt
    · exact Or.inr ⟨fun n hn hn' => (exempt_iff_of_isGap hgap hn hn').not.2 hexempt,
        linesAbout_excessive_of_isGap h hgap hexempt⟩
  · intro n hmem
    rcases (mem_linesAbout_excessive_iff h).1 hmem with ⟨first, last, hgap, _, hmany, hn'⟩
    exact hgap.blank n (by omega) hn'

/-- Three gaps, the first with blanks of other kinds, the second exempt, the third at the end. -/
def gapped : Text :=
  "a\n\n \n\u3000\nb\n# CodeDust: OFF\n\n\n\n".toList ++ "# CodeDust: ON\n\n\t\n\n".toList

/-- Two gaps are reported behind their first line, and the exempt one not at all. -/
theorem excessiveBlankLines_exact_gapped :
    ({} : Settings).enables .excessiveBlankLines = true ∧
      gaps (linesOf gapped) = {(2, 4), (7, 9), (11, 13)} ∧
      linesAbout .excessiveBlankLines (inspect {} gapped) = [3, 4, 12, 13] ∧
      (linesAbout .excessiveBlankLines (inspect {} gapped)).length =
        ∑ gap ∈ inspectedGaps (linesOf gapped), (gap.2 + 1 - gap.1 - 1) ∧
      (∀ n ∈ linesAbout .excessiveBlankLines (inspect {} gapped), ¬ (7 ≤ n ∧ n ≤ 9)) ∧
      ∀ n ∈ linesAbout .excessiveBlankLines (inspect {} gapped), BlankAt (linesOf gapped) n := by
  have henabled : ({} : Settings).enables .excessiveBlankLines = true := rfl
  have hgap : IsGap (linesOf gapped) 7 9 := by
    decide +kernel
  have hmark : (scan (linesOf gapped)).exempts 6 = true := by
    decide +kernel
  have hexempt : Exempt (linesOf gapped) 7 := (exempts_scan_iff.1 hmark).2
  rcases excessiveBlankLines_exact {} gapped henabled with ⟨hgaps, hlength, hblank⟩
  refine ⟨henabled, by decide +kernel, by decide +kernel, hlength, ?_, hblank⟩
  rcases hgaps 7 9 hgap with ⟨_, hnone⟩ | ⟨hnot, _⟩
  · exact hnone
  · exact absurd hexempt (hnot 7 (by omega) (by omega))

end TextHygiene
