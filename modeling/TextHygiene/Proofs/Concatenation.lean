import Mathlib.Data.List.Sort
import TextHygiene.Proofs.Inspection
import TextHygiene.Proofs.Seam
import TextHygiene.Proofs.Splitting

/-!
# Inspecting two texts in a row

Over a clean seam two files in a row have the issues of the upper file and, further down, those of
the lower one.  Only the first line below the seam may also be indented too far from the line above
it, which it does not see in its own file.
-/

namespace TextHygiene

open Line Directive Suppression

variable {front back : List Line}

/-! ## Issues -/

def Issue.lower (n : Nat) (issue : Issue) : Issue :=
  { issue with line := n + issue.line }

/-- The issue is about the indentation of a certain line, measured against the line above. -/
def Issue.isOverIndentationOf (number : Nat) (issue : Issue) : Bool :=
  issue.line == number && issue.rule == .overIndentation

instance : Std.Irrefl Issue.Before :=
  ⟨fun a h => by rcases h with h | ⟨_, h⟩ <;> exact Nat.lt_irrefl _ h⟩

instance : Std.Antisymm Issue.Before := by
  refine ⟨fun a b hab hba => ?_⟩
  rcases hab with hab | ⟨_, hab⟩
  · rcases hba with hba | ⟨hba, _⟩
    · exact absurd hab (Nat.lt_asymm hba)
    · exact absurd (hba ▸ hab) (Nat.lt_irrefl _)
  · rcases hba with hba | ⟨_, hba⟩
    · omega
    · exact absurd hab (Nat.lt_asymm hba)

namespace Inspection

/-- Nothing stands above the first line that it could be indented too far from. -/
theorem isOverIndentationOf_first {lines : List Line} {settings : Settings} {issue : Issue}
    (hmem : issue ∈ ofLines settings lines) : issue.isOverIndentationOf 1 = false := by
  by_contra hover
  rw [Bool.not_eq_false, Issue.isOverIndentationOf, Bool.and_eq_true, beq_iff_eq,
    beq_iff_eq] at hover
  rcases hover with ⟨hfirst, hrule⟩
  rcases (mem_ofLines_iff.1 hmem).2 with ⟨_, ctx, hctx, hcheck⟩ | ⟨hunclosed, _⟩
  · have habove : ctx.above = none := by
      rw [hctx.above, hfirst]
      rfl
    rw [hrule] at hcheck
    simp [Rule.check, Check.overIndentation, Check.report, habove] at hcheck
  · rw [hrule] at hunclosed
    cases hunclosed

end Inspection

namespace Seam

open Inspection

variable {settings : Settings} {issue : Issue}

/-- The upper file has the issues it has on its own. -/
theorem mem_ofLines_left (h : Seam front back) (hn : issue.line ≤ front.length) :
    issue ∈ ofLines settings (front ++ back) ↔ issue ∈ ofLines settings front := by
  -- no `OFF` of the upper file is left over
  have hopen : ¬ LastSwitch (front ++ back) (front ++ back).length issue.line .off := by
    rw [List.length_append, h.lastSwitch_off]
    rintro ⟨j, hj, hlast⟩
    have hpos := hlast.stands.bounds.1
    omega
  have hline : numbered? (front ++ back) issue.line = numbered? front issue.line :=
    numbered?_append_left hn
  rw [mem_ofLines_iff, mem_ofLines_iff, exempt_left hn]
  refine and_congr_right fun _ => or_congr (and_congr_right fun _ => ?_) ?_
  · refine Context.exists_check_congr hline fun c d hc hd => ?_
    rcases h.alike_left hc hd with ⟨halike, habove⟩
    exact halike.check (fun _ => habove) settings
  · exact iff_of_false (fun hlast => hopen hlast.2.1) (fun hlast => h.closed _ hlast.2.1)

/-- The lower file has the issues it has on its own, further down, apart from the one about its
first line that looks at the line above. -/
theorem mem_ofLines_right (h : Seam front back) (hk : 1 ≤ issue.line)
    (hrule : issue.isOverIndentationOf 1 = false) :
    issue.lower front.length ∈ ofLines settings (front ++ back) ↔
      issue ∈ ofLines settings back := by
  have hline : numbered? (front ++ back) (front.length + issue.line) =
      numbered? back issue.line :=
    numbered?_append_right hk
  have hopen : LastSwitch (front ++ back) (front ++ back).length (front.length + issue.line) .off ↔
      LastSwitch back back.length issue.line .off := by
    rw [List.length_append, h.lastSwitch_off]
    constructor
    · rintro ⟨j, hj, hlast⟩
      exact (Nat.add_left_cancel hj) ▸ hlast
    · exact fun hlast => ⟨_, rfl, hlast⟩
  rw [mem_ofLines_iff, mem_ofLines_iff, Issue.lower, h.exempt_right hk, hopen]
  refine and_congr_right fun _ => or_congr_left (and_congr_right fun _ => ?_)
  refine Context.exists_check_congr hline fun c d hc hd => ?_
  rcases h.alike_right hk hc hd with ⟨halike, habove⟩
  refine halike.check (fun hover => habove fun hfirst => ?_) settings
  -- the first line below the seam is the one case that is left out
  rw [Issue.isOverIndentationOf, hfirst, hover] at hrule
  cases hrule

/-- Over a clean seam an issue is one of the upper file or one of the lower file, further down. -/
theorem mem_filter_ofLines_iff (h : Seam front back) :
    issue ∈ (ofLines settings (front ++ back)).filter
        (fun issue => !issue.isOverIndentationOf (front.length + 1)) ↔
      issue ∈ ofLines settings front ∨
        ∃ own ∈ ofLines settings back, own.lower front.length = issue := by
  rw [List.mem_filter, Bool.not_eq_true']
  constructor
  · rintro ⟨hmem, hkeep⟩
    by_cases hn : issue.line ≤ front.length
    · exact Or.inl ((h.mem_ofLines_left hn).1 hmem)
    · -- the issue is about a line of the lower file
      rcases issue with ⟨line, rule, message⟩
      rcases Nat.exists_eq_add_of_lt (Nat.lt_of_not_le hn) with ⟨i, rfl⟩
      have hrule : (Issue.mk (i + 1) rule message).isOverIndentationOf 1 = false := by
        simpa [Issue.isOverIndentationOf, Nat.add_assoc] using hkeep
      have hpos : 1 ≤ i + 1 := Nat.succ_pos i
      exact Or.inr ⟨_, (h.mem_ofLines_right hpos hrule).1 hmem, rfl⟩
  · rintro (hmem | ⟨own, hmem, rfl⟩)
    · have hn := (bounds_of_mem_ofLines hmem).2
      refine ⟨(h.mem_ofLines_left hn).2 hmem, ?_⟩
      have hne : issue.line ≠ front.length + 1 := by omega
      rw [Issue.isOverIndentationOf, beq_eq_false_iff_ne.2 hne, Bool.false_and]
    · have hk := (bounds_of_mem_ofLines hmem).1
      have hrule := isOverIndentationOf_first hmem
      refine ⟨(h.mem_ofLines_right hk hrule).2 hmem, ?_⟩
      simpa [Issue.isOverIndentationOf, Issue.lower] using hrule

/-- Over a clean seam the issues of two files in a row are those of the upper file and then, with
other line numbers, those of the lower one. -/
theorem filter_ofLines_append (h : Seam front back) (settings : Settings) :
    (ofLines settings (front ++ back)).filter
        (fun issue => !issue.isOverIndentationOf (front.length + 1)) =
      ofLines settings front ++ (ofLines settings back).map (Issue.lower front.length) := by
  -- both sides are in the order of lines and rules, so the same members will do
  have hleft := (pairwise_ofLines settings (front ++ back)).filter
    fun issue => !issue.isOverIndentationOf (front.length + 1)
  have hright : (ofLines settings front ++
      (ofLines settings back).map (Issue.lower front.length)).Pairwise Issue.Before := by
    rw [List.pairwise_append, List.pairwise_map]
    refine ⟨pairwise_ofLines settings front, ?_, ?_⟩
    · refine (pairwise_ofLines settings back).imp ?_
      rintro a b (hlt | ⟨heq, hlt⟩)
      · exact Or.inl (Nat.add_lt_add_left hlt _)
      · exact Or.inr ⟨congrArg (front.length + ·) heq, hlt⟩
    · -- every line of the upper file stands above those of the lower one
      intro a ha b hb
      rcases List.mem_map.1 hb with ⟨own, hown, rfl⟩
      have hle := (bounds_of_mem_ofLines ha).2
      have hpos := (bounds_of_mem_ofLines hown).1
      exact Or.inl (show a.line < front.length + own.line by omega)
  refine hleft.eq_of_mem_iff hright fun issue => ?_
  rw [h.mem_filter_ofLines_iff, List.mem_append, List.mem_map]

end Seam

/-! ## Texts -/

namespace Inspection

theorem withoutMark_eq_self {contents : Text} (h : contents.head? ≠ some byteOrderMark) :
    withoutMark contents = contents := by
  have hnone : Text.after? [byteOrderMark] contents = none := by
    rw [Option.eq_none_iff_forall_ne_some]
    intro rest hrest
    rw [Text.after?_eq_some_iff] at hrest
    exact h (by rw [hrest]; rfl)
  rw [withoutMark, hnone]
  rfl

/-- A byte order mark is looked for in the upper text only, if there is one. -/
theorem withoutMark_append {first : Text} (second : Text) (h : first ≠ []) :
    withoutMark (first ++ second) = withoutMark first ++ second := by
  cases first with
  | nil => exact absurd rfl h
  | cons c rest =>
      by_cases hc : byteOrderMark = c
      · simp [withoutMark, Text.after?, hc]
      · simp [withoutMark, Text.after?, hc]

theorem getLast?_withoutMark {contents : Text} (h : contents.getLast? = some '\n') :
    (withoutMark contents).getLast? = some '\n' := by
  rcases List.getLast?_eq_some_iff.1 h with ⟨front, rfl⟩
  cases front with
  | nil => rfl
  | cons c rest =>
      rw [withoutMark_append ['\n'] (List.cons_ne_nil c rest), List.getLast?_concat]

/-- The lines of two texts in a row are those of one behind those of the other. -/
theorem linesOf_append {first second : Text} (hend : first.getLast? = some '\n')
    (hmark : second.head? ≠ some byteOrderMark) :
    linesOf (first ++ second) = linesOf first ++ linesOf second := by
  have hne : first ≠ [] := by
    rintro rfl
    cases hend
  rw [linesOf, linesOf, linesOf, withoutMark_append second hne, withoutMark_eq_self hmark,
    split_append second (getLast?_withoutMark hend)]

end Inspection

open Inspection

/-- Inspection goes text by text: if the first text ends with a line feed, has a last line that is
not blank and leaves no `OFF` open, and the second starts with a line that is not blank and with no
byte order mark, then the issues of both in a row are those of the first and, further down, those of
the second.  Only the first line of the second text may also be indented too far from the line
above it. -/
theorem inspect_append (settings : Settings) {first second : Text}
    (hend : first.getLast? = some '\n')
    (hlast : ¬ BlankAt (linesOf first) (linesOf first).length)
    (hclosed : ∀ n, ¬ LastSwitch (linesOf first) (linesOf first).length n .off)
    (hmark : second.head? ≠ some byteOrderMark) (hfirst : ¬ BlankAt (linesOf second) 1) :
    (inspect settings (first ++ second)).filter
        (fun issue => !issue.isOverIndentationOf ((linesOf first).length + 1)) =
      inspect settings first ++
        (inspect settings second).map (Issue.lower (linesOf first).length) := by
  have hseam : Seam (linesOf first) (linesOf second) := by
    -- the upper text ends with a line feed, so each of its lines has its break
    refine ⟨hlast, hfirst, ?_, hclosed⟩
    intro line hline
    refine terminated_of_mem_split (getLast?_withoutMark hend) (t := withoutMark first) ?_
    exact mem_of_numbered? hline
  have hboth : inspect settings (first ++ second) =
      ofLines settings (linesOf first ++ linesOf second) := by
    rw [← linesOf_append hend hmark]
    rfl
  rw [hboth]
  exact hseam.filter_ofLines_append settings

def heading : Text :=
  "\ufeffif x:\n".toList

/-- A text whose first line is indented too far from `heading`, and which has a fault of its own. -/
def indented : Text :=
  "        y\n  z \n".toList

/-- The first line of the lower text is indented too far from the upper text, and nothing else is
new. -/
theorem inspect_append_indented :
    ⟨2, .overIndentation, "Don't indent for more than one level (4 spaces) at a time.".toList⟩ ∈
        inspect {} (heading ++ indented) ∧
      inspect {} indented ≠ [] ∧
      (inspect {} (heading ++ indented)).filter (fun issue => !issue.isOverIndentationOf 2) =
        inspect {} heading ++ (inspect {} indented).map (Issue.lower 1) := by
  have hunclosed : (scan (linesOf heading)).unclosed = none := by decide +kernel
  have hclosed : ∀ n, ¬ LastSwitch (linesOf heading) (linesOf heading).length n .off := by
    intro n hlast
    rw [← scan_unclosed_eq_some_iff, hunclosed] at hlast
    cases hlast
  refine ⟨by decide +kernel, by decide +kernel, ?_⟩
  exact inspect_append {} (by decide) (by decide +kernel) hclosed (by decide) (by decide +kernel)

end TextHygiene
