import TextHygiene.Proofs.Numbering

/-!
# What a rule sees of a file

The contexts of a file are made in one pass that carries a number, the line above and a count of
blank lines.  `Context.IsAt` says of a context, without any pass, that it is the one of the line
with a given number; the pass yields exactly these contexts, one for each line and in order.
-/

namespace TextHygiene

namespace Context

open Line

/-- The context of line `n` of a file. -/
structure IsAt (lines : List Line) (n : Nat) (ctx : Context) : Prop where
  number : ctx.number = n
  line : numbered? lines n = some ctx.line
  above : ctx.above = numbered? lines (n - 1)
  below : ctx.below = numbered? lines (n + 1)
  blankRun : LongestBlankBlock lines n ctx.blankRun
  startsTrailingBlanks : ctx.startsTrailingBlanks = true ↔ StartsTrailingBlanks lines n

/-- A line has one context. -/
theorem IsAt.unique {lines : List Line} {n : Nat} {a b : Context}
    (ha : IsAt lines n a) (hb : IsAt lines n b) : a = b := by
  have hline : a.line = b.line := Option.some.inj (ha.line.symm.trans hb.line)
  have hrun : a.blankRun = b.blankRun := ha.blankRun.unique hb.blankRun
  have htrailing : a.startsTrailingBlanks = b.startsTrailingBlanks :=
    Bool.eq_iff_iff.2 (ha.startsTrailingBlanks.trans hb.startsTrailingBlanks.symm)
  cases a
  cases b
  simp only [Context.mk.injEq]
  exact ⟨ha.number.trans hb.number.symm, hline, ha.above.trans hb.above.symm,
    ha.below.trans hb.below.symm, hrun, htrailing⟩

/-! ## The pass over a file -/

/-- There are as many contexts as lines. -/
theorem length_listFrom (number : Nat) (above : Option Line) (run : Nat) (lines : List Line) :
    (listFrom number above run lines).length = lines.length := by
  induction lines generalizing number above run with
  | nil => rfl
  | cons line rest ih => simp [listFrom, ih]

/-- The first context that the pass makes below line `n` is the one of line `n + 1`. -/
theorem isAt_next {all rest : List Line} {line : Line} {n run : Nat}
    (hdrop : all.drop n = line :: rest) (hrun : LongestBlankBlock all n run) :
    IsAt all (n + 1)
      { number := n + 1, line, above := numbered? all n, below := rest.head?,
        blankRun := if line.isBlank then run + 1 else 0,
        startsTrailingBlanks :=
          (if line.isBlank then run + 1 else 0) == 1 && rest.all (·.isBlank) } := by
  rcases numbered?_of_drop hdrop with ⟨hline, hrest⟩
  -- only the line below and the start of trailing blanks take an argument
  refine ⟨rfl, hline, rfl, ?_, hrun.next hline, ?_⟩
  · rw [← hrest, List.head?_drop]
    rfl
  · -- a block of one ends here, so the line above is not blank
    have hfirst : ((if line.isBlank then run + 1 else 0) == 1) = true ↔
        BlankAt all (n + 1) ∧ ¬ BlankAt all n := by
      rw [blankAt_iff hline, ← hrun.eq_zero_iff]
      by_cases hb : line.isBlank = true
      · simp [hb]
      · simp [hb]
    rw [Bool.and_eq_true, hfirst, ← hrest, ← forall_blankAt_iff]
    constructor
    · rintro ⟨⟨hblank, habove⟩, hbelow⟩
      refine ⟨fun m hm hle => ?_, habove⟩
      rcases Nat.eq_or_lt_of_le hm with rfl | hlt
      · exact hblank
      · exact hbelow m hlt hle
    · rintro ⟨hall, habove⟩
      have hbound := (bounds_of_numbered? hline).2
      exact ⟨⟨hall (n + 1) (Nat.le_refl _) hbound, habove⟩,
        fun m hm hle => hall m (by omega) hle⟩

/-- The pass below line `n`, started with what is true of line `n`, makes the contexts of the lines
behind it. -/
theorem isAt_of_listFrom {all lines : List Line} {n run : Nat} (hdrop : all.drop n = lines)
    (hrun : LongestBlankBlock all n run) {i : Nat} {ctx : Context}
    (h : (listFrom (n + 1) (numbered? all n) run lines)[i]? = some ctx) :
    IsAt all (n + 1 + i) ctx := by
  -- on the lines that are left; the block that ends with line `n` is the invariant
  induction lines generalizing n run i with
  | nil => simp [listFrom] at h
  | cons line rest ih =>
      rcases numbered?_of_drop hdrop with ⟨hline, hrest⟩
      cases i with
      | zero =>
          simp only [listFrom, List.getElem?_cons_zero, Option.some.injEq] at h
          subst h
          exact isAt_next hdrop hrun
      | succ i =>
          rw [listFrom, List.getElem?_cons_succ, ← hline] at h
          have hctx := ih hrest (hrun.next hline) h
          rwa [Nat.add_right_comm (n + 1) 1 i] at hctx

/-- The contexts of a file are those of its lines, in order. -/
theorem list_getElem?_eq_some_iff {lines : List Line} {i : Nat} {ctx : Context} :
    (list lines)[i]? = some ctx ↔ IsAt lines (i + 1) ctx := by
  have hsound : ∀ {c}, (list lines)[i]? = some c → IsAt lines (i + 1) c := by
    intro c hc
    have := isAt_of_listFrom (n := 0) (List.drop_zero) (longestBlankBlock_zero lines) hc
    rwa [Nat.zero_add, Nat.add_comm] at this
  -- there is a context at every place, so the one of the line is the one that is there
  refine ⟨hsound, fun h => ?_⟩
  have hbound : i + 1 ≤ lines.length := (bounds_of_numbered? h.line).2
  have hlt : i < (list lines).length := by
    rw [list, length_listFrom]
    omega
  have hget := List.getElem?_eq_getElem hlt
  rw [hget, (hsound hget).unique h]

end Context

end TextHygiene
