import TextHygiene.Proofs.Alike
import TextHygiene.Proofs.Suppression

/-!
# The seam between two files

Two files in a row, seen through the line numbers of each.  A seam is clean if no blank line touches
it, no `OFF` is in force there and the upper file ends with a line break.  Then a line is exempt,
and a rule sees of it what matters, exactly as in its own file; only the neighbour of the first line
below the seam is another one.
-/

namespace TextHygiene

open Line Directive Suppression

variable {front back : List Line} {n k : Nat}

/-! ## Lines of two files in a row -/

namespace Line

/-- The lines of the upper file keep their numbers. -/
theorem numbered?_append_left (hn : n ≤ front.length) :
    numbered? (front ++ back) n = numbered? front n := by
  cases n with
  | zero => rfl
  | succ place => exact List.getElem?_append_left hn

/-- The lines of the lower file are numbered on from the upper one. -/
theorem numbered?_append_right (hk : 1 ≤ k) :
    numbered? (front ++ back) (front.length + k) = numbered? back k := by
  cases k with
  | zero => exact absurd hk (Nat.not_succ_le_zero 0)
  | succ place =>
      have hplace : front.length + place - front.length = place := Nat.add_sub_cancel_left ..
      rw [← Nat.add_assoc, numbered?_succ, numbered?_succ,
        List.getElem?_append_right (Nat.le_add_right _ _), hplace]

theorem blankAt_append_left (hn : n ≤ front.length) :
    BlankAt (front ++ back) n ↔ BlankAt front n := by
  rw [BlankAt, BlankAt, numbered?_append_left hn]

/-- Blocks of blank lines in the upper file do not see what follows. -/
theorem longestBlankBlock_append_left (hn : n ≤ front.length) {run : Nat} :
    LongestBlankBlock (front ++ back) n run ↔ LongestBlankBlock front n run := by
  -- a block that ends with line `n` has no line further down
  have hsame : {j | BlankBlock (front ++ back) n j} = {j | BlankBlock front n j} := by
    ext j
    refine forall_congr' fun m => forall_congr' fun _ => forall_congr' fun hm => ?_
    exact blankAt_append_left (Nat.le_trans hm hn)
  rw [LongestBlankBlock, LongestBlankBlock, hsame]

end Line

/-! ## Directives of two files in a row -/

namespace Directive

theorem standsAt_append_left {d : Directive} (hn : n ≤ front.length) :
    StandsAt (front ++ back) n d ↔ StandsAt front n d := by
  rw [StandsAt, StandsAt, numbered?_append_left hn]

theorem standsAt_append_right {d : Directive} (hk : 1 ≤ k) :
    StandsAt (front ++ back) (front.length + k) d ↔ StandsAt back k d := by
  rw [StandsAt, StandsAt, numbered?_append_right hk]

/-- What switches inspection in the upper file is in the upper file. -/
theorem lastSwitch_append_left {limit : Nat} {d : Directive} (hlimit : limit ≤ front.length) :
    LastSwitch (front ++ back) limit n d ↔ LastSwitch front limit n d := by
  constructor
  · intro h
    have hn : n ≤ front.length := Nat.le_trans h.within hlimit
    refine ⟨h.switch, h.within, (standsAt_append_left hn).1 h.stands, ?_⟩
    intro m e hlt hle he
    exact h.last m e hlt hle ((standsAt_append_left (Nat.le_trans hle hlimit)).2 he)
  · intro h
    have hn : n ≤ front.length := Nat.le_trans h.within hlimit
    refine ⟨h.switch, h.within, (standsAt_append_left hn).2 h.stands, ?_⟩
    intro m e hlt hle he
    exact h.last m e hlt hle ((standsAt_append_left (Nat.le_trans hle hlimit)).1 he)

end Directive

/-! ## A clean seam -/

/-- Nothing reaches from one of two files in a row into the other. -/
structure Seam (front back : List Line) : Prop where
  nonblank_above : ¬ BlankAt front front.length
  nonblank_below : ¬ BlankAt back 1
  terminated : ∀ line, numbered? front front.length = some line → line.terminated = true
  closed : ∀ m, ¬ LastSwitch front front.length m .off

namespace Seam

theorem blankAt (h : Seam front back) (k : Nat) :
    BlankAt (front ++ back) (front.length + k) ↔ BlankAt back k := by
  cases k with
  | zero =>
      rw [Nat.add_zero, blankAt_append_left (Nat.le_refl _)]
      exact iff_of_false h.nonblank_above (not_blankAt_zero back)
  | succ j => rw [BlankAt, BlankAt, numbered?_append_right (Nat.succ_pos j)]

/-- No block of blank lines goes across a clean seam. -/
theorem longestBlankBlock (h : Seam front back) {run : Nat} :
    LongestBlankBlock (front ++ back) (front.length + k) run ↔ LongestBlankBlock back k run := by
  have hsame : {j | BlankBlock (front ++ back) (front.length + k) j} =
      {j | BlankBlock back k j} := by
    ext j
    constructor
    · intro hblock m hm hle
      exact (h.blankAt m).1 (hblock (front.length + m) (by omega) (by omega))
    · -- the block ends before it could reach the seam
      intro hblock m hm hle
      have hge : front.length ≤ m := by
        by_contra hlt
        exact not_blankAt_zero back (hblock 0 (by omega) (Nat.zero_le k))
      rcases Nat.exists_eq_add_of_le hge with ⟨i, rfl⟩
      exact (h.blankAt i).2 (hblock i (by omega) (by omega))
  rw [LongestBlankBlock, LongestBlankBlock, hsame]

/-- Blank lines at the end of the upper file are not the last ones over a clean seam, and there are
none. -/
theorem not_startsTrailingBlanks_left (h : Seam front back) (hn : n ≤ front.length) :
    ¬ StartsTrailingBlanks front n ∧ ¬ StartsTrailingBlanks (front ++ back) n := by
  refine ⟨fun hall => h.nonblank_above (hall.1 _ hn (Nat.le_refl _)), fun hall => ?_⟩
  have hlast : BlankAt (front ++ back) front.length :=
    hall.1 _ hn (by rw [List.length_append]; exact Nat.le_add_right _ _)
  exact h.nonblank_above ((blankAt_append_left (Nat.le_refl _)).1 hlast)

/-- The trailing blank lines are those of the lower file. -/
theorem startsTrailingBlanks (h : Seam front back) (hk : 1 ≤ k) :
    StartsTrailingBlanks (front ++ back) (front.length + k) ↔ StartsTrailingBlanks back k := by
  rw [StartsTrailingBlanks, StartsTrailingBlanks, Nat.add_sub_assoc hk, h.blankAt,
    List.length_append]
  refine and_congr_left' ?_
  constructor
  · intro hall m hm hle
    exact (h.blankAt m).1 (hall _ (by omega) (by omega))
  · intro hall m hm hle
    rcases Nat.exists_eq_add_of_le (show front.length ≤ m by omega) with ⟨i, rfl⟩
    exact (h.blankAt i).2 (hall i (by omega) (by omega))

/-! ### Exempt lines -/

/-- No `OFF` reaches over a clean seam, so the one in force in the lower file is in the lower file.
-/
theorem lastSwitch_off (h : Seam front back) :
    LastSwitch (front ++ back) (front.length + k) n .off ↔
      ∃ j, n = front.length + j ∧ LastSwitch back k j .off := by
  constructor
  · intro hlast
    -- an `OFF` above the seam would still be in force there
    have hlt : front.length < n := by
      by_contra hle
      have hn : n ≤ front.length := Nat.le_of_not_lt hle
      have hseam : LastSwitch (front ++ back) front.length n .off :=
        ⟨hlast.switch, hn, hlast.stands,
          fun m e hm hmle => hlast.last m e hm (Nat.le_add_right_of_le hmle)⟩
      exact h.closed n ((lastSwitch_append_left (Nat.le_refl _)).1 hseam)
    rcases Nat.exists_eq_add_of_lt hlt with ⟨i, rfl⟩
    have hwithin : i + 1 ≤ k := by
      have := hlast.within
      omega
    refine ⟨i + 1, rfl, hlast.switch, hwithin,
      (standsAt_append_right (Nat.succ_pos i)).1 hlast.stands, ?_⟩
    intro m e hm hle he
    exact hlast.last (front.length + m) e (by omega) (by omega)
      ((standsAt_append_right (by omega)).2 he)
  · rintro ⟨j, rfl, hlast⟩
    have hj : 1 ≤ j := hlast.stands.bounds.1
    refine ⟨hlast.switch, Nat.add_le_add_left hlast.within _,
      (standsAt_append_right hj).2 hlast.stands, ?_⟩
    intro m e hm hle he
    rcases Nat.exists_eq_add_of_le (show front.length ≤ m by omega) with ⟨i, rfl⟩
    exact hlast.last i e (by omega) (by omega) ((standsAt_append_right (by omega)).1 he)

theorem exempt_left (hn : n ≤ front.length) : Exempt (front ++ back) n ↔ Exempt front n := by
  rw [Exempt, Exempt, standsAt_append_left hn]
  exact or_congr_right (exists_congr fun m => lastSwitch_append_left hn)

/-- Directives exempt the lines of the lower file as they do in the lower file alone. -/
theorem exempt_right (h : Seam front back) (hk : 1 ≤ k) :
    Exempt (front ++ back) (front.length + k) ↔ Exempt back k := by
  rw [Exempt, Exempt, standsAt_append_right hk]
  refine or_congr_right ?_
  constructor
  · rintro ⟨m, hm⟩
    rcases h.lastSwitch_off.1 hm with ⟨j, _, hj⟩
    exact ⟨j, hj⟩
  · rintro ⟨j, hj⟩
    exact ⟨front.length + j, h.lastSwitch_off.2 ⟨j, rfl, hj⟩⟩

/-! ### Contexts -/

variable {c d : Context}

/-- The contexts of the upper file are alike with and without the lower one. -/
theorem alike_left (h : Seam front back) (hc : Context.IsAt (front ++ back) n c)
    (hd : Context.IsAt front n d) : c.Alike d ∧ c.above = d.above := by
  have hn : n ≤ front.length := (bounds_of_numbered? hd.line).2
  have hline : c.line = d.line := by
    have hsame := hc.line
    rw [numbered?_append_left hn, hd.line] at hsame
    exact (Option.some.inj hsame).symm
  have habove : c.above = d.above := by
    rw [hc.above, hd.above, numbered?_append_left (Nat.le_trans (Nat.sub_le n 1) hn)]
  -- only the last line has another neighbour below
  have hbelow : n ≠ front.length → c.below = d.below := by
    intro hne
    rw [hc.below, hd.below, numbered?_append_left (show n + 1 ≤ front.length by omega)]
  have hblank : c.line.isBlank = true → n ≠ front.length := by
    rintro hb rfl
    exact h.nonblank_above ((blankAt_iff hd.line).2 (hline ▸ hb))
  have hopen : c.line.terminated = false → n ≠ front.length := by
    rintro hopen rfl
    rw [hline, h.terminated _ hd.line] at hopen
    cases hopen
  refine ⟨⟨hline, ?_, ?_, ?_, ?_, ?_, ?_⟩, habove⟩
  · intro hb
    rw [Context.isLast, Context.isLast, hbelow (hopen hb)]
  · intro _
    rw [hc.number, hd.number]
  · exact fun _ => habove
  · exact fun hb => hbelow (hblank hb)
  · exact fun _ => ((longestBlankBlock_append_left hn).1 hc.blankRun).unique hd.blankRun
  · intro _
    rcases h.not_startsTrailingBlanks_left hn with ⟨hfront, hboth⟩
    rw [Bool.eq_iff_iff, hc.startsTrailingBlanks, hd.startsTrailingBlanks]
    exact iff_of_false hboth hfront

/-- The contexts of the lower file are alike with and without the upper one, but for the line above
the first. -/
theorem alike_right (h : Seam front back) (hk : 1 ≤ k)
    (hc : Context.IsAt (front ++ back) (front.length + k) c) (hd : Context.IsAt back k d) :
    c.Alike d ∧ (k ≠ 1 → c.above = d.above) := by
  have hline : c.line = d.line := by
    have hsame := hc.line
    rw [numbered?_append_right hk, hd.line] at hsame
    exact (Option.some.inj hsame).symm
  have hbelow : c.below = d.below := by
    rw [hc.below, hd.below, Nat.add_assoc, numbered?_append_right (Nat.succ_pos k)]
  -- only the first line has another neighbour above
  have habove : k ≠ 1 → c.above = d.above := by
    intro hne
    rw [hc.above, hd.above, Nat.add_sub_assoc hk, numbered?_append_right (by omega)]
  have hblank : c.line.isBlank = true → k ≠ 1 := by
    rintro hb rfl
    exact h.nonblank_below ((blankAt_iff hd.line).2 (hline ▸ hb))
  refine ⟨⟨hline, ?_, ?_, ?_, ?_, ?_, ?_⟩, habove⟩
  · intro _
    rw [Context.isLast, Context.isLast, hbelow]
  · intro hb
    have hne := hblank hb
    rw [hc.number, hd.number, beq_eq_false_iff_ne.2 hne, beq_eq_false_iff_ne]
    omega
  · exact fun hb => habove (hblank hb)
  · exact fun _ => hbelow
  · exact fun _ => (h.longestBlankBlock.1 hc.blankRun).unique hd.blankRun
  · intro _
    rw [Bool.eq_iff_iff, hc.startsTrailingBlanks, hd.startsTrailingBlanks]
    exact h.startsTrailingBlanks hk

end Seam

end TextHygiene
