import TextHygiene.Proofs.Numbering

/-!
# Which lines are exempt

A line is exempt if it carries `SKIP`, or if the last `OFF` or `ON` up to that line is `OFF`.  The
reader of directives carries only the line of the `OFF` in force; this is shown to be enough: it
marks exactly the exempt lines, and what it has left over at the end is the `OFF` that no `ON`
follows.
-/

namespace TextHygiene

open Line

/-! ## Directives by number -/

namespace Directive

def StandsAt (lines : List Line) (n : Nat) (d : Directive) : Prop :=
  ∃ line, numbered? lines n = some line ∧ of? line.text = some d

/-- The last `OFF` or `ON` up to line `limit` is `d`, and it stands on line `n`. -/
structure LastSwitch (lines : List Line) (limit n : Nat) (d : Directive) : Prop where
  switch : d ≠ .skip
  within : n ≤ limit
  stands : StandsAt lines n d
  last : ∀ m e, n < m → m ≤ limit → StandsAt lines m e → e = .skip

variable {lines : List Line} {limit n m : Nat} {d e : Directive}

theorem standsAt_iff {line : Line} (h : numbered? lines n = some line) :
    StandsAt lines n d ↔ of? line.text = some d := by
  simp [StandsAt, h]

/-- A line carries one directive at most. -/
theorem StandsAt.unique (hd : StandsAt lines n d) (he : StandsAt lines n e) : d = e := by
  rcases hd with ⟨line, hline, hd⟩
  rcases he with ⟨line', hline', he⟩
  have hsame : line = line' := Option.some.inj (hline.symm.trans hline')
  subst hsame
  exact Option.some.inj (hd.symm.trans he)

theorem StandsAt.bounds (h : StandsAt lines n d) : 1 ≤ n ∧ n ≤ lines.length := by
  rcases h with ⟨line, hline, _⟩
  exact bounds_of_numbered? hline

/-- A switch on the next line is the last one up to there. -/
theorem lastSwitch_succ_of_switch (he : StandsAt lines (limit + 1) e) (hswitch : e ≠ .skip) :
    LastSwitch lines (limit + 1) n d ↔ n = limit + 1 ∧ d = e := by
  constructor
  · intro h
    -- an earlier switch would not be the last
    rcases Nat.lt_or_eq_of_le h.within with hlt | rfl
    · exact absurd (h.last _ _ hlt (Nat.le_refl _) he) hswitch
    · exact ⟨rfl, h.stands.unique he⟩
  · rintro ⟨rfl, rfl⟩
    exact ⟨hswitch, Nat.le_refl _, he, fun m e hlt hle => by omega⟩

/-- Without a switch on the next line the last one stays what it was. -/
theorem lastSwitch_succ_of_no_switch (h : ∀ e, StandsAt lines (limit + 1) e → e = .skip) :
    LastSwitch lines (limit + 1) n d ↔ LastSwitch lines limit n d := by
  constructor
  · intro hlast
    have hne : n ≠ limit + 1 := by
      rintro rfl
      exact hlast.switch (h d hlast.stands)
    have hle : n ≤ limit + 1 := hlast.within
    exact ⟨hlast.switch, by omega, hlast.stands,
      fun m e hlt hm => hlast.last m e hlt (by omega)⟩
  · intro hlast
    refine ⟨hlast.switch, Nat.le_succ_of_le hlast.within, hlast.stands, ?_⟩
    intro m e hlt hle hstands
    rcases Nat.lt_or_eq_of_le hle with hlt' | rfl
    · exact hlast.last m e hlt (by omega) hstands
    · exact h e hstands

end Directive

/-! ## Exempt lines -/

namespace Suppression

open Directive

def Exempt (lines : List Line) (n : Nat) : Prop :=
  StandsAt lines n .skip ∨ ∃ m, LastSwitch lines n m .off

/-- The `OFF` in force below line `n` is that of line `off`. -/
def InForce (lines : List Line) (n : Nat) (off : Option Nat) : Prop :=
  ∀ m, off = some m ↔ LastSwitch lines n m .off

theorem inForce_zero (lines : List Line) : InForce lines 0 none := by
  intro m
  constructor
  · intro h
    simp at h
  · intro h
    have hpos := h.stands.bounds.1
    have hle := h.within
    omega

variable {all lines : List Line} {n : Nat} {off : Option Nat}

/-- One line changes the `OFF` in force as its directive says. -/
theorem InForce.next {line : Line} (h : InForce all n off)
    (hline : numbered? all (n + 1) = some line) :
    InForce all (n + 1) (offAfter (n + 1) off (of? line.text)) := by
  intro m
  cases hd : of? line.text with
  | none =>
      -- without a directive nothing is switched
      have hnone : ∀ e, ¬ StandsAt all (n + 1) e := by
        simp [standsAt_iff hline, hd]
      rw [lastSwitch_succ_of_no_switch fun e he => absurd he (hnone e)]
      exact h m
  | some d =>
      -- only `SKIP` leaves the switch in force as it was
      have hstands : StandsAt all (n + 1) d := (standsAt_iff hline).2 hd
      cases d with
      | off =>
          rw [lastSwitch_succ_of_switch hstands (by decide)]
          simp [offAfter, eq_comm]
      | on =>
          rw [lastSwitch_succ_of_switch hstands (by decide)]
          simp [offAfter]
      | skip =>
          rw [lastSwitch_succ_of_no_switch fun e he => he.unique hstands]
          exact h m

/-- A line is exempt exactly if an `OFF` is in force on it or it carries `SKIP`. -/
theorem exempt_iff_of_inForce {line : Line} (h : InForce all n off)
    (hline : numbered? all n = some line) :
    Exempt all n ↔ (off.isSome || of? line.text == some .skip) = true := by
  have hoff : (∃ m, LastSwitch all n m .off) ↔ off.isSome = true := by
    rw [Option.isSome_iff_exists]
    exact exists_congr fun m => (h m).symm
  rw [Exempt, standsAt_iff hline, hoff, Bool.or_eq_true, beq_iff_eq, or_comm]

/-! ## Reading the directives of a file -/

theorem length_scanFrom (number : Nat) (off : Option Nat) (lines : List Line) :
    (scanFrom number off lines).exempt.length = lines.length := by
  induction lines generalizing number off with
  | nil => rfl
  | cons line rest ih => simp [scanFrom, ih]

/-- The marks of a scan tell which lines are exempt, from wherever it starts. -/
theorem exempt_of_scanFrom (hdrop : all.drop n = lines) (hoff : InForce all n off)
    {i : Nat} {mark : Bool} (h : (scanFrom (n + 1) off lines).exempt[i]? = some mark) :
    mark = true ↔ Exempt all (n + 1 + i) := by
  -- on the lines that are left; the `OFF` in force below line `n` is the invariant
  induction lines generalizing n off i with
  | nil => simp [scanFrom] at h
  | cons line rest ih =>
      rcases numbered?_of_drop hdrop with ⟨hline, hrest⟩
      have hnext := hoff.next hline
      cases i with
      | zero =>
          simp only [scanFrom, List.getElem?_cons_zero, Option.some.injEq] at h
          rw [← h]
          exact (exempt_iff_of_inForce hnext hline).symm
      | succ i =>
          rw [scanFrom, List.getElem?_cons_succ] at h
          have hmark := ih hrest hnext h
          rwa [Nat.add_right_comm (n + 1) 1 i] at hmark

/-- What a scan leaves open is the `OFF` in force at the end. -/
theorem inForce_unclosed (hdrop : all.drop n = lines) (hoff : InForce all n off)
    (hn : n ≤ all.length) : InForce all all.length (scanFrom (n + 1) off lines).unclosed := by
  induction lines generalizing n off with
  | nil =>
      -- nothing is left, so line `n` is the last
      have hlen : all.length ≤ n := List.drop_eq_nil_iff.1 hdrop
      have hend : n = all.length := by omega
      subst hend
      exact hoff
  | cons line rest ih =>
      rcases numbered?_of_drop hdrop with ⟨hline, hrest⟩
      exact ih hrest (hoff.next hline) (bounds_of_numbered? hline).2

/-- The reader marks exactly the exempt lines. -/
theorem scan_exempt_getElem? {i : Nat} {mark : Bool}
    (h : (scan lines).exempt[i]? = some mark) : mark = true ↔ Exempt lines (i + 1) := by
  have := exempt_of_scanFrom (n := 0) List.drop_zero (inForce_zero lines) h
  rwa [Nat.zero_add, Nat.add_comm] at this

/-- The `OFF` that is left over is the last switch of the file. -/
theorem scan_unclosed_eq_some_iff {m : Nat} :
    (scan lines).unclosed = some m ↔ LastSwitch lines lines.length m .off :=
  inForce_unclosed (n := 0) List.drop_zero (inForce_zero lines) (Nat.zero_le _) m

/-- From an `OFF` that is left over, all lines to the last are exempt. -/
theorem exempt_of_unclosed {m k : Nat} (h : LastSwitch lines lines.length m .off) (hk : m ≤ k)
    (hlen : k ≤ lines.length) : Exempt lines k :=
  Or.inr ⟨m, h.switch, hk, h.stands, fun l e hlt hle => h.last l e hlt (Nat.le_trans hle hlen)⟩

end Suppression

end TextHygiene
