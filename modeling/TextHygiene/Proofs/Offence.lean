import TextHygiene.Proofs.Grammar
import TextHygiene.Proofs.Numbering
import TextHygiene.Proofs.Reading
import TextHygiene.Proofs.Splitting

/-!
# The first line that offends

A line of a configuration file offends if it starts like a header and is none, if it is nothing at
all, or if it sets an option above the first header.  Reading carries the open section only; this is
shown to be enough to accept exactly the files without an offence, and to name the first offence of
all others.  What stands behind that line is never looked at.
-/

namespace TextHygiene

namespace Ini

open Line

/-! ## Offences -/

/-- What is wrong with a trimmed line, where `headed` says that a header stands above it. -/
inductive Offence (headed : Prop) (line : Text) : Text → Prop
  | header : StartsHeader line → ¬ IsHeader line →
      Offence headed line "malformed section header".toList
  | junk : ¬ IsIgnorable line → ¬ StartsHeader line → ¬ IsPair line →
      Offence headed line "expected `key = value` or `[section]`".toList
  | early : ¬ IsIgnorable line → ¬ StartsHeader line → IsPair line → ¬ headed →
      Offence headed line "option defined before any section header".toList

def HeaderAbove (lines : List Line) (n : Nat) : Prop :=
  ∃ m line, m < n ∧ numbered? lines m = some line ∧ IsHeader (Text.trim line.text)

/-- The line with a number offends, as a message says. -/
def Offends (lines : List Line) (n : Nat) (message : Text) : Prop :=
  ∃ line, numbered? lines n = some line ∧
    Offence (HeaderAbove lines n) (Text.trim line.text) message

/-- The line with a number is the first to offend. -/
structure FirstOffends (lines : List Line) (n : Nat) (message : Text) : Prop where
  offends : Offends lines n message
  first : ∀ m < n, ∀ other, ¬ Offends lines m other

variable {lines : List Line} {n : Nat} {a b : Text}

/-- A line offends in one way at most. -/
theorem Offence.unique {headed : Prop} {line : Text} (ha : Offence headed line a)
    (hb : Offence headed line b) : a = b := by
  -- a line either starts like a header or is a pair, and an early pair stands above all headers
  cases ha with
  | header hstarts _ =>
      cases hb with
      | header => rfl
      | junk _ hnot => exact absurd hstarts hnot
      | early _ hnot => exact absurd hstarts hnot
  | junk _ hnot hpair =>
      cases hb with
      | header hstarts => exact absurd hstarts hnot
      | junk => rfl
      | early _ _ hpair' => exact absurd hpair' hpair
  | early _ hnot hpair _ =>
      cases hb with
      | header hstarts => exact absurd hstarts hnot
      | junk _ _ hpair' => exact absurd hpair hpair'
      | early => rfl

/-- Lines that offend exist. -/
theorem Offends.bounds (h : Offends lines n a) : 1 ≤ n ∧ n ≤ lines.length := by
  rcases h with ⟨line, hline, _⟩
  exact bounds_of_numbered? hline

theorem offends_iff {line : Line} (h : numbered? lines n = some line) :
    Offends lines n a ↔ Offence (HeaderAbove lines n) (Text.trim line.text) a := by
  constructor
  · rintro ⟨line', hline', hoffence⟩
    rw [h] at hline'
    cases hline'
    exact hoffence
  · exact fun hoffence => ⟨line, h, hoffence⟩

/-- There is one first line that offends, with one message. -/
theorem FirstOffends.unique {m : Nat} (ha : FirstOffends lines n a) (hb : FirstOffends lines m b) :
    n = m ∧ a = b := by
  have hsame : n = m := by
    rcases Nat.lt_trichotomy n m with hlt | heq | hlt
    · exact absurd ha.offends (hb.first n hlt a)
    · exact heq
    · exact absurd hb.offends (ha.first m hlt b)
  subst hsame
  rcases ha.offends with ⟨line, hline, hoffence⟩
  exact ⟨rfl, hoffence.unique ((offends_iff hline).1 hb.offends)⟩

/-- A header stands above a line if it stands above the line before or is that line. -/
theorem headerAbove_succ {line : Line} (h : numbered? lines n = some line) :
    HeaderAbove lines (n + 1) ↔ HeaderAbove lines n ∨ IsHeader (Text.trim line.text) := by
  constructor
  · rintro ⟨m, above, hm, hline, hheader⟩
    rcases Nat.lt_or_eq_of_le (Nat.le_of_lt_succ hm) with hlt | rfl
    · exact Or.inl ⟨m, above, hlt, hline, hheader⟩
    · rw [h] at hline
      cases hline
      exact Or.inr hheader
  · rintro (⟨m, above, hm, hline, hheader⟩ | hheader)
    · exact ⟨m, above, Nat.lt_succ_of_lt hm, hline, hheader⟩
    · exact ⟨n, line, Nat.lt_succ_self n, h, hheader⟩

/-! ## One line -/

/-- A line is refused exactly for its offence, and the section that is open tells whether a header
stands above. -/
theorem step_offence {state : State} {headed : Prop} (line : Text)
    (hopen : state.current.isSome = true ↔ headed) :
    match state.step (Item.ofTrimmed line) with
    | .ok next =>
        (∀ message, ¬ Offence headed line message) ∧
          (next.current.isSome = true ↔ headed ∨ IsHeader line)
    | .error fault => Offence headed line fault.message := by
  have hclass := Item.class_ofTrimmed line
  cases hitem : Item.ofTrimmed line with
  | ignored =>
      rw [hitem] at hclass
      -- a line that is passed over starts with no bracket
      have hstarts : ¬ StartsHeader line := by
        rcases hclass with rfl | h | h
        · exact nofun
        · rw [StartsHeader, h]; decide
        · rw [StartsHeader, h]; decide
      have hheader : ¬ IsHeader line := fun h => hstarts h.startsHeader
      refine ⟨?_, hopen.trans (or_iff_left hheader).symm⟩
      rintro message (h | h | h)
      · exact hstarts h
      · exact h hclass
      · exact h hclass
  | header name =>
      rw [hitem] at hclass
      refine ⟨?_, iff_of_true rfl (Or.inr hclass)⟩
      rintro message (⟨_, h⟩ | ⟨_, h⟩ | ⟨_, h⟩)
      · exact h hclass
      · exact h hclass.startsHeader
      · exact h hclass.startsHeader
  | badHeader =>
      rw [hitem] at hclass
      exact Offence.header hclass.1 hclass.2
  | junk =>
      rw [hitem] at hclass
      exact Offence.junk hclass.1 hclass.2.1 hclass.2.2
  | pair key value =>
      rw [hitem] at hclass
      rcases hclass with ⟨hignorable, hstarts, hpair⟩
      have hheader : ¬ IsHeader line := fun h => hstarts h.startsHeader
      rcases state with ⟨sections, current⟩
      cases current with
      | none =>
          refine Offence.early hignorable hstarts hpair ?_
          rw [← hopen]
          exact Bool.false_ne_true
      | some name =>
          refine ⟨?_, hopen.trans (or_iff_left hheader).symm⟩
          rintro message (h | ⟨_, _, h⟩ | ⟨_, _, _, h⟩)
          · exact hstarts h
          · exact h hpair
          · exact h (hopen.1 rfl)

/-! ## All lines -/

/-- What reading the lines behind line `n` comes to, if no line has offended so far. -/
theorem run_offends {all : List Line} {state : State} (hdrop : all.drop n = lines)
    (hopen : state.current.isSome = true ↔ HeaderAbove all (n + 1))
    (hbefore : ∀ m ≤ n, ∀ other, ¬ Offends all m other) :
    match state.run (n + 1) (lines.map (·.text)) with
    | .ok _ => ∀ m other, ¬ Offends all m other
    | .error error => FirstOffends all error.line error.fault.message := by
  -- on the lines that are left; the section that is open is the invariant
  induction lines generalizing n state with
  | nil =>
      have hlen : all.length ≤ n := List.drop_eq_nil_iff.1 hdrop
      intro m other hoffends
      exact hbefore m (Nat.le_trans hoffends.bounds.2 hlen) other hoffends
  | cons line rest ih =>
      rcases numbered?_of_drop hdrop with ⟨hline, hrest⟩
      have hstep := step_offence (Text.trim line.text) hopen
      rw [List.map_cons, State.run, Item.ofLine]
      cases hnext : state.step (Item.ofTrimmed (Text.trim line.text)) with
      | error fault =>
          rw [hnext] at hstep
          refine ⟨(offends_iff hline).2 hstep, fun m hm => ?_⟩
          exact hbefore m (Nat.le_of_lt_succ hm)
      | ok next =>
          rw [hnext] at hstep
          rcases hstep with ⟨hnone, hopen'⟩
          refine ih hrest (hopen'.trans (headerAbove_succ hline).symm) ?_
          intro m hm other hoffends
          rcases Nat.lt_or_eq_of_le hm with hlt | rfl
          · exact hbefore m (Nat.le_of_lt_succ hlt) other hoffends
          · exact hnone other ((offends_iff hline).1 hoffends)

/-- A file is read if no line offends, and otherwise fails at the first line that does. -/
theorem read_offends (content : Text) :
    match read content with
    | .ok _ => ∀ n message, ¬ Offends (Line.split content) n message
    | .error error => FirstOffends (Line.split content) error.line error.fault.message := by
  -- at the start no header has been read and no line has offended
  have hopen : ({} : State).current.isSome = true ↔ HeaderAbove (Line.split content) 1 := by
    refine iff_of_false Bool.false_ne_true ?_
    rintro ⟨m, line, hm, hline, _⟩
    have hpos := (bounds_of_numbered? hline).1
    omega
  have hbefore : ∀ m ≤ 0, ∀ other, ¬ Offends (Line.split content) m other := by
    intro m hm other hoffends
    have hpos := hoffends.bounds.1
    omega
  have hdrop : (Line.split content).drop 0 = Line.split content := List.drop_zero
  have hrun := run_offends hdrop hopen hbefore
  rw [read]
  cases h : State.run 1 {} ((Line.split content).map (·.text)) with
  | ok final =>
      rw [h] at hrun
      exact hrun
  | error error =>
      rw [h] at hrun
      exact hrun

/-! ## What stands behind the offence -/

/-- Text behind the line feed of a line that offends makes no difference. -/
theorem read_error_of_append {before after : Text} {error : SyntaxError}
    (h : read (before ++ '\n' :: after) = .error error) (hline : error.line ≤ before.count '\n' + 1)
    (other : Text) : read (before ++ '\n' :: other) = .error error := by
  have hlength : ((Line.split (before ++ ['\n'])).map (·.text)).length = before.count '\n' + 1 := by
    rw [List.length_map, length_split_concat]
  rw [read_eq_error_iff, split_append_lineFeed, List.map_append, State.run_append] at h ⊢
  cases hfirst : State.run 1 {} ((Line.split (before ++ ['\n'])).map (·.text)) with
  | error found =>
      rw [hfirst] at h
      exact h
  | ok next =>
      -- the lines behind have greater numbers
      rw [hfirst] at h
      have hle := State.le_of_run_error h
      rw [hlength] at hle
      omega

/-! ## Reading -/

/-- A configuration file is read exactly if no line offends; otherwise reading names the first line
that does and what is wrong with it, and this does not depend on what stands behind that line. -/
theorem read_exact (content : Text) :
    ((∃ sections, read content = .ok sections) ↔
        ∀ n message, ¬ Offends (Line.split content) n message) ∧
      (∀ n message,
        (∃ error, read content = .error error ∧ error.line = n ∧ error.fault.message = message) ↔
          FirstOffends (Line.split content) n message) ∧
      ∀ error before after, read content = .error error → content = before ++ '\n' :: after →
        error.line ≤ before.count '\n' + 1 →
          ∀ other, read (before ++ '\n' :: other) = .error error := by
  -- the first two parts are both sides of what reading says about offences
  have hread := read_offends content
  refine ⟨?_, ?_, ?_⟩
  · cases h : read content with
    | ok sections =>
        rw [h] at hread
        exact iff_of_true ⟨sections, rfl⟩ hread
    | error error =>
        rw [h] at hread
        refine iff_of_false (fun ⟨_, hok⟩ => nomatch hok) ?_
        exact fun hnone => hnone _ _ hread.offends
  · intro n message
    constructor
    · rintro ⟨error, h, rfl, rfl⟩
      rw [h] at hread
      exact hread
    · intro hfirst
      cases h : read content with
      | ok sections =>
          rw [h] at hread
          exact absurd hfirst.offends (hread n message)
      | error error =>
          rw [h] at hread
          rcases hread.unique hfirst with ⟨hline, hmessage⟩
          exact ⟨error, rfl, hline, hmessage⟩
  · rintro error before after h rfl hline other
    exact read_error_of_append h hline other

/-- A line that is nothing at all is named as such even where no option could stand. -/
example : read "x\n= 1\n[py]\n".toList = .error ⟨1, .junk⟩ := by
  decide +kernel

end Ini

end TextHygiene
