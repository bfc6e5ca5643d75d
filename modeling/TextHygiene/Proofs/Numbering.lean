import Mathlib.Order.Bounds.Basic
import TextHygiene.Inspection

/-!
# Lines by number

A file seen through its line numbers, which count from one: which line has a number, which numbers
belong to blank lines, and how long a block of blank lines ends with a number.  This is the side of
the statements about inspection that keeps no count of its own.
-/

namespace TextHygiene

namespace Line

/-! ## Numbers -/

def numbered? (lines : List Line) : Nat → Option Line
  | 0 => none
  | place + 1 => lines[place]?

@[simp] theorem numbered?_zero (lines : List Line) : numbered? lines 0 = none :=
  rfl

@[simp] theorem numbered?_succ (lines : List Line) (place : Nat) :
    numbered? lines (place + 1) = lines[place]? :=
  rfl

/-- Lines are numbered from one. -/
theorem bounds_of_numbered? {lines : List Line} {n : Nat} {line : Line}
    (h : numbered? lines n = some line) : 1 ≤ n ∧ n ≤ lines.length := by
  cases n with
  | zero => simp at h
  | succ place =>
      have hlt : place < lines.length := (List.getElem?_eq_some_iff.1 h).1
      omega

theorem mem_of_numbered? {lines : List Line} {n : Nat} {line : Line}
    (h : numbered? lines n = some line) : line ∈ lines := by
  cases n with
  | zero => simp at h
  | succ place => exact List.mem_of_getElem? h

/-- The number of the last line is the number of lines. -/
theorem numbered?_length (lines : List Line) :
    numbered? lines lines.length = lines.getLast? := by
  cases lines with
  | nil => rfl
  | cons line rest =>
      rw [List.getLast?_eq_getElem?]
      rfl

/-- What is left of a file behind its first `n` lines begins with line `n + 1`. -/
theorem numbered?_of_drop {all lines : List Line} {line : Line} {n : Nat}
    (h : all.drop n = line :: lines) :
    numbered? all (n + 1) = some line ∧ all.drop (n + 1) = lines := by
  have hhead : (all.drop n)[0]? = some line := by
    rw [h]
    rfl
  have htail : (all.drop n).drop 1 = lines := by
    rw [h]
    rfl
  refine ⟨?_, ?_⟩
  · simpa using hhead
  · simpa using htail

/-! ## Blank lines -/

def BlankAt (lines : List Line) (n : Nat) : Prop :=
  ∃ line, numbered? lines n = some line ∧ line.isBlank = true

instance (lines : List Line) (n : Nat) : Decidable (BlankAt lines n) :=
  decidable_of_iff ((numbered? lines n).any (·.isBlank) = true) (Option.any_eq_true _ _)

/-- A line that is there decides whether there is a blank line with its number. -/
theorem blankAt_iff {lines : List Line} {n : Nat} {line : Line}
    (h : numbered? lines n = some line) : BlankAt lines n ↔ line.isBlank = true := by
  simp [BlankAt, h]

/-- Every line behind the first `n` is blank exactly if the rest of the file is. -/
theorem forall_blankAt_iff {all : List Line} {n : Nat} :
    (∀ m, n < m → m ≤ all.length → BlankAt all m) ↔
      (all.drop n).all (·.isBlank) = true := by
  rw [List.all_eq_true]
  constructor
  · -- the element at place `i` of the rest is line `n + i + 1`
    intro h line hline
    rcases List.mem_iff_getElem?.1 hline with ⟨i, hi⟩
    rw [List.getElem?_drop] at hi
    have hlt : n + i < all.length := (List.getElem?_eq_some_iff.1 hi).1
    exact (blankAt_iff (n := n + i + 1) hi).1 (h (n + i + 1) (by omega) (by omega))
  · intro h m hn hm
    rcases m with _ | place
    · omega
    · -- line `place + 1` is the element at place `place - n` of the rest
      have hlt : place < all.length := by omega
      have hget : numbered? all (place + 1) = some all[place] := List.getElem?_eq_getElem hlt
      have hmem : all[place] ∈ all.drop n := by
        refine List.mem_iff_getElem?.2 ⟨place - n, ?_⟩
        rw [List.getElem?_drop, Nat.add_sub_cancel' (by omega)]
        exact hget
      exact (blankAt_iff hget).2 (h _ hmem)

/-- The last `length` lines up to line `n` are all blank. -/
def BlankBlock (lines : List Line) (n length : Nat) : Prop :=
  ∀ m, n < m + length → m ≤ n → BlankAt lines m

/-- The longest block of blank lines that ends with line `n` has `length` lines.  If line `n` is not
blank, this is none. -/
def LongestBlankBlock (lines : List Line) (n length : Nat) : Prop :=
  IsGreatest {k | BlankBlock lines n k} length

theorem not_blankAt_zero (lines : List Line) : ¬ BlankAt lines 0 := by
  simp [BlankAt]

/-- No line stands above the first. -/
theorem longestBlankBlock_zero (lines : List Line) : LongestBlankBlock lines 0 0 := by
  refine ⟨fun m hm hle => by omega, ?_⟩
  intro k hk
  by_contra hpos
  exact not_blankAt_zero lines (hk 0 (by omega) (Nat.le_refl 0))

/-- No block of blank lines ends with a line exactly if that line is not blank. -/
theorem LongestBlankBlock.eq_zero_iff {lines : List Line} {n run : Nat}
    (h : LongestBlankBlock lines n run) : run = 0 ↔ ¬ BlankAt lines n := by
  constructor
  · rintro rfl hblank
    -- a blank line is a block of one
    have hone : 1 ≤ 0 := h.2 fun m hm hle => by
      have hmn : m = n := by omega
      exact hmn ▸ hblank
    omega
  · intro hblank
    by_contra hpos
    exact hblank (h.1 n (by omega) (Nat.le_refl n))

/-- A blank line makes the block above it longer by one, any other line ends it. -/
theorem LongestBlankBlock.next {lines : List Line} {n run : Nat} {line : Line}
    (h : LongestBlankBlock lines n run) (hline : numbered? lines (n + 1) = some line) :
    LongestBlankBlock lines (n + 1) (if line.isBlank then run + 1 else 0) := by
  have hblank := blankAt_iff hline
  by_cases hb : line.isBlank = true
  · rw [if_pos hb]
    refine ⟨?_, ?_⟩
    · -- the block above and the new line
      intro m hm hle
      rcases Nat.lt_or_eq_of_le hle with hlt | rfl
      · exact h.1 m (by omega) (by omega)
      · exact hblank.2 hb
    · -- a longer block that ends one line below would be one line longer above, too
      intro k hk
      have hshort : k - 1 ≤ run := h.2 fun m hm hle => hk m (by omega) (by omega)
      omega
  · rw [if_neg hb]
    refine ⟨fun m hm hle => by omega, ?_⟩
    intro k hk
    by_contra hpos
    exact hb (hblank.1 (hk (n + 1) (by omega) (Nat.le_refl _)))

/-- All lines from line `n` to the last are blank, and the line above, if there is one, is not. -/
def StartsTrailingBlanks (lines : List Line) (n : Nat) : Prop :=
  (∀ m, n ≤ m → m ≤ lines.length → BlankAt lines m) ∧ ¬ BlankAt lines (n - 1)

end Line

end TextHygiene
