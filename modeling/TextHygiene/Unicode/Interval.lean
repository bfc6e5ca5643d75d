import TextHygiene.Unicode.Span

/-!
# Intervals of code points

A set of characters as a list of intervals.  This module gives the operations of sets on such lists:
union, intersection, difference and complement.
-/

namespace TextHygiene
namespace Unicode

/-! ## Neighbours

No character has a code point among the surrogates, so they are passed over when a neighbour is
looked for. -/

def lastCodePoint : Nat :=
  0x10FFFF

def nextPoint (n : Nat) : Nat :=
  if n = 0xD7FF then 0xE000 else n + 1

def previousPoint (n : Nat) : Nat :=
  if n = 0xE000 then 0xD7FF else n - 1

/-! ## Intervals -/

/-- The code points from `first` to `last`. -/
structure Interval where
  first : Nat
  last : Nat
deriving DecidableEq, Repr

namespace Interval

def has (i : Interval) (c : Char) : Bool :=
  i.first ≤ c.toNat && c.toNat ≤ i.last

/-- The interval with two ends, whichever of them is the smaller. -/
def between (a b : Nat) : Interval :=
  ⟨min a b, max a b⟩

/-- The code points that two intervals share, if there are any. -/
def meet? (i j : Interval) : Option Interval :=
  if max i.first j.first ≤ min i.last j.last then
    some ⟨max i.first j.first, min i.last j.last⟩
  else none

end Interval

/-- The intervals of a span.  Code points that do not follow one another stand alone. -/
def Span.intervals (s : Span) : List Interval :=
  if s.stride = 1 then [⟨s.first, s.last⟩]
  else (List.range ((s.last - s.first) / s.stride + 1)).map fun k =>
    ⟨s.first + k * s.stride, s.first + k * s.stride⟩

/-- A set of characters: intervals in increasing order that neither overlap nor touch. -/
abbrev Intervals := List Interval

namespace Intervals

def has (s : Intervals) (c : Char) : Bool :=
  s.any (·.has c)

def single (c : Char) : Intervals :=
  [⟨c.toNat, c.toNat⟩]

def full : Intervals :=
  [⟨0, lastCodePoint⟩]

/-- Joins intervals in increasing order that overlap or touch. -/
def coalesce (current : Interval) : List Interval → Intervals
  | [] => [current]
  | next :: rest =>
      if next.first ≤ current.last + 1 then
        coalesce ⟨current.first, max current.last next.last⟩ rest
      else current :: coalesce next rest

def ofList (list : List Interval) : Intervals :=
  match list.mergeSort (fun i j => i.first ≤ j.first) with
  | [] => []
  | i :: rest => coalesce i rest

def ofSpans (spans : List Span) : Intervals :=
  ofList (spans.flatMap Span.intervals)

def union (s t : Intervals) : Intervals :=
  ofList (s ++ t)

def inter (s t : Intervals) : Intervals :=
  s.flatMap fun i => t.filterMap i.meet?

def without (i : Interval) : Intervals → Intervals
  | [] => [i]
  | j :: rest =>
      if j.last < i.first then without i rest
      else if i.last < j.first then [i]
      else
        (if i.first < j.first then [⟨i.first, previousPoint j.first⟩] else []) ++
          (if j.last < i.last then without ⟨nextPoint j.last, i.last⟩ rest else [])

def diff (s t : Intervals) : Intervals :=
  s.flatMap (without · t)

def symmDiff (s t : Intervals) : Intervals :=
  diff (union s t) (inter s t)

/-- What lies behind an interval and outside the intervals that follow it.  Two intervals that face
each other across the surrogates have nothing between them; their inner ends stand for the gap. -/
def gapsBehind (i : Interval) : Intervals → Intervals
  | [] => if i.last < lastCodePoint then [⟨nextPoint i.last, lastCodePoint⟩] else []
  | j :: rest => .between (nextPoint i.last) (previousPoint j.first) :: gapsBehind j rest

/-- The characters that a set lacks. -/
def compl : Intervals → Intervals
  | [] => full
  | i :: rest =>
      (if 0 < i.first then [⟨0, previousPoint i.first⟩] else []) ++ gapsBehind i rest

/-! ## Membership -/

theorem has_single (c d : Char) : (single c).has d = true ↔ d = c := by
  simp only [has, single, List.any_cons, List.any_nil, Bool.or_false, Interval.has,
    Bool.and_eq_true, decide_eq_true_eq]
  exact ⟨fun h => Char.toNat_inj.1 (by omega), fun h => by simp [h]⟩

theorem has_append (s t : Intervals) (c : Char) : has (s ++ t) c = (s.has c || has t c) :=
  List.any_append

/-- Joining intervals that overlap or touch keeps their characters. -/
theorem has_coalesce (i : Interval) (l : List Interval) (c : Char)
    (sorted : (i :: l).Pairwise fun a b => a.first ≤ b.first) :
    (coalesce i l).has c = (i.has c || has l c) := by
  induction l generalizing i with
  | nil => simp [coalesce, has]
  | cons j rest ih =>
      rw [List.pairwise_cons] at sorted
      obtain ⟨ahead, tail⟩ := sorted
      have le := ahead j (by simp)
      rw [List.pairwise_cons] at tail
      simp only [coalesce]
      split
      · rw [ih ⟨i.first, max i.last j.last⟩ (List.pairwise_cons.2
          ⟨fun k hk => ahead k (List.mem_cons_of_mem j hk), tail.2⟩), Bool.eq_iff_iff]
        simp only [has, Interval.has, List.any_cons, Bool.or_eq_true, Bool.and_eq_true,
          decide_eq_true_eq]
        constructor
        · rintro (h | h)
          · by_cases hc : c.toNat ≤ i.last
            · exact .inl ⟨h.1, hc⟩
            · exact .inr (.inl ⟨by omega, by omega⟩)
          · exact .inr (.inr h)
        · rintro (h | h | h)
          · exact .inl ⟨h.1, by omega⟩
          · exact .inl ⟨by omega, by omega⟩
          · exact .inr h
      · have := ih j (List.pairwise_cons.2 tail)
        simp only [has, List.any_cons] at this ⊢
        rw [this]

/-- The set that intervals make up has exactly the characters of the intervals. -/
theorem has_ofList (l : List Interval) (c : Char) : (ofList l).has c = has l c := by
  have perm := List.mergeSort_perm l fun i j => decide (i.first ≤ j.first)
  have sorted : (l.mergeSort fun i j => decide (i.first ≤ j.first)).Pairwise
      fun i j => decide (i.first ≤ j.first) = true :=
    List.pairwise_mergeSort (fun a b c h k => by simp only [decide_eq_true_eq] at *; omega)
      (fun a b => by simp only [Bool.or_eq_true, decide_eq_true_eq]; omega) l
  have same : has (l.mergeSort fun i j => decide (i.first ≤ j.first)) c = has l c :=
    Bool.eq_iff_iff.2 (by simp only [has, List.any_eq_true, perm.mem_iff])
  rw [← same]
  unfold ofList
  cases h : l.mergeSort fun i j => decide (i.first ≤ j.first) with
  | nil => rfl
  | cons i rest =>
      rw [h] at sorted
      have := has_coalesce i rest c (sorted.imp fun h => of_decide_eq_true h)
      simpa [has] using this

/-- The union has the characters of both sets, and no other. -/
theorem has_union (s t : Intervals) (c : Char) : (s.union t).has c = (s.has c || t.has c) := by
  rw [union, has_ofList, has_append]

/-- The intersection has the characters that both sets have. -/
theorem has_inter (s t : Intervals) (c : Char) : (s.inter t).has c = (s.has c && t.has c) := by
  rw [Bool.eq_iff_iff]
  simp only [has, inter, List.any_eq_true, List.mem_flatMap, List.mem_filterMap, Bool.and_eq_true,
    Interval.has, decide_eq_true_eq]
  constructor
  · rintro ⟨k, ⟨i, hi, j, hj, h⟩, hk⟩
    unfold Interval.meet? at h
    split at h
    · cases h
      exact ⟨⟨i, hi, by dsimp only at hk; omega⟩, ⟨j, hj, by dsimp only at hk; omega⟩⟩
    · cases h
  · rintro ⟨⟨i, hi, h⟩, ⟨j, hj, k⟩⟩
    exact ⟨⟨max i.first j.first, min i.last j.last⟩, ⟨i, hi, j, hj, if_pos (by omega)⟩,
      by dsimp only; omega⟩

end Intervals

end Unicode
end TextHygiene
