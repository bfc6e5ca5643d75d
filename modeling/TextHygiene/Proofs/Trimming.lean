import Mathlib.Data.List.TakeWhile
import TextHygiene.Line

/-!
# Trimmed text

Trimming takes blanks off both ends of a text and nothing else.  A text is trimmed already exactly
if it neither starts nor ends with a blank, so blanks that are put around a text make no difference
to what trimming leaves of it.
-/

namespace TextHygiene

namespace Text

/-- A text that neither starts nor ends with a blank. -/
structure Bare (t : Text) : Prop where
  start : ∀ c, t.head? = some c → isBlank c = false
  stop : ∀ c, t.getLast? = some c → isBlank c = false

variable {front t back : Text}

/-- What holds of all characters of a text is decided by going through the text, and not through all
the characters that there are. -/
theorem forall_mem_of_all {p : Char → Prop} [DecidablePred p]
    (h : t.all (fun c => decide (p c)) = true) : ∀ c ∈ t, p c := by
  intro c hc
  exact of_decide_eq_true (List.all_eq_true.1 h c hc)

/-- What holds of all blanks is decided by going through their list. -/
theorem forall_blank_of_all {p : Char → Prop} [DecidablePred p]
    (h : blankCharacters.all (fun c => decide (p c)) = true) : ∀ c, isBlank c = true → p c :=
  fun c hc => forall_mem_of_all h c (List.contains_iff_mem.1 hc)

/-! ## The start -/

/-- Blanks in front of a text are trimmed away. -/
theorem trimStart_append_of_blank (h : ∀ c ∈ front, isBlank c = true) (t : Text) :
    trimStart (front ++ t) = trimStart t :=
  List.dropWhile_append_of_pos h

theorem trimStart_eq_self (h : ∀ c, t.head? = some c → isBlank c = false) : trimStart t = t := by
  cases t with
  | nil => rfl
  | cons c rest =>
      have hc : ¬ isBlank c = true := by simp [h c rfl]
      exact List.dropWhile_cons_of_neg hc

theorem exists_eq_append_trimStart (t : Text) :
    ∃ front, t = front ++ trimStart t ∧ ∀ c ∈ front, isBlank c = true := by
  refine ⟨t.takeWhile isBlank, List.takeWhile_append_dropWhile.symm, ?_⟩
  intro c hc
  exact List.mem_takeWhile_imp hc

theorem not_blank_of_head?_trimStart {c : Char} (h : (trimStart t).head? = some c) :
    isBlank c = false := by
  have hhead := List.head?_dropWhile_not isBlank t
  rw [trimStart] at h
  rw [h] at hhead
  simpa using hhead

/-! ## The end

Trimming at the end is trimming at the start of the text read backwards. -/

theorem trimEnd_append_of_blank (h : ∀ c ∈ back, isBlank c = true) (t : Text) :
    trimEnd (t ++ back) = trimEnd t := by
  have hback : ∀ c ∈ back.reverse, isBlank c = true := by
    intro c hc
    exact h c (List.mem_reverse.1 hc)
  have hdrop := trimStart_append_of_blank hback t.reverse
  rw [← List.reverse_append] at hdrop
  exact congrArg List.reverse hdrop

theorem trimEnd_eq_self (h : ∀ c, t.getLast? = some c → isBlank c = false) : trimEnd t = t := by
  have hstart : trimStart t.reverse = t.reverse := by
    apply trimStart_eq_self
    intro c hc
    rw [List.head?_reverse] at hc
    exact h c hc
  calc
    trimEnd t = t.reverse.reverse := congrArg List.reverse hstart
    _ = t := List.reverse_reverse t

theorem exists_eq_trimEnd_append (t : Text) :
    ∃ back, t = trimEnd t ++ back ∧ ∀ c ∈ back, isBlank c = true := by
  rcases exists_eq_append_trimStart t.reverse with ⟨front, heq, hblank⟩
  refine ⟨front.reverse, ?_, ?_⟩
  · calc
      t = t.reverse.reverse := (List.reverse_reverse t).symm
      _ = (front ++ trimStart t.reverse).reverse := congrArg List.reverse heq
      _ = trimEnd t ++ front.reverse := List.reverse_append
  · intro c hc
    exact hblank c (List.mem_reverse.1 hc)

theorem not_blank_of_getLast?_trimEnd {c : Char} (h : (trimEnd t).getLast? = some c) :
    isBlank c = false := by
  have hhead : (trimStart t.reverse).head? = some c := by
    rw [← List.getLast?_reverse]
    exact h
  exact not_blank_of_head?_trimStart hhead

/-! ## Both ends -/

/-- Blanks around a text that has none at its ends are what trimming takes off. -/
theorem Bare.trim_eq (h : Bare t) (hfront : ∀ c ∈ front, isBlank c = true)
    (hback : ∀ c ∈ back, isBlank c = true) : trim (front ++ t ++ back) = t := by
  rw [trim, List.append_assoc, trimStart_append_of_blank hfront]
  cases t with
  | nil =>
      have hnil : trimStart back = [] := by
        have hall := trimStart_append_of_blank hback []
        rwa [List.append_nil] at hall
      rw [List.nil_append, hnil]
      rfl
  | cons c rest =>
      -- the first character is not blank, so the blanks behind are still there
      have hstart : trimStart (c :: rest ++ back) = c :: rest ++ back :=
        trimStart_eq_self h.start
      rw [hstart, trimEnd_append_of_blank hback, trimEnd_eq_self h.stop]

/-- Trimming takes nothing but blanks off a text. -/
theorem exists_eq_trim_between (t : Text) :
    ∃ front back, t = front ++ trim t ++ back ∧ (∀ c ∈ front, isBlank c = true) ∧
      ∀ c ∈ back, isBlank c = true := by
  rcases exists_eq_append_trimStart t with ⟨front, hstart, hfront⟩
  rcases exists_eq_trimEnd_append (trimStart t) with ⟨back, hend, hback⟩
  refine ⟨front, back, ?_, hfront, hback⟩
  calc
    t = front ++ trimStart t := hstart
    _ = front ++ (trim t ++ back) := congrArg (front ++ ·) hend
    _ = front ++ trim t ++ back := (List.append_assoc ..).symm

theorem bare_trim (t : Text) : Bare (trim t) := by
  constructor
  · -- trimming at the end leaves the first character in its place
    intro c hc
    rcases exists_eq_trimEnd_append (trimStart t) with ⟨back, heq, _⟩
    apply not_blank_of_head?_trimStart (t := t)
    rw [heq, List.head?_append]
    exact Option.or_eq_some_iff.2 (Or.inl hc)
  · intro c hc
    exact not_blank_of_getLast?_trimEnd hc

/-- Trimming changes nothing exactly if there are no blanks at the ends. -/
theorem trim_eq_self_iff : trim t = t ↔ Bare t := by
  constructor
  · intro h
    exact h ▸ bare_trim t
  · intro h
    have hnone : ∀ c ∈ ([] : Text), isBlank c = true := nofun
    simpa using h.trim_eq hnone hnone

/-- Trimming twice is trimming once. -/
theorem trim_trim (t : Text) : trim (trim t) = trim t :=
  trim_eq_self_iff.2 (bare_trim t)

/-- Blanks around a text make no difference. -/
theorem trim_append_of_blank (hfront : ∀ c ∈ front, isBlank c = true)
    (hback : ∀ c ∈ back, isBlank c = true) (t : Text) : trim (front ++ t ++ back) = trim t := by
  rcases exists_eq_trim_between t with ⟨first, last, heq, hfirst, hlast⟩
  have hwhole : front ++ t ++ back = (front ++ first) ++ trim t ++ (last ++ back) := by
    calc
      front ++ t ++ back = front ++ (first ++ trim t ++ last) ++ back := by rw [← heq]
      _ = (front ++ first) ++ trim t ++ (last ++ back) := by simp
  rw [hwhole]
  exact (bare_trim t).trim_eq (List.forall_mem_append.2 ⟨hfront, hfirst⟩)
    (List.forall_mem_append.2 ⟨hlast, hback⟩)

theorem trim_append_left (h : ∀ c ∈ front, isBlank c = true) (t : Text) :
    trim (front ++ t) = trim t := by
  have htrim := trim_append_of_blank h (nofun : ∀ c ∈ ([] : Text), isBlank c = true) t
  rwa [List.append_nil] at htrim

theorem trim_append_right (h : ∀ c ∈ back, isBlank c = true) (t : Text) :
    trim (t ++ back) = trim t :=
  trim_append_of_blank (nofun : ∀ c ∈ ([] : Text), isBlank c = true) h t

theorem mem_of_mem_trim {c : Char} (h : c ∈ trim t) : c ∈ t := by
  rcases exists_eq_trim_between t with ⟨front, back, heq, _⟩
  rw [heq]
  exact List.mem_append_left back (List.mem_append_right front h)

/-- A text that starts with no blank keeps its first character. -/
theorem head?_of_trim {c : Char} (hstart : ∀ x, t.head? = some x → isBlank x = false)
    (h : (trim t).head? = some c) : t.head? = some c := by
  rcases exists_eq_trimEnd_append (trimStart t) with ⟨back, heq, _⟩
  rw [trimStart_eq_self hstart] at heq
  rw [heq, List.head?_append]
  rw [trim, trimStart_eq_self hstart] at h
  rw [h]
  rfl

theorem Bare.reverse (h : Bare t) : Bare t.reverse := by
  constructor
  · intro c hc
    exact h.stop c (by rwa [List.head?_reverse] at hc)
  · intro c hc
    exact h.start c (by rwa [List.getLast?_reverse] at hc)

theorem trim_reverse (t : Text) : trim t.reverse = (trim t).reverse := by
  rcases exists_eq_trim_between t with ⟨front, back, heq, hfront, hback⟩
  have hreverse : t.reverse = back.reverse ++ (trim t).reverse ++ front.reverse := by
    conv => lhs; rw [heq]
    simp
  rw [hreverse]
  refine (bare_trim t).reverse.trim_eq ?_ ?_
  · exact fun c hc => hback c (List.mem_reverse.1 hc)
  · exact fun c hc => hfront c (List.mem_reverse.1 hc)

/-- It does not matter which end is trimmed first. -/
theorem trimStart_trimEnd (t : Text) : trimStart (trimEnd t) = trim t :=
  List.reverse_inj.1 (trim_reverse t)

theorem isBlank_of_mem_return : ∀ c ∈ ['\r'], isBlank c = true :=
  forall_mem_of_all (by decide)

/-- The carriage return of a line break is a blank at the end of the line. -/
theorem trim_dropReturn (line : Line) : trim line.dropReturn.text = trim line.text := by
  rcases line with ⟨text, terminated⟩
  rw [Line.dropReturn]
  split
  · cases hcut : before? '\r' text with
    | none => rfl
    | some rest =>
        rw [before?_eq_some_iff.1 hcut]
        exact (trim_append_right isBlank_of_mem_return rest).symm
  · rfl

end Text

end TextHygiene
