import Mathlib.Data.List.Forall2
import TextHygiene.Proofs.Inspection

/-!
# Styles of line endings

A carriage return directly in front of a line feed belongs to the line break.  A text in which no
line break has one may be given carriage returns at all of its line breaks or at some of them: its
lines stay the same, and so do its issues.  Carriage returns inside a line, at the end of the text
or behind a byte order mark are no part of a line break and are not touched.
-/

namespace TextHygiene

open Line

/-! ## Texts with more carriage returns -/

/-- The second text is the first with a carriage return put in front of some of its line feeds,
which may be none or all of them. -/
inductive Text.WithReturns : Text → Text → Prop
  | nil : WithReturns [] []
  | same (c : Char) {t u : Text} : WithReturns t u → WithReturns (c :: t) (c :: u)
  | lineFeed {t u : Text} : WithReturns t u → WithReturns ('\n' :: t) ('\r' :: '\n' :: u)

/-- A text with a carriage return in front of every line feed. -/
def Text.withAllReturns (t : Text) : Text :=
  t.flatMap fun c => if c = '\n' then ['\r', '\n'] else [c]

namespace Text.WithReturns

variable {t t' u u' : Text}

theorem refl (t : Text) : WithReturns t t := by
  induction t with
  | nil => exact nil
  | cons c rest ih => exact same c ih

theorem append (h : WithReturns t u) (h' : WithReturns t' u') :
    WithReturns (t ++ t') (u ++ u') := by
  induction h with
  | nil => exact h'
  | same c _ ih => exact same c ih
  | lineFeed _ ih => exact lineFeed ih

theorem all (t : Text) : WithReturns t t.withAllReturns := by
  induction t with
  | nil => exact nil
  | cons c rest ih =>
      by_cases hc : c = '\n'
      · subst hc
        exact lineFeed ih
      · have hkept : withAllReturns (c :: rest) = c :: withAllReturns rest := by
          simp [withAllReturns, hc]
        rw [hkept]
        exact same c ih

end Text.WithReturns

/-! ## Lines before carriage returns are dropped -/

namespace Line

/-- The second line is the first, or the first with the carriage return of its line break. -/
def SameButReturn (a b : Line) : Prop :=
  b = a ∨ a.terminated = true ∧ b = ⟨a.text ++ ['\r'], true⟩

theorem SameButReturn.cons {a b : Line} (h : SameButReturn a b) (c : Char) :
    SameButReturn ⟨c :: a.text, a.terminated⟩ ⟨c :: b.text, b.terminated⟩ := by
  rcases h with rfl | ⟨hend, rfl⟩
  · exact Or.inl rfl
  · exact Or.inr ⟨hend, rfl⟩

/-- Carriage returns in front of line feeds only come up at the ends of lines. -/
theorem cutAtLineFeeds_withReturns {t u : Text} (h : t.WithReturns u) :
    List.Forall₂ SameButReturn (cutAtLineFeeds t) (cutAtLineFeeds u) := by
  induction h with
  | nil => exact List.Forall₂.nil
  | @same c t u _ ih =>
      by_cases hc : c = '\n'
      · subst hc
        exact List.Forall₂.cons (Or.inl rfl) ih
      · -- the character becomes part of the first line of both
        cases ht : cutAtLineFeeds t with
        | nil =>
            have hu : cutAtLineFeeds u = [] := by
              simpa [ht] using ih
            have hopen : SameButReturn ⟨[c], false⟩ ⟨[c], false⟩ := Or.inl rfl
            simpa [cutAtLineFeeds, hc, ht, hu] using hopen
        | cons line lines =>
            rw [ht] at ih
            cases hu : cutAtLineFeeds u with
            | nil => simp [hu] at ih
            | cons line' lines' =>
                rw [hu] at ih
                cases ih with
                | cons hfirst hrest =>
                    have hlines := List.Forall₂.cons (hfirst.cons c) hrest
                    simpa [cutAtLineFeeds, hc, ht, hu] using hlines
  | lineFeed _ ih =>
      have hbreak : SameButReturn ⟨[], true⟩ ⟨['\r'], true⟩ := Or.inr ⟨rfl, rfl⟩
      simpa [cutAtLineFeeds] using List.Forall₂.cons hbreak ih

/-! ## Lines -/

theorem written_infix_of_mem {t : Text} {line : Line} (h : line ∈ cutAtLineFeeds t) :
    line.written <:+: t := by
  rcases List.append_of_mem h with ⟨before, after, hsplit⟩
  refine ⟨joined before, joined after, ?_⟩
  calc
    joined before ++ line.written ++ joined after = joined (cutAtLineFeeds t) := by
      simp [hsplit, joined]
    _ = t := joined_cutAtLineFeeds t

/-- A line whose line break has no carriage return does not end with one. -/
theorem before?_return_of_mem {t : Text} {line : Line} (h : ¬ ['\r', '\n'] <:+: t)
    (hmem : line ∈ cutAtLineFeeds t) (hend : line.terminated = true) :
    Text.before? '\r' line.text = none := by
  rw [Option.eq_none_iff_forall_ne_some]
  intro rest hrest
  have htext : line.text = rest ++ ['\r'] := Text.before?_eq_some_iff.1 hrest
  have hwritten : line.written = rest ++ ['\r', '\n'] := by
    simp [written, hend, htext]
  have hbreak : ['\r', '\n'] <:+: line.written := ⟨rest, [], by simp [hwritten]⟩
  exact h (hbreak.trans (written_infix_of_mem hmem))

/-- Of the two lines only the second may have lost a carriage return. -/
theorem SameButReturn.dropReturn_eq {a b : Line} (h : SameButReturn a b)
    (hnone : a.terminated = true → Text.before? '\r' a.text = none) :
    b.dropReturn = a.dropReturn := by
  rcases h with rfl | ⟨hend, rfl⟩
  · rfl
  · have hlost : Text.before? '\r' (a.text ++ ['\r']) = some a.text :=
      Text.before?_eq_some_iff.2 rfl
    simp [dropReturn, hend, hnone hend, hlost]

/-- Lines that differ in the carriage returns of their line breaks are the same once these are
dropped, if the first ones have none. -/
theorem map_dropReturn_eq {cuts cuts' : List Line} (h : List.Forall₂ SameButReturn cuts cuts')
    (hnone : ∀ line ∈ cuts, line.terminated = true → Text.before? '\r' line.text = none) :
    cuts'.map dropReturn = cuts.map dropReturn := by
  induction h with
  | nil => rfl
  | cons hfirst _ ih =>
      rcases List.forall_mem_cons.1 hnone with ⟨hhead, htail⟩
      rw [List.map_cons, List.map_cons, hfirst.dropReturn_eq hhead, ih htail]

/-- Carriage returns put in front of line feeds that have none change no line. -/
theorem split_withReturns {t u : Text} (h : ¬ ['\r', '\n'] <:+: t) (hu : t.WithReturns u) :
    split u = split t := by
  apply map_dropReturn_eq (cutAtLineFeeds_withReturns hu)
  intro line hline
  exact before?_return_of_mem h hline

end Line

/-! ## Issues -/

namespace Inspection

theorem withoutMark_cons (c : Char) (rest : Text) :
    withoutMark (c :: rest) = if c = byteOrderMark then rest else c :: rest := by
  by_cases hc : c = byteOrderMark
  · subst hc
    rfl
  · have hne : ¬ byteOrderMark = c := fun e => hc e.symm
    simp [withoutMark, Text.after?, hc, hne]

/-- A byte order mark is dropped from both texts or from neither. -/
theorem withoutMark_withReturns {t u : Text} (h : t.WithReturns u) :
    (withoutMark t).WithReturns (withoutMark u) := by
  cases h with
  | nil => exact .nil
  | same c hrest =>
      rw [withoutMark_cons, withoutMark_cons]
      split
      · exact hrest
      · exact .same c hrest
  | lineFeed hrest =>
      -- neither sign is a byte order mark
      exact .lineFeed hrest

theorem withoutMark_suffix (t : Text) : withoutMark t <:+ t := by
  cases t with
  | nil => exact List.suffix_rfl
  | cons c rest =>
      rw [withoutMark_cons]
      split
      · exact List.suffix_cons c rest
      · exact List.suffix_rfl

/-- Carriage returns in front of some line feeds change no issue. -/
theorem inspect_eq_of_withReturns (settings : Settings) {contents other : Text}
    (h : ¬ ['\r', '\n'] <:+: contents) (hother : contents.WithReturns other) :
    inspect settings other = inspect settings contents := by
  have hbare : ¬ ['\r', '\n'] <:+: withoutMark contents := by
    intro hbreak
    exact h (hbreak.trans (withoutMark_suffix contents).isInfix)
  have hlines : linesOf other = linesOf contents :=
    split_withReturns hbare (withoutMark_withReturns hother)
  calc
    inspect settings other = ofLines settings (linesOf other) := rfl
    _ = ofLines settings (linesOf contents) := by rw [hlines]
    _ = inspect settings contents := rfl

end Inspection

open Inspection

/-- The style of the line endings does not matter: a text without carriage returns in its line
breaks has the same issues with carriage returns in all of them, and in any of them. -/
theorem inspect_withReturns (settings : Settings) {contents : Text}
    (h : ¬ ['\r', '\n'] <:+: contents) :
    inspect settings contents.withAllReturns = inspect settings contents ∧
      ∀ other, contents.WithReturns other → inspect settings other = inspect settings contents := by
  constructor
  · exact inspect_eq_of_withReturns settings h (Text.WithReturns.all contents)
  · intro other hother
    exact inspect_eq_of_withReturns settings h hother

/-- A byte order mark in front of a blank line, a carriage return inside a line, an exempt line, and
a last line that ends with a carriage return. -/
def unixLines : Text :=
  "\ufeff\na\rb \n".toList ++ "c  # CodeDust: SKIP\n".toList ++ "d\r".toList

/-- The text `unixLines` with carriage returns in its first and its last line break. -/
def mixedLines : Text :=
  "\ufeff\r\na\rb \n".toList ++ "c  # CodeDust: SKIP\r\n".toList ++ "d\r".toList

theorem unixLines_withReturns : unixLines.WithReturns mixedLines := by
  have hfirst : Text.WithReturns "\ufeff\na\rb \n".toList "\ufeff\r\na\rb \n".toList :=
    .same _ (.lineFeed (.refl _))
  have hsecond : Text.WithReturns "c  # CodeDust: SKIP\n".toList
      "c  # CodeDust: SKIP\r\n".toList :=
    (Text.WithReturns.refl "c  # CodeDust: SKIP".toList).append (.lineFeed .nil)
  exact (hfirst.append hsecond).append (.refl _)

/-- With a carriage return in two of its line breaks, or in all of them, the text has the issues
that it has without any. -/
theorem inspect_withReturns_mixedLines :
    ¬ ['\r', '\n'] <:+: unixLines ∧
      (inspect {} mixedLines).map (fun issue => (issue.line, issue.rule)) =
        [(1, .leadingBlankLines), (2, .trailingWhitespace), (4, .missingFinalNewline)] ∧
      inspect {} unixLines.withAllReturns = inspect {} unixLines ∧
      inspect {} mixedLines = inspect {} unixLines := by
  have hnone : ¬ ['\r', '\n'] <:+: unixLines := by
    decide +kernel
  rcases inspect_withReturns {} hnone with ⟨hall, hany⟩
  exact ⟨hnone, by decide +kernel, hall, hany _ unixLines_withReturns⟩

end TextHygiene
