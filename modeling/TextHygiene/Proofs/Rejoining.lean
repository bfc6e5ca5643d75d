import Mathlib.Data.List.Basic
import TextHygiene.Proofs.Splitting

/-!
# Lines joined again

The lines of a text, each with a line feed behind it if it ended with one, make up the text again
but for the carriage returns of its line breaks.  So splitting is the same as making every line
break a line feed and then cutting behind each of them.  Lines that are separated as those of a text
are found again in what they are joined to, which leaves no other way to split.
-/

namespace TextHygiene

/-- A text in which every carriage return with a line feed behind it has become that line feed. -/
def Text.withPlainBreaks : Text → Text
  | '\r' :: '\n' :: rest => '\n' :: withPlainBreaks rest
  | c :: rest => c :: withPlainBreaks rest
  | [] => []

namespace Line

/-! ## Carriage returns -/

/-- A character in front of a line stays where it is, unless it is the carriage return of the line
break. -/
theorem dropReturn_cons {c : Char} {line : Line}
    (h : line.terminated = true → line.text = [] → c ≠ '\r') :
    dropReturn ⟨c :: line.text, line.terminated⟩ =
      ⟨c :: line.dropReturn.text, line.dropReturn.terminated⟩ := by
  rcases line with ⟨text, terminated⟩
  cases terminated with
  | false => rfl
  | true =>
      cases text with
      | nil =>
          have hne : c ≠ '\r' := h rfl rfl
          simp [dropReturn, Text.before?, hne]
      | cons d rest =>
          -- the last character is that of the line without `c`
          by_cases hlast : (d :: rest).getLast? = some '\r'
          · simp [dropReturn, Text.before?, List.getLast?_cons_cons, hlast]
          · simp [dropReturn, Text.before?, List.getLast?_cons_cons, hlast]

theorem exists_eq_lineFeed_cons {t : Text} {lines : List Line}
    (h : cutAtLineFeeds t = ⟨[], true⟩ :: lines) : ∃ rest, t = '\n' :: rest := by
  refine ⟨joined lines, ?_⟩
  calc
    t = joined (cutAtLineFeeds t) := (joined_cutAtLineFeeds t).symm
    _ = '\n' :: joined lines := by rw [h]; rfl

/-- Splitting makes every line break a line feed and then cuts behind each of them. -/
theorem split_eq_cutAtLineFeeds (t : Text) : split t = cutAtLineFeeds t.withPlainBreaks := by
  fun_induction Text.withPlainBreaks t with
  | case1 rest ih =>
      have hcut : cutAtLineFeeds ('\r' :: '\n' :: rest) = ⟨['\r'], true⟩ :: cutAtLineFeeds rest :=
        cutAtLineFeeds_cons_of_ne (by decide) (cutAtLineFeeds_lineFeed rest)
      rw [cutAtLineFeeds_lineFeed, ← ih, split, hcut]
      rfl
  | case2 c rest hbreak ih =>
      by_cases hc : c = '\n'
      · subst hc
        rw [cutAtLineFeeds_lineFeed, ← ih, split, cutAtLineFeeds_lineFeed]
        rfl
      · cases hrest : cutAtLineFeeds rest with
        | nil =>
            have hnil : cutAtLineFeeds (Text.withPlainBreaks rest) = [] := by
              rw [← ih, split, hrest]
              rfl
            rw [split, cutAtLineFeeds, if_neg hc, hrest, cutAtLineFeeds, if_neg hc, hnil]
            rfl
        | cons line lines =>
            have hmap : cutAtLineFeeds (Text.withPlainBreaks rest) =
                line.dropReturn :: lines.map dropReturn := by
              rw [← ih, split, hrest]
              rfl
            -- a line break directly behind `c` means that `c` is no carriage return
            have hkept : line.terminated = true → line.text = [] → c ≠ '\r' := by
              intro hend hempty hreturn
              have hfirst : line = ⟨[], true⟩ := by
                rcases line with ⟨text, terminated⟩
                cases hend
                cases hempty
                rfl
              rcases exists_eq_lineFeed_cons (hfirst ▸ hrest) with ⟨rest', hfeed⟩
              exact hbreak rest' hreturn hfeed
            rw [split, cutAtLineFeeds_cons_of_ne hc hrest, cutAtLineFeeds_cons_of_ne hc hmap,
              List.map_cons, dropReturn_cons hkept]
  | case3 => rfl

/-! ## Lines that a text can have -/

/-- Lines as a text has them: none has a line feed inside, only the last may lack its line break,
and then it is not empty. -/
structure Separated (lines : List Line) : Prop where
  lineFeed_not_mem : ∀ line ∈ lines, '\n' ∉ line.text
  terminated : ∀ line ∈ lines.dropLast, line.terminated = true
  ne_nil : ∀ last, lines.getLast? = some last → last.terminated = false → last.text ≠ []

theorem separated_nil : Separated [] where
  lineFeed_not_mem := List.forall_mem_nil _
  terminated := List.forall_mem_nil _
  ne_nil := nofun

theorem separated_singleton_iff {line : Line} :
    Separated [line] ↔
      '\n' ∉ line.text ∧ (line.terminated = false → line.text ≠ []) := by
  constructor
  · intro h
    exact ⟨h.lineFeed_not_mem line (List.mem_singleton_self line), h.ne_nil line rfl⟩
  · rintro ⟨hfeed, hne⟩
    refine ⟨List.forall_mem_singleton.2 hfeed, List.forall_mem_nil _, ?_⟩
    rintro last hlast
    cases hlast
    exact hne

/-- A line that another one follows has its line break. -/
theorem separated_cons_cons_iff {line next : Line} {lines : List Line} :
    Separated (line :: next :: lines) ↔
      '\n' ∉ line.text ∧ line.terminated = true ∧ Separated (next :: lines) := by
  constructor
  · rintro ⟨hfeed, hend, hlast⟩
    rw [List.dropLast_cons_cons] at hend
    rw [List.getLast?_cons_cons] at hlast
    rcases List.forall_mem_cons.1 hfeed with ⟨hfirst, hfeed⟩
    rcases List.forall_mem_cons.1 hend with ⟨hended, hend⟩
    exact ⟨hfirst, hended, hfeed, hend, hlast⟩
  · rintro ⟨hfirst, hended, hfeed, hend, hlast⟩
    refine ⟨List.forall_mem_cons.2 ⟨hfirst, hfeed⟩, ?_, ?_⟩
    · rw [List.dropLast_cons_cons]
      exact List.forall_mem_cons.2 ⟨hended, hend⟩
    · rw [List.getLast?_cons_cons]
      exact hlast

/-- A line break in front of lines. -/
theorem Separated.lineFeed_cons {lines : List Line} (h : Separated lines) :
    Separated (⟨[], true⟩ :: lines) := by
  cases lines with
  | nil => exact separated_singleton_iff.2 ⟨List.not_mem_nil, nofun⟩
  | cons next lines => exact separated_cons_cons_iff.2 ⟨List.not_mem_nil, rfl, h⟩

/-- A character other than a line feed in front of the first line. -/
theorem Separated.text_cons {c : Char} {line : Line} {lines : List Line} (hc : c ≠ '\n')
    (h : Separated (line :: lines)) : Separated (⟨c :: line.text, line.terminated⟩ :: lines) := by
  cases lines with
  | nil =>
      rcases separated_singleton_iff.1 h with ⟨hfeed, _⟩
      exact separated_singleton_iff.2
        ⟨List.not_mem_cons_of_ne_of_not_mem hc.symm hfeed, fun _ => List.cons_ne_nil _ _⟩
  | cons next lines =>
      rcases separated_cons_cons_iff.1 h with ⟨hfeed, hend, hrest⟩
      exact separated_cons_cons_iff.2
        ⟨List.not_mem_cons_of_ne_of_not_mem hc.symm hfeed, hend, hrest⟩

/-- Cutting behind line feeds makes lines as a text has them. -/
theorem separated_cutAtLineFeeds (t : Text) : Separated (cutAtLineFeeds t) := by
  induction t with
  | nil => exact separated_nil
  | cons c rest ih =>
      by_cases hc : c = '\n'
      · subst hc
        rw [cutAtLineFeeds_lineFeed]
        exact ih.lineFeed_cons
      · -- the character joins the first line behind it, if there is one
        cases hrest : cutAtLineFeeds rest with
        | nil =>
            rw [cutAtLineFeeds, if_neg hc, hrest]
            exact separated_singleton_iff.2
              ⟨List.not_mem_cons_of_ne_of_not_mem (Ne.symm hc) List.not_mem_nil,
                fun _ => List.cons_ne_nil _ _⟩
        | cons line lines =>
            rw [cutAtLineFeeds_cons_of_ne hc hrest]
            rw [hrest] at ih
            exact ih.text_cons hc

/-- Lines that a text can have are found again in the text that they are joined to. -/
theorem Separated.cutAtLineFeeds_joined {lines : List Line} (h : Separated lines) :
    cutAtLineFeeds (joined lines) = lines := by
  induction lines with
  | nil => rfl
  | cons line lines ih =>
      rcases line with ⟨text, terminated⟩
      cases terminated with
      | true =>
          have hfeed : '\n' ∉ text := h.lineFeed_not_mem _ List.mem_cons_self
          have hrest : Separated lines := by
            cases lines with
            | nil => exact separated_nil
            | cons next lines => exact (separated_cons_cons_iff.1 h).2.2
          have hwritten : joined (⟨text, true⟩ :: lines) = text ++ '\n' :: joined lines := by
            simp [joined, written]
          rw [hwritten, cutAtLineFeeds_append, cutAtLineFeeds_concat hfeed, ih hrest]
          rfl
      | false =>
          -- such a line is the last
          cases lines with
          | nil =>
              rcases separated_singleton_iff.1 h with ⟨hfeed, hne⟩
              have hwritten : joined [⟨text, false⟩] = text := by
                simp [joined, written]
              rw [hwritten, cutAtLineFeeds_of_not_mem (hne rfl) hfeed]
          | cons next lines =>
              have hended : false = true := (separated_cons_cons_iff.1 h).2.1
              cases hended

/-! ## How many lines a text has -/

/-- A text that ends with a line feed has as many lines as line feeds. -/
theorem length_split_of_ended {t : Text} (h : t = [] ∨ t.getLast? = some '\n') :
    (split t).length = t.count '\n' := by
  rcases h with rfl | hend
  · rfl
  · rcases List.getLast?_eq_some_iff.1 hend with ⟨front, rfl⟩
    rw [length_split_concat, List.count_append, List.count_singleton_self]

/-- There is one line for each line feed, and one for what stands behind the last of them. -/
theorem length_split (t : Text) :
    (split t).length = t.count '\n' + if t ≠ [] ∧ t.getLast? ≠ some '\n' then 1 else 0 := by
  -- what stands behind the last line feed is a line unless it is empty
  rcases exists_eq_append_last t with ⟨first, last, rfl, hlast, hfirst⟩
  by_cases hnil : last = []
  · subst hnil
    have hended : ¬ (first ≠ [] ∧ first.getLast? ≠ some '\n') :=
      fun hopen => hfirst.elim hopen.1 hopen.2
    rw [List.append_nil, length_split_of_ended hfirst, if_neg hended, Nat.add_zero]
  · have hlines : split (first ++ last) = split first ++ [⟨last, false⟩] := by
      rw [split_append_of_ended last hfirst, split_of_not_mem hnil hlast]
    have hopen : (first ++ last).getLast? ≠ some '\n' := by
      rw [List.getLast?_append_of_ne_nil _ hnil]
      exact fun hfeed => hlast (List.mem_of_getLast? hfeed)
    rw [hlines, List.length_append, length_split_of_ended hfirst, List.count_append,
      List.count_eq_zero_of_not_mem hlast,
      if_pos ⟨List.append_ne_nil_of_right_ne_nil first hnil, hopen⟩]
    rfl

/-- Splitting loses nothing but the carriage returns of line breaks.  Joined again, the lines of a
text are the text with a line feed for each of its line breaks; no line has a line feed inside, all
but the last have their line break, and the last has one or is not empty.  No other lines are like
this. -/
theorem split_exact (contents : Text) :
    joined (split contents) = contents.withPlainBreaks ∧
      (∀ line ∈ split contents, '\n' ∉ line.text) ∧
      (∀ line ∈ (split contents).dropLast, line.terminated = true) ∧
      (∀ last, (split contents).getLast? = some last → last.terminated = false →
        last.text ≠ []) ∧
      (split contents).length =
        contents.count '\n' +
          (if contents ≠ [] ∧ contents.getLast? ≠ some '\n' then 1 else 0) ∧
      ∀ lines, Separated lines → joined lines = contents.withPlainBreaks →
        lines = split contents := by
  have hseparated : Separated (split contents) := by
    rw [split_eq_cutAtLineFeeds]
    exact separated_cutAtLineFeeds _
  have hjoined : joined (split contents) = contents.withPlainBreaks := by
    rw [split_eq_cutAtLineFeeds]
    exact joined_cutAtLineFeeds _
  refine ⟨hjoined, hseparated.lineFeed_not_mem, hseparated.terminated, hseparated.ne_nil,
    length_split contents, fun lines hlines hsame => ?_⟩
  -- separated lines are found again by cutting what they are joined to
  calc
    lines = cutAtLineFeeds (joined lines) := hlines.cutAtLineFeeds_joined.symm
    _ = cutAtLineFeeds contents.withPlainBreaks := by rw [hsame]
    _ = split contents := (split_eq_cutAtLineFeeds contents).symm

/-- Two carriage returns in front of a line feed, one in front of the next, a line break on its own,
and carriage returns inside and at the end of a last line without a line break. -/
def strayReturns : Text :=
  "\r\r\na\r\n\nb\rc\r".toList

/-- Of the carriage returns only the one in front of a line feed belongs to the line break. -/
theorem split_exact_strayReturns :
    joined (split strayReturns) = "\r\na\n\nb\rc\r".toList ∧
      '\n' ∉ "b\rc\r".toList ∧
      (⟨['\r'], true⟩ : Line).terminated = true ∧
      "b\rc\r".toList ≠ [] ∧
      (split strayReturns).length = 4 ∧
      [⟨['\r'], true⟩, ⟨['a'], true⟩, ⟨[], true⟩, ⟨"b\rc\r".toList, false⟩] =
        split strayReturns := by
  rcases split_exact strayReturns with ⟨hjoined, hfeed, hended, hlast, hlength, hunique⟩
  have hmem : ⟨"b\rc\r".toList, false⟩ ∈ split strayReturns := by
    decide +kernel
  have hseparated : Separated
      [⟨['\r'], true⟩, ⟨['a'], true⟩, ⟨[], true⟩, ⟨"b\rc\r".toList, false⟩] := by
    simp [separated_cons_cons_iff, separated_singleton_iff]
  exact ⟨hjoined, hfeed _ hmem, hended _ (by decide +kernel),
    hlast ⟨"b\rc\r".toList, false⟩ (by decide +kernel) rfl, hlength,
    hunique _ hseparated (by decide +kernel)⟩

end Line

end TextHygiene
