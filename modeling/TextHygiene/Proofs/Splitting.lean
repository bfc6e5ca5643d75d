import Mathlib.Algebra.GroupWithZero.Nat
import Mathlib.Data.List.Induction
import TextHygiene.Line

/-!
# Splitting text that is put together

Where a text ends with a line feed nothing of its last line is left open, so the lines of a text put
behind it are those that it has on its own.  How many lines end before a place is the number of line
feeds before it.
-/

namespace TextHygiene

namespace Line

/-! ## One character -/

theorem cutAtLineFeeds_lineFeed (rest : Text) :
    cutAtLineFeeds ('\n' :: rest) = ⟨[], true⟩ :: cutAtLineFeeds rest := by
  rw [cutAtLineFeeds, if_pos rfl]

theorem cutAtLineFeeds_cons_of_ne {c : Char} {rest : Text} {line : Line} {lines : List Line}
    (hc : c ≠ '\n') (h : cutAtLineFeeds rest = line :: lines) :
    cutAtLineFeeds (c :: rest) = ⟨c :: line.text, line.terminated⟩ :: lines := by
  rw [cutAtLineFeeds, if_neg hc, h]

theorem dropReturn_terminated (line : Line) : line.dropReturn.terminated = line.terminated := by
  rw [dropReturn]
  split
  · next h => exact h.symm
  · rfl

/-! ## Text that ends with a line feed -/

theorem exists_cutAtLineFeeds_concat (t : Text) :
    ∃ line lines, cutAtLineFeeds (t ++ ['\n']) = line :: lines := by
  cases t with
  | nil => exact ⟨_, _, rfl⟩
  | cons c rest =>
      rw [List.cons_append, cutAtLineFeeds]
      split
      · exact ⟨_, _, rfl⟩
      · split
        · exact ⟨_, _, rfl⟩
        · exact ⟨_, _, rfl⟩

/-- A text is cut at a line feed, and each side on its own. -/
theorem cutAtLineFeeds_append (first second : Text) :
    cutAtLineFeeds (first ++ '\n' :: second) =
      cutAtLineFeeds (first ++ ['\n']) ++ cutAtLineFeeds second := by
  induction first with
  | nil => rw [List.nil_append, List.nil_append, cutAtLineFeeds_lineFeed]; rfl
  | cons c rest ih =>
      rw [List.cons_append, List.cons_append]
      by_cases hc : c = '\n'
      · subst hc
        rw [cutAtLineFeeds_lineFeed, cutAtLineFeeds_lineFeed, ih, List.cons_append]
      · -- the character becomes part of the first line, which ends before `second`
        rcases exists_cutAtLineFeeds_concat rest with ⟨line, lines, hrest⟩
        have hboth : cutAtLineFeeds (rest ++ '\n' :: second) =
            line :: (lines ++ cutAtLineFeeds second) := by
          rw [ih, hrest, List.cons_append]
        rw [cutAtLineFeeds_cons_of_ne hc hboth, cutAtLineFeeds_cons_of_ne hc hrest,
          List.cons_append]

theorem terminated_of_mem_cutAtLineFeeds {t : Text} {line : Line}
    (h : line ∈ cutAtLineFeeds (t ++ ['\n'])) : line.terminated = true := by
  induction t generalizing line with
  | nil =>
      have hline : line = ⟨[], true⟩ := List.mem_singleton.1 h
      rw [hline]
  | cons c rest ih =>
      rw [List.cons_append] at h
      by_cases hc : c = '\n'
      · subst hc
        rw [cutAtLineFeeds_lineFeed] at h
        rcases List.mem_cons.1 h with rfl | hin
        · rfl
        · exact ih hin
      · rcases exists_cutAtLineFeeds_concat rest with ⟨head, lines, hrest⟩
        rw [cutAtLineFeeds_cons_of_ne hc hrest] at h
        rcases List.mem_cons.1 h with rfl | hin
        · -- the first line keeps its end
          have hhead : head.terminated = true := ih (hrest ▸ List.mem_cons_self)
          exact hhead
        · exact ih (hrest ▸ List.mem_cons_of_mem _ hin)

/-- With a line feed at its end a text has one line for each line feed. -/
theorem length_cutAtLineFeeds_concat (t : Text) :
    (cutAtLineFeeds (t ++ ['\n'])).length = t.count '\n' + 1 := by
  induction t with
  | nil => rfl
  | cons c rest ih =>
      rw [List.cons_append]
      by_cases hc : c = '\n'
      · subst hc
        rw [cutAtLineFeeds_lineFeed, List.length_cons, ih, List.count_cons_self]
      · rcases exists_cutAtLineFeeds_concat rest with ⟨line, lines, hrest⟩
        have hsame : (cutAtLineFeeds (c :: (rest ++ ['\n']))).length =
            (cutAtLineFeeds (rest ++ ['\n'])).length := by
          rw [cutAtLineFeeds_cons_of_ne hc hrest, hrest, List.length_cons, List.length_cons]
        rw [hsame, ih, List.count_cons_of_ne hc]

/-! ## Lines -/

/-- A line feed parts the lines in front of it from those behind it. -/
theorem split_append_lineFeed (first second : Text) :
    split (first ++ '\n' :: second) = split (first ++ ['\n']) ++ split second := by
  rw [split, cutAtLineFeeds_append, List.map_append]
  rfl

/-- Behind a line feed a new line starts. -/
theorem split_append {first : Text} (second : Text) (h : first.getLast? = some '\n') :
    split (first ++ second) = split first ++ split second := by
  rcases List.getLast?_eq_some_iff.1 h with ⟨front, rfl⟩
  rw [List.append_assoc, List.singleton_append]
  exact split_append_lineFeed front second

/-- Behind a text in which no line is left open, lines stand as on their own. -/
theorem split_append_of_ended {first : Text} (second : Text)
    (h : first = [] ∨ first.getLast? = some '\n') :
    split (first ++ second) = split first ++ split second := by
  rcases h with rfl | hend
  · rfl
  · exact split_append second hend

theorem length_split_concat (t : Text) : (split (t ++ ['\n'])).length = t.count '\n' + 1 := by
  rw [split, List.length_map, length_cutAtLineFeeds_concat]

/-- A text that ends with a line feed leaves no line open. -/
theorem terminated_of_mem_split {t : Text} {line : Line} (h : t.getLast? = some '\n')
    (hline : line ∈ split t) : line.terminated = true := by
  rcases List.getLast?_eq_some_iff.1 h with ⟨front, rfl⟩
  rcases List.mem_map.1 hline with ⟨cut, hcut, rfl⟩
  rw [dropReturn_terminated]
  exact terminated_of_mem_cutAtLineFeeds hcut

/-! ## Line feeds -/

/-- No line has a line feed inside. -/
theorem lineFeed_not_mem_of_mem_cutAtLineFeeds {t : Text} {line : Line}
    (h : line ∈ cutAtLineFeeds t) : '\n' ∉ line.text := by
  induction t generalizing line with
  | nil => cases h
  | cons c rest ih =>
      by_cases hc : c = '\n'
      · subst hc
        rw [cutAtLineFeeds_lineFeed] at h
        rcases List.mem_cons.1 h with rfl | hin
        · exact List.not_mem_nil
        · exact ih hin
      · cases hrest : cutAtLineFeeds rest with
        | nil =>
            rw [cutAtLineFeeds, if_neg hc, hrest] at h
            rw [List.mem_singleton.1 h]
            simpa using Ne.symm hc
        | cons head lines =>
            rw [cutAtLineFeeds_cons_of_ne hc hrest] at h
            rcases List.mem_cons.1 h with rfl | hin
            · -- the first line has grown by a character that is no line feed
              have hhead : '\n' ∉ head.text := ih (hrest ▸ List.mem_cons_self)
              exact List.not_mem_cons_of_ne_of_not_mem (Ne.symm hc) hhead
            · exact ih (hrest ▸ List.mem_cons_of_mem head hin)

theorem mem_of_mem_dropReturn {line : Line} {c : Char} (h : c ∈ line.dropReturn.text) :
    c ∈ line.text := by
  rw [dropReturn] at h
  split at h
  · cases hcut : Text.before? '\r' line.text with
    | none => simpa [hcut] using h
    | some rest =>
        rw [Text.before?_eq_some_iff.1 hcut]
        exact List.mem_append_left _ (by simpa [hcut] using h)
  · exact h

/-- No line has a line feed inside. -/
theorem lineFeed_not_mem_of_mem_split {t : Text} {line : Line} (h : line ∈ split t) :
    '\n' ∉ line.text := by
  rcases List.mem_map.1 h with ⟨cut, hcut, rfl⟩
  intro hmem
  exact lineFeed_not_mem_of_mem_cutAtLineFeeds hcut (mem_of_mem_dropReturn hmem)

theorem cutAtLineFeeds_concat {t : Text} (h : '\n' ∉ t) :
    cutAtLineFeeds (t ++ ['\n']) = [⟨t, true⟩] := by
  induction t with
  | nil => rfl
  | cons c rest ih =>
      rcases List.ne_and_not_mem_of_not_mem_cons h with ⟨hc, hrest⟩
      exact cutAtLineFeeds_cons_of_ne (Ne.symm hc) (ih hrest)

/-! ## Texts that are each ended by a line feed -/

theorem cutAtLineFeeds_flatMap_cons (t : Text) (texts : List Text) :
    cutAtLineFeeds ((t :: texts).flatMap (· ++ ['\n'])) =
      cutAtLineFeeds (t ++ ['\n']) ++ cutAtLineFeeds (texts.flatMap (· ++ ['\n'])) := by
  rw [List.flatMap_cons, List.append_assoc, List.singleton_append, cutAtLineFeeds_append]

theorem terminated_of_mem_cutAtLineFeeds_flatMap {texts : List Text} {line : Line}
    (h : line ∈ cutAtLineFeeds (texts.flatMap (· ++ ['\n']))) : line.terminated = true := by
  induction texts with
  | nil => cases h
  | cons t rest ih =>
      rw [cutAtLineFeeds_flatMap_cons] at h
      rcases List.mem_append.1 h with hfirst | hrest
      · exact terminated_of_mem_cutAtLineFeeds hfirst
      · exact ih hrest

/-- There is one line for each text and one more for each line feed in a text. -/
theorem length_cutAtLineFeeds_flatMap (texts : List Text) :
    (cutAtLineFeeds (texts.flatMap (· ++ ['\n']))).length =
      texts.length + (texts.map (·.count '\n')).sum := by
  induction texts with
  | nil => rfl
  | cons t rest ih =>
      rw [cutAtLineFeeds_flatMap_cons, List.length_append, length_cutAtLineFeeds_concat, ih,
        List.map_cons, List.sum_cons, List.length_cons]
      omega

/-- Texts without line feeds are the lines of the whole, and no other texts are. -/
theorem cutAtLineFeeds_flatMap_iff {texts : List Text} :
    cutAtLineFeeds (texts.flatMap (· ++ ['\n'])) = texts.map (fun t => ⟨t, true⟩) ↔
      ∀ t ∈ texts, '\n' ∉ t := by
  constructor
  · intro h t ht
    have hline : ⟨t, true⟩ ∈ cutAtLineFeeds (texts.flatMap (· ++ ['\n'])) := by
      rw [h]
      exact List.mem_map_of_mem ht
    exact lineFeed_not_mem_of_mem_cutAtLineFeeds hline
  · intro h
    induction texts with
    | nil => rfl
    | cons t rest ih =>
        rcases List.forall_mem_cons.1 h with ⟨hfirst, hrest⟩
        rw [cutAtLineFeeds_flatMap_cons, cutAtLineFeeds_concat hfirst, ih hrest]
        rfl

/-- Texts without line feeds, each with one behind it, are split into these texts. -/
theorem split_flatMap_lineFeed {texts : List Text} (h : ∀ t ∈ texts, '\n' ∉ t) :
    split (texts.flatMap (· ++ ['\n'])) = texts.map fun t => dropReturn ⟨t, true⟩ := by
  rw [split, cutAtLineFeeds_flatMap_iff.2 h, List.map_map]
  rfl

/-! ## The last line -/

theorem cutAtLineFeeds_of_not_mem {t : Text} (hne : t ≠ []) (h : '\n' ∉ t) :
    cutAtLineFeeds t = [⟨t, false⟩] := by
  induction t with
  | nil => exact absurd rfl hne
  | cons c rest ih =>
      rcases List.ne_and_not_mem_of_not_mem_cons h with ⟨hc, hrest⟩
      cases rest with
      | nil => rw [cutAtLineFeeds, if_neg (Ne.symm hc)]; rfl
      | cons d rest =>
          exact cutAtLineFeeds_cons_of_ne (Ne.symm hc) (ih (List.cons_ne_nil d rest) hrest)

theorem split_of_not_mem {t : Text} (hne : t ≠ []) (h : '\n' ∉ t) : split t = [⟨t, false⟩] := by
  rw [split, cutAtLineFeeds_of_not_mem hne h]
  rfl

/-- What stands behind the last line feed of a text. -/
theorem exists_eq_append_last (t : Text) :
    ∃ first last, t = first ++ last ∧ '\n' ∉ last ∧
      (first = [] ∨ first.getLast? = some '\n') := by
  induction t using List.reverseRecOn with
  | nil => exact ⟨[], [], rfl, List.not_mem_nil, Or.inl rfl⟩
  | append_singleton t c ih =>
      by_cases hc : c = '\n'
      · exact ⟨t ++ [c], [], (List.append_nil _).symm, List.not_mem_nil,
          Or.inr (hc ▸ List.getLast?_concat)⟩
      · rcases ih with ⟨first, last, rfl, hlast, hfirst⟩
        refine ⟨first, last ++ [c], List.append_assoc _ _ _, ?_, hfirst⟩
        simp [hlast, Ne.symm hc]

end Line

end TextHygiene
