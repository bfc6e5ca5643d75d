import TextHygiene.Check
import TextHygiene.Proofs.Layers
import TextHygiene.Proofs.Trimming
import TextHygiene.Proofs.WellFormed

/-!
# Padded lines

The rules about spacing, about comment markers and about the length of section headers look at a
line without the white space around it.  Some of them trim the line first.  The others search the
whole line, but what they search for starts and ends with characters that are not blank, so that no
match reaches into the white space; and where a space next to a comment marker counts, the end of
the line next to it counts as well.
-/

namespace TextHygiene

namespace Text

variable {needle marker front t back : Text}

/-! ## Searching padded text -/

/-- No match reaches into blanks in front if it starts with a character that is not blank. -/
theorem infix_blank_append_iff (hne : needle ≠ [])
    (hstart : ∀ c, needle.head? = some c → isBlank c = false)
    (hfront : ∀ c ∈ front, isBlank c = true) : needle <:+: front ++ t ↔ needle <:+: t := by
  induction front with
  | nil => rfl
  | cons b rest ih =>
      rcases List.forall_mem_cons.1 hfront with ⟨hb, hrest⟩
      rw [List.cons_append, List.infix_cons_iff, ih hrest]
      -- a match right here would start with the blank
      refine or_iff_right ?_
      intro hstarts
      cases needle with
      | nil => exact hne rfl
      | cons c word =>
          have hc : isBlank c = false := hstart c rfl
          rw [(List.cons_prefix_cons.1 hstarts).1, hb] at hc
          cases hc

theorem suffix_blank_append_iff (hstart : ∀ c, needle.head? = some c → isBlank c = false)
    (hfront : ∀ c ∈ front, isBlank c = true) : needle <:+ front ++ t ↔ needle <:+ t := by
  induction front with
  | nil => rfl
  | cons b rest ih =>
      rcases List.forall_mem_cons.1 hfront with ⟨hb, hrest⟩
      rw [List.cons_append, List.suffix_cons_iff, ih hrest]
      -- the whole text starts with the blank
      refine or_iff_right ?_
      rintro rfl
      rw [hstart b rfl] at hb
      cases hb

/-- No match reaches into blanks behind if it ends with a character that is not blank. -/
theorem infix_append_blank_iff (hne : needle ≠ [])
    (hstop : ∀ c, needle.getLast? = some c → isBlank c = false)
    (hback : ∀ c ∈ back, isBlank c = true) : needle <:+: t ++ back ↔ needle <:+: t := by
  have hreverse : ∀ u : Text, needle <:+: u ↔ needle.reverse <:+: u.reverse :=
    fun u => List.reverse_infix.symm
  rw [hreverse, hreverse t, List.reverse_append]
  apply infix_blank_append_iff
  · simpa using hne
  · intro c hc
    exact hstop c (by rwa [List.head?_reverse] at hc)
  · exact fun c hc => hback c (List.mem_reverse.1 hc)

/-- A text without blanks at its ends occurs in a line exactly if it occurs in the trimmed line. -/
theorem infix_trim_iff (hne : needle ≠ []) (hneedle : Bare needle) (t : Text) :
    needle <:+: trim t ↔ needle <:+: t := by
  rcases exists_eq_trim_between t with ⟨front, back, heq, hfront, hback⟩
  conv => rhs; rw [heq]
  rw [infix_append_blank_iff hne hneedle.stop hback,
    infix_blank_append_iff hne hneedle.start hfront]

theorem occurs_trim (hne : needle ≠ []) (hneedle : Bare needle) (t : Text) :
    occurs needle (trim t) = occurs needle t := by
  rw [Bool.eq_iff_iff, occurs_iff_infix, occurs_iff_infix, infix_trim_iff hne hneedle]

/-! ## Pairs of characters -/

/-- Two characters in a row are a block of length two. -/
theorem hasPair_iff {first second : Char → Bool} :
    hasPair first second t = true ↔
      ∃ a b, [a, b] <:+: t ∧ first a = true ∧ second b = true := by
  fun_induction hasPair first second t with
  | case1 a b rest ih =>
      rw [Bool.or_eq_true, Bool.and_eq_true, ih]
      constructor
      · rintro (⟨ha, hb⟩ | ⟨a', b', hoccurs, h⟩)
        · exact ⟨a, b, ⟨[], rest, rfl⟩, ha, hb⟩
        · exact ⟨a', b', List.infix_cons hoccurs, h⟩
      · rintro ⟨a', b', hoccurs, ha, hb⟩
        rcases List.infix_cons_iff.1 hoccurs with hstarts | hoccurs
        · -- the pair is at the front, or further behind
          have hpair : a' = a ∧ b' = b := by simpa using hstarts
          exact Or.inl ⟨hpair.1 ▸ ha, hpair.2 ▸ hb⟩
        · exact Or.inr ⟨a', b', hoccurs, ha, hb⟩
  | case2 t hshort =>
      refine iff_of_false Bool.false_ne_true ?_
      rintro ⟨a, b, hoccurs, _⟩
      -- fewer than two characters hold no pair
      have hlength : 2 ≤ t.length := hoccurs.length_le
      rcases t with _ | ⟨c, _ | ⟨d, rest⟩⟩
      · cases hlength
      · cases Nat.le_of_succ_le_succ hlength
      · exact hshort c d rest rfl

/-- Pairs without blanks are found in the trimmed line as well. -/
theorem hasPair_trim {first second : Char → Bool}
    (hfirst : ∀ c, isBlank c = true → ¬ first c = true)
    (hsecond : ∀ c, isBlank c = true → ¬ second c = true) (t : Text) :
    hasPair first second (trim t) = hasPair first second t := by
  rw [Bool.eq_iff_iff, hasPair_iff, hasPair_iff]
  refine exists_congr fun a => exists_congr fun b => and_congr_left ?_
  rintro ⟨ha, hb⟩
  refine infix_trim_iff (List.cons_ne_nil a [b]) ⟨?_, ?_⟩ t
  · rintro c ⟨⟩
    exact Bool.eq_false_iff.2 fun hc => hfirst a hc ha
  · rintro c ⟨⟩
    exact Bool.eq_false_iff.2 fun hc => hsecond b hc hb

/-! ## Words next to a space -/

/-- A word with one more character behind it lies in a text, or reaches into the blanks behind the
text with that character only. -/
theorem infix_or_suffix_of_concat_infix {word : Text} {c : Char} (hne : word ≠ [])
    (hstop : ∀ x, word.getLast? = some x → isBlank x = false) (ht : Bare t)
    (hback : ∀ x ∈ back, isBlank x = true) (h : word ++ [c] <:+: t ++ back) :
    word ++ [c] <:+: t ∨ word <:+ t := by
  rcases h with ⟨before, after, heq⟩
  have hsplit : t ++ back = (before ++ word) ++ c :: after := by simpa using heq.symm
  rcases List.append_eq_append_iff.1 hsplit with ⟨beyond, hword, hbeyond⟩ | ⟨rest, hrest, hafter⟩
  · -- the word ends where `t` ends, since neither ends with a blank
    refine Or.inr ⟨before, ?_⟩
    have hblank : ∀ x ∈ beyond, isBlank x = true := by
      intro x hx
      refine hback x ?_
      rw [hbeyond]
      exact List.mem_append_left _ hx
    calc
      before ++ word = trimEnd (before ++ word) := by
        refine (trimEnd_eq_self fun x hx => hstop x ?_).symm
        rwa [List.getLast?_append_of_ne_nil before hne] at hx
      _ = trimEnd (t ++ beyond) := by rw [hword]
      _ = trimEnd t := trimEnd_append_of_blank hblank t
      _ = t := trimEnd_eq_self ht.stop
  · -- the word ends within `t`, and so does the match unless `t` ends right behind the word
    cases rest with
    | nil => exact Or.inr ⟨before, by simpa using hrest.symm⟩
    | cons d rest =>
        cases (List.cons.inj hafter).1
        exact Or.inl ⟨before, rest, by simpa using hrest.symm⟩

/-- Behind some place of the text where a marker stands there is a space or the end of the text. -/
theorem parted_behind_trim (hne : marker ≠ []) (hmarker : Bare marker) (t : Text) :
    (marker ++ [' '] <:+: t ∨ marker <:+ trimEnd t) ↔
      (marker ++ [' '] <:+: trim t ∨ marker <:+ trimEnd (trim t)) := by
  rcases exists_eq_trim_between t with ⟨front, back, heq, hfront, hback⟩
  rcases exists_eq_append_trimStart (trimEnd t) with ⟨blanks, hend, hblanks⟩
  rw [trimStart_trimEnd] at hend
  have hsuffix : marker <:+ trimEnd t ↔ marker <:+ trim t := by
    rw [hend]
    exact suffix_blank_append_iff hmarker.start hblanks
  -- a marker with a space behind it cannot start among the blanks in front
  have hstart : ∀ c, (marker ++ [' ']).head? = some c → isBlank c = false := by
    intro c hc
    rw [List.head?_append_of_ne_nil marker hne] at hc
    exact hmarker.start c hc
  rw [hsuffix, trimEnd_eq_self (bare_trim t).stop]
  constructor
  · rintro (hoccurs | hlast)
    · rw [heq, List.append_assoc, infix_blank_append_iff (by simp) hstart hfront] at hoccurs
      exact infix_or_suffix_of_concat_infix hne hmarker.stop (bare_trim t) hback hoccurs
    · exact Or.inr hlast
  · rintro (hoccurs | hlast)
    · exact Or.inl (hoccurs.trans ⟨front, back, heq.symm⟩)
    · exact Or.inr hlast

/-- In front of some place of the text where a marker stands there is a space or the start of the
text. -/
theorem parted_before_trim (hne : marker ≠ []) (hmarker : Bare marker) (t : Text) :
    (' ' :: marker <:+: t ∨ marker <+: trimStart t) ↔
      (' ' :: marker <:+: trim t ∨ marker <+: trimStart (trim t)) := by
  -- read backwards, this is about the end of the text
  have hbehind := parted_behind_trim (t := t.reverse) (by simpa using hne) hmarker.reverse
  have hspace : marker.reverse ++ [' '] = (' ' :: marker).reverse := List.reverse_cons.symm
  have hend : ∀ t : Text, trimEnd t.reverse = (trimStart t).reverse := by
    intro t
    rw [trimEnd, List.reverse_reverse]
    rfl
  rwa [trim_reverse, hspace, hend, hend, List.reverse_infix, List.reverse_infix,
    List.reverse_suffix, List.reverse_suffix] at hbehind

end Text

/-! ## Blanks and words -/

namespace Unicode

def blankSpans : List Span := [
  ⟨0x9, 0xD, 1⟩, ⟨0x20, 0x20, 1⟩, ⟨0x85, 0x85, 1⟩, ⟨0xA0, 0xA0, 1⟩, ⟨0x1680, 0x1680, 1⟩,
  ⟨0x2000, 0x200A, 1⟩, ⟨0x2028, 0x2029, 1⟩, ⟨0x202F, 0x202F, 1⟩, ⟨0x205F, 0x205F, 1⟩,
  ⟨0x3000, 0x3000, 1⟩]

def wordSpans : List Span :=
  wordCategories.flatMap Category.spans ++ enclosedLetters ++ joinControls

theorem isWord_eq (c : Char) : isWord c = covers wordSpans c := by
  simp only [isWord, inCategories, Category.has, covers, wordSpans, List.any_append,
    List.any_flatMap]

theorem wordSpans_apart :
    (wordSpans.all fun s => blankSpans.all fun blanks => blanks.apart s) = true := by
  decide +kernel

theorem covers_blankSpans : ∀ c, isBlank c = true → covers blankSpans c = true :=
  Text.forall_blank_of_all (by decide +kernel)

/-- No blank is a character of a word. -/
theorem not_isWord_of_isBlank {c : Char} (h : isBlank c = true) : isWord c = false := by
  rcases List.any_eq_true.1 (covers_blankSpans c h) with ⟨blanks, hblanks, hc⟩
  rw [isWord_eq, covers, List.any_eq_false]
  intro s hs
  have hapart := List.all_eq_true.1 (List.all_eq_true.1 wordSpans_apart s hs) blanks hblanks
  rw [Span.not_has_of_apart hapart hc]
  exact Bool.false_ne_true

end Unicode

/-- A text that can mark a line comment: it is not empty and has no blanks around it. -/
structure IsMarker (marker : Text) : Prop where
  nonempty : marker ≠ []
  bare : Text.Bare marker

namespace Check

open Text

variable {settings : Settings} {marker : Text}

/-! ## Spacing -/

/-- Blanks around a section header do not count. -/
theorem isSectionHeader_trim (t : Text) : isSectionHeader (trim t) = isSectionHeader t := by
  rw [isSectionHeader, isSectionHeader, trim_trim]

/-- Blanks around a ruler do not count. -/
theorem isRuler_trim (t : Text) : isRuler (trim t) = isRuler t :=
  occurs_trim (by decide) (trim_eq_self_iff.1 (by decide)) t

theorem not_needsSpaceAfterSeparator_of_isBlank {c : Char} (h : isBlank c = true) :
    ¬ needsSpaceAfterSeparator c = true := by
  have hopening : ∀ c, isBlank c = true → ¬ (c == '(') = true := forall_blank_of_all (by decide)
  rw [needsSpaceAfterSeparator, Unicode.not_isWord_of_isBlank h, Bool.false_or]
  exact hopening c h

theorem not_needsSpaceBeforeEquals_of_isBlank :
    ∀ c, isBlank c = true → ¬ needsSpaceBeforeEquals c = true :=
  forall_blank_of_all (by decide)

theorem not_needsSpaceAfterEquals_of_isBlank :
    ∀ c, isBlank c = true → ¬ needsSpaceAfterEquals c = true :=
  forall_blank_of_all (by decide)

theorem hasPair_separator_trim {separator : Char} (hseparator : isBlank separator = false)
    {second : Char → Bool} (hsecond : ∀ c, isBlank c = true → ¬ second c = true) (t : Text) :
    hasPair (· == separator) second (trim t) = hasPair (· == separator) second t := by
  refine hasPair_trim (fun c hc heq => ?_) hsecond t
  rw [beq_iff_eq.1 heq, hseparator] at hc
  cases hc

theorem missingSpaceAfterComma_trim (t : Text) :
    missingSpaceAfterComma (trim t) = missingSpaceAfterComma t := by
  rw [missingSpaceAfterComma, missingSpaceAfterComma, hasPair_separator_trim (by decide)
    fun _ => not_needsSpaceAfterSeparator_of_isBlank]

theorem missingSpaceAfterSemicolon_trim (t : Text) :
    missingSpaceAfterSemicolon (trim t) = missingSpaceAfterSemicolon t := by
  rw [missingSpaceAfterSemicolon, missingSpaceAfterSemicolon, hasPair_separator_trim (by decide)
    fun _ => not_needsSpaceAfterSeparator_of_isBlank]

theorem missingSpaceAfterEquals_trim (t : Text) :
    missingSpaceAfterEquals (trim t) = missingSpaceAfterEquals t := by
  rw [missingSpaceAfterEquals, missingSpaceAfterEquals, isRuler_trim,
    hasPair_separator_trim (by decide) not_needsSpaceAfterEquals_of_isBlank]

theorem missingSpaceBeforeEquals_trim (t : Text) :
    missingSpaceBeforeEquals (trim t) = missingSpaceBeforeEquals t := by
  have hequals : ∀ c, isBlank c = true → ¬ (c == '=') = true := forall_blank_of_all (by decide)
  rw [missingSpaceBeforeEquals, missingSpaceBeforeEquals, isRuler_trim,
    hasPair_trim not_needsSpaceBeforeEquals_of_isBlank hequals]

/-! ## Comments -/

/-- Blanks around a line do not decide whether it mentions the marker. -/
theorem mentionsMarker_trim (h : IsMarker marker) (t : Text) :
    mentionsMarker marker (trim t) = mentionsMarker marker t := by
  rw [mentionsMarker, mentionsMarker, occurs_trim h.nonempty h.bare, isSectionHeader_trim]

/-- A marker is parted by a space or by an end of the line.  White space at that end turns the end
into a space, so it only counts whether one of them is there. -/
theorem mentionsMarker_unparted_trim (h : IsMarker marker) (t : Text)
    {space atEnd space' atEnd' : Bool} (hparted : (space || atEnd) = (space' || atEnd')) :
    (mentionsMarker marker (trim t) && !space && !atEnd) =
      (mentionsMarker marker t && !space' && !atEnd') := by
  rw [mentionsMarker_trim h, Bool.and_assoc, Bool.and_assoc, ← Bool.not_or, ← Bool.not_or, hparted]

/-- The rule looks past the blanks at the end of a line, and those at its start come before the
marker. -/
theorem missingSpaceAfterCommentMarker_trim
    (h : ∀ marker, settings.lineComment = some marker → IsMarker marker) (t : Text) :
    missingSpaceAfterCommentMarker settings (trim t) =
      missingSpaceAfterCommentMarker settings t := by
  rw [missingSpaceAfterCommentMarker, missingSpaceAfterCommentMarker]
  refine Option.bind_congr fun marker hmarker => ?_
  have hfits : IsMarker marker := h marker hmarker
  have hparted : (occurs (marker ++ [' ']) (trim t) || marker.isSuffixOf (trimEnd (trim t))) =
      (occurs (marker ++ [' ']) t || marker.isSuffixOf (trimEnd t)) := by
    rw [Bool.eq_iff_iff, Bool.or_eq_true, Bool.or_eq_true, occurs_iff_infix, occurs_iff_infix,
      List.isSuffixOf_iff_suffix, List.isSuffixOf_iff_suffix]
    exact (parted_behind_trim hfits.nonempty hfits.bare t).symm
  rw [mentionsMarker_unparted_trim hfits t hparted]

/-- The rule looks past the blanks at the start of a line, and those at its end come behind the
marker. -/
theorem missingSpaceBeforeCommentMarker_trim
    (h : ∀ marker, settings.lineComment = some marker → IsMarker marker) (t : Text) :
    missingSpaceBeforeCommentMarker settings (trim t) =
      missingSpaceBeforeCommentMarker settings t := by
  rw [missingSpaceBeforeCommentMarker, missingSpaceBeforeCommentMarker]
  refine Option.bind_congr fun marker hmarker => ?_
  have hfits : IsMarker marker := h marker hmarker
  have hcomment : ∀ t, isLineComment (some marker) t = marker.isPrefixOf (trimStart t) := by
    intro t
    have hfilled : marker.isEmpty = false := List.isEmpty_eq_false_iff.2 hfits.nonempty
    rw [isLineComment, Option.any_some, hfilled, Bool.not_false, Bool.true_and]
  -- a marker needs no space in front of it where the line starts with it, blanks aside
  have hparted : (occurs (' ' :: marker) (trim t) || isLineComment (some marker) (trim t)) =
      (occurs (' ' :: marker) t || isLineComment (some marker) t) := by
    rw [Bool.eq_iff_iff, Bool.or_eq_true, Bool.or_eq_true, occurs_iff_infix, occurs_iff_infix,
      hcomment, hcomment, List.isPrefixOf_iff_prefix, List.isPrefixOf_iff_prefix]
    exact (parted_before_trim hfits.nonempty hfits.bare t).symm
  rw [mentionsMarker_unparted_trim hfits t hparted]

end Check

namespace Settings

open Ini

/-- The marker of settings that come from a configuration file has no blanks around it. -/
theorem isMarker_of_resolve {content extension marker : Text} {sections : Sections}
    {settings : Settings} (hread : read content = .ok sections)
    (hresolve : resolve sections extension = .ok settings)
    (hmarker : settings.lineComment = some marker) : IsMarker marker := by
  rw [resolve_eq_foldlM] at hresolve
  have hlast := (laidOver_of_foldlM hresolve).lineComment
  rw [hmarker, eq_comm, Option.filter_eq_some_iff] at hlast
  rcases hlast with ⟨hvalue, hfilled⟩
  rcases Option.map_eq_some_iff.1 hvalue with ⟨a, ha, rfl⟩
  have hlaid : a ∈ laidOn sections extension := (List.mem_filter.1 (List.mem_of_getLast? ha)).1
  -- the value is one that was read, in the section `default` or in that of the extension
  have hof : ∃ name, a ∈ entriesOf sections name := by
    rcases List.mem_append.1 hlaid with hdefault | hown
    · exact ⟨defaultSection, hdefault⟩
    · split at hown
      · cases hown
      · exact ⟨extension, hown⟩
  rcases hof with ⟨name, hentry⟩
  rcases List.mem_map.1 hentry with ⟨option, hoption, rfl⟩
  have htrimmed := ((wellFormed_of_read hread).isOption name option hoption).value.trimmed
  exact ⟨by simpa using hfilled, Text.trim_eq_self_iff.1 htrimmed⟩

end Settings

/-! ## Padded lines -/

/-- The rules about the length of section headers, about spacing and about comment markers. -/
def Rule.blindToPadding : List Rule :=
  [sectionHeaderLength, multipleSpaces, spaceBeforeComma, spaceBeforeSemicolon,
    spaceAfterOpeningParen, spaceBeforeClosingParen, missingSpaceAfterComma,
    missingSpaceAfterSemicolon, missingSpaceBeforeEquals, missingSpaceAfterEquals,
    missingSpaceAfterCommentMarker, missingSpaceBeforeCommentMarker]

/-- Such a rule depends on nothing but what trimming leaves of the line. -/
theorem Rule.check_congr_trim {rule : Rule} {settings : Settings} {a b : Context}
    (hrule : rule ∈ blindToPadding)
    (hmarker : ∀ marker, settings.lineComment = some marker → IsMarker marker)
    (h : Text.trim a.line.text = Text.trim b.line.text) :
    rule.check settings a = rule.check settings b := by
  have hsame : ∀ f : Text → Option Text, (∀ t, f (Text.trim t) = f t) →
      f a.line.text = f b.line.text := by
    intro f hf
    rw [← hf a.line.text, h, hf]
  simp only [blindToPadding, List.mem_cons, List.not_mem_nil, or_false] at hrule
  rcases hrule with rfl | rfl | rfl | rfl | rfl | rfl | rfl | rfl | rfl | rfl | rfl | rfl
  · simp only [check, Check.sectionHeaderLength, isSectionHeader, h]
  -- the next five rules trim the line themselves
  · simp only [check, Check.multipleSpaces, h]
  · simp only [check, Check.spaceBeforeComma, h]
  · simp only [check, Check.spaceBeforeSemicolon, h]
  · simp only [check, Check.spaceAfterOpeningParen, h]
  · simp only [check, Check.spaceBeforeClosingParen, h]
  · exact hsame _ Check.missingSpaceAfterComma_trim
  · exact hsame _ Check.missingSpaceAfterSemicolon_trim
  · exact hsame _ Check.missingSpaceBeforeEquals_trim
  · exact hsame _ Check.missingSpaceAfterEquals_trim
  · exact hsame _ (Check.missingSpaceAfterCommentMarker_trim hmarker)
  · exact hsame _ (Check.missingSpaceBeforeCommentMarker_trim hmarker)

/-- The rules about the length of section headers, about spacing and about comment markers say the
same of a line with white space put around it, whatever else they may see, as long as the comment
marker is not empty and has no white space around it itself.  No configuration file makes another
marker. -/
theorem Rule.check_padded :
    (∀ content sections extension settings marker, Ini.read content = .ok sections →
        Settings.resolve sections extension = .ok settings →
        settings.lineComment = some marker → IsMarker marker) ∧
      ∀ settings : Settings,
        (∀ marker, settings.lineComment = some marker → IsMarker marker) →
        ∀ rule ∈ blindToPadding, ∀ front back : Text, (∀ c ∈ front, isBlank c = true) →
          (∀ c ∈ back, isBlank c = true) →
          ∀ line padded : Context, padded.line.text = front ++ line.line.text ++ back →
            rule.check settings padded = rule.check settings line := by
  refine ⟨fun _ _ _ _ _ => Settings.isMarker_of_resolve, ?_⟩
  intro settings hmarker rule hrule front back hfront hback line padded htext
  refine check_congr_trim hrule hmarker ?_
  rw [htext, Text.trim_append_of_blank hfront hback]

/-- A line that ends with its comment marker. -/
def closedByMarker : Context where
  number := 1
  line := ⟨"x=1 //".toList, true⟩
  above := none
  below := none
  blankRun := 0
  startsTrailingBlanks := false

/-- The same line with white space around it, in another place. -/
def closedByPaddedMarker : Context where
  number := 7
  line := ⟨"\u3000\tx=1 // \u0085".toList, false⟩
  above := some ⟨[], true⟩
  below := none
  blankRun := 0
  startsTrailingBlanks := false

/-- The rule about the marker would speak up without the blanks, and stays silent with them. -/
theorem Rule.check_padded_closedByMarker :
    ∃ settings : Settings, settings.lineComment = some "//".toList ∧ IsMarker "//".toList ∧
      (∀ rule ∈ blindToPadding,
        rule.check settings closedByPaddedMarker = rule.check settings closedByMarker) ∧
      missingSpaceAfterEquals.check settings closedByPaddedMarker =
        some "There should be a space after equal sign.".toList := by
  have hmarker : ((Ini.read "[c]\nLine_Comment : // ".toList).toOption.bind fun sections =>
      (Settings.resolve sections "c".toList).toOption).map (·.lineComment) =
      some (some "//".toList) := by
    decide +kernel
  rcases Option.map_eq_some_iff.1 hmarker with ⟨settings, hsettings, hslashes⟩
  rcases Option.bind_eq_some_iff.1 hsettings with ⟨sections, hsections, hresolved⟩
  rcases check_padded with ⟨hmarkers, hchecks⟩
  have hfits : ∀ marker, settings.lineComment = some marker → IsMarker marker :=
    fun marker => hmarkers _ _ _ settings marker (toOption_eq_some_iff.1 hsections)
      (toOption_eq_some_iff.1 hresolved)
  refine ⟨settings, hslashes, hfits _ hslashes, fun rule hrule => ?_, rfl⟩
  -- the blanks in front are an ideographic space and a tab, those behind a space and a next line
  exact hchecks settings hfits rule hrule "\u3000\t".toList " \u0085".toList
    (Text.forall_mem_of_all (by decide)) (Text.forall_mem_of_all (by decide))
    closedByMarker closedByPaddedMarker (by decide)

end TextHygiene
