import TextHygiene.Ini
import TextHygiene.Proofs.Numbering
import TextHygiene.Proofs.Splitting

/-!
# The grammar of configuration files

What the lines of a configuration file may be, said without the reader: which lines are passed over,
which are section headers, which set an option, and which of them offend.  Reading succeeds exactly
if no line offends.  Otherwise it names the first line that does, and nothing behind that line has a
part in it.
-/

namespace TextHygiene

namespace Ini

open Line

/-! ## Trimmed lines -/

def IsIgnorable (line : Text) : Prop :=
  line = [] ∨ line.head? = some '#' ∨ line.head? = some ';'

def StartsHeader (line : Text) : Prop :=
  line.head? = some '['

def IsHeader (line : Text) : Prop :=
  ∃ inner, line = '[' :: (inner ++ [']']) ∧ Text.trim inner ≠ [] ∧
    '[' ∉ Text.trim inner ∧ ']' ∉ Text.trim inner

/-- A line whose first `=` or `:` has something other than blanks in front. -/
def IsPair (line : Text) : Prop :=
  ∃ key separator value, line = key ++ separator :: value ∧ (separator = '=' ∨ separator = ':') ∧
    '=' ∉ key ∧ ':' ∉ key ∧ Text.trim key ≠ []

theorem IsHeader.startsHeader {line : Text} (h : IsHeader line) : StartsHeader line := by
  rcases h with ⟨inner, rfl, _⟩
  rfl

theorem hasBracket_iff {name : Text} :
    (name.any fun c => c == '[' || c == ']') = true ↔ '[' ∈ name ∨ ']' ∈ name := by
  rw [List.any_eq_true]
  constructor
  · rintro ⟨c, hc, hbracket⟩
    rw [Bool.or_eq_true, beq_iff_eq, beq_iff_eq] at hbracket
    rcases hbracket with rfl | rfl
    · exact Or.inl hc
    · exact Or.inr hc
  · rintro (h | h)
    · exact ⟨_, h, rfl⟩
    · exact ⟨_, h, rfl⟩

/-- A header is a name between two brackets, with no bracket in it. -/
theorem headerName?_eq_some_iff {line name : Text} :
    headerName? line = some name ↔
      ∃ inner, line = '[' :: (inner ++ [']']) ∧ Text.trim inner = name ∧ name ≠ [] ∧
        '[' ∉ name ∧ ']' ∉ name := by
  -- once the brackets are off, the name must pass two tests
  have hname : ∀ inner, (if (Text.trim inner).isEmpty ||
        (Text.trim inner).any (fun c => c == '[' || c == ']') then none
      else some (Text.trim inner)) = some name ↔
        Text.trim inner = name ∧ name ≠ [] ∧ '[' ∉ name ∧ ']' ∉ name := by
    intro inner
    rw [Option.ite_none_left_eq_some, Bool.or_eq_true, List.isEmpty_iff, hasBracket_iff,
      Option.some.injEq, not_or, not_or]
    constructor
    · rintro ⟨h, rfl⟩
      exact ⟨rfl, h⟩
    · rintro ⟨rfl, h⟩
      exact ⟨h, rfl⟩
  rw [headerName?]
  simp only [bind, Option.bind_eq_some_iff, Text.after?_eq_some_iff, Text.before?_eq_some_iff,
    hname]
  constructor
  · rintro ⟨opened, rfl, inner, rfl, h⟩
    exact ⟨inner, rfl, h⟩
  · rintro ⟨inner, rfl, h⟩
    exact ⟨_, rfl, inner, rfl, h⟩

/-- A pair is a line with a separator in it, cut at the first one, and with a key in front. -/
theorem pair?_eq_some_iff {line key value : Text} :
    pair? line = some (key, value) ↔
      ∃ left separator right, line = left ++ separator :: right ∧
        (separator = '=' ∨ separator = ':') ∧ '=' ∉ left ∧ ':' ∉ left ∧
        Text.trim left = key ∧ Text.trim right = value ∧ key ≠ [] := by
  -- the cut is at the first separator, so there is none in front of it
  have hleft : ∀ left : Text, (∀ c ∈ left, (c == '=' || c == ':') = false) ↔
      '=' ∉ left ∧ ':' ∉ left := by
    intro left
    constructor
    · intro h
      exact ⟨fun hmem => Bool.noConfusion (h _ hmem), fun hmem => Bool.noConfusion (h _ hmem)⟩
    · rintro ⟨hequals, hcolon⟩ c hc
      rw [Bool.or_eq_false_iff, beq_eq_false_iff_ne, beq_eq_false_iff_ne]
      exact ⟨fun h => hequals (h ▸ hc), fun h => hcolon (h ▸ hc)⟩
  rw [pair?]
  simp only [bind, Option.bind_eq_some_iff, Prod.exists, Text.cut?_eq_some_iff, hleft,
    Option.ite_none_left_eq_some, Option.some.injEq, Prod.mk.injEq, List.isEmpty_iff,
    Bool.or_eq_true, beq_iff_eq]
  constructor
  · rintro ⟨left, right, ⟨separator, hline, hsep, hequals, hcolon⟩, hne, rfl, rfl⟩
    exact ⟨left, separator, right, hline, hsep, hequals, hcolon, rfl, rfl, hne⟩
  · rintro ⟨left, separator, right, hline, hsep, hequals, hcolon, rfl, rfl, hne⟩
    exact ⟨left, right, ⟨separator, hline, hsep, hequals, hcolon⟩, hne, rfl, rfl⟩

/-- A line is a header exactly if a name can be read from it. -/
theorem isHeader_iff {line : Text} : IsHeader line ↔ ∃ name, headerName? line = some name := by
  simp only [headerName?_eq_some_iff, IsHeader]
  constructor
  · rintro ⟨inner, hline, h⟩
    exact ⟨_, inner, hline, rfl, h⟩
  · rintro ⟨_, inner, hline, rfl, h⟩
    exact ⟨inner, hline, h⟩

/-- A line is a pair exactly if a key and a value can be read from it. -/
theorem isPair_iff {line : Text} : IsPair line ↔ ∃ pair, pair? line = some pair := by
  simp only [Prod.exists, pair?_eq_some_iff, IsPair]
  constructor
  · rintro ⟨left, separator, right, hline, hsep, hequals, hcolon, hne⟩
    exact ⟨_, _, left, separator, right, hline, hsep, hequals, hcolon, rfl, rfl, hne⟩
  · rintro ⟨_, _, left, separator, right, hline, hsep, hequals, hcolon, rfl, _, hne⟩
    exact ⟨left, separator, right, hline, hsep, hequals, hcolon, hne⟩

/-- The classes of lines, as the reader tells them apart. -/
theorem Item.class_ofTrimmed (line : Text) :
    match Item.ofTrimmed line with
    | .ignored => IsIgnorable line
    | .header _ => IsHeader line
    | .badHeader => StartsHeader line ∧ ¬ IsHeader line
    | .pair _ _ => ¬ IsIgnorable line ∧ ¬ StartsHeader line ∧ IsPair line
    | .junk => ¬ IsIgnorable line ∧ ¬ StartsHeader line ∧ ¬ IsPair line := by
  cases line with
  | nil => exact Or.inl rfl
  | cons c rest =>
      -- the tests follow one another as they do in the definition
      by_cases hcomment : (c == '#' || c == ';') = true
      · rw [Item.ofTrimmed, if_pos hcomment]
        exact Or.inr (by simpa using hcomment)
      · have hnot : ¬ IsIgnorable (c :: rest) := by
          simpa [IsIgnorable] using hcomment
        rw [Item.ofTrimmed, if_neg hcomment]
        by_cases hopening : (c == '[') = true
        · have hstarts : StartsHeader (c :: rest) := by
            simpa [StartsHeader] using hopening
          rw [if_pos hopening]
          cases hname : headerName? (c :: rest) with
          | none => exact ⟨hstarts, by simp [isHeader_iff, hname]⟩
          | some name => exact isHeader_iff.2 ⟨name, hname⟩
        · have hstarts : ¬ StartsHeader (c :: rest) := by
            simpa [StartsHeader] using hopening
          rw [if_neg hopening]
          cases hpair : pair? (c :: rest) with
          | none => exact ⟨hnot, hstarts, by simp [isPair_iff, hpair]⟩
          | some pair => exact ⟨hnot, hstarts, isPair_iff.2 ⟨pair, hpair⟩⟩

/-! ## What a line says -/

theorem Item.ofTrimmed_eq_header_iff {line name : Text} :
    Item.ofTrimmed line = .header name ↔ headerName? line = some name := by
  constructor
  · intro h
    cases line with
    | nil => cases h
    | cons c rest =>
        rw [Item.ofTrimmed] at h
        split_ifs at h
        · cases hname : headerName? (c :: rest) with
          | none => simp [hname] at h
          | some found => simpa [hname] using h
        · cases hpair : pair? (c :: rest) with
          | none => simp [hpair] at h
          | some pair => simp [hpair] at h
  · intro h
    rcases headerName?_eq_some_iff.1 h with ⟨inner, rfl, _⟩
    rw [Item.ofTrimmed, if_neg (by decide), if_pos (by decide), h]

/-- A line is read as a pair if it is one and neither ignored nor the start of a header. -/
theorem Item.ofTrimmed_eq_pair_iff {line key value : Text} :
    Item.ofTrimmed line = .pair key value ↔
      ¬ IsIgnorable line ∧ ¬ StartsHeader line ∧ pair? line = some (key, value) := by
  have hclass := Item.class_ofTrimmed line
  constructor
  · intro h
    rw [h] at hclass
    refine ⟨hclass.1, hclass.2.1, ?_⟩
    cases line with
    | nil => cases h
    | cons c rest =>
        rw [Item.ofTrimmed] at h
        split_ifs at h
        · cases hname : headerName? (c :: rest) with
          | none => simp [hname] at h
          | some found => simp [hname] at h
        · cases hpair : pair? (c :: rest) with
          | none => simp [hpair] at h
          | some pair => simpa [hpair, Prod.ext_iff] using h
  · rintro ⟨hignorable, hstarts, hpair⟩
    cases line with
    | nil => exact absurd (Or.inl rfl) hignorable
    | cons c rest =>
        have hcomment : ¬ (c == '#' || c == ';') = true := by
          simpa [IsIgnorable] using hignorable
        have hopening : ¬ (c == '[') = true := by
          simpa [StartsHeader] using hstarts
        rw [Item.ofTrimmed, if_neg hcomment, if_neg hopening, hpair]

end Ini

end TextHygiene
