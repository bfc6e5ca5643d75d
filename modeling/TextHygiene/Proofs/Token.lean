import TextHygiene.Proofs.Rule
import TextHygiene.Proofs.WellFormed
import TextHygiene.Text.Digits

/-!
# Letters and digits

The keys of options, the spellings of rules and the digits of numbers are made of ASCII letters,
digits and underscores.  Such texts can stand on either side of a separator, and putting them into
small letters only concerns their ASCII letters.  A number that is written in digits is read as
itself.
-/

namespace TextHygiene

namespace Text

/-! ## Tokens -/

def isTokenLetter (c : Char) : Bool :=
  c.isUpper || c.isLower || c.isDigit || c == '_'

def IsToken (t : Text) : Prop :=
  t ≠ [] ∧ t.all isTokenLetter = true

instance (t : Text) : Decidable (IsToken t) :=
  inferInstanceAs (Decidable (_ ∧ _))

variable {t : Text} {c : Char} {n : Nat}

theorem isToken_iff : IsToken t ↔ t ≠ [] ∧ ∀ c ∈ t, isTokenLetter c = true := by
  rw [IsToken, List.all_eq_true]

theorem IsToken.letter (h : IsToken t) (hc : c ∈ t) : isTokenLetter c = true :=
  (isToken_iff.1 h).2 c hc

theorem IsToken.not_mem (h : IsToken t) (hc : isTokenLetter c = false) : c ∉ t := by
  intro hmem
  rw [h.letter hmem] at hc
  cases hc

theorem not_blank_of_isTokenLetter (h : isTokenLetter c = true) : isBlank c = false := by
  have hblank : ∀ b, isBlank b = true → isTokenLetter b = false :=
    forall_blank_of_all (by decide)
  rw [Bool.eq_false_iff]
  intro hc
  rw [hblank c hc] at h
  cases h

theorem IsToken.bare (h : IsToken t) : Bare t := by
  constructor
  · intro c hc
    exact not_blank_of_isTokenLetter (h.letter (List.mem_of_head? hc))
  · intro c hc
    exact not_blank_of_isTokenLetter (h.letter (List.mem_of_getLast? hc))

theorem IsToken.isKey (h : IsToken t) : Ini.IsKey t := by
  have hhead : ∀ c, isTokenLetter c = false → t.head? ≠ some c :=
    fun c hc hfirst => h.not_mem hc (List.mem_of_head? hfirst)
  exact {
    nonempty := h.1
    trimmed := trim_eq_self_iff.2 h.bare
    noSeparator := ⟨h.not_mem (by decide), h.not_mem (by decide)⟩
    oneLine := h.not_mem (by decide)
    noComment := ⟨hhead _ (by decide), hhead _ (by decide)⟩
    noHeader := hhead _ (by decide) }

theorem IsToken.isValue (h : IsToken t) : Ini.IsValue t :=
  ⟨trim_eq_self_iff.2 h.bare, h.not_mem (by decide)⟩

theorem toNat_lt_of_isTokenLetter (h : isTokenLetter c = true) : c.toNat < 128 := by
  -- none of the three ranges goes beyond `z`
  have hrange : ∀ d : Char, d.toNat < 128 → c.val ≤ d.val → c.toNat < 128 := by
    intro d hd hle
    exact Nat.lt_of_le_of_lt (UInt32.le_iff_toNat_le.1 hle) hd
  simp only [isTokenLetter, Bool.or_eq_true, beq_iff_eq] at h
  rcases h with ((hupper | hlower) | hdigit) | rfl
  · have hbounds : c.val ≥ 'A'.val ∧ c.val ≤ 'Z'.val := of_decide_eq_true hupper
    exact hrange 'Z' (by decide) hbounds.2
  · have hupto : c.val ≤ 'z'.val := of_decide_eq_true (Bool.and_eq_true_iff.1 hlower).2
    exact hrange 'z' (by decide) hupto
  · have hupto : c.val ≤ '9'.val := of_decide_eq_true (Bool.and_eq_true_iff.1 hdigit).2
    exact hrange '9' (by decide) hupto
  · decide

/-- In single words nothing happens but that ASCII capitals become small. -/
theorem IsToken.lowercase (h : IsToken t) : lowercase t = t.map Char.toLower :=
  lowercase_of_ascii fun _ hc => toNat_lt_of_isTokenLetter (h.letter hc)

theorem isTokenLetter_of_toLower (h : isTokenLetter c.toLower = true) : isTokenLetter c = true := by
  by_cases hcapital : c.val ≥ 'A'.val ∧ c.val ≤ 'Z'.val
  · have hupper : c.isUpper = true := decide_eq_true hcapital
    simp [isTokenLetter, hupper]
  · have hlower : c.toLower = c := dif_neg hcapital
    rwa [hlower] at h

/-! ## Numbers -/

theorem isDigit_of_mem_decimal (h : c ∈ decimal n) : c.isDigit = true :=
  Nat.isDigit_of_mem_toDigits (by decide) (by decide) h

/-- Numbers are written as single words. -/
theorem isToken_decimal (n : Nat) : IsToken (decimal n) := by
  refine isToken_iff.2 ⟨Nat.toDigits_ne_nil, ?_⟩
  intro c hc
  have hdigit : c.isDigit = true := isDigit_of_mem_decimal hc
  simp [isTokenLetter, hdigit]

theorem digitsFrom?_of_isDigit (h : ∀ c ∈ t, c.isDigit = true) (value : Nat) :
    digitsFrom? value t = some (Nat.ofDigitChars 10 t value) := by
  induction t generalizing value with
  | nil => rfl
  | cons c rest ih =>
      rcases List.forall_mem_cons.1 h with ⟨hfirst, hrest⟩
      have hdigit : digit? c = some (c.toNat - '0'.toNat) := if_pos hfirst
      rw [digitsFrom?, hdigit, Option.bind_some, ih hrest, Nat.ofDigitChars_cons]

theorem isDigit_of_digitsFrom? {value : Nat} (h : digitsFrom? value t = some n) :
    ∀ c ∈ t, c.isDigit = true := by
  induction t generalizing value with
  | nil => exact List.forall_mem_nil _
  | cons c rest ih =>
      rcases Option.bind_eq_some_iff.1 h with ⟨d, hd, hrest⟩
      have hdigit : c.isDigit = true := by
        by_contra hnot
        rw [digit?, if_neg hnot] at hd
        cases hd
      exact List.forall_mem_cons.2 ⟨hdigit, ih hrest⟩

/-- A number is read from one or more digits, and is the one that they denote. -/
theorem digits?_eq_some_iff :
    digits? t = some n ↔
      t ≠ [] ∧ (∀ c ∈ t, c.isDigit = true) ∧ Nat.ofDigitChars 10 t 0 = n := by
  cases t with
  | nil => exact iff_of_false nofun fun h => h.1 rfl
  | cons c rest =>
      -- reading stops at the first character that is no digit, so all of them are
      have hread : digitsFrom? 0 (c :: rest) = some n ↔
          (∀ d ∈ c :: rest, d.isDigit = true) ∧ Nat.ofDigitChars 10 (c :: rest) 0 = n := by
        constructor
        · intro h
          have hdigits := isDigit_of_digitsFrom? h
          rw [digitsFrom?_of_isDigit hdigits] at h
          exact ⟨hdigits, Option.some.inj h⟩
        · rintro ⟨hdigits, rfl⟩
          exact digitsFrom?_of_isDigit hdigits 0
      have hfrom : digits? (c :: rest) = digitsFrom? 0 (c :: rest) := rfl
      rw [hfrom, hread, and_iff_right (List.cons_ne_nil c rest)]

/-- A number is read back from its digits. -/
theorem digits?_decimal (n : Nat) : digits? (decimal n) = some n := by
  refine digits?_eq_some_iff.2 ⟨Nat.toDigits_ne_nil, ?_, Nat.ofDigitChars_ten_toDigits⟩
  intro c hc
  exact isDigit_of_mem_decimal hc

/-- A text spells out a number: in one or more digits, behind a plus sign or not. -/
def Denotes (t : Text) (n : Nat) : Prop :=
  ∃ digits : Text, (t = digits ∨ t = '+' :: digits) ∧
    digits ≠ [] ∧ (∀ c ∈ digits, c.isDigit = true) ∧ Nat.ofDigitChars 10 digits 0 = n

/-- A number is read from one or more digits, behind a plus sign or not. -/
theorem digits?_unsigned_iff : digits? ((after? ['+'] t).getD t) = some n ↔ Denotes t n := by
  rw [digits?_eq_some_iff]
  cases hplus : after? ['+'] t with
  | some digits =>
      -- a sign in front is no digit, so it has to be dropped
      obtain rfl : t = '+' :: digits := after?_eq_some_iff.1 hplus
      rw [Option.getD_some]
      constructor
      · intro h
        exact ⟨digits, Or.inr rfl, h⟩
      · rintro ⟨other, rfl | hother, h⟩
        · exact absurd (h.2.1 '+' List.mem_cons_self) (by decide)
        · rw [List.tail_eq_of_cons_eq hother]
          exact h
  | none =>
      have hno : ∀ rest, t ≠ '+' :: rest := by
        intro rest ht
        rw [after?_eq_some_iff.2 ht] at hplus
        cases hplus
      rw [Option.getD_none]
      constructor
      · intro h
        exact ⟨t, Or.inl rfl, h⟩
      · rintro ⟨digits, rfl | hsigned, h⟩
        · exact h
        · exact absurd hsigned (hno digits)

/-- A text is read as the 64-bit number that it spells out. -/
theorem word?_eq_some_iff {word : UInt64} : word? t = some word ↔ Denotes t word.toNat := by
  rw [word?, Option.bind_eq_some_iff]
  constructor
  · rintro ⟨n, hn, hword⟩
    rw [Option.ite_none_right_eq_some, Option.some.injEq] at hword
    rcases hword with ⟨hlt, rfl⟩
    rw [UInt64.toNat_ofNat_of_lt' hlt]
    exact digits?_unsigned_iff.1 hn
  · intro h
    refine ⟨word.toNat, digits?_unsigned_iff.2 h, ?_⟩
    rw [if_pos (UInt64.toNat_lt_size word), UInt64.ofNat_toNat]

/-- A 64-bit number is read as it was written. -/
theorem word?_decimal (word : UInt64) : word? (decimal word.toNat) = some word := by
  have hdigits := digits?_eq_some_iff.1 (digits?_decimal word.toNat)
  exact word?_eq_some_iff.2 ⟨decimal word.toNat, Or.inl rfl, hdigits⟩

end Text

namespace Rule

variable {rule : Rule} {key : Text}

/-! ## Spellings of rules -/

theorem isToken_spellings : ∀ rule ∈ all, ∀ spelling ∈ rule.spellings,
    Text.IsToken spelling ∧ spelling.map Char.toLower = spelling := by
  decide +kernel

/-- All spellings of rules are single words. -/
theorem isToken_of_goesBy (h : rule.goesBy key = true) : Text.IsToken key := by
  have hsmall := (isToken_spellings rule (mem_all rule) _ (goesBy_iff.1 h)).1
  apply Text.isToken_iff.2
  constructor
  · rintro rfl
    exact hsmall.1 rfl
  · intro c hc
    exact Text.isTokenLetter_of_toLower (hsmall.letter (List.mem_map_of_mem hc))

/-- A spelling stays one when it is put into small letters. -/
theorem goesBy_lowercase (h : rule.goesBy key = true) :
    rule.goesBy (Text.lowercase key) = true := by
  have hsmall := (isToken_spellings rule (mem_all rule) _ (goesBy_iff.1 h)).2
  rw [goesBy_iff, (isToken_of_goesBy h).lowercase, hsmall]
  exact goesBy_iff.1 h

end Rule

end TextHygiene
