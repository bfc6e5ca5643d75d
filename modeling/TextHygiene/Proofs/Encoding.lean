import Mathlib.Tactic.SplitIfs
import TextHygiene.Text.Utf8

/-!
# Well-formed bytes

UTF-8 writes every text in one way, and exactly the well-formed byte sequences are written texts.
Reading undoes writing and refuses everything else: a sequence that is cut short, one that is longer
than its character needs, a surrogate, and a number beyond the last code point.
-/

namespace TextHygiene

namespace Utf8

variable {a b d e : UInt8} {c : Char} {rest bytes : List UInt8} {t : Text}

/-! ## Bytes -/

/-- A continuation byte. -/
abbrev IsTail (b : UInt8) : Prop :=
  0x80 ≤ b.toNat ∧ b.toNat < 0xC0

theorem toUInt8_eq_iff {n : Nat} (h : n < 256) : n.toUInt8 = b ↔ b.toNat = n := by
  have hn : n.toUInt8.toNat = n := UInt8.toNat_ofNat_of_lt h
  constructor
  · rintro rfl
    exact hn
  · rintro rfl
    exact UInt8.toNat_inj.1 hn

theorem payload?_eq_some_iff {y : Nat} :
    payload? b = some y ↔ IsTail b ∧ b.toNat - 0x80 = y := by
  rw [payload?, IsTail]
  split
  · next h => simp [h]
  · next h => simp [h]

theorem char?_eq_some_iff {least n : Nat} :
    char? least n = some c ↔ least ≤ c.toNat ∧ c.toNat = n := by
  rw [char?]
  constructor
  · intro h
    split at h
    · next hn =>
        have hc : c.toNat = n := by
          rw [← Option.some.inj h, toNat_ofNat_of_valid hn.2]
        exact ⟨hc ▸ hn.1, hc⟩
    · cases h
  · rintro ⟨hleast, rfl⟩
    rw [if_pos ⟨hleast, c.valid⟩, Char.ofNat_toNat]

theorem payload?_of_isTail (h : IsTail b) : payload? b = some (b.toNat - 0x80) :=
  payload?_eq_some_iff.2 ⟨h, rfl⟩

/-! ## The bytes of a character -/

theorem isValidChar_toNat (c : Char) : c.toNat < 0xD800 ∨ 0xDFFF < c.toNat ∧ c.toNat < 0x110000 :=
  c.valid

/-- One byte stands for an ASCII character. -/
theorem encodeChar_eq_one_iff : encodeChar c = [a] ↔ a.toNat < 0x80 ∧ c.toNat = a.toNat := by
  have hc := isValidChar_toNat c
  rw [encodeChar]
  split_ifs with hone htwo hthree
  · rw [List.singleton_inj, toUInt8_eq_iff (by omega)]
    omega
  -- the other characters have more bytes, since their code points are too great for one
  all_goals exact iff_of_false (by simp) (by omega)

/-- Two bytes stand for a character if the first announces one more, and one byte would not do. -/
theorem encodeChar_eq_two_iff :
    encodeChar c = [a, b] ↔
      (0xC0 ≤ a.toNat ∧ a.toNat < 0xE0) ∧ IsTail b ∧ 0x80 ≤ c.toNat ∧
        c.toNat = (a.toNat - 0xC0) * 0x40 + (b.toNat - 0x80) := by
  have hc := isValidChar_toNat c
  rw [encodeChar]
  split_ifs with hone htwo hthree
  · exact iff_of_false (by simp) (by omega)
  · simp only [List.cons.injEq, and_true]
    rw [toUInt8_eq_iff (by omega), toUInt8_eq_iff (by omega)]
    omega
  all_goals exact iff_of_false (by simp) (by omega)

/-- Three bytes stand for a character if the first announces two more, and two bytes would not do.
-/
theorem encodeChar_eq_three_iff :
    encodeChar c = [a, b, d] ↔
      (0xE0 ≤ a.toNat ∧ a.toNat < 0xF0) ∧ IsTail b ∧ IsTail d ∧ 0x800 ≤ c.toNat ∧
        c.toNat = ((a.toNat - 0xE0) * 0x40 + (b.toNat - 0x80)) * 0x40 + (d.toNat - 0x80) := by
  have hc := isValidChar_toNat c
  rw [encodeChar]
  split_ifs with hone htwo hthree
  · exact iff_of_false (by simp) (by omega)
  · exact iff_of_false (by simp) (by omega)
  · simp only [List.cons.injEq, and_true]
    rw [toUInt8_eq_iff (by omega), toUInt8_eq_iff (by omega), toUInt8_eq_iff (by omega)]
    omega
  · exact iff_of_false (by simp) (by omega)

/-- Four bytes stand for a character if the first announces three more, and three bytes would not
do. -/
theorem encodeChar_eq_four_iff :
    encodeChar c = [a, b, d, e] ↔
      (0xF0 ≤ a.toNat ∧ a.toNat < 0xF8) ∧ IsTail b ∧ IsTail d ∧ IsTail e ∧ 0x10000 ≤ c.toNat ∧
        c.toNat = (((a.toNat - 0xF0) * 0x40 + (b.toNat - 0x80)) * 0x40 + (d.toNat - 0x80)) * 0x40 +
          (e.toNat - 0x80) := by
  have hc := isValidChar_toNat c
  rw [encodeChar]
  split_ifs with hone htwo hthree
  · exact iff_of_false (by simp) (by omega)
  · exact iff_of_false (by simp) (by omega)
  · exact iff_of_false (by simp) (by omega)
  · simp only [List.cons.injEq, and_true]
    rw [toUInt8_eq_iff (by omega), toUInt8_eq_iff (by omega), toUInt8_eq_iff (by omega),
      toUInt8_eq_iff (by omega)]
    omega

/-- A character has the bytes that the standard library gives it. -/
theorem encodeChar_eq (c : Char) : encodeChar c = String.utf8EncodeChar c := by
  -- length by length; the library also cuts first bytes to their payload bits, which loses none
  have hc := isValidChar_toNat c
  rw [String.utf8EncodeChar, show c.val.toNat = c.toNat from rfl]
  split_ifs with hone htwo hthree
  · rw [encodeChar_eq_one_iff, UInt8.toNat_ofNat']
    omega
  · simp only [encodeChar_eq_two_iff, IsTail, UInt8.toNat_ofNat']
    omega
  · simp only [encodeChar_eq_three_iff, IsTail, UInt8.toNat_ofNat']
    omega
  · simp only [encodeChar_eq_four_iff, IsTail, UInt8.toNat_ofNat']
    omega

/-- The bytes of a character have one of four lengths. -/
theorem encodeChar_cases (c : Char) :
    (∃ a, encodeChar c = [a]) ∨ (∃ a b, encodeChar c = [a, b]) ∨
      (∃ a b d, encodeChar c = [a, b, d]) ∨ ∃ a b d e, encodeChar c = [a, b, d, e] := by
  rw [encodeChar]
  split_ifs
  · exact Or.inl ⟨_, rfl⟩
  · exact Or.inr (Or.inl ⟨_, _, rfl⟩)
  · exact Or.inr (Or.inr (Or.inl ⟨_, _, _, rfl⟩))
  · exact Or.inr (Or.inr (Or.inr ⟨_, _, _, _, rfl⟩))

theorem encode_cons (c : Char) (t : Text) : encode (c :: t) = encodeChar c ++ encode t :=
  List.flatMap_cons

/-- Encoding agrees with the standard library. -/
theorem encode_eq (t : Text) : encode t = t.flatMap String.utf8EncodeChar := by
  rw [encode, funext encodeChar_eq]

/-! ## Reading -/

theorem decode?_one (ha : a.toNat < 0x80) :
    decode? (a :: rest) = (decode? rest).map (Char.ofNat a.toNat :: ·) := by
  rw [decode?.eq_def]
  exact if_pos ha

theorem decode?_two (ha : 0xC0 ≤ a.toNat ∧ a.toNat < 0xE0) :
    decode? (a :: b :: rest) =
      (payload? b).bind fun y =>
        (char? 0x80 ((a.toNat - 0xC0) * 0x40 + y)).bind fun c =>
          (decode? rest).map (c :: ·) := by
  rw [decode?.eq_def]
  dsimp only
  rw [if_neg (by omega), if_pos ha]
  rfl

theorem decode?_three (ha : 0xE0 ≤ a.toNat ∧ a.toNat < 0xF0) :
    decode? (a :: b :: d :: rest) =
      (payload? b).bind fun y => (payload? d).bind fun z =>
        (char? 0x800 (((a.toNat - 0xE0) * 0x40 + y) * 0x40 + z)).bind fun c =>
          (decode? rest).map (c :: ·) := by
  rw [decode?.eq_def]
  dsimp only
  rw [if_neg (by omega), if_neg (by omega), if_pos ha]
  rfl

theorem decode?_four (ha : 0xF0 ≤ a.toNat ∧ a.toNat < 0xF8) :
    decode? (a :: b :: d :: e :: rest) =
      (payload? b).bind fun y => (payload? d).bind fun z => (payload? e).bind fun w =>
        (char? 0x10000
          ((((a.toNat - 0xF0) * 0x40 + y) * 0x40 + z) * 0x40 + w)).bind fun c =>
            (decode? rest).map (c :: ·) := by
  rw [decode?.eq_def]
  dsimp only
  rw [if_neg (by omega), if_neg (by omega), if_neg (by omega), if_pos ha]
  rfl

/-- The bytes of a character are read as that character, whatever follows. -/
theorem decode?_encodeChar_append (c : Char) (rest : List UInt8) :
    decode? (encodeChar c ++ rest) = (decode? rest).map (c :: ·) := by
  -- the code has one to four bytes, and the first byte tells how many
  rcases encodeChar_cases c with ⟨a, h⟩ | ⟨a, b, h⟩ | ⟨a, b, d, h⟩ | ⟨a, b, d, e, h⟩
  · rcases encodeChar_eq_one_iff.1 h with ⟨ha, hc⟩
    rw [h, List.singleton_append, decode?_one ha, ← hc, Char.ofNat_toNat]
  · rcases encodeChar_eq_two_iff.1 h with ⟨ha, hb, hc⟩
    rw [h, List.cons_append, List.singleton_append, decode?_two ha, payload?_of_isTail hb,
      Option.bind_some, char?_eq_some_iff.2 hc, Option.bind_some]
  · rcases encodeChar_eq_three_iff.1 h with ⟨ha, hb, hd, hc⟩
    rw [h, List.cons_append, List.cons_append, List.singleton_append, decode?_three ha,
      payload?_of_isTail hb, Option.bind_some, payload?_of_isTail hd, Option.bind_some,
      char?_eq_some_iff.2 hc, Option.bind_some]
  · rcases encodeChar_eq_four_iff.1 h with ⟨ha, hb, hd, he, hc⟩
    rw [h, List.cons_append, List.cons_append, List.cons_append, List.singleton_append,
      decode?_four ha, payload?_of_isTail hb, Option.bind_some, payload?_of_isTail hd,
      Option.bind_some, payload?_of_isTail he, Option.bind_some, char?_eq_some_iff.2 hc,
      Option.bind_some]

/-- Reading undoes writing. -/
theorem decode?_encode (t : Text) : decode? (encode t) = some t := by
  induction t with
  | nil => rw [encode, List.flatMap_nil, decode?]
  | cons c t ih =>
      rw [encode_cons, decode?_encodeChar_append, ih]
      rfl

/-- What is read as a text is what that text is written as. -/
theorem eq_encode_of_decode? (h : decode? bytes = some t) : bytes = encode t := by
  -- along the reader: one case for each length, and cases that are refused in between
  fun_induction decode? bytes generalizing t with
  | case1 =>
      cases h
      rfl
  | case2 a rest ha ih =>
      rcases Option.map_eq_some_iff.1 h with ⟨u, hu, rfl⟩
      have hvalid : a.toNat.isValidChar := Or.inl (by omega)
      have hbytes := encodeChar_eq_one_iff.2 ⟨ha, toNat_ofNat_of_valid hvalid⟩
      rw [encode_cons, hbytes, ← ih hu]
      rfl
  | case4 a _ b rest ha ih =>
      rcases Option.bind_eq_some_iff.1 h with ⟨_, hy, h⟩
      rcases Option.bind_eq_some_iff.1 h with ⟨c, hc, h⟩
      rcases Option.map_eq_some_iff.1 h with ⟨u, hu, rfl⟩
      rcases payload?_eq_some_iff.1 hy with ⟨hb, rfl⟩
      have hbytes := encodeChar_eq_two_iff.2 ⟨ha, hb, char?_eq_some_iff.1 hc⟩
      rw [encode_cons, hbytes, ← ih hu]
      rfl
  | case6 a _ b _ d rest ha ih =>
      rcases Option.bind_eq_some_iff.1 h with ⟨_, hy, h⟩
      rcases Option.bind_eq_some_iff.1 h with ⟨_, hz, h⟩
      rcases Option.bind_eq_some_iff.1 h with ⟨c, hc, h⟩
      rcases Option.map_eq_some_iff.1 h with ⟨u, hu, rfl⟩
      rcases payload?_eq_some_iff.1 hy with ⟨hb, rfl⟩
      rcases payload?_eq_some_iff.1 hz with ⟨hd, rfl⟩
      have hbytes := encodeChar_eq_three_iff.2 ⟨ha, hb, hd, char?_eq_some_iff.1 hc⟩
      rw [encode_cons, hbytes, ← ih hu]
      rfl
  | case8 a _ b _ d _ e rest ha ih =>
      rcases Option.bind_eq_some_iff.1 h with ⟨_, hy, h⟩
      rcases Option.bind_eq_some_iff.1 h with ⟨_, hz, h⟩
      rcases Option.bind_eq_some_iff.1 h with ⟨_, hw, h⟩
      rcases Option.bind_eq_some_iff.1 h with ⟨c, hc, h⟩
      rcases Option.map_eq_some_iff.1 h with ⟨u, hu, rfl⟩
      rcases payload?_eq_some_iff.1 hy with ⟨hb, rfl⟩
      rcases payload?_eq_some_iff.1 hz with ⟨hd, rfl⟩
      rcases payload?_eq_some_iff.1 hw with ⟨he, rfl⟩
      have hbytes := encodeChar_eq_four_iff.2 ⟨ha, hb, hd, he, char?_eq_some_iff.1 hc⟩
      rw [encode_cons, hbytes, ← ih hu]
      rfl
  | _ => cases h

/-- A sequence of bytes is read as a text exactly if it is what the text is encoded as. -/
theorem decode?_eq_some_iff : decode? bytes = some t ↔ bytes = encode t := by
  constructor
  · exact eq_encode_of_decode?
  · rintro rfl
    exact decode?_encode t

/-! ## Well-formed sequences -/

/-- The byte sequences that stand for one character.  In the side conditions, what is excluded would
be longer than needed, a surrogate, or beyond the last code point. -/
inductive IsCharacter : List UInt8 → Prop
  | one {a : UInt8} (ha : a.toNat ≤ 0x7F) : IsCharacter [a]
  | two {a b : UInt8} (ha : 0xC2 ≤ a.toNat ∧ a.toNat ≤ 0xDF) (hb : IsTail b) : IsCharacter [a, b]
  | three {a b d : UInt8} (ha : 0xE0 ≤ a.toNat ∧ a.toNat ≤ 0xEF) (hb : IsTail b) (hd : IsTail d)
      (short : a.toNat = 0xE0 → 0xA0 ≤ b.toNat) (scalar : a.toNat = 0xED → b.toNat ≤ 0x9F) :
      IsCharacter [a, b, d]
  | four {a b d e : UInt8} (ha : 0xF0 ≤ a.toNat ∧ a.toNat ≤ 0xF4) (hb : IsTail b) (hd : IsTail d)
      (he : IsTail e) (short : a.toNat = 0xF0 → 0x90 ≤ b.toNat)
      (scalar : a.toNat = 0xF4 → b.toNat ≤ 0x8F) : IsCharacter [a, b, d, e]

/-- The well-formed byte sequences: characters, one behind the other. -/
inductive WellFormed : List UInt8 → Prop
  | nil : WellFormed []
  | append {first rest : List UInt8} :
      IsCharacter first → WellFormed rest → WellFormed (first ++ rest)

/-- What a character is encoded as stands for one character. -/
theorem isCharacter_encodeChar (c : Char) : IsCharacter (encodeChar c) := by
  have hc := isValidChar_toNat c
  rcases encodeChar_cases c with ⟨a, h⟩ | ⟨a, b, h⟩ | ⟨a, b, d, h⟩ | ⟨a, b, d, e, h⟩
  · rw [h]
    rw [encodeChar_eq_one_iff] at h
    exact .one (by omega)
  · rw [h]
    rw [encodeChar_eq_two_iff] at h
    exact .two (by omega) h.2.1
  · rw [h]
    rw [encodeChar_eq_three_iff] at h
    exact .three (by omega) h.2.1 h.2.2.1 (by omega) (by omega)
  · rw [h]
    rw [encodeChar_eq_four_iff] at h
    exact .four (by omega) h.2.1 h.2.2.1 h.2.2.2.1 (by omega) (by omega)

/-- Every sequence that stands for one character is the code of one. -/
theorem exists_encodeChar_of_isCharacter (h : IsCharacter bytes) : ∃ c, encodeChar c = bytes := by
  -- it is enough to name the code point, which is valid by the side conditions
  have hchar : ∀ n : Nat, n.isValidChar → (∀ c : Char, c.toNat = n → encodeChar c = bytes) →
      ∃ c, encodeChar c = bytes := by
    intro n hn hbytes
    exact ⟨Char.ofNat n, hbytes _ (toNat_ofNat_of_valid hn)⟩
  cases h with
  | @one a ha =>
      refine hchar a.toNat (Or.inl (by omega)) fun c hc => ?_
      exact encodeChar_eq_one_iff.2 ⟨by omega, hc⟩
  | @two a b ha hb =>
      refine hchar ((a.toNat - 0xC0) * 0x40 + (b.toNat - 0x80)) (Or.inl (by omega)) fun c hc => ?_
      exact encodeChar_eq_two_iff.2 ⟨by omega, hb, by omega, hc⟩
  | @three a b d ha hb hd hshort hscalar =>
      refine hchar (((a.toNat - 0xE0) * 0x40 + (b.toNat - 0x80)) * 0x40 + (d.toNat - 0x80))
        (by rw [Nat.isValidChar]; omega) fun c hc => ?_
      exact encodeChar_eq_three_iff.2 ⟨by omega, hb, hd, by omega, hc⟩
  | @four a b d e ha hb hd he hshort hscalar =>
      refine hchar
        ((((a.toNat - 0xF0) * 0x40 + (b.toNat - 0x80)) * 0x40 + (d.toNat - 0x80)) * 0x40 +
          (e.toNat - 0x80)) (by rw [Nat.isValidChar]; omega) fun c hc => ?_
      exact encodeChar_eq_four_iff.2 ⟨by omega, hb, hd, he, by omega, hc⟩

/-- Exactly the well-formed byte sequences are written texts. -/
theorem wellFormed_iff : WellFormed bytes ↔ ∃ t, bytes = encode t := by
  constructor
  · intro h
    induction h with
    | nil => exact ⟨[], rfl⟩
    | append hfirst _ ih =>
        rcases exists_encodeChar_of_isCharacter hfirst with ⟨c, rfl⟩
        rcases ih with ⟨t, rfl⟩
        exact ⟨c :: t, (encode_cons c t).symm⟩
  · rintro ⟨t, rfl⟩
    induction t with
    | nil => exact .nil
    | cons c t ih =>
        rw [encode_cons]
        exact .append (isCharacter_encodeChar c) ih

/-- Exactly what is not well formed is refused. -/
theorem decode?_eq_none_iff : decode? bytes = none ↔ ¬ WellFormed bytes := by
  rw [wellFormed_iff, Option.eq_none_iff_forall_ne_some, not_exists]
  exact forall_congr' fun t => not_congr decode?_eq_some_iff

/-! ## Zero bytes -/

/-- Every byte of a longer sequence has its highest bit set. -/
theorem le_of_mem_encodeChar (hc : 0x80 ≤ c.toNat) : ∀ x ∈ encodeChar c, 0x80 ≤ x.toNat := by
  -- a code of one byte would belong to an ASCII character; the others announce more
  rcases encodeChar_cases c with ⟨a, h⟩ | ⟨a, b, h⟩ | ⟨a, b, d, h⟩ | ⟨a, b, d, e, h⟩
  · rw [encodeChar_eq_one_iff] at h
    omega
  · rw [h]
    rw [encodeChar_eq_two_iff] at h
    simp only [List.forall_mem_cons]
    exact ⟨by omega, by omega, fun _ => by simp⟩
  · rw [h]
    rw [encodeChar_eq_three_iff] at h
    simp only [List.forall_mem_cons]
    exact ⟨by omega, by omega, by omega, fun _ => by simp⟩
  · rw [h]
    rw [encodeChar_eq_four_iff] at h
    simp only [List.forall_mem_cons]
    exact ⟨by omega, by omega, by omega, by omega, fun _ => by simp⟩

theorem zero_mem_encodeChar_iff : 0 ∈ encodeChar c ↔ c = '\x00' := by
  constructor
  · intro h
    by_cases hc : c.toNat < 0x80
    · -- a short character is its own byte
      rw [encodeChar, if_pos hc, List.mem_singleton, eq_comm, toUInt8_eq_iff (by omega)] at h
      exact Char.toNat_inj.1 h.symm
    · have hzero := le_of_mem_encodeChar (by omega) 0 h
      cases hzero
  · rintro rfl
    decide

/-- A zero byte comes from a zero character only. -/
theorem zero_mem_encode_iff : 0 ∈ encode t ↔ '\x00' ∈ t := by
  simp [encode, zero_mem_encodeChar_iff]

end Utf8

end TextHygiene
