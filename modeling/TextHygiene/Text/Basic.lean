/-!
# Text

Text is a list of characters.  This module holds the questions that every other part asks of text:
does a block occur in it, do two characters stand side by side, what stands on either side of the
first separator.
-/

namespace TextHygiene

theorem toNat_ofNat_of_valid {n : Nat} (h : n.isValidChar) : (Char.ofNat n).toNat = n := by
  rw [Char.ofNat, dif_pos h]
  rfl

/-- A text is the list of its characters. -/
abbrev Text := List Char

namespace Text

/-! ## Searching -/

def occurs (needle : Text) : Text → Bool
  | [] => needle.isEmpty
  | c :: rest => needle.isPrefixOf (c :: rest) || occurs needle rest

/-- Somewhere a character of the first kind stands directly before one of the second kind. -/
def hasPair (first second : Char → Bool) : Text → Bool
  | a :: b :: rest => (first a && second b) || hasPair first second (b :: rest)
  | _ => false

theorem occurs_iff_infix {needle t : Text} : occurs needle t = true ↔ needle <:+: t := by
  induction t with
  | nil =>
      cases needle with
      | nil => simp [occurs]
      | cons c rest => simp [occurs]
  | cons c rest ih =>
      simp only [occurs, Bool.or_eq_true, List.isPrefixOf_iff_prefix, ih]
      exact List.infix_cons_iff.symm

/-! ## Taking text apart -/

def after? : Text → Text → Option Text
  | [], t => some t
  | _ :: _, [] => none
  | p :: start, c :: rest => if p = c then after? start rest else none

def before? (c : Char) (t : Text) : Option Text :=
  if t.getLast? = some c then some t.dropLast else none

/-- The text on either side of the first character of a kind. -/
def cut? (separator : Char → Bool) : Text → Option (Text × Text)
  | [] => none
  | c :: rest =>
      if separator c then some ([], rest)
      else (cut? separator rest).map fun (left, right) => (c :: left, right)

def replace (old new : Char) (t : Text) : Text :=
  t.map fun c => if c = old then new else c

theorem after?_eq_some_iff {start t rest : Text} :
    after? start t = some rest ↔ t = start ++ rest := by
  induction start generalizing t with
  | nil => simp [after?]
  | cons p start ih =>
      cases t with
      | nil => simp [after?]
      | cons c t =>
          by_cases h : p = c
          · simp [after?, h, ih]
          · simp [after?, h, Ne.symm h]

theorem before?_eq_some_iff {c : Char} {t rest : Text} :
    before? c t = some rest ↔ t = rest ++ [c] := by
  rw [before?]
  constructor
  · intro h
    split at h
    · next hlast =>
        rcases List.getLast?_eq_some_iff.1 hlast with ⟨front, rfl⟩
        rw [List.dropLast_concat] at h
        rw [Option.some.inj h]
    · cases h
  · rintro rfl
    rw [if_pos List.getLast?_concat, List.dropLast_concat]

theorem cut?_eq_some_iff {separator : Char → Bool} {t left right : Text} :
    cut? separator t = some (left, right) ↔
      ∃ c, t = left ++ c :: right ∧ separator c = true ∧ ∀ x ∈ left, separator x = false := by
  induction t generalizing left with
  | nil => simp [cut?]
  | cons a rest ih =>
      rw [cut?]
      by_cases ha : separator a = true
      · -- the separator comes first, so nothing stands on its left
        rw [if_pos ha]
        constructor
        · intro h
          cases h
          exact ⟨a, rfl, ha, fun x hx => absurd hx List.not_mem_nil⟩
        · rintro ⟨c, heq, _, hleft⟩
          cases left with
          | nil =>
              cases heq
              rfl
          | cons b left =>
              have hb : separator b = false := hleft b List.mem_cons_self
              cases heq
              rw [ha] at hb
              cases hb
      · rw [if_neg ha]
        constructor
        · intro h
          rcases Option.map_eq_some_iff.1 h with ⟨⟨l, r⟩, hrest, hpair⟩
          cases hpair
          rcases ih.1 hrest with ⟨c, rfl, hc, hleft⟩
          refine ⟨c, rfl, hc, fun x hx => ?_⟩
          rcases List.mem_cons.1 hx with rfl | hin
          · exact Bool.eq_false_iff.2 ha
          · exact hleft x hin
        · rintro ⟨c, heq, hc, hleft⟩
          cases left with
          | nil =>
              cases heq
              exact absurd hc ha
          | cons b left =>
              rw [List.cons_append] at heq
              rcases List.cons.inj heq with ⟨rfl, rfl⟩
              have hrest : cut? separator (left ++ c :: right) = some (left, right) :=
                ih.2 ⟨c, rfl, hc, fun x hx => hleft x (List.mem_cons_of_mem _ hx)⟩
              rw [hrest]
              rfl

/-! ## Order -/

/-- The order of texts by the code points of their characters, from left to right. -/
def noLater : Text → Text → Bool
  | [], _ => true
  | _ :: _, [] => false
  | a :: s, b :: t => a.toNat < b.toNat || (a == b && noLater s t)

theorem noLater_total (s t : Text) : (noLater s t || noLater t s) = true := by
  induction s generalizing t with
  | nil => simp [noLater]
  | cons a s ih =>
      cases t with
      | nil => simp [noLater]
      | cons b t =>
          rcases Nat.lt_trichotomy a.toNat b.toNat with h | h | h
          · simp [noLater, h]
          · have hab : a = b := Char.toNat_inj.1 h
            simpa [noLater, hab] using ih t
          · simp [noLater, h]

theorem noLater_trans {s t u : Text} (hst : noLater s t = true) (htu : noLater t u = true) :
    noLater s u = true := by
  induction s generalizing t u with
  | nil => simp [noLater]
  | cons a s ih =>
      cases t with
      | nil => simp [noLater] at hst
      | cons b t =>
          cases u with
          | nil => simp [noLater] at htu
          | cons c u =>
              simp only [noLater, Bool.or_eq_true, Bool.and_eq_true, decide_eq_true_eq,
                beq_iff_eq] at hst htu ⊢
              rcases hst with hab | ⟨rfl, hst⟩
              · rcases htu with hbc | ⟨rfl, _⟩
                · exact Or.inl (Nat.lt_trans hab hbc)
                · exact Or.inl hab
              · rcases htu with hbc | ⟨rfl, htu⟩
                · exact Or.inl hbc
                · exact Or.inr ⟨rfl, ih hst htu⟩

theorem eq_of_noLater {s t : Text} (hst : noLater s t = true) (hts : noLater t s = true) :
    s = t := by
  induction s generalizing t with
  | nil =>
      cases t with
      | nil => rfl
      | cons b t => simp [noLater] at hts
  | cons a s ih =>
      cases t with
      | nil => simp [noLater] at hst
      | cons b t =>
          simp only [noLater, Bool.or_eq_true, Bool.and_eq_true, decide_eq_true_eq,
            beq_iff_eq] at hst hts
          rcases hst with hab | ⟨rfl, hst⟩
          · rcases hts with hba | ⟨rfl, _⟩
            · exact absurd hab (Nat.lt_asymm hba)
            · exact absurd hab (Nat.lt_irrefl _)
          · rcases hts with haa | ⟨_, hts⟩
            · exact absurd haa (Nat.lt_irrefl _)
            · rw [ih hst hts]

/-! ## Letters -/

/-- Two texts agree once the capital letters `A` to `Z` are made small. -/
def sameLetters (a b : Text) : Bool :=
  a.map Char.toLower == b.map Char.toLower

end Text

end TextHygiene
