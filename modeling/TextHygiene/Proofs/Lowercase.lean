import TextHygiene.Proofs.Trimming
import TextHygiene.Unicode.Lowercase

/-!
# Small letters stay small

No letter that a capital letter is sent to is sent on to another one, so a text in small letters is
left alone when it is put into small letters again.  Neither do blanks and the signs of
configuration files come from other characters: what stands between two of them may change, but they
stay where they are and none is added.
-/

namespace TextHygiene

namespace Unicode

/-! ## Tables of shifts -/

def Span.holds (s : Span) (n : Nat) : Bool :=
  s.first.ble n && n.ble s.last && ((n - s.first) % s.stride).beq 0

/-- Two spans have no code point in common.  Where they overlap, this is tried out. -/
def Span.apart (s t : Span) : Bool :=
  s.last.blt t.first || t.last.blt s.first ||
    (List.range (s.last - s.first + 1)).all fun k =>
      !(s.holds (s.first + k) && t.holds (s.first + k))

def Shift.images (s : Shift) : Span :=
  ⟨s.image, s.image + (s.span.last - s.span.first), s.span.stride⟩

def allShifts : List Shift :=
  lowercaseShifts ++ Recent.addedShifts

/-- No small letter that a shift makes is moved by another one. -/
theorem images_apart :
    (allShifts.all fun s => allShifts.all fun t => s.images.apart t.span) = true := by
  decide +kernel

/-- No image is a surrogate or lies behind the last code point. -/
theorem images_valid :
    ∀ s ∈ allShifts,
      s.images.last < 0xD800 ∨ 0xDFFF < s.images.first ∧ s.images.last < 0x110000 := by
  decide +kernel

theorem Span.has_eq_holds (s : Span) (c : Char) : s.has c = s.holds c.toNat := by
  rw [Bool.eq_iff_iff]
  simp [has, holds]

theorem Span.not_has_of_apart {s t : Span} {c : Char} (happart : s.apart t = true)
    (hs : s.has c = true) : t.has c = false := by
  rw [has_eq_holds] at hs ⊢
  by_contra ht
  have hin : s.first ≤ c.toNat ∧ c.toNat ≤ s.last := by
    simp only [holds, Bool.and_eq_true, Nat.ble_eq] at hs
    exact hs.1
  have hin' : t.first ≤ c.toNat ∧ c.toNat ≤ t.last := by
    simp only [holds, Bool.and_eq_true, Nat.ble_eq, Bool.not_eq_false] at ht
    exact ht.1
  -- one span ends before the other starts, or all places of the first one were tried out
  simp only [apart, Bool.or_eq_true, Nat.blt_eq, List.all_eq_true, List.mem_range] at happart
  rcases happart with (hbefore | hbehind) | htried
  · omega
  · omega
  · have hplace : s.first + (c.toNat - s.first) = c.toNat := by omega
    have hnot := htried (c.toNat - s.first) (by omega)
    rw [hplace, hs] at hnot
    simp [Bool.not_eq_false] at ht
    simp [ht] at hnot

/-! ## One character -/

/-- No shift moves the character. -/
def Unmoved (c : Char) : Prop :=
  ∀ s ∈ allShifts, s.span.has c = false

instance (c : Char) : Decidable (Unmoved c) :=
  inferInstanceAs (Decidable (∀ s ∈ allShifts, s.span.has c = false))

/-- What a shift sends a letter to is among its images. -/
theorem Shift.has_images_of_target? {s : Shift} {c d : Char} (hs : s ∈ allShifts)
    (h : s.target? c = some d) : s.images.has d = true := by
  rw [target?] at h
  split at h
  · next hspan =>
      rw [Span.has_eq_holds] at hspan
      simp only [Span.holds, Bool.and_eq_true, Nat.ble_eq, Nat.beq_eq] at hspan
      rcases hspan with ⟨⟨hfirst, hlast⟩, hstride⟩
      -- the image lies as far behind the first image as the letter behind the first letter
      have hvalid : (s.image + (c.toNat - s.span.first)).isValidChar := by
        have hbounds := images_valid s hs
        simp only [images] at hbounds
        rw [Nat.isValidChar]
        omega
      cases h
      rw [Span.has_eq_holds, toNat_ofNat_of_valid hvalid]
      simp only [Span.holds, images, Bool.and_eq_true, Nat.ble_eq, Nat.beq_eq]
      refine ⟨⟨Nat.le_add_right _ _, by omega⟩, ?_⟩
      rwa [Nat.add_sub_cancel_left]
  · cases h

/-- Small letters are not moved again. -/
theorem unmoved_of_has_images {s : Shift} {c : Char} (hs : s ∈ allShifts)
    (h : s.images.has c = true) : Unmoved c := by
  intro t ht
  have happart := List.all_eq_true.1 (List.all_eq_true.1 images_apart s hs) t ht
  exact Span.not_has_of_apart happart h

/-- A table leaves a character that it does not list, and makes an image of any other. -/
theorem shifted_cases (table : List Shift) (c : Char) :
    (shifted table c = c ∧ ∀ s ∈ table, s.span.has c = false) ∨
      ∃ s ∈ table, s.target? c = some (shifted table c) := by
  rw [shifted]
  cases hfound : table.findSome? (·.target? c) with
  | some d =>
      rcases List.exists_of_findSome?_eq_some hfound with ⟨s, hs, htarget⟩
      exact Or.inr ⟨s, hs, htarget⟩
  | none =>
      refine Or.inl ⟨rfl, fun s hs => ?_⟩
      have hnone := List.findSome?_eq_none_iff.1 hfound s hs
      rw [Shift.target?] at hnone
      simpa using hnone

theorem shifted_eq_self {table : List Shift} {c : Char}
    (h : ∀ s ∈ table, s.span.has c = false) : shifted table c = c := by
  rcases shifted_cases table c with ⟨heq, _⟩ | ⟨s, hs, htarget⟩
  · exact heq
  · rw [Shift.target?, h s hs] at htarget
    cases htarget

theorem lowercased_of_unmoved {c : Char} (h : Unmoved c) : Recent.lowercased c = c := by
  have hfirst : shifted lowercaseShifts c = c :=
    shifted_eq_self fun s hs => h s (List.mem_append_left _ hs)
  have hsecond : shifted Recent.addedShifts c = c :=
    shifted_eq_self fun s hs => h s (List.mem_append_right _ hs)
  rw [Recent.lowercased, hfirst, hsecond]

/-- The small letter for a character is the character, which no shift moves, or what a shift makes
of it. -/
theorem lowercased_cases (c : Char) :
    (Recent.lowercased c = c ∧ Unmoved c) ∨
      ∃ s ∈ allShifts, s.target? c = some (Recent.lowercased c) := by
  rcases shifted_cases lowercaseShifts c with ⟨heq, hnone⟩ | ⟨s, hs, htarget⟩
  · rw [Recent.lowercased, heq]
    rcases shifted_cases Recent.addedShifts c with ⟨heq', hnone'⟩ | ⟨s, hs, htarget⟩
    · exact Or.inl ⟨heq', List.forall_mem_append.2 ⟨hnone, hnone'⟩⟩
    · exact Or.inr ⟨s, List.mem_append_right _ hs, htarget⟩
  · -- the second table does not move what the first one makes
    have hmem : s ∈ allShifts := List.mem_append_left _ hs
    have himage := Shift.has_images_of_target? hmem htarget
    have hstay : shifted Recent.addedShifts (shifted lowercaseShifts c) =
        shifted lowercaseShifts c :=
      shifted_eq_self fun t ht => unmoved_of_has_images hmem himage t (List.mem_append_right _ ht)
    rw [Recent.lowercased, hstay]
    exact Or.inr ⟨s, hmem, htarget⟩

/-! ## One character in its place -/

/-- Characters that lower-casing makes of no other character: the dotted `İ`, the blanks, and the
signs that matter in configuration files. -/
def lonely : List Char :=
  'İ' :: blankCharacters ++ ['=', ':', '#', ';', '[', ']']

theorem images_not_lonely :
    ∀ s ∈ allShifts, ∀ c ∈ lonely, s.images.has c = false := by
  have hall : ∀ s ∈ allShifts, (lonely.all fun c => decide (s.images.has c = false)) = true := by
    decide +kernel
  intro s hs
  exact Text.forall_mem_of_all (hall s hs)

/-- A character that is left alone wherever it stands. -/
structure IsSmall (c : Char) : Prop where
  unmoved : Unmoved c
  noDot : c ≠ 'İ'

variable {before behind t : Text} {c d : Char}

theorem not_unmoved_sigma : ¬ Unmoved 'Σ' := by
  decide +kernel

/-- A small letter stays as it is wherever it stands. -/
theorem IsSmall.lowercaseAt (h : IsSmall c) : lowercaseAt before c behind = [c] := by
  have hsigma : c ≠ 'Σ' := by
    rintro rfl
    exact not_unmoved_sigma h.unmoved
  rw [Unicode.lowercaseAt, if_neg hsigma, if_neg h.noDot, lowercased_of_unmoved h.unmoved]

/-- What a character becomes is left alone afterwards, and is the character itself if it is one of
those that come from no other. -/
theorem of_mem_lowercaseAt (h : d ∈ lowercaseAt before c behind) :
    IsSmall d ∧ (d ∈ lonely → d = c) := by
  have hsmall : ∀ x ∈ ['ς', 'σ', 'i', '\u0307'], Unmoved x ∧ x ≠ 'İ' ∧ x ∉ lonely :=
    Text.forall_mem_of_all (by decide +kernel)
  have hmade : ∀ x ∈ ['ς', 'σ', 'i', '\u0307'], IsSmall x ∧ (x ∈ lonely → x = c) := by
    intro x hx
    rcases hsmall x hx with ⟨hunmoved, hdot, hother⟩
    exact ⟨⟨hunmoved, hdot⟩, fun hlonely => absurd hlonely hother⟩
  rw [lowercaseAt] at h
  split at h
  · -- a sigma at the end of a word and elsewhere
    apply hmade
    rw [List.mem_singleton.1 h]
    split
    · decide
    · decide
  · split at h
    · apply hmade
      exact List.mem_of_mem_drop (i := 2) h
    · next hdot =>
        rw [List.mem_singleton.1 h]
        rcases lowercased_cases c with ⟨heq, hunmoved⟩ | ⟨s, hs, htarget⟩
        · rw [heq]
          exact ⟨⟨hunmoved, hdot⟩, fun _ => rfl⟩
        · have himage := Shift.has_images_of_target? hs htarget
          have hother : Recent.lowercased c ∉ lonely := by
            intro hlonely
            rw [images_not_lonely s hs _ hlonely] at himage
            cases himage
          refine ⟨⟨unmoved_of_has_images hs himage, ?_⟩, fun hlonely => absurd hlonely hother⟩
          intro heq
          exact hother (heq ▸ List.mem_cons_self)

theorem lowercaseAt_ne_nil : lowercaseAt before c behind ≠ [] := by
  rw [lowercaseAt]
  split
  · exact List.cons_ne_nil _ _
  · split
    · exact List.cons_ne_nil _ _
    · exact List.cons_ne_nil _ _

/-! ## Texts -/

theorem exists_of_mem_lowercaseBehind (h : d ∈ lowercaseBehind before t) :
    ∃ c ∈ t, ∃ front back, d ∈ lowercaseAt front c back := by
  induction t generalizing before with
  | nil => cases h
  | cons c rest ih =>
      rw [lowercaseBehind, List.mem_append] at h
      rcases h with hfirst | hrest
      · exact ⟨c, List.mem_cons_self, before, rest, hfirst⟩
      · rcases ih hrest with ⟨other, hmem, hother⟩
        exact ⟨other, List.mem_cons_of_mem c hmem, hother⟩

/-- A text in small letters stays as it is. -/
theorem lowercaseBehind_of_isSmall (h : ∀ c ∈ t, IsSmall c) : lowercaseBehind before t = t := by
  induction t generalizing before with
  | nil => rfl
  | cons c rest ih =>
      rcases List.forall_mem_cons.1 h with ⟨hfirst, hrest⟩
      rw [lowercaseBehind, hfirst.lowercaseAt, ih hrest]
      rfl

theorem lowercaseBehind_eq_nil_iff : lowercaseBehind before t = [] ↔ t = [] := by
  cases t with
  | nil => exact iff_of_true rfl rfl
  | cons c rest =>
      refine iff_of_false ?_ (List.cons_ne_nil c rest)
      rw [lowercaseBehind]
      exact List.append_ne_nil_of_left_ne_nil lowercaseAt_ne_nil _

theorem head?_of_lowercaseBehind (h : (lowercaseBehind before t).head? = some d)
    (hd : d ∈ lonely) : t.head? = some d := by
  cases t with
  | nil => cases h
  | cons c rest =>
      rw [lowercaseBehind, List.head?_append, Option.or_eq_some_iff] at h
      rcases h with hfirst | ⟨hnone, _⟩
      · have hsame := (of_mem_lowercaseAt (List.mem_of_head? hfirst)).2 hd
        rw [hsame]
        rfl
      · exact absurd (List.head?_eq_none_iff.1 hnone) lowercaseAt_ne_nil

theorem getLast?_of_lowercaseBehind (h : (lowercaseBehind before t).getLast? = some d)
    (hd : d ∈ lonely) : t.getLast? = some d := by
  induction t generalizing before with
  | nil => cases h
  | cons c rest ih =>
      rw [lowercaseBehind] at h
      cases rest with
      | nil =>
          rw [lowercaseBehind, List.append_nil] at h
          -- a lonely character comes from itself only
          have hsame := (of_mem_lowercaseAt (List.mem_of_getLast? h)).2 hd
          rw [hsame]
          rfl
      | cons next rest =>
          rw [List.getLast?_append, Option.or_eq_some_iff] at h
          rw [List.getLast?_cons_cons]
          rcases h with hlast | ⟨hnone, _⟩
          · exact ih hlast
          · -- lower-casing leaves something of every text but the empty one
            have hnil := lowercaseBehind_eq_nil_iff.1 (List.getLast?_eq_none_iff.1 hnone)
            cases hnil

end Unicode

namespace Text

open Unicode

variable {t : Text} {c : Char}

theorem lowercase_eq_self (h : ∀ c ∈ t, IsSmall c) : lowercase t = t :=
  lowercaseBehind_of_isSmall h

/-- Putting a text into small letters twice is doing so once. -/
theorem lowercase_lowercase (t : Text) : lowercase (lowercase t) = lowercase t := by
  apply lowercase_eq_self
  intro d hd
  rcases exists_of_mem_lowercaseBehind hd with ⟨c, _, front, back, hmem⟩
  exact (of_mem_lowercaseAt hmem).1

/-- Characters that come from no other one were there before. -/
theorem mem_of_mem_lowercase (h : c ∈ lowercase t) (hc : c ∈ lonely) : c ∈ t := by
  rcases exists_of_mem_lowercaseBehind h with ⟨source, hsource, front, back, hmem⟩
  rw [(of_mem_lowercaseAt hmem).2 hc]
  exact hsource

theorem lowercase_eq_nil_iff : lowercase t = [] ↔ t = [] :=
  lowercaseBehind_eq_nil_iff

theorem head?_of_lowercase (h : (lowercase t).head? = some c) (hc : c ∈ lonely) :
    t.head? = some c :=
  head?_of_lowercaseBehind h hc

theorem mem_lonely_of_isBlank (h : isBlank c = true) : c ∈ lonely := by
  have hblank : c ∈ blankCharacters := List.contains_iff_mem.1 h
  exact List.mem_append_left _ (List.mem_cons_of_mem _ hblank)

/-- A text without blanks at its ends has none there in small letters either. -/
theorem Bare.lowercase (h : Bare t) : Bare (lowercase t) := by
  constructor
  · intro c hc
    by_contra hblank
    rw [Bool.not_eq_false] at hblank
    have hstart := h.start c (head?_of_lowercase hc (mem_lonely_of_isBlank hblank))
    rw [hblank] at hstart
    cases hstart
  · intro c hc
    by_contra hblank
    rw [Bool.not_eq_false] at hblank
    have hstop := h.stop c (getLast?_of_lowercaseBehind hc (mem_lonely_of_isBlank hblank))
    rw [hblank] at hstop
    cases hstop

/-! ## ASCII text -/

theorem ascii_shifts :
    ∀ s ∈ allShifts, s.span = ⟨0x41, 0x5A, 1⟩ ∨ 128 ≤ s.span.first := by
  decide +kernel

theorem lowercased_capital :
    ∀ k < 26, Recent.lowercased (Char.ofNat (0x41 + k)) = (Char.ofNat (0x41 + k)).toLower := by
  decide +kernel

theorem lowercased_of_ascii (h : c.toNat < 128) : Recent.lowercased c = c.toLower := by
  by_cases hcapital : 0x41 ≤ c.toNat ∧ c.toNat ≤ 0x5A
  · have hplace : 0x41 + (c.toNat - 0x41) = c.toNat := by omega
    have hlower := lowercased_capital (c.toNat - 0x41) (by omega)
    rwa [hplace, Char.ofNat_toNat] at hlower
  · -- the other shifts are about greater code points
    have hunmoved : Unmoved c := by
      intro s hs
      rw [Span.has_eq_holds, Span.holds]
      rcases ascii_shifts s hs with hspan | hfirst
      · rw [hspan]
        simpa using fun hlow hhigh => absurd ⟨hlow, hhigh⟩ hcapital
      · have hlow : ¬ s.span.first ≤ c.toNat := by omega
        simp [hlow]
    have hlower : c.toLower = c := dif_neg hcapital
    rw [lowercased_of_unmoved hunmoved, hlower]

theorem lowercaseBehind_of_ascii {before : Text} (h : ∀ c ∈ t, c.toNat < 128) :
    lowercaseBehind before t = t.map Char.toLower := by
  induction t generalizing before with
  | nil => rfl
  | cons c rest ih =>
      rcases List.forall_mem_cons.1 h with ⟨hfirst, hrest⟩
      -- the two letters with rules of their own are no ASCII characters
      have hsigma : c ≠ 'Σ' := by
        rintro rfl
        revert hfirst
        decide
      have hdot : c ≠ 'İ' := by
        rintro rfl
        revert hfirst
        decide
      rw [lowercaseBehind, lowercaseAt, if_neg hsigma, if_neg hdot, lowercased_of_ascii hfirst,
        ih hrest]
      rfl

/-- In ASCII texts nothing happens but that capital letters become small. -/
theorem lowercase_of_ascii (h : ∀ c ∈ t, c.toNat < 128) : lowercase t = t.map Char.toLower :=
  lowercaseBehind_of_ascii h

/-! ## Letters that come from ASCII letters -/

/-- The small ASCII letters that lower-casing makes of ASCII letters only.  The `k` is not among
them, since the Kelvin sign becomes one. -/
def asciiOnly : List Char :=
  "abcdefghijlmnopqrstuvwxyz".toList

theorem images_not_asciiOnly :
    ∀ s ∈ allShifts, s.span.last < 128 ∨ ∀ c ∈ asciiOnly, s.images.has c = false := by
  have hall : ∀ s ∈ allShifts, (decide (s.span.last < 128) ||
      asciiOnly.all fun c => decide (s.images.has c = false)) = true := by
    decide +kernel
  intro s hs
  rcases Bool.or_eq_true_iff.1 (hall s hs) with hlast | hnone
  · exact Or.inl (of_decide_eq_true hlast)
  · exact Or.inr (forall_mem_of_all hnone)

theorem toNat_lt_of_mem_asciiOnly : ∀ c ∈ asciiOnly, c.toNat < 128 :=
  forall_mem_of_all (by decide)

theorem toNat_lt_of_lowercased (h : Recent.lowercased c ∈ asciiOnly) : c.toNat < 128 := by
  rcases lowercased_cases c with ⟨heq, _⟩ | ⟨s, hs, htarget⟩
  · rw [heq] at h
    exact toNat_lt_of_mem_asciiOnly c h
  · rcases images_not_asciiOnly s hs with hlast | hnone
    · -- the shift is about ASCII letters, and the character is one of them
      have hspan : s.span.has c = true := by
        by_contra hout
        rw [Shift.target?, if_neg hout] at htarget
        cases htarget
      rw [Span.has_eq_holds] at hspan
      simp only [Span.holds, Bool.and_eq_true, Nat.ble_eq] at hspan
      exact Nat.lt_of_le_of_lt hspan.1.2 hlast
    · have himage := Shift.has_images_of_target? hs htarget
      rw [hnone _ h] at himage
      cases himage

theorem toNat_lt_of_lowercaseAt {before behind : Text}
    (h : ∀ d ∈ lowercaseAt before c behind, d ∈ asciiOnly) : c.toNat < 128 := by
  have hnot : ∀ d ∈ ['ς', 'σ', '\u0307'], d ∉ asciiOnly :=
    forall_mem_of_all (by decide)
  rw [lowercaseAt] at h
  split at h
  · -- neither small sigma is an ASCII letter
    have hsigma := h _ (List.mem_singleton_self _)
    split at hsigma
    · exact absurd hsigma (hnot 'ς' (by decide))
    · exact absurd hsigma (hnot 'σ' (by decide))
  · split at h
    · exact absurd (h '\u0307' (by decide)) (hnot '\u0307' (by decide))
    · exact toNat_lt_of_lowercased (h _ (List.mem_singleton_self _))

/-- Letters that come from ASCII letters only come from ASCII letters. -/
theorem toNat_lt_of_lowercaseBehind {before : Text}
    (h : ∀ d ∈ lowercaseBehind before t, d ∈ asciiOnly) : ∀ c ∈ t, c.toNat < 128 := by
  induction t generalizing before with
  | nil => exact List.forall_mem_nil _
  | cons c rest ih =>
      rcases List.forall_mem_append.1 h with ⟨hfirst, hrest⟩
      exact List.forall_mem_cons.2 ⟨toNat_lt_of_lowercaseAt hfirst, ih hrest⟩

/-- For a word of such letters, small letters are the same as small ASCII letters. -/
theorem lowercase_eq_iff {word : Text} (hword : ∀ d ∈ word, d ∈ asciiOnly) :
    lowercase t = word ↔ t.map Char.toLower = word := by
  constructor
  · rintro rfl
    exact (lowercase_of_ascii (toNat_lt_of_lowercaseBehind hword)).symm
  · rintro rfl
    apply lowercase_of_ascii
    intro c hc
    by_cases hcapital : c.val ≥ 'A'.val ∧ c.val ≤ 'Z'.val
    · have hlast : c.val.toNat ≤ 'Z'.val.toNat := UInt32.le_iff_toNat_le.1 hcapital.2
      exact Nat.lt_of_le_of_lt hlast (by decide)
    · have hlower : c.toLower = c := dif_neg hcapital
      have hmem := hword _ (List.mem_map_of_mem hc)
      rw [hlower] at hmem
      exact toNat_lt_of_mem_asciiOnly c hmem

end Text

end TextHygiene
