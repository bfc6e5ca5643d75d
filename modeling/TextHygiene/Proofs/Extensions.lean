import TextHygiene.Proofs.Trimming
import TextHygiene.Proofs.Unordered

/-!
# Extensions in normal form

Extensions are put into a list as they come up, each once and without what does not belong to it.
White space goes first and dots after it, both once only, so that white space which stands behind
the dots stays.  Unless a text that is given has such white space the list is in normal form, and
putting it into normal form again changes nothing; and in no other case.
-/

namespace TextHygiene

variable {raws extensions : List Text} {raw e : Text}

/-! ## What a text stands for -/

/-- A text stands for an extension: for what is left of it without the white space at both ends and
without the dots that come first then. -/
def StandsFor (raw e : Text) : Prop :=
  ∃ front dots back, raw = front ++ (dots ++ e) ++ back ∧ (∀ c ∈ front, isBlank c = true) ∧
    (∀ c ∈ dots, c = '.') ∧ (∀ c ∈ back, isBlank c = true) ∧ Text.Bare (dots ++ e) ∧
      e.head? ≠ some '.'

/-- White space stands between the leading dots of a text and what it stands for otherwise. -/
def BlankBehindDots (raw : Text) : Prop :=
  ∃ c rest, StandsFor raw (c :: rest) ∧ isBlank c = true

/-- An extension in normal form. -/
structure IsExtension (e : Text) : Prop where
  nonempty : e ≠ []
  bare : Text.Bare e
  noDot : e.head? ≠ some '.'

/-- Some text stands for `a`, and neither this text nor one in front of it stands for `b`. -/
def ComesUpBefore (raws : List Text) (a b : Text) : Prop :=
  ∃ before raw after, raws = before ++ raw :: after ∧ StandsFor raw a ∧
    ∀ other ∈ before ++ [raw], ¬ StandsFor other b

theorem dropWhile_dots {dots : Text} (hdots : ∀ c ∈ dots, c = '.') (he : e.head? ≠ some '.') :
    (dots ++ e).dropWhile (· == '.') = e := by
  rw [List.dropWhile_append_of_pos fun c hc => beq_iff_eq.2 (hdots c hc)]
  cases e with
  | nil => rfl
  | cons c rest =>
      have hc : ¬ (c == '.') = true := by simpa using he
      exact List.dropWhile_cons_of_neg hc

/-- What a text stands for is what is left of it when it is made bare. -/
theorem standsFor_iff : StandsFor raw e ↔ bareExtension raw = e := by
  constructor
  · rintro ⟨front, dots, back, rfl, hfront, hdots, hback, hbare, he⟩
    rw [bareExtension, hbare.trim_eq hfront hback, dropWhile_dots hdots he]
  · rintro rfl
    -- the parts are the blanks that trimming takes off and the dots in front
    rcases Text.exists_eq_trim_between raw with ⟨front, back, heq, hfront, hback⟩
    have hparts : (Text.trim raw).takeWhile (· == '.') ++ bareExtension raw = Text.trim raw :=
      List.takeWhile_append_dropWhile
    refine ⟨front, (Text.trim raw).takeWhile (· == '.'), back, ?_, hfront, ?_, hback, ?_, ?_⟩
    · rw [hparts]
      exact heq
    · intro c hc
      have hdot : (c == '.') = true := List.mem_takeWhile_imp (p := (· == '.')) hc
      exact beq_iff_eq.1 hdot
    · rw [hparts]
      exact Text.bare_trim raw
    · intro hdot
      have hhead := List.head?_dropWhile_not (· == '.') (Text.trim raw)
      rw [bareExtension] at hdot
      simp [hdot] at hhead

/-- There is white space behind the dots of a text exactly if its bare form starts with white space.
-/
theorem blankBehindDots_iff :
    BlankBehindDots raw ↔ (bareExtension raw).head?.any isBlank = true := by
  simp only [BlankBehindDots, standsFor_iff, Option.any_eq_true, List.head?_eq_some_iff]
  constructor
  · rintro ⟨c, rest, heq, hblank⟩
    exact ⟨c, ⟨rest, heq⟩, hblank⟩
  · rintro ⟨c, ⟨rest, heq⟩, hblank⟩
    exact ⟨c, rest, heq, hblank⟩

theorem StandsFor.noDot (h : StandsFor raw e) : e.head? ≠ some '.' := by
  rcases h with ⟨_, _, _, _, _, _, _, _, he⟩
  exact he

theorem StandsFor.stop (h : StandsFor raw e) : ∀ c, e.getLast? = some c → isBlank c = false := by
  rcases h with ⟨_, dots, _, _, _, _, _, hbare, _⟩
  intro c hc
  apply hbare.stop
  rw [List.getLast?_append, hc]
  rfl

/-- What a text stands for is in normal form unless it starts with white space. -/
theorem StandsFor.isExtension_iff (h : StandsFor raw e) (hne : e ≠ []) :
    IsExtension e ↔ ¬ BlankBehindDots raw := by
  constructor
  · rintro hnormal ⟨c, rest, hraw, hblank⟩
    have heq : e = c :: rest := (standsFor_iff.1 h).symm.trans (standsFor_iff.1 hraw)
    rw [hnormal.bare.start c (by rw [heq]; rfl)] at hblank
    cases hblank
  · intro hnot
    refine ⟨hne, ⟨?_, h.stop⟩, h.noDot⟩
    intro c hc
    rw [Bool.eq_false_iff]
    intro hblank
    rcases List.head?_eq_some_iff.1 hc with ⟨rest, rfl⟩
    exact hnot ⟨c, rest, h, hblank⟩

/-- An extension in normal form stands for itself, and no other does. -/
theorem bareExtension_eq_self_iff (hdot : e.head? ≠ some '.') :
    bareExtension e = e ↔ Text.Bare e := by
  constructor
  · intro h
    -- both passes only take away, so neither takes anything
    have hlength : (bareExtension e).length ≤ (Text.trim e).length :=
      (List.dropWhile_suffix (· == '.')).length_le
    rw [h] at hlength
    rcases Text.exists_eq_trim_between e with ⟨front, back, heq, _⟩
    have hsublist : (Text.trim e).Sublist e := by
      conv => rhs; rw [heq]
      exact (List.sublist_append_right front _).trans (List.sublist_append_left _ back)
    exact Text.trim_eq_self_iff.1 (hsublist.eq_of_length_le hlength)
  · intro hbare
    rw [bareExtension, Text.trim_eq_self_iff.2 hbare]
    have hnone : ∀ c ∈ ([] : Text), c = '.' := nofun
    exact dropWhile_dots hnone hdot

/-! ## The order of extensions -/

theorem ComesUpBefore.ne {a b : Text} (h : ComesUpBefore raws a b) : a ≠ b := by
  rcases h with ⟨before, raw, after, _, hraw, hnot⟩
  rintro rfl
  exact hnot raw (by simp) hraw

theorem ComesUpBefore.concat {a b : Text} (h : ComesUpBefore raws a b) (raw : Text) :
    ComesUpBefore (raws ++ [raw]) a b := by
  rcases h with ⟨before, first, after, rfl, hfirst, hnot⟩
  exact ⟨before, first, after ++ [raw], by simp, hfirst, hnot⟩

/-- Extensions come in the order in which they first came up. -/
theorem pairwise_foldl_addExtension (raws : List Text) :
    (raws.foldl addExtension []).Pairwise (ComesUpBefore raws) := by
  induction raws using List.reverseRecOn with
  | nil => exact List.Pairwise.nil
  | append_singleton raws raw ih =>
      have hold : (raws.foldl addExtension []).Pairwise (ComesUpBefore (raws ++ [raw])) :=
        ih.imp fun h => h.concat raw
      rw [List.foldl_append, List.foldl_cons, List.foldl_nil, addExtension]
      split
      · exact hold
      · next hnew =>
          rw [Bool.or_eq_true, not_or, List.isEmpty_iff, List.contains_iff_mem] at hnew
          refine List.pairwise_append.2 ⟨hold, List.pairwise_singleton _ _, ?_⟩
          intro a ha b hb
          cases List.mem_singleton.1 hb
          -- no text in front stands for the new extension, which would be in the list then
          have hfirst : ∀ other ∈ raws, ¬ StandsFor other (bareExtension raw) := by
            intro other hother hstands
            exact hnew.2 (mem_foldl_addExtension_iff.2
              (Or.inr ⟨hnew.1, other, hother, standsFor_iff.1 hstands⟩))
          rcases mem_foldl_addExtension_iff.1 ha with hnil | ⟨_, first, hmem, hbare⟩
          · cases hnil
          · rcases List.append_of_mem hmem with ⟨before, after, rfl⟩
            refine ⟨before, first, after ++ [raw], by simp, standsFor_iff.2 hbare, ?_⟩
            intro other hother
            apply hfirst
            rcases List.mem_append.1 hother with hbefore | hlast
            · exact List.mem_append_left _ hbefore
            · exact List.mem_append_right _ (List.mem_cons.2 (Or.inl (List.mem_singleton.1 hlast)))

/-! ## Normal form -/

/-- A list of extensions is some of those that the texts stand for, in their order. -/
theorem foldl_addExtension_sublist (raws extensions : List Text) :
    (raws.foldl addExtension extensions).Sublist (extensions ++ raws.map bareExtension) := by
  induction raws generalizing extensions with
  | nil => simp
  | cons raw rest ih =>
      refine (ih (addExtension extensions raw)).trans ?_
      have hadded : (addExtension extensions raw).Sublist (extensions ++ [bareExtension raw]) := by
        rw [addExtension]
        split
        · exact List.sublist_append_left _ _
        · exact List.Sublist.refl _
      simpa using hadded.append_right (rest.map bareExtension)

/-- Different extensions that stand for themselves are kept as they are. -/
theorem foldl_addExtension_eq_append {more : List Text} (hnodup : (extensions ++ more).Nodup)
    (hmore : ∀ e ∈ more, e ≠ [] ∧ bareExtension e = e) :
    more.foldl addExtension extensions = extensions ++ more := by
  induction more generalizing extensions with
  | nil => simp
  | cons e rest ih =>
      rcases List.forall_mem_cons.1 hmore with ⟨⟨hne, hself⟩, hrest⟩
      have hnot : e ∉ extensions := by
        intro hmem
        exact (List.nodup_append.1 hnodup).2.2 e hmem e List.mem_cons_self rfl
      have hadded : addExtension extensions e = extensions ++ [e] := by
        simp [addExtension, hself, hne, hnot]
      have hcons : extensions ++ e :: rest = extensions ++ [e] ++ rest := by simp
      rw [hcons] at hnodup ⊢
      rw [List.foldl_cons, hadded, ih hnodup hrest]

/-- Extensions that differ and are not empty stay as they are exactly if each is bare. -/
theorem normalizeExtensions_eq_self_iff (hne : extensions ≠ []) (hnodup : extensions.Nodup)
    (hempty : [] ∉ extensions) :
    normalizeExtensions extensions = .ok extensions ↔ ∀ e ∈ extensions, bareExtension e = e := by
  rw [normalizeExtensions_eq_ok_iff]
  constructor
  · rintro ⟨hfold, _⟩
    have hsublist := foldl_addExtension_sublist extensions []
    rw [hfold, List.nil_append] at hsublist
    -- nothing was dropped, so the bare forms are the extensions in their order
    have hmap : extensions.map id = extensions.map bareExtension := by
      rw [List.map_id]
      exact hsublist.eq_of_length (by simp)
    intro e he
    exact (List.map_inj_left.1 hmap e he).symm
  · intro hself
    refine ⟨?_, hne⟩
    exact foldl_addExtension_eq_append hnodup fun e he =>
      ⟨fun hnil => hempty (hnil ▸ he), hself e he⟩

/-- All extensions are in normal form exactly if no text has white space behind its dots. -/
theorem forall_isExtension_iff (h : normalizeExtensions raws = .ok extensions) :
    (∀ e ∈ extensions, IsExtension e) ↔ ∀ raw ∈ raws, ¬ BlankBehindDots raw := by
  constructor
  · rintro hnormal raw hraw ⟨c, rest, hstands, hblank⟩
    have hne : c :: rest ≠ [] := List.cons_ne_nil c rest
    have hmem : c :: rest ∈ extensions :=
      (mem_of_normalizeExtensions h).2 ⟨hne, raw, hraw, standsFor_iff.1 hstands⟩
    exact (hstands.isExtension_iff hne).1 (hnormal _ hmem) ⟨c, rest, hstands, hblank⟩
  · intro hnot e he
    rcases (mem_of_normalizeExtensions h).1 he with ⟨hne, raw, hraw, hbare⟩
    exact ((standsFor_iff.2 hbare).isExtension_iff hne).2 (hnot raw hraw)

/-- Of the texts that are given, either none stands for anything, and then no extension is left; or
those that do make a list of different extensions in the order in which they come up.  None of these
is empty, starts with a dot or ends with white space.  All of them are in normal form exactly if no
text has white space behind its leading dots, and exactly then the list stays as it is when it is
given again. -/
theorem normalizeExtensions_exact (raws : List Text) :
    (normalizeExtensions raws = .error .noExtension ∧ ∀ raw ∈ raws, StandsFor raw []) ∨
      ∃ extensions, normalizeExtensions raws = .ok extensions ∧ extensions ≠ [] ∧
        extensions.Nodup ∧ extensions.Pairwise (ComesUpBefore raws) ∧
        (∀ e, e ∈ extensions ↔ e ≠ [] ∧ ∃ raw ∈ raws, StandsFor raw e) ∧
        (∀ e ∈ extensions, e.head? ≠ some '.' ∧ ∀ c, e.getLast? = some c → isBlank c = false) ∧
        ((∀ e ∈ extensions, IsExtension e) ↔ ∀ raw ∈ raws, ¬ BlankBehindDots raw) ∧
        (normalizeExtensions extensions = .ok extensions ↔
          ∀ raw ∈ raws, ¬ BlankBehindDots raw) := by
  by_cases hfold : raws.foldl addExtension [] = []
  · refine Or.inl ⟨by rw [normalizeExtensions, hfold], ?_⟩
    intro raw hraw
    exact standsFor_iff.2 ((foldl_addExtension_eq_nil_iff.1 hfold).2 raw hraw)
  · right
    have hok := normalizeExtensions_eq_ok_iff.2 ⟨rfl, hfold⟩
    have hmem : ∀ e, e ∈ raws.foldl addExtension [] ↔ e ≠ [] ∧ ∃ raw ∈ raws, StandsFor raw e := by
      intro e
      simp only [standsFor_iff]
      exact mem_of_normalizeExtensions hok
    have hpairwise := pairwise_foldl_addExtension raws
    have hnodup : (raws.foldl addExtension []).Nodup := hpairwise.imp fun h => h.ne
    have hends : ∀ e ∈ raws.foldl addExtension [],
        e.head? ≠ some '.' ∧ ∀ c, e.getLast? = some c → isBlank c = false := by
      intro e he
      rcases (hmem e).1 he with ⟨_, raw, _, hstands⟩
      exact ⟨hstands.noDot, hstands.stop⟩
    refine ⟨_, hok, hfold, hnodup, hpairwise, hmem, hends, forall_isExtension_iff hok, ?_⟩
    -- that nothing changes a second time is a matter of each extension alone
    have hempty : [] ∉ raws.foldl addExtension [] := fun hnil => ((hmem []).1 hnil).1 rfl
    rw [← forall_isExtension_iff hok, normalizeExtensions_eq_self_iff hfold hnodup hempty]
    refine forall₂_congr fun e he => ?_
    rw [bareExtension_eq_self_iff (hends e he).1]
    exact ⟨fun hbare => ⟨((hmem e).1 he).1, hbare, (hends e he).1⟩, fun h => h.bare⟩

/-- White space of three kinds, rows of dots, a dot inside, texts that stand for nothing, and an
extension that comes up three times. -/
def manySpellings : List Text :=
  [" . ".toList, "\u3000..py".toList, "tar.gz\t".toList, [], ".py".toList, "py\u00a0".toList]

/-- Without white space behind dots the extensions come out in normal form, and stay as they are. -/
theorem normalizeExtensions_exact_manySpellings :
    (∀ raw ∈ manySpellings, ¬ BlankBehindDots raw) ∧
      normalizeExtensions manySpellings = .ok ["py".toList, "tar.gz".toList] ∧
      (∀ e ∈ ["py".toList, "tar.gz".toList], IsExtension e) ∧
      normalizeExtensions ["py".toList, "tar.gz".toList] =
        .ok ["py".toList, "tar.gz".toList] := by
  have hnot : ∀ raw ∈ manySpellings, ¬ BlankBehindDots raw := by
    simp only [blankBehindDots_iff]
    decide +kernel
  have hlist : normalizeExtensions manySpellings = .ok ["py".toList, "tar.gz".toList] := by
    decide +kernel
  rcases normalizeExtensions_exact manySpellings with
    ⟨herror, _⟩ | ⟨extensions, hok, _, _, _, _, _, hnormal, hagain⟩
  · rw [hlist] at herror
    cases herror
  · cases hok.symm.trans hlist
    exact ⟨hnot, hlist, hnormal.2 hnot, hagain.2 hnot⟩

/-- White space behind a dot stays at the front of an extension, which is another one when it is
given again. -/
theorem normalizeExtensions_keepsBlank :
    normalizeExtensions [". py".toList] = .ok [" py".toList] ∧ ¬ IsExtension " py".toList ∧
      normalizeExtensions [" py".toList] = .ok ["py".toList] := by
  refine ⟨by decide +kernel, ?_, by decide +kernel⟩
  intro h
  exact absurd (h.bare.start ' ' rfl) (by decide)

end TextHygiene
