import TextHygiene.Pattern
import TextHygiene.Text.Utf8

/-!
# Plain patterns

A pattern without signs is searched for as it is written.  Reading it as a regular expression would
come to the same: a character that is no sign stands for itself, characters in a row are a word, and
a word is found where it occurs.  Only the size makes a difference: an expression that is too large
is refused, while a plain text may have any length.
-/

namespace TextHygiene

namespace Regex

/-! ## Reading -/

namespace Parser

/-- A character that is no sign stands for itself. -/
theorem State.step_of_not_sign {c : Char} (h : c ∉ Pattern.signs) (state : State) (rest : Text) :
    state.step c rest = some ({ state with run := state.run.push (.char c) }, rest) := by
  rw [State.step.eq_def]
  split
  case h_13 => rfl
  -- every other branch is about a sign
  all_goals exact absurd (by decide) h

theorem foldl_push (pieces : List Expr) (run : Run) :
    pieces.foldl Run.push run = { run with pieces := pieces.reverse ++ run.pieces } := by
  induction pieces generalizing run with
  | nil => rfl
  | cons piece rest ih =>
      rw [List.foldl_cons, ih, List.reverse_cons, List.append_assoc]
      rfl

/-- Without signs no group is ever open and no flag is ever set, so only the run of pieces grows. -/
theorem State.read_of_not_sign {t : Text} {fuel : Nat} {run : Run} (hfuel : t.length < fuel)
    (h : ∀ c ∈ t, c ∉ Pattern.signs) :
    State.read fuel { run } t = some { run := (t.map Expr.char).foldl Run.push run } := by
  induction t generalizing fuel run with
  | nil =>
      cases fuel with
      | zero => cases hfuel
      | succ fuel => rfl
  | cons c rest ih =>
      cases fuel with
      | zero => cases hfuel
      | succ fuel =>
          rcases List.forall_mem_cons.1 h with ⟨hc, hrest⟩
          -- outside the verbose mode nothing is passed over
          have hskip : Reader.skip false (c :: rest) = c :: rest := rfl
          rw [State.read, hskip]
          simp only [State.step_of_not_sign hc]
          exact ih (Nat.lt_of_succ_lt_succ hfuel) hrest

end Parser

/-- The written form of a word: its characters in a row. -/
def Expr.ofWord (word : Text) : Expr :=
  .seqAll (word.map .char)

theorem Expr.ofWord_cons_cons (c d : Char) (rest : Text) :
    ofWord (c :: d :: rest) = .seq (.char c) (ofWord (d :: rest)) :=
  rfl

/-- Without signs a text is read as the word that it is. -/
theorem parse?_of_not_sign {t : Text} (h : ∀ c ∈ t, c ∉ Pattern.signs) :
    Expr.parse? t = some (.ofWord t) := by
  rw [Expr.parse?, Parser.State.read_of_not_sign (Nat.lt_succ_self t.length) h,
    Parser.foldl_push]
  simp [Parser.Run.close, Expr.altAll, Expr.ofWord]

/-! ## Meaning -/

theorem meanings?_char (c : Char) : Expr.meanings? {} (.char c) = some ([.literal [c]], {}) := by
  have hcharacter : Expr.character? {} false c =
      some (ofMembers (Unicode.Intervals.single c)) := rfl
  rw [Expr.meanings?, hcharacter, ofMembers_single]
  rfl

theorem meanings?_ofWord {word : Text} (h : word ≠ []) :
    Expr.meanings? {} (.ofWord word) = some ([.literal word], {}) := by
  induction word with
  | nil => exact absurd rfl h
  | cons c rest ih =>
      cases rest with
      | nil => exact meanings?_char c
      | cons d rest =>
          rw [Expr.ofWord_cons_cons, Expr.meanings?, meanings?_char]
          simp only [bind, Option.bind_some]
          rw [ih (List.cons_ne_nil d rest)]
          rfl

/-- Characters in a row mean a word. -/
theorem meaning?_ofWord {word : Text} (h : word ≠ []) :
    (Expr.ofWord word).meaning? = some (.literal word) := by
  rw [Expr.meaning?, meanings?_ofWord h]
  rfl

/-! ## Matching -/

/-- A word is found exactly where it occurs. -/
theorem isMatch_literal_iff {word t : Text} : (literal word).isMatch t = true ↔ word <:+: t := by
  have hplaces : (literal word).isMatch t = true ↔
      ∃ place < t.length + 1, word <+: t.drop place := by
    simp [isMatch, advance]
  rw [hplaces]
  constructor
  · rintro ⟨place, _, hword⟩
    exact hword.isInfix.trans (List.drop_suffix place t).isInfix
  · rintro ⟨before, after, rfl⟩
    have hplace : before.length < (before ++ word ++ after).length + 1 := by
      rw [List.length_append, List.length_append]
      omega
    refine ⟨before.length, hplace, after, ?_⟩
    rw [List.append_assoc, List.drop_left]

/-! ## Size -/

/-- A word is nested once at most. -/
theorem depth_ofWord_le (word : Text) : (Expr.ofWord word).depth .other ≤ depthLimit := by
  -- within a sequence a further character adds no level
  have hinner : ∀ word, (Expr.ofWord word).depth .sequence = 0 := by
    intro word
    induction word with
    | nil => rfl
    | cons c rest ih =>
        cases rest with
        | nil => rfl
        | cons d rest =>
            rw [Expr.ofWord_cons_cons, Expr.depth, ih]
            rfl
  match word with
  | [] => exact Nat.zero_le depthLimit
  | [c] => exact Nat.zero_le depthLimit
  | c :: d :: rest =>
      have hchar : (Expr.char c).depth .sequence = 0 := rfl
      rw [Expr.ofWord_cons_cons, Expr.depth, hinner, hchar]
      decide

namespace Automaton

variable {t u : Tally} {first second part : Part} {s l s' l' : Nat} {lists lists' : Bool}

/-- A part adds a fixed number of states and of bytes in lists, as far as the limit allows, and its
end lists its edges or not. -/
def Part.Adds (part : Part) (states listed : Nat) (lists : Bool) : Prop :=
  ∀ t u ends, part t = some (u, ends) ↔
    (u = ⟨t.states + states, t.listed + listed⟩ ∧ u.size ≤ sizeLimit) ∧ ends = lists

/-- Counting fails exactly beyond the limit. -/
theorem Tally.add_eq_some_iff :
    t.add s l = some u ↔ u = ⟨t.states + s, t.listed + l⟩ ∧ u.size ≤ sizeLimit := by
  rw [add, Option.ite_none_right_eq_some, Option.some.injEq]
  constructor
  · rintro ⟨hfits, rfl⟩
    exact ⟨rfl, hfits⟩
  · rintro ⟨rfl, hfits⟩
    exact ⟨hfits, rfl⟩

/-- An edge takes room if there is a list for it. -/
theorem Tally.leave_eq_some_iff (h : t.size ≤ sizeLimit) :
    t.leave lists = some u ↔
      u = ⟨t.states, t.listed + if lists then jumpSize else 0⟩ ∧ u.size ≤ sizeLimit := by
  cases lists with
  | true => exact add_eq_some_iff
  | false =>
      rw [leave, if_neg Bool.false_ne_true, if_neg Bool.false_ne_true, Option.some.injEq]
      constructor
      · rintro rfl
        exact ⟨rfl, h⟩
      · rintro ⟨rfl, _⟩
        rfl

/-- What is counted on top of a tally that is too large already is too large. -/
theorem Tally.size_le_of_add (h : size ⟨t.states + s, t.listed + l⟩ ≤ sizeLimit) :
    t.size ≤ sizeLimit := by
  simp only [size, stateSize] at h ⊢
  omega

theorem Part.adds_of_add (h : part = fun t => (t.add s l).map (·, lists)) :
    part.Adds s l lists := by
  intro t u ends
  simp only [h, Option.map_eq_some_iff, Tally.add_eq_some_iff, Prod.mk.injEq]
  constructor
  · rintro ⟨v, hv, rfl, rfl⟩
    exact ⟨hv, rfl⟩
  · rintro ⟨hu, rfl⟩
    exact ⟨u, hu, rfl, rfl⟩

theorem Part.adds_row (states listed : Nat) : (row states listed).Adds states listed false := by
  apply adds_of_add
  funext t
  rw [row, Option.map_eq_bind]
  rfl

theorem adds_searchPart : Part.Adds searchPart 3 (edgeSize + jumpSize) true := by
  apply Part.adds_of_add
  funext t
  rw [searchPart, Option.map_eq_bind]
  rfl

/-- Two parts one behind the other add what both add, and an edge between them. -/
theorem Part.Adds.andThen (h : first.Adds s l lists) (h' : second.Adds s' l' lists') :
    (first.andThen second).Adds (s + s') (l + (l' + if lists then jumpSize else 0)) lists' := by
  intro t u ends
  simp only [Part.andThen, bind, pure, Option.bind_eq_some_iff, Prod.exists, Option.some.injEq,
    Prod.mk.injEq]
  constructor
  · rintro ⟨v, ends', hv, w, ends'', hw, x, hx, rfl, rfl⟩
    rcases (h t v ends').1 hv with ⟨⟨rfl, _⟩, rfl⟩
    rcases (h' _ w ends'').1 hw with ⟨⟨rfl, hfits⟩, rfl⟩
    rcases (Tally.leave_eq_some_iff hfits).1 hx with ⟨rfl, hfits⟩
    refine ⟨⟨?_, hfits⟩, rfl⟩
    simp only [Nat.add_assoc]
  · rintro ⟨⟨rfl, hfits⟩, rfl⟩
    simp only [← Nat.add_assoc] at hfits ⊢
    -- what stays within the limit in the end has stayed there all along
    have hbehind : Tally.size ⟨t.states + s + s', t.listed + l + l'⟩ ≤ sizeLimit :=
      Tally.size_le_of_add (s := 0) hfits
    have hfront : Tally.size ⟨t.states + s, t.listed + l⟩ ≤ sizeLimit :=
      Tally.size_le_of_add hbehind
    exact ⟨_, _, (h t _ _).2 ⟨⟨rfl, hfront⟩, rfl⟩, _, _, (h' _ _ _).2 ⟨⟨rfl, hbehind⟩, rfl⟩, _,
      (Tally.leave_eq_some_iff hbehind).2 ⟨rfl, hfits⟩, rfl, rfl⟩

/-- A part that adds a fixed size fits if that size is within the limit. -/
theorem Part.Adds.isSome_iff (h : part.Adds s l lists) :
    (part {}).isSome = true ↔ s * stateSize + l ≤ sizeLimit := by
  have hsize :
      Tally.size ⟨({} : Tally).states + s, ({} : Tally).listed + l⟩ = s * stateSize + l := by
    simp [Tally.size]
  rw [Option.isSome_iff_exists, Prod.exists, ← hsize]
  constructor
  · rintro ⟨u, ends, hu⟩
    rcases (h {} u ends).1 hu with ⟨⟨rfl, hfits⟩, _⟩
    exact hfits
  · intro hfits
    exact ⟨_, _, (h {} _ _).2 ⟨⟨rfl, hfits⟩, rfl⟩⟩

/-- The bytes that an automaton follows for a text are its bytes. -/
theorem length_bytesOfText (t : Text) : (bytesOfText t).length = (Utf8.encode t).length := by
  have hchar : ∀ c : Char, (bytesOf c.toNat).length = (Utf8.encodeChar c).length := by
    intro c
    rw [bytesOf, Utf8.encodeChar]
    split
    · rfl
    · split
      · rfl
      · split
        · rfl
        · rfl
  simp only [bytesOfText, Utf8.encode, List.length_flatMap, hchar]

end Automaton

/-- The bytes of the longest word whose automata stay within the limit. -/
def longestWord : Nat :=
  327673

open Automaton in
/-- The automata for a word are within the limit exactly up to the longest word. -/
theorem fits_literal_iff {word : Text} :
    (literal word).fits = true ↔ (Utf8.encode word).length ≤ longestWord := by
  have hword : ∀ direction : Direction,
      Part.Adds (whole direction (literal word) (branchParts direction (literal word)))
        (Utf8.encode word).length 0 false := by
    intro direction
    have hlength : (direction.bytes word).length = (Utf8.encode word).length := by
      rw [← length_bytesOfText]
      cases direction with
      | forward => rfl
      | backward => exact List.length_reverse
    rw [← hlength]
    exact Part.adds_row _ 0
  have hsingle : Part.single.Adds 1 0 false := Part.adds_row 1 0
  -- the automaton that reads forwards has two states more, so it decides
  have hforward : (automaton .forward (literal word) {}).isSome = true ↔ _ :=
    (adds_searchPart.andThen
      ((hsingle.andThen ((hword .forward).andThen hsingle)).andThen hsingle)).isSome_iff
  have hbackward : (automaton .backward (literal word) {}).isSome = true ↔ _ :=
    (adds_searchPart.andThen ((hword .backward).andThen hsingle)).isSome_iff
  rw [fits, Bool.and_eq_true, hforward, hbackward]
  simp only [stateSize, sizeLimit, edgeSize, jumpSize, longestWord, if_true, Bool.false_eq_true,
    if_false]
  omega

/-- A text without signs is refused as an expression for nothing but its size. -/
theorem compile?_of_not_sign {t : Text} (hne : t ≠ []) (h : ∀ c ∈ t, c ∉ Pattern.signs) :
    compile? t =
      if (Utf8.encode t).length ≤ longestWord then some (.literal t) else none := by
  simp only [compile?, parse?_of_not_sign h, meaning?_ofWord hne, bind, Option.bind_some,
    Bool.and_eq_true, decide_eq_true_eq, depth_ofWord_le, true_and, fits_literal_iff]

end Regex

/-! ## Patterns -/

namespace Pattern

variable {pattern : Text}

theorem hasSign_eq_false_iff {body : Text} : hasSign body = false ↔ ∀ c ∈ body, c ∉ signs := by
  simp [hasSign]

/-- A pattern without slashes stands for itself. -/
theorem stripped_of_not_slash (h : '/' ∉ pattern) : stripped pattern = pattern := by
  rw [stripped]
  cases hslash : Text.after? ['/'] pattern with
  | none => rfl
  | some rest =>
      have hpattern : pattern = '/' :: rest := Text.after?_eq_some_iff.1 hslash
      exact absurd (hpattern ▸ List.mem_cons_self) h

/-- A pattern without signs is taken for plain text, whatever its length. -/
theorem compile_of_not_sign (hne : stripped pattern ≠ [])
    (hplain : ∀ c ∈ stripped pattern, c ∉ signs) :
    compile pattern = .ok (.literal (stripped pattern)) := by
  rw [compile, hasSign_eq_false_iff.2 hplain]
  simp [hne]

/-- A pattern without signs is found exactly where it occurs.  Read as a regular expression it is
well formed, means a search for the same text and is nested little, so that its size alone decides.
Up to the longest word it passes and hits the same paths, so that taking it for plain text changes
nothing; beyond it is refused, while as plain text it may be as long as it likes. -/
theorem compile_plain (hne : stripped pattern ≠ [])
    (hplain : ∀ c ∈ stripped pattern, c ∉ signs) :
    compile pattern = .ok (.literal (stripped pattern)) ∧
      (∀ path, (literal (stripped pattern)).hits path = true ↔ stripped pattern <:+: path) ∧
      ∃ written expression, Regex.Expr.parse? (stripped pattern) = some written ∧
        written.meaning? = some expression ∧ written.depth .other ≤ Regex.depthLimit ∧
        (∀ path, (literal (stripped pattern)).hits path = true ↔
          expression.isMatch path = true) ∧
        Regex.compile? (stripped pattern) =
          if (Utf8.encode (stripped pattern)).length ≤ Regex.longestWord then some expression
          else none := by
  refine ⟨compile_of_not_sign hne hplain, fun path => Text.occurs_iff_infix,
    .ofWord (stripped pattern), .literal (stripped pattern), Regex.parse?_of_not_sign hplain,
    Regex.meaning?_ofWord hne, Regex.depth_ofWord_le _, fun path => ?_,
    Regex.compile?_of_not_sign hne hplain⟩
  rw [Regex.isMatch_literal_iff]
  exact Text.occurs_iff_infix

/-- A body between slashes, with signs that mean something in a class or with blanks passed over but
nothing on their own. -/
theorem compile_plain_delimited :
    compile "/a-z && ~#é:/".toList = .ok (.literal "a-z && ~#é:".toList) ∧
      ∃ expression, Regex.compile? "a-z && ~#é:".toList = some expression ∧
        expression.isMatch "src/a-z && ~#é:/x.py".toList = true ∧
        expression.isMatch "src/b && #é:.py".toList = false := by
  have hbody : stripped "/a-z && ~#é:/".toList = "a-z && ~#é:".toList := by
    decide
  have hne : stripped "/a-z && ~#é:/".toList ≠ [] := by
    decide
  have hplain : ∀ c ∈ stripped "/a-z && ~#é:/".toList, c ∉ signs :=
    hasSign_eq_false_iff.1 (by decide)
  have hsmall : (Utf8.encode "a-z && ~#é:".toList).length ≤ Regex.longestWord := by
    decide
  rcases compile_plain hne hplain with ⟨hcompile, _, _, expression, _, _, _, hmatch, hsize⟩
  rw [hbody] at hcompile hmatch hsize
  rw [if_pos hsmall] at hsize
  refine ⟨hcompile, expression, hsize, (hmatch _).1 (by decide), ?_⟩
  rw [Bool.eq_false_iff, Ne, ← hmatch]
  decide

/-- A row of one letter, one byte longer than the longest word. -/
def overlong : Text :=
  List.replicate 327674 'a'

/-- A pattern without signs that hits paths as plain text and is no expression at all. -/
theorem compile_overlong :
    stripped overlong ≠ [] ∧ (∀ c ∈ stripped overlong, c ∉ signs) ∧
      compile overlong = .ok (.literal (stripped overlong)) ∧
      (literal (stripped overlong)).hits overlong = true ∧
      Regex.compile? (stripped overlong) = none := by
  have hletter : ∀ c ∈ overlong, c = 'a' := fun c => List.eq_of_mem_replicate
  have hlength : overlong.length = 327674 := List.length_replicate
  have hsize : (Utf8.encode overlong).length = 327674 := by
    have hchar : (Utf8.encodeChar 'a').length = 1 := rfl
    rw [Utf8.encode, overlong, List.length_flatMap, List.map_replicate, List.sum_replicate_nat,
      hchar]
  have hslash : '/' ∉ overlong := fun h => absurd (hletter _ h) (by decide)
  have hplain : ∀ c ∈ overlong, c ∉ signs := by
    intro c hc
    rw [hletter c hc]
    decide
  have hne : overlong ≠ [] := by
    rw [← List.length_pos_iff, hlength]
    decide
  have hbody : stripped overlong = overlong := stripped_of_not_slash hslash
  have hcompile := compile_of_not_sign (hbody.symm ▸ hne) (hbody.symm ▸ hplain)
  rw [hbody] at hcompile ⊢
  refine ⟨hne, hplain, hcompile, Text.occurs_iff_infix.2 (List.infix_refl _), ?_⟩
  -- one byte too many for the automata
  rw [Regex.compile?_of_not_sign hne hplain, hsize]
  exact if_neg (by decide)

end Pattern

end TextHygiene
