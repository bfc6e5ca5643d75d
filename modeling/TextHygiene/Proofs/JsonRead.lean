import TextHygiene.Json.Reader
import TextHygiene.Proofs.Token

/-!
# Written JSON is read back

A value that is written is read as itself, whatever characters its strings hold and however deep its
arrays and objects go.  Reading cuts the written text into the tokens of the value: the line breaks
and blanks of the layout do not count, an escaped string gives the characters that were escaped, and
a number ends where no digit follows.  A stack machine that reads the tokens of a value puts the
value where one is wanted.
-/

namespace TextHygiene

namespace Json

/-! ## What is written -/

mutual

def value : Json → Value
  | .number n => .natural n
  | .string text => .string text
  | .array items => .array (values items)
  | .object fields => .object (members fields)

def values : List Json → List Value
  | [] => []
  | item :: items => item.value :: values items

def members : List (Text × Json) → List (Text × Value)
  | [] => []
  | (key, field) :: fields => (key, field.value) :: members fields

end

theorem values_eq_map (items : List Json) : values items = items.map value := by
  induction items with
  | nil => rfl
  | cons item items ih => rw [values, ih, List.map_cons]

mutual

def tokens : Json → List Token
  | .number n => [.word (.natural n)]
  | .string text => [.string text]
  | .array [] => [.openArray, .closeArray]
  | .array (item :: items) => .openArray :: tokens item ++ itemTokens items ++ [.closeArray]
  | .object [] => [.openObject, .closeObject]
  | .object ((key, field) :: fields) =>
      .openObject :: .string key :: .colon :: tokens field ++ fieldTokens fields ++ [.closeObject]

def itemTokens : List Json → List Token
  | [] => []
  | item :: items => .comma :: tokens item ++ itemTokens items

def fieldTokens : List (Text × Json) → List Token
  | [] => []
  | (key, field) :: fields =>
      .comma :: .string key :: .colon :: tokens field ++ fieldTokens fields

end

/-! ## Numbers -/

theorem head?_decimal_ne_zero {n : Nat} (h : 0 < n) : (Text.decimal n).head? ≠ some '0' := by
  induction n using Nat.strongRecOn with
  | ind n ih =>
      rw [Text.decimal]
      by_cases hsmall : n < 10
      · rw [Nat.toDigits_of_lt_base hsmall]
        have hdigit : ∀ d < 10, 0 < d → Nat.digitChar d ≠ '0' := by decide
        intro hzero
        exact hdigit n hsmall h (Option.some.inj hzero)
      · -- the first digit is that of a tenth of the number
        have hlarge : 10 ≤ n := Nat.not_lt.1 hsmall
        rw [Nat.toDigits_of_base_le (by decide) hlarge,
          List.head?_append_of_ne_nil _ Nat.toDigits_ne_nil]
        exact ih (n / 10) (Nat.div_lt_self h (by decide)) (Nat.div_pos hlarge (by decide))

/-- The digits of a number never start with a zero that does not belong there. -/
theorem wholePart?_decimal (n : Nat) :
    wholePart? (Text.decimal n) = some (Text.decimal n, []) := by
  have hdigits : ∀ c ∈ Text.decimal n, c.isDigit = true := fun _ => Text.isDigit_of_mem_decimal
  have hrun : digitRun? (Text.decimal n) = some (Text.decimal n, []) := by
    have hempty : (Text.decimal n).isEmpty = false :=
      List.isEmpty_eq_false_iff.2 (Text.isToken_decimal n).1
    rw [digitRun?, List.takeWhile_eq_self_iff.2 hdigits, List.dropWhile_eq_nil_iff.2 hdigits,
      hempty]
    rfl
  rw [wholePart?, hrun]
  refine Option.filter_some_pos ?_
  -- only zero starts with a zero
  rcases Nat.eq_zero_or_pos n with rfl | hpos
  · decide
  · simpa using Or.inl (head?_decimal_ne_zero hpos)

theorem numeral?_decimal (n : Nat) : numeral? (Text.decimal n) = some ⟨n, 0⟩ := by
  have hunsigned : unsigned? (Text.decimal n) = some ⟨n, 0⟩ := by
    simp [unsigned?, wholePart?_decimal, fractionPart?, exponentPart?, Text.digits?_decimal]
  rw [numeral?]
  · exact hunsigned
  · intro t ht
    exact (Text.isToken_decimal n).not_mem (by decide) (ht ▸ List.mem_cons_self)

/-- A number is read back from its digits. -/
theorem word?_decimal (n : Nat) : word? (Text.decimal n) = some (.natural n) := by
  have hne : ∀ t : Text, ∀ c ∈ t, c.isDigit = false → Text.decimal n ≠ t := by
    rintro t c hc hdigit rfl
    rw [Text.isDigit_of_mem_decimal hc] at hdigit
    cases hdigit
  rw [word?, if_neg (hne _ 'l' (by decide) rfl), if_neg (hne _ 't' (by decide) rfl),
    if_neg (hne _ 'f' (by decide) rfl), numeral?_decimal]
  rfl

/-! ## Strings -/

/-- Characters one by one make up the text. -/
theorem Piece.text?_map_char (t : Text) : text? (t.map char) = some t := by
  induction t with
  | nil => rfl
  | cons c rest ih => rw [List.map_cons, text?, ih, Option.map_some]

/-! ## Cutting a text into tokens -/

namespace Lexing

variable {state : Lexing} {c d : Char} {rest : Text} {pieces : List Piece}

theorem tokens?_cons (found : List Token) {next : Lexing}
    (h : state.step? c = some (found, next)) :
    state.tokens? (c :: rest) = (next.tokens? rest).map (found ++ ·) := by
  rw [tokens?, h]
  rfl

/-- A character that completes no token only changes the state. -/
theorem tokens?_cons_silent (next : Lexing) (h : state.step? c = some ([], next)) :
    state.tokens? (c :: rest) = next.tokens? rest := by
  rw [tokens?_cons [] h]
  exact Option.map_id_apply

theorem tokens?_punctuation {token : Token} (hspace : isSpace c = false) (hquote : c ≠ '\x22')
    (hword : isWordPart c = false) (h : punctuation? c = some token) :
    between.tokens? (c :: rest) = (between.tokens? rest).map (token :: ·) := by
  refine tokens?_cons [token] ?_
  simp [step?, start?, hspace, hquote, hword, h]

/-- Indentation is passed over between tokens. -/
theorem tokens?_indentation (level : Nat) :
    between.tokens? (indentation level ++ rest) = between.tokens? rest := by
  have hspaces : ∀ n, between.tokens? (List.replicate n ' ' ++ rest) = between.tokens? rest := by
    intro n
    induction n with
    | zero => rfl
    | succ n ih =>
        rw [List.replicate_succ, List.cons_append, tokens?_cons_silent between rfl, ih]
  rw [indentation, List.cons_append, tokens?_cons_silent between rfl, hspaces]

/-! ### Strings -/

theorem tokens?_unescape (h : unescape? d = some c) (hd : d ≠ 'u') :
    (string pieces).tokens? ('\\' :: d :: rest) = (string (pieces ++ [.char c])).tokens? rest := by
  rw [tokens?_cons_silent (escape pieces) rfl]
  refine tokens?_cons_silent _ ?_
  rw [step?, if_neg hd, h]
  rfl

/-- A control character is read from the two digits that it is written in. -/
theorem tokens?_hexPair {n : Nat} (h : n < 0x20) :
    (string pieces).tokens? ("\\u00".toList ++ Text.hexPair n ++ rest) =
      (string (pieces ++ [.char (Char.ofNat n)])).tokens? rest := by
  have hhigh := Text.hexDigit?_digitChar (n / 16) (by omega)
  have hlow := Text.hexDigit?_digitChar (n % 16) (by omega)
  -- the two zeros in front add nothing to the number of the character
  have hpiece : Piece.ofNumber (16 * (16 * (16 * (16 * 0 + 0) + 0) + n / 16) + n % 16) =
      .char (Char.ofNat n) := by
    have hn : 16 * (16 * (16 * (16 * 0 + 0) + 0) + n / 16) + n % 16 = n := by omega
    rw [hn]
    exact if_pos (Or.inl (by omega))
  -- the six characters are read one by one, and the last completes the piece
  change (string pieces).tokens?
    ('\\' :: 'u' :: '0' :: '0' :: Nat.digitChar (n / 16) :: Nat.digitChar (n % 16) :: rest) = _
  rw [tokens?_cons_silent (escape pieces) rfl,
    tokens?_cons_silent (number pieces 0 0) rfl,
    tokens?_cons_silent (number pieces 1 (16 * 0 + 0)) rfl,
    tokens?_cons_silent (number pieces 2 (16 * (16 * 0 + 0) + 0)) rfl,
    tokens?_cons_silent (number pieces 3 (16 * (16 * (16 * 0 + 0) + 0) + n / 16))
      (by rw [step?, hhigh]; rfl)]
  refine tokens?_cons_silent _ ?_
  rw [step?, hlow, ← hpiece]
  rfl

/-- A character of a string is read from the form that it is written in. -/
theorem tokens?_escapeChar :
    (string pieces).tokens? (escapeChar c ++ rest) =
      (string (pieces ++ [.char c])).tokens? rest := by
  rw [escapeChar]
  split_ifs with hquote hslash hback htab hline hfeed hreturn hcontrol
  · exact tokens?_unescape (by rw [hquote]; rfl) (by decide)
  · exact tokens?_unescape (by rw [hslash]; rfl) (by decide)
  · exact tokens?_unescape (by rw [hback]; rfl) (by decide)
  · exact tokens?_unescape (by rw [htab]; rfl) (by decide)
  · exact tokens?_unescape (by rw [hline]; rfl) (by decide)
  · exact tokens?_unescape (by rw [hfeed]; rfl) (by decide)
  · exact tokens?_unescape (by rw [hreturn]; rfl) (by decide)
  · rw [tokens?_hexPair hcontrol, Char.ofNat_toNat]
  · refine tokens?_cons_silent _ ?_
    rw [step?, if_neg hquote, if_neg hslash, if_neg hcontrol]

/-- Characters of a string are read back, escaped or not. -/
theorem tokens?_flatMap_escapeChar (text : Text) (pieces : List Piece) :
    (string pieces).tokens? (text.flatMap escapeChar ++ rest) =
      (string (pieces ++ text.map .char)).tokens? rest := by
  induction text generalizing pieces with
  | nil => rw [List.map_nil, List.append_nil, List.flatMap_nil, List.nil_append]
  | cons c text ih =>
      rw [List.flatMap_cons, List.append_assoc, tokens?_escapeChar, ih, List.append_assoc,
        List.map_cons, List.singleton_append]

/-- A string between quotation marks is one token. -/
theorem tokens?_quote (text : Text) :
    between.tokens? (quote text ++ rest) = (between.tokens? rest).map (.string text :: ·) := by
  rw [quote, List.cons_append, List.cons_append, tokens?_cons_silent (string []) rfl,
    List.append_assoc, tokens?_flatMap_escapeChar, List.nil_append]
  refine tokens?_cons [.string text] ?_
  rw [step?, if_pos rfl, Piece.text?_map_char]
  rfl

/-! ### Words -/

/-- No further character of a word follows. -/
def Ends (rest : Text) : Prop :=
  ∀ c ∈ rest.head?, isWordPart c = false

theorem step?_of_isWordPart (h : isWordPart c = true) : between.step? c = some ([], word [c]) := by
  have hspace : isSpace c = false := by
    rw [Bool.eq_false_iff]
    intro hspace
    simp only [isSpace, Bool.or_eq_true, beq_iff_eq] at hspace
    rcases hspace with ((rfl | rfl) | rfl) | rfl <;> cases h
  have hquote : c ≠ '\x22' := by
    rintro rfl
    cases h
  simp [step?, start?, hspace, hquote, h]

/-- Letters of a word are collected until the word ends. -/
theorem tokens?_letters {letters : Text} (h : ∀ c ∈ letters, isWordPart c = true)
    (before : Text) :
    (word before).tokens? (letters ++ rest) = (word (before ++ letters)).tokens? rest := by
  induction letters generalizing before with
  | nil => rw [List.append_nil, List.nil_append]
  | cons c letters ih =>
      rcases List.forall_mem_cons.1 h with ⟨hc, hletters⟩
      have hstep : (word before).step? c = some ([], word (before ++ [c])) := if_pos hc
      rw [List.cons_append, tokens?_cons_silent _ hstep, ih hletters, List.append_assoc,
        List.singleton_append]

/-- A word ends where no further letter of a word follows. -/
theorem tokens?_word {letters : Text} {v : Value} (hends : Ends rest)
    (h : word? letters = some v) :
    (word letters).tokens? rest = (between.tokens? rest).map (.word v :: ·) := by
  cases rest with
  | nil =>
      change (word? letters).map _ = _
      rw [h]
      rfl
  | cons c rest =>
      -- the character behind the word is read as if nothing stood in front of it
      have hstep : (word letters).step? c =
          (start? c).map fun started => (.word v :: started.1, started.2) := by
        rw [step?, hends c rfl, h]
        cases start? c with
        | none => rfl
        | some => rfl
      rw [tokens?, tokens?, hstep, step?]
      cases start? c with
      | none => rfl
      | some => simp [Function.comp_def]

/-- The digits of a number are one token, if no letter of a word follows. -/
theorem tokens?_decimal (hends : Ends rest) (n : Nat) :
    between.tokens? (Text.decimal n ++ rest) =
      (between.tokens? rest).map (.word (.natural n) :: ·) := by
  have hparts : ∀ c ∈ Text.decimal n, isWordPart c = true := by
    intro c hc
    simp [isWordPart, Char.isAlphanum, Text.isDigit_of_mem_decimal hc]
  have hwhole := word?_decimal n
  cases hdecimal : Text.decimal n with
  | nil => exact absurd hdecimal (Text.isToken_decimal n).1
  | cons c letters =>
      rw [hdecimal] at hparts hwhole
      rcases List.forall_mem_cons.1 hparts with ⟨hc, hletters⟩
      rw [List.cons_append, tokens?_cons_silent _ (step?_of_isWordPart hc),
        tokens?_letters hletters, List.singleton_append, tokens?_word hends hwhole]

/-! ### Values -/

theorem ends_writeItems {level : Nat} (items : List Json) (h : Ends rest) :
    Ends (writeItems level items ++ rest) := by
  cases items with
  | nil => exact h
  | cons item items =>
      rintro c ⟨⟩
      rfl

theorem ends_writeFields {level : Nat} (fields : List (Text × Json)) (h : Ends rest) :
    Ends (writeFields level fields ++ rest) := by
  cases fields with
  | nil => exact h
  | cons field fields =>
      rintro c ⟨⟩
      rfl

theorem ends_indentation (level : Nat) : Ends (indentation level ++ rest) := by
  rintro c ⟨⟩
  rfl

/-- The colon behind a key and the blank that follows it. -/
theorem tokens?_colon :
    between.tokens? (':' :: ' ' :: rest) = (between.tokens? rest).map (.colon :: ·) := by
  rw [tokens?_punctuation (by decide) (by decide) (by decide) rfl, tokens?_cons_silent between rfl]

mutual

/-- A written value is cut into its tokens, whatever follows that does not belong to a number. -/
theorem tokens?_write (level : Nat) (rest : Text) (hends : Ends rest) : ∀ v : Json,
    between.tokens? (write level v ++ rest) = (between.tokens? rest).map (v.tokens ++ ·)
  | .number n => tokens?_decimal hends n
  | .string text => tokens?_quote text
  | .array [] => by
      change between.tokens? ('[' :: ']' :: rest) = _
      rw [tokens?_punctuation (by decide) (by decide) (by decide) rfl,
        tokens?_punctuation (by decide) (by decide) (by decide) rfl, Option.map_map]
      rfl
  | .array (item :: items) => by
      -- the items stand one level deeper; a number among them stops at a comma or a line feed
      have hclose : Ends (indentation level ++ ']' :: rest) := ends_indentation level
      simp only [write, List.cons_append, List.append_assoc, List.nil_append]
      rw [tokens?_punctuation (by decide) (by decide) (by decide) rfl, tokens?_indentation,
        tokens?_write (level + 1) _ (ends_writeItems items hclose) item,
        tokens?_writeItems (level + 1) _ hclose items, tokens?_indentation,
        tokens?_punctuation (by decide) (by decide) (by decide) rfl]
      simp [tokens, Function.comp_def]
  | .object [] => by
      change between.tokens? ('\x7b' :: '\x7d' :: rest) = _
      rw [tokens?_punctuation (by decide) (by decide) (by decide) rfl,
        tokens?_punctuation (by decide) (by decide) (by decide) rfl, Option.map_map]
      rfl
  | .object ((key, field) :: fields) => by
      have hclose : Ends (indentation level ++ '\x7d' :: rest) := ends_indentation level
      simp only [write, List.cons_append, List.append_assoc, List.nil_append]
      rw [tokens?_punctuation (by decide) (by decide) (by decide) rfl, tokens?_indentation,
        tokens?_quote, tokens?_colon,
        tokens?_write (level + 1) _ (ends_writeFields fields hclose) field,
        tokens?_writeFields (level + 1) _ hclose fields, tokens?_indentation,
        tokens?_punctuation (by decide) (by decide) (by decide) rfl]
      simp [tokens, Function.comp_def]

/-- The further items of an array are read token by token, whatever follows. -/
theorem tokens?_writeItems (level : Nat) (rest : Text) (hends : Ends rest) :
    ∀ items : List Json, between.tokens? (writeItems level items ++ rest) =
      (between.tokens? rest).map (itemTokens items ++ ·)
  | [] => Option.map_id_apply.symm
  | item :: items => by
      simp only [writeItems, List.cons_append, List.append_assoc]
      rw [tokens?_punctuation (by decide) (by decide) (by decide) rfl, tokens?_indentation,
        tokens?_write level _ (ends_writeItems items hends) item,
        tokens?_writeItems level rest hends items]
      simp [itemTokens, Function.comp_def]

/-- The further fields of an object are read token by token, whatever follows. -/
theorem tokens?_writeFields (level : Nat) (rest : Text) (hends : Ends rest) :
    ∀ fields : List (Text × Json), between.tokens? (writeFields level fields ++ rest) =
      (between.tokens? rest).map (fieldTokens fields ++ ·)
  | [] => Option.map_id_apply.symm
  | (key, field) :: fields => by
      simp only [writeFields, List.cons_append, List.append_assoc, List.nil_append]
      rw [tokens?_punctuation (by decide) (by decide) (by decide) rfl, tokens?_indentation,
        tokens?_quote, tokens?_colon,
        tokens?_write level _ (ends_writeFields fields hends) field,
        tokens?_writeFields level rest hends fields]
      simp [fieldTokens, Function.comp_def]

end

end Lexing

/-! ## Reading tokens -/

namespace Reading

variable {frames : List Frame}

/-- Tokens are taken in one after the other. -/
theorem run?_append (state : Reading) (first second : List Token) :
    state.run? (first ++ second) = (state.run? first).bind (·.run? second) :=
  List.foldlM_append

theorem run?_cons {state : Reading} (next : Reading) {token : Token} {rest : List Token}
    (h : state.step? token = some next) : state.run? (token :: rest) = next.run? rest := by
  rw [run?, List.foldlM_cons, h]
  rfl

/-- A value may come first in an array as it may come anywhere else. -/
theorem run?_newArray (v : Json) (rest : List Token) :
    (newArray frames).run? (v.tokens ++ rest) =
      (value (.array [] :: frames)).run? (v.tokens ++ rest) := by
  cases v with
  | number n => rfl
  | string text => rfl
  | array items =>
      cases items with
      | nil => rfl
      | cons item items => rfl
  | object fields =>
      cases fields with
      | nil => rfl
      | cons field fields => rfl

mutual

/-- The tokens of a value put it where a value is wanted. -/
theorem run?_tokens (frames : List Frame) : ∀ v : Json,
    (value frames).run? v.tokens = some (complete v.value frames)
  | .number n => rfl
  | .string text => rfl
  | .array [] => rfl
  | .array (item :: items) => by
      -- the first item is read inside a frame for the array, and the others join it
      simp only [tokens, List.cons_append, List.append_assoc]
      rw [run?_cons (newArray frames) rfl, run?_newArray, run?_append,
        run?_tokens (.array [] :: frames) item, Option.bind_some, complete, run?_append,
        run?_itemTokens frames items, Option.bind_some]
      rfl
  | .object [] => rfl
  | .object ((name, field) :: fields) => by
      simp only [tokens, List.cons_append, List.append_assoc]
      rw [run?_cons (newObject frames) rfl,
        run?_cons (colon [] name frames) rfl,
        run?_cons (value (.object [] name :: frames)) rfl, run?_append,
        run?_tokens (.object [] name :: frames) field, Option.bind_some, complete, run?_append,
        run?_fieldTokens frames fields, Option.bind_some]
      rfl

/-- The items of an array are put behind those that were read before. -/
theorem run?_itemTokens (frames : List Frame) : ∀ (items : List Json) (before : List Value),
    (array before frames).run? (itemTokens items) = some (array (before ++ values items) frames)
  | [], before => by rw [values, List.append_nil]; rfl
  | item :: items, before => by
      rw [itemTokens, List.cons_append, run?_cons (value (.array before :: frames)) rfl,
        run?_append, run?_tokens (.array before :: frames) item, Option.bind_some, complete,
        run?_itemTokens frames items, values, List.append_assoc, List.singleton_append]

/-- The fields of an object are put behind those that were read before. -/
theorem run?_fieldTokens (frames : List Frame) :
    ∀ (fields : List (Text × Json)) (before : List (Text × Value)),
      (object before frames).run? (fieldTokens fields) =
        some (object (before ++ members fields) frames)
  | [], before => by rw [members, List.append_nil]; rfl
  | (name, field) :: fields, before => by
      simp only [fieldTokens, List.cons_append]
      rw [run?_cons (key before frames) rfl,
        run?_cons (colon before name frames) rfl,
        run?_cons (value (.object before name :: frames)) rfl, run?_append,
        run?_tokens (.object before name :: frames) field, Option.bind_some, complete,
        run?_fieldTokens frames fields, members, List.append_assoc, List.singleton_append]

end

end Reading

/-! ## Whole texts -/

/-- A written value is read back. -/
theorem read?_pretty (v : Json) : read? v.pretty = some v.value := by
  have htokens : Lexing.between.tokens? v.pretty = some v.tokens := by
    rw [pretty, ← List.append_nil (write 0 v), Lexing.tokens?_write 0 [] nofun v]
    change some (v.tokens ++ []) = _
    rw [List.append_nil]
  rw [read?, htokens]
  change ((Reading.value []).run? v.tokens).bind Reading.result? = _
  rw [Reading.run?_tokens]
  rfl

end Json

end TextHygiene
