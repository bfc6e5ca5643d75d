import TextHygiene.Json

/-!
# Reading JSON

A reader for the whole of JSON as RFC 8259 describes it, not just for the form in which reports are
written.  A text is first cut into tokens, one character at a time; white space between tokens does
not count.  The tokens are then read one after the other, with a stack of the arrays and objects
that are still open.  Every state has its one continuation for each token, so that a text has at
most one value.
-/

namespace TextHygiene

namespace Json

/-! ## Values -/

/-- A number, as a whole number times a power of ten. -/
structure Numeral where
  significand : Int
  exponent : Int
deriving DecidableEq, Repr

/-- The value of a JSON text.  The members of an object stand in the order of the text. -/
inductive Value where
  | null
  | bool (b : Bool)
  | number (n : Numeral)
  | string (text : Text)
  | array (items : List Value)
  | object (members : List (Text × Value))
deriving Repr

def Value.natural (n : Nat) : Value :=
  .number ⟨n, 0⟩

/-! ## Numbers and names -/

def digitRun? (t : Text) : Option (Text × Text) :=
  let digits := t.takeWhile Char.isDigit
  if digits.isEmpty then none else some (digits, t.dropWhile Char.isDigit)

/-- The whole part of a number: only a single zero may stand in front. -/
def wholePart? (t : Text) : Option (Text × Text) :=
  (digitRun? t).filter fun (digits, _) => digits.head? != some '0' || digits.length == 1

def fractionPart? : Text → Option (Text × Text)
  | '.' :: t => digitRun? t
  | t => some ([], t)

def exponentPart? : Text → Option Int
  | [] => some 0
  | c :: t =>
      if c = 'e' ∨ c = 'E' then
        match t with
        | '-' :: t => (Text.digits? t).map fun n => -(n : Int)
        | '+' :: t => (Text.digits? t).map fun n => (n : Int)
        | t => (Text.digits? t).map fun n => (n : Int)
      else none

def unsigned? (t : Text) : Option Numeral := do
  let (whole, t) ← wholePart? t
  let (fraction, t) ← fractionPart? t
  let exponent ← exponentPart? t
  let n ← Text.digits? (whole ++ fraction)
  return ⟨n, exponent - fraction.length⟩

def numeral? : Text → Option Numeral
  | '-' :: t => (unsigned? t).map fun n => { n with significand := -n.significand }
  | t => unsigned? t

/-- What a word that is not in quotation marks stands for. -/
def word? (t : Text) : Option Value :=
  if t = "null".toList then some .null
  else if t = "true".toList then some (.bool true)
  else if t = "false".toList then some (.bool false)
  else (numeral? t).map .number

/-! ## Strings -/

/-- A part of a string. -/
inductive Piece where
  | char (c : Char)
  /-- One half of a character that is written as two numbers. -/
  | half (n : Nat)
deriving DecidableEq, Repr

namespace Piece

/-- The piece that is written as a number of four digits. -/
def ofNumber (n : Nat) : Piece :=
  if n.isValidChar then .char (Char.ofNat n) else .half n

/-- The character of two halves. -/
def join? (high low : Nat) : Option Char :=
  if 0xD800 ≤ high ∧ high < 0xDC00 ∧ 0xDC00 ≤ low ∧ low < 0xE000 then
    some (Char.ofNat (0x10000 + (high - 0xD800) * 0x400 + (low - 0xDC00)))
  else none

def text? : List Piece → Option Text
  | [] => some []
  | .char c :: rest => (text? rest).map (c :: ·)
  | .half high :: .half low :: rest => do
      let c ← join? high low
      (text? rest).map (c :: ·)
  | .half _ :: _ => none

end Piece

/-- The character that stands for itself or another one behind a backslash. -/
def unescape? (c : Char) : Option Char :=
  if c = '\x22' ∨ c = '\\' ∨ c = '/' then some c
  else if c = 'b' then some '\x08'
  else if c = 'f' then some '\x0c'
  else if c = 'n' then some '\n'
  else if c = 'r' then some '\r'
  else if c = 't' then some '\t'
  else none

/-! ## Tokens -/

/-- What a text is made of. -/
inductive Token where
  | openArray
  | closeArray
  | openObject
  | closeObject
  | colon
  | comma
  /-- A word without quotation marks, as the value that it stands for. -/
  | word (value : Value)
  | string (text : Text)

/-- The place within a text, with what has been read of the present token. -/
inductive Lexing where
  | between
  | word (letters : Text)
  | string (pieces : List Piece)
  /-- Behind a backslash. -/
  | escape (pieces : List Piece)
  /-- Behind `\u` and some digits, which make up a number so far. -/
  | number (pieces : List Piece) (digits n : Nat)

namespace Lexing

def isSpace (c : Char) : Bool :=
  c == ' ' || c == '\t' || c == '\n' || c == '\r'

def isWordPart (c : Char) : Bool :=
  c.isAlphanum || c == '+' || c == '-' || c == '.'

def punctuation? (c : Char) : Option Token :=
  if c = '[' then some .openArray
  else if c = ']' then some .closeArray
  else if c = '\x7b' then some .openObject
  else if c = '\x7d' then some .closeObject
  else if c = ':' then some .colon
  else if c = ',' then some .comma
  else none

def start? (c : Char) : Option (List Token × Lexing) :=
  if isSpace c then some ([], between)
  else if c = '\x22' then some ([], string [])
  else if isWordPart c then some ([], word [c])
  else (punctuation? c).map fun token => ([token], between)

def step? (state : Lexing) (c : Char) : Option (List Token × Lexing) :=
  match state with
  | between => start? c
  | word letters =>
      -- a word ends in front of the first character that is none of its own
      if isWordPart c then some ([], word (letters ++ [c]))
      else do
        let value ← word? letters
        let (tokens, next) ← start? c
        return (.word value :: tokens, next)
  | string pieces =>
      if c = '\x22' then (Piece.text? pieces).map fun text => ([.string text], between)
      else if c = '\\' then some ([], escape pieces)
      -- control characters must be escaped
      else if c.toNat < 0x20 then none
      else some ([], string (pieces ++ [.char c]))
  | escape pieces =>
      if c = 'u' then some ([], number pieces 0 0)
      else (unescape? c).map fun d => ([], string (pieces ++ [.char d]))
  | number pieces digits n =>
      (Text.hexDigit? c).map fun d =>
        if digits < 3 then ([], number pieces (digits + 1) (16 * n + d))
        else ([], string (pieces ++ [Piece.ofNumber (16 * n + d)]))

def finish? : Lexing → Option (List Token)
  | between => some []
  | word letters => (word? letters).map fun value => [.word value]
  | _ => none

def tokens? (state : Lexing) : Text → Option (List Token)
  | [] => state.finish?
  | c :: rest => do
      let (tokens, next) ← state.step? c
      (tokens? next rest).map (tokens ++ ·)

end Lexing

/-! ## Reading tokens -/

/-- An array or an object that lacks its next value. -/
inductive Frame where
  | array (before : List Value)
  | object (before : List (Text × Value)) (name : Text)

/-- What has been read, and what may come next.  The arrays and objects around it are given from the
inside to the outside. -/
inductive Reading where
  /-- A value comes next. -/
  | value (frames : List Frame)
  /-- Behind `[`: a value or the end of the array. -/
  | newArray (frames : List Frame)
  /-- Behind an item: a comma or the end of the array. -/
  | array (items : List Value) (frames : List Frame)
  /-- Behind an opening brace: a key or the end of the object. -/
  | newObject (frames : List Frame)
  /-- Behind a member: a comma or the end of the object. -/
  | object (members : List (Text × Value)) (frames : List Frame)
  /-- Behind a comma in an object: a key. -/
  | key (members : List (Text × Value)) (frames : List Frame)
  /-- Behind a key: a colon. -/
  | colon (members : List (Text × Value)) (name : Text) (frames : List Frame)
  /-- Nothing comes next. -/
  | done (value : Value)

namespace Reading

/-- Puts a value where the innermost array or object lacks one. -/
def complete (v : Value) : List Frame → Reading
  | [] => done v
  | .array before :: frames => array (before ++ [v]) frames
  | .object before name :: frames => object (before ++ [(name, v)]) frames

def startValue? (frames : List Frame) : Token → Option Reading
  | .word v => some (complete v frames)
  | .string text => some (complete (.string text) frames)
  | .openArray => some (newArray frames)
  | .openObject => some (newObject frames)
  | _ => none

def startKey? (members : List (Text × Value)) (frames : List Frame) : Token → Option Reading
  | .string text => some (colon members text frames)
  | _ => none

def step? : Reading → Token → Option Reading
  | value frames, token => startValue? frames token
  | newArray frames, .closeArray => some (complete (.array []) frames)
  | newArray frames, token => startValue? (.array [] :: frames) token
  | array items frames, .closeArray => some (complete (.array items) frames)
  | array items frames, .comma => some (value (.array items :: frames))
  | newObject frames, .closeObject => some (complete (.object []) frames)
  | newObject frames, token => startKey? [] frames token
  | object members frames, .closeObject => some (complete (.object members) frames)
  | object members frames, .comma => some (key members frames)
  | key members frames, token => startKey? members frames token
  | colon members name frames, .colon => some (value (.object members name :: frames))
  | _, _ => none

def run? (state : Reading) (tokens : List Token) : Option Reading :=
  tokens.foldlM step? state

def result? : Reading → Option Value
  | done v => some v
  | _ => none

end Reading

def read? (text : Text) : Option Value := do
  let tokens ← Lexing.between.tokens? text
  let state ← (Reading.value []).run? tokens
  state.result?

example : read? "[ -1.50e2, \"\\u00e9\" ]".toList =
    some (.array [.number ⟨-150, 0⟩, .string "é".toList]) := rfl

example : read? "[1,]".toList = none := rfl

end Json

end TextHygiene
