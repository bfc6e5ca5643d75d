import TextHygiene.Regex.Expr
import TextHygiene.Text.Digits
import TextHygiene.Unicode.Property.Name
import TextHygiene.Unicode.Recent

/-!
# Reading pieces of an expression

Readers take a piece off the front of a text and give the rest back; they fail where the text is
not well formed.  This module reads escapes, classes, flags, group names and counts.  The parameter
`spaced` says that blanks and comments between the signs are passed over.
-/

namespace TextHygiene
namespace Regex

/-- Takes a piece off the front of a text. -/
abbrev Reader (α : Type) := Text → Option (α × Text)

namespace Reader

/-! ## Blanks and comments -/

/-- Drops blanks and comments, where a comment runs from `#` to the end of the line. -/
def dropIgnored (inComment : Bool) : Text → Text
  | [] => []
  | c :: rest =>
      if inComment then dropIgnored (c != '\n') rest
      else if isBlank c then dropIgnored false rest
      else if c == '#' then dropIgnored true rest
      else c :: rest

def skip (spaced : Bool) (t : Text) : Text :=
  if spaced then dropIgnored false t else t

/-! ## Numbers -/

/-- The digits at the front, with what may stand between them. -/
def digitRun (spaced : Bool) : Nat → Text → Text × Text
  | 0, t => ([], t)
  | fuel + 1, t =>
      match t with
      | c :: rest =>
          if c.isDigit then
            let (digits, rest) := digitRun spaced fuel (skip spaced rest)
            (c :: digits, rest)
          else ([], t)
      | [] => ([], [])

def countMax : Nat :=
  4294967295

def count (spaced : Bool) : Reader Nat := fun t => do
  let t := t.dropWhile isBlank
  let (digits, rest) := digitRun spaced t.length t
  let n ← (Text.digits? digits).filter (· ≤ countMax)
  return (n, rest.dropWhile isBlank)

def bounds (spaced : Bool) : Reader (Nat × Option Nat) := fun t => do
  let (least, t) ← count spaced (skip spaced t)
  match skip spaced t with
  | '}' :: rest => return ((least, some least), rest)
  | ',' :: rest =>
      -- without a second number there is no upper bound
      match skip spaced rest with
      | '}' :: rest => return ((least, none), rest)
      | t =>
          let (most, t) ← count spaced t
          match skip spaced t with
          | '}' :: rest => if least ≤ most then return ((least, some most), rest) else none
          | _ => none
  | _ => none

/-! ## Characters by number -/

def codePoint? (n : Nat) : Option Char :=
  if n.isValidChar then some (Char.ofNat n) else none

def hexFixed (spaced : Bool) : Nat → Nat → Reader Nat
  | 0, value => fun t => some (value, t)
  | n + 1, value => fun t =>
      match t with
      | c :: rest => do hexFixed spaced n (16 * value + (← Text.hexDigit? c)) (skip spaced rest)
      | [] => none

def hexBraced (spaced : Bool) : Nat → List Nat → Reader Nat
  | 0, _ => fun _ => none
  | fuel + 1, digits => fun t =>
      match t with
      | '}' :: rest =>
          if digits.isEmpty then none
          else some (digits.foldl (fun value d => 16 * value + d) 0, rest)
      | c :: rest => do hexBraced spaced fuel (digits ++ [← Text.hexDigit? c]) (skip spaced rest)
      | [] => none

/-- A character by its code point, behind the letter that says how many digits follow.  Two digits
without braces stand for a byte. -/
def hex (spaced : Bool) (width : Nat) : Reader Expr := fun t => do
  match skip spaced t with
  | '{' :: rest =>
      let rest := skip spaced rest
      let (n, rest) ← hexBraced spaced (rest.length + 1) [] rest
      return (.char (← codePoint? n), skip spaced rest)
  | t =>
      let (n, rest) ← hexFixed spaced width 0 t
      let c ← codePoint? n
      return (if width = 2 then .byte c else .char c, skip spaced rest)

/-! ## Properties -/

/-- The text up to a closing brace, without what does not count. -/
def braced (spaced : Bool) : Nat → Text → Reader Text
  | 0, _ => fun _ => none
  | fuel + 1, name => fun t =>
      match skip spaced t with
      | '}' :: rest => some (name, rest)
      | c :: rest => braced spaced fuel (name ++ [c]) rest
      | [] => none

/-- The text on either side of the first occurrence of a block. -/
def cutAt? (block : Text) : Text → Option (Text × Text)
  | [] => none
  | c :: rest =>
      match Text.after? block (c :: rest) with
      | some right => some ([], right)
      | none => (cutAt? block rest).map fun (left, right) => (c :: left, right)

def propertySet? (negated : Bool) (query : Text) : Option CharSet :=
  match cutAt? "!=".toList query with
  | some (name, value) => (Unicode.Property.ofValue? name value).map (.property !negated)
  | none =>
      match (Text.cut? (· == ':') query).or (Text.cut? (· == '=') query) with
      | some (name, value) => (Unicode.Property.ofValue? name value).map (.property negated)
      | none => (Unicode.Property.ofName? query).map (.property negated)

def property (spaced negated : Bool) : Reader CharSet := fun t => do
  match skip spaced t with
  | '{' :: rest =>
      let (query, rest) ← braced spaced (rest.length + 1) [] rest
      return (← propertySet? negated query, rest)
  | c :: rest => return (.property negated (← Unicode.Property.ofName? [c]), rest)
  | [] => none

/-! ## Escapes -/

/-- The ASCII signs that may be escaped: all but letters, digits and the two angle brackets. -/
def isEscapable (c : Char) : Bool :=
  c.toNat < 0x80 && !c.isAlphanum && c != '<' && c != '>'

/-- The letters and hyphens at the front, with what may stand between them. -/
def nameRun (spaced : Bool) : Nat → Text → Text × Text
  | 0, t => ([], t)
  | fuel + 1, t =>
      match t with
      | c :: rest =>
          if c.isAlpha || c == '-' then
            let (name, rest) := nameRun spaced fuel (skip spaced rest)
            (c :: name, rest)
          else ([], t)
      | [] => ([], [])

def namedBoundary? (name : Text) : Option Boundary :=
  if name == "start".toList then some .wordStart
  else if name == "end".toList then some .wordEnd
  else if name == "start-half".toList then some .wordStartHalf
  else if name == "end-half".toList then some .wordEndHalf
  else none

/-- A word boundary, behind its letter.  A name in braces may follow; braces that start otherwise
are left for a repetition. -/
def boundary (spaced : Bool) : Reader Boundary := fun t => do
  match t with
  | '{' :: rest =>
      match skip spaced rest with
      | [] => none
      | c :: inner =>
          if c.isAlpha || c == '-' then
            match nameRun spaced (inner.length + 1) (c :: inner) with
            | (name, '}' :: rest) => return (← namedBoundary? name, rest)
            | _ => none
          else return (.edge, t)
  | _ => return (.edge, t)

def escape (spaced : Bool) : Reader Expr := fun t => do
  match t with
  | [] => none
  | 'x' :: rest => hex spaced 2 rest
  | 'u' :: rest => hex spaced 4 rest
  | 'U' :: rest => hex spaced 8 rest
  | 'p' :: rest => let (s, rest) ← property spaced false rest; return (.set s, rest)
  | 'P' :: rest => let (s, rest) ← property spaced true rest; return (.set s, rest)
  | 'd' :: rest => return (.set (.short false .digit), rest)
  | 'D' :: rest => return (.set (.short true .digit), rest)
  | 's' :: rest => return (.set (.short false .space), rest)
  | 'S' :: rest => return (.set (.short true .space), rest)
  | 'w' :: rest => return (.set (.short false .word), rest)
  | 'W' :: rest => return (.set (.short true .word), rest)
  -- control characters by their letters
  | 'a' :: rest => return (.char '\x07', rest)
  | 'f' :: rest => return (.char '\x0c', rest)
  | 't' :: rest => return (.char '\t', rest)
  | 'n' :: rest => return (.char '\n', rest)
  | 'r' :: rest => return (.char '\r', rest)
  | 'v' :: rest => return (.char '\x0b', rest)
  -- places between characters
  | 'A' :: rest => return (.anchor .startOfText, rest)
  | 'z' :: rest => return (.anchor .endOfText, rest)
  | 'b' :: rest => let (kind, rest) ← boundary spaced rest; return (.anchor (.boundary kind), rest)
  | 'B' :: rest => return (.anchor (.boundary .notEdge), rest)
  | '<' :: rest => return (.anchor (.boundary .wordStart), rest)
  | '>' :: rest => return (.anchor (.boundary .wordEnd), rest)
  | c :: rest => if isEscapable c then return (.char c, rest) else none

/-! ## Classes in brackets -/

/-- A class of ASCII characters between colons, behind the bracket that opens it. -/
def asciiClass : Reader CharSet := fun t => do
  let t ← Text.after? [':'] t
  let (negated, t) :=
    match t with
    | '^' :: rest => (true, rest)
    | t => (false, t)
  let (name, rest) ← Text.cut? (· == ':') t
  let rest ← Text.after? [']'] rest
  let known ← AsciiClass.all.find? (·.name == name)
  return (.ascii negated known, rest)

/-- A single member of a class: a character or an escape. -/
def member (spaced : Bool) : Reader Expr := fun t =>
  match t with
  | [] => none
  | '\\' :: rest => escape spaced rest
  | c :: rest => some (.char c, rest)

def memberCharacter? : Expr → Option Char
  | .char c | .byte c => some c
  | _ => none

def memberSet? : Expr → Option CharSet
  | .char c | .byte c => some (.single c)
  | .set s => some s
  | _ => none

/-- The sign that decides whether a hyphen in front of the text makes a range.  It is looked for
behind blanks and, where a comment starts, behind its `#`; if there is none, the next sign decides. -/
def decisive (inComment : Bool) : Text → Option Char
  | [] => none
  | c :: rest =>
      if isBlank c then decisive inComment rest
      else if !inComment && c == '#' then decisive true rest
      else some c

/-- A hyphen in front of the text stands for itself or belongs to an operation. -/
def isPlainHyphen (spaced : Bool) (t : Text) : Bool :=
  let sign := if spaced then (decisive false t).or t.head? else t.head?
  sign == some ']' || sign == some '-'

def memberOrRange (spaced : Bool) : Reader CharSet := fun t => do
  let (first, t) ← member spaced t
  match skip spaced t with
  | [] => none
  | '-' :: rest =>
      if isPlainHyphen spaced rest then return (← memberSet? first, '-' :: rest)
      else
        let (last, rest) ← member spaced (skip spaced rest)
        let a ← memberCharacter? first
        let b ← memberCharacter? last
        if a ≤ b then return (.range a b, rest) else none
  | t => return (← memberSet? first, t)

/-- The hyphens at the front of a class, which stand for themselves. -/
def leadingHyphens (spaced : Bool) : Nat → Text → List CharSet × Text
  | 0, t => ([], t)
  | fuel + 1, t =>
      match t with
      | '-' :: rest =>
          let (sets, rest) := leadingHyphens spaced fuel (skip spaced rest)
          (.single '-' :: sets, rest)
      | t => ([], t)

/-- The start of a class, behind its opening bracket: whether it is negated, and the hyphens or the
closing bracket that stand for themselves there. -/
def classStart (spaced : Bool) : Reader (Bool × List CharSet) := fun t => do
  let t := skip spaced t
  let (negated, t) :=
    match t with
    | '^' :: rest => (true, skip spaced rest)
    | t => (false, t)
  let (sets, t) := leadingHyphens spaced t.length t
  -- a closing bracket stands for itself at the front, if another one follows
  match sets, t with
  | _, [] => none
  | [], ']' :: rest =>
      match skip spaced rest with
      | [] => none
      | rest => return ((negated, [.single ']']), rest)
  | sets, t => return ((negated, sets), t)

/-- Ends a run of members, which joins the operation that stands in front of it. -/
def endRun (pending : Option (SetOperation × CharSet)) (sets : List CharSet) : CharSet :=
  match pending with
  | some (operation, left) => .combined operation left (.unionAll sets)
  | none => .unionAll sets

/-- The members of a class up to its closing bracket.  The fuel is the number of characters. -/
def classBody (spaced : Bool) :
    Nat → Option (SetOperation × CharSet) → List CharSet → Reader CharSet
  | 0, _, _ => fun _ => none
  | fuel + 1, pending, sets => fun t =>
      match skip spaced t with
      | [] => none
      | ']' :: rest => some (endRun pending sets, rest)
      | '[' :: rest =>
          -- what is no named class is a class in brackets of its own
          match asciiClass rest with
          | some (item, rest) => classBody spaced fuel pending (sets ++ [item]) rest
          | none => do
              let ((negated, first), rest) ← classStart spaced rest
              let (inner, rest) ← classBody spaced fuel none first rest
              classBody spaced fuel pending (sets ++ [.bracketed negated inner]) rest
      | '&' :: '&' :: rest =>
          classBody spaced fuel (some (.intersection, endRun pending sets)) [] rest
      | '-' :: '-' :: rest =>
          classBody spaced fuel (some (.difference, endRun pending sets)) [] rest
      | '~' :: '~' :: rest =>
          classBody spaced fuel (some (.symmetricDifference, endRun pending sets)) [] rest
      | t => do
          let (item, rest) ← memberOrRange spaced t
          classBody spaced fuel pending (sets ++ [item]) rest

def bracketClass (spaced : Bool) : Reader CharSet := fun t => do
  let ((negated, first), rest) ← classStart spaced t
  let (inner, rest) ← classBody spaced (t.length + 1) none first rest
  return (.bracketed negated inner, rest)

/-! ## Groups -/

/-- Flags up to a colon or a closing parenthesis, which is left in place.  No flag and no hyphen may
stand twice, and a flag must follow a hyphen. -/
def flagsFrom (negated dangling : Bool) (change : FlagChange) : Reader FlagChange
  | [] => none
  | c :: rest =>
      if c == ':' || c == ')' then (if dangling then none else some (change, c :: rest))
      else if c == '-' then
        if negated then none else flagsFrom true true change rest
      else
        match Flag.ofLetter? c with
        | none => none
        | some flag =>
            -- no flag may come twice, not even once on and once off
            if change.on.contains flag || change.off.contains flag then none
            else if negated then
              flagsFrom negated false { change with off := change.off ++ [flag] } rest
            else
              flagsFrom negated false { change with on := change.on ++ [flag] } rest

def startsName (c : Char) : Bool :=
  c == '_' || Unicode.Recent.isAlphabetic c

def continuesName (c : Char) : Bool :=
  startsName c || c == '.' || c == '[' || c == ']' ||
    Unicode.Recent.isNumeric c

def groupName : Reader Text := fun t => do
  let (name, rest) ← Text.cut? (· == '>') t
  match name with
  | [] => none
  | c :: inner => if startsName c && inner.all continuesName then return (name, rest) else none

/-- What stands behind an opening parenthesis. -/
inductive Opening where
  | flags (change : FlagChange)
  /-- A group that is not remembered. -/
  | group (change : FlagChange)
  | numbered
  | named (name : Text)
deriving DecidableEq, Repr

/-- The signs that would look ahead or behind, which are not supported. -/
def lookArounds : List Text :=
  ["?=".toList, "?!".toList, "?<=".toList, "?<!".toList]

def opening (spaced : Bool) : Reader Opening := fun t => do
  let t := skip spaced t
  if lookArounds.any (·.isPrefixOf t) then none
  else
    match (Text.after? "?P<".toList t).or (Text.after? "?<".toList t) with
    | some rest =>
        let (name, rest) ← groupName rest
        return (.named name, rest)
    | none =>
        match t with
        | '?' :: rest =>
            let (change, rest) ← flagsFrom false false {} rest
            match rest with
            -- without a colon the flags hold for the rest of the group around
            | ')' :: rest => if change == {} then none else return (.flags change, rest)
            | ':' :: rest => return (.group change, rest)
            | _ => none
        | t => return (.numbered, t)

end Reader

end Regex
end TextHygiene
