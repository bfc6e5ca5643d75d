import TextHygiene.Text.Blank
import TextHygiene.Unicode.Folding
import TextHygiene.Unicode.Interval
import TextHygiene.Unicode.Word

/-!
# Sets of characters

The sets that a regular expression can name: ranges, the classes with names of their own, and what
brackets build from them.  A set is kept as it is written, and `CharSet.members` says which
characters belong to it, with or without regard to letter case.
-/

namespace TextHygiene
namespace Regex

open Unicode (Intervals)

/-! ## Named classes -/

/-- The classes of ASCII characters that are written between colons. -/
inductive AsciiClass where
  | alnum
  | alpha
  | ascii
  | blank
  | cntrl
  | digit
  | graph
  | lower
  | print
  | punct
  | space
  | upper
  | word
  | xdigit
deriving DecidableEq, Repr

namespace AsciiClass

def all : List AsciiClass :=
  [alnum, alpha, ascii, blank, cntrl, digit, graph, lower, print, punct, space, upper, word, xdigit]

def name : AsciiClass → Text
  | alnum => "alnum".toList
  | alpha => "alpha".toList
  | ascii => "ascii".toList
  | blank => "blank".toList
  | cntrl => "cntrl".toList
  | digit => "digit".toList
  | graph => "graph".toList
  | lower => "lower".toList
  | print => "print".toList
  | punct => "punct".toList
  | space => "space".toList
  | upper => "upper".toList
  | word => "word".toList
  | xdigit => "xdigit".toList

/-- The character is printed and leaves ink. -/
def isGraph (c : Char) : Bool :=
  '!' ≤ c && c ≤ '~'

def has : AsciiClass → Char → Bool
  | alnum, c => c.isAlphanum
  | alpha, c => c.isAlpha
  | ascii, c => c.toNat < 0x80
  | blank, c => c == ' ' || c == '\t'
  | cntrl, c => c.toNat < 0x20 || c.toNat == 0x7F
  | digit, c => c.isDigit
  | graph, c => isGraph c
  | lower, c => c.isLower
  | print, c => isGraph c || c == ' '
  | punct, c => isGraph c && !c.isAlphanum
  | space, c => ['\x09', '\x0a', '\x0b', '\x0c', '\x0d', ' '].contains c
  | upper, c => c.isUpper
  | word, c => c.isAlphanum || c == '_'
  | xdigit, c => c.isDigit || ('a' ≤ c && c ≤ 'f') || ('A' ≤ c && c ≤ 'F')

def members (name : AsciiClass) : Intervals :=
  .ofList (((List.range 0x80).filter fun n => name.has (Char.ofNat n)).map fun n => ⟨n, n⟩)

end AsciiClass

/-- The classes with an escape of one letter. -/
inductive ShortClass where
  | digit
  | space
  | word
deriving DecidableEq, Repr

namespace ShortClass

def members : ShortClass → Intervals
  | digit => .ofSpans Unicode.decimalNumbers
  | space => .ofList (blankCharacters.map fun c => ⟨c.toNat, c.toNat⟩)
  | word =>
      .ofSpans (Unicode.wordCategories.flatMap Unicode.Category.spans ++ Unicode.enclosedLetters ++
        Unicode.joinControls)

def toAscii : ShortClass → AsciiClass
  | digit => .digit
  | space => .space
  | word => .word

end ShortClass

/-! ## Letter case -/

/-- How letter case is treated. -/
inductive CaseMode where
  | exact
  /-- The letters `a` to `z` are the same as `A` to `Z`. -/
  | ignoreAscii
  /-- Letters that fold to the same letter are the same. -/
  | ignore
deriving DecidableEq, Repr

/-- The groups of letters that count as the same, by their code points. -/
def CaseMode.groups : CaseMode → List (List Nat)
  | exact => []
  | ignoreAscii => (List.range 26).map fun n => ['a'.toNat + n, 'A'.toNat + n]
  | ignore => Unicode.caseGroups

/-- A set together with all letters that count as one of its letters. -/
def CaseMode.close (mode : CaseMode) (s : Intervals) : Intervals :=
  let met := mode.groups.filter (·.any fun n => s.any fun i => i.first ≤ n && n ≤ i.last)
  if met.isEmpty then s else .ofList (s ++ met.flatten.map fun n => ⟨n, n⟩)

/-! ## Sets -/

/-- How two sets inside brackets are combined. -/
inductive SetOperation where
  | intersection
  | difference
  | symmetricDifference
deriving DecidableEq, Repr

def SetOperation.combine : SetOperation → Intervals → Intervals → Intervals
  | intersection, s, t => s.inter t
  | difference, s, t => s.diff t
  | symmetricDifference, s, t => s.symmDiff t

/-- A set of characters as it is written. -/
inductive CharSet where
  | empty
  | range (first last : Char)
  | ascii (negated : Bool) (name : AsciiClass)
  | short (negated : Bool) (name : ShortClass)
  | property (negated : Bool) (members : Intervals)
  | union (a b : CharSet)
  | combined (operation : SetOperation) (a b : CharSet)
  | bracketed (negated : Bool) (inner : CharSet)
deriving DecidableEq, Repr

namespace CharSet

def single (c : Char) : CharSet :=
  .range c c

def unionAll : List CharSet → CharSet
  | [] => .empty
  | [s] => s
  | s :: rest => .union s (unionAll rest)

def negate (negated : Bool) (s : Intervals) : Intervals :=
  if negated then s.compl else s

/-- The characters of a set.  Under a case mode that joins letters, brackets, operands and named
classes are first closed under the change of case, and only then negated or combined. -/
def members (mode : CaseMode) : CharSet → Intervals
  | .empty => []
  | .range first last => [⟨first.toNat, last.toNat⟩]
  | .ascii negated name => negate negated (mode.close name.members)
  | .short negated name => negate negated name.members
  | .property negated s => negate negated (mode.close s)
  | .union a b => (a.members mode).union (b.members mode)
  | .combined operation a b =>
      operation.combine (mode.close (a.members mode)) (mode.close (b.members mode))
  | .bracketed negated inner => negate negated (mode.close (inner.members mode))

/-- A set among the ASCII characters, if it can be read as one.  What is negated reaches beyond
them and cannot. -/
def ascii? : CharSet → Option CharSet
  | .empty => some .empty
  | .range first last => if last.toNat < 0x80 then some (.range first last) else none
  | .ascii negated name => if negated then none else some (.ascii false name)
  | .short negated name => if negated then none else some (.ascii false name.toAscii)
  | .property .. => none
  | .union a b => do return .union (← ascii? a) (← ascii? b)
  | .combined operation a b => do return .combined operation (← ascii? a) (← ascii? b)
  | .bracketed negated inner => if negated then none else (ascii? inner).map (.bracketed false)

/-- How deep brackets, unions and operations are nested.  A union of several parts counts once. -/
def depth (inUnion : Bool) : CharSet → Nat
  | .union a b => (if inUnion then 0 else 1) + max (a.depth true) (b.depth true)
  | .combined _ a b => 1 + max (a.depth false) (b.depth false)
  | .bracketed _ inner => 1 + inner.depth false
  | _ => 0

end CharSet

end Regex
end TextHygiene
