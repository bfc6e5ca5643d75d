import TextHygiene.Text.Basic

/-!
# Spans of code points

Character properties are tables of spans.  A span runs from its first to its last code point in
equal strides, so that one entry covers a block in which capital and small letters alternate.
Scripts are such tables with names, which are kept in small letters without what does not count in
them; the first name is the long one.
-/

namespace TextHygiene
namespace Unicode

/-- The code points `first`, `first + stride`, and so on up to `last`. -/
structure Span where
  first : Nat
  last : Nat
  stride : Nat
deriving DecidableEq, Repr

def Span.has (s : Span) (c : Char) : Bool :=
  s.first ≤ c.toNat && c.toNat ≤ s.last && (c.toNat - s.first) % s.stride == 0

def covers (table : List Span) (c : Char) : Bool :=
  table.any (·.has c)

/-- The characters of one script. -/
structure Script where
  names : List String
  spans : List Span
deriving DecidableEq, Repr

/-- A span of letters together with the code point that its first letter is sent to.  The other
letters of the span are moved by the same distance. -/
structure Shift where
  span : Span
  image : Nat
deriving DecidableEq, Repr

/-- The letter that a shift sends `c` to, if `c` lies in its span. -/
def Shift.target? (s : Shift) (c : Char) : Option Char :=
  if s.span.has c then some (Char.ofNat (s.image + (c.toNat - s.span.first))) else none

/-- A letter under the first shift that moves it.  Characters that none moves stay as they are. -/
def shifted (table : List Shift) (c : Char) : Char :=
  (table.findSome? (·.target? c)).getD c

end Unicode
end TextHygiene
