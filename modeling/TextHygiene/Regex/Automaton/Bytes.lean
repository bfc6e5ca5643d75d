import TextHygiene.Unicode.Interval

/-!
# Intervals as bytes

An automaton reads bytes.  An interval of characters falls into pieces whose encodings agree in
length and run, byte by byte, through full ranges; this module cuts intervals into such pieces and
encodes them.
-/

namespace TextHygiene
namespace Regex
namespace Automaton

open Unicode (Interval Intervals)

/-- The bytes from `first` to `last`. -/
structure ByteRange where
  first : Nat
  last : Nat
deriving DecidableEq, Repr

/-! ## Cutting -/

def withoutSurrogates (i : Interval) : List Interval :=
  (if i.first ≤ 0xD7FF then [⟨i.first, min i.last 0xD7FF⟩] else []) ++
    (if 0xE000 ≤ i.last then [⟨max i.first 0xE000, i.last⟩] else [])

/-- Cuts an interval behind `n`, if it goes across. -/
def cutBehind (n : Nat) (i : Interval) : List Interval :=
  if i.first ≤ n ∧ n < i.last then [⟨i.first, n⟩, ⟨n + 1, i.last⟩] else [i]

/-- Cuts off the last block of a size, if the interval goes across blocks and fills the last one in
part. -/
def cutLastBlock (size : Nat) (i : Interval) : List Interval :=
  if i.first / size ≠ i.last / size ∧ i.last % size ≠ size - 1 then
    [⟨i.first, i.last / size * size - 1⟩, ⟨i.last / size * size, i.last⟩]
  else [i]

/-- Cuts off the first and the last block of a size, if the interval goes across blocks and fills
them in part.  Characters of one byte come in no blocks. -/
def cutBlocks (size : Nat) (i : Interval) : List Interval :=
  if i.last < 0x80 then [i]
  else if i.first / size ≠ i.last / size ∧ i.first % size ≠ 0 then
    ⟨i.first, (i.first / size + 1) * size - 1⟩ ::
      cutLastBlock size ⟨(i.first / size + 1) * size, i.last⟩
  else cutLastBlock size i

/-- The pieces of an interval whose encodings run through full ranges byte by byte. -/
def pieces (i : Interval) : List Interval :=
  let sameLength :=
    (((withoutSurrogates i).flatMap (cutBehind 0x7F)).flatMap (cutBehind 0x7FF)).flatMap
      (cutBehind 0xFFFF)
  ((sameLength.flatMap (cutBlocks 0x40)).flatMap (cutBlocks 0x1000)).flatMap (cutBlocks 0x40000)

/-! ## Encoding -/

def bytesOf (n : Nat) : List Nat :=
  if n < 0x80 then [n]
  else if n < 0x800 then [0xC0 + n / 0x40, 0x80 + n % 0x40]
  else if n < 0x10000 then [0xE0 + n / 0x1000, 0x80 + n / 0x40 % 0x40, 0x80 + n % 0x40]
  else
    [0xF0 + n / 0x40000, 0x80 + n / 0x1000 % 0x40, 0x80 + n / 0x40 % 0x40, 0x80 + n % 0x40]

def bytesOfText (t : Text) : List Nat :=
  t.flatMap fun c => bytesOf c.toNat

def rangesOf (i : Interval) : List ByteRange :=
  (bytesOf i.first).zipWith ByteRange.mk (bytesOf i.last)

def sequences (s : Intervals) : List (List ByteRange) :=
  (s.flatMap pieces).map rangesOf

end Automaton
end Regex
end TextHygiene
