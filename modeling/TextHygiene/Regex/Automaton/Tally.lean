/-!
# Counting states

The memory of an automaton, counted while it is put together.  A part of an automaton is known by
what it adds to the count; it fails as soon as the limit is passed.  States that are made once and
shared are remembered in tables with a fixed number of slots.
-/

namespace TextHygiene
namespace Regex
namespace Automaton

/-- What has been counted: the states, which are numbered from zero, and the bytes of their lists of
edges. -/
structure Tally where
  states : Nat := 0
  listed : Nat := 0
deriving DecidableEq, Repr

/-- The largest automaton allowed, in bytes. -/
def sizeLimit : Nat :=
  10 * 1024 * 1024

def stateSize : Nat :=
  32

def edgeSize : Nat :=
  8

def jumpSize : Nat :=
  4

/-- The memory that has been counted. -/
def Tally.size (t : Tally) : Nat :=
  t.states * stateSize + t.listed

/-- Counts more states and more bytes in lists of edges, within the limit. -/
def Tally.add (t : Tally) (states listed : Nat) : Option Tally :=
  let t := ⟨t.states + states, t.listed + listed⟩
  if t.size ≤ sizeLimit then some t else none

/-- A part of an automaton: counts its states, and tells whether the state at its end lists its
edges, so that an edge from there takes room. -/
abbrev Part := Tally → Option (Tally × Bool)

def Tally.leave (t : Tally) (lists : Bool) : Option Tally :=
  if lists then t.add 0 jumpSize else some t

namespace Part

/-- States in a row, with a given size of their lists together. -/
def row (states listed : Nat) : Part := fun t => do
  return (← t.add states listed, false)

def single : Part :=
  row 1 0

def andThen (first second : Part) : Part := fun t => do
  let (t, lists) ← first t
  let (t, lists') ← second t
  return (← t.leave lists, lists')

/-- A part between two states that remember where it starts and ends. -/
def remembered (inner : Part) : Part :=
  single.andThen (inner.andThen single)

/-- The branches behind the second. -/
def moreBranches : List Part → Tally → Option Tally
  | [], t => some t
  | branch :: rest, t => do
      let (t, lists) ← branch t
      moreBranches rest (← (← t.leave lists).add 0 jumpSize)

/-- A choice: a state that leads to all branches, and a state that all of them lead to. -/
def choice : List Part → Part
  | [] => single
  | [branch] => branch
  | first :: second :: rest => fun t => do
      let (t, lists) ← first t
      let (t, lists') ← second t
      let t ← t.add 2 (2 * jumpSize)
      let t ← (← t.leave lists).leave lists'
      return (← moreBranches rest t, false)

/-- Copies of a part one behind the other, behind an end that lists its edges or not. -/
def copiesBehind (inner : Part) : Nat → Bool → Part
  | 0, lists => fun t => some (t, lists)
  | n + 1, lists => fun t => do
      let (t, lists') ← inner t
      copiesBehind inner n lists' (← t.leave lists)

def copies (inner : Part) : Nat → Part
  | 0 => single
  | n + 1 => fun t => do
      let (t, lists) ← inner t
      copiesBehind inner n lists t

/-- A part that may be passed over: a state in front that leads past it, and a state behind. -/
def optional (inner : Part) : Part := fun t => do
  let t ← t.add 1 (2 * jumpSize)
  let (t, lists) ← inner t
  return (← (← t.add 1 0).leave lists, false)

/-- Any number of copies of a part that takes a character: one state leads there and back. -/
def loop (inner : Part) : Part := fun t => do
  let t ← t.add 1 jumpSize
  let (t, lists) ← inner t
  return (← t.leave lists, true)

/-- At least one copy of a part: a state behind it leads back. -/
def again (inner : Part) : Part := fun t => do
  let (t, lists) ← inner t
  return (← (← t.add 1 jumpSize).leave lists, true)

/-- Any number of copies of a part that may take nothing: at least one, which may be passed over. -/
def optionalLoop (inner : Part) : Part := fun t => do
  let (t, lists) ← inner t
  let t ← (← t.add 1 jumpSize).leave lists
  return (← t.add 2 (3 * jumpSize), false)

/-- Copies that may be left out, each with a state in front that leads past all that follow. -/
def optionalCopies (inner : Part) : Nat → Bool → Part
  | 0, lists => fun t => do return (← t.leave lists, false)
  | n + 1, lists => fun t => do
      let t ← t.add 1 (2 * jumpSize)
      let (t, lists') ← inner t
      optionalCopies inner n lists' (← t.leave lists)

/-- At least and at most some number of copies of a part, with one state behind them all. -/
def between (inner : Part) (least most : Nat) : Part := fun t => do
  let (t, lists) ← copies inner least t
  optionalCopies inner (most - least) lists (← t.add 1 0)

/-- A repetition of a part, given whether the part always takes a character. -/
def repeated (inner : Part) (takesSome : Bool) : Nat → Option Nat → Part
  | 0, some 1 => optional inner
  | least, some most => if least = most then copies inner least else between inner least most
  | 0, none => if takesSome then loop inner else optionalLoop inner
  | 1, none => again inner
  | n + 2, none => (copies inner (n + 1)).andThen (again inner)

end Part

/-! ## Slots -/

def mix (hash : UInt64) (n : Nat) : UInt64 :=
  (hash ^^^ n.toUInt64) * 0x100000001B3

def hashOf (numbers : List Nat) : UInt64 :=
  numbers.foldl mix 0xCBF29CE484222325

def slotOf (slots : Nat) (numbers : List Nat) : Nat :=
  (hashOf numbers).toNat % slots

end Automaton
end Regex
end TextHygiene
