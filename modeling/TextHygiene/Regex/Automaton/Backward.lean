import Std.Data.HashMap
import TextHygiene.Regex.Automaton.Bytes
import TextHygiene.Regex.Automaton.Tally

/-!
# Sets read backwards

The automaton for a set of characters that is read from the last byte to the first.  All sequences of
bytes branch off from one state.  A range of bytes that leads to the same state as before is shared;
such ranges are remembered in a table with a fixed number of slots, where the newest displaces what
was there.
-/

namespace TextHygiene
namespace Regex
namespace Automaton
namespace Backward

/-- A range of bytes that leads to a state. -/
structure Step where
  target : Nat
  range : ByteRange
deriving DecidableEq, Repr

/-- The count and the remembered steps by their slots. -/
structure Progress where
  tally : Tally
  known : Std.HashMap Nat (Step × Nat) := {}

def slots : Nat :=
  1000

def keyOf (step : Step) : List Nat :=
  [step.target, step.range.first, step.range.last]

/-- The number of the state for a step, which is made unless it is remembered. -/
def take (step : Step) (progress : Progress) : Option (Nat × Progress) :=
  let slot := slotOf slots (keyOf step)
  match progress.known[slot]? with
  | some (known, number) =>
      if known = step then some (number, progress) else make slot
  | none => make slot
where
  make (slot : Nat) : Option (Nat × Progress) := do
    let number := progress.tally.states
    let tally ← progress.tally.add 1 0
    return (number, ⟨tally, progress.known.insert slot (step, number)⟩)

/-- Takes the ranges of a sequence in turn, each leading to the one in front of it. -/
def takeAll : List ByteRange → Nat → Progress → Option Progress
  | [], _, progress => some progress
  | range :: rest, target, progress => do
      let (number, progress) ← take ⟨target, range⟩ progress
      takeAll rest number progress

/-- Adds sequences of bytes in turn, each with an edge from the state that they branch off from. -/
def addAll (last : Nat) : List (List ByteRange) → Progress → Option Progress
  | [], progress => some progress
  | ranges :: rest, progress => do
      let progress ← takeAll ranges last progress
      addAll last rest { progress with tally := ← progress.tally.add 0 jumpSize }

def part (sequences : List (List ByteRange)) : Part := fun t => do
  let t ← t.add 2 0
  let progress ← addAll (t.states - 1) sequences ⟨t, {}⟩
  return (progress.tally, false)

end Backward
end Automaton
end Regex
end TextHygiene
