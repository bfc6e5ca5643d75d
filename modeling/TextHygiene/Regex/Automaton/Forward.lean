import Std.Data.HashMap
import TextHygiene.Regex.Automaton.Bytes
import TextHygiene.Regex.Automaton.Tally

/-!
# Sets read forwards

The automaton for a set of characters that is read from the first byte to the last.  Sequences of
bytes arrive in increasing order, so a state is finished when a sequence comes that leaves it, and
states with the same edges are shared.  Finished states are remembered in a table with a fixed number
of slots; a state that falls into a taken slot displaces what was there.
-/

namespace TextHygiene
namespace Regex
namespace Automaton
namespace Forward

/-- An edge to a finished state. -/
structure Edge where
  range : ByteRange
  target : Nat
deriving DecidableEq, Repr

/-- A state under way: its finished edges, the last one first, and the edge that is still to be
finished. -/
structure Draft where
  edges : List Edge := []
  pending : Option ByteRange := none
deriving DecidableEq, Repr

/-- The count and the finished states by their slots. -/
structure Progress where
  tally : Tally
  finished : Std.HashMap Nat (List Edge × Nat) := {}

def slots : Nat :=
  10000

def keyOf (edges : List Edge) : List Nat :=
  edges.flatMap fun e => [e.range.first, e.range.last, e.target]

/-- The number of a state with some edges, which is made unless it is remembered. -/
def finish (edges : List Edge) (progress : Progress) : Option (Nat × Progress) :=
  let slot := slotOf slots (keyOf edges)
  match progress.finished[slot]? with
  | some (known, number) =>
      if known = edges then some (number, progress) else make slot
  | none => make slot
where
  make (slot : Nat) : Option (Nat × Progress) := do
    let number := progress.tally.states
    let tally ← progress.tally.add 1 (edges.length * edgeSize)
    return (number, ⟨tally, progress.finished.insert slot (edges, number)⟩)

/-- The edges of a draft whose pending edge leads to a state. -/
def Draft.closed (draft : Draft) (target : Nat) : List Edge :=
  match draft.pending with
  | some range => ⟨range, target⟩ :: draft.edges
  | none => draft.edges

/-- Finishes the states of a path, the last one first, and gives the number that leads into it.  An
empty path leads to the state at the end of the set. -/
def finishPath (last : Nat) : List Draft → Progress → Option (Nat × Progress)
  | [], progress => some (last, progress)
  | draft :: deeper, progress => do
      let (target, progress) ← finishPath last deeper progress
      finish (draft.closed target).reverse progress

/-- The states of a path for bytes of which no state is there yet. -/
def pathFor (ranges : List ByteRange) : List Draft :=
  ranges.map fun range => { pending := some range }

def insert (last : Nat) :
    List ByteRange → List Draft → Progress → Option (List Draft × Progress)
  | [], path, progress => some (path, progress)
  | ranges, [], progress => some (pathFor ranges, progress)
  | range :: ranges, draft :: deeper, progress =>
      if draft.pending = some range then do
        let (deeper, progress) ← insert last ranges deeper progress
        return (draft :: deeper, progress)
      else do
        let (target, progress) ← finishPath last deeper progress
        return (⟨draft.closed target, some range⟩ :: pathFor ranges, progress)

def insertAll (last : Nat) :
    List (List ByteRange) → List Draft → Progress → Option (List Draft × Progress)
  | [], path, progress => some (path, progress)
  | ranges :: rest, path, progress => do
      let (path, progress) ← insert last ranges path progress
      insertAll last rest path progress

def part (sequences : List (List ByteRange)) : Part := fun t => do
  let last := t.states
  let t ← t.add 1 0
  let (path, progress) ← insertAll last sequences [{}] ⟨t, {}⟩
  let (_, progress) ← finishPath last path progress
  return (progress.tally, false)

end Forward
end Automaton
end Regex
end TextHygiene
