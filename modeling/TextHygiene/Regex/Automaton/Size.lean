import TextHygiene.Regex.Automaton.Backward
import TextHygiene.Regex.Automaton.Forward
import TextHygiene.Regex.Automaton.Words
import TextHygiene.Regex.Normal

/-!
# Size of an expression

An expression is searched for with two automata, one that reads forwards and finds where matches end,
and one that reads backwards and finds where they start.  `Regex.fits` says that neither of them
needs more memory than is allowed.
-/

namespace TextHygiene
namespace Regex
namespace Automaton

/-- The direction that an automaton reads in. -/
inductive Direction where
  | forward
  | backward
deriving DecidableEq, Repr

/-- The part for one character of a set.  Where the set lies among the ASCII characters one state
with an edge for each interval will do. -/
def setPart (direction : Direction) (members : Unicode.Intervals) : Part :=
  if members.all (·.last < 0x80) then .row 2 (members.length * edgeSize)
  else
    match direction with
    | .forward => Forward.part (sequences members)
    | .backward => Backward.part (sequences members)

def Direction.sequence (direction : Direction) (first second : Part) : Part :=
  match direction with
  | forward => first.andThen second
  | backward => second.andThen first

/-- The bytes of a word in the order that they are read in. -/
def Direction.bytes (direction : Direction) (word : Text) : List Nat :=
  match direction with
  | forward => bytesOfText word
  | backward => (bytesOfText word).reverse

/-- The words that an expression is a choice between, if it is one. -/
def words? (r : Regex) : Option (List Text) :=
  if 2 ≤ r.branches.length then
    r.branches.mapM fun branch =>
      match branch with
      | .literal word => some word
      | _ => none
  else none

/-- The part for an expression, given the parts for its branches. -/
def whole (direction : Direction) (r : Regex) (branches : List Part) : Part :=
  match words? r with
  | some words => Words.part (words.map direction.bytes)
  | none => .choice branches

/-- The parts for the branches of an expression.  Only the automaton that reads forwards remembers
groups. -/
def branchParts (direction : Direction) : Regex → List Part
  | .empty | .look _ => [.single]
  | .literal word => [.row (direction.bytes word).length 0]
  | .set members => [setPart direction members]
  | .group _ inner =>
      let part := whole direction inner (branchParts direction inner)
      -- only a search that reads forwards keeps where groups start and end
      match direction with
      | .forward => [part.remembered]
      | .backward => [part]
  | .seq first second =>
      [direction.sequence
        (whole direction first (branchParts direction first))
        (whole direction second (branchParts direction second))]
  | .alt left right => branchParts direction left ++ branchParts direction right
  | .rep inner least most _ =>
      [.repeated (whole direction inner (branchParts direction inner)) inner.takesSome least most]

/-- The states in front of an expression that may start anywhere: one of them leads past any byte and
back. -/
def searchPart : Part := fun t => do
  return (← t.add 3 (edgeSize + jumpSize), true)

/-- The automaton for a direction.  Where all matches lie at the end of the text that it starts from,
it need not search. -/
def automaton (direction : Direction) (r : Regex) : Part :=
  let part := whole direction r (branchParts direction r)
  match direction with
  | .forward =>
      (if r.startsText then Part.single else searchPart).andThen (part.remembered.andThen .single)
  | .backward => (if r.endsText then Part.single else searchPart).andThen (part.andThen .single)

end Automaton

/-- Both automata for an expression stay within the limit. -/
def fits (r : Regex) : Bool :=
  (Automaton.automaton .forward r {}).isSome && (Automaton.automaton .backward r {}).isSome

end Regex
end TextHygiene
