import TextHygiene.Regex.Automaton.Bytes
import TextHygiene.Regex.Automaton.Tally

/-!
# Choices between words

The automaton for a choice between words follows the bytes that the words start with alike only
once.  Words keep their order: where one of them ends, the words behind it start a new row of edges.
-/

namespace TextHygiene
namespace Regex
namespace Automaton
namespace Words

/-- Words that are still to be followed, each by its bytes. -/
abbrev Row := List (List Nat)

/-- The rows of a state.  A word that ends there ends a row; where no word has gone on yet, only the
first of several such words counts. -/
def rows (finished : List Row) (current : Row) : Row → List Row
  | [] => (current.reverse :: finished).reverse
  | [] :: rest =>
      if current.isEmpty && !finished.isEmpty && finished.all (·.isEmpty) then
        rows finished current rest
      else rows (current.reverse :: finished) [] rest
  | word :: rest => rows finished (word :: current) rest

def behind (row : Row) (byte : Nat) : Row :=
  row.filterMap fun word =>
    match word with
    | [] => none
    | b :: rest => if b = byte then some rest else none

def heads (row : Row) : List Nat :=
  (row.filterMap List.head?).eraseDups

/-- The states behind some words and the size of their lists of edges.  The fuel is the length of the
longest word. -/
def count : Nat → Row → Nat × Nat
  | 0, _ => (0, 0)
  | fuel + 1, words =>
      if words.all (·.isEmpty) then (0, 0)
      else
        let all := rows [] [] words
        let started := all.filter (!·.isEmpty)
        let inner := (started.flatMap fun row => (heads row).map (behind row)).map (count fuel)
        let lists := started.map fun row => if 1 < (heads row).length then (heads row).length else 0
        (1 + started.length + (inner.map (·.1)).sum,
          jumpSize * (started.length + all.length - 1) + edgeSize * lists.sum +
            (inner.map (·.2)).sum)

def part (words : Row) : Part :=
  let (states, listed) := count ((words.map (·.length)).foldl max 0 + 1) words
  .row (states + 1) listed

end Words
end Automaton
end Regex
end TextHygiene
