import TextHygiene.Regex.CharSet

/-!
# Regular expressions

The core language: words, sets of characters, conditions on a place between two characters, groups,
sequence, choice and counted repetition.  Whether a text holds a match is decided by moving a set of
places through the expression: `Regex.advance` sends the places where a match may start to the places
where it may end.
-/

namespace TextHygiene

namespace Regex

/-! ## Conditions on a place -/

/-- How a place relates to the words around it. -/
inductive Boundary where
  | edge
  | notEdge
  | wordStart
  | wordEnd
  | wordStartHalf
  | wordEndHalf
deriving DecidableEq, Repr

/-- The condition, given whether a word character stands before and behind the place. -/
def Boundary.holds : Boundary → Bool → Bool → Bool
  | edge, before, behind => before != behind
  | notEdge, before, behind => before == behind
  | wordStart, before, behind => !before && behind
  | wordEnd, before, behind => before && !behind
  | wordStartHalf, before, _ => !before
  | wordEndHalf, _, behind => !behind

/-- A condition on a place between two characters. -/
inductive Look where
  | startOfText
  | endOfText
  | startOfLine
  | endOfLine
  /-- The start of a line where a carriage return ends a line as well. -/
  | startOfLineReturn
  /-- The end of a line where a carriage return ends a line as well. -/
  | endOfLineReturn
  | boundary (kind : Boundary) (asciiOnly : Bool)
deriving DecidableEq, Repr

/-- A character of a word, among the ASCII characters or among all. -/
def isWordFor (asciiOnly : Bool) (c : Char) : Bool :=
  if asciiOnly then AsciiClass.word.has c else Unicode.isWord c

/-- The condition at a place between the characters `before` and `behind`, which are absent at the
ends of the text. -/
def Look.holds : Look → Option Char → Option Char → Bool
  | startOfText, before, _ => before.isNone
  | endOfText, _, behind => behind.isNone
  | startOfLine, before, _ => before.all (· == '\n')
  | endOfLine, _, behind => behind.all (· == '\n')
  | startOfLineReturn, before, behind =>
      before.all fun c => c == '\n' || (c == '\r' && behind != some '\n')
  | endOfLineReturn, before, behind =>
      behind.all fun c => c == '\r' || (c == '\n' && before != some '\r')
  | boundary kind asciiOnly, before, behind =>
      kind.holds (before.any (isWordFor asciiOnly)) (behind.any (isWordFor asciiOnly))

end Regex

/-! ## Expressions -/

/-- A regular expression. -/
inductive Regex where
  /-- Matches at every place and takes no character. -/
  | empty
  /-- Takes the characters of a word one by one. -/
  | literal (word : Text)
  /-- Takes one character of a set. -/
  | set (members : Unicode.Intervals)
  /-- Takes no character and matches where a condition holds. -/
  | look (condition : Regex.Look)
  /-- A part that is remembered under a number. -/
  | group (number : Nat) (inner : Regex)
  | seq (first second : Regex)
  | alt (left right : Regex)
  /-- Between `least` and `most` matches in a row, without an upper bound if there is no `most`.
  Whether many or few are preferred decides nothing about what matches. -/
  | rep (inner : Regex) (least : Nat) (most : Option Nat) (preferMany : Bool)
deriving DecidableEq, Repr

namespace Regex

/-! ## Places

A place of a text is the number of characters in front of it.  Sets of places are lists without
repetition. -/

def join (a b : List Nat) : List Nat :=
  a ++ b.filter (!a.contains ·)

/-- All places of the first list are places of the second. -/
def within (a b : List Nat) : Bool :=
  a.all b.contains

def before? (t : Text) (place : Nat) : Option Char :=
  if place = 0 then none else t[place - 1]?

/-- Repeats a step a given number of times, or until it changes nothing. -/
def iterate (step : List Nat → List Nat) : Nat → List Nat → List Nat
  | 0, places => places
  | n + 1, places =>
      let next := step places
      if within next places && within places next then places else iterate step n next

/-- The places that are reached by one or more steps from the places in `fresh`, in so many rounds.
Steps are made from a place once only, in the round after it was first reached: `seen` holds the
places that have had theirs.  Reached again, a place would lead nowhere new, and later. -/
def spread (step : List Nat → List Nat) : Nat → List Nat → List Nat → List Nat
  | 0, _, _ => []
  | rounds + 1, seen, fresh =>
      if fresh.isEmpty then []
      else
        let next := step fresh
        let seen := fresh ++ seen
        join next (spread step rounds seen (next.filter (!seen.contains ·)))

/-- The places where a match that starts at one of the given places may end. -/
def advance (t : Text) : Regex → List Nat → List Nat
  | .empty, places => places
  | .literal word, places =>
      (places.filter fun place => word.isPrefixOf (t.drop place)).map (· + word.length)
  | .set members, places =>
      (places.filter fun place => t[place]?.any members.has).map (· + 1)
  | .look condition, places =>
      places.filter fun place => condition.holds (before? t place) t[place]?
  | .group _ inner, places => advance t inner places
  | .seq first second, places => advance t second (advance t first places)
  | .alt left right, places => join (advance t left places) (advance t right places)
  | .rep inner least most _, places =>
      -- the repetitions that must be made come first, all but one
      let start := iterate (advance t inner) (least - 1) places
      let rounds := (most.map (· - (least - 1))).getD (t.length + 1)
      let reached := spread (advance t inner) rounds [] start
      if least = 0 then join start reached else reached

/-- Some part of the text matches. -/
def isMatch (r : Regex) (t : Text) : Bool :=
  !(r.advance t (List.range (t.length + 1))).isEmpty

end Regex

end TextHygiene
