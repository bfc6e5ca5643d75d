import TextHygiene.Regex.Basic

/-!
# Normal forms

Expressions are put together in a normal form, which keeps the automaton for them small: words that
follow one another are one word, sequences and choices are flat and lean to the right, nothing is
repeated that takes no character, a choice between sets is a set, and what all branches of a choice
start with stands in front of the choice.
-/

namespace TextHygiene
namespace Regex

open Unicode (Intervals)

/-! ## Sets -/

/-- The expression that matches nowhere. -/
def never : Regex :=
  .set []

/-- One character of a set, which is a word if it is the only one. -/
def ofMembers : Intervals → Regex
  | [i] => if i.first = i.last then .literal [Char.ofNat i.first] else .set [i]
  | s => .set s

/-- A set with one character is a word of length one. -/
theorem ofMembers_single (c : Char) : ofMembers (Intervals.single c) = .literal [c] := by
  simp [ofMembers, Intervals.single]

/-! ## What an expression takes -/

/-- Matches of the expression take no character. -/
def takesNothing : Regex → Bool
  | .empty | .look _ => true
  | .literal _ | .set _ => false
  | .group _ inner => inner.takesNothing
  | .seq first second => first.takesNothing && second.takesNothing
  | .alt left right => left.takesNothing && right.takesNothing
  | .rep inner _ most _ => most.isSome && inner.takesNothing

/-- The least number of characters that a match takes, if there can be a match. -/
def leastTaken? : Regex → Option Nat
  | .empty | .look _ => some 0
  | .literal word => some word.length
  | .set members => if members.isEmpty then none else some 1
  | .group _ inner => inner.leastTaken?
  | .seq first second => do return (← first.leastTaken?) + (← second.leastTaken?)
  | .alt left right => do return min (← left.leastTaken?) (← right.leastTaken?)
  | .rep inner least _ _ => inner.leastTaken?.map (least * ·)

/-- Every match takes a character, and no part rules a match out. -/
def takesSome (r : Regex) : Bool :=
  r.leastTaken?.any (0 < ·)

def startsText : Regex → Bool
  | .look condition => condition = .startOfText
  | .group _ inner => inner.startsText
  | .seq first second => first.startsText || (first.takesNothing && second.startsText)
  | .alt left right => left.startsText && right.startsText
  | .rep inner least _ _ => 0 < least && inner.startsText
  | _ => false

def endsText : Regex → Bool
  | .look condition => condition = .endOfText
  | .group _ inner => inner.endsText
  | .seq first second => second.endsText || (second.takesNothing && first.endsText)
  | .alt left right => left.endsText && right.endsText
  | .rep inner least _ _ => 0 < least && inner.endsText
  | _ => false

/-! ## Sequences -/

def parts : Regex → List Regex
  | .empty => []
  | .seq first second => first.parts ++ second.parts
  | r => [r]

def prepend : Regex → Regex → Regex
  | .literal v, .literal w => .literal (v ++ w)
  | .literal v, .seq (.literal w) rest => .seq (.literal (v ++ w)) rest
  | part, .empty => part
  | part, rest => .seq part rest

def seqAll (list : List Regex) : Regex :=
  list.foldr prepend .empty

def concat (first second : Regex) : Regex :=
  first.parts.foldr prepend second

/-! ## Choices -/

def branches : Regex → List Regex
  | .alt left right => left.branches ++ right.branches
  | r => [r]

def altAll : List Regex → Regex
  | [] => never
  | [r] => r
  | r :: rest => .alt r (altAll rest)

def character? : Regex → Option Char
  | .literal [c] => some c
  | _ => none

def members? : Regex → Option Intervals
  | .set s => some s
  | _ => none

def sharedStart : List Regex → List Regex → List Regex
  | a :: rest, b :: rest' => if a = b then a :: sharedStart rest rest' else []
  | _, _ => []

/-- What all branches start with.  Branches that are no sequences share nothing. -/
def sharedStartOf (list : List Regex) : List Regex :=
  match list.map parts with
  | [] => []
  | first :: rest =>
      if (first :: rest).all (2 ≤ ·.length) then rest.foldl sharedStart first else []

/-- The number of signs of an expression. -/
def weight : Regex → Nat
  | .group _ inner => 1 + inner.weight
  | .seq first second => 1 + first.weight + second.weight
  | .alt left right => 1 + left.weight + right.weight
  | .rep inner _ _ _ => 1 + inner.weight
  | _ => 1

/-- A choice in normal form.  What the branches share is drawn out again and again; each time the
branches lose a sign, so the number of their signs is fuel enough. -/
def choiceWithin : Nat → List Regex → Regex
  | 0, list => altAll list
  | fuel + 1, list =>
      match list.flatMap branches with
      | [] => never
      | [r] => r
      | list =>
          -- characters and sets make one set
          match list.mapM character? with
          | some chars => ofMembers (.ofList (chars.map fun c => ⟨c.toNat, c.toNat⟩))
          | none =>
              match list.mapM members? with
              | some sets => ofMembers (.ofList sets.flatten)
              | none =>
                  match sharedStartOf list with
                  | [] => altAll list
                  | shared =>
                      let rests := list.map fun r => seqAll (r.parts.drop shared.length)
                      shared.foldr prepend (choiceWithin fuel rests)

/-- A choice in normal form. -/
def choice (list : List Regex) : Regex :=
  choiceWithin (list.foldl (fun signs r => signs + r.weight) 1) list

/-! ## Repetitions -/

/-- A repetition in normal form.  What takes no character is repeated once at most. -/
def repeated (inner : Regex) (least : Nat) (most : Option Nat) (preferMany : Bool) : Regex :=
  let (least, most) :=
    if inner.takesNothing then (min least 1, some (min (most.getD 1) 1)) else (least, most)
  if most = some 0 then .empty
  else if least = 1 ∧ most = some 1 then inner
  else .rep inner least most preferMany

end Regex
end TextHygiene
