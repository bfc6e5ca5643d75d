import TextHygiene.Line

/-!
# Directives

A line may end in a directive.  `SKIP` exempts the line that carries it.  `OFF` exempts its own line
and all lines after it up to the next `ON`, which is itself inspected again.  `Suppression` is what
the directives of a whole file amount to.
-/

namespace TextHygiene

/-- What a line can say to the inspector. -/
inductive Directive where
  | skip
  | off
  | on
deriving DecidableEq, Repr

namespace Directive

/-- The ending that carries a directive, with the space that must stand in front of it. -/
def ending : Directive → Text
  | skip => " CodeDust: SKIP".toList
  | off => " CodeDust: OFF".toList
  | on => " CodeDust: ON".toList

/-- The directive that a line ends in, trailing blanks aside. -/
def of? (text : Text) : Option Directive :=
  [skip, off, on].find? fun d => d.ending.isSuffixOf (Text.trimEnd text)

end Directive

/-- Which lines of a file are exempt from inspection. -/
structure Suppression where
  /-- One entry per line: the line is exempt. -/
  exempt : List Bool
  /-- The line of an `OFF` that no `ON` follows. -/
  unclosed : Option Nat
deriving DecidableEq, Repr

namespace Suppression

/-- The line of the `OFF` in force after a line with directive `d`, where `off` was in force
before it. -/
def offAfter (number : Nat) (off : Option Nat) : Option Directive → Option Nat
  | some .off => some number
  | some .on => none
  | _ => off

/-- Reads the directives of lines numbered from `number` while the `OFF` of line `off` is in
force. -/
def scanFrom (number : Nat) (off : Option Nat) : List Line → Suppression
  | [] => ⟨[], off⟩
  | line :: lines =>
      let directive := Directive.of? line.text
      let off := offAfter number off directive
      let rest := scanFrom (number + 1) off lines
      ⟨(off.isSome || directive == some .skip) :: rest.exempt, rest.unclosed⟩

def scan (lines : List Line) : Suppression :=
  scanFrom 1 none lines

/-- The line at a place, counted from zero, is exempt.  Places past the end are not. -/
def exempts (s : Suppression) (place : Nat) : Bool :=
  s.exempt.getD place false

end Suppression

end TextHygiene
