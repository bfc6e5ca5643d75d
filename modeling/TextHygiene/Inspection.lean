import TextHygiene.Check
import TextHygiene.Directive

/-!
# Inspection

Inspecting the contents of one file.  Every enabled rule is asked about every line that no directive
exempts, and an `OFF` without an `ON` is reported on its own line.  Issues come out by line and, on
one line, in reporting order: an unclosed `OFF` exempts its own line and all lines after it, so that
its issue is always the last.
-/

namespace TextHygiene

/-- A rule broken on a line. -/
structure Issue where
  /-- The number of the line, from one. -/
  line : Nat
  rule : Rule
  message : Text
deriving DecidableEq, Repr

namespace Context

/-- The contexts of lines numbered from `number` that stand below the line `above`, where `run`
blank lines in a row end with that line. -/
def listFrom (number : Nat) (above : Option Line) (run : Nat) : List Line → List Context
  | [] => []
  | line :: lines =>
      let run := if line.isBlank then run + 1 else 0
      { number, line, above, below := lines.head?, blankRun := run,
        startsTrailingBlanks := run == 1 && lines.all (·.isBlank) } ::
        listFrom (number + 1) (some line) run lines

def list (lines : List Line) : List Context :=
  listFrom 1 none 0 lines

end Context

namespace Inspection

/-- The mark that a text may start with to show its encoding. -/
def byteOrderMark : Char :=
  '\ufeff'

/-- Contents without one leading byte order mark. -/
def withoutMark (contents : Text) : Text :=
  (Text.after? [byteOrderMark] contents).getD contents

def ofLine (settings : Settings) (ctx : Context) : List Issue :=
  (Rule.all.filter settings.enables).filterMap fun rule =>
    (rule.check settings ctx).map fun message => ⟨ctx.number, rule, message⟩

/-- The issue of an `OFF` that is never turned back on. -/
def ofUnclosed (settings : Settings) (unclosed : Option Nat) : List Issue :=
  match unclosed with
  | some number =>
      if settings.enables .unclosedDirective then
        [⟨number, .unclosedDirective, "CodeDust should be re-enabled afterwards.".toList⟩]
      else []
  | none => []

/-- The contexts whose line is not exempt. -/
def inspected (suppression : Suppression) (contexts : List Context) : List Context :=
  ((contexts.zip suppression.exempt).filter fun (_, exempt) => !exempt).map (·.1)

def ofLines (settings : Settings) (lines : List Line) : List Issue :=
  let suppression := Suppression.scan lines
  (inspected suppression (Context.list lines)).flatMap (ofLine settings) ++
    ofUnclosed settings suppression.unclosed

end Inspection

/-- The issues of the contents of a file. -/
def inspect (settings : Settings) (contents : Text) : List Issue :=
  Inspection.ofLines settings (Line.split (Inspection.withoutMark contents))

end TextHygiene
