import TextHygiene.Regex.Automaton.Size
import TextHygiene.Regex.Reader

/-!
# Reading expressions

An expression is read from left to right.  Open groups wait on a stack; each of them remembers what
stood in front of it.  Reading fails on a group that is not closed or was never opened, on a
repetition with nothing to repeat, on a group name used twice, and on whatever the readers refuse.
Expressions that are nested too deeply, or that would need too large an automaton, are refused as
well.
-/

namespace TextHygiene
namespace Regex

namespace Parser

/-! ## State -/

/-- A run of pieces under way, with the finished alternatives in front of it; both are kept in
reverse. -/
structure Run where
  pieces : List Expr := []
  alternatives : List Expr := []

def Run.close (run : Run) : Expr :=
  .altAll ((.seqAll run.pieces.reverse :: run.alternatives).reverse)

def Run.push (run : Run) (piece : Expr) : Run :=
  { run with pieces := piece :: run.pieces }

/-- An open group: what stood in front of it, and what to restore behind it. -/
structure Frame where
  outer : Run
  number : Option Nat
  change : FlagChange
  spaced : Bool

/-- What has been read so far. -/
structure State where
  run : Run := {}
  frames : List Frame := []
  /-- Blanks and comments are passed over. -/
  spaced : Bool := false
  /-- The number of groups that are remembered. -/
  groups : Nat := 0
  /-- The group names in use. -/
  names : List Text := []

/-! ## Steps -/

def State.openGroup (state : State) (number : Option Nat) (change : FlagChange) : State :=
  { state with
    run := {}
    frames := ⟨state.run, number, change, state.spaced⟩ :: state.frames
    spaced := change.state .ignoreSpace state.spaced }

def State.openNumbered (state : State) : State :=
  { state.openGroup (some (state.groups + 1)) {} with groups := state.groups + 1 }

/-- Takes in the start of a group or a change of flags. -/
def State.take (state : State) : Reader.Opening → Option State
  | .flags change =>
      some { state with
        run := state.run.push (.flags change)
        spaced := change.state .ignoreSpace state.spaced }
  | .group change => some (state.openGroup none change)
  | .numbered => some state.openNumbered
  | .named name =>
      if state.names.contains name then none
      else some { state.openNumbered with names := name :: state.names }

def State.closeGroup (state : State) : Option State :=
  match state.frames with
  | [] => none
  | frame :: frames =>
      some { state with
        run := frame.outer.push (.group frame.number frame.change state.run.close)
        frames
        spaced := frame.spaced }

def State.bar (state : State) : State :=
  { state with
    run := ⟨[], .seqAll state.run.pieces.reverse :: state.run.alternatives⟩ }

/-- Repeats the last piece, in front of a text that may start with the mark of a repetition that
prefers few.  A change of flags cannot be repeated. -/
def State.repeatLast (state : State) (least : Nat) (most : Option Nat) (t : Text) :
    Option (State × Text) :=
  match state.run.pieces with
  | [] | .flags _ :: _ => none
  | piece :: pieces =>
      let (marked, rest) := ((Text.after? ['?'] t).map (true, ·)).getD (false, t)
      let run : Run := { state.run with pieces := .rep piece least most marked :: pieces }
      some ({ state with run }, rest)

def State.step (state : State) (c : Char) (rest : Text) : Option (State × Text) :=
  match c with
  | '(' => do
      let (opening, rest) ← Reader.opening state.spaced rest
      return (← state.take opening, rest)
  | ')' => do return (← state.closeGroup, rest)
  | '|' => some (state.bar, rest)
  | '[' => do
      let (written, rest) ← Reader.bracketClass state.spaced rest
      return ({ state with run := state.run.push (.set written) }, rest)
  | '?' => state.repeatLast 0 (some 1) rest
  | '*' => state.repeatLast 0 none rest
  | '+' => state.repeatLast 1 none rest
  -- a brace that holds no bounds cannot be read
  | '{' => do
      let ((least, most), rest) ← Reader.bounds state.spaced rest
      state.repeatLast least most (Reader.skip state.spaced rest)
  | '\\' => do
      let (piece, rest) ← Reader.escape state.spaced rest
      return ({ state with run := state.run.push piece }, rest)
  | '.' => some ({ state with run := state.run.push .dot }, rest)
  | '^' => some ({ state with run := state.run.push (.anchor .caret) }, rest)
  | '$' => some ({ state with run := state.run.push (.anchor .dollar) }, rest)
  | c => some ({ state with run := state.run.push (.char c) }, rest)

/-- Reads to the end.  Every step takes a character, so the length of the text is fuel enough. -/
def State.read : Nat → State → Text → Option State
  | 0, _, _ => none
  | fuel + 1, state, t =>
      match Reader.skip state.spaced t with
      | [] => some state
      | c :: rest => do
          let (state, rest) ← state.step c rest
          State.read fuel state rest

end Parser

/-- Reads a written expression. -/
def Expr.parse? (t : Text) : Option Expr := do
  let state ← Parser.State.read (t.length + 1) {} t
  if state.frames.isEmpty then some state.run.close else none

def depthLimit : Nat :=
  250

/-- The meaning of a text that is read as an expression, if neither its nesting nor its automata go
beyond the limits. -/
def compile? (t : Text) : Option Regex := do
  let expr ← Expr.parse? t
  let meaning ← expr.meaning?
  if expr.depth .other ≤ depthLimit && meaning.fits then some meaning else none

end Regex
end TextHygiene
