import TextHygiene.Path
import TextHygiene.Regex.Parser

/-!
# Ignore patterns

A pattern is searched for anywhere in a path.  Without signs that mean something in a regular
expression it is plain text; with such a sign it is a regular expression.  A pattern written between
slashes stands for what is between them.
-/

namespace TextHygiene

/-- A pattern that excludes paths. -/
inductive Pattern where
  | literal (body : Text)
  | regex (body : Text) (expression : Regex)
deriving DecidableEq, Repr

/-- Why a pattern cannot be used. -/
inductive PatternError where
  | empty
  | invalid (body : Text)
deriving DecidableEq, Repr

namespace Pattern

def signs : List Char :=
  ['.', '^', '$', '*', '+', '?', '(', ')', '[', ']', '{', '}', '|', '\\']

/-- What stands between a leading and a trailing slash, if there is anything; otherwise the pattern
itself. -/
def stripped (pattern : Text) : Text :=
  match (Text.after? ['/'] pattern).bind (Text.before? '/') with
  | some (c :: rest) => c :: rest
  | _ => pattern

def hasSign (body : Text) : Bool :=
  body.any signs.contains

def compile (pattern : Text) : Except PatternError Pattern :=
  let body := stripped pattern
  if body.isEmpty then .error .empty
  else if hasSign body then
    match Regex.compile? body with
    | some expression => .ok (.regex body expression)
    | none => .error (.invalid body)
  else .ok (.literal body)

/-- The text that is searched for. -/
def body : Pattern → Text
  | literal body => body
  | regex body _ => body

def hits (pattern : Pattern) (path : Text) : Bool :=
  match pattern with
  | literal body => Text.occurs body path
  | regex _ expression => expression.isMatch path

end Pattern

end TextHygiene
