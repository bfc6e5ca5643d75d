import TextHygiene.Dict
import TextHygiene.Line
import TextHygiene.Unicode.Lowercase

/-!
# Configuration files

A configuration file is a sequence of `[section]` headers, each followed by `key = value` or
`key: value` lines.  Blank lines and lines that start with `#` or `;` are passed over.  Keys are put
into small letters, values are kept as they are written.  A section may be opened again, and a key
may be set again: the later value stands, in the place of the first.

Every line is classified on its own by `Item.ofLine`; reading then depends only on the items.  The
first line that does not fit is reported with its number.
-/

namespace TextHygiene

/-- The options of one section. -/
abbrev Options := Dict Text

/-- The sections of a configuration file. -/
abbrev Sections := Dict Options

namespace Ini

/-! ## Lines -/

/-- What a line of a configuration file is. -/
inductive Item where
  /-- A blank line or a comment. -/
  | ignored
  /-- A section header. -/
  | header (name : Text)
  /-- A line that starts like a header and is none. -/
  | badHeader
  /-- A key with its value. -/
  | pair (key value : Text)
  /-- Anything else. -/
  | junk
deriving DecidableEq, Repr

/-- The name in a header: what stands between the brackets, trimmed, if it is not empty and holds no
further bracket. -/
def headerName? (line : Text) : Option Text := do
  let inner ← Text.after? ['['] line
  let inner ← Text.before? ']' inner
  let name := Text.trim inner
  if name.isEmpty || name.any (fun c => c == '[' || c == ']') then none else some name

/-- The key and the value on either side of the first `=` or `:`, both trimmed, if the key is not
empty. -/
def pair? (line : Text) : Option (Text × Text) := do
  let (left, right) ← Text.cut? (fun c => c == '=' || c == ':') line
  let key := Text.trim left
  if key.isEmpty then none else some (key, Text.trim right)

/-- A line without its surrounding blanks, classified. -/
def Item.ofTrimmed (line : Text) : Item :=
  match line with
  | [] => .ignored
  | c :: _ =>
      if c == '#' || c == ';' then .ignored
      else if c == '[' then
        -- a line that starts like a header is never read as a pair
        match headerName? line with
        | some name => .header name
        | none => .badHeader
      else
        match pair? line with
        | some (key, value) => .pair key value
        | none => .junk

def Item.ofLine (line : Text) : Item :=
  Item.ofTrimmed (Text.trim line)

/-! ## Reading -/

/-- What can be wrong with a line. -/
inductive Fault where
  | badHeader
  | junk
  | pairOutsideSection
deriving DecidableEq, Repr

def Fault.message : Fault → Text
  | badHeader => "malformed section header".toList
  | junk => "expected `key = value` or `[section]`".toList
  | pairOutsideSection => "option defined before any section header".toList

/-- The first line that could not be read. -/
structure SyntaxError where
  /-- The number of the line, from one. -/
  line : Nat
  fault : Fault
deriving DecidableEq, Repr

/-- What has been read so far. -/
structure State where
  sections : Sections := Dict.empty
  /-- The section that the next pair belongs to. -/
  current : Option Text := none

/-- Opens a section, which keeps the options it already has. -/
def openSection (sections : Sections) (name : Text) : Sections :=
  sections.update name fun options => options.getD Dict.empty

def setOption (sections : Sections) (name key value : Text) : Sections :=
  sections.update name fun options => (options.getD Dict.empty).set key value

def State.step (state : State) : Item → Except Fault State
  | .ignored => .ok state
  | .header name => .ok ⟨openSection state.sections name, some name⟩
  | .badHeader => .error .badHeader
  | .junk => .error .junk
  | .pair key value =>
      match state.current with
      | some name => .ok ⟨setOption state.sections name (Text.lowercase key) value, some name⟩
      | none => .error .pairOutsideSection

def State.run (number : Nat) (state : State) : List Text → Except SyntaxError State
  | [] => .ok state
  | line :: lines =>
      match state.step (Item.ofLine line) with
      | .ok next => next.run (number + 1) lines
      | .error fault => .error ⟨number, fault⟩

/-- Reads a configuration file. -/
def read (content : Text) : Except SyntaxError Sections :=
  (State.run 1 {} ((Line.split content).map (·.text))).map (·.sections)

end Ini

end TextHygiene
