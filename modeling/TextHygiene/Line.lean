import TextHygiene.Text.Blank

/-!
# Lines

A file is a list of lines.  A line feed ends a line, together with one carriage return directly in
front of it; a last piece of text without a line feed is a line too.  `Line.joined` writes lines
back, which is how splitting is shown to lose nothing.
-/

namespace TextHygiene

/-- One line of a file, without its line break. -/
structure Line where
  text : Text
  /-- The line ended with a line feed. -/
  terminated : Bool
deriving DecidableEq, Repr

namespace Line

/-! ## Splitting and joining -/

/-- Splits text after every line feed, leaving carriage returns in place. -/
def cutAtLineFeeds : Text → List Line
  | [] => []
  | c :: rest =>
      if c = '\n' then ⟨[], true⟩ :: cutAtLineFeeds rest
      else
        match cutAtLineFeeds rest with
        | [] => [⟨[c], false⟩]
        | line :: lines => ⟨c :: line.text, line.terminated⟩ :: lines

/-- A terminated line without the one carriage return that belongs to its line break. -/
def dropReturn (line : Line) : Line :=
  if line.terminated then ⟨(Text.before? '\r' line.text).getD line.text, true⟩ else line

/-- The lines of a text. -/
def split (contents : Text) : List Line :=
  (cutAtLineFeeds contents).map dropReturn

/-- A line written back, with a line feed if it was terminated. -/
def written (line : Line) : Text :=
  line.text ++ if line.terminated then ['\n'] else []

def joined (lines : List Line) : Text :=
  lines.flatMap written

/-- Before carriage returns are dropped, splitting is undone by joining. -/
theorem joined_cutAtLineFeeds (contents : Text) : joined (cutAtLineFeeds contents) = contents := by
  induction contents with
  | nil => rfl
  | cons c rest ih =>
      by_cases h : c = '\n'
      · simp_all [cutAtLineFeeds, joined, written]
      · cases hr : cutAtLineFeeds rest with
        | nil =>
            rw [hr] at ih
            simp_all [cutAtLineFeeds, joined, written]
        | cons line lines =>
            rw [hr] at ih
            simp only [cutAtLineFeeds, h, if_false, hr]
            simpa [joined, written] using ih

/-! ## What a line looks like -/

def isBlank (line : Line) : Bool :=
  (Text.trim line.text).isEmpty

def leading (line : Line) : Text :=
  line.text.takeWhile fun c => c == ' ' || c == '\t'

def indent (line : Line) : Nat :=
  (line.text.takeWhile (· == ' ')).length

def length (line : Line) : Nat :=
  line.text.length

end Line

/-! ## Section headers and comments -/

def headerCharacters : List Char :=
  ['#', '/', '-']

def headerMinimum : Nat :=
  3

/-- A row of one header character, such as `########`, with nothing but blanks around it. -/
def isSectionHeader (text : Text) : Bool :=
  match Text.trim text with
  | [] => false
  | c :: rest =>
      headerCharacters.contains c && rest.all (· == c) && headerMinimum ≤ rest.length + 1

/-- A line that starts with the comment marker, blanks aside.  Without a marker, or with an empty
one, no line is a comment. -/
def isLineComment (marker : Option Text) (text : Text) : Bool :=
  marker.any fun m => !m.isEmpty && m.isPrefixOf (Text.trimStart text)

end TextHygiene
