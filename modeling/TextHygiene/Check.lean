import TextHygiene.Line
import TextHygiene.Settings
import TextHygiene.Text.Digits
import TextHygiene.Unicode.Word

/-!
# Checks

What each rule says about one line.  A rule sees the line, its two neighbours, and three facts about
its place in the file, all gathered in a `Context`; it answers with a message when it is broken.  No
rule looks further, and the two rules about whole files never speak here.
-/

namespace TextHygiene

/-- A line with all that the rules may see around it. -/
structure Context where
  /-- The number of the line, from one. -/
  number : Nat
  line : Line
  /-- The line directly above. -/
  above : Option Line
  /-- The line directly below. -/
  below : Option Line
  /-- How many blank lines in a row end with this one. -/
  blankRun : Nat
  /-- The line is the first of the blank lines that end the file. -/
  startsTrailingBlanks : Bool
deriving DecidableEq, Repr

namespace Context

def isLast (ctx : Context) : Bool :=
  ctx.below.isNone

end Context

namespace Check

def report (broken : Bool) (message : Text) : Option Text :=
  if broken then some message else none

/-! ## Layout -/

/-- A space or a tab at the very end of a line. -/
def endsInSpace (text : Text) : Bool :=
  text.getLast?.any fun c => c == ' ' || c == '\t'

def trailingWhitespace (line : Line) : Option Text :=
  report (endsInSpace line.text) "There should be no whitespace at the end of a line.".toList

def lineTooLong (settings : Settings) (line : Line) : Option Text :=
  report (settings.maxLineLength.toNat < line.length)
    ("Line is ".toList ++ Text.decimal line.length ++ " characters long, maximum is ".toList ++
      Text.decimal settings.maxLineLength.toNat ++ ".".toList)

def sectionHeaderLength (settings : Settings) (line : Line) : Option Text :=
  let length := (Text.trim line.text).length
  report (isSectionHeader line.text && length != settings.headerLength.toNat)
    ("Section header is ".toList ++ Text.decimal length ++
      " characters long, it should be ".toList ++ Text.decimal settings.headerLength.toNat ++
      ".".toList)

/-! ## Indentation -/

def tabIndentation (settings : Settings) (line : Line) : Option Text :=
  report (!line.isBlank && line.leading.contains '\t')
    ((if line.leading.contains ' ' then "Indentation mixes tabs and spaces, use ".toList
      else "Don't use tabs for indentation, use ".toList) ++
      Text.decimal settings.indentSize.toNat ++ " spaces per level.".toList)

def indentSize (settings : Settings) (line : Line) : Option Text :=
  report
    (!line.isBlank && !line.leading.contains '\t' && 0 < settings.indentSize &&
      line.leading.length % settings.indentSize.toNat != 0)
    ("Use ".toList ++ Text.decimal settings.indentSize.toNat ++
      " spaces per indentation level.".toList)

/-- How far a line may be indented below another: one level more.  The sum wraps around at 64 bits,
so that below a line with an indentation of its own a huge level comes to next to nothing. -/
def oneLevelBelow (settings : Settings) (above : Line) : UInt64 :=
  UInt64.ofNat above.indent + settings.indentSize

def overIndentation (settings : Settings) (ctx : Context) : Option Text :=
  report
    (!ctx.line.isBlank &&
      ctx.above.any fun above =>
        !above.isBlank && (oneLevelBelow settings above).toNat < ctx.line.indent)
    ("Don't indent for more than one level (".toList ++ Text.decimal settings.indentSize.toNat ++
      " spaces) at a time.".toList)

/-! ## Blank lines -/

def openingBrackets : List Char :=
  ['{', '[', '(', '<']

def closingBrackets : List Char :=
  ['}', ']', ')', '>']

/-- The last character of a line, trailing blanks aside, opens a block. -/
def opensBlock (line : Line) : Bool :=
  (Text.trim line.text).getLast?.any openingBrackets.contains

/-- The first character of a line, leading blanks aside, closes a block. -/
def closesBlock (line : Line) : Bool :=
  (Text.trim line.text).head?.any closingBrackets.contains

def excessiveBlankLines (settings : Settings) (ctx : Context) : Option Text :=
  report (ctx.line.isBlank && settings.maxBlankLines.toNat < ctx.blankRun)
    ("There should be no more than ".toList ++ Text.decimal settings.maxBlankLines.toNat ++
      " consecutive empty line(s).".toList)

def trailingBlankLines (ctx : Context) : Option Text :=
  report (ctx.line.isBlank && ctx.startsTrailingBlanks)
    "There should be no empty lines at the end of the file.".toList

def missingFinalNewline (ctx : Context) : Option Text :=
  report (ctx.isLast && !ctx.line.terminated)
    "There should be a line break at the end of the file.".toList

def leadingBlankLines (ctx : Context) : Option Text :=
  report (ctx.line.isBlank && ctx.number == 1)
    "There should be no empty lines at the start of the file.".toList

def blankLineAfterOpeningBracket (ctx : Context) : Option Text :=
  report (ctx.line.isBlank && ctx.above.any opensBlock)
    "There should be no empty lines at the start of a parenthesis block.".toList

def blankLineBeforeClosingBracket (ctx : Context) : Option Text :=
  report (ctx.line.isBlank && ctx.below.any closesBlock)
    "There should be no empty lines at the end of a parenthesis block.".toList

def blankLineAfterSectionHeader (settings : Settings) (ctx : Context) : Option Text :=
  report
    (ctx.line.isBlank && ctx.above.any (isSectionHeader ·.text) &&
      !ctx.below.any (isLineComment settings.lineComment ·.text))
    "There should be no empty lines after the section header.".toList

/-! ## Spacing -/

/-- A line with a row of four equal signs is a ruler, in which equal signs need no spaces. -/
def isRuler (text : Text) : Bool :=
  Text.occurs "====".toList text

/-- A small letter `a` to `z` or a digit. -/
def isSmallOrDigit (c : Char) : Bool :=
  c.isLower || c.isDigit

/-- What must be parted from an equal sign behind it. -/
def needsSpaceBeforeEquals (c : Char) : Bool :=
  isSmallOrDigit c || [')', ']', '}', '\x22', '\x27'].contains c

/-- What must be parted from an equal sign in front of it. -/
def needsSpaceAfterEquals (c : Char) : Bool :=
  isSmallOrDigit c || ['(', '[', '{', '\x22', '\x27'].contains c

/-- What must be parted from a comma or semicolon in front of it. -/
def needsSpaceAfterSeparator (c : Char) : Bool :=
  Unicode.isWord c || c == '('

def multipleSpaces (text : Text) : Option Text :=
  report (Text.occurs "  ".toList (Text.trim text))
    "There should be no multiple consecutive spaces in a line.".toList

def spaceBeforeComma (text : Text) : Option Text :=
  report (Text.occurs " ,".toList (Text.trim text)) "There should be no space before comma.".toList

def spaceBeforeSemicolon (text : Text) : Option Text :=
  report (Text.occurs " ;".toList (Text.trim text))
    "There should be no space before semicolon.".toList

def spaceAfterOpeningParen (text : Text) : Option Text :=
  report (Text.occurs "( ".toList (Text.trim text))
    "There should be no space after opening parentheses.".toList

def spaceBeforeClosingParen (text : Text) : Option Text :=
  report (Text.occurs " )".toList (Text.trim text))
    "There should be no space before closing parentheses.".toList

def missingSpaceAfterComma (text : Text) : Option Text :=
  report (Text.hasPair (· == ',') needsSpaceAfterSeparator text)
    "There should be a space after comma.".toList

def missingSpaceAfterSemicolon (text : Text) : Option Text :=
  report (Text.hasPair (· == ';') needsSpaceAfterSeparator text)
    "There should be a space after semicolon.".toList

def missingSpaceBeforeEquals (text : Text) : Option Text :=
  report (!isRuler text && Text.hasPair needsSpaceBeforeEquals (· == '=') text)
    "There should be a space before equal sign.".toList

def missingSpaceAfterEquals (text : Text) : Option Text :=
  report (!isRuler text && Text.hasPair (· == '=') needsSpaceAfterEquals text)
    "There should be a space after equal sign.".toList

/-! ## Comments -/

/-- The marker occurs in a line that is not a section header. -/
def mentionsMarker (marker text : Text) : Bool :=
  !marker.isEmpty && Text.occurs marker text && !isSectionHeader text

def missingSpaceAfterCommentMarker (settings : Settings) (text : Text) : Option Text :=
  settings.lineComment.bind fun marker =>
    report
      (mentionsMarker marker text && !Text.occurs (marker ++ [' ']) text &&
        !marker.isSuffixOf (Text.trimEnd text))
      "There should be a space between comment syntax characters and comment text.".toList

def missingSpaceBeforeCommentMarker (settings : Settings) (text : Text) : Option Text :=
  settings.lineComment.bind fun marker =>
    report
      (mentionsMarker marker text && !Text.occurs (' ' :: marker) text &&
        !isLineComment (some marker) text)
      "There should be a space before comment syntax characters.".toList

end Check

/-- The message of a rule about a line, if the line breaks it. -/
def Rule.check (rule : Rule) (settings : Settings) (ctx : Context) : Option Text :=
  match rule with
  | .trailingWhitespace => Check.trailingWhitespace ctx.line
  | .lineTooLong => Check.lineTooLong settings ctx.line
  | .tabIndentation => Check.tabIndentation settings ctx.line
  | .indentSize => Check.indentSize settings ctx.line
  | .overIndentation => Check.overIndentation settings ctx
  | .excessiveBlankLines => Check.excessiveBlankLines settings ctx
  | .sectionHeaderLength => Check.sectionHeaderLength settings ctx.line
  | .trailingBlankLines => Check.trailingBlankLines ctx
  | .missingFinalNewline => Check.missingFinalNewline ctx
  | .leadingBlankLines => Check.leadingBlankLines ctx
  | .blankLineAfterOpeningBracket => Check.blankLineAfterOpeningBracket ctx
  | .blankLineBeforeClosingBracket => Check.blankLineBeforeClosingBracket ctx
  | .blankLineAfterSectionHeader => Check.blankLineAfterSectionHeader settings ctx
  | .multipleSpaces => Check.multipleSpaces ctx.line.text
  | .spaceBeforeComma => Check.spaceBeforeComma ctx.line.text
  | .spaceBeforeSemicolon => Check.spaceBeforeSemicolon ctx.line.text
  | .spaceAfterOpeningParen => Check.spaceAfterOpeningParen ctx.line.text
  | .spaceBeforeClosingParen => Check.spaceBeforeClosingParen ctx.line.text
  | .missingSpaceAfterComma => Check.missingSpaceAfterComma ctx.line.text
  | .missingSpaceAfterSemicolon => Check.missingSpaceAfterSemicolon ctx.line.text
  | .missingSpaceBeforeEquals => Check.missingSpaceBeforeEquals ctx.line.text
  | .missingSpaceAfterEquals => Check.missingSpaceAfterEquals ctx.line.text
  | .missingSpaceAfterCommentMarker =>
      Check.missingSpaceAfterCommentMarker settings ctx.line.text
  | .missingSpaceBeforeCommentMarker =>
      Check.missingSpaceBeforeCommentMarker settings ctx.line.text
  -- about a whole file, not about a line
  | .unclosedDirective => none
  | .unreadableFile => none

end TextHygiene
