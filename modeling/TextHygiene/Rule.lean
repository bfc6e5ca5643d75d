import TextHygiene.Text.Basic

/-!
# Rules

The closed list of checks.  The order of the constructors is the order in which the findings of one
line are reported.  Every rule has a name, shown in reports, and a code; configuration files may use
either, in any ASCII letter case.
-/

namespace TextHygiene

/-- A check that the inspector makes. -/
inductive Rule where
  | trailingWhitespace
  | lineTooLong
  | tabIndentation
  | indentSize
  | overIndentation
  | excessiveBlankLines
  | sectionHeaderLength
  | trailingBlankLines
  | missingFinalNewline
  | leadingBlankLines
  | blankLineAfterOpeningBracket
  | blankLineBeforeClosingBracket
  | blankLineAfterSectionHeader
  | multipleSpaces
  | spaceBeforeComma
  | spaceBeforeSemicolon
  | spaceAfterOpeningParen
  | spaceBeforeClosingParen
  | missingSpaceAfterComma
  | missingSpaceAfterSemicolon
  | missingSpaceBeforeEquals
  | missingSpaceAfterEquals
  | missingSpaceAfterCommentMarker
  | missingSpaceBeforeCommentMarker
  | unclosedDirective
  | unreadableFile
deriving DecidableEq, Repr

namespace Rule

def all : List Rule :=
  [trailingWhitespace, lineTooLong, tabIndentation, indentSize, overIndentation,
    excessiveBlankLines, sectionHeaderLength, trailingBlankLines, missingFinalNewline,
    leadingBlankLines, blankLineAfterOpeningBracket, blankLineBeforeClosingBracket,
    blankLineAfterSectionHeader, multipleSpaces, spaceBeforeComma, spaceBeforeSemicolon,
    spaceAfterOpeningParen, spaceBeforeClosingParen, missingSpaceAfterComma,
    missingSpaceAfterSemicolon, missingSpaceBeforeEquals, missingSpaceAfterEquals,
    missingSpaceAfterCommentMarker, missingSpaceBeforeCommentMarker, unclosedDirective,
    unreadableFile]

/-- The place of a rule in reporting order, from zero. -/
def rank (rule : Rule) : Nat :=
  all.idxOf rule

def name : Rule → Text
  | trailingWhitespace => "TrailingWhitespace".toList
  | lineTooLong => "LineTooLong".toList
  | tabIndentation => "TabIndentation".toList
  | indentSize => "IndentSize".toList
  | overIndentation => "OverIndentation".toList
  | excessiveBlankLines => "ExcessiveBlankLines".toList
  | sectionHeaderLength => "SectionHeaderLength".toList
  | trailingBlankLines => "TrailingBlankLines".toList
  | missingFinalNewline => "MissingFinalNewline".toList
  | leadingBlankLines => "LeadingBlankLines".toList
  | blankLineAfterOpeningBracket => "BlankLineAfterOpeningBracket".toList
  | blankLineBeforeClosingBracket => "BlankLineBeforeClosingBracket".toList
  | blankLineAfterSectionHeader => "BlankLineAfterSectionHeader".toList
  | multipleSpaces => "MultipleSpaces".toList
  | spaceBeforeComma => "SpaceBeforeComma".toList
  | spaceBeforeSemicolon => "SpaceBeforeSemicolon".toList
  | spaceAfterOpeningParen => "SpaceAfterOpeningParen".toList
  | spaceBeforeClosingParen => "SpaceBeforeClosingParen".toList
  | missingSpaceAfterComma => "MissingSpaceAfterComma".toList
  | missingSpaceAfterSemicolon => "MissingSpaceAfterSemicolon".toList
  | missingSpaceBeforeEquals => "MissingSpaceBeforeEquals".toList
  | missingSpaceAfterEquals => "MissingSpaceAfterEquals".toList
  | missingSpaceAfterCommentMarker => "MissingSpaceAfterCommentMarker".toList
  | missingSpaceBeforeCommentMarker => "MissingSpaceBeforeCommentMarker".toList
  | unclosedDirective => "UnclosedDirective".toList
  | unreadableFile => "UnreadableFile".toList

def code : Rule → Text
  | unreadableFile => "CD0001".toList
  | unclosedDirective => "CD0002".toList
  | leadingBlankLines => "CD0101".toList
  | trailingBlankLines => "CD0102".toList
  | missingFinalNewline => "CD0103".toList
  | excessiveBlankLines => "CD0104".toList
  | blankLineAfterOpeningBracket => "CD0105".toList
  | blankLineBeforeClosingBracket => "CD0106".toList
  | blankLineAfterSectionHeader => "CD0107".toList
  | multipleSpaces => "CD0201".toList
  | trailingWhitespace => "CD0202".toList
  | spaceBeforeComma => "CD0203".toList
  | spaceBeforeSemicolon => "CD0204".toList
  | spaceAfterOpeningParen => "CD0205".toList
  | spaceBeforeClosingParen => "CD0206".toList
  | missingSpaceAfterComma => "CD0207".toList
  | missingSpaceAfterSemicolon => "CD0208".toList
  | missingSpaceBeforeEquals => "CD0209".toList
  | missingSpaceAfterEquals => "CD0210".toList
  | tabIndentation => "CD0301".toList
  | indentSize => "CD0302".toList
  | overIndentation => "CD0303".toList
  | lineTooLong => "CD0401".toList
  | sectionHeaderLength => "CD0402".toList
  | missingSpaceAfterCommentMarker => "CD0501".toList
  | missingSpaceBeforeCommentMarker => "CD0502".toList

/-- The rule with a given code or name, ASCII letter case aside. -/
def ofKey? (key : Text) : Option Rule :=
  all.find? fun rule => Text.sameLetters rule.code key || Text.sameLetters rule.name key

theorem mem_all (rule : Rule) : rule ∈ all := by
  cases rule <;> decide

end Rule

end TextHygiene
