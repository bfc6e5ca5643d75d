import TextHygiene.Unicode.Property.Case
import TextHygiene.Unicode.Property.WordPart

/-!
# Properties: parts of sentences

The part of each character in telling where sentences start and end.
-/

namespace TextHygiene
namespace Unicode
namespace Property

/-! ## Letters -/

def sentenceExtend : Intervals :=
  .union graphemeExtend (.ofSpans (⟨0x200D, 0x200D, 1⟩ :: spacingMarks))

/-- Small letters of a script that does not start sentences with capitals. -/
def casualSmall : List Span := [⟨0x10D0, 0x10FA, 1⟩, ⟨0x10FD, 0x10FF, 1⟩]

/-- Capitals of a script that does not start sentences with capitals. -/
def casualCapitals : List Span := [⟨0x1C90, 0x1CBA, 1⟩, ⟨0x1CBD, 0x1CBF, 1⟩]

/-- Small letters, which no sentence starts with. -/
def sentenceLower : Intervals :=
  .diff lowercase (.union sentenceExtend (.ofSpans casualSmall))

def sentenceUpper : Intervals :=
  .diff (.union uppercase (.ofSpans titlecaseLetters)) (.ofSpans casualCapitals)

/-- Letters that are neither. -/
def sentenceLetter : Intervals :=
  .diff
    (.ofSpans
      (⟨0x5F3, 0x5F3, 1⟩ :: (.letterNumber :: Category.letters).flatMap Category.spans ++
        enclosedLetters ++ alphabeticMarks))
    (.union sentenceExtend (.union sentenceLower sentenceUpper))

def sentenceNumeric : Intervals :=
  .union wordNumeric [⟨0x66C, 0x66C⟩]

/-! ## Signs -/

def fullStop : List Span := [
  ⟨0x2E, 0x2E, 1⟩, ⟨0x2024, 0x2024, 1⟩, ⟨0xFE52, 0xFE52, 1⟩, ⟨0xFF0E, 0xFF0E, 1⟩]

def quotingSign : List Span := [
  ⟨0x22, 0x22, 1⟩, ⟨0x27, 0x27, 1⟩, ⟨0x275B, 0x2760, 1⟩, ⟨0x2E00, 0x2E01, 1⟩, ⟨0x2E06, 0x2E08, 1⟩,
  ⟨0x2E0B, 0x2E0B, 1⟩, ⟨0x1F676, 0x1F678, 1⟩]

def sentenceContinue : List Span := [
  ⟨0x2C, 0x2D, 1⟩, ⟨0x3A, 0x3B, 1⟩, ⟨0x37E, 0x37E, 1⟩, ⟨0x55D, 0x55D, 1⟩, ⟨0x60C, 0x60D, 1⟩,
  ⟨0x7F8, 0x7F8, 1⟩, ⟨0x1802, 0x1802, 1⟩, ⟨0x1808, 0x1808, 1⟩, ⟨0x2013, 0x2014, 1⟩,
  ⟨0x3001, 0x3001, 1⟩, ⟨0xFE10, 0xFE11, 1⟩, ⟨0xFE13, 0xFE14, 1⟩, ⟨0xFE31, 0xFE32, 1⟩,
  ⟨0xFE50, 0xFE51, 1⟩, ⟨0xFE54, 0xFE55, 1⟩, ⟨0xFE58, 0xFE58, 1⟩, ⟨0xFE63, 0xFE63, 1⟩,
  ⟨0xFF0C, 0xFF0D, 1⟩, ⟨0xFF1A, 0xFF1B, 1⟩, ⟨0xFF64, 0xFF64, 1⟩]

def sentenceEnd : Intervals :=
  .diff (.ofSpans sentenceTerminal) (.ofSpans fullStop)

def sentenceClose : Intervals :=
  .ofSpans
    (openPunctuation ++ closePunctuation ++ initialPunctuation ++ finalPunctuation ++ quotingSign)

/-! ## Codes and blanks -/

def sentenceFormat : Intervals :=
  .diff (.ofSpans formats)
    (.union sentenceExtend (.ofSpans (⟨0x200C, 0x200D, 1⟩ :: numericSign)))

/-- Codes that end a paragraph, the two most common ones apart. -/
def paragraphEnd : List Span := [⟨0x85, 0x85, 1⟩, ⟨0x2028, 0x2029, 1⟩]

def sentenceBlank : List Span := [
  ⟨0x9, 0x9, 1⟩, ⟨0xB, 0xC, 1⟩, ⟨0x20, 0x20, 1⟩, ⟨0xA0, 0xA0, 1⟩, ⟨0x1680, 0x1680, 1⟩,
  ⟨0x2000, 0x200A, 1⟩, ⟨0x202F, 0x202F, 1⟩, ⟨0x205F, 0x205F, 1⟩, ⟨0x3000, 0x3000, 1⟩]

end Property
end Unicode
end TextHygiene
