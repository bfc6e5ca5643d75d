import TextHygiene.Unicode.Case
import TextHygiene.Unicode.Word

/-!
# Recent additions

The tables of this library describe the characters of edition 16 of the Unicode standard, which rules
and expressions go by.  Letter case in texts and the letters of names go by edition 17, which adds
the characters listed here.
-/

namespace TextHygiene
namespace Unicode
namespace Recent

/-! ## Tables -/

def addedShifts : List Shift := [
  ⟨⟨0xA7CE, 0xA7CE, 1⟩, 0xA7CF⟩, ⟨⟨0xA7D2, 0xA7D4, 2⟩, 0xA7D3⟩, ⟨⟨0x16EA0, 0x16EB8, 1⟩, 0x16EBB⟩]

def addedCased : List Span := [
  ⟨0xA7CE, 0xA7CF, 1⟩, ⟨0xA7D2, 0xA7D2, 1⟩, ⟨0xA7D4, 0xA7D4, 1⟩, ⟨0xA7F1, 0xA7F1, 1⟩,
  ⟨0x16EA0, 0x16EB8, 1⟩, ⟨0x16EBB, 0x16ED3, 1⟩]

/-- Letters that count as letters with case no longer. -/
def formerlyCased : List Span := [⟨0x295, 0x295, 1⟩]

/-- Characters that are passed over when the end of a word is looked for. -/
def addedCaseIgnorable : List Span := [
  ⟨0x1ACF, 0x1ADD, 1⟩, ⟨0x1AE0, 0x1AEB, 1⟩, ⟨0xA7F1, 0xA7F1, 1⟩, ⟨0x10EC5, 0x10EC5, 1⟩,
  ⟨0x10EFA, 0x10EFB, 1⟩, ⟨0x11B60, 0x11B60, 1⟩, ⟨0x11B62, 0x11B64, 1⟩, ⟨0x11B66, 0x11B66, 1⟩,
  ⟨0x11DD9, 0x11DD9, 1⟩, ⟨0x16FF2, 0x16FF3, 1⟩, ⟨0x1E6E3, 0x1E6E3, 1⟩, ⟨0x1E6E6, 0x1E6E6, 1⟩,
  ⟨0x1E6EE, 0x1E6EF, 1⟩, ⟨0x1E6F5, 0x1E6F5, 1⟩, ⟨0x1E6FF, 0x1E6FF, 1⟩]

def addedAlphabetic : List Span := [
  ⟨0x88F, 0x88F, 1⟩, ⟨0xC5C, 0xC5C, 1⟩, ⟨0xCDC, 0xCDC, 1⟩, ⟨0xA7CE, 0xA7CF, 1⟩,
  ⟨0xA7D2, 0xA7D2, 1⟩, ⟨0xA7D4, 0xA7D4, 1⟩, ⟨0xA7F1, 0xA7F1, 1⟩, ⟨0x10940, 0x10959, 1⟩,
  ⟨0x10EC5, 0x10EC7, 1⟩, ⟨0x10EFA, 0x10EFB, 1⟩, ⟨0x11B60, 0x11B67, 1⟩, ⟨0x11DB0, 0x11DDB, 1⟩,
  ⟨0x16EA0, 0x16EB8, 1⟩, ⟨0x16EBB, 0x16ED3, 1⟩, ⟨0x16FF2, 0x16FF6, 1⟩, ⟨0x187F8, 0x187FF, 1⟩,
  ⟨0x18D09, 0x18D1E, 1⟩, ⟨0x18D80, 0x18DF2, 1⟩, ⟨0x1E6C0, 0x1E6DE, 1⟩, ⟨0x1E6E0, 0x1E6F5, 1⟩,
  ⟨0x1E6FE, 0x1E6FF, 1⟩, ⟨0x2B73A, 0x2B73F, 1⟩, ⟨0x2CEA2, 0x2CEAD, 1⟩, ⟨0x323B0, 0x33479, 1⟩]

def addedNumbers : List Span := [⟨0x11DE0, 0x11DE9, 1⟩, ⟨0x16FF4, 0x16FF6, 1⟩]

/-! ## Properties

The properties of the tables of this library, with the additions. -/

def isCased (c : Char) : Bool :=
  (Unicode.isCased c && !covers formerlyCased c) || covers addedCased c

def isCaseIgnorable (c : Char) : Bool :=
  Unicode.isCaseIgnorable c || covers addedCaseIgnorable c

def isAlphabetic (c : Char) : Bool :=
  Unicode.isAlphabetic c || covers addedAlphabetic c

/-- A numeral of any kind. -/
def isNumeric (c : Char) : Bool :=
  inCategories Category.numbers c || covers addedNumbers c

def lowercased (c : Char) : Char :=
  shifted addedShifts (shifted lowercaseShifts c)

end Recent
end Unicode
end TextHygiene
