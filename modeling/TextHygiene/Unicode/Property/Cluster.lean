import TextHygiene.Unicode.Property.Sign

/-!
# Properties: clusters of characters

What a reader takes for one character may consist of several.  This module sorts characters by their
part in such a cluster.
-/

namespace TextHygiene
namespace Unicode
namespace Property

/-! ## Codes that stand alone -/

def clusterControl : Intervals :=
  .diff
    (.union (.inter unassigned defaultIgnorable)
      (.ofSpans (lineSeparators ++ paragraphSeparators ++ controls ++ formats)))
    (.union graphemeExtend
      (.ofSpans (⟨0xA, 0xA, 1⟩ :: ⟨0xD, 0xD, 1⟩ :: ⟨0x200C, 0x200D, 1⟩ :: prependedConcatenationMark)))

/-! ## Parts of a cluster -/

/-- What joins the cluster in front of it: marks and tones of skin. -/
def clusterExtend : Intervals :=
  .union graphemeExtend [⟨0x1F3FB, 0x1F3FF⟩]

/-- What joins the cluster behind it. -/
def clusterPrepend : List Span := [
  ⟨0x600, 0x605, 1⟩, ⟨0x6DD, 0x6DD, 1⟩, ⟨0x70F, 0x70F, 1⟩, ⟨0x890, 0x891, 1⟩, ⟨0x8E2, 0x8E2, 1⟩,
  ⟨0xD4E, 0xD4E, 1⟩, ⟨0x110BD, 0x110BD, 1⟩, ⟨0x110CD, 0x110CD, 1⟩, ⟨0x111C2, 0x111C3, 1⟩,
  ⟨0x113D1, 0x113D1, 1⟩, ⟨0x1193F, 0x1193F, 1⟩, ⟨0x11941, 0x11941, 1⟩, ⟨0x11A3A, 0x11A3A, 1⟩,
  ⟨0x11A84, 0x11A89, 1⟩, ⟨0x11D46, 0x11D46, 1⟩, ⟨0x11F02, 0x11F02, 1⟩]

/-- Marks that take room and form a cluster of their own all the same. -/
def ownCluster : List Span := [
  ⟨0x102B, 0x102C, 1⟩, ⟨0x1038, 0x1038, 1⟩, ⟨0x1062, 0x1064, 1⟩, ⟨0x1067, 0x106D, 1⟩,
  ⟨0x1083, 0x1083, 1⟩, ⟨0x1087, 0x108C, 1⟩, ⟨0x108F, 0x108F, 1⟩, ⟨0x109A, 0x109C, 1⟩,
  ⟨0x1A61, 0x1A61, 1⟩, ⟨0x1A63, 0x1A64, 1⟩, ⟨0xAA7B, 0xAA7B, 1⟩, ⟨0xAA7D, 0xAA7D, 1⟩,
  ⟨0x11720, 0x11721, 1⟩]

/-- Marks that take room and join the cluster in front of them. -/
def clusterSpacingMark : Intervals :=
  .diff
    (.ofSpans (⟨0xE33, 0xE33, 1⟩ :: ⟨0xEB3, 0xEB3, 1⟩ :: spacingMarks))
    (.union clusterExtend (.ofSpans ownCluster))

/-! ## Syllables -/

def leadingConsonant : List Span := [⟨0x1100, 0x115F, 1⟩, ⟨0xA960, 0xA97C, 1⟩]

def syllableVowel : List Span := [
  ⟨0x1160, 0x11A7, 1⟩, ⟨0xD7B0, 0xD7C6, 1⟩, ⟨0x16D63, 0x16D63, 1⟩, ⟨0x16D67, 0x16D6A, 1⟩]

def trailingConsonant : List Span := [⟨0x11A8, 0x11FF, 1⟩, ⟨0xD7CB, 0xD7FB, 1⟩]

/-- Syllables without a consonant at the end. -/
def openSyllable : List Span := [⟨0xAC00, 0xD788, 28⟩]

/-- Syllables with a consonant at the end. -/
def closedSyllable : Intervals :=
  .diff [⟨0xAC00, 0xD7A3⟩] (.ofSpans openSyllable)

end Property
end Unicode
end TextHygiene
