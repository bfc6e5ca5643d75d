import TextHygiene.Unicode.Category
import TextHygiene.Unicode.Interval

/-!
# Properties: assigned code points

Which code points are assigned to a character.
-/

namespace TextHygiene
namespace Unicode
namespace Property

def surrogates : Interval :=
  ⟨0xD800, 0xDFFF⟩

/-- The code points that are assigned to a character or are surrogates. -/
def assignedOrSurrogate : Intervals :=
  .union [surrogates] (.ofSpans (Category.assigned.flatMap Category.spans))

def unassigned : Intervals :=
  assignedOrSurrogate.compl

/-- What is no character on its own: control codes, formatting codes, code points left to private
agreement, surrogates, and code points of no character. -/
def other : Intervals :=
  .union unassigned (.union [surrogates] (.ofSpans (controls ++ formats ++ privateUse)))

end Property
end Unicode
end TextHygiene
