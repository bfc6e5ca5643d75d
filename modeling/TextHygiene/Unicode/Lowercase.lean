import TextHygiene.Unicode.Recent

/-!
# Small letters

Putting a text into small letters.  Each letter is mapped on its own, with two exceptions: the
dotted capital `İ` becomes an `i` and a combining dot, and the capital sigma `Σ` becomes `ς` at the
end of a word and `σ` elsewhere.
-/

namespace TextHygiene
namespace Unicode

/-- The first character that is not passed over is a letter with case. -/
def meetsCased (t : Text) : Bool :=
  ((t.dropWhile Recent.isCaseIgnorable).head?).any Recent.isCased

/-- The small letters for `c` between the text `before` it, read backwards, and the text `behind`
it. -/
def lowercaseAt (before : Text) (c : Char) (behind : Text) : Text :=
  if c = 'Σ' then [if meetsCased before && !meetsCased behind then 'ς' else 'σ']
  else if c = 'İ' then ['i', '\u0307']
  else [Recent.lowercased c]

/-- Small letters for a text that stands behind `before`, which is read backwards. -/
def lowercaseBehind (before : Text) : Text → Text
  | [] => []
  | c :: rest => lowercaseAt before c rest ++ lowercaseBehind (c :: before) rest

end Unicode

def Text.lowercase (t : Text) : Text :=
  Unicode.lowercaseBehind [] t

end TextHygiene
