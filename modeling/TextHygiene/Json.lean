import TextHygiene.Text.Digits

/-!
# JSON

The part of JSON that reports are made of, written over several lines with an indentation of two
spaces.  In strings only the quotation mark, the backslash and the control characters below U+0020
are escaped.
-/

namespace TextHygiene

/-- A JSON value. -/
inductive Json where
  | number (n : Nat)
  | string (text : Text)
  | array (items : List Json)
  | object (fields : List (Text × Json))

namespace Json

/-! ## Strings -/

def escapeChar (c : Char) : Text :=
  if c = '\x22' then ['\\', '\x22']
  else if c = '\\' then ['\\', '\\']
  else if c = '\x08' then ['\\', 'b']
  else if c = '\t' then ['\\', 't']
  else if c = '\n' then ['\\', 'n']
  else if c = '\x0c' then ['\\', 'f']
  else if c = '\r' then ['\\', 'r']
  else if c.toNat < 0x20 then "\\u00".toList ++ Text.hexPair c.toNat
  else [c]

def quote (text : Text) : Text :=
  '\x22' :: text.flatMap escapeChar ++ ['\x22']

/-! ## Values -/

/-- The start of a line that is indented by a number of levels. -/
def indentation (level : Nat) : Text :=
  '\n' :: List.replicate (2 * level) ' '

mutual

/-- A value that starts at a level of indentation. -/
def write (level : Nat) : Json → Text
  | .number n => Text.decimal n
  | .string text => quote text
  | .array [] => ['[', ']']
  | .array (item :: items) =>
      '[' :: indentation (level + 1) ++ write (level + 1) item ++ writeItems (level + 1) items ++
        indentation level ++ [']']
  | .object [] => ['{', '}']
  | .object ((key, value) :: fields) =>
      '{' :: indentation (level + 1) ++ quote key ++ [':', ' '] ++ write (level + 1) value ++
        writeFields (level + 1) fields ++ indentation level ++ ['}']

/-- The further items of an array, each behind a comma and on a line of its own. -/
def writeItems (level : Nat) : List Json → Text
  | [] => []
  | item :: items => ',' :: indentation level ++ write level item ++ writeItems level items

/-- The further fields of an object, each behind a comma and on a line of its own. -/
def writeFields (level : Nat) : List (Text × Json) → Text
  | [] => []
  | (key, value) :: fields =>
      ',' :: indentation level ++ quote key ++ [':', ' '] ++ write level value ++
        writeFields level fields

end

def pretty (value : Json) : Text :=
  value.write 0

end Json

end TextHygiene
