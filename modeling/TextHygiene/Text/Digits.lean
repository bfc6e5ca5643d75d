import TextHygiene.Text.Basic

/-!
# Numbers in digits

Decimal numbers are written with the fewest digits.  They are read from ASCII digits with any number
of leading zeros and one optional plus sign, up to the largest number that 64 bits hold.
Hexadecimal digits are written in small letters and read in letters of either case.
-/

namespace TextHygiene

namespace Text

/-! ## Decimal numbers -/

def decimal (n : Nat) : Text :=
  Nat.toDigits 10 n

def digit? (c : Char) : Option Nat :=
  if c.isDigit then some (c.toNat - '0'.toNat) else none

/-- Reads digits behind a number already read. -/
def digitsFrom? (value : Nat) : Text → Option Nat
  | [] => some value
  | c :: rest => (digit? c).bind fun d => digitsFrom? (10 * value + d) rest

def digits? : Text → Option Nat
  | [] => none
  | t => digitsFrom? 0 t

/-- Reads an unsigned 64-bit number, with an optional plus sign in front. -/
def word? (t : Text) : Option UInt64 :=
  (digits? ((after? ['+'] t).getD t)).bind fun n =>
    if n < UInt64.size then some (UInt64.ofNat n) else none

/-! ## Hexadecimal digits -/

def hexDigit? (c : Char) : Option Nat :=
  if c.isDigit then some (c.toNat - '0'.toNat)
  else if 'a' ≤ c && c ≤ 'f' then some (c.toNat - 'a'.toNat + 10)
  else if 'A' ≤ c && c ≤ 'F' then some (c.toNat - 'A'.toNat + 10)
  else none

/-- A number below 256 in two digits. -/
def hexPair (n : Nat) : Text :=
  [Nat.digitChar (n / 16), Nat.digitChar (n % 16)]

theorem hexDigit?_digitChar : ∀ n < 16, hexDigit? (Nat.digitChar n) = some n := by
  decide

end Text

end TextHygiene
