import TextHygiene.Text.Basic

/-!
# UTF-8

Text as bytes.  `encode` writes each character with the fewest bytes.  `decode?` accepts well-formed
sequences only: it refuses a sequence cut short, one that is longer than its character needs, a
surrogate, and a number beyond the last code point.
-/

namespace TextHygiene

namespace Utf8

/-- The six payload bits of a continuation byte. -/
def payload? (b : UInt8) : Option Nat :=
  if 0x80 ≤ b.toNat ∧ b.toNat < 0xC0 then some (b.toNat - 0x80) else none

/-- The character with code point `n`, if `n` lies at or above `least` and is a code point. -/
def char? (least n : Nat) : Option Char :=
  if least ≤ n ∧ n.isValidChar then some (Char.ofNat n) else none

def decode? : List UInt8 → Option Text
  | [] => some []
  | a :: rest =>
      if a.toNat < 0x80 then
        (decode? rest).map (Char.ofNat a.toNat :: ·)
      else
        match rest with
        | [] => none
        | b :: rest =>
            -- the first byte tells how many follow, and each of them holds six bits
            if 0xC0 ≤ a.toNat ∧ a.toNat < 0xE0 then do
              let y ← payload? b
              let c ← char? 0x80 ((a.toNat - 0xC0) * 0x40 + y)
              (decode? rest).map (c :: ·)
            else
              match rest with
              | [] => none
              | d :: rest =>
                  if 0xE0 ≤ a.toNat ∧ a.toNat < 0xF0 then do
                    let y ← payload? b
                    let z ← payload? d
                    let c ← char? 0x800 (((a.toNat - 0xE0) * 0x40 + y) * 0x40 + z)
                    (decode? rest).map (c :: ·)
                  else
                    match rest with
                    | [] => none
                    | e :: rest =>
                        if 0xF0 ≤ a.toNat ∧ a.toNat < 0xF8 then do
                          let y ← payload? b
                          let z ← payload? d
                          let w ← payload? e
                          let c ← char? 0x10000
                            ((((a.toNat - 0xF0) * 0x40 + y) * 0x40 + z) * 0x40 + w)
                          (decode? rest).map (c :: ·)
                        else none

def encodeChar (c : Char) : List UInt8 :=
  let n := c.toNat
  if n < 0x80 then [n.toUInt8]
  else if n < 0x800 then
    [(0xC0 + n / 0x40).toUInt8, (0x80 + n % 0x40).toUInt8]
  else if n < 0x10000 then
    [(0xE0 + n / 0x1000).toUInt8, (0x80 + n / 0x40 % 0x40).toUInt8, (0x80 + n % 0x40).toUInt8]
  else
    [(0xF0 + n / 0x40000).toUInt8, (0x80 + n / 0x1000 % 0x40).toUInt8,
      (0x80 + n / 0x40 % 0x40).toUInt8, (0x80 + n % 0x40).toUInt8]

def encode (t : Text) : List UInt8 :=
  t.flatMap encodeChar

end Utf8

end TextHygiene
