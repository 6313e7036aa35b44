/-!
# Bytes in base 64

Four characters stand for three bytes. Characters that are no digits are passed over; equals signs fill
up the last group and end the text.
-/

namespace SdkGen.Text.Base64

/-- The digit that a character is. -/
def digit? (c : Char) : Option Nat :=
  if 'A' ≤ c ∧ c ≤ 'Z' then some (c.toNat - 0x41)
  else if 'a' ≤ c ∧ c ≤ 'z' then some (c.toNat - 0x61 + 26)
  else if '0' ≤ c ∧ c ≤ '9' then some (c.toNat - 0x30 + 52)
  else if c = '+' then some 62
  else if c = '/' then some 63
  else none

/-- The bytes from a place in a group on, with the bits that are left over and the number of equals
signs that have come at that place. A group that is not filled up gives nothing. -/
def decodeFrom (place left pads : Nat) : List Char → Option (List UInt8)
  | [] => if place = 0 then some [] else none
  | '=' :: cs =>
    if place < 2 then decodeFrom place left pads cs
    else if 4 ≤ place + (pads + 1) then some []
    else decodeFrom place left (pads + 1) cs
  | c :: cs =>
    match digit? c, place with
    | none, _ => decodeFrom place left pads cs
    | some n, 0 => decodeFrom 1 n 0 cs
    | some n, 1 => (decodeFrom 2 (n % 16) 0 cs).map (UInt8.ofNat (4 * left + n / 16) :: ·)
    | some n, 2 => (decodeFrom 3 (n % 4) 0 cs).map (UInt8.ofNat (16 * left + n / 4) :: ·)
    | some n, _ => (decodeFrom 0 0 0 cs).map (UInt8.ofNat (64 * left + n) :: ·)

/-- The bytes that a text writes. -/
def decode? (cs : List Char) : Option (List UInt8) := decodeFrom 0 0 0 cs

end SdkGen.Text.Base64
