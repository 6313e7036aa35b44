import SdkGen.Text.Encoding.Words

/-!
# An encoding in seven bits

Bytes below 128 stand for themselves, except for the plus sign, which begins a shifted part: six bits for
each byte make words of two bytes, of which the halves of characters are put together. Any byte that has no
such bits ends the part; a hyphen does nothing else.
-/

namespace SdkGen.Text

/-- A shifted part as far as it was read. -/
structure Shift where
  /-- The place of its plus sign. -/
  place : Nat
  /-- How many bits are left over. -/
  bits : Nat := 0
  /-- The bits that are left over. -/
  value : Nat := 0
  /-- The first half of a character that waits for the second one. -/
  half : Option Nat := none

/-- The six bits of a byte in a shifted part. -/
def sixBits? (b : UInt8) : Option Nat :=
  let n := b.toNat
  if 0x41 ≤ n && n ≤ 0x5A then some (n - 0x41)
  else if 0x61 ≤ n && n ≤ 0x7A then some (n - 0x61 + 26)
  else if 0x30 ≤ n && n ≤ 0x39 then some (n - 0x30 + 52)
  else if n = 0x2B then some 62
  else if n = 0x2F then some 63
  else none

namespace Shift

/-- A shifted part with a word that is complete, and the characters that this gives; `loneHalf` gives a
character for each half without the other one. -/
def put (s : Shift) (loneHalf : Nat → Char) (word : Nat) : Shift × List Char :=
  let next : Shift × List Char :=
    if isFirstHalf word then ({ s with half := some word }, [])
    else ({ s with half := none }, [ofNumberWith loneHalf word])
  match s.half with
  | none => next
  | some first =>
    if isSecondHalf word then ({ s with half := none }, [ofHalves first word])
    else (next.1, loneHalf first :: next.2)

/-- A shifted part with six more bits, and the characters that this gives. -/
def push (s : Shift) (loneHalf : Nat → Char) (six : Nat) : Shift × List Char :=
  let bits := s.bits + 6
  let value := s.value * 64 + six
  if bits < 16 then ({ s with bits, value }, [])
  else
    { s with bits := bits - 16, value := value % Nat.pow 2 (bits - 16) }.put loneHalf
      (value / Nat.pow 2 (bits - 16))

/-- The characters that the end of a shifted part gives in front of others. -/
def rest (s : Shift) (loneHalf : Nat → Char) : List Char := (s.half.map loneHalf).toList

end Shift

/-- The characters of bytes in seven bits, the first of which is at a place, perhaps in a shifted part. -/
def decodeShifted (loneHalf : Nat → Char) (place : Nat) (shift : Option Shift) :
    List UInt8 → Except Undecodable (List Char)
  | [] =>
    match shift with
    | none => .ok []
    | some s =>
      if s.half.isSome || 6 ≤ s.bits || s.value != 0 then
        stray s.place 0x2B "unterminated shift sequence"
      else .ok []
  | b :: bs =>
    match shift with
    | some s =>
      match sixBits? b with
      | some six =>
        let (s, out) := s.push loneHalf six
        (decodeShifted loneHalf (place + 1) (some s) bs).map (out ++ ·)
      | none =>
        if 6 ≤ s.bits then within s "partial character in shift sequence"
        else if s.value != 0 then within s "non-zero padding bits in shift sequence"
        else if b = 0x2D then (decodeShifted loneHalf (place + 1) none bs).map (s.rest loneHalf ++ ·)
        else if b < 0x80 then
          (decodeShifted loneHalf (place + 1) none bs).map (s.rest loneHalf ++ Char.ofNat b.toNat :: ·)
        else stray place b "unexpected special character"
    | none =>
      if b = 0x2B then
        match bs with
        | c :: rest =>
          if c = 0x2D then (decodeShifted loneHalf (place + 2) none rest).map ('+' :: ·)
          else if (sixBits? c).isNone then
            .error (.stray "utf7" place 2 b "ill-formed sequence")
          else decodeShifted loneHalf (place + 1) (some { place }) (c :: rest)
        | [] => .ok []
      else if b < 0x80 then (decodeShifted loneHalf (place + 1) none bs).map (Char.ofNat b.toNat :: ·)
      else stray place b "unexpected special character"
where
  /-- The bytes from one place to the end of the text, or the one at this place, stand for nothing. -/
  stray (first : Nat) (b : UInt8) (reason : String) : Except Undecodable (List Char) :=
    .error (.stray "utf7" first (max 1 (place - first)) b reason)
  /-- The bytes of a shifted part up to this place stand for nothing. -/
  within (s : Shift) (reason : String) : Except Undecodable (List Char) :=
    .error (.stray "utf7" s.place (place + 1 - s.place) 0x2B reason)

end SdkGen.Text
