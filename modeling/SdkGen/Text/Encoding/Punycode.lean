import SdkGen.Text.Encoding.Escaped

/-!
# Punycode

An encoding with letters, digits and hyphens: a text in ASCII up to its last hyphen, and behind that, in
letters and digits, numbers of varying length. Each number tells how far to go on, through all places of the
text and all characters in turn, to the place and the character that is inserted next.

Main statement: `threshold_pos`, a threshold is at least one.
-/

namespace SdkGen.Text.Punycode

/-- A text with its insertions as far as they were read. -/
structure Reading where
  /-- The numbers of its characters, which may be halves of characters. -/
  text : List Nat
  /-- The number of the character that was inserted last. -/
  character : Nat := 0x80
  /-- The place from which to go on. -/
  place : Nat := 0
  /-- What the thresholds of the next number depend on. -/
  bias : Nat := 72
  /-- Whether no number is complete. -/
  atFirst : Bool := true
  /-- The number that is read, as far as it was read. -/
  number : Nat := 0
  /-- The weight of its next digit. -/
  weight : Nat := 1
  /-- How many of its digits were read. -/
  digits : Nat := 0

/-- The threshold below which a digit is the last one of its number. -/
def threshold (position bias : Nat) : Nat := min 26 (max 1 (36 * (position + 1) - bias))

/-- The bias that a distance gives, once it is scaled. -/
def biasOf (divisions distance : Nat) : Nat :=
  if 455 < distance then biasOf (divisions + 36) (distance / 35)
  else divisions + 36 * distance / (distance + 38)
termination_by distance

/-- The bias behind a number, for a text of some length. -/
def adapted (distance : Nat) (atFirst : Bool) (length : Nat) : Nat :=
  let distance := if atFirst then distance / 700 else distance / 2
  biasOf 0 (distance + distance / length)

/-- The value of a letter or a digit. -/
def digit? (c : Char) : Option Nat :=
  let c := c.toUpper
  if 'A' ≤ c && c ≤ 'Z' then some (c.toNat - 0x41)
  else if '0' ≤ c && c ≤ '9' then some (c.toNat - 0x30 + 26)
  else none

/-- A number in hexadecimal. -/
def hexText (n : Nat) : String := String.ofList (Nat.toDigits 16 n)

namespace Reading

/-- Inserts the character that the number tells. -/
def insert (r : Reading) : Except Undecodable Reading :=
  let length := r.text.length + 1
  -- each full round through the places of the text leads to the next character
  let character := r.character + (r.place + r.number) / length
  let place := (r.place + r.number) % length
  if 0x110000 ≤ character then .error (.unreadable ("Invalid character U+" ++ hexText character))
  else
    .ok {
      text := r.text.take place ++ character :: r.text.drop place
      character
      place := place + 1
      bias := adapted r.number r.atFirst length
      atFirst := false }

/-- Reads one more character of the numbers. -/
def push (r : Reading) (c : Char) : Except Undecodable Reading :=
  match digit? c with
  | none =>
    .error (.unreadable ("Invalid extended code point '" ++ String.singleton c.toUpper ++ "'"))
  | some d =>
    let r := { r with number := r.number + d * r.weight }
    let t := threshold r.digits r.bias
    if d < t then r.insert
    else .ok { r with weight := r.weight * (36 - t), digits := r.digits + 1 }

end Reading

/-- The characters of bytes below 128. -/
def asciiOf (bs : List UInt8) : Except Undecodable (List Char) :=
  match bs.zipIdx.find? fun b => 128 ≤ b.1 with
  | some (b, place) => .error (.stray "ascii" place 1 b "ordinal not in range(128)")
  | none => .ok (bs.map fun b => Char.ofNat b.toNat)

/-- The bytes up to the last hyphen, and those behind it. -/
def parts (bs : List UInt8) : List UInt8 × List UInt8 :=
  let behind := (bs.reverse.takeWhile (· != 0x2D)).reverse
  if behind.length = bs.length then ([], bs) else (bs.take (bs.length - behind.length - 1), behind)

/-- The numbers of the characters of bytes. -/
def read (bs : List UInt8) : Except Undecodable (List Nat) := do
  let text ← asciiOf (parts bs).1
  let numbers ← asciiOf (parts bs).2
  let r ← numbers.foldlM Reading.push { text := text.map Char.toNat }
  if r.digits = 0 then return r.text
  else throw (.unreadable "incomplete punicode string")

/-- The characters of bytes; `half` gives a character for each half. -/
def decode (half : Nat → Char) (bs : List UInt8) : Except Undecodable (List Char) := do
  return (← read bs).map (ofNumberWith half)

/-! ## The way back -/

/-- A threshold is at least one. -/
theorem threshold_pos (position bias : Nat) : 1 ≤ threshold position bias := by
  unfold threshold
  omega

/-- The letter or the digit with a value. -/
def digitOf (d : Nat) : Char := if d < 26 then Char.ofNat (0x61 + d) else Char.ofNat (0x30 + d - 26)

/-- The digits of a number from a position on. -/
def digitsFrom (bias position n : Nat) : List Char :=
  let t := threshold position bias
  if n < t then [digitOf n]
  else digitOf (t + (n - t) % (36 - t)) :: digitsFrom bias (position + 1) ((n - t) / (36 - t))
termination_by n
decreasing_by
  have hpos := threshold_pos position bias
  have hle : (n - threshold position bias) / (36 - threshold position bias) ≤
      n - threshold position bias := Nat.div_le_self _ _
  omega

/-- The insertions as far as they were written. -/
structure Writing where
  written : List Char := []
  /-- How many characters the text has so far. -/
  length : Nat
  /-- The least character that may be inserted next. -/
  character : Nat := 0x80
  /-- How far the next insertion is away. -/
  distance : Nat := 0
  /-- What the thresholds of the next number depend on. -/
  bias : Nat := 72
  /-- Whether nothing was inserted. -/
  atFirst : Bool := true

namespace Writing

/-- Goes past a character of the text, inserting it if it is the one whose turn it is. -/
def pass (turn : Nat) (w : Writing) (c : Nat) : Writing :=
  if c < turn then { w with distance := w.distance + 1 }
  else if c = turn then
    { w with
      written := w.written ++ digitsFrom w.bias 0 w.distance
      length := w.length + 1
      distance := 0
      bias := adapted w.distance w.atFirst (w.length + 1)
      atFirst := false }
  else w

/-- Inserts a character wherever the text has it. -/
def turn (text : List Nat) (w : Writing) (c : Nat) : Writing :=
  let w := { w with distance := w.distance + (c - w.character) * (w.length + 1) }
  let w := text.foldl (pass c) w
  { w with character := c + 1, distance := w.distance + 1 }

end Writing

/-- The characters outside ASCII among some, in order and each once. -/
def outside (text : List Nat) : List Nat :=
  ((text.filter (0x80 ≤ ·)).mergeSort (· ≤ ·)).eraseDups

/-- A text, by the numbers of its characters, in letters, digits and hyphens as far as it is in them itself. -/
def encode (text : List Nat) : List Char :=
  let ascii := (text.filter (· < 0x80)).map Char.ofNat
  let w := (outside text).foldl (Writing.turn text) { length := ascii.length }
  if ascii.isEmpty then w.written else ascii ++ '-' :: w.written

end SdkGen.Text.Punycode
