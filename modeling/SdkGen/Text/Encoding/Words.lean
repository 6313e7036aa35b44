import SdkGen.Text.Encoding.Stray
import SdkGen.Text.Halves

/-!
# Encodings in words

A character takes one word of two bytes, or two such words that are its halves; or it takes one word of
four bytes. The bytes of a word come in one of two orders, of which a mark at the start tells which. A text
that is stored in another way has no such mark.
-/

namespace SdkGen.Text

/-- The order of the bytes in a word. -/
inductive ByteOrder where
  /-- The byte with the lowest digits comes first. -/
  | little
  /-- The byte with the highest digits comes first. -/
  | big
deriving DecidableEq, Repr

namespace ByteOrder

/-- The number that the bytes of a word make. -/
def number (o : ByteOrder) (bs : List UInt8) : Nat :=
  match o with
  | little => bs.foldr (fun b n => 256 * n + b.toNat) 0
  | big => bs.foldl (fun n b => 256 * n + b.toNat) 0

/-- The end of the name of an encoding in words. -/
def ending : ByteOrder → String
  | little => "-le"
  | big => "-be"

/-- The byte order in which words are read where nothing tells another. -/
def usual : ByteOrder := .little

end ByteOrder

/-- The characters of words of two bytes, the first of which is at a place. -/
def decodePairs (o : ByteOrder) (place : Nat) : List UInt8 → Except Undecodable (List Char)
  | [] => .ok []
  | [a] => stray a 1 "truncated data"
  | a :: b :: bs =>
    let n := o.number [a, b]
    if isFirstHalf n then
      match bs with
      | c :: d :: rest =>
        let m := o.number [c, d]
        if isSecondHalf m then (decodePairs o (place + 4) rest).map (ofHalves n m :: ·)
        else stray a 2 "illegal UTF-16 surrogate"
      | rest => stray a (2 + rest.length) "unexpected end of data"
    else if isSecondHalf n then stray a 2 "illegal encoding"
    else (decodePairs o (place + 2) bs).map (Char.ofNat n :: ·)
where
  /-- Some bytes at the place stand for nothing. -/
  stray (first : UInt8) (count : Nat) (reason : String) : Except Undecodable (List Char) :=
    .error (.stray ("utf-16" ++ o.ending) place count first reason)

/-- The characters of words of four bytes, the first of which is at a place. -/
def decodeQuads (o : ByteOrder) (place : Nat) : List UInt8 → Except Undecodable (List Char)
  | [] => .ok []
  | a :: b :: c :: d :: bs =>
    let n := o.number [a, b, c, d]
    if 0x110000 ≤ n then stray a 4 "code point not in range(0x110000)"
    else if isHalf n then
      stray a 4 "code point in surrogate code point range(0xd800, 0xe000)"
    else (decodeQuads o (place + 4) bs).map (Char.ofNat n :: ·)
  | a :: rest => stray a (1 + rest.length) "truncated data"
where
  /-- Some bytes at the place stand for nothing. -/
  stray (first : UInt8) (count : Nat) (reason : String) : Except Undecodable (List Char) :=
    .error (.stray ("utf-32" ++ o.ending) place count first reason)

end SdkGen.Text
