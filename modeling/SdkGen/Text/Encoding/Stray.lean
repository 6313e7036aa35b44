/-!
# Bytes that stand for nothing

What stops the decoding of bytes: some bytes that stand for no character in an encoding, or the lack of a
mark that tells how the others are to be read.
-/

namespace SdkGen.Text

/-- What stops the decoding of bytes. -/
inductive Undecodable where
  /-- Some bytes in a row stand for no character; `first` is the first of them. -/
  | stray (encoding : String) (place count : Nat) (first : UInt8) (reason : String)
  /-- The mark of the byte order is missing. -/
  | noMark (encoding : String)
  | noCharacters
  /-- What the bytes stand for as a whole cannot be read, for a reason. -/
  | unreadable (reason : String)
  /-- Nothing is known of what the bytes stand for. -/
  | lost
deriving DecidableEq, Repr

/-- A byte in two hexadecimal digits. -/
def byteText (b : UInt8) : String :=
  let digits := Nat.toDigits 16 b.toNat
  String.ofList (if digits.length < 2 then '0' :: digits else digits)

/-- The wording of what stops a decoding. -/
def Undecodable.message : Undecodable → String
  | stray encoding place count first reason =>
    let bytes :=
      if count = 1 then "byte 0x" ++ byteText first ++ " in position " ++ toString place
      else "bytes in position " ++ toString place ++ "-" ++ toString (place + count - 1)
    "'" ++ encoding ++ "' codec can't decode " ++ bytes ++ ": " ++ reason
  | noMark encoding => encoding ++ " stream does not start with BOM"
  | noCharacters => "undefined encoding"
  | unreadable reason => reason
  | lost => "internal codec error"

end SdkGen.Text
