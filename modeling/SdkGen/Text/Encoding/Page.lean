import SdkGen.Text.CharSet
import SdkGen.Text.Encoding.Stray
import SdkGen.Text.Table.CodePages

/-!
# Code pages

An encoding with one byte for each character is a page with a place for every byte. Places may be empty.
Bytes below 128 mean the same in most pages, but not in all.
-/

namespace SdkGen.Text

/-- The characters of the bytes from zero on. -/
abbrev CodePage := Array (Option Char)

namespace CodePage

/-- The places that an entry of a table describes. -/
def places (entry : String) : List (Option Char) :=
  match entry.splitOn "+" with
  | [] => []
  | code :: rest =>
    (List.range (rest.head?.elim 1 hexValue)).map fun i =>
      if code = "-" then none else some (Char.ofNat (hexValue code + i))

/-- Reads a page from the rows of a table. -/
def ofRows (rows : List String) : CodePage :=
  ((rows.flatMap (·.splitOn " ")).flatMap places).toArray

/-- The page where every byte is the number of its character. -/
def latin : CodePage := ((List.range 256).map fun n => some (Char.ofNat n)).toArray

/-- The characters of bytes, the first of which is at a place. -/
def decodeFrom (page : CodePage) (place : Nat) : List UInt8 → Except Undecodable (List Char)
  | [] => .ok []
  | b :: bs =>
    match (page[b.toNat]?).join with
    | none => .error (.stray "charmap" place 1 b "character maps to <undefined>")
    | some c => (decodeFrom page (place + 1) bs).map (c :: ·)

/-- The characters of bytes. -/
def decode (page : CodePage) (bs : List UInt8) : Except Undecodable (List Char) :=
  page.decodeFrom 0 bs

end CodePage

end SdkGen.Text
