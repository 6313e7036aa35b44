import Std.Data.HashSet
import SdkGen.Text.CharSet
import SdkGen.Text.Table.Hanja
import SdkGen.Text.Table.Hanzi
import SdkGen.Text.Table.Kanji
import SdkGen.Text.Table.TraditionalHanzi

/-!
# Sheets of characters

The large sets of characters of East Asia are sheets with numbered places, some of which are empty. Two
sheets need no table: the ideographs and the syllables that another sheet lacks, in their usual order.
-/

namespace SdkGen.Text

/-- The characters of a set by their places; a point where there is none. -/
abbrev Sheet := Array Char

namespace Sheet

/-- Adds characters from a place on, which is behind all characters of the sheet. -/
def addRun (s : Sheet) (place : Nat) (cs : List Char) : Sheet :=
  s ++ Array.replicate (place - s.size) '.' ++ cs.toArray

/-- The sheet with some runs, the first places first. -/
def ofRuns (runs : List (Nat × String)) : Sheet :=
  runs.foldl (fun s run => s.addRun run.1 run.2.toList) #[]

/-- The character at a place. -/
def at? (s : Sheet) (place : Nat) : Option Char := s[place]?.filter (· != '.')

/-- The characters from one number up to another one that a sheet lacks, in order. -/
def lacking (s : Sheet) (first last : Nat) : Sheet :=
  let known := Std.HashSet.ofArray s
  ((List.range' first (last + 1 - first)).map Char.ofNat).filter (!known.contains ·) |>.toArray

/-- The characters of GB 2312. -/
def hanzi : Sheet := ofRuns Table.hanzi

/-- What GBK adds to GB 2312 or changes in it. -/
def hanziMore : Sheet := ofRuns Table.hanziMore

/-- The ideographs that GB 2312 lacks. -/
def hanziRest : Sheet := hanzi.lacking 0x4E00 0x9FA5

/-- What GB 18030 adds to GBK. -/
def hanziLater : Sheet := ofRuns Table.hanziLater

/-- The characters of Big5. -/
def traditional : Sheet := ofRuns Table.traditionalHanzi

/-- What code page 950 changes in Big5. -/
def traditionalPage : Sheet := ofRuns Table.windowsHanzi

/-- What the set of Hong Kong changes in Big5. -/
def hongKong : Sheet := ofRuns Table.hongKongHanzi

/-- The characters of KS X 1001. -/
def hanja : Sheet := ofRuns Table.hanja

/-- The syllables that KS X 1001 lacks. -/
def syllablesRest : Sheet := hanja.lacking 0xAC00 0xD7A3

/-- The characters of JIS X 0208. -/
def kanji : Sheet := ofRuns Table.kanji

/-- What code page 932 changes in JIS X 0208 or adds behind it. -/
def kanjiPage : Sheet := ofRuns Table.windowsKanji

/-- The characters of JIS X 0212. -/
def kanjiSupplement : Sheet := ofRuns Table.kanjiSupplement

/-- What the first square of JIS X 0213 adds to JIS X 0208. -/
def kanjiMore : Sheet := ofRuns Table.kanjiMore

/-- The characters of the second square of JIS X 0213. -/
def kanjiSecond : Sheet := ofRuns Table.kanjiSecond

end Sheet

end SdkGen.Text
