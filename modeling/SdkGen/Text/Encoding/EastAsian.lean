import SdkGen.Text.Encoding.Sheet
import SdkGen.Text.Encoding.Stray

/-!
# East Asian encodings

In these encodings a byte below 128 is mostly a character of its own, and another one is the first of two or
three bytes that make one. Where the first byte and those behind it make none, the first one is stray.
Some pairs of bytes make a character with a mark on it, which are two.

Longer sequences exist: four bytes for most characters in GB 18030, and eight for a syllable that is put
together from its letters in KS X 1001. Both hold a byte below 192 where UTF-8 has one of the others, so that
such a sequence is never whole in a text that is stored in UTF-8.
-/

namespace SdkGen.Text

/-- The East Asian encodings with pairs of bytes. -/
inductive EastAsian where
  | gb2312 | gbk | gb18030 | hz
  | big5 | cp950 | big5hkscs
  | eucKr | cp949 | johab
  | eucJp | eucJisx0213 | eucJis2004
  | shiftJis | cp932 | shiftJisx0213 | shiftJis2004
deriving DecidableEq, Repr

namespace EastAsian

/-- The name of an encoding. -/
def name : EastAsian → String
  | gb2312 => "gb2312"
  | gbk => "gbk"
  | gb18030 => "gb18030"
  | hz => "hz"
  | big5 => "big5"
  | cp950 => "cp950"
  | big5hkscs => "big5hkscs"
  | eucKr => "euc_kr"
  | cp949 => "cp949"
  | johab => "johab"
  | eucJp => "euc_jp"
  | eucJisx0213 => "euc_jisx0213"
  | eucJis2004 => "euc_jis_2004"
  | shiftJis => "shift_jis"
  | cp932 => "cp932"
  | shiftJisx0213 => "shift_jisx0213"
  | shiftJis2004 => "shift_jis_2004"

/-! ## Places of pairs -/

/-- Whether a number lies in a range with both ends included. -/
def within (low high n : Nat) : Bool := low ≤ n && n ≤ high

/-- The place of a pair in a square of 94 rows of 94 places. -/
def square? (a b : Nat) : Option Nat :=
  if within 0xA1 0xFE a && within 0xA1 0xFE b then some ((a - 0xA1) * 94 + (b - 0xA1)) else none

/-- The place of a second byte in a row that goes on behind byte 127. -/
def afterGap (b : Nat) : Nat := if b < 0x7F then b - 0x40 else b - 0x41

/-- Whether a byte may be the second one in such a row, up to a last one. -/
def isGapped (last b : Nat) : Bool := within 0x40 last b && b != 0x7F

/-- The place of a pair in rows of 190 places. -/
def wide? (a b : Nat) : Option Nat :=
  if within 0x81 0xFE a && isGapped 0xFE b then some ((a - 0x81) * 190 + afterGap b) else none

/-- The place of a pair in rows of 157 places. -/
def broken? (a b : Nat) : Option Nat :=
  if within 0x81 0xFE a then
    if within 0x40 0x7E b then some ((a - 0x81) * 157 + (b - 0x40))
    else if within 0xA1 0xFE b then some ((a - 0x81) * 157 + (b - 0xA1) + 63)
    else none
  else none

/-- The place of a pair in squares where each first byte stands for two rows. -/
def shifted? (a b : Nat) : Option Nat :=
  if (within 0x81 0x9F a || within 0xE0 0xFC a) && isGapped 0xFC b then
    some ((if a < 0xA0 then a - 0x81 else a - 0xC1) * 188 + afterGap b)
  else none

/-! ## Chinese characters -/

/-- The ideograph of a pair among those that GB 2312 lacks. -/
def restOfHanzi? (a b : Nat) : Option Char :=
  if within 0x81 0xA0 a && isGapped 0xFE b then
    Sheet.hanziRest[(a - 0x81) * 190 + afterGap b]?
  else if within 0xAA 0xFE a && isGapped 0xA0 b then
    Sheet.hanziRest[32 * 190 + (a - 0xAA) * 96 + afterGap b]?
  else none

/-- The character of a pair in GBK. -/
def gbkPair? (a b : Nat) : Option Char :=
  ((wide? a b).bind Sheet.hanziMore.at?).or
    ((restOfHanzi? a b).or ((square? a b).bind Sheet.hanzi.at?))

/-- The character for private use of a pair in GB 18030. -/
def privateHanzi? (a b : Nat) : Option Char :=
  if within 0xA1 0xFE b && within 0xAA 0xAF a then
    some (Char.ofNat (0xE000 + (a - 0xAA) * 94 + (b - 0xA1)))
  else if within 0xA1 0xFE b && within 0xF8 0xFE a then
    some (Char.ofNat (0xE234 + (a - 0xF8) * 94 + (b - 0xA1)))
  else if within 0xA1 0xA7 a && isGapped 0xA0 b then
    some (Char.ofNat (0xE4C6 + (a - 0xA1) * 96 + afterGap b))
  else none

/-- The character of a pair in GB 18030. -/
def gb18030Pair? (a b : Nat) : Option Char :=
  (gbkPair? a b).or (((wide? a b).bind Sheet.hanziLater.at?).or (privateHanzi? a b))

/-- The letters with a mark in the set of Hong Kong, by their places. -/
def markedLetters : List (Nat × String) :=
  [(1133, "\u00ca\u0304"), (1135, "\u00ca\u030c"), (1164, "\u00ea\u0304"), (1166, "\u00ea\u030c")]

/-- The first and the last place where the set of Hong Kong takes nothing from Big5. -/
def ownPlaces : Nat × Nat := (0x45 * 157 + 63, 0x47 * 157 + 156)

/-- The characters of a pair in the set of Hong Kong. -/
def hongKongPair? (a b : Nat) : Option (List Char) :=
  (broken? a b).bind fun place =>
    match markedLetters.lookup place with
    | some s => some s.toList
    | none =>
      ((Sheet.hongKong.at? place).or
        (if within ownPlaces.1 ownPlaces.2 place then none else Sheet.traditional.at? place)).map ([·])

/-! ## Korean characters -/

/-- The place of a second byte among the letters and the bytes from 129 on. -/
def letterPlace? (last b : Nat) : Option Nat :=
  if within 0x41 0x5A b then some (b - 0x41)
  else if within 0x61 0x7A b then some (b - 0x61 + 26)
  else if within 0x81 last b then some (b - 0x81 + 52)
  else none

/-- The syllable of a pair among those that KS X 1001 lacks. -/
def restOfSyllables? (a b : Nat) : Option Char :=
  if within 0x81 0xA0 a then
    (letterPlace? 0xFE b).bind fun n => Sheet.syllablesRest[(a - 0x81) * 178 + n]?
  else if within 0xA1 0xC6 a then
    (letterPlace? 0xA0 b).bind fun n => Sheet.syllablesRest[32 * 178 + (a - 0xA1) * 84 + n]?
  else none

/-- The character of a pair in KS X 1001 with all syllables. -/
def cp949Pair? (a b : Nat) : Option Char :=
  ((square? a b).bind Sheet.hanja.at?).or (restOfSyllables? a b)

/-- A letter of a syllable as it is written in five bits. -/
inductive Letter where
  /-- There is no such letter. -/
  | wrong
  /-- There is no letter here. -/
  | blank
  | letter (n : Nat)

/-- The first consonant of a syllable. -/
def initial (n : Nat) : Letter :=
  if n = 1 then .blank else if within 2 20 n then .letter (n - 2) else .wrong

/-- The vowel of a syllable. -/
def vowel (n : Nat) : Letter :=
  if n = 2 then .blank
  else if n % 8 < 2 || 29 < n then .wrong
  else .letter (n - 3 - 2 * (n / 8))

/-- The last consonants of a syllable. -/
def final (n : Nat) : Letter :=
  if n = 1 then .blank
  else if within 2 17 n then .letter (n - 1)
  else if within 19 29 n then .letter (n - 2)
  else .wrong

/-- The first consonants on their own. -/
def initials : List Char := "ㄱㄲㄴㄷㄸㄹㅁㅂㅃㅅㅆㅇㅈㅉㅊㅋㅌㅍㅎ".toList

/-- The last consonants on their own. -/
def finals : List Char := "ㄱㄲㄳㄴㄵㄶㄷㄹㄺㄻㄼㄽㄾㄿㅀㅁㅂㅄㅅㅆㅇㅈㅊㅋㅌㅍㅎ".toList

/-- The syllable or the letter that three letters make. -/
def syllable? : Letter → Letter → Letter → Option Char
  | .blank, .blank, .blank => some '\u3000'
  | .blank, .blank, .letter n => finals[n - 1]?
  | .blank, .letter n, .blank => some (Char.ofNat (0x314F + n))
  | .letter n, .blank, .blank => initials[n]?
  | .letter i, .letter v, .blank => some (Char.ofNat (0xAC00 + i * 588 + v * 28))
  | .letter i, .letter v, .letter f => some (Char.ofNat (0xAC00 + i * 588 + v * 28 + f))
  | _, _, _ => none

/-- The character of a pair where syllables are written by their letters. -/
def johabPair? (a b : Nat) : Option Char :=
  if a < 0xD8 then syllable? (initial (a / 4 % 32)) (vowel (a % 4 * 8 + b / 32)) (final (b % 32))
  else if a = 0xDF || 0xF9 < a || b < 0x31 || within 0x80 0x90 b || b % 128 = 127 ||
      (a = 0xDA && within 0xA1 0xD3 b) then none
  else
    let row := if a < 0xE0 then 2 * (a - 0xD9) else 2 * a - 0x197
    let cell := if b < 0x91 then b - 0x31 else b - 0x43
    if a = 0xD8 then none else Sheet.hanja.at? (row * 94 + cell)

/-! ## Japanese characters -/

/-- The letters with a mark in JIS X 0213, by their places. -/
def markedKana : List (Nat × String) :=
  [(368, "\u304b\u309a"), (369, "\u304d\u309a"), (370, "\u304f\u309a"), (371, "\u3051\u309a"),
    (372, "\u3053\u309a"), (462, "\u30ab\u309a"), (463, "\u30ad\u309a"), (464, "\u30af\u309a"),
    (465, "\u30b1\u309a"), (466, "\u30b3\u309a"), (467, "\u30bb\u309a"), (468, "\u30c4\u309a"),
    (469, "\u30c8\u309a"), (557, "\u31f7\u309a"), (975, "\u00e6\u0300"), (979, "\u0254\u0300"),
    (980, "\u0254\u0301"), (981, "\u028c\u0300"), (982, "\u028c\u0301"), (983, "\u0259\u0300"),
    (984, "\u0259\u0301"), (985, "\u025a\u0300"), (986, "\u025a\u0301"), (1008, "\u02e9\u02e5"),
    (1009, "\u02e5\u02e9")]

/-- The places in the first square of JIS X 0213 that were filled later. -/
def laterPlaces : List Nat := [1222, 1409, 4375, 4417, 7808, 8831, 8832, 8833, 8834, 8835]

/-- The characters at a place of the first square of JIS X 0213. -/
def firstSquare? (place : Nat) : Option (List Char) :=
  match markedKana.lookup place with
  | some s => some s.toList
  | none => ((Sheet.kanji.at? place).or (Sheet.kanjiMore.at? place)).map ([·])

/-- The character at a place of the second square of JIS X 0213, one of which has changed. -/
def secondSquare? (changed : Bool) (place : Nat) : Option Char :=
  (Sheet.kanjiSecond.at? place).map fun c => if c = '\u9b1c' && !changed then '\u9b1d' else c

/-- The rows of the second square in the order in which they follow the first one. -/
def secondRows : List Nat := [0, 7, 2, 3, 4, 11, 12, 13, 14] ++ List.range' 77 17

/-- The characters of a pair in JIS X 0213 where each first byte stands for two rows. -/
def shiftJis2004Pair? (changed : Bool) (a b : Nat) : Option (List Char) :=
  (shifted? a b).bind fun place =>
    if place = 31 then some ['\\']
    else if place = 111 then some ['~']
    else if place < 94 * 94 then firstSquare? place
    else
      (secondRows[place / 94 - 94]?).bind fun row =>
        (secondSquare? changed (row * 94 + place % 94)).map ([·])

/-- The character of a pair in code page 932. -/
def cp932Pair? (a b : Nat) : Option Char :=
  (shifted? a b).bind fun place =>
    if within 0xF0 0xF9 a then some (Char.ofNat (0xE000 + (a - 0xF0) * 188 + afterGap b))
    else (Sheet.kanjiPage.at? place).or (Sheet.kanji.at? place)

/-- A narrow letter of one byte. -/
def narrow? (b : Nat) : Option Char :=
  if within 0xA1 0xDF b then some (Char.ofNat (0xFF61 + (b - 0xA1))) else none

/-! ## All encodings -/

/-- What a byte is on its own. -/
inductive Single where
  | whole (c : Char)
  /-- The first of several bytes. -/
  | front
  | nothing

/-- What a byte is on its own in an encoding where each first byte stands for two rows. -/
def shiftedSingle (lastFront : Nat) (other : Nat → Single) (b : Nat) : Single :=
  match narrow? b with
  | some c => .whole c
  | none => if within 0x81 0x9F b || within 0xE0 lastFront b then .front else other b

/-- What a byte is on its own. -/
def single (e : EastAsian) (b : Nat) : Single :=
  match e with
  | shiftJis => if b < 0x80 then .whole (Char.ofNat b) else shiftedSingle 0xEA (fun _ => .nothing) b
  | shiftJisx0213 | shiftJis2004 =>
    if b = 0x5C then .whole '\u00a5'
    else if b = 0x7E then .whole '\u203e'
    else if b < 0x80 then .whole (Char.ofNat b)
    else shiftedSingle 0xFC (fun _ => .nothing) b
  | cp932 =>
    if b ≤ 0x80 then .whole (Char.ofNat b)
    else
      shiftedSingle 0xFC
        (fun b => .whole (Char.ofNat (if b = 0xA0 then 0xF8F0 else 0xF8F1 + (b - 0xFD)))) b
  | _ => if b < 0x80 then .whole (Char.ofNat b) else .front

/-- What begins some bytes. -/
inductive Found where
  /-- The characters of so many bytes. -/
  | characters (cs : List Char) (count : Nat)
  /-- So many stray bytes. -/
  | stray (count : Nat)
  /-- The first of more bytes than there are. -/
  | unfinished
  /-- Bytes of which nothing is known. -/
  | lost

/-- The characters of two bytes, if there are any. -/
def ofPair (cs : Option (List Char)) : Found := cs.elim (.stray 1) (.characters · 2)

/-- What two bytes and some more begin with where each first byte of a square stands for one row. -/
def rowFound (changed : Bool) (supplement : Nat → Option Char) (pair : Nat → Option (List Char)) (a b : Nat)
    (rest : List UInt8) : Found :=
  if a = 0x8E then ofPair ((narrow? b).map ([·]))
  else if a = 0x8F then
    match rest with
    | [] => .unfinished
    | c :: _ =>
      match (square? b c.toNat).bind supplement with
      | some c => .characters [c] 3
      | none => .stray 1
  else
    match square? a b with
    | none => .stray 1
    | some place => if !changed && place ∈ laterPlaces then .stray 2 else ofPair (pair place)

/-- What a first byte and those behind it begin with. -/
def found (e : EastAsian) (a b : Nat) (rest : List UInt8) : Found :=
  let one := fun (c : Option Char) => ofPair (c.map ([·]))
  match e with
  | gb2312 | hz => one ((square? a b).bind Sheet.hanzi.at?)
  | gbk => one (gbkPair? a b)
  | gb18030 =>
    if within 0x30 0x39 b then if rest.length < 2 then .unfinished else .stray 1
    else one (gb18030Pair? a b)
  | big5 => one ((broken? a b).bind Sheet.traditional.at?)
  | cp950 =>
    one ((broken? a b).bind fun n => (Sheet.traditionalPage.at? n).or (Sheet.traditional.at? n))
  | big5hkscs => ofPair (hongKongPair? a b)
  | eucKr =>
    if a = 0xA4 && b = 0xD4 then if rest.length < 6 then .unfinished else .stray 1
    else one ((square? a b).bind Sheet.hanja.at?)
  | cp949 => one (cp949Pair? a b)
  | johab => one (johabPair? a b)
  | eucJp =>
    rowFound true Sheet.kanjiSupplement.at? (fun n => (Sheet.kanji.at? n).map ([·])) a b rest
  | eucJisx0213 =>
    rowFound false (fun n => (Sheet.kanjiSupplement.at? n).or (secondSquare? false n)) firstSquare? a b
      rest
  | eucJis2004 =>
    rowFound true (fun n => (Sheet.kanjiSupplement.at? n).or (secondSquare? true n)) firstSquare? a b rest
  | shiftJis => one ((shifted? a b).bind Sheet.kanji.at?)
  | cp932 => one (cp932Pair? a b)
  | shiftJisx0213 =>
    if (shifted? a b).any (· ∈ laterPlaces) then .stray 2 else ofPair (shiftJis2004Pair? false a b)
  | shiftJis2004 => ofPair (shiftJis2004Pair? true a b)

/-- What some bytes begin with. -/
def start (e : EastAsian) (a : UInt8) (rest : List UInt8) : Found :=
  match e.single a.toNat, rest with
  | .whole c, _ => .characters [c] 1
  | .nothing, _ => .stray 1
  | .front, [] => .unfinished
  | .front, b :: rest => e.found a.toNat b.toNat rest

/-- What some bytes begin with in seven bits, and whether those behind it come in pairs. Between a tilde with
an opening brace and one with a closing brace, two bytes make a character; a tilde at the end of a line is
passed over together with the line end. -/
def startHz (paired : Bool) (a : UInt8) (rest : List UInt8) : Found × Bool :=
  if a = 0x7E then
    match rest with
    | [] => (.unfinished, paired)
    | b :: _ =>
      match paired, b.toNat with
      | false, 0x7E => (.characters ['~'] 2, false)
      | false, 0x7B => (.characters [] 2, true)
      | false, 0x0A => (.characters [] 2, false)
      | true, 0x7D => (.characters [] 2, false)
      | _, _ => (.stray 1, paired)
  else if 0x80 ≤ a then (.stray 1, paired)
  else if paired then
    match rest with
    | [] => (.unfinished, true)
    | b :: _ => (if b < 0x80 then hz.found (a.toNat + 0x80) (b.toNat + 0x80) [] else .stray 1, true)
  else (.characters [Char.ofNat a.toNat] 1, false)

/-- The characters of bytes, the first of which is at a place; `paired` if bytes below 128 come in pairs. -/
def decodeFrom (e : EastAsian) (paired : Bool) (place : Nat) :
    List UInt8 → Except Undecodable (List Char)
  | [] => .ok []
  | a :: rest =>
    let (start, paired) := if e = hz then startHz paired a rest else (e.start a rest, false)
    match start with
    | .characters cs count =>
      (decodeFrom e paired (place + count) (rest.drop (count - 1))).map (cs ++ ·)
    | .stray count => .error (.stray e.name place count a "illegal multibyte sequence")
    | .unfinished =>
      .error (.stray e.name place (rest.length + 1) a "incomplete multibyte sequence")
    | .lost => .error .lost
termination_by bs => bs.length
decreasing_by
  simp only [List.length_drop, List.length_cons]
  omega

/-- The characters of bytes. -/
def decode (e : EastAsian) (bs : List UInt8) : Except Undecodable (List Char) := e.decodeFrom false 0 bs

end EastAsian

end SdkGen.Text
