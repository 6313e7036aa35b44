import SdkGen.Text.CharSet
import SdkGen.Text.Table.AncientNames
import SdkGen.Text.Table.FormNames
import SdkGen.Text.Table.LetterNames
import SdkGen.Text.Table.NameWords
import SdkGen.Text.Table.NotationNames
import SdkGen.Text.Table.SignNames

/-!
# Names of characters

Characters have names of capital letters, digits, dashes and blanks, and some have further names beside. Names
are kept as rows in the order of the characters, each with what sets it apart from the one before it. The
syllables of Hangul are named by their sounds and the ideographs by their numbers, so no rows are kept for
them.
-/

namespace SdkGen.Text.CharacterName

/-- The words that stand as two small letters in the rows. -/
def sharedWords : Array String := (Table.nameWords.flatMap (·.splitOn " ")).toArray

/-- The word that two small letters stand for. -/
def sharedWord (a b : Char) : String :=
  sharedWords.getD (26 * (a.toNat - 'a'.toNat) + (b.toNat - 'a'.toNat)) ""

/-- The words of a row from some characters on; `word` holds what is read of a word, from its end. -/
def wordsFrom (word : List Char) : List Char → List String
  | [] => done word
  | [c] => done (c :: word)
  | a :: b :: cs =>
    if a.isLower then done word ++ sharedWord a b :: wordsFrom [] cs
    else if a = ' ' then done word ++ wordsFrom [] (b :: cs)
    else wordsFrom (a :: word) (b :: cs)
where
  /-- A word that has been read, if there is one. -/
  done (word : List Char) : List String := if word.isEmpty then [] else [String.ofList word.reverse]

/-- The number of a character in hexadecimal digits. -/
def numberText (n : Nat) : List Char := (Nat.toDigits 16 n).map Char.toUpper

/-- The words of a name of the character with a number: a number sign at the end of a word stands for the
number of the character. -/
def spelled (n : Nat) (words : List String) : List String :=
  words.map fun w =>
    if w.endsWith "#" then String.ofList (w.toList.dropLast ++ numberText n) else w

/-- The number of the character with a name among entries. `next` is the number of the next character and
`words` is the name in front. An entry passes over characters, repeats the name in front for some more, or
keeps so many of its words. -/
def find? (name : List String) : Nat → List String → List String → Option Nat
  | _, _, [] => none
  | next, words, entry :: entries =>
    match entry.toList with
    | [] => find? name next words entries
    | '+' :: count => find? name (next + hexValue (String.ofList count)) words entries
    | '=' :: count =>
      let count := hexValue (String.ofList count)
      match (List.range count).find? fun i => spelled (next + i) words = name with
      | some i => some (next + i)
      | none => find? name (next + count) words entries
    | kept :: rest =>
      let words := words.take (kept.toNat - '0'.toNat) ++ wordsFrom [] rest
      if spelled next words = name then some next else find? name (next + 1) words entries

/-- All rows of names with the number of the first character of each. -/
def tables : List (Nat × List String) :=
  [(0, Table.letterNames), (0x2000, Table.signNames), (0xA000, Table.formNames),
    (0x10000, Table.ancientNames), (0x1D000, Table.notationNames)]

/-- The number of the character with a further name. -/
def other? (name : String) : Option Nat :=
  ((Table.otherNames.flatMap (·.splitOn ",")).find? fun entry =>
    entry.toList.dropWhile (· != ' ') = ' ' :: name.toList).map
      fun entry => hexValue (String.ofList (entry.toList.takeWhile (· != ' ')))

/-! ## Syllables and ideographs -/

/-- The sounds that a syllable may begin with. -/
def firstSounds : List String :=
  ["G", "GG", "N", "D", "DD", "R", "M", "B", "BB", "S", "SS", "", "J", "JJ", "C", "K", "T", "P", "H"]

/-- The sounds in the middle of a syllable. -/
def middleSounds : List String :=
  ["A", "AE", "YA", "YAE", "EO", "E", "YEO", "YE", "O", "WA", "WAE", "OE", "YO", "U", "WEO", "WE", "WI", "YU",
    "EU", "YI", "I"]

/-- The sounds that a syllable may end with. -/
def lastSounds : List String :=
  ["", "G", "GG", "GS", "N", "NJ", "NH", "D", "L", "LG", "LM", "LB", "LS", "LT", "LP", "LH", "M", "B", "BS",
    "S", "SS", "NG", "J", "C", "K", "T", "P", "H"]

/-- The longest of some sounds in front of a text, by its place among them, and what follows. -/
def longest? (sounds : List String) (cs : List Char) : Option (Nat × List Char) :=
  let fitting := sounds.zipIdx.filter fun s => s.1.toList.isPrefixOf cs
  (fitting.foldl (fun (best : Option (String × Nat)) s =>
    if best.any fun b => s.1.length ≤ b.1.length then best else some s) none).map
      fun s => (s.2, cs.drop s.1.length)

/-- The number of the syllable of some sounds. -/
def syllable? (cs : List Char) : Option Nat := do
  let (first, cs) ← longest? firstSounds cs
  let (middle, cs) ← longest? middleSounds cs
  let (last, cs) ← longest? lastSounds cs
  if cs.isEmpty then some (0xAC00 + (first * middleSounds.length + middle) * lastSounds.length + last)
  else none

/-- The numbers of the ideographs that are named by their numbers. -/
def ideographs : List (Nat × Nat) :=
  [(0x3400, 0x4DBF), (0x4E00, 0x9FFF), (0x20000, 0x2A6DF), (0x2A700, 0x2B738), (0x2B740, 0x2B81D),
    (0x2B820, 0x2CEA1), (0x2CEB0, 0x2EBE0), (0x30000, 0x3134A)]

/-- The number of the ideograph with a number in four or five digits. -/
def ideograph? (cs : List Char) : Option Nat :=
  if cs.length ∈ [4, 5] && cs.all fun c => c.isDigit || ('A' ≤ c ∧ c ≤ 'F') then
    let n := hexValue (String.ofList (cs.map Char.toLower))
    if ideographs.any fun r => r.1 ≤ n && n ≤ r.2 then some n else none
  else none

/-- The number of the character with a name, in which case means nothing but in front of syllables and
ideographs. -/
def number? (name : String) : Option Nat :=
  let behind := fun (front : String) =>
    if front.toList.isPrefixOf name.toList then some (name.toList.drop front.length) else none
  match behind "HANGUL SYLLABLE ", behind "CJK UNIFIED IDEOGRAPH-" with
  | some sounds, _ => syllable? sounds
  | none, some number => ideograph? number
  | none, none =>
    let name := name.map Char.toUpper
    let words := name.splitOn " "
    match other? name with
    | some n => some n
    | none => tables.findSome? fun t => find? words t.1 [] (t.2.flatMap (·.splitOn ","))

def character? (name : String) : Option Char := (number? name).map Char.ofNat

end SdkGen.Text.CharacterName
