import SdkGen.Text.Blank
import SdkGen.Text.Numeral
import SdkGen.Yaml.Stamp

/-!
# YAML tags

The tag of a node says what is made of it. A scalar that is written plainly gets its tag from its form:
it may be no value, a truth value, a whole number in one of five notations, a decimal, a date or time,
one of two signs with a meaning in mappings, or else a text.
-/

namespace SdkGen.Yaml

/-- What is made of a node. -/
inductive Tag where
  | null
  /-- A truth value. -/
  | bool
  /-- A whole number. -/
  | int
  /-- A decimal. -/
  | float
  /-- A date, perhaps with a time. -/
  | moment
  | text
  /-- A text of bytes. -/
  | bytes
  | complex
  /-- Something that is known by its name. -/
  | named (name : String)
  /-- The key under which other mappings are merged in. -/
  | merge
  /-- The key of the value that a mapping stands for. -/
  | default
  | sequence
  /-- A sequence that is made at once. -/
  | tuple
  /-- A sequence of keys with their values. -/
  | pairs
  | mapping
  /-- The keys of a mapping. -/
  | set
  /-- None of these. -/
  | unknown
deriving DecidableEq, Repr, Inhabited

namespace Tag

/-- What the names of the standard tags begin with. -/
def front : String := "tag:yaml.org,2002:"

/-- What the names of the tags of things known by name begin with. -/
def namedFront : String := "python/name:"

/-- The standard tag of a name. -/
def ofStandard : String → Tag
  | "null" | "python/none" => .null
  | "bool" | "python/bool" => .bool
  | "int" | "python/int" | "python/long" => .int
  | "float" | "python/float" => .float
  | "timestamp" => .moment
  | "str" | "python/str" | "python/unicode" => .text
  | "binary" | "python/bytes" => .bytes
  | "python/complex" => .complex
  | "merge" => .merge
  | "value" => .default
  | "seq" | "python/list" => .sequence
  | "python/tuple" => .tuple
  | "omap" | "pairs" => .pairs
  | "map" | "python/dict" => .mapping
  | "set" => .set
  | name =>
    if name.startsWith namedFront then .named (String.ofList (name.toList.drop namedFront.length))
    else .unknown

/-- The tag of a full name. -/
def ofName (name : String) : Tag :=
  if name.startsWith front then ofStandard (String.ofList (name.toList.drop front.length))
  else .unknown

/-! ## Tags by form -/

/-- Whether a character is a digit of a base or an underscore. -/
def isDigitOf (base : Nat) (c : Char) : Bool := c == '_' || (Text.digitIn? base c).isSome

/-- Whether characters are a sexagesimal place: one digit, or two of which the first is below six. -/
def isSixtieth : List Char → Bool
  | [a] => a.isDigit
  | [a, b] => '0' ≤ a && a ≤ '5' && b.isDigit
  | _ => false

/-- Whether characters are a digit and further digits or underscores. -/
def isNumeral : List Char → Bool
  | [] => false
  | c :: cs => c.isDigit && cs.all (isDigitOf 10)

/-- Whether characters have the form of a whole number. -/
def isInt (cs : List Char) : Bool :=
  match (Text.splitSign cs).2 with
  | ['0'] => true
  | '0' :: 'b' :: ds => !ds.isEmpty && ds.all (isDigitOf 2)
  | '0' :: 'x' :: ds => !ds.isEmpty && ds.all (isDigitOf 16)
  | '0' :: ds => ds.all (isDigitOf 8)
  | cs =>
    match Text.splitAtChar ':' cs with
    | first :: places => isNumeral first && places.all isSixtieth
    | [] => false

/-- Whether characters are an exponent, which always has a sign, or nothing. -/
def isExponent : List Char → Bool
  | [] => true
  | e :: sign :: ds =>
    (e == 'e' || e == 'E') && (sign == '-' || sign == '+') && !ds.isEmpty && ds.all Char.isDigit
  | _ => false

/-- Whether characters have the form of a decimal. Those that begin with the point have no sign. -/
def isFloat (cs : List Char) : Bool :=
  let body := (Text.splitSign cs).2
  let signed := body.length < cs.length
  let digit := isDigitOf 10
  let whole := body.takeWhile fun c => digit c || c == ':'
  match body.drop whole.length with
  | '.' :: rest =>
    let fraction := rest.takeWhile digit
    let tail := rest.drop fraction.length
    if whole.isEmpty then
      String.ofList rest ∈ ["inf", "Inf", "INF"] ||
        (!signed && (String.ofList rest ∈ ["nan", "NaN", "NAN"] ||
          (isNumeral fraction && isExponent tail)))
    else
      match Text.splitAtChar ':' whole with
      | [single] => isNumeral single && isExponent tail
      | first :: places => isNumeral first && places.all isSixtieth && tail.isEmpty
      | [] => false
  | _ => false

/-- The tag of a scalar by its form. An end of line at its end does not count. -/
def ofPlain (s : String) : Tag :=
  let cs := s.toList
  let cs := if cs.length > 1 ∧ cs.getLast? = some '\n' then cs.dropLast else cs
  let word := String.ofList cs
  if word ∈ ["", "~", "null", "Null", "NULL"] then .null
  else if word ∈ ["yes", "Yes", "YES", "true", "True", "TRUE", "on", "On", "ON", "no", "No", "NO",
      "false", "False", "FALSE", "off", "Off", "OFF"] then .bool
  else if word = "<<" then .merge
  else if word = "=" then .default
  else if isFloat cs then .float
  else if isInt cs then .int
  else if isMoment cs then .moment
  else .text

end Tag

end SdkGen.Yaml
