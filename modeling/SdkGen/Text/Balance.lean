/-!
# Balanced sources

A source text is balanced when every bracket and every literal text in it is closed. Brackets inside
literal texts and comments do not count. Literal texts stand between single or double quotes, on one
line unless three quotes open and close them, and a backslash takes the character after it along.
-/

namespace SdkGen.Text

/-- Where in a source text a character stands. -/
inductive SourcePlace where
  /-- Among the tokens. -/
  | code
  /-- In a comment, up to the end of the line. -/
  | comment
  /-- In a literal text between single quote characters. -/
  | short (quote : Char)
  /-- In a literal text between triples of quote characters. -/
  | long (quote : Char)
deriving DecidableEq, Repr

/-- The bracket that closes an opening one. -/
def closing? : Char → Option Char
  | '(' => some ')'
  | '[' => some ']'
  | '\x7b' => some '\x7d'
  | _ => none

/-- Whether a character closes some bracket. -/
def isClosing (c : Char) : Bool := c = ')' || c = ']' || c = '\x7d'

/-- Whether a character opens or closes a literal text. -/
def isQuote (c : Char) : Bool := c = '"' || c = '\''

/-- Whether the rest of a source is balanced, from a place in it and with the brackets that are still
to be closed, innermost first. `skip` characters belong to what has been read already. -/
def isBalancedFrom : Nat → SourcePlace → List Char → List Char → Bool
  | _, .code, closers, [] => closers.isEmpty
  | _, .comment, closers, [] => closers.isEmpty
  | _, _, _, [] => false
  | skip + 1, place, closers, _ :: cs => isBalancedFrom skip place closers cs
  | 0, .code, closers, c :: cs =>
    if c = '#' then isBalancedFrom 0 .comment closers cs
    else if isQuote c then
      if cs.take 2 = [c, c] then isBalancedFrom 2 (.long c) closers cs
      else isBalancedFrom 0 (.short c) closers cs
    else
      match closing? c with
      | some closer => isBalancedFrom 0 .code (closer :: closers) cs
      | none =>
        if isClosing c then
          closers.head? = some c && isBalancedFrom 0 .code (closers.drop 1) cs
        else isBalancedFrom 0 .code closers cs
  | 0, .comment, closers, c :: cs =>
    isBalancedFrom 0 (if c = '\n' then .code else .comment) closers cs
  | 0, .short q, closers, c :: cs =>
    if c = '\\' then isBalancedFrom 1 (.short q) closers cs
    else if c = '\n' then false
    else isBalancedFrom 0 (if c = q then .code else .short q) closers cs
  | 0, .long q, closers, c :: cs =>
    if c = '\\' then isBalancedFrom 1 (.long q) closers cs
    else if c = q && cs.take 2 = [q, q] then isBalancedFrom 2 .code closers cs
    else isBalancedFrom 0 (.long q) closers cs

/-- Whether every bracket and every literal text of a source is closed. -/
def isBalanced (source : String) : Bool := isBalancedFrom 0 .code [] source.toList

end SdkGen.Text
