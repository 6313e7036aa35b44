import SdkGen.Conventions
import SdkGen.Model.Basic
import SdkGen.Text.Blank

/-!
# Arguments of a transport call

A transport call takes four groups in a fixed order: query, body, headers, cookies. An empty group is
written as the null literal, so that later groups keep their place, and is left out when nothing
follows it. The text is put together from the back.
-/

namespace SdkGen.Conventions

/-- Arguments behind a common text, delimited; the null literal if there are none. -/
def argList (c : Conventions) (args : List String) (front : String) : String :=
  match args with
  | [] => c.nullStr
  | _ => front ++ String.intercalate (c.argDelimiter ++ front) args

/-- Arguments between brackets; the null literal if there are none. -/
def argGroup (c : Conventions) (args : List String) (front : String) : String :=
  match args with
  | [] => c.nullStr
  | _ => "[" ++ front ++ String.intercalate (c.argDelimiter ++ front) args ++ "]"

/-- Puts arguments in front of those gathered so far. The null literal is dropped while nothing has
been gathered. -/
def argFill (c : Conventions) (current args : String) : String :=
  if current = "" ∧ Text.stripped args = c.nullStr then ""
  else args ++ (if current = "" then "" else c.argDelimiter) ++ current

/-- The body argument; the null literal if there is none. -/
def bodyText (c : Conventions) (body : Option String) (front : String) : String :=
  match body with
  | none => c.nullStr
  | some "" => c.nullStr
  | some name => front ++ name

/-- The arguments of a call: the groups are gathered from the last to the first. -/
def assemble (c : Conventions) (query : List String) (body : Option String)
    (header cookie : List String) (front : String) : String :=
  let gathered := c.argFill "" (c.argGroup cookie front)
  let gathered := c.argFill gathered (c.argGroup header front)
  let gathered := c.argFill gathered (c.bodyText body front)
  c.argFill gathered (c.argGroup query front)

/-- The arguments of the transport call of a method. Path arguments are not among them. -/
def httpArgs (c : Conventions) (m : Method) (front : String) : String :=
  c.assemble m.queryArgs m.bodyArg m.headerArgs m.cookieArgs front

end SdkGen.Conventions
