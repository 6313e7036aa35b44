/-!
# The journal of a run

What a run reports about itself while it works: each event has a level and a message.
-/

namespace SdkGen

/-- How much an event matters. -/
inductive Level where
  | info
  | debug
deriving DecidableEq, Repr

def Level.name : Level → String
  | .info => "INFO"
  | .debug => "DEBUG"

/-- Something that a run reports. -/
inductive Event where
  /-- A pass over a model begins. -/
  | generating (language : String) (methods : Nat)
  /-- A request type was made for a method. -/
  | createdRequest (name source : String)
  /-- A writeable variant was made for a type. -/
  | createdWriteable (name source : String)
  /-- A type is about to be declared. -/
  | declaring (name : String)
  /-- A pass over a model is done. -/
  | declared (types : Nat)
  /-- A file was written. -/
  | wrote (fileName : String)
deriving DecidableEq, Repr

namespace Event

/-- How much an event matters. -/
def level : Event → Level
  | generating _ _ | declared _ | wrote _ => .info
  | createdRequest _ _ | createdWriteable _ _ | declaring _ => .debug

/-- The wording of an event. -/
def message : Event → String
  | generating language methods => s!"Generating {language} sources for {methods} methods"
  | createdRequest name source => s!"Created request type {name} for {source}"
  | createdWriteable name source => s!"Created writeable type {name} for {source}"
  | declaring name => s!"Declaring type {name}"
  | declared types => s!"Declared {types} types"
  | wrote fileName => s!"Wrote {fileName}"

end Event

end SdkGen
