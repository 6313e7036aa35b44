import SdkGen.Config.Sources
import SdkGen.Emission

/-!
# Hosts

The program runs on a host, which brings what is no part of it: the packages that read documents and
settings, the compiler that checks Python sources, and the terminal that shows texts with tags in them.
-/

namespace SdkGen

/-- What shows texts to the user. Texts may be marked with tags, and each of them may fail to be shown. -/
structure Terminal where
  /-- What is printed of a marked text. -/
  marked : Text.HalvedText → Except Fault String
  /-- Begins to show a marked text beside the work that goes on. -/
  begins : Text.HalvedText → Except Fault Unit
  /-- What is left of such a text when the work is over. -/
  remains : Text.HalvedText → Except Fault String
  /-- What is printed of an event; characters of its message may stand for halves of characters. -/
  event : Event → Bool → Except Fault String

/-- What the program runs on. -/
structure Host where
  readers : Config.Readers
  compile : Check
  terminal : Terminal

end SdkGen
