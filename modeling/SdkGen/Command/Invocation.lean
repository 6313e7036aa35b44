/-!
# Invocations

What the program is asked to do by its arguments. Options may be written long or short; the value of an
option stands behind an equals sign or in the next argument, for a short option also right behind it,
and short options can share one dash. Two dashes end the options. Arguments that mean nothing make the
whole invocation mean nothing.
-/

namespace SdkGen

structure GenerateOptions where
  /-- The path of the configuration file, if one is given. -/
  config : Option String := none
  /-- Whether to print what the passes report. -/
  verbose : Bool := false
deriving DecidableEq, Repr

/-- What the program is asked to do. -/
inductive Invocation where
  /-- Generate the sources of all targets. -/
  | generate (options : GenerateOptions)
  | languages
  | version
deriving DecidableEq, Repr

namespace GenerateOptions

/-- Reads short options that share a dash; also tells whether the next argument is the value of the
last one. -/
def readShort (o : GenerateOptions) : List Char → Option (GenerateOptions × Bool)
  | [] => some (o, false)
  | 'v' :: cs => readShort { o with verbose := true } cs
  | ['c'] => some (o, true)
  | 'c' :: cs => some ({ o with config := some (String.ofList cs) }, false)
  | _ => none

/-- Reads one argument that is no value. -/
def readArgument (o : GenerateOptions) (argument : String) : Option (GenerateOptions × Bool) :=
  if argument = "--verbose" then some ({ o with verbose := true }, false)
  else if argument = "--config" then some (o, true)
  else
    match argument.toList with
    | '-' :: '-' :: cs =>
      if "config=".toList.isPrefixOf cs then
        some ({ o with config := some (String.ofList (cs.drop 7)) }, false)
      else none
    | '-' :: c :: cs => o.readShort (c :: cs)
    | _ => none

/-- Reads the arguments of the generate command; `awaiting` if the first is the value of an option. -/
def read : Bool → GenerateOptions → List String → Option GenerateOptions
  | awaiting, o, [] => if awaiting then none else some o
  | true, o, value :: rest => read false { o with config := some value } rest
  | false, o, "--" :: rest => if rest.isEmpty then some o else none
  | false, o, argument :: rest =>
    match o.readArgument argument with
    | some (o, awaiting) => read awaiting o rest
    | none => none

end GenerateOptions

namespace Invocation

/-- Reads a command and its arguments. -/
def ofCommand? (command : String) (arguments : List String) : Option Invocation :=
  let alone := arguments = [] ∨ arguments = ["--"]
  if command = "generate" then (GenerateOptions.read false {} arguments).map generate
  else if command = "languages" ∧ alone then some languages
  else if command = "version" ∧ alone then some version
  else none

/-- Reads the arguments of the program. -/
def ofArguments? : List String → Option Invocation
  | "--" :: command :: arguments => ofCommand? command arguments
  | command :: arguments => ofCommand? command arguments
  | [] => none

end Invocation

end SdkGen
