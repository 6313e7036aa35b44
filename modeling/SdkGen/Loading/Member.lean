import SdkGen.Failure
import SdkGen.Model.Basic
import SdkGen.Value.Shown

/-!
# Modules and their attributes

What a module that is loaded from holds. Besides the attributes that it was given, every module has
some of its own, which describe it; none of them is a model, nor is what running one of them gives.
-/

namespace SdkGen

/-- What a module holds or a factory gives. -/
inductive Product where
  | model (m : Model)
  | value (v : Value)

/-- An attribute of a module. -/
inductive Member where
  | held (p : Product)
  /-- A factory, by what running it comes to. -/
  | factory (result : Except Fault Product)

inductive Module where
  /-- A module that has been imported by then, with its attributes. -/
  | members (table : Dict String Member)
  /-- A module that is yet to be imported, by what running its code comes to. -/
  | code (result : Except Fault (Dict String Member))

/-- The modules that can be imported. -/
abbrev Modules := Dict String Module

namespace Member

/-- An attribute that holds a value. -/
def ofValue (v : Value) : Member := .held (.value v)

/-- Something that runs without arguments and gives a value. -/
def giving (v : Value) : Member := .factory (.ok (.value v))

/-- Something that cannot be run without arguments. -/
def refusing (text : String) : Member := .factory (.error (.raised "TypeError" text))

/-- What an attribute is where values are asked for. -/
def asValue : Member → Value
  | .held (.value v) => v
  | .held (.model _) => .foreign "ApiModel"
  | .factory _ => .foreign "function"

/-- The attributes of a module as a mapping. Those that describe it come first. -/
def tableOf (name : String) (table : Dict String Member) : Value :=
  let described : List (String × Value) :=
    [("__name__", .text name), ("__doc__", .null), ("__package__", .null), ("__loader__", .null),
      ("__spec__", .null)]
  .record ((Dict.ofList described).insertMany (table.entries.map fun e => (e.1, e.2.asValue))).entries

/-- The attributes that every module has by itself, in which it knows its name and the others. -/
def ofEveryModule (name : String) (table : Dict String Member) : List (String × Member) :=
  let oneArgument := refusing "expected 1 argument, got 0"
  let ofName := refusing "module() missing required argument 'name' (pos 1)"
  [("__annotations__", ofValue (.map [])),
    ("__class__", ofName),
    ("__delattr__", oneArgument),
    ("__dict__", ofValue (tableOf name table)),
    ("__dir__", giving (.list [])),
    ("__doc__", ofValue .null),
    ("__eq__", oneArgument),
    ("__format__", refusing "__format__() takes exactly one argument (0 given)"),
    ("__ge__", oneArgument),
    ("__getattribute__", oneArgument),
    ("__getstate__", giving (.map [])),
    ("__gt__", oneArgument),
    ("__hash__", giving (.int 0)),
    ("__init__", ofName),
    ("__init_subclass__", giving .null),
    ("__le__", oneArgument),
    ("__loader__", ofValue .null),
    ("__lt__", oneArgument),
    ("__name__", ofValue (.text name)),
    ("__ne__", oneArgument),
    ("__new__", refusing "module.__new__(): not enough arguments"),
    ("__package__", ofValue .null),
    ("__reduce__", refusing "cannot pickle 'module' object"),
    ("__reduce_ex__", refusing "__reduce_ex__() takes exactly one argument (0 given)"),
    ("__repr__", giving (.text "")),
    ("__setattr__", refusing " expected 2 arguments, got 0"),
    ("__sizeof__", giving (.int 0)),
    ("__spec__", ofValue .null),
    ("__str__", giving (.text "")),
    ("__subclasshook__", giving (.foreign "NotImplementedType"))]

end Member

/-- The name of the kind of what a module holds. -/
def Product.kindName : Product → String
  | .model _ => "ApiModel"
  | .value v => v.kindName

/-- The name of the kind of an attribute. -/
def Member.kindName : Member → String
  | .held p => p.kindName
  | .factory _ => "function"

/-- What running an attribute with one argument comes to: nothing that can be held is run, and factories take
no arguments. -/
def Member.faultWithArgument : Member → Fault
  | .held p => .notRunnable p.kindName
  | .factory _ => .raised "TypeError" "factory() takes 0 positional arguments but 1 was given"

namespace Module

/-- The attribute of a given name of a module with some attributes. -/
def attribute? (table : Dict String Member) (moduleName name : String) : Option Member :=
  (table.get? name).or ((Member.ofEveryModule moduleName table).lookup name)

/-- The name that a module goes by: the one that it was imported with, unless an attribute takes its
place. -/
def ownName? (table : Dict String Member) (name : String) : Option String :=
  match table.get? "__name__" with
  | none => some name
  | some (.held (.value v)) => v.text?
  | some _ => none

/-- The attribute of a given name of a module. A module may have one that is run for all that are
missing. -/
def lookup (table : Dict String Member) (moduleName name : String) : Except Fault Member :=
  match attribute? table moduleName name, table.get? "__getattr__" with
  | some found, _ => .ok found
  | none, some fallback => .error fallback.faultWithArgument
  | none, none => .error (.missingAttribute (ownName? table moduleName) name)

/-- What stops the search for a part of a module: only a module with a list of places can have parts. -/
def partFault? (table : Dict String Member) (moduleName part : String) : Option Fault :=
  match table.get? "__path__", table.get? "__getattr__" with
  | some (.held (.value v)), _ =>
    if v.elements?.isSome || v matches .null then none else some (.noItems v.kindName)
  | some places, _ => some (.noItems places.kindName)
  | none, some fallback => some fallback.faultWithArgument
  | none, none => some (.missingModule part (some moduleName))

end Module

end SdkGen
