import SdkGen.Proofs.Target.InterfaceLines

/-!
# Constructors of classes

A TypeScript constructor lists its arguments, with a mark at those that may be left out, and puts each of them into a
member. It can be called only where every argument that has to be there stands before all that may be left out.
`TypeScript.readConstructor` reads the text of a constructor from left to right.

Main statement: `TypeScript.construct_callable_iff`. A constructor has each property once among its arguments and
assigns it once, but the arguments stand in the order of the properties, and so it can be called exactly where this
order has no property that is required behind one that is not.
-/

namespace SdkGen

namespace TypeScript

/-- An argument of a constructor, and whether it has the mark of one that may be left out. -/
structure Argument where
  name : String
  optional : Bool
deriving DecidableEq, Repr

/-- What a constructor is called with, and which members it assigns an argument of their name to. -/
structure Constructor where
  args : List Argument
  assigned : List String
deriving DecidableEq, Repr

/-- An argument as it is written; it takes any value. -/
def Argument.text (a : Argument) : String := a.name ++ optionalMark a.optional ++ ": any"

namespace Constructor

/-- The body of a constructor behind its opening brace, as it is written: an assignment in each line. -/
def bodyText (t : Target) (indent : String) (assigned : List String) : String :=
  if assigned = [] then "\x7d"
  else "\n" ++ String.intercalate "\n" (assigned.map (initArg (t.bumper indent))) ++ "\n" ++ indent ++ "\x7d"

/-- A constructor as it is written. -/
def text (t : Target) (indent : String) (c : Constructor) : String :=
  indent ++ "constructor(" ++ String.intercalate ", " (c.args.map Argument.text) ++ ") \x7b" ++
    bodyText t indent c.assigned

/-- Every property is one of the arguments, once, and is assigned once; there is nothing else. -/
structure Covers (c : Constructor) (properties : List Property) : Prop where
  args : c.args.Perm (properties.map fun q => ⟨q.name, q.nullable⟩)
  assigned : c.assigned.Perm (properties.map Property.name)

/-- No argument that has to be there stands behind one that may be left out. -/
def RequiredFirst (c : Constructor) : Prop := c.args.Pairwise fun a b => a.optional → b.optional

/-- A constructor that takes and assigns all properties and that can be called. -/
def IsCallable (c : Constructor) (properties : List Property) : Prop := c.Covers properties ∧ c.RequiredFirst

/-- The constructor with arguments and assignments in the order of the properties. -/
def inOrder (properties : List Property) : Constructor where
  args := properties.map fun q => ⟨q.name, q.nullable⟩
  assigned := properties.map Property.name

end Constructor

/-! ## Reading constructors -/

/-- Reads items one behind the other, as long as there is one and the separator stands between it and the next. A
separator behind the last item belongs to the items. -/
def readItems {α : Type} (read : List Char → Option (α × List Char)) (separator cs : List Char) : List α × List Char :=
  match read cs with
  | none => ([], cs)
  | some (a, rest) =>
    match separator.isPrefixOf? rest with
    | none => ([a], rest)
    | some next =>
      if next.length < cs.length then
        let (items, rest) := readItems read separator next
        (a :: items, rest)
      else ([a], rest)
termination_by cs.length

/-- Reads a name. -/
def readName (cs : List Char) : Option (String × List Char) :=
  let name := cs.takeWhile Text.isWordChar
  if name.isEmpty then none else some (.ofList name, cs.drop name.length)

/-- Reads an argument. -/
def readArgument (cs : List Char) : Option (Argument × List Char) := do
  let (name, cs) ← readName cs
  match (optionalMark true).toList.isPrefixOf? cs with
  | some cs =>
    let rest ← ": any".toList.isPrefixOf? cs
    return (⟨name, true⟩, rest)
  | none =>
    let rest ← ": any".toList.isPrefixOf? cs
    return (⟨name, false⟩, rest)

/-- Reads the assignment of an argument to the member of its name. -/
def readAssignment (bump : String) (cs : List Char) : Option (String × List Char) := do
  let cs ← (bump ++ "this.").toList.isPrefixOf? cs
  let (name, cs) ← readName cs
  let rest ← (" = " ++ name).toList.isPrefixOf? cs
  return (name, rest)

/-- Reads the body of a constructor behind its opening brace. -/
def readBody (t : Target) (indent : String) (cs : List Char) : Option (List String) :=
  if cs = ['\x7d'] then some []
  else do
    let cs ← ['\n'].isPrefixOf? cs
    let (assigned, cs) := readItems (readAssignment (t.bumper indent)) ['\n'] cs
    if cs = (indent ++ "\x7d").toList then some assigned else none

/-- Reads a constructor. -/
def readConstructor (t : Target) (indent s : String) : Option Constructor := do
  let cs ← (indent ++ "constructor(").toList.isPrefixOf? s.toList
  let (args, cs) := readItems readArgument ", ".toList cs
  let cs ← ") \x7b".toList.isPrefixOf? cs
  let assigned ← readBody t indent cs
  return ⟨args, assigned⟩

/-! ## Items -/

/-- What follows a text is what is left without it. -/
lemma isPrefixOf?_append (cs rest : List Char) : cs.isPrefixOf? (cs ++ rest) = some rest :=
  List.isPrefixOf?_eq_some_iff_append_eq.2 rfl

section Items

variable {α : Type} {read : List Char → Option (α × List Char)} {separator cs rest next : List Char} {a : α}

/-- Where no item can be read, there are none. -/
lemma readItems_nil (h : read cs = none) : readItems read separator cs = ([], cs) := by
  rw [readItems, h]

/-- Without a separator behind it, an item is the last one. -/
lemma readItems_last (h : read cs = some (a, rest)) (hlast : separator.isPrefixOf? rest = none) :
    readItems read separator cs = ([a], rest) := by
  rw [readItems, h]
  simp only [hlast]

/-- Behind an item and a separator, all other items follow. -/
lemma readItems_cons (h : read cs = some (a, separator ++ next)) (hlength : next.length < cs.length) :
    readItems read separator cs =
      (a :: (readItems read separator next).1, (readItems read separator next).2) := by
  rw [readItems, h]
  simp only [isPrefixOf?_append, if_pos hlength]

/-- Items that are written one behind the other are read as they are, if each is and if the last one is the last one
that is read. -/
theorem readItems_intercalate {write : α → List Char} {items : List α} (hseparator : separator ≠ [])
    (hread : ∀ a ∈ items, ∀ rest, read (write a ++ rest) = some (a, rest)) (hne : items ≠ [])
    (hlast : ∀ a ∈ items, readItems read separator (write a ++ rest) = ([a], next)) :
    readItems read separator (separator.intercalate (items.map write) ++ rest) = (items, next) := by
  induction items with
  | nil => exact absurd rfl hne
  | cons a items ih =>
    rw [List.forall_mem_cons] at hread hlast
    by_cases hitems : items = []
    · simpa [hitems] using hlast.1
    · have hchars : separator.intercalate ((a :: items).map write) ++ rest =
          write a ++ (separator ++ (separator.intercalate (items.map write) ++ rest)) := by
        rw [List.map_cons, List.intercalate_cons_of_ne_nil (by simpa using hitems)]
        simp only [List.append_assoc]
      have hshorter : (separator.intercalate (items.map write) ++ rest).length <
          (write a ++ (separator ++ (separator.intercalate (items.map write) ++ rest))).length := by
        have := List.length_pos_iff.2 hseparator
        simp only [List.length_append]
        omega
      rw [hchars, readItems_cons (hread.1 _) hshorter, ih hread.2 hitems hlast.2]

end Items

/-! ## Arguments and assignments -/

section Parts

variable {t : Target} {indent bump name : String} {a : Argument} {cs rest : List Char}

/-- A word in front of another character is read as a name. -/
lemma readName_append (h : Text.IsWord name) (hrest : ∀ ch ∈ rest.head?, Text.isWordChar ch = false) :
    readName (name.toList ++ rest) = some (name, rest) := by
  have hname : name.toList ≠ [] := mt String.toList_eq_nil_iff.1 h.1
  simp [readName, h.takeWhile_append hrest, hname]

/-- An argument with a word for its name is read back. -/
lemma readArgument_text (h : Text.IsWord a.name) (rest : List Char) :
    readArgument (a.text.toList ++ rest) = some (a, rest) := by
  obtain ⟨name, optional⟩ := a
  cases optional with
  | true =>
    have hchars : (Argument.text ⟨name, true⟩).toList ++ rest =
        name.toList ++ ((optionalMark true).toList ++ (": any".toList ++ rest)) := by
      simp [Argument.text]
    rw [hchars, readArgument, readName_append h (by rintro ch ⟨⟩; decide)]
    simp only [Option.bind_eq_bind, Option.bind_some, isPrefixOf?_append, Option.pure_def]
  | false =>
    have hchars : (Argument.text ⟨name, false⟩).toList ++ rest = name.toList ++ (": any".toList ++ rest) := by
      simp [Argument.text, optionalMark]
    have hmark : (optionalMark true).toList.isPrefixOf? (": any".toList ++ rest) = none := rfl
    rw [hchars, readArgument, readName_append h (by rintro ch ⟨⟩; decide)]
    simp only [Option.bind_eq_bind, Option.bind_some, hmark, isPrefixOf?_append, Option.pure_def]

/-- An assignment with a word for its name is read back. -/
lemma readAssignment_initArg (h : Text.IsWord name) (rest : List Char) :
    readAssignment bump ((initArg bump name).toList ++ rest) = some (name, rest) := by
  have hchars : (initArg bump name).toList ++ rest =
      (bump ++ "this.").toList ++ (name.toList ++ ((" = " ++ name).toList ++ rest)) := by
    simp [initArg]
  have hend : ∀ ch ∈ ((" = " ++ name).toList ++ rest).head?, Text.isWordChar ch = false := by
    rw [String.toList_append, List.append_assoc]
    rintro ch ⟨⟩
    decide
  rw [hchars, readAssignment]
  simp only [Option.bind_eq_bind, Option.bind_some, isPrefixOf?_append, readName_append h hend, Option.pure_def]

/-- Arguments between parentheses are read back. -/
lemma readItems_arguments {args : List Argument} (h : ∀ a ∈ args, Text.IsWord a.name) (rest : List Char) :
    readItems readArgument ", ".toList ((String.intercalate ", " (args.map Argument.text)).toList ++ ')' :: rest) =
      (args, ')' :: rest) := by
  by_cases hargs : args = []
  · subst hargs
    exact readItems_nil rfl
  · rw [String.toList_intercalate, List.map_map]
    apply readItems_intercalate (by decide) (fun a ha => readArgument_text (h a ha)) hargs
    exact fun a ha => readItems_last (readArgument_text (h a ha) _) rfl

/-- The brace at the end is no assignment. -/
lemma readAssignment_close (t : Target) (indent : String) :
    readAssignment (t.bumper indent) (indent ++ "\x7d").toList = none := by
  have hnone : (t.bumper indent ++ "this.").toList.isPrefixOf? (indent ++ "\x7d").toList = none := by
    rw [Option.eq_none_iff_forall_ne_some]
    intro rest hrest
    -- an assignment is longer than the line that ends the body
    have hlength := congrArg List.length (List.isPrefixOf?_eq_some_iff_append_eq.1 hrest)
    simp [Target.bumper, Conventions.bumper] at hlength
    omega
  rw [readAssignment, hnone, Option.bind_eq_bind, Option.bind_none]

/-- Assignments in front of the brace are read back. -/
lemma readItems_assignments {assigned : List String} (h : ∀ name ∈ assigned, Text.IsWord name)
    (hne : assigned ≠ []) :
    readItems (readAssignment (t.bumper indent)) ['\n']
        ((String.intercalate "\n" (assigned.map (initArg (t.bumper indent)))).toList ++
          '\n' :: (indent ++ "\x7d").toList) =
      (assigned, (indent ++ "\x7d").toList) := by
  rw [String.toList_intercalate, List.map_map]
  apply readItems_intercalate (by decide) (fun name hname => readAssignment_initArg (h name hname)) hne
  intro name hname
  -- a line feed follows the last assignment too, so reading goes on and finds the end of the body
  have hline : readAssignment (t.bumper indent)
      ((initArg (t.bumper indent) name).toList ++ '\n' :: (indent ++ "\x7d").toList) =
        some (name, ['\n'] ++ (indent ++ "\x7d").toList) :=
    readAssignment_initArg (h name hname) _
  have hshorter : (indent ++ "\x7d").toList.length <
      ((initArg (t.bumper indent) name).toList ++ '\n' :: (indent ++ "\x7d").toList).length := by
    rw [List.length_append, List.length_cons]
    omega
  rw [readItems_cons hline hshorter, readItems_nil (readAssignment_close t indent)]

end Parts

namespace Constructor

variable {t : Target} {indent : String} {c : Constructor}

/-- A body is read back. -/
lemma readBody_bodyText {assigned : List String} (h : ∀ name ∈ assigned, Text.IsWord name) :
    readBody t indent (bodyText t indent assigned).toList = some assigned := by
  rw [bodyText]
  by_cases hnone : assigned = []
  · simp [hnone, readBody]
  · have hchars : ("\n" ++ String.intercalate "\n" (assigned.map (initArg (t.bumper indent))) ++ "\n" ++ indent ++
        "\x7d").toList =
          ['\n'] ++ ((String.intercalate "\n" (assigned.map (initArg (t.bumper indent)))).toList ++
            '\n' :: (indent ++ "\x7d").toList) := by
      simp
    have hbrace : ∀ cs, ['\n'] ++ cs ≠ ['\x7d'] := by simp
    rw [if_neg hnone, hchars, readBody, if_neg (hbrace _), isPrefixOf?_append, Option.bind_eq_bind, Option.bind_some]
    simp only [readItems_assignments h hnone, if_pos]

/-- A constructor with words for names is read back from its text. -/
theorem readConstructor_text (hargs : ∀ a ∈ c.args, Text.IsWord a.name)
    (hassigned : ∀ name ∈ c.assigned, Text.IsWord name) : readConstructor t indent (c.text t indent) = some c := by
  have hchars : (c.text t indent).toList =
      (indent ++ "constructor(").toList ++ ((String.intercalate ", " (c.args.map Argument.text)).toList ++
        ')' :: (" \x7b".toList ++ (bodyText t indent c.assigned).toList)) := by
    simp [text]
  have hbehind : ") \x7b".toList.isPrefixOf? (')' :: (" \x7b".toList ++ (bodyText t indent c.assigned).toList)) =
      some (bodyText t indent c.assigned).toList :=
    isPrefixOf?_append _ _
  rw [readConstructor, hchars]
  simp only [isPrefixOf?_append, Option.bind_eq_bind, Option.bind_some, readItems_arguments hargs, hbehind,
    readBody_bodyText hassigned, Option.pure_def]

/-- What is written for properties is the constructor in their order. -/
theorem text_inOrder (t : Target) (indent : String) (properties : List Property) :
    (inOrder properties).text t indent = construct t indent properties := by
  cases properties with
  | nil =>
    have hnone : "constructor() \x7b\x7d" = "constructor(" ++ (") \x7b" ++ "\x7d") := rfl
    simp [text, bodyText, inOrder, construct, hnone, String.append_assoc]
  | cons q qs =>
    have hopen : ") \x7b\n" = ") \x7b" ++ "\n" := rfl
    rw [text, bodyText, if_neg (by simp [inOrder]), construct, if_neg (by simp), inOrder, List.map_map, List.map_map,
      hopen]
    simp only [← String.append_assoc]
    rfl

/-- What is written for properties with words for names is read as the constructor in their order. -/
lemma readConstructor_construct {properties : List Property} (h : ∀ q ∈ properties, Text.IsWord q.name) :
    readConstructor t indent (construct t indent properties) = some (inOrder properties) := by
  rw [← text_inOrder]
  apply readConstructor_text
  · intro a ha
    obtain ⟨q, hq, rfl⟩ := List.mem_map.1 ha
    exact h q hq
  · intro name hname
    obtain ⟨q, hq, rfl⟩ := List.mem_map.1 hname
    exact h q hq

/-- A constructor with the properties in order takes each of them once. -/
lemma inOrder_covers (properties : List Property) : (inOrder properties).Covers properties := ⟨.rfl, .rfl⟩

/-- It takes the required ones first just if they come first among the properties. -/
lemma requiredFirst_inOrder_iff (properties : List Property) :
    (inOrder properties).RequiredFirst ↔ properties.Pairwise fun q q' => q.nullable → q'.nullable :=
  List.pairwise_map

end Constructor

/-- The text of a constructor has every property of a map once among its arguments and assigns it once, and where the
names are words it is read as nothing else. Its arguments stand in the order of the map, so it can be called exactly if
no property that is required comes behind one that is not. -/
theorem construct_callable_iff (t : Target) (indent : String) (properties : Dict String Property) :
    ∃ c : Constructor,
      c.text t indent = construct t indent properties.values ∧
      c.Covers properties.values ∧
      (c.IsCallable properties.values ↔ properties.values.Pairwise fun q q' => q.nullable → q'.nullable) ∧
      ((∀ q ∈ properties.values, Text.IsWord q.name) →
        readConstructor t indent (construct t indent properties.values) = some c) := by
  have hcovers := Constructor.inOrder_covers properties.values
  refine ⟨.inOrder properties.values, Constructor.text_inOrder t indent _, hcovers, ?_,
    Constructor.readConstructor_construct⟩
  rw [Constructor.IsCallable, and_iff_right hcovers, Constructor.requiredFirst_inOrder_iff]

/-- A map in which a required property comes last. -/
example :
    construct (.standard .typescript) ""
        [{ name := "a", type := none, nullable := true }, { name := "b", type := none }] =
      "constructor(a?: any, b: any) \x7b\n  this.a = a\n  this.b = b\n\x7d" := by
  decide

/-- Not every map gives a constructor that can be called: a property that may be left out can come before one that is
required. -/
theorem not_construct_callable :
    ¬∀ (t : Target) (indent : String) (properties : Dict String Property),
      (∀ e ∈ properties.entries, e.1 = e.2.name ∧ Text.IsWord e.1) →
        ∃ c, readConstructor t indent (construct t indent properties.values) = some c ∧
          c.IsCallable properties.values := by
  intro h
  obtain ⟨c, hread, -, hfirst⟩ := h (.standard .typescript) "" ⟨[("a", { name := "a", type := none, nullable := true }),
    ("b", { name := "b", type := none })], by decide⟩ (by decide)
  rw [Constructor.readConstructor_construct (by decide)] at hread
  cases hread
  revert hfirst
  rw [Constructor.requiredFirst_inOrder_iff]
  decide

end TypeScript

end SdkGen
