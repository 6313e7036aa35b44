import SdkGen.Proofs.Arguments.Reading
import SdkGen.Proofs.Generate.Contexts
import SdkGen.Proofs.Target.MethodTexts

/-!
# What a method declares, it passes on

The head of a method declares its parameters, or a request type that bundles them, and its call passes the parameters
on, each in the group of its location. The head and the call are put together from different views of the method, and
the request type from a third one. They agree: whatever is declared is passed on, once and in order, and nothing else
is. How the parts of a method look in each of the languages is written down here once more, as its users know them.

Main statements: `Target.gives_declareMethod_written` (the parts of a declared method) and
`Target.declareMethod_passes`.
-/

namespace SdkGen

namespace Method

variable {method : Method} {nullStr : String}

/-- The parameters at a location. -/
def paramsAt (method : Method) (l : Location) : List Parameter := method.params.filter (·.location = l)

/-- The names of the parameters at a location. -/
def namesAt (method : Method) (l : Location) : List String := (method.paramsAt l).map (·.name)

/-- The parameters of a method have names of their own, which are plain, not empty and not written like the null
literal, and no two of them travel in the body. -/
structure WellNamed (method : Method) (nullStr : String) : Prop where
  nodup : (method.params.map (·.name)).Nodup
  names : ∀ q ∈ method.params, q.name ≠ "" ∧ Text.IsPlain q.name ∧ q.name ≠ nullStr
  body : (method.paramsAt .body).length ≤ 1

/-- The arguments that a method passes to its call, group by group. Path arguments are not among them. -/
def passedArgs (method : Method) : List String :=
  method.queryArgs ++ method.bodyArg.toList ++ method.headerArgs ++ method.cookieArgs

/-- Every parameter is an argument at its location and at no other one, and what is declared are the parameters, those
that must be given before the others and otherwise in their order. -/
structure Accounted (method : Method) : Prop where
  arguments : (method.pathArgs ++ method.passedArgs).Perm (method.params.map (·.name))
  passed : method.passedArgs.Perm ((method.params.filter (·.location ≠ .path)).map (·.name))
  declared : method.allParams.Perm method.params
  requiredFirst : method.allParams.Pairwise fun a b => a.nullable = true → b.nullable = true
  inOrder : ∀ nullable, method.allParams.filter (·.nullable = nullable) = method.params.filter (·.nullable = nullable)

/-- The parameters that travel outside of the path. -/
def paramsPassed (method : Method) : List Parameter :=
  method.paramsAt .query ++ method.paramsAt .body ++ method.paramsAt .header ++ method.paramsAt .cookie

/-- A parameter is found at its location as often as among all, and at no other one. -/
lemma count_paramsAt (method : Method) (l : Location) (q : Parameter) :
    (method.paramsAt l).count q = if q.location = l then method.params.count q else 0 := by
  split
  · next h => exact List.count_filter (by simpa using h)
  · next h => exact List.count_eq_zero.2 fun hq => h (by simpa using (List.mem_filter.1 hq).2)

/-- Every parameter travels in the path or outside of it. -/
lemma paramsAt_append_paramsPassed_perm (method : Method) :
    (method.paramsAt .path ++ method.paramsPassed).Perm method.params := by
  apply List.perm_iff_count.2
  intro q
  simp only [paramsPassed, List.count_append, count_paramsAt]
  cases q.location <;> simp

/-- Outside of the path, there is everything that does not travel in it. -/
lemma paramsPassed_perm (method : Method) :
    method.paramsPassed.Perm (method.params.filter (·.location ≠ .path)) := by
  -- with those in the path, both sides are all parameters
  apply (List.perm_append_left_iff (method.paramsAt .path)).1
  apply method.paramsAt_append_paramsPassed_perm.trans
  simpa [paramsAt] using (List.filter_append_perm (·.location = .path) method.params).symm

/-- With one parameter in the body, or none, all parameters outside of the path are passed. -/
lemma WellNamed.passedArgs_eq (h : method.WellNamed nullStr) :
    method.passedArgs = method.paramsPassed.map (·.name) := by
  have hbody : method.bodyArg.toList = (method.paramsAt .body).map (·.name) := by
    have hlength := h.body
    show ((method.paramsAt .body).map (·.name)).head?.toList = _
    match method.paramsAt .body, hlength with
    | [], _ => rfl
    | [q], _ => rfl
  rw [passedArgs, hbody, paramsPassed, List.map_append, List.map_append, List.map_append]
  rfl

/-- What must be given is declared before what may be left out. -/
lemma pairwise_allParams (method : Method) :
    method.allParams.Pairwise fun a b => a.nullable = true → b.nullable = true := by
  have hrequired : ∀ q ∈ method.requiredParams, q.nullable = false := by
    intro q hq
    simpa using (List.mem_filter.1 hq).2
  have hoptional : ∀ q ∈ method.optionalParams, q.nullable = true := fun q hq => (List.mem_filter.1 hq).2
  apply List.pairwise_append.2
  refine ⟨List.pairwise_of_forall_mem_list ?_, List.pairwise_of_forall_mem_list ?_, ?_⟩
  · intro a ha _ _ h
    rw [hrequired a ha] at h
    cases h
  · exact fun _ _ b hb _ => hoptional b hb
  · exact fun _ _ b hb _ => hoptional b hb

/-- What must be given is declared in order, and so is what may be left out. -/
lemma filter_allParams (method : Method) (nullable : Bool) :
    method.allParams.filter (·.nullable = nullable) = method.params.filter (·.nullable = nullable) := by
  cases nullable <;> simp [allParams, requiredParams, optionalParams, List.filter_filter]

/-- A method with well-named parameters accounts for all of them. -/
lemma WellNamed.accounted (h : method.WellNamed nullStr) : method.Accounted where
  arguments := by
    rw [h.passedArgs_eq]
    have hperm := method.paramsAt_append_paramsPassed_perm.map (·.name)
    rwa [List.map_append] at hperm
  passed := by
    rw [h.passedArgs_eq]
    exact method.paramsPassed_perm.map _
  declared := method.allParams_perm
  requiredFirst := method.pairwise_allParams
  inOrder := method.filter_allParams

end Method

/-! ## Methods in the words of a language -/

namespace Language

/-- What is said of the answer of a method that has none. -/
def nothing : Language → String
  | python => "None"
  | typescript => "void"

/-- A parameter in the head of a method, given its type. -/
def parameterLine (l : Language) (q : Parameter) (type : String) : String :=
  match l with
  | python => q.name ++ ": " ++ (if q.nullable then "Optional[" ++ type ++ "] = None" else type)
  | typescript => q.name ++ (if q.nullable then "?: " else ": ") ++ type

/-- The head of a method: its name, the lines between its parentheses and the type of its answer. -/
def headText (l : Language) (indent name : String) (lines : List String) (returns : String) : String :=
  match l with
  | python =>
    indent ++ "def " ++ name ++ "(\n" ++ String.intercalate ",\n" (("self" :: lines).map (indent ++ "    " ++ ·)) ++
      "\n" ++ indent ++ ") -> " ++ returns ++ ":\n"
  | typescript =>
    indent ++ "async " ++ name ++
      (if lines = [] then "()"
      else "(\n" ++ String.intercalate ",\n" (lines.map (indent ++ "  " ++ ·)) ++ "\n" ++ indent ++ ")") ++
      ": Promise<" ++ returns ++ "> \x7b\n"

/-- The call of a method: its verb, the types of its errors and its arguments. -/
def callText (l : Language) (indent verb : String) (errors args : List String) : String :=
  match l with
  | python =>
    indent ++ "    return self.rtl." ++ verb ++ "((" ++ String.intercalate ", " errors ++ "), " ++
      String.intercalate ", " args ++ ")"
  | typescript =>
    indent ++ "  return this.rtl." ++ verb ++ "((" ++ String.intercalate ", " errors ++ "), " ++
      String.intercalate ", " args ++ ")"

end Language

namespace Target

open Demand

variable {t : Target} {m : Model} {wraps : Bool} {indent : String} {id : MethodId} {p p' : Pass} {method : Method}
  {q : Parameter} {text : String}

/-- The declaration of a method with its remarks, given the lines in its head, the type of its answer, the types of its
errors and the arguments of its call. -/
def written (t : Target) (indent : String) (method : Method) (lines : List String) (returns : String)
    (errors args : List String) : String :=
  let head := t.language.headText indent method.name lines returns
  let call := t.language.callText indent (Text.toLower method.verb) errors args
  match t.language with
  | .python =>
    t.commentHeader indent (some (route method)) ++ head ++
      t.summary (indent ++ "    ") (some method.description) ++ call
  | .typescript => t.summary indent (some (typeScriptDoc method)) ++ head ++ call ++ "\n" ++ indent ++ "\x7d"

/-- A text mentions a type, as it is declared in a pass over a model. -/
def Mentions (t : Target) (m : Model) (wraps : Bool) (r : Option TypeRef) (text : String) : Prop :=
  ∃ (p : Pass) (r' : TypeRef), p.Sound m wraps ∧ r = some r' ∧ text = t.mentionText "models." (p.decl m) r'

/-- A text is the type of the answer of a method. -/
def Answers (t : Target) (m : Model) (wraps : Bool) (method : Method) (text : String) : Prop :=
  method.type.elim (text = t.language.nothing) fun r => t.Mentions m wraps (some r) text

/-- A line declares a parameter with its name and type. -/
def DeclaresParameter (t : Target) (m : Model) (wraps : Bool) (q : Parameter) (line : String) : Prop :=
  ∃ type, t.Mentions m wraps (m.passedType q) type ∧ line = t.language.parameterLine q type

/-- The arguments behind the path in the call of a method, with a text in front of each name: those of the four groups
up to the last one that is not empty. -/
def placedArgs (t : Target) (method : Method) (front : String) : List String :=
  t.conventions.placed (t.conventions.slots (method.namesAt .query) (method.namesAt .body).head?
    (method.namesAt .header) (method.namesAt .cookie) front)

/-- What stands before the arguments of a method: nothing, or the request type that they are members of. -/
def argumentFront (t : Target) (m : Model) (wraps : Bool) (id : MethodId) : String :=
  if t.bundles m wraps id then "request." else ""

/-- The lines in the head of a method: one for each parameter, or the request type that bundles them. -/
inductive HeadLines (t : Target) (m : Model) (wraps : Bool) (id : MethodId) : List String → Prop where
  | each {lines} :
    t.bundles m wraps id = false →
    (m.method id).allParams.Forall₂ (t.DeclaresParameter m wraps) lines →
    HeadLines t m wraps id lines
  | request :
    t.bundles m wraps id = true →
    HeadLines t m wraps id ["request: models.I" ++ (m.declOf (.request id)).name]

/-- A text is the declaration of a method. -/
def IsWritten (t : Target) (m : Model) (wraps : Bool) (indent : String) (id : MethodId) (text : String) : Prop :=
  ∃ lines returns errors,
    t.HeadLines m wraps id lines ∧ t.Answers m wraps (m.method id) returns ∧
    (m.method id).errors.Forall₂ (t.Mentions m wraps) errors ∧
    text = t.written indent (m.method id) lines returns errors
      (t.httpPath (m.method id).endpoint (t.argumentFront m wraps id) ::
        t.placedArgs (m.method id) (t.argumentFront m wraps id))

/-! ## The parts of a declaration -/

/-- Asking for the request type of a method gives its name exactly if the parameters are passed in it. -/
lemma requestName_eq (ht : t.language = .typescript) :
    (if wraps then (m.made? (.request id)).map (·.name) else none) =
      if t.bundles m wraps id then some (m.declOf (.request id)).name else none := by
  cases wraps with
  | false => simp [bundles]
  | true => cases hd : m.made? (.request id) <;> simp [bundles, ht, hd, Model.declOf_request]

/-- Mapping a type gives a mention of it. -/
lemma gives_typeMap_mention (r : Option TypeRef) :
    (t.typeMap m modelsQualifier r).Gives m wraps (ofMention r) (t.Mentions m wraps r) := by
  intro p hp
  cases r with
  | none => rfl
  | some r => exact ⟨_, runFrom_typeMapRef r p, p, r, hp, rfl, rfl⟩

/-- The answer of a method is mentioned, if there is one. -/
lemma gives_returnType_answer (method : Method) :
    (t.returnType m t.language.nothing method).Gives m wraps (ofAnswer method) (t.Answers m wraps method) := by
  rw [returnType, ofAnswer]
  unfold Answers
  cases method.type with
  | none => exact Step.Gives.pure rfl
  | some r => exact gives_typeMap_mention (some r)

/-- Texts of lines that are indented are empty only if there are none. -/
lemma intercalate_indented_eq_empty_iff {bump : String} (hbump : bump ≠ "") {lines : List String} :
    String.intercalate ",\n" (lines.map (bump ++ ·)) = "" ↔ lines = [] := by
  match lines with
  | [] => exact iff_of_true rfl rfl
  | [line] => simp [hbump]
  | line :: next :: lines => simp

section Conventional

variable (hc : t.conventions = t.language.conventions)

include hc

/-- A parameter is written as its line, with the indentation in front of it. -/
lemma parameterText_eq (type : String) : t.parameterText indent q type = indent ++ t.language.parameterLine q type := by
  rw [parameterText, hc]
  cases t.language <;> cases hq : q.nullable <;>
    simp [Python.member, Python.annotation, TypeScript.parameter, TypeScript.optionalMark, Language.parameterLine,
      Language.conventions, hq, String.append_assoc]

/-- A parameter is declared in a line of its own. -/
lemma gives_declareParameter_line (q : Parameter) :
    (t.declareParameter m indent q).Gives m wraps (ofParameter m q)
      fun text => ∃ line, t.DeclaresParameter m wraps q line ∧ text = indent ++ line := by
  have hline (r : Option TypeRef) (hr : m.passedType q = r) :
      (t.parameterText indent q <$> t.typeMap m modelsQualifier r).Gives m wraps (ofMention r)
        fun text => ∃ line, t.DeclaresParameter m wraps q line ∧ text = indent ++ line := by
    apply (gives_typeMap_mention r).map
    exact fun type htype => ⟨_, ⟨type, hr ▸ htype, rfl⟩, parameterText_eq hc type⟩
  rw [declareParameter, parameterType, ofParameter]
  rw [Model.passedType] at hline
  cases hl : q.location with
  | body =>
    rw [hl] at hline
    simp only [← map_eq_pure_bind, bind_map_left]
    apply (Step.gives_writeableTypeFor q.type).bind
    rintro v rfl
    exact hline _ rfl
  | _ =>
    rw [hl] at hline
    simpa using hline q.type rfl

/-- Parameters are declared line by line. -/
lemma gives_declareParameters_lines (qs : List Parameter) :
    (t.declareParameters m indent qs).Gives m wraps (qs.flatMap (ofParameter m))
      fun text => ∃ lines, qs.Forall₂ (t.DeclaresParameter m wraps) lines ∧
        text = String.intercalate ",\n" (lines.map (indent ++ ·)) := by
  have hdelimiter : t.conventions.paramDelimiter = ",\n" := by
    rw [hc]
    cases t.language <;> rfl
  rw [declareParameters, ← map_eq_pure_bind, hdelimiter]
  apply (Step.Gives.mapM fun q _ => gives_declareParameter_line hc q).map
  intro texts htexts
  suffices ∃ lines, qs.Forall₂ (t.DeclaresParameter m wraps) lines ∧ texts = lines.map (indent ++ ·) by
    obtain ⟨lines, hlines, rfl⟩ := this
    exact ⟨lines, hlines, rfl⟩
  induction htexts with
  | nil => exact ⟨[], .nil, rfl⟩
  | cons htext _ ih =>
    obtain ⟨line, hline, rfl⟩ := htext
    obtain ⟨lines, hlines, rfl⟩ := ih
    exact ⟨line :: lines, .cons hline hlines, rfl⟩

/-! ## Heads -/

/-- A Python head is written with its lines. -/
lemma pythonHead_eq (ht : t.language = .python) (name : String) (lines : List String) (returns : String) :
    Python.methodSignature t indent name (String.intercalate ",\n" (lines.map (t.bumper indent ++ ·))) returns =
      t.language.headText indent name lines returns := by
  have hbump : t.bumper indent = indent ++ "    " := by
    rw [bumper, hc, ht]
    rfl
  have hne : indent ++ "    " ≠ "" := by simp
  rw [Python.methodSignature, ht, Language.headText, hbump]
  simp only [intercalate_indented_eq_empty_iff hne]
  cases lines with
  | nil => simp [String.append_assoc]
  | cons line lines =>
    apply String.toList_injective
    simp

/-- A TypeScript head is written with its lines. -/
lemma typeScriptHead_eq (ht : t.language = .typescript) (name : String) (lines : List String) (returns : String) :
    TypeScript.methodSignature indent name (String.intercalate ",\n" (lines.map (t.bumper indent ++ ·))) returns =
      t.language.headText indent name lines returns := by
  have hbump : t.bumper indent = indent ++ "  " := by
    rw [bumper, hc, ht]
    rfl
  have hne : indent ++ "  " ≠ "" := by simp
  rw [TypeScript.methodSignature, ht, Language.headText, hbump]
  simp only [intercalate_indented_eq_empty_iff hne]

/-- The head of a Python method has a line for each parameter. -/
lemma gives_pythonSignature_head (ht : t.language = .python) (method : Method) :
    (t.pythonSignature m indent method).Gives m wraps (ofAnswer method ++ method.allParams.flatMap (ofParameter m))
      fun head => ∃ lines returns, method.allParams.Forall₂ (t.DeclaresParameter m wraps) lines ∧
        t.Answers m wraps method returns ∧ head = t.language.headText indent method.name lines returns := by
  have hanswer : (t.returnType m t.language.nothing method).Gives m wraps (ofAnswer method)
      (t.Answers m wraps method) := gives_returnType_answer method
  rw [ht] at hanswer
  rw [pythonSignature]
  apply hanswer.bind
  intro returns hreturns
  rw [← map_eq_pure_bind]
  apply (gives_declareParameters_lines hc _).map
  rintro _ ⟨lines, hlines, rfl⟩
  exact ⟨lines, returns, hlines, hreturns, pythonHead_eq hc ht _ _ _⟩

/-- The head of a TypeScript method has a line for each parameter, or one for the request type. -/
lemma gives_typeScriptSignature_head (ht : t.language = .typescript) (id : MethodId) :
    (t.typeScriptSignature m indent (m.method id)
        (if t.bundles m wraps id then some (m.declOf (.request id)).name else none)).Gives m wraps
      (t.parameterDemands m wraps id ++ ofAnswer (m.method id))
      fun head => ∃ lines returns, t.HeadLines m wraps id lines ∧ t.Answers m wraps (m.method id) returns ∧
        head = t.language.headText indent (m.method id).name lines returns := by
  have hanswer : (t.returnType m t.language.nothing (m.method id)).Gives m wraps (ofAnswer (m.method id))
      (t.Answers m wraps (m.method id)) := gives_returnType_answer (m.method id)
  rw [ht] at hanswer
  have hreturns {lines : List String} (hlines : t.HeadLines m wraps id lines) : (do
      let returns ← t.returnType m "void" (m.method id)
      return TypeScript.methodSignature indent (m.method id).name
        (String.intercalate ",\n" (lines.map (t.bumper indent ++ ·))) returns).Gives m wraps (ofAnswer (m.method id))
        fun head => ∃ lines returns, t.HeadLines m wraps id lines ∧ t.Answers m wraps (m.method id) returns ∧
          head = t.language.headText indent (m.method id).name lines returns := by
    rw [← map_eq_pure_bind]
    apply hanswer.map
    intro returns hreturns
    exact ⟨lines, returns, hlines, hreturns, typeScriptHead_eq hc ht _ _ _⟩
  simp only [typeScriptSignature, parameterDemands]
  cases hb : t.bundles m wraps id with
  | true =>
    have hrequest : t.bumper indent ++ TypeScript.requestArg ++ ": " ++ modelsQualifier ++
        TypeScript.interfaceName (m.declOf (.request id)).name =
        String.intercalate ",\n"
          (["request: models.I" ++ (m.declOf (.request id)).name].map (t.bumper indent ++ ·)) := by
      apply String.toList_injective
      simp [TypeScript.requestArg, modelsQualifier, TypeScript.interfaceName]
    simp only [if_true, pure_bind, List.nil_append, hrequest]
    exact hreturns (.request hb)
  | false =>
    apply (gives_declareParameters_lines hc _).bind
    rintro _ ⟨lines, hlines, rfl⟩
    exact hreturns (.each hb hlines)

/-! ## Calls -/

/-- With what stands before it, no argument is written like the null literal. -/
lemma argumentFront_append_ne {name : String} (hn : name ≠ t.conventions.nullStr) :
    t.argumentFront m wraps id ++ name ≠ t.conventions.nullStr := by
  rw [argumentFront]
  split
  · next hb =>
    have ht : t.language = .typescript := by
      simp only [bundles, decide_eq_true_eq] at hb
      exact hb.1
    rw [hc, ht]
    intro he
    have hhead := congrArg (·.toList.head?) he
    simp [Language.conventions] at hhead
  · rwa [String.empty_append]

/-- The arguments of a method are written at their places. -/
lemma httpArgs_eq (hn : (m.method id).WellNamed t.conventions.nullStr) :
    t.httpArgs (m.method id) (t.argumentFront m wraps id) =
      String.intercalate ", " (t.placedArgs (m.method id) (t.argumentFront m wraps id)) ∧
    (t.httpArgs (m.method id) (t.argumentFront m wraps id) = "" ↔
      t.placedArgs (m.method id) (t.argumentFront m wraps id) = []) := by
  have hdelimiter : t.conventions.argDelimiter = ", " := by
    rw [hc]
    cases t.language <;> rfl
  have hstripped : Text.stripped t.conventions.nullStr = t.conventions.nullStr := by
    rw [hc]
    cases t.language <;> decide
  have hnull : t.conventions.nullStr.toList.head? ≠ some '[' := by
    rw [hc]
    cases t.language <;> decide
  have hfront : Text.IsPlain (t.argumentFront m wraps id) := by
    rw [argumentFront]
    split <;> decide
  have hbody (text : String)
      (htext : Conventions.bodySlot (m.method id).bodyArg (t.argumentFront m wraps id) = some text) :
      t.conventions.Shows text := by
    obtain ⟨name, hname, rfl⟩ := Option.map_eq_some_iff.1 htext
    obtain ⟨q, hq, rfl⟩ := List.mem_map.1 (List.mem_of_mem_head? (Option.filter_eq_some_iff.1 hname).1)
    obtain ⟨hne, hplain, hnot⟩ := hn.names q (List.mem_filter.1 hq).1
    refine ⟨by simp [hne], ?_⟩
    rw [(hfront.append hplain).stripped]
    exact argumentFront_append_ne hc hnot
  rw [httpArgs, Conventions.httpArgs, ← hdelimiter]
  exact ⟨Conventions.assemble_of_shows hstripped hnull hbody, Conventions.assemble_eq_empty_iff hstripped hnull hbody⟩

/-- The call of a method passes the path and then the arguments. -/
lemma callText_eq {front : String} {args : List String}
    (hargs : t.httpArgs method front = String.intercalate ", " args ∧ (t.httpArgs method front = "" ↔ args = []))
    (errors : List String) :
    t.callText (t.bumper indent) method front (String.intercalate ", " errors) =
      t.language.callText indent (Text.toLower method.verb) errors (t.httpPath method.endpoint front :: args) := by
  obtain ⟨heq, hempty⟩ := hargs
  have hjoin (path : String) : String.intercalate ", " (path :: args) =
      path ++ (if t.httpArgs method front = "" then "" else ", " ++ t.httpArgs method front) := by
    by_cases hnothing : args = []
    · rw [if_pos (hempty.2 hnothing), hnothing]
      simp
    · rw [if_neg (mt hempty.1 hnothing), heq, String.intercalate_cons_of_ne_nil hnothing, String.append_assoc]
  rw [callText, bumper, it, hc]
  cases ht : t.language with
  | python =>
    rw [Language.callText, hjoin]
    apply String.toList_injective
    simp [Conventions.bumper, Conventions.it, Language.conventions]
  | typescript =>
    rw [Language.callText, hjoin]
    apply String.toList_injective
    simp [Conventions.bumper, Conventions.it, Language.conventions]

/-- The call of a method is written with its errors. -/
lemma gives_httpCall_written (wraps : Bool) (indent : String) (hn : (m.method id).WellNamed t.conventions.nullStr) :
    (t.httpCall m (t.bumper indent) (m.method id) (t.argumentFront m wraps id)).Gives m wraps
      ((m.method id).errors.flatMap ofMention)
      fun call => ∃ errors, (m.method id).errors.Forall₂ (t.Mentions m wraps) errors ∧
        call = t.language.callText indent (Text.toLower (m.method id).verb) errors
          (t.httpPath (m.method id).endpoint (t.argumentFront m wraps id) ::
            t.placedArgs (m.method id) (t.argumentFront m wraps id)) := by
  rw [httpCall, errorResponses, ← map_eq_pure_bind, ← map_eq_pure_bind, Functor.map_map]
  apply (Step.Gives.mapM fun r _ => gives_typeMap_mention r).map
  exact fun errors herrors => ⟨errors, herrors, callText_eq hc (httpArgs_eq hc hn) errors⟩

/-! ## Declarations -/

/-- A method that is declared is written in its parts. -/
theorem gives_declareMethod_written (hn : (m.method id).WellNamed t.conventions.nullStr) :
    (t.declareMethod m indent id).Gives m wraps (t.methodDemands m wraps id) (t.IsWritten m wraps indent id) := by
  rw [declareMethod, methodDemands, signatureDemands]
  cases ht : t.language with
  | python =>
    -- Python lists the parameters, whether or not request types are in use
    have hb : t.bundles m wraps id = false := by simp [bundles, ht]
    have hfront : t.argumentFront m wraps id = "" := by simp [argumentFront, hb]
    have hbump : t.bumper indent = indent ++ "    " := by
      rw [bumper, hc, ht]
      rfl
    have hcall := gives_httpCall_written hc wraps indent hn
    rw [hfront] at hcall
    rw [parameterDemands_of_python ht]
    apply (gives_pythonSignature_head hc ht _).bind
    rintro _ ⟨lines, returns, hlines, hreturns, rfl⟩
    rw [← map_eq_pure_bind]
    apply hcall.map
    rintro _ ⟨errors, herrors, rfl⟩
    refine ⟨lines, returns, errors, .each hb hlines, hreturns, herrors, ?_⟩
    rw [written, hfront, ← hbump]
    simp only [ht]
  | typescript =>
    simp only [List.append_assoc]
    apply (Step.gives_requestTypeFor id).bind
    rintro request rfl
    rw [requestName_eq ht, ← List.append_assoc]
    apply (gives_typeScriptSignature_head hc ht id).bind
    rintro _ ⟨lines, returns, hlines, hreturns, rfl⟩
    have hfront : (if (if t.bundles m wraps id then some (m.declOf (.request id)).name else none).isSome
        then TypeScript.requestArg ++ "." else "") = t.argumentFront m wraps id := by
      rw [argumentFront]
      cases t.bundles m wraps id <;> rfl
    rw [hfront, ← map_eq_pure_bind]
    apply (gives_httpCall_written hc wraps indent hn).map
    rintro _ ⟨errors, herrors, rfl⟩
    refine ⟨lines, returns, errors, hlines, hreturns, herrors, ?_⟩
    rw [written]
    simp only [ht]

end Conventional

/-- A method that was declared with a request type has derived it, with a property for each parameter. -/
lemma entries_of_bundles (hs : p.Sound m wraps)
    (h : (t.declareMethod m indent id).runFrom p = (.ok text, p')) (hb : t.bundles m wraps id)
    (hn : ((m.method id).params.map (·.name)).Nodup) :
    .request id ∈ p'.derivedTypes ∧ p'.decl m (.request id) = m.declOf (.request id) ∧
      (p'.decl m (.request id)).properties.entries = (m.method id).allParams.map fun q => (q.name, q.toProperty) := by
  obtain ⟨hserve, _⟩ := (serves_declareMethod id).of_runFrom hs h
  have hs' := hs.serveAll (t.methodDemands m wraps id)
  rw [hserve] at hs'
  simp only [bundles, decide_eq_true_eq] at hb
  obtain ⟨ht, hw, hmade⟩ := hb
  have hderived : .request id ∈ p'.derivedTypes := by
    apply (Demand.mem_derivedTypes_serveAll hs hserve _).2
    refine .inr ⟨?_, hmade⟩
    simp [methodDemands, signatureDemands, ht, hw, Demand.ofRequest]
  obtain ⟨d, hd⟩ := Option.isSome_iff_exists.1 hmade
  refine ⟨hderived, hs'.decl_of_mem hderived, ?_⟩
  rw [hs'.decl_of_mem hderived, Model.declOf_of_made? hd]
  exact Method.entries_of_requestType? hd hn

/-- A method that was declared accounts for its parameters: they are in its head, each in a line of its own or all in a
request type that has a property for each of them, and its call passes those outside of the path on, each at its
location. -/
structure Passes (t : Target) (m : Model) (wraps : Bool) (indent : String) (id : MethodId) (text : String) (p' : Pass) :
    Prop where
  accounted : (m.method id).Accounted
  written : t.IsWritten m wraps indent id text
  bundles_iff : t.bundles m wraps id = true ↔
    t.language = .typescript ∧ wraps = true ∧ 1 < (m.method id).optionalParams.length
  request : t.bundles m wraps id = true →
    .request id ∈ p'.derivedTypes ∧ p'.decl m (.request id) = m.declOf (.request id) ∧
    (p'.decl m (.request id)).properties.values = (m.method id).allParams.map Parameter.toProperty ∧
    ((m.method id).pathArgs ++ (m.method id).passedArgs).Perm (p'.decl m (.request id)).properties.keys

/-- A method with well-named parameters that was declared with the conventions of its language accounts for all of
them. -/
theorem declareMethod_passes (hc : t.conventions = t.language.conventions) (hp : p.Reachable m)
    (hn : (m.method id).WellNamed t.conventions.nullStr)
    (h : (t.declareMethod m indent id).runFrom p = (.ok text, p')) :
    t.Passes m p.needsRequestTypes indent id text p' := by
  obtain ⟨wraps, hs, _⟩ := hp.sound_apart
  obtain rfl := hs.needs
  have haccounted := hn.accounted
  refine ⟨haccounted, ((gives_declareMethod_written hc hn).of_runFrom hs h).2, ?_, fun hb => ?_⟩
  · simp [bundles, Model.made?_request_isSome_iff]
  · obtain ⟨hderived, hdecl, hentries⟩ := entries_of_bundles hs h hb hn.nodup
    refine ⟨hderived, hdecl, ?_, ?_⟩
    · rw [Dict.values, hentries, List.map_map]
      rfl
    · rw [Dict.keys, hentries, List.map_map]
      exact haccounted.arguments.trans (haccounted.declared.map _).symm

/-- The first method of the sample in TypeScript, with a request type. -/
def sampleBundledText : String :=
  "/**\n * POST /users\n */\nasync add_user(\n  request: models.IRequestAddUser\n): Promise<models.IUser[]> \x7b\n" ++
    "  return this.rtl.post((), \"/users\", [request.limit, request.page], request.user)\n\x7d"

/-- The first method of the sample in TypeScript, without a request type. -/
def sampleListText : String :=
  "/**\n * POST /users\n */\nasync add_user(\n  user: models.IWriteUser,\n  limit?: string,\n  page?: string\n" ++
    "): Promise<models.IUser[]> \x7b\n  return this.rtl.post((), \"/users\", [limit, page], user)\n\x7d"

/-- The first method of the sample in Python. -/
def samplePythonText : String :=
  "# POST /users\ndef add_user(\n    self,\n    user: models.WriteUser,\n    limit: Optional[str] = None,\n" ++
    "    page: Optional[str] = None\n) -> Sequence[models.User]:\n" ++
    "    return self.rtl.post((), \"/users\", [limit, page], user)"

/-- What declaring the first method of the sample gives. -/
def sampleDeclared (l : Language) (wraps : Bool) : Except Failure String × Pass :=
  ((standard l).declareMethod .sample "" ⟨0⟩).runFrom { needsRequestTypes := wraps }

/-- In each of the three forms, the first method of the sample accounts for its parameters. -/
theorem declareMethod_passes_sample :
    (∀ l : Language, (Model.sample.method ⟨0⟩).WellNamed l.conventions.nullStr) ∧
    ∀ l wraps text,
      (l, wraps, text) ∈ [(.typescript, true, sampleBundledText), (.typescript, false, sampleListText),
        (.python, true, samplePythonText)] →
      (sampleDeclared l wraps).1.toOption = some text ∧
        (standard l).Passes .sample wraps "" ⟨0⟩ text (sampleDeclared l wraps).2 := by
  have hn (l : Language) : (Model.sample.method ⟨0⟩).WellNamed l.conventions.nullStr := by
    cases l <;> exact ⟨by decide, by decide, by decide⟩
  refine ⟨hn, fun l wraps text hsample => ?_⟩
  have hgives : (sampleDeclared l wraps).1.toOption = some text := by
    simp only [List.mem_cons, List.not_mem_nil, or_false, Prod.mk.injEq] at hsample
    rcases hsample with ⟨rfl, rfl, rfl⟩ | ⟨rfl, rfl, rfl⟩ | ⟨rfl, rfl, rfl⟩ <;> decide +kernel
  refine ⟨hgives, declareMethod_passes (p := { needsRequestTypes := wraps }) rfl (.fresh wraps) (hn l) ?_⟩
  rw [sampleDeclared] at hgives ⊢
  rcases hrun : ((standard l).declareMethod .sample "" ⟨0⟩).runFrom { needsRequestTypes := wraps } with ⟨f | text', p'⟩
  · rw [hrun] at hgives
    cases hgives
  · rw [hrun] at hgives
    cases hgives
    rfl

end Target
end SdkGen
