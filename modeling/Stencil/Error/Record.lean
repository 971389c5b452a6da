import Stencil.Capability
import Stencil.Error.Report
import Stencil.Value.Equality

/-! Errors made by hand. A host can make an error of every class from whatever values it has at hand,
    where those that a template meets are made from texts and numbers of the right types. A record
    keeps the given values as they are; what cannot be worded, such as a trail whose steps are no
    pairs, is refused when the record is made. `ErrorRecord.make` takes the arguments of a class by
    position or by name, `relocate` fills in a place later, and `report` and `compact` are the texts. -/

namespace Stencil

/-- An error of a class with the text of its message and all that it carries. The subject is what was
    given as the message, undefined where a class takes none; the visible names are those that an
    undefined one may have been meant for. -/
structure ErrorRecord where
  cls : ErrorClass
  message : String
  subject : Value := .undefined
  fields : List (String × Value) := []
  visible : Value := .null

namespace Trail

/-- The two values that a step is made of. -/
def pair (v : Value) : Except Failure (Value × Value) :=
  match v.members? with
  | none => .error .wrongType
  | some [a, b] => .ok (a, b)
  | some _ => .error .badValue

/-- A template and a line, whatever they are, as a place; what counts as unset is not known. -/
def place (template line : Value) (column : Option String) : String :=
  Report.place (if template.isSet then template.plain else "")
    (if line.isSet then some line.plain else none) column

/-- The places of the steps of a trail. -/
def places (v : Value) : Except Failure (List String) :=
  if !v.isSet then .ok []
  else
    match v.members? with
    | none => .error .wrongType
    | some steps => steps.mapM fun s => do
        let (template, line) ← pair s
        return place template line none

end Trail

namespace ErrorRecord

/-- A field, null where there is none. -/
def get (r : ErrorRecord) (name : String) : Value := (r.fields.lookup name).getD .null

/-- The text of a field, empty if the field is not set. -/
def text (r : ErrorRecord) (name : String) : String :=
  if (r.get name).isSet then (r.get name).plain else ""

/-- The record with another value in a field. -/
def set (r : ErrorRecord) (name : String) (v : Value) : ErrorRecord :=
  { r with fields := r.fields.map fun f => if f.1 == name then (name, v) else f }

/-- The values of an object by name. -/
def named (v : Value) : Except Failure (List (String × Value)) :=
  if !v.isSet then .ok []
  else
    match v with
    | .object es => .ok (es.map fun e => (e.1.plain, e.2))
    | _ => .error .missingAttribute

/-- The texts among visible names, all of which have to be texts. -/
def namesOf (v : Value) : Except Failure (List String) :=
  match v.members? with
  | none => .error .wrongType
  | some vs => vs.mapM fun v =>
      match v.text? with
      | some s => .ok s
      | none => .error .wrongType

/-- The visible name that is closest to the undefined one. -/
def guess (r : ErrorRecord) : Except Failure (Option String) :=
  if r.cls != .undefinedName || !r.visible.isSet then .ok none
  else
    match r.get "name" with
    | .text s | .markup s => do return RuntimeError.closestName s (← namesOf r.visible)
    | .bytes _ => .error .wrongType
    | _ => .error .missingAttribute

/-- What the record of a runtime error tells. -/
def facts (r : ErrorRecord) : Except Failure Facts := do
  let guess ← r.guess
  let trail ← Trail.places (r.get "template_stack")
  let values ← named (r.get "values")
  return {
    code := (r.cls.code?.map ErrorCode.text).getD ""
    message := r.message
    place := Trail.place (r.get "template_name") (r.get "lineno") none
    isLocated := (r.get "template_name").isSet || (r.get "lineno").isSet
    trail
    construct := r.text "construct"
    expression := r.text "expression"
    values
    suggestion := r.text "suggestion"
    guess }

/-- The full text of the error. -/
def report (color : Bool) (r : ErrorRecord) : Except Failure String :=
  if !r.cls.isRuntime then .ok r.message
  else do
    let f ← r.facts
    return if r.cls = .undefinedName then f.undefinedReport color else f.report color

/-- The short text of the error. -/
def compact (color : Bool) (r : ErrorRecord) : Except Failure String :=
  if r.cls.isRuntime then do return (← r.facts).compact color
  else .ok (Report.withCode r.cls.code? r.message)

/-- The reason that a capability gives which failed with the error: its subject, else its report, else
    its class. -/
def reason (color : Bool) (r : ErrorRecord) : Except Failure String := do
  if r.subject.isSet then return r.subject.plain
  let s ← r.report color
  return if s.isEmpty then r.cls.name else s

/-- All that the error carries; the template of an undefined name has a name even if unknown. -/
def attributes (r : ErrorRecord) : List (String × Value) :=
  if r.cls = .undefinedName then
    let name := r.get "template_name"
    r.fields ++ [("template", if name.isSet then name else .text "<template>")]
  else r.fields

/-- Fills in whichever fields of the place are still empty, which only a runtime error has. -/
def relocate (r : ErrorRecord) (template line trail : Value) : Except Failure ErrorRecord := do
  if !r.cls.isRuntime then .error .missingAttribute
  let r := if (r.get "template_name").isNull then r.set "template_name" template else r
  let r := if (r.get "lineno").isSet then r else r.set "lineno" line
  if !trail.isSet || (r.get "template_stack").isSet then return r
  match trail.members? with
  | some steps => return r.set "template_stack" (.list steps)
  | none => .error .wrongType

/-! ### Making records -/

/-- The arguments of a call under the names of parameters: leading ones, which may be given by
    position, and others. Those that have to be given are marked. -/
def bind (leading : List (String × Bool)) (others : List String) (inv : Invocation) :
    Except Failure (List (String × Value)) := do
  if leading.length < inv.args.length then .error .wrongType
  let placed := (leading.map Prod.fst).zip inv.args
  if inv.named.any fun a =>
      placed.any (·.1 == a.1) || !(leading.any (·.1 == a.1) || others.contains a.1) then
    .error .wrongType
  let given := placed ++ inv.named
  if leading.any fun p => p.2 && (given.lookup p.1).isNone then .error .wrongType
  return given

/-- An argument, or what stands for it if it is not given. -/
def argument (given : List (String × Value)) (name : String) (default : Value := .null) : Value :=
  (given.lookup name).getD default

/-- The fields that every runtime error has. -/
def details : List String :=
  ["construct", "expression", "values", "template_name", "lineno", "suggestion", "template_stack"]

/-- A value that counts as unset is replaced. -/
def orElse (v default : Value) : Value := if v.isSet then v else default

/-- A runtime error with fields of its own and the details that are given, some of which have
    defaults of their own. Only names of details may be given besides. -/
def runtime (cls : ErrorClass) (subject : Value) (own defaults given : List (String × Value)) :
    Except Failure ErrorRecord := do
  let detail (name : String) : Value := argument given name (argument defaults name)
  let r : ErrorRecord :=
    { cls, subject
      message := subject.plain
      fields := own ++ details.map fun name =>
        match name with
        | "values" => (name, orElse (detail name) (.object []))
        | "template_stack" => (name, orElse (detail name) (.list []))
        | _ => (name, detail name) }
  let _ ← r.facts
  return r

/-- An error outside of a render, whose message is its text. -/
def plain (cls : ErrorClass) (message : String) (fields : List (String × Value))
    (subject : Value := .undefined) : Except Failure ErrorRecord :=
  .ok { cls, message, fields, subject }

/-- The text of the base class: its only argument, or all of them. -/
def argumentText (args : List Value) : String :=
  match args with
  | [] => ""
  | [v] => v.plain
  | vs => (Value.tuple vs).inspect

/-- The first character of a kind in title case; only texts and bytes have characters. -/
def titled (kind : Value) : Except Failure String :=
  match kind with
  | .text s | .markup s => .ok (Text.titleFirst s)
  | .bytes data =>
    let upper (b : UInt8) : UInt8 := if 97 ≤ b && b ≤ 122 then b - 32 else b
    let lower (b : UInt8) : UInt8 := if 65 ≤ b && b ≤ 90 then b + 32 else b
    .ok (Value.bytes ((data.take 1).map upper ++ (data.drop 1).map lower)).inspect
  | _ => .error .missingAttribute

/-- Every name is one of a list. -/
def checkNames (names : List String) (given : List (String × Value)) : Except Failure Unit :=
  if given.all fun a => names.contains a.1 then .ok () else .error .wrongType

/-- A name without those that some leading parameters take. -/
def without (names : List String) (given : List (String × Value)) : List (String × Value) :=
  given.filter fun a => !names.contains a.1

/-- The leading parameters of a class whose others are open. The names of all others are checked
    once the message is there. -/
def bindOpen (leading : List String) (inv : Invocation) : Except Failure (List (String × Value)) :=
  bind (leading.map (·, true)) (inv.named.map Prod.fst) inv

/-- The entries of an object that is given as one, or as pairs. -/
def entriesOf (v : Value) : Except Failure (List (Value × Value)) :=
  if !v.isSet then .ok []
  else
    match v with
    | .object es => .ok es
    | v =>
      match v.members? with
      | none => .error .wrongType
      | some items => items.foldlM (fun es item => do
          let (k, v) ← Trail.pair item
          if k.isKey then return Value.bind es k v else .error .wrongType) []

/-- The values of a failed call by name: those given by position have a numbered one, which another
    argument of that very name replaces. -/
def callValues (args : List Value) (named : List (Value × Value)) : Value :=
  let positional := args.zipIdx.map fun p => (Value.text s!"arg{p.2}", p.1)
  .object (named.foldl (fun es e => Value.bind es e.1 e.2) positional)

/-- A capability that was not found. -/
def capabilityNotFound (inv : Invocation) : Except Failure ErrorRecord := do
  let given ← bindOpen ["kind", "name"] inv
  let kind := argument given "kind"
  let name := argument given "name"
  let title ← titled kind
  let rest := without ["kind", "name"] given
  checkNames details rest
  runtime .capabilityNotFound (.text s!"{title} '{name.plain}' not found")
    [("kind", kind), ("name", name)] [("construct", kind)] rest

/-- A capability that failed, whose cause is given as a value that has a reason. -/
def capabilityFailed (reason : Value → Except Failure String) (inv : Invocation) :
    Except Failure ErrorRecord := do
  let given ← bindOpen ["kind", "name", "error"] inv
  let kind := argument given "kind"
  let name := argument given "name"
  let cause ← reason (argument given "error")
  let args ← match (argument given "call_args" (.tuple [])).members? with
    | some vs => .ok vs
    | none => .error .wrongType
  let named ← entriesOf (argument given "call_kwargs")
  let title ← titled kind
  let rest := without ["kind", "name", "error", "call_args", "call_kwargs"] given
  checkNames (details.filter (· != "values")) rest
  runtime .capabilityFailed (.text s!"{title} '{name.plain}' failed: {cause}")
    [("kind", kind), ("name", name), ("call_args", .tuple args), ("call_kwargs", .object named)]
    [("construct", kind), ("values", callValues args named)] rest

/-- A call that does not fit the parameters of a macro. -/
def macroArgument (inv : Invocation) : Except Failure ErrorRecord := do
  let given ← bindOpen ["macro_name", "message"] inv
  let name := argument given "macro_name"
  let complaint := (argument given "message").plain
  let rest := without ["macro_name", "message"] given
  checkNames details rest
  runtime .macroArgument (.text s!"Macro '{name.plain}': {complaint}") [("macro_name", name)]
    [("construct", .text "macro")] rest

/-- A limit that is reached. -/
def recursionLimit (inv : Invocation) : Except Failure ErrorRecord := do
  let given ← bindOpen ["limit", "target"] inv
  let limit := argument given "limit"
  let target := argument given "target"
  let construct := argument given "construct" (.text "macro")
  let rest := without ["limit", "target", "construct"] given
  checkNames (details.filter (· != "suggestion")) rest
  let advice := "Check for a macro or include that unconditionally calls itself"
  runtime .recursionLimit
    (.text (s!"Maximum {construct.plain} depth exceeded ({limit.plain}) when calling "
      ++ s!"'{target.plain}'"))
    [("limit", limit), ("target", target)]
    [("construct", construct), ("suggestion", .text advice)] rest

/-- Keys that cannot be ordered or compared; the attribute is the expression unless one is given. -/
def ordering (inv : Invocation) : Except Failure ErrorRecord := do
  let given ← bindOpen ["message"] inv
  let path := argument given "attribute"
  let rest := without ["message", "attribute"] given
  checkNames details rest
  runtime .ordering (argument given "message") [("attribute", path)]
    [("construct", .text "ordering"), ("expression", if path.isSet then path else .null)] rest

/-- A lookup that found nothing. -/
def undefinedName (inv : Invocation) : Except Failure ErrorRecord := do
  let optional := ["template", "lineno", "available_names", "template_stack"]
  let given ← bind (("name", true) :: optional.map (·, false)) [] inv
  let name := argument given "name"
  let advice := "Use \x7b\x7b " ++ name.plain ++ " | default(value='') \x7d\x7d for optional variables"
  let r ← runtime .undefinedName (.text s!"Undefined variable '{name.plain}'") [("name", name)]
    [("construct", .text "variable"), ("expression", name),
     ("template_name", argument given "template"), ("lineno", argument given "lineno"),
     ("suggestion", .text advice)] []
  let r := { r with visible := argument given "available_names" }
  let r := r.set "template_stack" (orElse (argument given "template_stack") (.list []))
  let _ ← r.facts
  return r

/-- A runtime error that adds nothing to its message and the details. -/
def simple (cls : ErrorClass) (inv : Invocation) : Except Failure ErrorRecord := do
  let given ← bind [("message", true)] details inv
  runtime cls (argument given "message") [] [] (without ["message"] given)

/-- A chain of templates that leads back to where it began. -/
def circular (inv : Invocation) : Except Failure ErrorRecord := do
  let given ← bind [("template_name", true), ("cycle", true)] [] inv
  let name := argument given "template_name"
  match (argument given "cycle").members? with
  | none => .error .wrongType
  | some cycle =>
    match (name :: cycle).mapM Value.text? with
    | none => .error .wrongType
    | some names =>
      let trail := Text.joinTexts " -> " names
      plain .circular
        s!"Circular extend detected for template '{name.plain}'. Inheritance chain: {trail}"
        [("template_name", name), ("cycle", .tuple cycle)]

/-- The error of a class from the arguments that are given for it. A function of the caller reads the
    reason from the value that stands for the cause of a failed capability. -/
def make (reason : Value → Except Failure String) (cls : ErrorClass) (inv : Invocation) :
    Except Failure ErrorRecord := do
  match cls with
  | .general =>
    if inv.named.isEmpty then plain cls (argumentText inv.args) [] else .error .wrongType
  | .notFound =>
    let given ← bind [("name", true), ("message", false)] [] inv
    let name := argument given "name"
    let message := argument given "message"
    plain cls (if message.isSet then message.plain else s!"Template '{name.plain}' not found")
      [("name", name)]
  | .syntaxError =>
    let given ← bind [("message", true), ("lineno", false), ("name", false), ("col_offset", false)]
      [] inv
    let line := argument given "lineno"
    let name := argument given "name"
    let column := argument given "col_offset"
    let place := Trail.place name line (if column.isNull then none else some column.plain)
    plain cls ("Syntax Error: " ++ (argument given "message").plain ++ "\n  --> " ++ place)
      [("lineno", line), ("name", name), ("col_offset", column)] (argument given "message")
  | .construction =>
    let given ← bind [("message", true)] ["template_name"] inv
    plain cls (argument given "message").plain [("template_name", argument given "template_name")]
      (argument given "message")
  | .missingParent =>
    let given ← bind [("template_name", true), ("parent", true)] [] inv
    let name := argument given "template_name"
    let parent := argument given "parent"
    plain cls
      (s!"Template '{name.plain}' is inheriting from '{parent.plain}', "
        ++ "which doesn't exist or isn't loaded.")
      [("template_name", name), ("parent", parent)]
  | .circular => circular inv
  | .missingImport =>
    let given ← bind [("template_name", true), ("macro_file", true)] [] inv
    let name := argument given "template_name"
    let file := argument given "macro_file"
    plain cls
      (s!"Template '{name.plain}' loads macros from '{file.plain}' "
        ++ "which isn't present in the environment")
      [("template_name", name), ("macro_file", file)]
  | .runtime | .typeMismatch | .outputEncoding => simple cls inv
  | .undefinedName => undefinedName inv
  | .capabilityNotFound => capabilityNotFound inv
  | .capabilityFailed => capabilityFailed reason inv
  | .macroArgument => macroArgument inv
  | .recursionLimit => recursionLimit inv
  | .ordering => ordering inv

end ErrorRecord

end Stencil
