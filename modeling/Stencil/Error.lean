import Stencil.Fault
import Stencil.Text.Case

/-! Errors of the template language. *Construction errors* arise while a set of templates is put
    together, *runtime errors* while one of them is rendered. A runtime error says what went wrong,
    where it happened and how rendering got there; the place is filled in while the error passes
    outwards, and a field that is filled keeps its value. -/

namespace Stencil

/-- A step on the way to an error: a template and a line, 0 if the line is unknown. -/
abbrev Step := Option String × Int

/-- The class of a runtime error with what only this class carries. -/
inductive RuntimeKind where
  | general
  | typeMismatch
  | capabilityNotFound (kind name : String)
  | capabilityFailed (kind name : String) (args : List Value) (named : List (String × Value))
  | macroArgument (macroName : String)
  | recursionLimit (limit : Int) (target : String)
  | outputEncoding
  | ordering (path : Option String)
  | undefinedName (name : String) (visible : List String)

/-- An error of one render. -/
structure RuntimeError where
  kind : RuntimeKind
  message : String
  construct : Option String := none
  expression : Option String := none
  values : List (String × Value) := []
  template : Option String := none
  line : Option Int := none
  suggestion : Option String := none
  trail : List Step := []

/-- An error of the template set. -/
inductive ConstructionError where
  | general (message : String) (template : Option String)
  | missingParent (template parent : String)
  | circular (template : String) (cycle : List String)
  | missingImport (template : String) (imported : Value)

/-- An error of the template language. -/
inductive TemplateError where
  | general (message : String)
  | notFound (name : Value) (message : Option String)
  | syntaxError (message : String) (line : Option Int) (template : Option String)
      (column : Option Int)
  | construction (e : ConstructionError)
  | runtime (e : RuntimeError)
  deriving Inhabited

/-- Whatever stops a computation: an error of the template language or a fault of other code. -/
inductive Problem where
  | template (e : TemplateError)
  | fault (f : Fault)
  deriving Inhabited

namespace RuntimeError

/-- All values that the report of the error shows are writable. -/
def isWritable (e : RuntimeError) : Bool := Value.allWritable (e.values.map Prod.snd)

/-- Fills in whichever fields of the place are still empty. -/
def locate (e : RuntimeError) (template : Option String) (line : Option Int) (trail : List Step) :
    RuntimeError :=
  { e with
    template := e.template.or template
    line := if e.line.getD 0 = 0 then line else e.line
    trail := if e.trail.isEmpty then trail else e.trail }

/-- A runtime error of the general class. -/
def general (message : String) : RuntimeError := { kind := .general, message }

/-- A name that no registry holds. -/
def capabilityNotFound (kind name : String) (suggestion : Option String) : RuntimeError :=
  { kind := .capabilityNotFound kind name
    message := s!"{Text.titleFirst kind} '{name}' not found"
    construct := some kind
    suggestion }

/-- A call that does not fit the parameters of a macro. -/
def macroArgument (name complaint : String) (expression : Option String) : RuntimeError :=
  { kind := .macroArgument name
    message := s!"Macro '{name}': {complaint}"
    construct := some "macro"
    expression }

/-- A limit on nested macro calls or includes that is reached. -/
def recursionLimit (limit : Int) (target construct : String) : RuntimeError :=
  { kind := .recursionLimit limit target
    message := s!"Maximum {construct} depth exceeded ({limit}) when calling '{target}'"
    construct := some construct
    suggestion := some "Check for a macro or include that unconditionally calls itself" }

/-- A lookup that found nothing, with the names that were visible. -/
def undefinedName (name : String) (visible : List String) : RuntimeError :=
  { kind := .undefinedName name visible
    message := s!"Undefined variable '{name}'"
    construct := some "variable"
    expression := some name
    suggestion := some s!"Use \x7b\x7b {name} | default(value='') \x7d\x7d for optional variables" }

/-- Keys that cannot be ordered or compared. -/
def ordering (message : String) (values : List (String × Value)) (suggestion : Option String) :
    RuntimeError :=
  { kind := .ordering none, message, construct := some "ordering", values, suggestion }

/-- An attribute to order by that an item lacks. -/
def missingAttribute (path : String) : RuntimeError :=
  { kind := .ordering (some path)
    message := s!"attribute '{path}' does not reference a field"
    construct := some "ordering"
    expression := if path.isEmpty then none else some path }

end RuntimeError

namespace Problem

/-- The problem of a runtime error; to word it fails if it shows a value that is not writable. -/
def ofRuntime (e : RuntimeError) : Problem :=
  if e.isWritable then .template (.runtime e) else .fault (.failure .badValue)

/-- The problem that no template has a name, which may be any value. -/
def notFound (name : Value) : Problem :=
  if name.isWritable then .template (.notFound name none) else .fault (.failure .badValue)

end Problem

namespace TemplateError

/-- The message that an error carries besides its report. -/
def message? : TemplateError → Option String
  | .general _ => none
  | .notFound .. => none
  | .syntaxError m .. => some m
  | .construction (.general m _) => some m
  | .construction (.missingParent t p) =>
    some s!"Template '{t}' is inheriting from '{p}', which doesn't exist or isn't loaded."
  | .construction (.circular t cycle) =>
    let trail := " -> ".intercalate (t :: cycle)
    some s!"Circular extend detected for template '{t}'. Inheritance chain: {trail}"
  | .construction (.missingImport t file) =>
    some (s!"Template '{t}' loads macros from '{file.plain}' "
      ++ "which isn't present in the environment")
  | .runtime e => some e.message

end TemplateError

end Stencil
