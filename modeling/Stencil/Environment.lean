import Stencil.Filter
import Stencil.Function
import Stencil.Lineage
import Stencil.Tester
import Stencil.Error.Report
import Stencil.Text.Closest

/-! Environments: a set of resolved templates, the capabilities that templates may call, and the
    settings of renders. A change of the template set resolves the whole set anew before it is taken
    over; a change that fails gives no environment, so the old one stays as it is. -/

namespace Stencil

/-- An escape function; one of the host may fail. -/
abbrev Escape := String → Except Fault String

/-- The kinds of capabilities. -/
inductive CapabilityKind where
  | filter | test | function
  deriving DecidableEq, Repr

namespace CapabilityKind

def name : CapabilityKind → String
  | .filter => "filter"
  | .test => "test"
  | .function => "function"

/-- The kind of a name. -/
def ofName? : String → Option CapabilityKind
  | "filter" => some .filter
  | "test" => some .test
  | "function" => some .function
  | _ => none

end CapabilityKind

/-- Templates, capabilities and settings. -/
structure Environment where
  suffixes : List String := [".html", ".htm", ".xml"]
  escape : Escape := fun s => .ok (Text.escapeHtml s)
  initialEscape : Escape := fun s => .ok (Text.escapeHtml s)
  macroLimit : Int := 50
  includeLimit : Int := 50
  templates : Table Template := .empty
  filters : Table Capability := .empty
  testers : Table Capability := .empty
  functions : Table Capability := .empty
  deriving Inhabited

namespace Environment

/-- The environment with the built-in capabilities. -/
def withBuiltins (env : Environment) (host : Host) : Environment :=
  { env with
    filters := Filter.all
    testers := Tester.all
    functions := Function.all host }

/-- The capabilities of a kind. -/
def registry (env : Environment) : CapabilityKind → Table Capability
  | .filter => env.filters
  | .test => env.testers
  | .function => env.functions

/-- The environment with other capabilities of a kind. -/
def setRegistry (env : Environment) (kind : CapabilityKind) (cs : Table Capability) : Environment :=
  match kind with
  | .filter => { env with filters := cs }
  | .test => { env with testers := cs }
  | .function => { env with functions := cs }

/-- Registers a capability, which has to be callable, in place of one of the same name. -/
def register (env : Environment) (kind : CapabilityKind) (c : Capability) :
    Except Fault Environment :=
  if c.isCallable then .ok (env.setRegistry kind ((env.registry kind).insert c.name c))
  else .error (.misuse (.notCallable (Text.titleFirst kind.name) c.name))

/-- Registers what a host offers, under a name that may be left to the offer. Where neither gives one,
    the offer is not looked at further. -/
def decorate (env : Environment) (kind : CapabilityKind) (name : Option String) (offer : Offer)
    (safe : Bool := false) : Except Fault Environment :=
  match offer.nameBy name with
  | some n => env.register kind { name := n, behaviour := offer.behaviour, safe }
  | none => .error (.failure .missingAttribute)

/-- Registers behaviours under their names without looking at them; none is safe. -/
def update (env : Environment) (kind : CapabilityKind)
    (entries : List (String × Option Behaviour)) : Environment :=
  env.setRegistry kind
    (entries.foldl (fun cs e => cs.insert e.1 { name := e.1, behaviour := e.2 })
      (env.registry kind))

/-- The question whether another name was meant. -/
def didYouMean (name : String) : String := s!"Did you mean '{name}'?"

/-- The capability of a kind and a name; where there is none, the closest name is suggested. -/
def lookup (env : Environment) (kind : CapabilityKind) (name : String) :
    Except RuntimeError Capability :=
  match (env.registry kind).get? name with
  | some c => .ok c
  | none => .error (.capabilityNotFound kind.name name
      ((Text.closest name (env.registry kind).names).map didYouMean))

/-- The text that shows the capabilities of a kind. -/
def inspectRegistry (env : Environment) (kind : CapabilityKind) : String :=
  let names := (Text.sortedNames (env.registry kind).names).map Value.text
  s!"<CapabilityRegistry {kind.name}s: {(Value.list names).inspect}>"

/-- Output of a template is escaped if its path, or its name where it has none, ends with one of
    the suffixes. -/
def shouldAutoescape (env : Environment) (t : Template) : Bool :=
  let path := t.path.getD ""
  let source := if path.isEmpty then t.name else path
  env.suffixes.any fun s => Text.endsWith source s

/-- Chooses the escape function again that the environment began with. -/
def resetEscape (env : Environment) : Environment := { env with escape := env.initialEscape }

/-- A construction error as a problem. -/
def ofConstruction : Except ConstructionError α → Except Problem α
  | .ok a => .ok a
  | .error e => .error (.template (.construction e))

/-- A template error as a problem. -/
def ofTemplate : Except TemplateError α → Except Problem α
  | .ok a => .ok a
  | .error e => .error (.template e)

/-- The resolved form of a set, whose imports have to be registered too. -/
def resolve (candidate : Table Template) : Except Problem (Table Template) := do
  let resolved ← ofConstruction (Lineage.resolve candidate)
  Lineage.checkMacroImports resolved
  return resolved

/-- Takes over a set if it resolves. -/
def commit (env : Environment) (candidate : Table Template) : Except Problem Environment := do
  return { env with templates := ← resolve candidate }

/-- Adds a template under its name. -/
def addTemplate (env : Environment) (name : String) (d : Document)
    (path : Option String := none) : Except Problem Environment := do
  let t ← ofTemplate (Template.ofDocument name d path)
  env.commit (env.templates.insert name t)

/-- A set with the templates of some trees added. -/
def withDocuments (ts : Table Template) :
    List (String × Document) → Except TemplateError (Table Template)
  | [] => .ok ts
  | (name, d) :: rest => do
    let t ← Template.ofDocument name d
    withDocuments (ts.insert name t) rest

/-- Adds templates that may refer to each other. -/
def addTemplates (env : Environment) (ds : List (String × Document)) :
    Except Problem Environment := do
  env.commit (← ofTemplate (withDocuments env.templates ds))

/-- The template of a name. -/
def getTemplate (env : Environment) (name : String) : Except TemplateError Template :=
  match env.templates.get? name with
  | some t => .ok t
  | none => .error (.notFound (.text name) none)

/-- Resolves the set as it is once more. -/
def rebuild (env : Environment) : Except Problem Environment := do
  return { env with templates := ← ofConstruction (Lineage.resolve env.templates) }

/-- The templates of a set and those of another one whose names it lacks, which are marked. -/
def merged (ts other : Table Template) : Table Template :=
  other.entries.foldl
    (fun ts e => if ts.contains e.1 then ts else ts.insert e.1 { e.2 with merged := true }) ts

/-- Takes over the templates and capabilities of another environment whose names this one lacks. -/
def extend (env other : Environment) : Except Problem Environment := do
  let env ← env.commit (merged env.templates other.templates)
  return { env with
    filters := other.filters.union env.filters
    testers := other.testers.union env.testers
    functions := other.functions.union env.functions }

/-- The name of a template that is rendered without being registered. -/
def oneOffName : String := "__trellis_one_off"

/-- The template of a tree and the set it is resolved in, of which the registered set is a part. -/
def resolveOneOff (env : Environment) (d : Document) :
    Except Problem (Template × Table Template) := do
  let t ← ofTemplate (Template.ofDocument oneOffName d)
  let resolved ← resolve (env.templates.insert oneOffName t)
  return ((resolved.get? oneOffName).getD t, resolved)

end Environment

end Stencil
