import Stencil.Error
import Stencil.Node
import Stencil.Table

/-! Templates: a tree together with the index of its blocks, macros and imports. The index is built
    once from the tree, which is refused if a block or a macro could not be told from another one
    or stands where it may not be defined. The ancestors and the definition chains of the blocks are
    filled in when the template is resolved in a set of templates. -/

namespace Stencil

/-- A region that a derived template may define anew. -/
structure Block where
  name : String
  body : List Node

/-- A parameter of a macro; a caller may leave it out if it has a default. -/
structure Param where
  name : String
  default : Option Node

/-- A body with parameters of its own. -/
structure Macro where
  name : String
  params : List Param
  body : List Node

/-- A parameter that a caller has to give. -/
def Param.isRequired (p : Param) : Bool := p.default.isNone

/-- The definitions of a block with the templates that own them, the most derived one first. -/
abbrev BlockChain := List (String × Block)

/-- The entry at a position; a negative position counts from the end. -/
def BlockChain.entry? (chain : BlockChain) (position : Int) : Option (String × Block) :=
  match position with
  | .ofNat i => chain[i]?
  | .negSucc i => chain.reverse[i]?

@[simp]
theorem BlockChain.entry?_natCast (chain : BlockChain) (i : Nat) :
    chain.entry? (i : Int) = chain[i]? := rfl

/-- A named template. -/
structure Template where
  name : String
  document : Document
  path : Option String := none
  parent : Option String := none
  blocks : Table Block := .empty
  macros : Table Macro := .empty
  imports : List (Value × String) := []
  merged : Bool := false
  parents : List String := []
  chains : Table BlockChain := .empty
  deriving Inhabited

namespace Template

/-- The parameters of a macro definition. -/
def paramsOf (nodes : List Node) : List Param :=
  nodes.filterMap fun
    | .param _ name default => some ⟨name, default⟩
    | _ => none

/-- A refusal of a tree. -/
def refusal (template message : String) (n : Pos) : TemplateError :=
  .syntaxError message (some n.line) (some template) none

/-- The name of the parent, which has to be a text. -/
def parentOf (name : String) (d : Document) : Except TemplateError (Option String) :=
  match d.parent with
  | none => .ok none
  | some (p, target) =>
    match target.text? with
    | some parent => .ok (some parent)
    | none => .error (refusal name "extends target must be a template name string" p)

/-- The first block or macro among the nodes inside a macro is refused. -/
def checkInside (template macroName : String) : List Node → Except TemplateError Unit
  | [] => .ok ()
  | .block p .. :: _ =>
    .error (refusal template s!"Blocks cannot be defined inside macro '{macroName}'" p)
  | .macroDef p .. :: _ =>
    .error (refusal template s!"Macros cannot be defined inside macro '{macroName}'" p)
  | _ :: rest => checkInside template macroName rest

/-- Adds the macros and imports at the top level of a body to those found before. -/
def collectTop (template : String) (macros : Table Macro) (imports : List (Value × String)) :
    List Node → Except TemplateError (Table Macro × List (Value × String))
  | [] => .ok (macros, imports)
  | .macroDef p name params body :: rest =>
    if macros.contains name then
      .error (refusal template s!"Macro '{name}' is defined more than once" p)
    else do
      -- a walk begins with the node itself, which is allowed to be a macro
      checkInside template name ((Node.macroDef p name params body).walk.drop 1)
      collectTop template (macros.insert name ⟨name, paramsOf params, body⟩) imports rest
  | .importing _ target space :: rest =>
    collectTop template macros (imports ++ [(target, space)]) rest
  | _ :: rest => collectTop template macros imports rest

/-- The nodes of a body in document order, each with the mark whether it stands at the top. -/
def markTop (body : List Node) : List (Bool × Node) :=
  body.flatMap fun n =>
    match n.walk with
    | [] => []
    | top :: below => (true, top) :: below.map fun m => (false, m)

/-- Adds the blocks among the nodes of a tree to those found before; a macro has to stand at the
    top. -/
def collectBlocks (template : String) (blocks : Table Block) :
    List (Bool × Node) → Except TemplateError (Table Block)
  | [] => .ok blocks
  | (_, .block p name body) :: rest =>
    if blocks.contains name then
      .error (refusal template s!"Block '{name}' is defined more than once" p)
    else collectBlocks template (blocks.insert name ⟨name, body⟩) rest
  | (false, .macroDef p name _ _) :: _ =>
    .error (refusal template s!"Macro '{name}' must be defined at the top level" p)
  | _ :: rest => collectBlocks template blocks rest

/-- The template of a tree. -/
def ofDocument (name : String) (d : Document) (path : Option String := none) :
    Except TemplateError Template := do
  let parent ← parentOf name d
  let (macros, imports) ← collectTop name .empty [] d.body
  let blocks ← collectBlocks name .empty (markTop d.body)
  return { name, document := d, path, parent, blocks, macros, imports }

/-- The template has an ancestor, which only a resolved one knows. -/
def isInheriting (t : Template) : Bool := !t.parents.isEmpty

/-- The imported templates by their namespaces; of two imports with one namespace the later wins. -/
def namespaces (t : Template) : Table Value := Table.ofList (t.imports.map fun i => (i.2, i.1))

/-- The definitions of a block, none if the template is unresolved or does not know it. -/
def chain (t : Template) (block : String) : BlockChain := (t.chains.get? block).getD []

/-- The text that shows a template. -/
def inspect (t : Template) : String := "<Template " ++ Text.quoted t.name ++ ">"

/-- A list of names as a value. -/
def namesValue (names : List String) : Value := .list (names.map Value.text)

/-- An optional name as a value. -/
def nameValue (name : Option String) : Value := (name.map Value.text).getD .null

/-- What a host can ask of a template. -/
def fields (t : Template) : List (String × Value) :=
  [("name", .text t.name),
   ("path", nameValue t.path),
   ("parent", nameValue t.parent),
   ("blocks", namesValue t.blocks.names),
   ("macros", .list (t.macros.entries.map fun m => .list
      [.text m.1, namesValue (m.2.params.map Param.name),
       .list (m.2.params.map fun p => .bool p.isRequired)])),
   ("imports", .list (t.imports.map fun i => .list [i.1, .text i.2])),
   ("namespaces", .list (t.namespaces.entries.map fun n => .list [.text n.1, n.2])),
   ("from_extend", .bool t.merged),
   ("parents", namesValue t.parents),
   ("chains", .list (t.chains.entries.map fun c =>
      .list [.text c.1, namesValue (c.2.map Prod.fst)])),
   ("inheriting", .bool t.isInheriting),
   ("repr", .text t.inspect)]

end Template

end Stencil
