import Stencil.Value.Inspect

/-! Syntax trees of templates. Statements write text or steer the rendering, expressions have values;
    both are nodes of one type, because a tree may hold a node where it has no meaning, which is an
    error only when rendering gets there. A node knows its place in the source, and a tree can be
    walked in document order. -/

namespace Stencil

/-- A place in the source; line 0 is unknown. -/
structure Pos where
  line : Int := 0
  column : Int := 0
  deriving DecidableEq, Repr, Inhabited

/-- A node of a template. -/
inductive Node where
  | const (pos : Pos) (value : Value)
  | name (pos : Pos) (name : String)
  | list (pos : Pos) (items : List Node)
  | object (pos : Pos) (keys values : List Node)
  | attr (pos : Pos) (operand : Node) (name : String)
  | item (pos : Pos) (operand key : Node)
  | call (pos : Pos) (name : String) (args : List Node) (named : List (String × Node))
  | macroCall (pos : Pos) (space name : String) (args : List Node) (named : List (String × Node))
  | filter (pos : Pos) (operand : Node) (name : String) (args : List Node)
      (named : List (String × Node))
  | test (pos : Pos) (operand : Node) (name : String) (args : List Node) (negated : Bool)
  | arith (pos : Pos) (op : String) (left right : Node)
  | unary (pos : Pos) (op : String) (operand : Node)
  | compare (pos : Pos) (left : Node) (ops : List String) (comparators : List Node)
  | logic (pos : Pos) (op : String) (operands : List Node)
  | choice (pos : Pos) (condition ifTrue ifFalse : Node)
  | concat (pos : Pos) (parts : List Node)
  | output (pos : Pos) (expr : Node)
  | data (pos : Pos) (text : String)
  | raw (pos : Pos) (text : String)
  | filterBlock (pos : Pos) (name : String) (body args : List Node) (named : List (String × Node))
  | assign (pos : Pos) (target : String) (value : Node) (wide : Bool)
  | block (pos : Pos) (name : String) (body : List Node)
  | super (pos : Pos)
  | include (pos : Pos) (templates : List String) (ignoreMissing : Bool)
  | importing (pos : Pos) (template : Value) (space : String)
  | extends (pos : Pos) (parent : Value)
  | template (pos : Pos) (body : List Node) (parent : Option Node)
  | macroDef (pos : Pos) (name : String) (params body : List Node)
  | param (pos : Pos) (name : String) (default : Option Node)
  | branch (pos : Pos) (condition : Node) (body : List Node) (others : List (Node × List Node))
      (otherwise : List Node)
  | loop (pos : Pos) (target : String) (iter : Node) (body empty : List Node)
      (key : Option String) (condition : Option Node)
  | leave (pos : Pos)
  | next (pos : Pos)
  deriving Inhabited

namespace Node

/-- The place of a node. -/
def pos : Node → Pos
  | .const p _ | .name p _ | .list p _ | .object p _ _ | .attr p _ _ | .item p _ _ | .call p _ _ _
  | .macroCall p _ _ _ _ | .filter p _ _ _ _ | .test p _ _ _ _ | .arith p _ _ _ | .unary p _ _
  | .compare p _ _ _ | .logic p _ _ | .choice p _ _ _ | .concat p _ | .output p _ | .data p _
  | .raw p _ | .filterBlock p _ _ _ _ | .assign p _ _ _ | .block p _ _ | .super p | .include p _ _
  | .importing p _ _ | .extends p _ | .template p _ _ | .macroDef p _ _ _ | .param p _ _
  | .branch p _ _ _ _ | .loop p _ _ _ _ _ _ | .leave p | .next p => p

/-- The name of the class of a node. -/
def className : Node → String
  | .const .. => "Const"
  | .name .. => "Name"
  | .list .. => "List"
  | .object .. => "Dict"
  | .attr .. => "Getattr"
  | .item .. => "Getitem"
  | .call .. => "FuncCall"
  | .macroCall .. => "MacroCall"
  | .filter .. => "Filter"
  | .test .. => "Test"
  | .arith .. => "BinOp"
  | .unary .. => "UnaryOp"
  | .compare .. => "Compare"
  | .logic .. => "BoolOp"
  | .choice .. => "CondExpr"
  | .concat .. => "Concat"
  | .output .. => "Output"
  | .data .. => "Data"
  | .raw .. => "Raw"
  | .filterBlock .. => "FilterBlock"
  | .assign .. => "Set"
  | .block .. => "Block"
  | .super .. => "Super"
  | .include .. => "Include"
  | .importing .. => "Import"
  | .extends .. => "Extends"
  | .template .. => "Template"
  | .macroDef .. => "Macro"
  | .param .. => "MacroParam"
  | .branch .. => "If"
  | .loop .. => "For"
  | .leave .. => "Break"
  | .next .. => "Continue"

/-- The literal that a node holds, where a lookup can show it as a key. -/
def literal? : Node → Option Value
  | .const _ v =>
    match v with
    | .text _ | .markup _ | .int _ | .bool _ => some v
    | _ => none
  | .data _ s | .raw _ s => some (.text s)
  | _ => none

/-- The text of a lookup as it stands in the source, the class name of any other node. -/
def describe : Node → String
  | .name _ n => n
  | .attr _ operand n => describe operand ++ "." ++ n
  | .item _ operand key =>
    let shown := match key.literal? with
      | some v => v.inspect
      | none => "..."
    describe operand ++ "[" ++ shown ++ "]"
  | n => n.className

/-- The nodes directly below a node, in the order of the source. -/
def children : Node → List Node
  | .const .. | .name .. | .data .. | .raw .. | .super .. | .include .. | .importing ..
  | .extends .. | .leave .. | .next .. => []
  | .list _ items => items
  | .object _ keys values => keys ++ values
  | .attr _ operand _ => [operand]
  | .item _ operand key => [operand, key]
  | .call _ _ args named => args ++ named.map Prod.snd
  | .macroCall _ _ _ args named => args ++ named.map Prod.snd
  | .filter _ operand _ args named => operand :: args ++ named.map Prod.snd
  | .test _ operand _ args _ => operand :: args
  | .arith _ _ left right => [left, right]
  | .unary _ _ operand => [operand]
  | .compare _ left _ comparators => left :: comparators
  | .logic _ _ operands => operands
  | .choice _ condition ifTrue ifFalse => [condition, ifTrue, ifFalse]
  | .concat _ parts => parts
  | .output _ expr => [expr]
  | .filterBlock _ _ body args named => body ++ args ++ named.map Prod.snd
  | .assign _ _ value _ => [value]
  | .block _ _ body => body
  | .template _ body parent => body ++ parent.toList
  | .macroDef _ _ params body => params ++ body
  | .param _ _ default => default.toList
  | .branch _ condition body others otherwise =>
    condition :: body ++ others.flatMap (fun b => b.1 :: b.2) ++ otherwise
  | .loop _ _ iter body empty _ condition => iter :: body ++ empty ++ condition.toList

mutual

/-- A node and every node below it, in document order. -/
def preorder : Node → List Node
  | .const p v => [.const p v]
  | .name p n => [.name p n]
  | .data p s => [.data p s]
  | .raw p s => [.raw p s]
  | .super p => [.super p]
  | .include p ts i => [.include p ts i]
  | .importing p t s => [.importing p t s]
  | .extends p t => [.extends p t]
  | .leave p => [.leave p]
  | .next p => [.next p]
  | .list p items => .list p items :: preorderAll items
  | .object p keys values => .object p keys values :: (preorderAll keys ++ preorderAll values)
  | .attr p operand n => .attr p operand n :: preorder operand
  | .item p operand key => .item p operand key :: (preorder operand ++ preorder key)
  | .call p n args named => .call p n args named :: (preorderAll args ++ preorderNamed named)
  | .macroCall p s n args named =>
    .macroCall p s n args named :: (preorderAll args ++ preorderNamed named)
  | .filter p operand n args named =>
    .filter p operand n args named :: (preorder operand ++ preorderAll args ++ preorderNamed named)
  | .test p operand n args negated =>
    .test p operand n args negated :: (preorder operand ++ preorderAll args)
  | .arith p op left right => .arith p op left right :: (preorder left ++ preorder right)
  | .unary p op operand => .unary p op operand :: preorder operand
  | .compare p left ops comparators =>
    .compare p left ops comparators :: (preorder left ++ preorderAll comparators)
  | .logic p op operands => .logic p op operands :: preorderAll operands
  | .choice p condition ifTrue ifFalse =>
    .choice p condition ifTrue ifFalse ::
      (preorder condition ++ preorder ifTrue ++ preorder ifFalse)
  | .concat p parts => .concat p parts :: preorderAll parts
  | .output p expr => .output p expr :: preorder expr
  | .filterBlock p n body args named =>
    .filterBlock p n body args named ::
      (preorderAll body ++ preorderAll args ++ preorderNamed named)
  | .assign p t value wide => .assign p t value wide :: preorder value
  | .block p n body => .block p n body :: preorderAll body
  | .template p body none => .template p body none :: preorderAll body
  | .template p body (some parent) =>
    .template p body (some parent) :: (preorderAll body ++ preorder parent)
  | .macroDef p n params body => .macroDef p n params body :: (preorderAll params ++ preorderAll body)
  | .param p n none => [.param p n none]
  | .param p n (some default) => .param p n (some default) :: preorder default
  | .branch p condition body others otherwise =>
    .branch p condition body others otherwise ::
      (preorder condition ++ preorderAll body ++ preorderBranches others ++ preorderAll otherwise)
  | .loop p t iter body empty key none =>
    .loop p t iter body empty key none :: (preorder iter ++ preorderAll body ++ preorderAll empty)
  | .loop p t iter body empty key (some condition) =>
    .loop p t iter body empty key (some condition) ::
      (preorder iter ++ preorderAll body ++ preorderAll empty ++ preorder condition)

/-- The trees of a list, one after the other. -/
def preorderAll : List Node → List Node
  | [] => []
  | n :: rest => preorder n ++ preorderAll rest

/-- The trees of named arguments, one after the other. -/
def preorderNamed : List (String × Node) → List Node
  | [] => []
  | (_, n) :: rest => preorder n ++ preorderNamed rest

/-- The trees of branches, each condition before its body. -/
def preorderBranches : List (Node × List Node) → List Node
  | [] => []
  | (condition, body) :: rest => preorder condition ++ preorderAll body ++ preorderBranches rest

end

theorem preorderAll_eq (ns : List Node) : preorderAll ns = ns.flatMap preorder := by
  induction ns with
  | nil => rfl
  | cons n rest ih => simp [preorderAll, ih]

theorem preorderNamed_eq (ns : List (String × Node)) :
    preorderNamed ns = (ns.map Prod.snd).flatMap preorder := by
  induction ns with
  | nil => rfl
  | cons n rest ih => simp [preorderNamed, ih]

theorem preorderBranches_eq (bs : List (Node × List Node)) :
    preorderBranches bs = (bs.flatMap fun b => b.1 :: b.2).flatMap preorder := by
  induction bs with
  | nil => rfl
  | cons b rest ih => simp [preorderBranches, preorderAll_eq, ih]

/-- Document order is the node followed by the trees of its children. -/
theorem preorder_eq (n : Node) : preorder n = n :: n.children.flatMap preorder := by
  cases n
  case template p body parent =>
    cases parent <;> simp [preorder, children, preorderAll_eq]
  case param p name default => cases default <;> simp [preorder, children]
  case loop p t iter body empty key condition =>
    cases condition <;> simp [preorder, children, preorderAll_eq]
  all_goals simp [preorder, children, preorderAll_eq, preorderNamed_eq, preorderBranches_eq]

/-- The number of nodes in the trees of a list. -/
def weight (ns : List Node) : Nat := (ns.flatMap preorder).length

/-- Visits the trees that wait on a stack: a node is taken from the top and its children are put
    there instead. -/
def walkStack (stack : List Node) : List Node :=
  match stack with
  | [] => []
  | n :: rest => n :: walkStack (n.children ++ rest)
termination_by weight stack
decreasing_by
  simp only [weight, List.flatMap_append, List.flatMap_cons, preorder_eq n, List.length_append,
    List.length_cons]
  omega

/-- A node and every node below it, found with a stack. -/
def walk (n : Node) : List Node := walkStack [n]

/-- The stack visits its trees in document order. -/
theorem walkStack_eq (stack : List Node) : walkStack stack = stack.flatMap preorder := by
  induction stack using walkStack.induct with
  | case1 => simp [walkStack]
  | case2 n rest ih => rw [walkStack, ih]; simp [preorder_eq n]

end Node

/-- A template's tree: its body and the parent it names, if any. -/
structure Document where
  pos : Pos := {}
  body : List Node := []
  parent : Option (Pos × Value) := none
  deriving Inhabited

/-- The tree as a node. -/
def Document.node (d : Document) : Node :=
  .template d.pos d.body (d.parent.map fun p => .extends p.1 p.2)

end Stencil
