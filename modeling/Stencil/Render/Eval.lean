import Stencil.Render.Operator
import Stencil.Render.State

/-! Evaluation of expressions. A lookup that finds nothing is an error, except where only its
    absence matters: in conditions, in operands of testers, and in the operand of a filter that
    supplies a default. What a node may start beyond its own tree is handed in: to the expressions
    and statements as `Links`, and what those start themselves as `Calls`. -/

namespace Stencil

/-- What nodes may start that does not lie below them: a body of statements, an expression that is
    evaluated strictly, and a render of a registered template. -/
structure Calls where
  body : List Node → Render Unit
  value : Node → Render Value
  render : String → Except Halt String

/-- What nodes refer to by name: the macro of a namespace and the text of a macro for bound
    parameters, the definition of a block and the one after that which runs, included templates,
    and a render of a registered template. -/
structure Links where
  findMacro : String → String → Render (Template × Macro)
  runMacro : Template → Macro → String → List (String × Value) → Render Value
  runBlock : String → List Node → Render Unit
  runSuper : Render Unit
  runInclude : List String → Bool → Render Unit
  render : String → Except Halt String

namespace Render

/-- Runs computations one after the other. -/
def all : List (Render α) → Render (List α)
  | [] => done []
  | m :: rest => do
    let a ← m
    let more ← all rest
    return a :: more

/-- Runs named computations one after the other. -/
def allNamed : List (String × Render α) → Render (List (String × α))
  | [] => done []
  | (name, m) :: rest => do
    let a ← m
    let more ← allNamed rest
    return (name, a) :: more

/-- Whether all conditions hold; those after the first that fails are not evaluated. -/
def allTrue : List (Render Value) → Render Bool
  | [] => done true
  | m :: rest => do
    if (← m).isTruthy then allTrue rest else return false

/-- Whether some condition holds; those after the first that does are not evaluated. -/
def anyTrue : List (Render Value) → Render Bool
  | [] => done false
  | m :: rest => do
    if (← m).isTruthy then return true else anyTrue rest

/-- The texts of values, evaluated and printed one after the other. -/
def texts : List (Render Value) → Render String
  | [] => done ""
  | m :: rest => do
    let s ← ofProblem (← m).display
    let more ← texts rest
    return s ++ more

/-- The error of a key that is no text. -/
def badKey (key : Value) : RuntimeError :=
  { kind := .typeMismatch
    message := s!"Object keys must be strings, got {key.typeName}"
    construct := some "dict"
    values := [("key", key)] }

/-- The entries of an object, whose keys have to be texts; there have to be as many keys as
    values. -/
def entries (known : List (Value × Value)) :
    List (Render Value) → List (Render Value) → Render Value
  | [], [] => done (.object known)
  | k :: keys, v :: values => do
    let key ← k
    if key.text?.isNone then raise (badKey key)
    let value ← v
    entries (Value.bind known key value) keys values
  | _, _ => halt (.failure .badValue)

/-- Whether a chain of comparisons holds from a left value on; those after the first that fails are
    not evaluated. There have to be as many operators as operands. -/
def chain (left : Value) : List String → List (Render Value) → Render Bool
  | [], [] => done true
  | op :: ops, m :: rest => do
    let right ← m
    if ← ofProblem (Operator.compare op left right) then chain right ops rest else return false
  | _, _ => halt (.failure .badValue)

/-- A result as the kind of capability may return it: only safe ones return text marked safe. -/
def demoted (c : Capability) (v : Value) : Value :=
  match v with
  | .markup s => if c.safe then .markup s else .text s
  | .text s => if c.safe then .markup s else .text s
  | v => v

/-- A halt of a capability as its caller sees it. A problem of its own is an error of the call; errors
    that are located already, because the capability rendered a template, pass. -/
def calledBy (kind : CapabilityKind) (c : Capability) (args : List Value)
    (named : List (String × Value)) : Halt → Halt
  | .exhausted => .exhausted
  | .problem p =>
    let failed := Halt.runtime (RuntimeError.capabilityFailed kind.name c.name p args named)
    match p with
    | .fault _ => failed
    | .template (.runtime e) =>
      match e.kind with
      -- a call inside of this one has failed, and its error is told once
      | .capabilityFailed .. => .problem p
      | _ => if e.template.isSome then .problem p else failed
    | _ => .problem p

/-- The result of a call of a capability. -/
def invoke (render : String → Except Halt String) (kind : CapabilityKind) (c : Capability)
    (args : List Value) (named : List (String × Value)) : Render Value :=
  ofHalt (((c.call { args, named, render }).map (demoted c)).mapError (calledBy kind c args named))

/-- The value of a visible name. -/
def find (name : String) : Render Value := do
  return (← state).stack.find name

/-- The template whose code runs. -/
def active : Render Template := do
  ofRuntime (← state).stack.activeTemplate

/-- The template that the names look up a namespace in: the running one and its ancestors, then
    that of the innermost include and its ancestors. -/
def searchSpaces (setting : Setting) (space : String) : List String → Render (Option Value)
  | [] => done none
  | name :: rest => do
    let t ← ofProblem (Environment.ofTemplate (setting.template name))
    match spaceIn t with
    | some found => return some found
    | none => searchSpaces setting space rest
where
  /-- The template that a namespace stands for in one of those that may import it. -/
  spaceIn (t : Template) : Option Value := (t.namespaces.get? space).filter fun v => !v.isNull

/-- The template that a namespace of macros stands for. -/
def spaceTemplate (setting : Setting) (space : String) : Render Template := do
  let running ← active
  if space = "self" then return running
  match searchSpaces.spaceIn space running with
  | some found => ofProblem (setting.templateOf found)
  | none =>
    match ← searchSpaces setting space running.parents with
    | some found => ofProblem (setting.templateOf found)
    | none => inTargets
where
  /-- Goes on with the innermost include. -/
  inTargets : Render Template := do
    match (← state).targets with
    | [] => missing
    | target :: _ =>
      match searchSpaces.spaceIn space target with
      | some found => ofProblem (setting.templateOf found)
      | none =>
        match ← searchSpaces setting space target.parents with
        | some found => ofProblem (setting.templateOf found)
        | none => missing
  /-- No template imports the namespace. -/
  missing : Render Template :=
    raise (.capabilityNotFound "macro namespace" space
      (some ("Add \x7b% import \"...\" as " ++ space ++ " %\x7d to the template")))

/-- The parameters of a macro that a call binds. -/
def bindNamed (fullName : String) (names : List String) (bound : List (String × Value)) :
    List (String × Value) → Except RuntimeError (List (String × Value))
  | [] => .ok bound
  | (key, v) :: rest =>
    if !names.contains key then
      .error (.macroArgument fullName s!"unknown argument '{key}'" (some key))
    else if (bound.lookup key).isSome then
      .error (.macroArgument fullName s!"argument '{key}' given twice" (some key))
    else bindNamed fullName names ((key, v) :: bound) rest

/-- The arguments of a call under the names of the parameters. A later parameter of a name that is
    there twice takes precedence. -/
def bindArguments (fullName : String) (params : List Param) (args : List Value)
    (named : List (String × Value)) : Except RuntimeError (List (String × Value)) :=
  if params.length < args.length then
    .error (.macroArgument fullName
      s!"takes {params.length} arguments but {args.length} were given" none)
  else
    let names := params.map Param.name
    bindNamed fullName names (names.zip args).reverse named

/-- Binds a name in the innermost scope. -/
def assign (name : String) (value : Value) : Render Unit := do
  let stack ← ofRuntime ((← state).stack.assign name value)
  change fun s => { s with stack }

/-- Binds the parameters of a macro in its scope; defaults are evaluated there in order. -/
def assignParams (calls : Calls) (fullName : String) (bound : List (String × Value)) :
    List Param → Render Unit
  | [] => done ()
  | p :: rest => do
    match bound.lookup p.name, p.default with
    | some v, _ => assign p.name v
    | none, some n => do
      -- a default sees the parameters before it
      let v ← calls.value n
      assign p.name v
    | none, none =>
      raise (.macroArgument fullName s!"missing required argument '{p.name}'" (some p.name))
    assignParams calls fullName bound rest

/-- The text of a macro for bound parameters, in a scope of its own. -/
def runMacro (calls : Calls) (owner : Template) (m : Macro) (fullName : String)
    (bound : List (String × Value)) : Render Value := do
  let text ← inScope (.call m.name owner) (inTemplate owner.name (captured (do
    assignParams calls fullName bound m.params
    calls.body m.body)))
  return .markup text

/-- The macro of a namespace and a name, with the template that holds it. -/
def findMacro (setting : Setting) (space name : String) : Render (Template × Macro) := do
  let owner ← spaceTemplate setting space
  match owner.macros.get? name with
  | some m => return (owner, m)
  | none => raise (.capabilityNotFound "macro" (space ++ "::" ++ name) none)

/-- A value that has been looked up, which a strict lookup has to find. -/
def found (lenient : Bool) (n : Node) (v : Value) : Render Value :=
  if v.isUndefined && !lenient then undefinedAt n else done v

mutual

/-- The value of an expression. A lenient lookup gives the undefined marker where a strict one is an
    error; it makes no difference to other expressions. -/
def eval (links : Links) (setting : Setting) (lenient : Bool) : Node → Render Value
  | .const _ v => done v
  | .name p n => do
    let v ← find n
    found lenient (.name p n) v
  | .list _ items => do return .list (← all (evalEach links setting false items))
  | .object _ keys values =>
    entries [] (evalEach links setting false keys) (evalEach links setting false values)
  | .attr p operand name => do
    let v ← eval links setting lenient operand
    if lenient && v.isUndefined then return .undefined
    let w ← ofFailure (v.getAttr name)
    found lenient (.attr p operand name) w
  | .item p operand key => do
    let v ← eval links setting lenient operand
    -- nothing has no items, so the key is not evaluated
    if lenient && v.isUndefined then return .undefined
    let k ← eval links setting false key
    found lenient (.item p operand key) (v.getItem k)
  | .call _ name args named => do
    let c ← ofRuntime (setting.env.lookup .function name)
    let vs ← all (evalEach links setting false args)
    let ns ← allNamed (evalNamed links setting named)
    invoke links.render .function c vs ns
  | .macroCall _ space name args named => do
    let (owner, m) ← links.findMacro space name
    let vs ← all (evalEach links setting false args)
    let ns ← allNamed (evalNamed links setting named)
    let fullName := space ++ "::" ++ name
    let bound ← ofRuntime (bindArguments fullName m.params vs ns)
    links.runMacro owner m fullName bound
  -- the operand comes before the arguments, the filter itself before both
  | .filter _ operand name args named => do
    let c ← ofRuntime (setting.env.lookup .filter name)
    let v ← eval links setting (Filter.isLenient name) operand
    let vs ← all (evalEach links setting false args)
    let ns ← allNamed (evalNamed links setting named)
    invoke links.render .filter c (v :: vs) ns
  | .test _ operand name args negated => do
    let c ← ofRuntime (setting.env.lookup .test name)
    let v ← eval links setting true operand
    let vs ← all (evalEach links setting false args)
    let answer ← invoke links.render .test c (v :: vs) []
    return .bool (answer.isSet != negated)
  | .arith _ op left right => do
    let a ← ofProblem (Operator.operand op (← eval links setting false left))
    let b ← ofProblem (Operator.operand op (← eval links setting false right))
    ofProblem (Operator.arithmetic op a b)
  | .unary _ op operand => do
    match op with
    | "not" => return .bool !(← eval links setting true operand).isTruthy
    | "-" =>
      let n ← ofProblem (Operator.operand "-" (← eval links setting false operand))
      return .ofNumber n.neg
    | op => raise (.general s!"Unknown unary operator '{op}'")
  | .compare _ left ops comparators => do
    let v ← eval links setting false left
    return .bool (← chain v ops (evalEach links setting false comparators))
  | .logic _ op operands => do
    let conditions := evalEach links setting true operands
    return .bool (← if op = "and" then allTrue conditions else anyTrue conditions)
  -- only the branch that is chosen is evaluated
  | .choice _ condition ifTrue ifFalse => do
    if (← eval links setting true condition).isTruthy then eval links setting false ifTrue
    else eval links setting false ifFalse
  | .concat _ parts => do return .text (← texts (evalEach links setting false parts))
  | n => raise (.general s!"Unknown expression type: {n.className}")

/-- The evaluations of expressions. -/
def evalEach (links : Links) (setting : Setting) (lenient : Bool) :
    List Node → List (Render Value)
  | [] => []
  | n :: rest => eval links setting lenient n :: evalEach links setting lenient rest

/-- The strict evaluations of named expressions. -/
def evalNamed (links : Links) (setting : Setting) :
    List (String × Node) → List (String × Render Value)
  | [] => []
  | (name, n) :: rest => (name, eval links setting false n) :: evalNamed links setting rest

end

end Render

end Stencil
