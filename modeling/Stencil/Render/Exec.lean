import Stencil.Render.Eval

/-! Execution of statements. Bodies write text to the sink; a request to leave a loop or to go on with
    its next pair is noted on the loop and waits until the bodies in between are left. A block runs
    its most derived definition, `super` the next one of the chain, and both run as code of the
    template that owns the definition. -/

namespace Stencil.Render

/-- Prints a value: texts marked safe as they are, all others escaped where output is escaped. -/
def print (setting : Setting) (v : Value) : Render Unit := do
  match v with
  | .markup s => write s
  | v =>
    let s ← ofProblem v.display
    if setting.escaping then write (← ofFault (setting.env.escape s)) else write s

/-- Binds a name in the scope of the template or macro call that is under way. -/
def assignWide (name : String) (value : Value) : Render Unit := do
  let stack ← ofRuntime ((← state).stack.assignWide name value)
  change fun s => { s with stack }

/-- The pairs that a loop runs over. Items of an array have no key; an object is only run over with
    a name for its keys. -/
def pairs (shown : String) (hasKey : Bool) (container : Value) :
    Except RuntimeError (List (Value × Value)) :=
  match container with
  | .list xs | .tuple xs =>
    if hasKey then .error
      { kind := .typeMismatch
        message := s!"Tried to iterate using key value on variable '{shown}', but it isn't an object"
        construct := some "for"
        expression := some shown
        values := [(shown, container)] }
    else .ok (xs.map fun x => (.null, x))
  | .object es =>
    if hasKey then .ok es
    else .error
      { kind := .typeMismatch
        message := s!"Tried to iterate over object '{shown}' with a single variable"
        construct := some "for"
        expression := some shown
        suggestion :=
          some "Use \x7b% for key, value in ... %\x7d to iterate over an object" }
  | v =>
    let kind := if v.isUndefined then "undefined" else v.typeName
    .error
      { kind := .typeMismatch
        message := s!"Tried to iterate over '{shown}', which is not an array or an object ({kind})"
        construct := some "for"
        expression := some shown
        values := [(shown, container)]
        suggestion := some "Only arrays and objects can be iterated" }

/-- The pairs for which a condition holds, each tried in a scope of its own where the loop is at
    that pair. -/
def filterPairs (active : Template) (condition : Render Value) (l : Loop) :
    Nat → List (Value × Value) → Render (List (Value × Value))
  | _, [] => done []
  | i, pair :: rest => do
    let holds ← inScope (.iteration { l with index := i } active) condition
    let kept ← filterPairs active condition l (i + 1) rest
    return if holds.isTruthy then pair :: kept else kept

/-- The request that waits on the innermost frame's loop. -/
def requested : Render Signal := do
  return (((← state).stack.frames.head?.bind (·.kind.loop?)).map (·.signal)).getD .none

/-- Runs a body for a number of pairs of a loop from an index on, each in a scope of its own. -/
def iterate (active : Template) (body : Render Unit) (l : Loop) : Nat → Nat → Render Unit
  | _, 0 => done ()
  | i, remaining + 1 => do
    let signal ← inScope (.iteration { l with index := i } active) (do
      body
      requested)
    -- the request was meant for this loop, and waits no longer
    change fun s => { s with pending := false }
    if signal = .leave then return () else iterate active body l (i + 1) remaining

/-- The error of a request where no loop is. -/
def outsideLoop (signal : Signal) : RuntimeError :=
  { kind := .general
    message := "\x7b% " ++ signal.name ++ " %\x7d used outside of a for loop"
    construct := some signal.name }

/-- Puts a request to the innermost loop. -/
def request (signal : Signal) : Render Unit := do
  if (← state).stack.currentLoop.isNone then raise (outsideLoop signal)
  else change fun s =>
    { s with stack := s.stack.changeLoop (·.request signal), pending := true }

/-- Runs the definition of a block at a position of its chain. -/
def runDefinition (calls : Calls) (setting : Setting) (name : String) (chain : BlockChain)
    (position : Int) : Render Unit := do
  match chain.entry? position with
  | none => halt (.failure .badIndex)
  | some (ownerName, b) => do
    let owner ← ofProblem (Environment.ofTemplate (setting.template ownerName))
    inTemplate ownerName (inScope (.block name position chain owner) (calls.body b.body))

/-- Runs the most derived definition of a block; a block that the innermost include does not know
    is its own definition. -/
def runBlock (calls : Calls) (setting : Setting) (name : String) (body : List Node) :
    Render Unit := do
  match ((← state).targets.head?.map (·.chain name)).getD [] with
  | [] => do
    let running ← active
    runDefinition calls setting name [(running.name, { name, body })] 0
  | chain => runDefinition calls setting name chain 0

/-- The error that no definition comes after the one that runs. -/
def noParent (name : String) : RuntimeError :=
  { kind := .general
    message := s!"Tried to use super() in the top level block '{name}'"
    construct := some "super"
    expression := some name
    suggestion := some "Only blocks that override a parent definition can call super()" }

/-- Runs the definition that comes after the one that runs. -/
def runSuper (calls : Calls) (setting : Setting) : Render Unit := do
  match (← state).stack.currentBlock.map Frame.kind with
  | some (.block name position chain) =>
    if position + 1 < chain.length then runDefinition calls setting name chain (position + 1)
    else raise (noParent name)
  | _ => raise { RuntimeError.general "super() called outside of a block" with
      construct := some "super" }

/-- Runs the body of a template: that of its farthest ancestor, if it has any. -/
def runTemplate (calls : Calls) (setting : Setting) (t : Template) : Render Unit := do
  let entry ← match t.parents.getLast? with
    | some name => ofProblem (Environment.ofTemplate (setting.template name))
    | none => done t
  inTemplate entry.name (inScope (.root entry) (calls.body entry.document.body))

/-- Counts an include and puts its template on the targets while a computation runs. -/
def including (t : Template) (m : Render α) : Render α := fun s =>
  let deeper (step : Int) (p : Option Location) : Option Location :=
    p.map fun l => { l with includeDepth := l.includeDepth + step }
  ensuring m
    (fun u => { u with targets := u.targets.drop 1, place := deeper (-1) u.place })
    { s with targets := t :: s.targets, place := deeper 1 s.place }

/-- Includes the first registered one of some templates, started in a way that is handed in. -/
def runInclude (start : Template → Render Unit) (setting : Setting) (names : List String)
    (ignoreMissing : Bool) : Render Unit := do
  match names.findSome? setting.templates.get? with
  | none =>
    if ignoreMissing then return ()
    let shown := Text.joinTexts ", " (names.map fun n => "'" ++ n ++ "'")
    halt (.problem (.template (.notFound (.text (Text.joinTexts ", " names))
      (some s!"Template(s) for include not found: {shown}"))))
  | some t => do
    let here ← place
    ofRuntime (here.checkInclude t.name)
    including t (start t)

/-- What nodes refer to, found in the setting and in the state and started by the calls. -/
def linked (calls : Calls) (setting : Setting) : Links :=
  { findMacro := findMacro setting
    runMacro := runMacro calls
    runBlock := runBlock calls setting
    runSuper := runSuper calls setting
    runInclude := runInclude (runTemplate calls setting) setting
    render := calls.render }

/-- Passes what a body has written through a filter. -/
def runFilter (links : Links) (setting : Setting) (name : String) (body : Render Unit)
    (args : List (Render Value)) (named : List (String × Render Value)) : Render Unit := do
  let text ← captured body
  let vs ← all args
  let ns ← allNamed named
  -- the filter is looked up last, so a missing one is told after all other errors
  let c ← ofRuntime (setting.env.lookup .filter name)
  let result ← invoke links.render .filter c (.text text :: vs) ns
  write (← ofProblem result.display)

/-- Runs a loop, or what stands for it when there is no pair. -/
def runLoop (target : String) (key : Option String) (found : List (Value × Value))
    (condition : Option (Render Value)) (body empty : Render Unit) : Render Unit := do
  let running ← active
  let loopOf (ps : List (Value × Value)) : Loop :=
    { valueName := target, keyName := key, items := ps.toArray }
  let kept ← match condition with
    | none => done found
    | some c => filterPairs running c (loopOf found) 0 found
  if kept.isEmpty then empty else iterate running body (loopOf kept) 0 kept.length

mutual

/-- Executes a statement. -/
def exec (links : Links) (setting : Setting) : Node → Render Unit
  | .data _ s | .raw _ s => write s
  | .output _ n => do
    let v ← eval links setting false n
    print setting v
  | .branch _ condition body others otherwise => do
    if (← eval links setting true condition).isTruthy then execAll links setting body
    else execFirst links setting (execAll links setting otherwise) others
  | .loop _ target iter body empty key condition => do
    let container ← eval links setting false iter
    let found ← ofRuntime (pairs iter.describe key.isSome container)
    runLoop target key found (condition.map fun c => eval links setting true c)
      (execAll links setting body) (execAll links setting empty)
  | .leave _ => request .leave
  | .next _ => request .next
  | .assign _ name n wide => do
    let v ← eval links setting false n
    if wide then assignWide name v else assign name v
  | .block _ name body => links.runBlock name body
  | .super _ => links.runSuper
  | .include _ names ignoreMissing => links.runInclude names ignoreMissing
  | .filterBlock _ name body args named =>
    runFilter links setting name (execAll links setting body) (evalEach links setting false args)
      (evalNamed links setting named)
  -- these have had their effect when the template was added
  | .macroDef .. | .importing .. | .extends .. => done ()
  | n => raise (.general s!"Unknown node type: {n.className}")

/-- Executes statements in their order until a request of a loop waits. -/
def execAll (links : Links) (setting : Setting) : List Node → Render Unit
  | [] => done ()
  | n :: rest => do
    atLine n.pos.line
    exec links setting n
    if (← state).pending then return ()
    execAll links setting rest

/-- Executes the body of the first branch whose condition holds, or what stands for none. -/
def execFirst (links : Links) (setting : Setting) (otherwise : Render Unit) :
    List (Node × List Node) → Render Unit
  | [] => otherwise
  | (condition, body) :: rest => do
    if (← eval links setting true condition).isTruthy then execAll links setting body
    else execFirst links setting otherwise rest

end

end Stencil.Render
