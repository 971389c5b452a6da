import Stencil.Render

/-! Renders with structured control. A statement ends with the request that it leaves to the loop
    around it: a body ends with the first request that one of its statements ends with, a loop takes
    the requests of its iterations, and all else passes them on. A request is nothing but the result
    of a computation. It is kept neither in the state nor in the frames, so that what is evaluated
    after it, as the arguments of a filter block are, cannot tell. -/

namespace Stencil

/-- What nodes may start: bodies, which end with a request, expressions, and renders of registered
    templates. -/
structure Flow where
  body : List Node → Render Signal
  value : Node → Render Value
  render : String → Except Halt String

namespace Flow

open Render

variable {α : Type}

/-- What expressions may start: the body of a macro leaves no request to anyone. -/
def calls (flow : Flow) : Calls :=
  { body := fun ns => do
      let _ ← flow.body ns
      return ()
    value := flow.value
    render := flow.render }

/-- What nodes in expressions refer to. -/
def links (flow : Flow) (setting : Setting) : Links := linked flow.calls setting

/-- Leaves a request to the innermost loop, if there is one. -/
def request (signal : Signal) : Render Signal := do
  if (← state).stack.currentLoop.isNone then raise (outsideLoop signal) else return signal

/-- The text that a computation writes, which does not reach the sink, with its result. -/
def captured (m : Render α) : Render (String × α) := fun s =>
  let (r, t) := m { s with sink := .buffer, chunks := [] }
  (r.map fun a => (Sink.contents t.chunks, a), { t with sink := s.sink, chunks := s.chunks })

/-- Passes what a body has written through a filter, and on what the body ends with. -/
def runFilter (links : Links) (setting : Setting) (name : String) (body : Render Signal)
    (args : List (Render Value)) (named : List (String × Render Value)) : Render Signal := do
  let (text, signal) ← captured body
  let vs ← all args
  let ns ← allNamed named
  let c ← ofRuntime (setting.env.lookup .filter name)
  let result ← invoke links.render .filter c (.text text :: vs) ns
  write (← ofProblem result.display)
  return signal

/-- Runs a body for a number of pairs of a loop from an index on, each in a scope of its own, until
    it ends with the request to leave. -/
def iterate (active : Template) (body : Render Signal) (l : Loop) : Nat → Nat → Render Signal
  | _, 0 => done .none
  | i, remaining + 1 => do
    let signal ← inScope (.iteration { l with index := i } active) body
    if signal = .leave then return .none else iterate active body l (i + 1) remaining

/-- Runs a loop, or what stands for it when there is no pair. -/
def runLoop (target : String) (key : Option String) (found : List (Value × Value))
    (condition : Option (Render Value)) (body empty : Render Signal) : Render Signal := do
  let running ← active
  let loopOf (ps : List (Value × Value)) : Loop :=
    { valueName := target, keyName := key, items := ps.toArray }
  let kept ← match condition with
    | none => done found
    | some c => filterPairs running c (loopOf found) 0 found
  if kept.isEmpty then empty else iterate running body (loopOf kept) 0 kept.length

section

variable (flow : Flow) (setting : Setting)

/-- Runs the definition of a block at a position of its chain. -/
def runDefinition (name : String) (chain : BlockChain) (position : Int) : Render Signal := do
  match chain.entry? position with
  | none => halt (.failure .badIndex)
  | some (ownerName, b) => do
    let owner ← ofProblem (Environment.ofTemplate (setting.template ownerName))
    inTemplate ownerName (inScope (.block name position chain owner) (flow.body b.body))

/-- Runs the most derived definition of a block, or the block itself. -/
def runBlock (name : String) (body : List Node) : Render Signal := do
  match ((← state).targets.head?.map (·.chain name)).getD [] with
  | [] => do
    let running ← active
    flow.runDefinition setting name [(running.name, { name, body })] 0
  | chain => flow.runDefinition setting name chain 0

/-- Runs the definition that comes after the one that runs. -/
def runSuper : Render Signal := do
  match (← state).stack.currentBlock.map Frame.kind with
  | some (.block name position chain) =>
    if position + 1 < chain.length then flow.runDefinition setting name chain (position + 1)
    else raise (noParent name)
  | _ => raise { RuntimeError.general "super() called outside of a block" with
      construct := some "super" }

/-- Runs the body of a template: that of its farthest ancestor, if it has any. -/
def runTemplate (t : Template) : Render Signal := do
  let entry ← match t.parents.getLast? with
    | some name => ofProblem (Environment.ofTemplate (setting.template name))
    | none => done t
  inTemplate entry.name (inScope (.root entry) (flow.body entry.document.body))

/-- Includes the first registered one of some templates. -/
def runInclude (names : List String) (ignoreMissing : Bool) : Render Signal := do
  match names.findSome? setting.templates.get? with
  | none =>
    if ignoreMissing then return .none
    let shown := Text.joinTexts ", " (names.map fun n => "'" ++ n ++ "'")
    halt (.problem (.template (.notFound (.text (Text.joinTexts ", " names))
      (some s!"Template(s) for include not found: {shown}"))))
  | some t => do
    let here ← place
    ofRuntime (here.checkInclude t.name)
    including t (flow.runTemplate setting t)

end

mutual

/-- Executes a statement. -/
def exec (flow : Flow) (setting : Setting) : Node → Render Signal
  | .data _ s | .raw _ s => do
    write s
    return .none
  | .output _ n => do
    print setting (← eval (flow.links setting) setting false n)
    return .none
  | .branch _ condition body others otherwise => do
    if (← eval (flow.links setting) setting true condition).isTruthy then
      execAll flow setting body
    else execFirst flow setting (execAll flow setting otherwise) others
  | .loop _ target iter body empty key condition => do
    let container ← eval (flow.links setting) setting false iter
    let found ← ofRuntime (pairs iter.describe key.isSome container)
    runLoop target key found
      (condition.map fun c => eval (flow.links setting) setting true c)
      (execAll flow setting body) (execAll flow setting empty)
  | .leave _ => request .leave
  | .next _ => request .next
  | .assign _ name n wide => do
    let v ← eval (flow.links setting) setting false n
    if wide then assignWide name v else assign name v
    return .none
  | .block _ name body => flow.runBlock setting name body
  | .super _ => flow.runSuper setting
  | .include _ names ignoreMissing => flow.runInclude setting names ignoreMissing
  | .filterBlock _ name body args named =>
    runFilter (flow.links setting) setting name (execAll flow setting body)
      (evalEach (flow.links setting) setting false args)
      (evalNamed (flow.links setting) setting named)
  | .macroDef .. | .importing .. | .extends .. => done .none
  | n => raise (.general s!"Unknown node type: {n.className}")

/-- Executes statements in their order until one ends with a request. -/
def execAll (flow : Flow) (setting : Setting) : List Node → Render Signal
  | [] => done .none
  | n :: rest => do
    atLine n.pos.line
    let signal ← exec flow setting n
    if signal = .none then execAll flow setting rest else return signal

/-- Executes the body of the first branch whose condition holds, or what stands for none. -/
def execFirst (flow : Flow) (setting : Setting) (otherwise : Render Signal) :
    List (Node × List Node) → Render Signal
  | [] => otherwise
  | (condition, body) :: rest => do
    if (← eval (flow.links setting) setting true condition).isTruthy then
      execAll flow setting body
    else execFirst flow setting otherwise rest

end

/-- What nodes may start, nested at most so deep. -/
def nested : Nat → Setting → Flow
  | 0, _ =>
    { body := fun _ => halt .exhausted
      value := fun _ => halt .exhausted
      render := fun _ => .error .exhausted }
  | depth + 1, s =>
    { body := execAll (nested depth s) s
      value := eval ((nested depth s).links s) s false
      render := named (fun s t => do
        let _ ← (nested depth s).runTemplate s t
        return ()) s.env }

/-- Renders a template. -/
def run (s : Setting) (t : Template) (context : Context) (sink : Sink := .buffer) : Outcome :=
  outcome
    (whole s (do
      let _ ← (nested maxDepth s).runTemplate s t
      return ()))
    (initial s t context sink)

end Flow

end Stencil
