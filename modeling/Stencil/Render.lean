import Stencil.Codec
import Stencil.Render.Exec

/-! Renders. A render runs a template from an empty call stack in a fresh place, leaves both when it
    ends, and has the chunks it has written then, whether or not it succeeds. Blocks, includes, macro
    calls and renders started by capabilities nest; what a tree holds is run by recursion on the tree,
    and `calls` bounds the nesting of what is not below it. -/

namespace Stencil

namespace Render

/-- The state outside of a render of a template. -/
def initial (setting : Setting) (t : Template) (context : Context) (sink : Sink) : RenderState :=
  { stack := { context, limit := setting.env.macroLimit }, targets := [t], sink }

/-- Runs a computation in a fresh place; in the end the place is left and the call stack cleared. -/
def whole (setting : Setting) (m : Render Unit) : Render Unit := fun s =>
  ensuring m
    (fun u => { u with stack := u.stack.clear, place := none })
    { s with place := some { limit := setting.env.includeLimit } }

/-- The setting of a render of a template among the registered ones. -/
def setting (env : Environment) (t : Template) : Setting :=
  { env, templates := env.templates, escaping := env.shouldAutoescape t }

/-- The text that a registered template renders to, without data, if it is started so. -/
def named (start : Setting → Template → Render Unit) (env : Environment) (name : String) :
    Except Halt String :=
  match env.getTemplate name with
  | .error e => .error (.problem (.template e))
  | .ok t =>
    let s := setting env t
    let (r, final) := whole s (start s t) (initial s t {} .buffer)
    r.map fun _ => Sink.contents final.chunks

/-- What nodes may start, nested at most so deep. -/
def calls : Nat → Setting → Calls
  | 0, _ =>
    { body := fun _ => halt .exhausted
      value := fun _ => halt .exhausted
      render := fun _ => .error .exhausted }
  | depth + 1, s =>
    { body := execAll (linked (calls depth s) s) s
      value := eval (linked (calls depth s) s) s false
      render := named (fun s => runTemplate (calls depth s) s) s.env }

/-- The deepest nesting of calls. -/
def maxDepth : Nat := 4000

/-- How a render ended, with the state it left. -/
structure Outcome where
  result : Except Problem Unit
  final : RenderState

/-- The problem of a halt; nesting too deep is a failure. -/
def problemOf : Halt → Problem
  | .problem p => p
  | .exhausted => .fault (.failure .tooDeep)

/-- The outcome of a computation in a state. -/
def outcome (m : Render Unit) (s : RenderState) : Outcome :=
  let (r, final) := m s
  { result := r.mapError problemOf, final }

/-- The chunks written, in their order. -/
def Outcome.chunks (o : Outcome) : List Chunk := o.final.chunks.reverse

/-- The text written, if the render succeeded. -/
def Outcome.text (o : Outcome) : Except Problem String :=
  o.result.map fun _ => Sink.contents o.final.chunks

/-- Renders a template. -/
def run (s : Setting) (t : Template) (context : Context) (sink : Sink := .buffer) : Outcome :=
  outcome (whole s (runTemplate (calls maxDepth s) s t)) (initial s t context sink)

/-- Runs a body outside of a render: there is neither a scope nor a place. -/
def runBody (s : Setting) (t : Template) (context : Context) (body : List Node) : Outcome :=
  outcome ((calls maxDepth s).body body) (initial s t context .buffer)

end Render

namespace Environment

/-- Renders a registered template to a text. -/
def render (env : Environment) (t : Template) (context : Context) : Except Problem String :=
  (Render.run (Render.setting env t) t context).text

/-- Renders a registered template chunk by chunk to a sink that may refuse chunks, as texts or in
    an encoding. -/
def renderTo (env : Environment) (t : Template) (context : Context) (encoding : Option String)
    (refuses : List Chunk → Option Fault) : Except Problem Unit × List Chunk :=
  let s := Render.setting env t
  match encoding with
  | none =>
    let o := Render.run s t context (.guarded refuses)
    (o.result, o.chunks)
  | some name =>
    match Codec.ofName? name with
    | .error f => (.error (.fault (.failure f)), [])
    | .ok none => (.error (.template (.runtime (Codec.unknown name t.name))), [])
    | .ok (some codec) =>
      let o := Render.run s t context (.encoded name codec refuses)
      (o.result, o.chunks)

/-- Renders a template of a set that the registered one is a part of. -/
def renderOneOff (env : Environment) (t : Template) (templates : Table Template)
    (context : Context) : Except Problem String :=
  (Render.run { env, templates, escaping := env.shouldAutoescape t } t context).text

/-- A fresh environment for one tree, whose output is escaped or not. -/
def forOneOff (host : Host) (autoescape : Bool) : Environment :=
  Environment.withBuiltins { suffixes := if autoescape then [oneOffName] else [] } host

end Environment

end Stencil
