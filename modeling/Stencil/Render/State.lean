import Stencil.CallStack
import Stencil.Environment
import Stencil.Location
import Stencil.Sink

/-! Computations of a render. A computation changes the state of the render and ends with a result or
    halts; the state it has reached is kept in either case, because what is written stays written.
    Scopes, places and buffers are entered and left in pairs here, and are left whether or not what
    runs inside of them halts. -/

namespace Stencil

/-- What stays the same during a render. -/
structure Setting where
  env : Environment
  templates : Table Template
  escaping : Bool

/-- The state of a render. `targets` are the templates whose block definitions are in effect, the
    innermost include first; `pending` says that a request of a loop waits; the place is unknown
    outside of a render. -/
structure RenderState where
  stack : CallStack
  targets : List Template
  pending : Bool := false
  place : Option Location := none
  sink : Sink := .buffer
  chunks : List Chunk := []

/-- A computation of a render. -/
def Render (α : Type) : Type := RenderState → Except Halt α × RenderState

namespace Render

variable {α β : Type}

/-- Ends with a result. -/
def done (a : α) : Render α := fun s => (.ok a, s)

/-- Goes on with the result of a computation. -/
def andThen (m : Render α) (f : α → Render β) : Render β := fun s =>
  match m s with
  | (.ok a, t) => f a t
  | (.error h, t) => (.error h, t)

instance : Monad Render where
  pure := done
  bind := andThen

/-- Halts. -/
def halt (h : Halt) : Render α := fun s => (.error h, s)

/-- Halts with a runtime error. -/
def raise (e : RuntimeError) : Render α := halt (.runtime e)

/-- The state. -/
def state : Render RenderState := fun s => (.ok s, s)

/-- Changes the state. -/
def change (f : RenderState → RenderState) : Render Unit := fun s => (.ok (), f s)

/-- The result of something that can halt but does not see the state. -/
def ofHalt : Except Halt α → Render α
  | .ok a => done a
  | .error h => halt h

/-- The result of something that can meet a problem. -/
def ofProblem : Except Problem α → Render α
  | .ok a => done a
  | .error p => halt (.problem p)

/-- The result of something that can fail. -/
def ofFailure : Except Failure α → Render α
  | .ok a => done a
  | .error f => halt (.failure f)

/-- The result of something that can meet a fault. -/
def ofFault : Except Fault α → Render α
  | .ok a => done a
  | .error f => halt (.fault f)

/-- The result of something that can meet a runtime error. -/
def ofRuntime : Except RuntimeError α → Render α
  | .ok a => done a
  | .error e => raise e

/-- The result of a numeric operation. -/
def ofNumeric : Except NumberFault α → Render α
  | .ok a => done a
  | .error e => halt (.failure (.ofNumber e))

/-- Runs a computation and changes the state afterwards, whether or not it halts. -/
def ensuring (m : Render α) (after : RenderState → RenderState) : Render α := fun s =>
  let (r, t) := m s
  (r, after t)

/-- Passes a text on to the sink. -/
def write (text : String) : Render Unit := fun s =>
  match s.sink s.chunks text with
  | .ok c => (.ok (), { s with chunks := c :: s.chunks })
  | .error p => (.error (.problem p), s)

/-- The text that a computation writes, which does not reach the sink. -/
def captured (m : Render Unit) : Render String := fun s =>
  let (r, t) := m { s with sink := .buffer, chunks := [] }
  (r.map fun _ => Sink.contents t.chunks, { t with sink := s.sink, chunks := s.chunks })

/-- Runs a computation in a scope of its own. -/
def inScope (f : Frame) (m : Render α) : Render α := fun s =>
  match s.stack.push f with
  | .error e => (.error (.runtime e), s)
  | .ok stack =>
    ensuring m (fun t => { t with stack := (t.stack.pop.map Prod.snd).getD t.stack })
      { s with stack }

/-- The error of code that needs a place and has none. -/
def outside : RuntimeError :=
  { kind := .general
    message := "Template nodes rendered outside of Processor.render()"
    suggestion := some "Call render() to set up the render context" }

/-- The place of the render. -/
def place : Render Location := fun s =>
  match s.place with
  | some l => (.ok l, s)
  | none => (.error (.runtime outside), s)

/-- A halt with its place filled in: runtime errors are located, and a fault of other code becomes
    a runtime error. -/
def located (here : Location) : Halt → Halt
  | .problem (.template (.runtime e)) =>
    .problem (.template (.runtime (e.locate here.template (some here.line) here.trail)))
  | .problem (.fault f) => .runtime
      { RuntimeError.general (f.className ++ ": " ++ f.text) with
        template := here.template
        line := here.knownLine
        trail := here.trail }
  | h => h

/-- Runs a computation as code of a template. -/
def inTemplate (name : String) (m : Render α) : Render α := fun s =>
  match s.place with
  | none => (.error (.runtime outside), s)
  | some outer =>
    let (r, t) := m { s with place := some (outer.enter name) }
    match t.place with
    | none => (r, t)
    | some here => (r.mapError (located here),
        { t with place := some (here.leave (outer.template, outer.line)) })

/-- Notes the line of a node, if it has one and there is a place to note it. -/
def atLine (line : Int) : Render Unit :=
  if line = 0 then done ()
  else change fun s => { s with place := s.place.map fun l => { l with line } }

/-- The error that a lookup found nothing. -/
def undefinedAt (n : Node) : Render α := fun s =>
  let e := RuntimeError.undefinedName n.describe s.stack.visibleNames
  let e := match s.place with
    | some l => { e with template := l.template, line := l.knownLine, trail := l.trail }
    | none => e
  (.error (.runtime e), s)

end Render

/-- A registered template of a name. -/
def Setting.template (setting : Setting) (name : String) : Except TemplateError Template :=
  match setting.templates.get? name with
  | some t => .ok t
  | none => .error (.notFound (.text name) none)

/-- A registered template of a name that may be any value; some values cannot be names. -/
def Setting.templateOf (setting : Setting) (name : Value) : Except Problem Template :=
  match name.text?.bind setting.templates.get? with
  | some t => .ok t
  | none =>
    if name.isKey then .error (.notFound name)
    else .error (.fault (.failure .wrongType))

end Stencil
