import Stencil.Error
import Stencil.Table

/-! Capabilities: the filters, testers and functions that templates call by name. A capability is a
    function of its arguments, which are given by position or by name, and of the service to render
    another template of the same set. An entry of a registry may also be inert, which only shows
    when it is called. -/

namespace Stencil

/-- Why a computation has no result: a problem of its own, or the nesting of calls is too deep to
    go on. -/
inductive Halt where
  | problem (p : Problem)
  | exhausted

namespace Halt

def fault (f : Fault) : Halt := .problem (.fault f)

def failure (f : Failure) : Halt := .problem (.fault (.failure f))

def runtime (e : RuntimeError) : Halt := .problem (.ofRuntime e)

end Halt

/-- A call of a capability: its arguments and the renderer of registered templates. -/
structure Invocation where
  args : List Value := []
  named : List (String × Value) := []
  render : String → Except Halt String := fun _ => .error .exhausted

/-- A parameter; a call may leave it out if it has a default. -/
structure Parameter where
  name : String
  default : Option Value := none
  byName : Bool := true

namespace Invocation

/-- Every argument given by name belongs to a parameter, and to one not given by position. -/
def fits (inv : Invocation) (params : List Parameter) : Bool :=
  decide (inv.args.length ≤ params.length) &&
    inv.named.all fun a =>
      (params.drop inv.args.length).any fun p => p.byName && p.name == a.1

/-- The argument of a parameter that is not given by position. -/
def argument (inv : Invocation) (p : Parameter) : Except Failure Value :=
  match (inv.named.lookup p.name).or p.default with
  | some v => .ok v
  | none => .error .wrongType

/-- The arguments in the order of the parameters, if the call fits them. -/
def arguments (inv : Invocation) (params : List Parameter) : Except Failure (List Value) :=
  if inv.fits params then do
    let rest ← (params.drop inv.args.length).mapM inv.argument
    return inv.args ++ rest
  else .error .wrongType

end Invocation

/-- What a capability computes. -/
abbrev Behaviour := Invocation → Except Halt Value

/-- A named filter, tester or function. Texts that a safe one returns are marked safe. -/
structure Capability where
  name : String
  behaviour : Option Behaviour
  safe : Bool := false

/-- What a host offers for registration: it may have a name of its own, and it may be callable. -/
structure Offer where
  ownName : Option String := none
  behaviour : Option Behaviour

/-- The name to register an offer under: the given one unless that is empty, else its own. -/
def Offer.nameBy (offer : Offer) (given : Option String) : Option String :=
  (given.filter fun n => !n.isEmpty).or offer.ownName

namespace Capability

def isCallable (c : Capability) : Bool := c.behaviour.isSome

/-- The result of a call; an inert capability fails. -/
def call (c : Capability) (inv : Invocation) : Except Halt Value :=
  match c.behaviour with
  | none => .error (.failure .wrongType)
  | some f => f inv

/-- A result whose error is taken for a problem of the computation. -/
def lift : Except Problem α → Except Halt α
  | .ok a => .ok a
  | .error p => .error (.problem p)

/-- The behaviour of a function of the arguments of some parameters. -/
def taking (params : List Parameter) (f : List Value → Except Problem Value) : Behaviour :=
  fun inv =>
    match inv.arguments params with
    | .error e => .error (.failure e)
    | .ok vs => lift (f vs)

/-- The behaviour of a function of one argument. -/
def unary (p : Parameter) (f : Value → Except Problem Value) : Behaviour :=
  taking [p] fun
    | [a] => f a
    | _ => .error (.fault (.failure .wrongType))

/-- The behaviour of a function of two arguments. -/
def binary (p q : Parameter) (f : Value → Value → Except Problem Value) : Behaviour :=
  taking [p, q] fun
    | [a, b] => f a b
    | _ => .error (.fault (.failure .wrongType))

/-- The behaviour of a function of three arguments. -/
def ternary (p q r : Parameter) (f : Value → Value → Value → Except Problem Value) : Behaviour :=
  taking [p, q, r] fun
    | [a, b, c] => f a b c
    | _ => .error (.fault (.failure .wrongType))

/-- The behaviour of a function of a first argument, called `value` if it is given by name, and of
    any others. -/
def variadic (f : Value → List Value → List (String × Value) → Except Problem Value) : Behaviour :=
  fun inv =>
    match inv.args, inv.named.lookup "value" with
    | v :: rest, none => lift (f v rest inv.named)
    | [], some v => lift (f v [] (inv.named.filter fun a => a.1 != "value"))
    | _, _ => .error (.failure .wrongType)

end Capability

/-- The name by which the first argument of most capabilities is known. -/
def Parameter.value : Parameter := { name := "value" }

/-- A parameter with a default. -/
def Parameter.optional (name : String) (default : Value) : Parameter :=
  { name, default := some default }

/-- A parameter that is given by position alone. -/
def Parameter.positional (name : String) : Parameter := { name, byName := false }

/-- Capabilities under their own names. -/
def capabilities (entries : List (String × Behaviour)) (isSafe : String → Bool) : Table Capability :=
  (Table.ofList entries).map fun name f => { name, behaviour := some f, safe := isSafe name }

end Stencil
