import Stencil.Capability
import Stencil.Moment

/-! The built-in functions. What they ask the host for, its variables and the time, is a value that
    is handed in, so that a render is a function of it. -/

namespace Stencil

/-- What templates can learn about the host. -/
structure Host where
  variableOf : String → Option String := fun _ => none
  now : Moment := default

namespace Function

open Capability Parameter

/-- A refusal. -/
def refuse (m : Misuse) : Except Problem α := .error (.fault (.ofMisuse m))

/-- The natural number that an argument has to be. -/
def count (argument : String) (v : Value) : Except Problem Nat :=
  match v.number? with
  | none => refuse (.notACount "range" argument v)
  | some n =>
    if n.lt (.int 0) then refuse (.notACount "range" argument v)
    else
      match n.trunc with
      | .error e => .error (.fault (.failure (.ofNumber e)))
      | .ok k => if n.eq (.int k) then .ok k.toNat else refuse (.notACount "range" argument v)

/-- The most items that a list can count. -/
def maxSize : Nat := (1 <<< 63) - 1

/-- A list of more items finds no room. -/
def maxRoom : Nat := 1 <<< 33

/-- The integers from `start` up to and without `stop` in steps. -/
def range (stop start step : Value) : Except Problem Value := do
  let last ← count "end" stop
  let first ← count "start" start
  let stride ← count "step_by" step
  if last < first then refuse (.emptyRange first last)
  if stride = 0 then refuse .zeroStep
  let size := (last - first + stride - 1) / stride
  if maxSize < size then .error (.fault (.failure .overflow))
  if maxRoom < size then .error (.fault (.failure .outOfMemory))
  return .list ((List.range' first size stride).map fun (n : Nat) => .int n)

/-- The time as a text, or as seconds. -/
def now (host : Host) (timestamp utc : Value) : Except Problem Value :=
  let moment := if utc.isSet then { host.now with offset := 0 } else host.now
  if timestamp.isSet then .ok (.int moment.seconds) else .ok (.text moment.isoText)

/-- A variable of the host, or a default if it is not set. -/
def getEnv (host : Host) (name default : Value) : Except Problem Value :=
  match name.text? with
  | none => refuse (.variableName name)
  | some s =>
    match host.variableOf s with
    | some found => .ok (.text found)
    | none => if default.isUndefined then refuse (.variableUnset s) else .ok default

/-- Ends the render with a message. -/
def throw (message : Value) : Except Problem Value :=
  match message.text? with
  | none => refuse (.messageType message)
  | some s => refuse (.thrown s)

/-- The built-in functions with the parameters they take. -/
def behaviours (host : Host) : List (String × Behaviour) :=
  [("range",
     ternary { name := "end" } (optional "start" (.int 0)) (optional "step_by" (.int 1)) range),
   ("now", binary (optional "timestamp" (.bool false)) (optional "utc" (.bool false)) (now host)),
   ("get_env", binary { name := "name" } (optional "default" .undefined) (getEnv host)),
   ("throw", unary { name := "message" } throw)]

/-- The built-in functions. -/
def all (host : Host) : Table Capability := capabilities (behaviours host) fun _ => false

end Function

end Stencil
