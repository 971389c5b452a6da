import Stencil.Capability
import Stencil.Value.Display
import Stencil.Value.Path

/-! What filters demand of the values they are given. Each demand names the filter, and where it is
    not the operand also the argument, in the refusal of a value of another type. -/

namespace Stencil.Filter

/-- A refusal. -/
def refuse (m : Misuse) : Except Problem α := .error (.fault (.ofMisuse m))

/-- A failure of an operation below. -/
def fail (f : Failure) : Except Problem α := .error (.fault (.failure f))

/-- The text that a filter expects. -/
def expectText (filter : String) (v : Value) : Except Problem String :=
  match v.text? with
  | some s => .ok s
  | none => refuse (.expectedText filter v)

/-- The number that a filter expects for an argument. -/
def expectNumber (filter : String) (v : Value) (argument : String) : Except Problem Number :=
  match v.number? with
  | some n => .ok n
  | none => refuse (.expectedNumber filter argument v)

/-- The items that a filter expects. -/
def expectItems (filter : String) (v : Value) : Except Problem (List Value) :=
  match v.items? with
  | some xs => .ok xs
  | none => refuse (.expectedArray filter v)

/-- The result of a numeric operation. -/
def numeric : Except NumberFault α → Except Problem α
  | .ok a => .ok a
  | .error e => fail (.ofNumber e)

/-- The integer part of the number that a filter expects for an argument. -/
def expectInteger (filter : String) (v : Value) (argument : String) : Except Problem Int := do
  numeric (← expectNumber filter v argument).trunc

/-- The value at a path given as an argument. -/
def lookAt (v path : Value) : Except Problem Value :=
  match v.resolveBy path with
  | .ok found => .ok found
  | .error f => fail f

/-- The text of any value as a part of other text; an integer may be too long to convert. -/
def plainText (v : Value) : Except Problem String :=
  if v.isWritable then .ok v.plain else fail .badValue

/-- A separator, in which a backslash before `n` or `t` stands for a line feed or a tab. -/
def separator (s : String) : String :=
  Text.replace "\\t" "\t" (Text.replace "\\n" "\n" s)

/-- Arguments given by position or by name for parameters that only have names. Names that no
    parameter has and arguments given twice are refused. -/
def namedArguments (names : List String) (args : List Value) (named : List (String × Value)) :
    Except Problem (List (String × Value)) :=
  if names.length < args.length then refuse (.tooManyArguments names.length args.length)
  else go (names.zip args) named
where
  /-- Adds arguments given by name to those known. -/
  go (known : List (String × Value)) :
      List (String × Value) → Except Problem (List (String × Value))
    | [] => .ok known
    | (name, v) :: rest =>
      if !names.contains name then refuse (.unexpectedArgument name)
      else if (known.lookup name).isSome then refuse (.repeatedArgument name)
      else go (known ++ [(name, v)]) rest

end Stencil.Filter
