import Stencil.Error
import Stencil.Text.Search
import Stencil.Value.Equality

/-! The operators of expressions on values. Arithmetic takes numbers alone and never booleans; order
    comparison takes two numbers or two texts; membership looks for a part of a text, an item of an
    array or a key of an object. -/

namespace Stencil.Operator

/-- A problem with a runtime error. -/
def refuse (e : RuntimeError) : Except Problem α := .error (.ofRuntime e)

/-- A refusal of values of a wrong type. -/
def mismatch (message construct : String) (values : List (String × Value))
    (suggestion : Option String := none) : Except Problem α :=
  refuse { kind := .typeMismatch, message, construct := some construct, values, suggestion }

/-- The number that an operand of arithmetic has to be. -/
def operand (op : String) (v : Value) : Except Problem Number :=
  match v.number? with
  | some n => .ok n
  | none => mismatch s!"Tried to apply '{op}' to a value that is not a number" "math"
      [("operand", v)] (some "Use '~' to concatenate strings")

/-- The result of a numeric operation. -/
def numeric : Except NumberFault Number → Except Problem Value
  | .ok n => .ok (.ofNumber n)
  | .error e => .error (.fault (.failure (.ofNumber e)))

/-- The operators that divide. -/
def divides (op : String) : Bool := ["/", "//", "%"].contains op

/-- The value of an arithmetic operation. -/
def arithmetic (op : String) (a b : Number) : Except Problem Value :=
  if divides op && b.isZero then
    refuse { RuntimeError.general "Tried to divide by zero" with
      construct := some "math"
      values := [("left", .ofNumber a), ("right", .ofNumber b)] }
  else
    match op with
    | "+" => numeric (a.add b)
    | "-" => numeric (a.sub b)
    | "*" => numeric (a.mul b)
    | "/" => numeric (a.div b)
    | "//" => numeric (a.floorDiv b)
    | "%" => numeric (a.mod b)
    | _ => refuse { RuntimeError.general s!"Unknown arithmetic operator '{op}'" with
        construct := some "math" }

/-- A value is in a container. -/
def within (left right : Value) : Except Problem Bool :=
  match right with
  | .text s | .markup s =>
    match left.text? with
    | some part => .ok (Text.contains s part)
    | none => mismatch "Tried to check if a non-string is in a string" "in"
        [("left", left), ("right", right)]
  | .list xs | .tuple xs => .ok (xs.any left.equals)
  | .object es => .ok ((left.text?.map (Value.hasField es)).getD false)
  | _ => mismatch "The right side of 'in' must be a string, an array or an object" "in"
      [("right", right)]

/-- A relation from its cases `<` and `=` and that of the swapped operands. -/
def orderBy (op : String) (lt gt eq : Bool) : Except Problem Bool :=
  match op with
  | "<" => .ok lt
  | "<=" => .ok (lt || eq)
  | ">" => .ok gt
  | ">=" => .ok (gt || eq)
  | _ => refuse { RuntimeError.general s!"Unknown comparison operator '{op}'" with
      construct := some "compare" }

/-- Order of two numbers or two texts. -/
def ordered (op : String) (left right : Value) : Except Problem Bool :=
  match left.number?, right.number? with
  | some a, some b => orderBy op (a.lt b) (b.lt a) (a.eq b)
  | _, _ =>
    match left.text?, right.text? with
    | some s, some t => orderBy op (decide (s < t)) (decide (t < s)) (s == t)
    | _, _ => mismatch
        s!"Tried to compare values of different or unordered kinds with '{op}'" "compare"
        [("left", left), ("right", right)]

/-- Whether a comparison holds. -/
def compare (op : String) (left right : Value) : Except Problem Bool :=
  match op with
  | "==" => .ok (left.equals right)
  | "!=" => .ok !(left.equals right)
  | "in" => within left right
  | "not in" => do return !(← within left right)
  | op => ordered op left right

end Stencil.Operator
