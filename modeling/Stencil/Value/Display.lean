import Stencil.Error
import Stencil.Number.Numeral

/-! What a value shows when it is printed. Null and the undefined marker show nothing, booleans and
    numbers their literals, texts themselves. Containers are not printed unless a capability asks
    for it, which shows lists in brackets and objects by a placeholder. -/

namespace Stencil.Value

/-- The kind of a value, or the error that it has none. -/
def kind (v : Value) : Except RuntimeError Kind :=
  match v.kind? with
  | some k => .ok k
  | none => .error
    { kind := .typeMismatch
      message := s!"Unsupported template value of type '{v.typeName}'"
      values := [("value", v)] }

/-- The text of a value that is not a container. -/
def display (v : Value) : Except Problem String :=
  match v with
  | .null | .undefined => .ok ""
  | .bool b => .ok (if b then "true" else "false")
  | .text s | .markup s => .ok s
  | .int _ | .float _ => if v.isWritable then .ok v.inspect else .error (.fault (.failure .badValue))
  | v =>
    match v.kind with
    | .error e => .error (.ofRuntime e)
    | .ok k => .error (.ofRuntime
      { kind := .typeMismatch
        message := s!"Tried to render {k.withArticle} directly; only scalars can be printed"
        values := [("value", v)]
        suggestion := some "Use a filter such as join or json_encode to print containers" })

mutual

/-- The text of any value, containers included. -/
def stringify : Value → Except Problem String
  | .list xs => do return enclose "[" "]" (← stringifyAll xs)
  | .tuple xs => do return enclose "[" "]" (← stringifyAll xs)
  | .object _ => .ok "[object]"
  | v => v.display

/-- The texts of the values of a list. -/
def stringifyAll : List Value → Except Problem (List String)
  | [] => .ok []
  | x :: xs => do
    let s ← stringify x
    let rest ← stringifyAll xs
    return s :: rest

end

/-- The text of any value as a value, which a text is itself. -/
def asText (v : Value) : Except Problem Value :=
  match v.text? with
  | some _ => .ok v
  | none => do return .text (← v.stringify)

mutual

/-- The template value that stands for host data: tuples become lists, and an object is taken if
    all its keys are texts. -/
def normalize : Value → Except Fault Value
  | .list xs => do return .list (← normalizeAll xs)
  | .tuple xs => do return .list (← normalizeAll xs)
  | .object es => do return .object (← normalizeEntries es)
  | .undefined => .error (.misuse (.notAValue .undefined))
  | .bytes data => .error (.misuse (.notAValue (.bytes data)))
  | v => .ok v

/-- The template values of a list. -/
def normalizeAll : List Value → Except Fault (List Value)
  | [] => .ok []
  | x :: xs => do
    let y ← normalize x
    let rest ← normalizeAll xs
    return y :: rest

/-- The entries of an object with text keys. -/
def normalizeEntries : List (Value × Value) → Except Fault (List (Value × Value))
  | [] => .ok []
  | (k, v) :: rest =>
    match k.text? with
    | none => .error (.ofMisuse (.objectKey k))
    | some _ => do
      let w ← normalize v
      let more ← normalizeEntries rest
      return (k, w) :: more

end

end Stencil.Value
